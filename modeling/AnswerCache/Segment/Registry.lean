import AnswerCache.Dictionary
import AnswerCache.Interval.Cover
import AnswerCache.Segment.Basic

/-!
The registry of loaded segments: for every tracked data source its segments by identifier.
-/

namespace AnswerCache

structure Registry where
  sources : Dictionary (Dictionary Segment)

namespace Registry

def empty : Registry := ⟨.empty⟩

def segmentsOf (r : Registry) (dataSource : String) : Dictionary Segment :=
  (r.sources.find? dataSource).getD .empty

def track (r : Registry) (dataSource : String) : Registry :=
  ⟨r.sources.insert dataSource (r.segmentsOf dataSource)⟩

def load (r : Registry) (s : Segment) : Registry :=
  ⟨r.sources.insert s.dataSource ((r.segmentsOf s.dataSource).insert s.identifier s)⟩

def holds (r : Registry) (s : Segment) : Bool :=
  (r.segmentsOf s.dataSource).contains s.identifier

def dropSegment (r : Registry) (s : Segment) : Registry :=
  match r.sources.find? s.dataSource with
  | some segments => ⟨r.sources.insert s.dataSource (segments.erase s.identifier)⟩
  | none => r

def isTracked (r : Registry) (dataSource : String) : Bool :=
  r.sources.contains dataSource

def dropDataSource (r : Registry) (dataSource : String) : Registry :=
  ⟨r.sources.erase dataSource⟩

def removeSegment (r : Registry) (s : Segment) : Bool × Registry :=
  let found := (r.sources.find? s.dataSource).map fun segments => segments.contains s.identifier
  (found.getD false, r.dropSegment s)

def removeDataSource (r : Registry) (dataSource : String) : Bool × Registry :=
  ((r.sources.find? dataSource).isSome, r.dropDataSource dataSource)

def apply (r : Registry) : SegmentEvent → Registry
  | .tracked dataSource => r.track dataSource
  | .loaded segment => r.load segment
  | .dropped segment => r.dropSegment segment
  | .dataSourceDropped dataSource => r.dropDataSource dataSource

def applyAll (r : Registry) (events : List SegmentEvent) : Registry :=
  events.foldl apply r

def dataSources (r : Registry) : List String :=
  r.sources.keys

def segmentCount (r : Registry) : Nat :=
  r.sources.values.foldr (fun segments count => segments.size + count) 0

def intersecting? (r : Registry) (dataSource : String) (intervals : List Interval) :
    Option (List Segment) :=
  (r.sources.find? dataSource).map fun segments =>
    segments.values.filter fun s => intervals.any fun i => i.intersects s.interval

def coverage? (r : Registry) (dataSource : String) (intervals : List Interval) :
    Option (List Interval) :=
  (r.intersecting? dataSource intervals).map fun segments =>
    Interval.simplify (segments.map Segment.interval)

def missing (r : Registry) (dataSource : String) (intervals : List Interval) : List Interval :=
  let covered := (r.coverage? dataSource intervals).getD []
  Interval.simplify (intervals.flatMap fun i => i.subtract covered)

end Registry

end AnswerCache
