import AnswerCache.Interval.Text

namespace AnswerCache

structure Segment where
  dataSource : String
  interval : Interval
  version : String
  partition : UInt32
  sizeBytes : UInt64
  deriving DecidableEq

inductive SegmentEvent
  | tracked (dataSource : String)
  | loaded (segment : Segment)
  | dropped (segment : Segment)
  | dataSourceDropped (dataSource : String)
  deriving DecidableEq

namespace Segment

def new (dataSource : String) (interval : Interval) (version : String) : Segment :=
  ⟨dataSource, interval, version, 0, 0⟩

def withPartition (s : Segment) (partition : UInt32) : Segment :=
  { s with partition := partition }

def measured (s : String) : List Char :=
  Text.decimal s.utf8ByteSize ++ ':' :: s.toList

def identifier (s : Segment) : String :=
  String.ofList (measured s.dataSource ++ '_' :: s.interval.start.identifying ++
    '_' :: s.interval.stop.identifying ++ '_' :: measured s.version ++
    '_' :: Text.decimal s.partition.toNat)

def identity (s : Segment) : String × Interval × String × UInt32 :=
  (s.dataSource, s.interval, s.version, s.partition)

end Segment

end AnswerCache
