import AnswerCache.Execution.Response
import AnswerCache.Segment.Signature

namespace AnswerCache.Registry

def scanned (r : Registry) (q : Query) : List String :=
  sortTexts (q.dataSource.tableNames.flatMap fun table => (r.identifiers? q table).getD [])

def payload (r : Registry) (q : Query) : Json :=
  let segments := r.scanned q
  .array [.object [("rows", .nat segments.length),
    ("segments", .array (segments.map .string))]]

def missingFor (r : Registry) (q : Query) : List Interval :=
  Interval.simplify (q.dataSource.tableNames.flatMap fun table => r.missing table q.intervals)

def partFrom (t : Instant) (i : Interval) : Option Interval :=
  if t < i.stop then Interval.of? (max i.start t) i.stop else none

def volatileFor (volatileFrom : Option Instant) (q : Query) : List Interval :=
  match volatileFrom with
  | none => []
  | some t => Interval.simplify (q.intervals.filterMap (partFrom t))

def answer (r : Registry) (volatileFrom : Option Instant) (q : Query) : BackendAnswer :=
  ⟨r.payload q, r.missingFor q, volatileFor volatileFrom q⟩

def backend (r : Registry) (volatileFrom : Option Instant) : Backend :=
  ⟨"scenario", fun q => .ok (r.answer volatileFrom q)⟩

end AnswerCache.Registry
