import AnswerCache.Interval.Text
import AnswerCache.Query.Basic

namespace AnswerCache

inductive Query.Defect
  | noIntervals
  | noTables
  | duplicateAggregation (name : String)
  | other (reason : String)
  deriving DecidableEq

def Query.Defect.message : Defect → String
  | noIntervals => "query must cover at least one interval"
  | noTables => "data source names no tables"
  | duplicateAggregation name => "duplicate aggregation name '" ++ name ++ "'"
  | other reason => reason

inductive QueryError
  | invalidQuery (defect : Query.Defect)
  | invalidInterval (error : IntervalError)
  | backendTimeout (ms : Nat)
  deriving DecidableEq

def QueryError.message : QueryError → String
  | invalidQuery defect => "Invalid query: " ++ defect.message
  | invalidInterval error => error.message
  | backendTimeout ms => "Backend timeout after " ++ String.ofList (Text.decimal ms) ++ "ms"

def firstRepeated (seen : List String) : List String → Option String
  | [] => none
  | name :: rest => if name ∈ seen then some name else firstRepeated (name :: seen) rest

def Query.defect? (q : Query) : Option Query.Defect :=
  if q.intervals.isEmpty then some .noIntervals
  else if q.dataSource.tableNames.isEmpty then some .noTables
  else (firstRepeated [] (q.aggregations.map Aggregation.name)).map .duplicateAggregation

def Query.validate (q : Query) : Except QueryError Unit :=
  match q.defect? with
  | none => .ok ()
  | some defect => .error (.invalidQuery defect)

def Query.blank (queryType : QueryType) (dataSource : DataSource) : Query :=
  { queryType, dataSource
    dimensions := []
    aggregations := []
    postAggregations := []
    filter := none
    granularity := .all
    intervals := []
    limit := none
    context := .empty }

inductive Query.Part
  | dimension (name : String)
  | aggregation (a : Aggregation)
  | postAggregation (p : PostAggregation)
  | filter (f : Filter)
  | granularity (g : Granularity)
  | interval (i : Interval)
  | limit (n : UInt64)
  | context (key : String) (value : Json)

def Query.add (q : Query) : Query.Part → Query
  | .dimension name => { q with dimensions := q.dimensions ++ [name] }
  | .aggregation a => { q with aggregations := q.aggregations ++ [a] }
  | .postAggregation p => { q with postAggregations := q.postAggregations ++ [p] }
  | .filter f => { q with filter := some f }
  | .granularity g => { q with granularity := g }
  | .interval i => { q with intervals := q.intervals ++ [i] }
  | .limit n => { q with limit := some n }
  | .context key value => q.withContext (q.context.insert key value)

def Query.build (queryType : QueryType) (dataSource : DataSource) (parts : List Query.Part) :
    Except QueryError Query := do
  let q := parts.foldl Query.add (.blank queryType dataSource)
  q.validate
  return q

end AnswerCache
