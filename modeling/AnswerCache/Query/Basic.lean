import AnswerCache.Interval.Basic
import AnswerCache.Json.Basic

namespace AnswerCache

inductive QueryType
  | groupBy
  | timeseries
  | topN
  deriving DecidableEq

inductive DataSource
  | table (name : String)
  | union (names : List String)
  deriving DecidableEq

inductive Granularity
  | all
  | hour
  | day
  | week
  | month
  | year
  deriving DecidableEq

inductive AggregationType
  | count
  | longSum
  | doubleSum
  | longMin
  | longMax
  | doubleMin
  | doubleMax
  | longLast
  | cardinality
  deriving DecidableEq

structure Aggregation where
  type : AggregationType
  name : String
  fieldName : Option String
  deriving DecidableEq

inductive ArithmeticFn
  | plus
  | minus
  | multiply
  | divide
  deriving DecidableEq

inductive PostAggregation
  | arithmetic (name : String) (function : ArithmeticFn) (fields : List PostAggregation)
  | fieldAccess (name fieldName : String)
  | constant (name : String) (value : Binary64)

inductive Filter
  | selector (dimension value : String)
  | among (dimension : String) (values : List String)
  | bound (dimension : String) (lower upper : Option String)
  | and (fields : List Filter)
  | or (fields : List Filter)
  | not (field : Filter)

abbrev Context := Dictionary Json

structure Query where
  queryType : QueryType
  dataSource : DataSource
  dimensions : List String
  aggregations : List Aggregation
  postAggregations : List PostAggregation
  filter : Option Filter
  granularity : Granularity
  intervals : List Interval
  limit : Option UInt64
  context : Context

def DataSource.tableNames : DataSource → List String
  | table name => [name]
  | union names => names

mutual

def PostAggregation.same : PostAggregation → PostAggregation → Bool
  | .arithmetic m f xs, .arithmetic n g ys => m == n && f == g && PostAggregation.sameList xs ys
  | .fieldAccess m f, .fieldAccess n g => m == n && f == g
  | .constant m x, .constant n y => m == n && x.sameValue y
  | _, _ => false

def PostAggregation.sameList : List PostAggregation → List PostAggregation → Bool
  | [], [] => true
  | x :: xs, y :: ys => x.same y && PostAggregation.sameList xs ys
  | _, _ => false

end

mutual

def Filter.same : Filter → Filter → Bool
  | .selector d v, .selector e w => d == e && v == w
  | .among d vs, .among e ws => d == e && vs == ws
  | .bound d l u, .bound e m v => d == e && l == m && u == v
  | .and xs, .and ys => Filter.sameList xs ys
  | .or xs, .or ys => Filter.sameList xs ys
  | .not x, .not y => x.same y
  | _, _ => false

def Filter.sameList : List Filter → List Filter → Bool
  | [], [] => true
  | x :: xs, y :: ys => x.same y && Filter.sameList xs ys
  | _, _ => false

end

def Filter.negated (f : Filter) : Nat → Filter
  | 0 => f
  | count + 1 => .not (f.negated count)

def Context.same (c d : Context) : Bool :=
  Json.sameFields c.entries d.entries

namespace Query

def withContext (q : Query) (context : Context) : Query :=
  { q with context := context }

def sameFilter : Option Filter → Option Filter → Bool
  | none, none => true
  | some f, some g => f.same g
  | _, _ => false

def same (q r : Query) : Bool :=
  q.queryType == r.queryType && q.dataSource == r.dataSource && q.dimensions == r.dimensions &&
    q.aggregations == r.aggregations &&
    PostAggregation.sameList q.postAggregations r.postAggregations &&
    sameFilter q.filter r.filter && q.granularity == r.granularity &&
    q.intervals == r.intervals && q.limit == r.limit && Context.same q.context r.context

def idKey : String := "queryId"

def queryId (q : Query) : Option String :=
  match q.context.find? idKey with
  | some (.string s) => some s
  | _ => none

def ensureId (q : Query) (fresh : String) : Query :=
  match q.queryId with
  | some _ => q
  | none => q.withContext (q.context.insert idKey (.string fresh))

end Query

end AnswerCache
