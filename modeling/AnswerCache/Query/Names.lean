import AnswerCache.Query.Basic

namespace AnswerCache

def QueryType.name : QueryType → String
  | groupBy => "groupBy"
  | timeseries => "timeseries"
  | topN => "topN"

def Granularity.name : Granularity → String
  | all => "all"
  | hour => "hour"
  | day => "day"
  | week => "week"
  | month => "month"
  | year => "year"

def AggregationType.name : AggregationType → String
  | count => "count"
  | longSum => "longSum"
  | doubleSum => "doubleSum"
  | longMin => "longMin"
  | longMax => "longMax"
  | doubleMin => "doubleMin"
  | doubleMax => "doubleMax"
  | longLast => "longLast"
  | cardinality => "cardinality"

def ArithmeticFn.name : ArithmeticFn → String
  | plus => "+"
  | minus => "-"
  | multiply => "*"
  | divide => "/"

def named {α : Type} (name : α → String) (items : List α) : List (String × α) :=
  items.map fun a => (name a, a)

def QueryType.variants : List (String × QueryType) :=
  named name [groupBy, timeseries, topN]

def Granularity.variants : List (String × Granularity) :=
  named name [all, hour, day, week, month, year]

def AggregationType.variants : List (String × AggregationType) :=
  named name
    [count, longSum, doubleSum, longMin, longMax, doubleMin, doubleMax, longLast, cardinality]

def ArithmeticFn.variants : List (String × ArithmeticFn) :=
  named name [plus, minus, multiply, divide]

inductive DataSource.Tag
  | table
  | union
  deriving DecidableEq

def DataSource.Tag.name : Tag → String
  | table => "table"
  | union => "union"

def DataSource.Tag.variants : List (String × Tag) :=
  named name [table, union]

inductive PostAggregation.Tag
  | arithmetic
  | fieldAccess
  | constant
  deriving DecidableEq

def PostAggregation.Tag.name : Tag → String
  | arithmetic => "arithmetic"
  | fieldAccess => "fieldAccess"
  | constant => "constant"

def PostAggregation.Tag.variants : List (String × Tag) :=
  named name [arithmetic, fieldAccess, constant]

inductive Filter.Tag
  | selector
  | among
  | bound
  | and
  | or
  | not
  deriving DecidableEq

def Filter.Tag.name : Tag → String
  | selector => "selector"
  | among => "in"
  | bound => "bound"
  | and => "and"
  | or => "or"
  | not => "not"

def Filter.Tag.variants : List (String × Tag) :=
  named name [selector, among, bound, and, or, not]

end AnswerCache
