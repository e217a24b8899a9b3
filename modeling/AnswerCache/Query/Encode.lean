import AnswerCache.Interval.Text
import AnswerCache.Query.Names

namespace AnswerCache

inductive EncodeError
  | infinite (negative : Bool)
  | notANumber
  deriving DecidableEq

def EncodeError.message : EncodeError → String
  | infinite negative =>
    "non-finite float " ++ (if negative then "-inf" else "inf") ++ " cannot be serialized"
  | notANumber => "non-finite float NaN cannot be serialized"

open Json (string array object)

def Binary64.toJson : Binary64 → Except EncodeError Json
  | .finite x => .ok (.number (.double x))
  | .infinite negative => .error (.infinite negative)
  | .nan => .error .notANumber

def Interval.toJson (i : Interval) : Json :=
  string i.written

def optionalField {α : Type} (key : String) (encode : α → Json) :
    Option α → List (String × Json)
  | none => []
  | some a => [(key, encode a)]

def DataSource.toJson : DataSource → Json
  | table name => object [("name", string name), ("type", string Tag.table.name)]
  | union names =>
    object [("names", array (names.map string)), ("type", string Tag.union.name)]

def Aggregation.toJson (a : Aggregation) : Json :=
  object (optionalField "fieldName" string a.fieldName ++
    [("name", string a.name), ("type", string a.type.name)])

mutual

def PostAggregation.toJson : PostAggregation → Except EncodeError Json
  | .arithmetic name function fields => do
    let fields ← PostAggregation.listToJson fields
    return object [("fields", array fields), ("fn", string function.name), ("name", string name),
      ("type", string Tag.arithmetic.name)]
  | .fieldAccess name fieldName =>
    return object [("fieldName", string fieldName), ("name", string name),
      ("type", string Tag.fieldAccess.name)]
  | .constant name value => do
    let value ← value.toJson
    return object [("name", string name), ("type", string Tag.constant.name), ("value", value)]

def PostAggregation.listToJson : List PostAggregation → Except EncodeError (List Json)
  | [] => return []
  | p :: ps => do
    let p ← p.toJson
    return p :: (← PostAggregation.listToJson ps)

end

mutual

def Filter.toJson : Filter → Json
  | .selector dimension value =>
    object [("dimension", string dimension), ("type", string Tag.selector.name),
      ("value", string value)]
  | .among dimension values =>
    object [("dimension", string dimension), ("type", string Tag.among.name),
      ("values", array (values.map string))]
  | .bound dimension lower upper =>
    object (("dimension", string dimension) :: optionalField "lower" string lower ++
      ("type", string Tag.bound.name) :: optionalField "upper" string upper)
  | .and fields =>
    object [("fields", array (Filter.listToJson fields)), ("type", string Tag.and.name)]
  | .or fields =>
    object [("fields", array (Filter.listToJson fields)), ("type", string Tag.or.name)]
  | .not field => object [("field", field.toJson), ("type", string Tag.not.name)]

def Filter.listToJson : List Filter → List Json
  | [] => []
  | f :: fs => f.toJson :: Filter.listToJson fs

end

def Context.toJson (c : Context) : Json :=
  object c.entries

def jsonOfUInt64 (n : UInt64) : Json :=
  .nat n.toNat

def Query.toJson (q : Query) : Except EncodeError Json := do
  let postAggregations ← PostAggregation.listToJson q.postAggregations
  return object
    ([("aggregations", array (q.aggregations.map Aggregation.toJson)),
      ("context", Context.toJson q.context), ("dataSource", q.dataSource.toJson),
      ("dimensions", array (q.dimensions.map string))] ++
    optionalField "filter" Filter.toJson q.filter ++
    [("granularity", string q.granularity.name),
      ("intervals", array (q.intervals.map Interval.toJson))] ++
    optionalField "limit" jsonOfUInt64 q.limit ++
    [("postAggregations", array postAggregations), ("queryType", string q.queryType.name)])

end AnswerCache
