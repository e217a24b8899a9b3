import AnswerCache.Interval.Text
import AnswerCache.Json.Decode
import AnswerCache.Query.Names

namespace AnswerCache

open Json

def Interval.decode (s : Source) : Decoded Interval := do
  match Interval.parse (← s.toText) with
  | .ok i => return i
  | .error e => .error (.refused e.message)

def DataSource.decode (origin : Origin) (s : Source) : Decoded DataSource := do
  match ← decodeTagged origin "DataSource" "type" Tag.variants s with
  | (.table, s) =>
    return table (← decodeOnly "struct variant DataSource::Table" "name" Source.toText s)
  | (.union, s) =>
    let read := Source.toList Source.toText
    return union (← decodeOnly "struct variant DataSource::Union" "names" read s)

structure Aggregation.Partial where
  type : Option AggregationType := none
  name : Option String := none
  fieldName : Option (Option String) := none

def Aggregation.Partial.read (origin : Origin) (p : Partial) (key : String) (value : Source) :
    Decoded Partial :=
  match key with
  | "type" =>
    return { p with
      type := ← readOnce key p.type (decodeVariant origin AggregationType.variants value) }
  | "name" => return { p with name := ← readOnce key p.name value.toText }
  | "fieldName" =>
    return { p with fieldName := ← readOnce key p.fieldName (value.toOption Source.toText) }
  | _ => return p

def Aggregation.shape : Shape :=
  ⟨"struct Aggregation", [("type", false), ("name", false), ("fieldName", true)]⟩

def Aggregation.decode (origin : Origin) (s : Source) : Decoded Aggregation := do
  let p ← decodeFields origin shape {} (Partial.read origin) s
  return ⟨← required "type" p.type, ← required "name" p.name, p.fieldName.join⟩

structure Filter.Bounds where
  dimension : Option String := none
  lower : Option (Option String) := none
  upper : Option (Option String) := none

def Filter.Bounds.read (b : Bounds) (key : String) (value : Source) : Decoded Bounds :=
  match key with
  | "dimension" => return { b with dimension := ← readOnce key b.dimension value.toText }
  | "lower" => return { b with lower := ← readOnce key b.lower (value.toOption Source.toText) }
  | "upper" => return { b with upper := ← readOnce key b.upper (value.toOption Source.toText) }
  | _ => return b

def Filter.decodeSelector (s : Source) : Decoded Filter := do
  let (dimension, value) ←
    decodePair "struct variant Filter::Selector" "dimension" Source.toText "value" Source.toText s
  return selector dimension value

def Filter.decodeAmong (s : Source) : Decoded Filter := do
  let (dimension, values) ←
    decodePair "struct variant Filter::In" "dimension" Source.toText "values"
      (Source.toList Source.toText) s
  return among dimension values

def Filter.Bounds.shape : Shape :=
  ⟨"struct variant Filter::Bound", [("dimension", false), ("lower", true), ("upper", true)]⟩

def Filter.decodeBound (s : Source) : Decoded Filter := do
  let b ← Json.decodeFields .tagged Bounds.shape {} Bounds.read s
  return bound (← required "dimension" b.dimension) b.lower.join b.upper.join

mutual

def Filter.decode (origin : Origin) : Source → Decoded Filter
  | .object members => do
    match ← findTag origin "type" Filter.Tag.variants none members with
    | .selector => Filter.decodeSelector (.object members)
    | .among => Filter.decodeAmong (.object members)
    | .bound => Filter.decodeBound (.object members)
    | .and => return .and (← Filter.decodeFields none members)
    | .or => return .or (← Filter.decodeFields none members)
    | .not => return .not (← Filter.decodeField none members)
  | .array [] => .error (.missingField "type")
  | .array (first :: rest) => do
    match ← firstTag origin Filter.Tag.variants first rest with
    | .selector => Filter.decodeSelector (.array rest)
    | .among => Filter.decodeAmong (.array rest)
    | .bound => Filter.decodeBound (.array rest)
    | .and => return .and (← Filter.decodeOnlyFields "struct variant Filter::And" rest)
    | .or => return .or (← Filter.decodeOnlyFields "struct variant Filter::Or" rest)
    | .not => return .not (← Filter.decodeOnlyField rest)
  | s => s.mismatch "internally tagged enum Filter"

def Filter.decodeOnlyFields (variant : String) : List Source → Decoded (List Filter)
  | [] => Shape.tooShort ⟨variant, [("fields", false)]⟩ 0
  | first :: rest => do
    let fields ← Filter.decodeItems first
    expectEnd .tagged 1 rest
    return fields

def Filter.decodeOnlyField : List Source → Decoded Filter
  | [] => Shape.tooShort ⟨"struct variant Filter::Not", [("field", false)]⟩ 0
  | first :: rest => do
    let field ← Filter.decode .tagged first
    expectEnd .tagged 1 rest
    return field

def Filter.decodeFields (seen : Option (List Filter)) : List Member → Decoded (List Filter)
  | [] => required "fields" seen
  | (key, value) :: rest =>
    match key with
    | .error fault => .error (.notJson fault)
    | .ok key =>
      if key = "fields" then
        match seen with
        | some _ => .error (.duplicateField key)
        | none => do Filter.decodeFields (some (← Filter.decodeItems value)) rest
      else Filter.decodeFields seen rest

def Filter.decodeField (seen : Option Filter) : List Member → Decoded Filter
  | [] => required "field" seen
  | (key, value) :: rest =>
    match key with
    | .error fault => .error (.notJson fault)
    | .ok key =>
      if key = "field" then
        match seen with
        | some _ => .error (.duplicateField key)
        | none => do Filter.decodeField (some (← Filter.decode .tagged value)) rest
      else Filter.decodeField seen rest

def Filter.decodeItems : Source → Decoded (List Filter)
  | .array items => Filter.decodeList items
  | s => s.mismatch "a sequence"

def Filter.decodeList : List Source → Decoded (List Filter)
  | [] => return []
  | item :: rest => do
    let f ← Filter.decode .tagged item
    return f :: (← Filter.decodeList rest)

end

def PostAggregation.decodeFieldAccess (s : Source) : Decoded PostAggregation := do
  let (name, fieldName) ←
    decodePair "struct variant PostAggregation::FieldAccess" "name" Source.toText "fieldName"
      Source.toText s
  return fieldAccess name fieldName

def PostAggregation.decodeConstant (s : Source) : Decoded PostAggregation := do
  let (name, value) ←
    decodePair "struct variant PostAggregation::Constant" "name" Source.toText "value"
      Source.toBinary64 s
  return constant name value

def PostAggregation.arithmeticShape : Shape :=
  ⟨"struct variant PostAggregation::Arithmetic", [("name", false), ("fn", false), ("fields", false)]⟩

mutual

def PostAggregation.decode (origin : Origin) : Source → Decoded PostAggregation
  | .object members => do
    match ← findTag origin "type" PostAggregation.Tag.variants none members with
    | .arithmetic => PostAggregation.decodeArithmetic none none none members
    | .fieldAccess => PostAggregation.decodeFieldAccess (.object members)
    | .constant => PostAggregation.decodeConstant (.object members)
  | .array [] => .error (.missingField "type")
  | .array (first :: rest) => do
    match ← firstTag origin PostAggregation.Tag.variants first rest with
    | .arithmetic => PostAggregation.decodeArithmeticItems rest
    | .fieldAccess => PostAggregation.decodeFieldAccess (.array rest)
    | .constant => PostAggregation.decodeConstant (.array rest)
  | s => s.mismatch "internally tagged enum PostAggregation"

def PostAggregation.decodeArithmeticItems : List Source → Decoded PostAggregation
  | [] => PostAggregation.arithmeticShape.tooShort 0
  | [name] => do
    let _ ← name.toText
    PostAggregation.arithmeticShape.tooShort 1
  | [name, function] => do
    let _ ← name.toText
    let _ ← decodeVariant .tagged ArithmeticFn.variants function
    PostAggregation.arithmeticShape.tooShort 2
  | name :: function :: fields :: rest => do
    let name ← name.toText
    let function ← decodeVariant .tagged ArithmeticFn.variants function
    let fields ← PostAggregation.decodeItems fields
    expectEnd .tagged 3 rest
    return .arithmetic name function fields

def PostAggregation.decodeArithmetic (name : Option String) (function : Option ArithmeticFn)
    (fields : Option (List PostAggregation)) : List Member → Decoded PostAggregation
  | [] => do
    let name ← required "name" name
    let function ← required "fn" function
    return .arithmetic name function (← required "fields" fields)
  | (key, value) :: rest =>
    match key with
    | .error fault => .error (.notJson fault)
    | .ok key =>
      if key = "name" then do
        PostAggregation.decodeArithmetic (← readOnce key name value.toText) function fields rest
      else if key = "fn" then do
        let read ← readOnce key function (decodeVariant .tagged ArithmeticFn.variants value)
        PostAggregation.decodeArithmetic name read fields rest
      else if key = "fields" then
        match fields with
        | some _ => .error (.duplicateField key)
        | none => do
          let read ← PostAggregation.decodeItems value
          PostAggregation.decodeArithmetic name function (some read) rest
      else PostAggregation.decodeArithmetic name function fields rest

def PostAggregation.decodeItems : Source → Decoded (List PostAggregation)
  | .array items => PostAggregation.decodeList items
  | s => s.mismatch "a sequence"

def PostAggregation.decodeList : List Source → Decoded (List PostAggregation)
  | [] => return []
  | item :: rest => do
    let p ← PostAggregation.decode .tagged item
    return p :: (← PostAggregation.decodeList rest)

end

structure Query.Partial where
  queryType : Option QueryType := none
  dataSource : Option DataSource := none
  dimensions : Option (List String) := none
  aggregations : Option (List Aggregation) := none
  postAggregations : Option (List PostAggregation) := none
  filter : Option (Option Filter) := none
  granularity : Option Granularity := none
  intervals : Option (List Interval) := none
  limit : Option (Option UInt64) := none
  context : Option Context := none

def Query.Partial.read (origin : Origin) (p : Partial) (key : String) (value : Source) :
    Decoded Partial :=
  match key with
  | "queryType" =>
    return { p with
      queryType := ← readOnce key p.queryType (decodeVariant origin QueryType.variants value) }
  | "dataSource" =>
    return { p with dataSource := ← readOnce key p.dataSource (DataSource.decode origin value) }
  | "dimensions" =>
    return { p with dimensions := ← readOnce key p.dimensions (value.toList Source.toText) }
  | "aggregations" =>
    return { p with
      aggregations := ← readOnce key p.aggregations (value.toList (Aggregation.decode origin)) }
  | "postAggregations" =>
    return { p with
      postAggregations := ←
        readOnce key p.postAggregations (value.toList (PostAggregation.decode origin)) }
  | "filter" =>
    return { p with filter := ← readOnce key p.filter (value.toOption (Filter.decode origin)) }
  | "granularity" =>
    return { p with
      granularity := ←
        readOnce key p.granularity (decodeVariant origin Granularity.variants value) }
  | "intervals" =>
    return { p with intervals := ← readOnce key p.intervals (value.toList Interval.decode) }
  | "limit" =>
    return { p with limit := ← readOnce key p.limit (value.toOption Source.toUInt64) }
  | "context" => return { p with context := ← readOnce key p.context value.toDictionary }
  | _ => return p

def Query.shape : Shape where
  name := "struct AggregationQuery"
  fields :=
    [("queryType", false), ("dataSource", false), ("dimensions", true), ("aggregations", false),
      ("postAggregations", true), ("filter", true), ("granularity", false), ("intervals", false),
      ("limit", true), ("context", true)]

def Query.decode (origin : Origin) (s : Source) : Decoded Query := do
  let p ← Json.decodeFields origin shape {} (Partial.read origin) s
  return {
    queryType := ← required "queryType" p.queryType
    dataSource := ← required "dataSource" p.dataSource
    dimensions := p.dimensions.getD []
    aggregations := ← required "aggregations" p.aggregations
    postAggregations := p.postAggregations.getD []
    filter := p.filter.join
    granularity := ← required "granularity" p.granularity
    intervals := ← required "intervals" p.intervals
    limit := p.limit.join
    context := p.context.getD .empty }

end AnswerCache
