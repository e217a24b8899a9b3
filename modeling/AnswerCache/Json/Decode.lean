import AnswerCache.Json.Reader
import AnswerCache.Text.Hidden

/-!
Decoding a source into a value of a given shape. The first fault in the order of the source is
reported; fields that are missing come after all that are there.
-/

namespace AnswerCache

open Json

inductive Found
  | null
  | bool (b : Bool)
  | number (n : Json.Number)
  | string (s : String)
  | sequence
  | map

inductive DecodeError
  | notJson (fault : Json.Fault)
  | missingField (name : String)
  | duplicateField (name : String)
  | unknownVariant (found : String) (expected : List String)
  | invalidType (found : Found) (expected : String)
  | invalidValue (found : Found) (expected : String)
  | invalidLength (length : Nat) (expected : String)
  | refused (reason : String)

abbrev Decoded (α : Type) := Except DecodeError α

def inBackticks (s : String) : String :=
  String.ofList ('\x60' :: s.toList ++ ['\x60'])

def Found.message : Found → String
  | null => "null"
  | bool b => "boolean " ++ inBackticks (String.ofList (boolText b))
  | number (.whole n) => "integer " ++ inBackticks (String.ofList (Text.signed n))
  | number (.double x) => "floating point " ++ inBackticks (String.ofList x.written)
  | string s => "string " ++ String.ofList (Text.visible s)
  | sequence => "sequence"
  | map => "map"
where
  boolText (b : Bool) : List Char := if b then "true".toList else "false".toList

def variantList : List String → String
  | [] => "there are no variants"
  | [a] => "expected " ++ inBackticks a
  | [a, b] => "expected " ++ inBackticks a ++ " or " ++ inBackticks b
  | names => "expected one of " ++ ", ".intercalate (names.map inBackticks)

def DecodeError.message : DecodeError → String
  | notJson fault => fault.message
  | missingField name => "missing field " ++ inBackticks name
  | duplicateField name => "duplicate field " ++ inBackticks name
  | unknownVariant found expected =>
    "unknown variant " ++ inBackticks found ++ ", " ++ variantList expected
  | invalidType found expected =>
    "invalid type: " ++ found.message ++ ", expected " ++ expected
  | invalidValue found expected =>
    "invalid value: " ++ found.message ++ ", expected " ++ expected
  | invalidLength length expected =>
    "invalid length " ++ String.ofList (Text.decimal length) ++ ", expected " ++ expected
  | refused reason => reason

namespace Json

namespace Source

def mismatch {α : Type} (expected : String) : Source → Decoded α
  | null => .error (.invalidType .null expected)
  | bool b => .error (.invalidType (.bool b) expected)
  | number n => .error (.invalidType (.number n) expected)
  | string s => .error (.invalidType (.string s) expected)
  | array _ => .error (.invalidType .sequence expected)
  | object _ => .error (.invalidType .map expected)
  | unreadable _ fault => .error (.notJson fault)

def toBool : Source → Decoded Bool
  | bool b => .ok b
  | s => s.mismatch "a boolean"

def toText : Source → Decoded String
  | string s => .ok s
  | s => s.mismatch "a string"

def toNatBelow (bound : Nat) (name : String) : Source → Decoded Nat
  | number (.whole n) =>
    if 0 ≤ n ∧ n < bound then .ok n.toNat else .error (.invalidValue (.number (.whole n)) name)
  | s => s.mismatch name

def toUInt64 (s : Source) : Decoded UInt64 :=
  return UInt64.ofNat (← s.toNatBelow UInt64.size "u64")

def toSize (s : Source) : Decoded UInt64 :=
  return UInt64.ofNat (← s.toNatBelow UInt64.size "usize")

def toUInt32 (s : Source) : Decoded UInt32 :=
  return UInt32.ofNat (← s.toNatBelow UInt32.size "u32")

def toBinary64 : Source → Decoded Binary64
  | number n => .ok n.toBinary64
  | s => s.mismatch "f64"

def toJson (s : Source) : Decoded Json :=
  match s.toTree with
  | .ok j => .ok j
  | .error fault => .error (.notJson fault)

def toOption {α : Type} (decode : Source → Decoded α) : Source → Decoded (Option α)
  | null => .ok none
  | s => return some (← decode s)

def toList {α : Type} (decode : Source → Decoded α) : Source → Decoded (List α)
  | array items => items.mapM decode
  | s => s.mismatch "a sequence"

def toDictionaryFrom (d : Dictionary Json) : List Member → Decoded (Dictionary Json)
  | [] => .ok d
  | (.error fault, _) :: _ => .error (.notJson fault)
  | (.ok key, value) :: rest => do toDictionaryFrom (d.insert key (← value.toJson)) rest

def toDictionary : Source → Decoded (Dictionary Json)
  | object members => toDictionaryFrom .empty members
  | s => s.mismatch "a map"

end Source

/-- Where a source comes from decides what may stand for a variant: only in a text is the kind of
value fixed before it is read, and only inside a tagged object may a number pick a variant. -/
inductive Origin
  | tree
  | text
  | tagged
  deriving DecidableEq

def foldMembers {σ : Type} (step : σ → String → Source → Decoded σ) :
    σ → List Member → Decoded σ
  | s, [] => .ok s
  | _, (.error fault, _) :: _ => .error (.notJson fault)
  | s, (.ok key, value) :: rest => do foldMembers step (← step s key value) rest

def elementCount (n : Nat) : String :=
  if n = 1 then "1 element" else String.ofList (Text.decimal n) ++ " elements"

/-- The fields of a value in their order, each with whether it has a default. A value may be given
by an object, or by the list of its fields, from the end of which those with a default may be
missing. -/
structure Shape where
  name : String
  fields : List (String × Bool)

namespace Shape

def tooShort {α : Type} (shape : Shape) (length : Nat) : Decoded α :=
  .error (.invalidLength length (shape.name ++ " with " ++ elementCount shape.fields.length))

end Shape

def surplusFault : Source → Fault
  | .unreadable .nothing .endInList => .endInList
  | .unreadable .nothing .trailingComma => .trailingComma
  | _ => .trailingText

def expectEnd (origin : Origin) (count : Nat) : List Source → Decoded Unit
  | [] => .ok ()
  | first :: rest =>
    let length := count + (first :: rest).length
    match origin with
    | .text => .error (.notJson (surplusFault first))
    | .tree => .error (.invalidLength length "fewer elements in array")
    | .tagged => .error (.invalidLength length (elementCount count ++ " in sequence"))

def foldItems {σ : Type} (origin : Origin) (shape : Shape) (step : σ → String → Source → Decoded σ)
    (s : σ) : List (String × Bool) → List Source → Decoded σ
  | [], items => do
    expectEnd origin shape.fields.length items
    return s
  | (name, _) :: fields, item :: items => do
    foldItems origin shape step (← step s name item) fields items
  | (_, true) :: fields, [] => foldItems origin shape step s fields []
  | (_, false) :: fields, [] => shape.tooShort (shape.fields.length - (fields.length + 1))

def decodeFields {σ : Type} (origin : Origin) (shape : Shape) (start : σ)
    (step : σ → String → Source → Decoded σ) : Source → Decoded σ
  | .object members => foldMembers step start members
  | .array items => foldItems origin shape step start shape.fields items
  | s => s.mismatch shape.name

def readOnce {α : Type} (name : String) (seen : Option α) (decode : Decoded α) :
    Decoded (Option α) :=
  match seen with
  | some _ => .error (.duplicateField name)
  | none => return some (← decode)

def required {α : Type} (name : String) : Option α → Decoded α
  | some a => .ok a
  | none => .error (.missingField name)

def findVariant {α : Type} (variants : List (String × α)) (name : String) : Decoded α :=
  match variants.lookup name with
  | some a => .ok a
  | none => .error (.unknownVariant name (variants.map Prod.fst))

def expectNull (origin : Origin) : Source → Decoded Unit
  | .null => .ok ()
  | .object [] => if origin = .tagged then .ok () else (Source.object []).mismatch "unit"
  | s => s.mismatch "unit"

def singleKey {α : Type} : Decoded α :=
  .error (.invalidValue .map "map with a single key")

def variantFault (opening : Opening) (fault : Fault) : Fault :=
  if opening = .other then .expectedValue else fault

def afterVariant : Member → Fault
  | (.error .endInObject, _) => .endInObject
  | _ => .expectedValue

def decodeVariantKey {α : Type} (origin : Origin) (variants : List (String × α)) (key : String)
    (value : Source) : Decoded α := do
  let a ← findVariant variants key
  expectNull origin value
  return a

def decodeVariant {α : Type} (origin : Origin) (variants : List (String × α)) :
    Source → Decoded α
  | .string s => findVariant variants s
  | .object members =>
    match members with
    | [(.ok key, value)] => decodeVariantKey origin variants key value
    | (.ok key, value) :: next :: _ =>
      if origin = .text then do
        let _ ← decodeVariantKey origin variants key value
        .error (.notJson (afterVariant next))
      else singleKey
    | [] => if origin = .text then .error (.notJson .expectedValue) else singleKey
    | (.error fault, _) :: _ => .error (.notJson fault)
  | .unreadable opening fault => .error (.notJson (variantFault opening fault))
  | s => if origin = .text then .error (.notJson .expectedValue) else s.mismatch "string or map"

def decodeTag {α : Type} (origin : Origin) (variants : List (String × α)) :
    Source → Decoded α
  | .string s => findVariant variants s
  | .number (.whole n) =>
    if origin = .tagged ∧ 0 ≤ n then
      match (variants.map Prod.snd)[n.toNat]? with
      | some a => .ok a
      | none =>
        .error (.invalidValue (.number (.whole n))
          ("variant index 0 <= i < " ++ String.ofList (Text.decimal variants.length)))
    else (Source.number (.whole n)).mismatch "variant identifier"
  | s => s.mismatch "variant identifier"

def findTag {α : Type} (origin : Origin) (tag : String) (variants : List (String × α)) :
    Option α → List Member → Decoded α
  | seen, [] => required tag seen
  | _, (.error fault, _) :: _ => .error (.notJson fault)
  | seen, (.ok key, value) :: rest =>
    if key = tag then do
      findTag origin tag variants (← readOnce tag seen (decodeTag origin variants value)) rest
    else do
      let _ ← value.toJson
      findTag origin tag variants seen rest

def expectReadable : List Source → Decoded Unit
  | [] => .ok ()
  | item :: rest => do
    let _ ← item.toJson
    expectReadable rest

def firstTag {α : Type} (origin : Origin) (variants : List (String × α)) (first : Source)
    (rest : List Source) : Decoded α := do
  let a ← decodeTag origin variants first
  expectReadable rest
  return a

def decodeTagged {α : Type} (origin : Origin) (name tag : String) (variants : List (String × α)) :
    Source → Decoded (α × Source)
  | .object members => return (← findTag origin tag variants none members, .object members)
  | .array [] => .error (.missingField tag)
  | .array (first :: rest) => return (← firstTag origin variants first rest, .array rest)
  | s => s.mismatch ("internally tagged enum " ++ name)

def decodeOnly {α : Type} (variant name : String) (read : Source → Decoded α) (s : Source) :
    Decoded α := do
  let step : Option α → String → Source → Decoded (Option α) := fun a key value =>
    if key = name then readOnce name a (read value) else return a
  required name (← decodeFields .tagged ⟨variant, [(name, false)]⟩ none step s)

def decodePair {α β : Type} (variant first : String) (readFirst : Source → Decoded α)
    (second : String) (readSecond : Source → Decoded β) (s : Source) : Decoded (α × β) := do
  let step : Option α × Option β → String → Source → Decoded (Option α × Option β) :=
    fun (a, b) key value =>
      if key = first then return (← readOnce first a (readFirst value), b)
      else if key = second then return (a, ← readOnce second b (readSecond value))
      else return (a, b)
  let shape : Shape := ⟨variant, [(first, false), (second, false)]⟩
  let (a, b) ← decodeFields .tagged shape (none, none) step s
  return (← required first a, ← required second b)

def Document.decode {α : Type} (decode : Origin → Source → Decoded α) (d : Document) :
    Decoded α := do
  let a ← decode .text d.root
  match d.ending with
  | none => return a
  | some fault => .error (.notJson fault)

def decodeText {α : Type} (decode : Origin → Source → Decoded α) (text : String) : Decoded α :=
  (Document.ofText maxLevels text).decode decode

def decodeTree {α : Type} (decode : Origin → Source → Decoded α) (j : Json) : Decoded α :=
  decode .tree (.ofJson j)

end Json

end AnswerCache
