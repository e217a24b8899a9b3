import AnswerCache.Json.Basic
import AnswerCache.Json.Fault

/-!
What a decoder reads: a JSON text taken apart in its own order, or a tree taken field by field.

A text is taken in as far as it can be. Where it stops being JSON, the item, key or value at that
place is a fault and the containers around it end there, so a decoder that goes through a source in
order meets the first fault of the text first. A value that is JSON but may not be read (nested too
deeply, a number out of range, half a surrogate pair) is a fault too, and does no harm where it is
skipped.
-/

namespace AnswerCache.Json

inductive Opening
  | nothing
  | text
  | object
  | other
  deriving DecidableEq

inductive Source
  | null
  | bool (b : Bool)
  | number (n : Number)
  | string (s : String)
  | array (items : List Source)
  | object (members : List (Except Fault String × Source))
  | unreadable (opening : Opening) (fault : Fault)

abbrev Member := Except Fault String × Source

namespace Source

instance : Inhabited Source := ⟨null⟩

mutual

def ofJson : Json → Source
  | .null => null
  | .bool b => bool b
  | .number n => number n
  | .string s => string s
  | .array items => array (ofItems items)
  | .object fields => object (ofFields fields)

def ofItems : List Json → List Source
  | [] => []
  | item :: rest => ofJson item :: ofItems rest

def ofFields : List (String × Json) → List Member
  | [] => []
  | (key, value) :: rest => (.ok key, ofJson value) :: ofFields rest

end

mutual

def toTree : Source → Except Fault Json
  | null => .ok .null
  | bool b => .ok (.bool b)
  | number n => .ok (.number n)
  | string s => .ok (.string s)
  | array items => do return .array (← toItems items)
  | object members => do return .object (← toFields [] members)
  | unreadable _ fault => .error fault

def toItems : List Source → Except Fault (List Json)
  | [] => .ok []
  | item :: rest => do
    let item ← toTree item
    return item :: (← toItems rest)

def toFields (fields : List (String × Json)) :
    List Member → Except Fault (List (String × Json))
  | [] => .ok fields
  | (key, value) :: rest => do
    let key ← key
    let value ← toTree value
    toFields (insertEntry key value fields) rest

end

end Source

structure Document where
  root : Source
  ending : Option Fault

def Document.toTree (d : Document) : Except Fault Json := do
  let tree ← d.root.toTree
  match d.ending with
  | none => return tree
  | some fault => .error fault

end AnswerCache.Json
