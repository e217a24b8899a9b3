import AnswerCache.Binary64.Notation
import AnswerCache.Dictionary

namespace AnswerCache

inductive Json.Number
  | whole (n : Int)
  | double (x : Binary64.Finite)
  deriving DecidableEq

inductive Json
  | null
  | bool (b : Bool)
  | number (n : Json.Number)
  | string (s : String)
  | array (items : List Json)
  | object (fields : List (String × Json))

namespace Json

instance : Inhabited Json := ⟨null⟩

namespace Number

def InRange : Number → Prop
  | whole n => Int64.minValue.toInt ≤ n ∧ n < UInt64.size
  | double _ => True

def same : Number → Number → Bool
  | whole m, whole n => m == n
  | double x, double y => x.sameValue y
  | _, _ => false

def toBinary64 : Number → Binary64
  | whole n => .ofInt n
  | double x => .finite x

def written : Number → List Char
  | whole n => Text.signed n
  | double x => x.written

end Number

mutual

def WellFormed : Json → Prop
  | number n => n.InRange
  | array items => WellFormed.All items
  | object fields => Increasing fields ∧ WellFormed.Fields fields
  | _ => True

def WellFormed.All : List Json → Prop
  | [] => True
  | item :: rest => item.WellFormed ∧ WellFormed.All rest

def WellFormed.Fields : List (String × Json) → Prop
  | [] => True
  | (_, value) :: rest => value.WellFormed ∧ WellFormed.Fields rest

end

mutual

def same : Json → Json → Bool
  | null, null => true
  | bool a, bool b => a == b
  | number m, number n => m.same n
  | string s, string t => s == t
  | array xs, array ys => sameItems xs ys
  | object xs, object ys => sameFields xs ys
  | _, _ => false

def sameItems : List Json → List Json → Bool
  | [], [] => true
  | x :: xs, y :: ys => same x y && sameItems xs ys
  | _, _ => false

def sameFields : List (String × Json) → List (String × Json) → Bool
  | [], [] => true
  | (k, x) :: xs, (l, y) :: ys => k == l && same x y && sameFields xs ys
  | _, _ => false

end

def nat (n : Nat) : Json :=
  number (.whole n)

def text (cs : List Char) : Json :=
  string (String.ofList cs)

def optional {α : Type} (encode : α → Json) : Option α → Json
  | none => null
  | some a => encode a

def ofFields (fields : List (String × Json)) : Json :=
  object (Dictionary.ofList fields).entries

def field? (key : String) : Json → Option Json
  | object fields => fields.lookup key
  | _ => none

end Json

end AnswerCache
