import AnswerCache.CacheKey
import AnswerCache.Json.Printer
import AnswerCache.Query.Encode

/-!
The canonical text of a JSON tree: without blanks, with omitted fields emptied, and with one
spelling for every whole number.
-/

namespace AnswerCache

inductive KeyError
  | encoding (error : EncodeError)
  | tooDeep (levels : Nat)
  deriving DecidableEq

def KeyError.reason : KeyError → String
  | encoding error => error.message
  | tooDeep levels => "query nesting exceeds " ++ String.ofList (Text.decimal levels) ++ " levels"

def KeyError.message (e : KeyError) : String :=
  "Serialization error: " ++ e.reason

structure Canonicalizer where
  omitted : Dictionary Unit
  maxDepth : Nat

namespace Canonicalizer

def contextField : String := "context"

def standard : Canonicalizer :=
  ⟨Dictionary.empty.insert contextField (), 128⟩

def omitting (c : Canonicalizer) (field : String) : Canonicalizer :=
  { c with omitted := c.omitted.insert field () }

def withMaxDepth (c : Canonicalizer) (levels : Nat) : Canonicalizer :=
  { c with maxDepth := levels }

def isExactWhole (x : Binary64.Finite) : Bool :=
  x.isWhole && x.steps < Nat.pow 2 53 * Binary64.stepsPerUnit

def writeNumber : Json.Number → List Char
  | .whole n => Text.signed n
  | .double x => if isExactWhole x then Text.signed x.toInt else x.written

def emptied : List Char :=
  [Json.openBrace, Json.closeBrace]

mutual

def write (c : Canonicalizer) (depth : Nat) (j : Json) : Except KeyError (List Char) :=
  if c.maxDepth < depth then .error (.tooDeep c.maxDepth)
  else
    match j with
    | .null => .ok "null".toList
    | .bool b => .ok (Json.boolText b)
    | .number n => .ok (writeNumber n)
    | .string s => .ok (Json.quoted s)
    | .array items => do return '[' :: (← c.writeItems (depth + 1) items) ++ [']']
    | .object fields => do
      return Json.openBrace :: (← c.writeFields (depth + 1) fields) ++ [Json.closeBrace]

def writeItems (c : Canonicalizer) (depth : Nat) : List Json → Except KeyError (List Char)
  | [] => .ok []
  | item :: rest => do
    let first ← c.write depth item
    return first ++ (← c.writeMoreItems depth rest)

def writeMoreItems (c : Canonicalizer) (depth : Nat) : List Json → Except KeyError (List Char)
  | [] => .ok []
  | item :: rest => do
    let first ← c.write depth item
    return ',' :: first ++ (← c.writeMoreItems depth rest)

def writeFields (c : Canonicalizer) (depth : Nat) :
    List (String × Json) → Except KeyError (List Char)
  | [] => .ok []
  | (key, value) :: rest => do
    let first ← if c.omitted.contains key then .ok emptied else c.write depth value
    return Json.keyText key ++ first ++ (← c.writeMoreFields depth rest)

def writeMoreFields (c : Canonicalizer) (depth : Nat) :
    List (String × Json) → Except KeyError (List Char)
  | [] => .ok []
  | (key, value) :: rest => do
    let first ← if c.omitted.contains key then .ok emptied else c.write depth value
    return ',' :: Json.keyText key ++ first ++ (← c.writeMoreFields depth rest)

end

def keyOfTree (c : Canonicalizer) (j : Json) : Except KeyError CacheKey := do
  return ⟨String.ofList (← c.write 0 j)⟩

def keyOf (c : Canonicalizer) (q : Query) : Except KeyError CacheKey :=
  match q.toJson with
  | .ok j => c.keyOfTree j
  | .error e => .error (.encoding e)

end Canonicalizer

end AnswerCache
