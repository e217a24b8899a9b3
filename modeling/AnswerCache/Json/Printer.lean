import AnswerCache.Json.Basic

namespace AnswerCache.Json

def hexDigit (n : Nat) : Char :=
  Nat.digitChar (n % 16)

def escapeChar (c : Char) : List Char :=
  if c = '"' then ['\\', '"']
  else if c = '\\' then ['\\', '\\']
  else if c = '\x08' then ['\\', 'b']
  else if c = '\x0c' then ['\\', 'f']
  else if c = '\n' then ['\\', 'n']
  else if c = '\r' then ['\\', 'r']
  else if c = '\t' then ['\\', 't']
  else if c.toNat < 0x20 then ['\\', 'u', '0', '0', hexDigit (c.toNat / 16), hexDigit c.toNat]
  else [c]

def quoted (s : String) : List Char :=
  '"' :: s.toList.flatMap escapeChar ++ ['"']

def openBrace : Char := '\x7b'

def closeBrace : Char := '\x7d'

def boolText (b : Bool) : List Char :=
  if b then "true".toList else "false".toList

def keyText (key : String) : List Char :=
  quoted key ++ [':']

mutual

def compact : Json → List Char
  | null => "null".toList
  | bool b => boolText b
  | number n => n.written
  | string s => quoted s
  | array items => '[' :: compactItems items ++ [']']
  | object fields => openBrace :: compactFields fields ++ [closeBrace]

def compactItems : List Json → List Char
  | [] => []
  | item :: rest => compact item ++ compactMoreItems rest

def compactMoreItems : List Json → List Char
  | [] => []
  | item :: rest => ',' :: compact item ++ compactMoreItems rest

def compactFields : List (String × Json) → List Char
  | [] => []
  | (key, value) :: rest => keyText key ++ compact value ++ compactMoreFields rest

def compactMoreFields : List (String × Json) → List Char
  | [] => []
  | (key, value) :: rest => ',' :: keyText key ++ compact value ++ compactMoreFields rest

end

def compactText (j : Json) : String :=
  String.ofList j.compact

def lineBreak (level : Nat) : List Char :=
  '\n' :: List.replicate (2 * level) ' '

mutual

def pretty (level : Nat) : Json → List Char
  | array [] => ['[', ']']
  | array items => '[' :: prettyItems (level + 1) items ++ lineBreak level ++ [']']
  | object [] => [openBrace, closeBrace]
  | object fields =>
    openBrace :: prettyFields (level + 1) fields ++ lineBreak level ++ [closeBrace]
  | j => compact j

def prettyItems (level : Nat) : List Json → List Char
  | [] => []
  | item :: rest => lineBreak level ++ pretty level item ++ prettyMoreItems level rest

def prettyMoreItems (level : Nat) : List Json → List Char
  | [] => []
  | item :: rest => ',' :: lineBreak level ++ pretty level item ++ prettyMoreItems level rest

def prettyFields (level : Nat) : List (String × Json) → List Char
  | [] => []
  | (key, value) :: rest =>
    lineBreak level ++ keyText key ++ ' ' :: pretty level value ++ prettyMoreFields level rest

def prettyMoreFields (level : Nat) : List (String × Json) → List Char
  | [] => []
  | (key, value) :: rest =>
    ',' :: lineBreak level ++ keyText key ++ ' ' :: pretty level value ++
      prettyMoreFields level rest

end

def prettyText (j : Json) : String :=
  String.ofList (j.pretty 0)

end AnswerCache.Json
