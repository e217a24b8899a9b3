import AnswerCache.Json.Numeral
import AnswerCache.Json.Source

namespace AnswerCache.Json

def isSpace (c : Char) : Bool :=
  c == ' ' || c == '\n' || c == '\t' || c == '\r'

def skipSpaces (cs : List Char) : List Char :=
  cs.dropWhile isSpace

namespace Reader

def hexValue? (c : Char) : Option Nat :=
  if '0' ≤ c ∧ c ≤ '9' then some (c.toNat - '0'.toNat)
  else if 'a' ≤ c ∧ c ≤ 'f' then some (c.toNat - 'a'.toNat + 10)
  else if 'A' ≤ c ∧ c ≤ 'F' then some (c.toNat - 'A'.toNat + 10)
  else none

def codeUnit? (a b c d : Char) : Option Nat := do
  return ((← hexValue? a) * 4096 + (← hexValue? b) * 256 + (← hexValue? c) * 16 + (← hexValue? d))

def isHighSurrogate (n : Nat) : Bool :=
  0xD800 ≤ n && n ≤ 0xDBFF

def isLowSurrogate (n : Nat) : Bool :=
  0xDC00 ≤ n && n ≤ 0xDFFF

def surrogatePair (high low : Nat) : Char :=
  Char.ofNat (0x10000 + (high - 0xD800) * 0x400 + (low - 0xDC00))

def simpleEscape? : Char → Option Char
  | '"' => some '"'
  | '\\' => some '\\'
  | '/' => some '/'
  | 'b' => some '\x08'
  | 'f' => some '\x0c'
  | 'n' => some '\n'
  | 'r' => some '\r'
  | 't' => some '\t'
  | _ => none

abbrev Read (α : Type) := α × Except Fault (List Char)

abbrev StringRead := Read (Except Fault (List Char))

namespace StringRead

def cons (c : Char) (r : StringRead) : StringRead :=
  (r.1.map (c :: ·), r.2)

def lose (fault : Fault) (r : StringRead) : StringRead :=
  (.error fault, r.2)

def broken (fault : Fault) : StringRead :=
  (.error fault, .error fault)

def settle (waiting : Option Nat) (r : StringRead) : StringRead :=
  if waiting.isSome then r.lose .brokenPair else r

end StringRead

def shortEscape (rest : List Char) : Fault :=
  if rest.foldr (fun c bytes => c.utf8Size + bytes) 0 < 4 then .endInString else .badEscape

def stringBody (waiting : Option Nat) : List Char → StringRead
  | [] => .broken .endInString
  | '"' :: rest => .settle waiting (.ok [], .ok rest)
  | ['\\'] => .broken .endInString
  | '\\' :: 'u' :: a :: b :: c :: d :: rest =>
    match codeUnit? a b c d with
    | none => .broken .badEscape
    | some unit =>
      if isLowSurrogate unit then
        match waiting with
        | some high => .cons (surrogatePair high unit) (stringBody none rest)
        | none => .lose .loneSurrogate (stringBody none rest)
      else
        let read :=
          if isHighSurrogate unit then stringBody (some unit) rest
          else .cons (Char.ofNat unit) (stringBody none rest)
        if waiting.isSome then read.lose .loneSurrogate else read
  | '\\' :: 'u' :: rest => .broken (shortEscape rest)
  | '\\' :: c :: rest =>
    match simpleEscape? c with
    | none => .settle waiting (.broken .badEscape)
    | some c => .settle waiting (.cons c (stringBody none rest))
  | c :: rest =>
    if c.toNat < 0x20 then .settle waiting (.broken .controlCharacter)
    else .settle waiting (.cons c (stringBody none rest))

def broken (opening : Opening) (fault : Fault) : Read Source :=
  (.unreadable opening fault, .error fault)

def word (value : Source) : List Char → List Char → Read Source
  | [], rest => (value, .ok rest)
  | _ :: _, [] => broken .other .endInValue
  | c :: cs, d :: rest => if c = d then word value cs rest else broken .other .expectedWord

def number (cs : List Char) : Read Source :=
  match Numeral.span cs with
  | .error .endOfText => (.unreadable .other .endInValue, .error .badNumber)
  | .error .misplaced => broken .other .badNumber
  | .ok (numeral, rest) =>
    match numeral.number? with
    | none => (.unreadable .other .numberOutOfRange, .ok rest)
    | some n => (.number n, .ok rest)

def string (cs : List Char) : Read Source :=
  match stringBody none cs with
  | (.error fault, rest) => (.unreadable .text fault, rest)
  | (.ok s, rest) => (.string (String.ofList s), rest)

def container (levels : Nat) : Source → Source
  | .object members => if levels = 0 then .unreadable .object .tooDeep else .object members
  | s => if levels = 0 then .unreadable .other .tooDeep else s

def missing (fault : Fault) : Source :=
  .unreadable .nothing fault

def lastMember (m : Member) (fault : Fault) : Read (List Member) :=
  ([m, (.error fault, missing fault)], .error fault)

def noKey (afterComma : Bool) : List Char → Read (List Member)
  | [] =>
    let fault := if afterComma then .endInValue else .endInObject
    ([(.error fault, missing fault)], .error .endInObject)
  | c :: _ =>
    let fault := if afterComma && c == '\x7d' then .trailingComma else .keyNotText
    ([(.error fault, missing fault)], .error .keyNotText)

def lastItem (item : Source) (fault : Fault) : Read (List Source) :=
  ([item, missing fault], .error fault)

mutual

def value (levels : Nat) : Nat → List Char → Read Source
  | 0, _ => broken .nothing .tooDeep
  | fuel + 1, cs =>
    match skipSpaces cs with
    | [] => broken .nothing .endInValue
    | 'n' :: rest => word .null ['u', 'l', 'l'] rest
    | 't' :: rest => word (.bool true) ['r', 'u', 'e'] rest
    | 'f' :: rest => word (.bool false) ['a', 'l', 's', 'e'] rest
    | '"' :: rest => string rest
    | '[' :: rest =>
      match skipSpaces rest with
      | [] => (container levels (.array [missing .endInList]), .error .endInList)
      | ']' :: rest => (container levels (.array []), .ok rest)
      | rest =>
        let (read, rest) := items (levels - 1) fuel rest
        (container levels (.array read), rest)
    | c :: rest =>
      if c = '\x7b' then
        match skipSpaces rest with
        | [] =>
          let (read, rest) := noKey false []
          (container levels (.object read), rest)
        | d :: more =>
          if d = '\x7d' then (container levels (.object []), .ok more)
          else
            let (read, rest) := members (levels - 1) false fuel (d :: more)
            (container levels (.object read), rest)
      else if c = '-' ∨ c.isDigit then number (c :: rest)
      else broken .other .expectedValue

def items (levels : Nat) : Nat → List Char → Read (List Source)
  | 0, _ => ([missing .tooDeep], .error .tooDeep)
  | fuel + 1, cs =>
    match value levels fuel cs with
    | (item, .error fault) => lastItem item fault
    | (item, .ok rest) =>
      match skipSpaces rest with
      | [] => lastItem item .endInList
      | ',' :: rest =>
        match skipSpaces rest with
        | ']' :: _ => ([item, missing .trailingComma], .error .expectedValue)
        | rest =>
          let (more, rest) := items levels fuel rest
          (item :: more, rest)
      | ']' :: rest => ([item], .ok rest)
      | _ => lastItem item .expectedCommaInList

def members (levels : Nat) (afterComma : Bool) : Nat → List Char → Read (List Member)
  | 0, _ => noKey afterComma []
  | fuel + 1, cs =>
    match skipSpaces cs with
    | '"' :: rest =>
      match stringBody none rest with
      | (name, .error fault) => lastMember (name.map String.ofList, missing fault) fault
      | (name, .ok rest) =>
        let name := name.map String.ofList
        match skipSpaces rest with
        | [] => lastMember (name, missing .endInObject) .endInObject
        | ':' :: rest =>
          match value levels fuel rest with
          | (item, .error fault) => lastMember (name, item) fault
          | (item, .ok rest) =>
            match skipSpaces rest with
            | [] => lastMember (name, item) .endInObject
            | ',' :: rest =>
              let (more, rest) := members levels true fuel rest
              ((name, item) :: more, rest)
            | c :: rest =>
              if c = '\x7d' then ([(name, item)], .ok rest)
              else lastMember (name, item) .expectedCommaInObject
        | _ => lastMember (name, missing .expectedColon) .expectedColon
    | rest => noKey afterComma rest

end

end Reader

def maxLevels : Nat := 127

def Document.ofText (levels : Nat) (text : String) : Document :=
  let cs := text.toList
  match Reader.value levels (cs.length + 1) cs with
  | (root, .error fault) => ⟨root, some fault⟩
  | (root, .ok rest) =>
    ⟨root, if (skipSpaces rest).isEmpty then none else some .trailingText⟩

def parse? (text : String) : Option Json :=
  (Document.ofText maxLevels text).toTree.toOption

end AnswerCache.Json
