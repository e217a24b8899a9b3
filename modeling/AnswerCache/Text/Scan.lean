import AnswerCache.Text.Decimal
import AnswerCache.Text.Marks

namespace AnswerCache.Text

/-- The twenty-five characters with the Unicode property White_Space, as ranges of code points. -/
def blankRanges : List (Nat × Nat) :=
  [(0x09, 0x0D), (0x20, 0x20), (0x85, 0x85), (0xA0, 0xA0), (0x1680, 0x1680), (0x2000, 0x200A),
    (0x2028, 0x2029), (0x202F, 0x202F), (0x205F, 0x205F), (0x3000, 0x3000)]

def isBlank (c : Char) : Bool :=
  within blankRanges c

def skipBlanks (cs : List Char) : List Char :=
  cs.dropWhile isBlank

def trim (cs : List Char) : List Char :=
  (skipBlanks (skipBlanks cs).reverse).reverse

def growFirst (c : Char) : List (List Char) → List (List Char)
  | [] => [[c]]
  | first :: more => (c :: first) :: more

def pieces (separator : Char) : List Char → List (List Char)
  | [] => [[]]
  | c :: rest =>
    if c = separator then [] :: pieces separator rest else growFirst c (pieces separator rest)

abbrev Scan (α : Type) := StateT (List Char) Option α

namespace Scan

def whole {α : Type} (scan : Scan α) (cs : List Char) : Option α :=
  match scan cs with
  | some (a, []) => some a
  | _ => none

def charIn (p : Char → Bool) : Scan Char
  | c :: rest => if p c then some (c, rest) else none
  | [] => none

def char (c : Char) : Scan Unit
  | d :: rest => if d = c then some ((), rest) else none
  | [] => none

def blanks : Scan Unit
  | cs => some ((), skipBlanks cs)

def peek : Scan (Option Char)
  | cs => some (cs.head?, cs)

def digits (most : Nat) : Scan (List Char)
  | cs =>
    let taken := (cs.take most).takeWhile Char.isDigit
    if taken.isEmpty then none else some (taken, cs.drop taken.length)

def allDigits : Scan (List Char)
  | cs =>
    let taken := cs.takeWhile Char.isDigit
    if taken.isEmpty then none else some (taken, cs.drop taken.length)

def exactly (count : Nat) : Scan Nat := do
  let taken ← digits count
  if taken.length = count then return digitsValue taken else failure

end Scan

end AnswerCache.Text
