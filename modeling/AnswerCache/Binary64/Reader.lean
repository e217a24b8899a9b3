import AnswerCache.Binary64.Basic
import AnswerCache.Text.Scan

namespace AnswerCache.Binary64

open Text

namespace Reader

def sign : Scan Bool := do
  match ← Scan.peek with
  | some '-' => do Scan.char '-'; return true
  | some '+' => do Scan.char '+'; return false
  | _ => return false

def optionalDigits : Scan (List Char)
  | cs => some (spanDigits cs)

def fraction : Scan (List Char) := do
  if (← Scan.peek) = some '.' then
    Scan.char '.'
    optionalDigits
  else return []

def power : Scan Int := do
  let mark ← Scan.peek
  if mark = some 'e' ∨ mark = some 'E' then
    let _ ← Scan.charIn fun _ => true
    let negative ← sign
    let magnitude : Int := digitsValue (← Scan.allDigits)
    return if negative then -magnitude else magnitude
  else return 0

def numeral : Scan (Bool × List Char × Int) := do
  let negative ← sign
  let whole ← optionalDigits
  let fraction ← fraction
  if whole.isEmpty && fraction.isEmpty then failure
  let power ← power
  return (negative, whole ++ fraction, power - fraction.length)

def lowerCase (cs : List Char) : String :=
  String.ofList (cs.map Char.toLower)

def word? (negative : Bool) (cs : List Char) : Option Binary64 :=
  match lowerCase cs with
  | "nan" => some .nan
  | "inf" | "infinity" => some (.infinite negative)
  | _ => none

end Reader

def ofDecimal (negative : Bool) (significand : Nat) (exponent : Int) : Binary64 :=
  let top := (Text.decimal significand).length + exponent
  if significand = 0 ∨ top < -330 then finite (.zero negative)
  else if 310 < top then infinite negative
  else ofQuotient negative (significand * Nat.pow 10 exponent.toNat)
    (Nat.pow 10 (-exponent).toNat)

def parse? (text : String) : Option Binary64 :=
  let cs := text.toList
  match Reader.sign cs with
  | some (negative, rest) =>
    match Reader.word? negative rest with
    | some x => some x
    | none =>
      (Scan.whole Reader.numeral cs).map fun (negative, digits, exponent) =>
        ofDecimal negative (digitsValue digits) exponent
  | none => none

end AnswerCache.Binary64
