import AnswerCache.Text.Scan
import AnswerCache.Time.Instant

namespace AnswerCache.Instant

open Text

namespace Reader

def nanos (digits : List Char) : Nat :=
  let kept := digits.take 9
  digitsValue kept * Nat.pow 10 (9 - kept.length)

def fraction : Scan Nat := do
  if (← Scan.peek) = some '.' then
    Scan.char '.'
    return nanos (← Scan.allDigits)
  else return 0

def small : Scan Nat := do
  Scan.blanks
  return digitsValue (← Scan.digits 2)

def year : Scan Int := do
  Scan.blanks
  match ← Scan.peek with
  | some '-' => do Scan.char '-'; return -(digitsValue (← Scan.allDigits) : Int)
  | some '+' => do Scan.char '+'; return (digitsValue (← Scan.allDigits) : Int)
  | _ => return (digitsValue (← Scan.digits 4) : Int)

def date : Scan Date := do
  let y ← year
  Scan.char '-'
  let m ← small
  Scan.char '-'
  let d ← small
  return ⟨y, m, d⟩

def hourMinute : Scan (Nat × Nat) := do
  let h ← small
  Scan.char ':'
  let m ← small
  return (h, m)

def toSecond : Scan (Date × ClockTime) := do
  let d ← date
  Scan.char 'T'
  let (h, m) ← hourMinute
  Scan.char ':'
  let s ← small
  let n ← fraction
  return (d, ⟨h, m, s, n⟩)

def toMinute : Scan (Date × ClockTime) := do
  let d ← date
  Scan.char 'T'
  let (h, m) ← hourMinute
  return (d, ⟨h, m, 0, 0⟩)

def toDay : Scan (Date × ClockTime) := do
  return (← date, .midnight)

def offsetSign : Scan Int := do
  if (← Scan.charIn fun c => c == '+' || c == '-' || c == '\u2212') = '+' then return 1
  else return -1

def offsetMinutes (sign : Int) (hours minutes : Nat) : Scan Int :=
  if hours ≤ 23 ∧ minutes ≤ 59 then return sign * (hours * 60 + minutes : Nat) else failure

def isZulu (c : Char) : Bool :=
  c == 'Z' || c == 'z'

def isDateTimeMark (c : Char) : Bool :=
  c == 'T' || c == 't' || c == ' '

def strictOffset : Scan Int := do
  if ((← Scan.peek).map isZulu).getD false then
    let _ ← Scan.charIn isZulu
    return 0
  else
    let sign ← offsetSign
    let h ← Scan.exactly 2
    Scan.char ':'
    let m ← Scan.exactly 2
    offsetMinutes sign h m

def strict : Scan (Date × ClockTime × Int) := do
  let y ← Scan.exactly 4
  Scan.char '-'
  let mo ← Scan.exactly 2
  Scan.char '-'
  let d ← Scan.exactly 2
  let _ ← Scan.charIn isDateTimeMark
  let h ← Scan.exactly 2
  Scan.char ':'
  let mi ← Scan.exactly 2
  Scan.char ':'
  let s ← Scan.exactly 2
  let n ← fraction
  let o ← strictOffset
  return (⟨y, mo, d⟩, ⟨h, mi, s, n⟩, o)

def isUtc (cs : List Char) : Bool :=
  cs.map Char.toUpper == "UTC".toList

def universal : Scan Bool
  | cs => if isUtc (cs.take 3) then some (true, cs.drop 3) else some (false, cs)

def offsetGap : Scan Unit
  | cs => some ((), cs.dropWhile fun c => c == ':' || isBlank c)

def lenientOffset : Scan Int := do
  if ← universal then return 0
  else if ((← Scan.peek).map isZulu).getD false then
    let _ ← Scan.charIn isZulu
    return 0
  else
    let sign ← offsetSign
    let h ← Scan.exactly 2
    offsetGap
    let m ← Scan.exactly 2
    offsetMinutes sign h m

def blanksThen (c : Char) : Scan Unit := do
  Scan.blanks
  Scan.char c

def lenient : Scan (Date × ClockTime × Int) := do
  let y ← year
  blanksThen '-'
  let mo ← small
  blanksThen '-'
  let d ← small
  let _ ← Scan.charIn isDateTimeMark
  let h ← small
  blanksThen ':'
  let mi ← small
  blanksThen ':'
  let s ← small
  let n ← fraction
  Scan.blanks
  let o ← lenientOffset
  Scan.blanks
  return (⟨y, mo, d⟩, ⟨h, mi, s, n⟩, o)

def zoned? (scan : Scan (Date × ClockTime × Int)) (cs : List Char) : Option Instant := do
  let (date, time, offset) ← scan.whole cs
  ofCivil? date time offset

def unzoned? (scan : Scan (Date × ClockTime)) (cs : List Char) : Option Instant := do
  let (date, time) ← scan.whole cs
  ofCivil? date time 0

end Reader

def parse? (cs : List Char) : Option Instant :=
  Reader.zoned? Reader.strict cs <|> Reader.unzoned? Reader.toSecond cs <|>
    Reader.unzoned? Reader.toMinute cs <|> Reader.unzoned? Reader.toDay cs

def parseLenient? (text : String) : Option Instant :=
  Reader.zoned? Reader.lenient text.toList

end AnswerCache.Instant
