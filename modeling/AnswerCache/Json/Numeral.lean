import AnswerCache.Json.Basic

/-!
JSON numerals: their parts, and the number that the parts stand for.

A numeral without point and exponent that fits 64 bits is an integer. Any other is a double: the
digits that fit 64 bits unsigned are rounded first and then scaled by one power of ten, so a long
numeral may end one step beside the nearest double.
-/

namespace AnswerCache.Json

structure Numeral where
  negative : Bool
  integer : List Char
  fraction : List Char
  exponent : Option (Bool × List Char)

namespace Numeral

def maxSignificand : Nat := UInt64.size - 1

def extend (significand : Nat) : List Char → Nat × List Char
  | [] => (significand, [])
  | d :: ds =>
    let next := significand * 10 + (d.toNat - '0'.toNat)
    if next ≤ maxSignificand then extend next ds else (significand, d :: ds)

def powerOfTen (k : Nat) : Binary64 :=
  .ofNat (Nat.pow 10 k)

def finite? : Binary64 → Option Binary64.Finite
  | .finite x => some x
  | _ => none

def scaleOnce (x : Binary64.Finite) (exponent : Int) : Option Binary64.Finite := do
  let power ← finite? (powerOfTen exponent.natAbs)
  finite? (if 0 ≤ exponent then x.mul power else x.div power)

def scale (x : Binary64.Finite) (exponent : Int) : Nat → Option Binary64.Finite
  | 0 => some x
  | parts + 1 =>
    if exponent.natAbs ≤ 308 then scaleOnce x exponent
    else if x.isZero then some x
    else if 0 ≤ exponent then none
    else do scale (← scaleOnce x (-308)) (exponent + 308) parts

def double? (negative : Bool) (significand : Nat) (exponent : Int) : Option Number := do
  let x ← finite? (Binary64.ofNat significand)
  let y ← scale x exponent 4
  return .double (if negative then y.negate else y)

def maxExponent : Nat := Int32.maxValue.toNatClampNeg

def ofSignificand (negative : Bool) (significand : Nat) : Number :=
  if !negative then .whole significand
  else if significand = 0 then .double (Binary64.Finite.zero true)
  else if significand ≤ Int64.minValue.toInt.natAbs then .whole (-significand)
  else
    match Binary64.ofNat significand with
    | .finite x => .double x.negate
    | _ => .whole (-significand)

def number? (n : Numeral) : Option Number :=
  let (whole, cut) := extend 0 n.integer
  if cut.isEmpty && n.fraction.isEmpty && n.exponent.isNone then
    some (ofSignificand n.negative whole)
  else
    let (significand, unread) := extend whole n.fraction
    let shift : Int := cut.length - (n.fraction.length - unread.length : Nat)
    match n.exponent with
    | none => double? n.negative significand shift
    | some (down, digits) =>
      let power := Text.digitsValue digits
      if power ≤ maxExponent then
        double? n.negative significand (if down then shift - power else shift + power)
      else if significand ≠ 0 && !down then none
      else some (.double (Binary64.Finite.zero n.negative))

inductive Break
  | endOfText
  | misplaced
  deriving DecidableEq

def breakAt : List Char → Break
  | [] => .endOfText
  | _ :: _ => .misplaced

def spanDigits (cs : List Char) : Except Break (List Char × List Char) :=
  match Text.spanDigits cs with
  | ([], rest) => .error (breakAt rest)
  | spanned => .ok spanned

def spanInteger : List Char → Except Break (List Char × List Char)
  | '0' :: rest =>
    match rest with
    | d :: _ => if d.isDigit then .error .misplaced else .ok (['0'], rest)
    | [] => .ok (['0'], [])
  | cs => spanDigits cs

def spanFraction : List Char → Except Break (List Char × List Char)
  | '.' :: rest => spanDigits rest
  | cs => .ok ([], cs)

def spanPower (down : Bool) (cs : List Char) :
    Except Break (Option (Bool × List Char) × List Char) := do
  let (digits, rest) ← spanDigits cs
  return (some (down, digits), rest)

def spanExponent : List Char → Except Break (Option (Bool × List Char) × List Char)
  | c :: rest =>
    if c = 'e' ∨ c = 'E' then
      match rest with
      | '+' :: rest => spanPower false rest
      | '-' :: rest => spanPower true rest
      | rest => spanPower false rest
    else .ok (none, c :: rest)
  | [] => .ok (none, [])

def spanSign : List Char → Bool × List Char
  | '-' :: rest => (true, rest)
  | cs => (false, cs)

def span (cs : List Char) : Except Break (Numeral × List Char) := do
  let (negative, cs) := spanSign cs
  let (integer, cs) ← spanInteger cs
  let (fraction, cs) ← spanFraction cs
  let (exponent, cs) ← spanExponent cs
  return (⟨negative, integer, fraction, exponent⟩, cs)

end Numeral

end AnswerCache.Json
