/-!
Double-precision numbers as exact multiples of the smallest step `2⁻¹⁰⁷⁴`, with the rounding that
brings every quotient to the nearest of them.
-/

namespace AnswerCache

/-- A finite number holds a whole number `mantissa * 2 ^ exponent` of smallest steps; below the
smallest exponent there is no other choice, above it the mantissa has all its 53 bits. -/
def Binary64.Fits (mantissa exponent : Nat) : Prop :=
  mantissa < Nat.pow 2 53 ∧ exponent ≤ 2045 ∧ (exponent = 0 ∨ Nat.pow 2 52 ≤ mantissa)

instance (mantissa exponent : Nat) : Decidable (Binary64.Fits mantissa exponent) :=
  inferInstanceAs (Decidable (_ ∧ _))

structure Binary64.Finite where
  negative : Bool
  mantissa : Nat
  exponent : Nat
  fits : Binary64.Fits mantissa exponent
  deriving DecidableEq

inductive Binary64
  | finite (x : Binary64.Finite)
  | infinite (negative : Bool)
  | nan
  deriving DecidableEq

namespace Binary64

def stepsPerUnit : Nat :=
  Nat.pow 2 1074

namespace Finite

def steps (x : Finite) : Nat :=
  x.mantissa * Nat.pow 2 x.exponent

def zero (negative : Bool) : Finite :=
  ⟨negative, 0, 0, by decide⟩

def isZero (x : Finite) : Bool :=
  x.mantissa == 0

def negate (x : Finite) : Finite :=
  { x with negative := !x.negative }

def isWhole (x : Finite) : Bool :=
  x.steps % stepsPerUnit == 0

def toInt (x : Finite) : Int :=
  let n : Int := (x.steps / stepsPerUnit : Nat)
  if x.negative then -n else n

def sameValue (x y : Finite) : Bool :=
  x == y || (x.isZero && y.isZero)

end Finite

def sameValue : Binary64 → Binary64 → Bool
  | finite x, finite y => x.sameValue y
  | infinite a, infinite b => a == b
  | _, _ => false

def zero : Binary64 :=
  finite (Finite.zero false)

def negate : Binary64 → Binary64
  | finite x => finite x.negate
  | infinite negative => infinite !negative
  | nan => nan

end Binary64

def roundQuotient (num den : Nat) : Nat :=
  let q := num / den
  let r := num % den
  if 2 * r < den then q
  else if den < 2 * r then q + 1
  else if q % 2 = 0 then q else q + 1

namespace Binary64

/-- The nearest number to `num / den`, a tie going to the even mantissa; what lies beyond the
largest number by half a step or more is infinite. -/
def ofQuotient (negative : Bool) (num den : Nat) : Binary64 :=
  let exponent := (num * stepsPerUnit / den).log2 - 52
  let mantissa := roundQuotient (num * stepsPerUnit) (den * Nat.pow 2 exponent)
  if h : Fits mantissa exponent then finite ⟨negative, mantissa, exponent, h⟩
  else if h : Fits (Nat.pow 2 52) (exponent + 1) then
    finite ⟨negative, Nat.pow 2 52, exponent + 1, h⟩
  else infinite negative

def ofNat (n : Nat) : Binary64 :=
  ofQuotient false n 1

def ofInt (z : Int) : Binary64 :=
  ofQuotient (z < 0) z.natAbs 1

namespace Finite

def mul (x y : Finite) : Binary64 :=
  ofQuotient (x.negative != y.negative) (x.steps * y.steps) (stepsPerUnit * stepsPerUnit)

def div (x y : Finite) : Binary64 :=
  if y.isZero then if x.isZero then nan else infinite (x.negative != y.negative)
  else ofQuotient (x.negative != y.negative) x.steps y.steps

end Finite

end Binary64

end AnswerCache
