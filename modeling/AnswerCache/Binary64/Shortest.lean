import AnswerCache.Binary64.Basic
import AnswerCache.Text.Decimal

/-!
The shortest decimal digits that read back as a given number: the coarsest power of ten with a
multiple that rounds to the number, and on it the multiple nearest to the number.
-/

namespace AnswerCache.Binary64

structure Decimal where
  significand : Nat
  exponent : Int
  deriving DecidableEq

namespace Finite

def lowerQuarters (x : Finite) : Nat :=
  if x.mantissa = Nat.pow 2 52 ∧ x.exponent ≠ 0 then (4 * x.mantissa - 1) * Nat.pow 2 x.exponent
  else (4 * x.mantissa - 2) * Nat.pow 2 x.exponent

def upperQuarters (x : Finite) : Nat :=
  (4 * x.mantissa + 2) * Nat.pow 2 x.exponent

def covers (x : Finite) (quarters scale : Nat) : Bool :=
  if x.mantissa % 2 = 0 then
    x.lowerQuarters * scale ≤ quarters && quarters ≤ x.upperQuarters * scale
  else x.lowerQuarters * scale < quarters && quarters < x.upperQuarters * scale

def gridUnit (k : Int) : Nat :=
  4 * stepsPerUnit * Nat.pow 10 k.toNat

def gridScale (k : Int) : Nat :=
  Nat.pow 10 (-k).toNat

def onGrid? (x : Finite) (k : Int) : Option Nat :=
  let unit := gridUnit k
  let scale := gridScale k
  let value := 4 * x.steps * scale
  let below := value / unit
  let rest := value % unit
  let low := x.covers (below * unit) scale
  let high := x.covers ((below + 1) * unit) scale
  if low && high then
    if 2 * rest < unit then some below
    else if unit < 2 * rest then some (below + 1)
    else if below % 2 = 0 then some below else some (below + 1)
  else if low then some below
  else if high then some (below + 1)
  else none

def search (x : Finite) (k : Int) : Nat → Decimal
  | 0 => ⟨0, 0⟩
  | count + 1 =>
    match x.onGrid? k with
    | some c => ⟨c, k⟩
    | none => search x (k - 1) count

def shortest (x : Finite) : Decimal :=
  search x 309 650

end Finite

end AnswerCache.Binary64
