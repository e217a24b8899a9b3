import AnswerCache.Binary64.Shortest
import Mathlib.Algebra.Order.Field.Basic
import Mathlib.Algebra.Order.Field.Rat
import Mathlib.Tactic.Linarith
import Mathlib.Tactic.Positivity
import Mathlib.Tactic.FieldSimp
import Mathlib.Tactic.Ring
import Mathlib.Tactic.GCongr

/-!
The shortest digits of a finite number lie where only that number rounds, so they determine its
magnitude.
-/

namespace AnswerCache.Binary64

def Decimal.value (d : Decimal) : ℚ :=
  d.significand * (10 : ℚ) ^ d.exponent

namespace Finite

def Near (x : Finite) (r : ℚ) : Prop :=
  x.lowerQuarters ≤ r ∧ r ≤ x.upperQuarters ∧
    (x.mantissa % 2 = 1 → x.lowerQuarters < r ∧ r < x.upperQuarters)

lemma near_of_covers {x : Finite} {quarters scale : Nat} (hs : 0 < scale)
    (h : x.covers quarters scale = true) : x.Near ((quarters : ℚ) / scale) := by
  have hpos : (0 : ℚ) < scale := by exact_mod_cast hs
  have hle : x.lowerQuarters * scale ≤ quarters ∧ quarters ≤ x.upperQuarters * scale := by
    simp only [covers] at h
    split at h <;> simp only [Bool.and_eq_true, decide_eq_true_eq] at h <;> omega
  refine ⟨?_, ?_, fun hodd => ?_⟩
  · rw [le_div_iff₀ hpos]
    exact_mod_cast hle.1
  · rw [div_le_iff₀ hpos]
    exact_mod_cast hle.2
  · simp only [covers, hodd, Nat.one_ne_zero, if_false, Bool.and_eq_true, decide_eq_true_eq] at h
    constructor
    · rw [lt_div_iff₀ hpos]
      exact_mod_cast h.1
    · rw [div_lt_iff₀ hpos]
      exact_mod_cast h.2

lemma upper_le_lower {x y : Finite} (h : x.exponent < y.exponent ∨
    x.exponent = y.exponent ∧ x.mantissa < y.mantissa) :
    x.upperQuarters ≤ y.lowerQuarters ∧
      (x.mantissa % 2 = 0 → y.mantissa % 2 = 0 → x.upperQuarters < y.lowerQuarters) := by
  obtain ⟨hx, -, hx'⟩ := x.fits
  obtain ⟨-, -, hy'⟩ := y.fits
  simp only [upperQuarters, lowerQuarters, Nat.pow_eq] at *
  rcases h with he | ⟨he, hm⟩
  · obtain ⟨k, hk⟩ := Nat.exists_eq_add_of_lt he
    have hpow : 2 ^ y.exponent = 2 ^ x.exponent * 2 ^ k * 2 := by
      rw [hk]
      ring
    have hk1 : 1 ≤ 2 ^ k := Nat.one_le_two_pow
    have hz : 0 < 2 ^ x.exponent := by positivity
    have hy : 2 ^ 52 ≤ y.mantissa := by omega
    have hlow : 2 * (4 * y.mantissa - 2) * 2 ^ x.exponent ≤
        (4 * y.mantissa - 2) * 2 ^ y.exponent := by
      rw [hpow]
      nlinarith [Nat.mul_le_mul_left (2 * (4 * y.mantissa - 2) * 2 ^ x.exponent) hk1]
    have hlow' : 2 * (4 * y.mantissa - 1) * 2 ^ x.exponent ≤
        (4 * y.mantissa - 1) * 2 ^ y.exponent := by
      rw [hpow]
      nlinarith [Nat.mul_le_mul_left (2 * (4 * y.mantissa - 1) * 2 ^ x.exponent) hk1]
    split_ifs with hmin
    · constructor
      · exact le_trans (Nat.mul_le_mul_right _ (by omega)) hlow'
      · intro heven _
        exact lt_of_lt_of_le (Nat.mul_lt_mul_of_pos_right (by omega) hz) hlow'
    · have hy2 : 2 ^ 52 < y.mantissa := by omega
      constructor
      · exact le_trans (Nat.mul_le_mul_right _ (by omega)) hlow
      · intro heven _
        exact lt_of_lt_of_le (Nat.mul_lt_mul_of_pos_right (by omega) hz) hlow
  · have hz : 0 < 2 ^ x.exponent := by positivity
    rw [if_neg (by omega), ← he]
    constructor
    · exact Nat.mul_le_mul_right _ (by omega)
    · intro heven heven'
      exact Nat.mul_lt_mul_of_pos_right (by omega) hz

lemma not_near_of_lt {x y : Finite} {r : ℚ} (h : x.exponent < y.exponent ∨
    x.exponent = y.exponent ∧ x.mantissa < y.mantissa) (hx : x.Near r) : ¬ y.Near r := by
  intro hy
  obtain ⟨-, hxr, hxo⟩ := hx
  obtain ⟨hyr, -, hyo⟩ := hy
  obtain ⟨hle, hlt⟩ := upper_le_lower h
  have hleq : (x.upperQuarters : ℚ) ≤ y.lowerQuarters := by exact_mod_cast hle
  rcases Nat.mod_two_eq_zero_or_one x.mantissa with hxm | hxm
  · rcases Nat.mod_two_eq_zero_or_one y.mantissa with hym | hym
    · have hltq : (x.upperQuarters : ℚ) < y.lowerQuarters := by exact_mod_cast hlt hxm hym
      linarith
    · have := (hyo hym).1
      linarith
  · have := (hxo hxm).2
    linarith

lemma ext_of_magnitude {x y : Finite} (hn : x.negative = y.negative) (hm : x.mantissa = y.mantissa)
    (he : x.exponent = y.exponent) : x = y := by
  cases x
  cases y
  simp_all

theorem near_unique {x y : Finite} {r : ℚ} (hx : x.Near r) (hy : y.Near r) :
    x.mantissa = y.mantissa ∧ x.exponent = y.exponent := by
  rcases Nat.lt_trichotomy x.exponent y.exponent with he | he | he
  · exact absurd hy (not_near_of_lt (Or.inl he) hx)
  · rcases Nat.lt_trichotomy x.mantissa y.mantissa with hm | hm | hm
    · exact absurd hy (not_near_of_lt (Or.inr ⟨he, hm⟩) hx)
    · exact ⟨hm, he⟩
    · exact absurd hx (not_near_of_lt (Or.inr ⟨he.symm, hm⟩) hy)
  · exact absurd hx (not_near_of_lt (Or.inl he) hy)

lemma gridScale_pos (k : Int) : 0 < gridScale k := by
  simp only [gridScale, Nat.pow_eq]
  positivity

lemma gridUnit_div_gridScale (c : Nat) (k : Int) :
    ((c * gridUnit k : Nat) : ℚ) / gridScale k = 4 * stepsPerUnit * (Decimal.value ⟨c, k⟩) := by
  have hp : (10 : ℚ) ^ k * (10 : ℚ) ^ (-k).toNat = (10 : ℚ) ^ k.toNat := by
    rw [← zpow_natCast, ← zpow_natCast, ← zpow_add₀ (by norm_num)]
    congr 1
    omega
  have hne : (gridScale k : ℚ) ≠ 0 := by
    exact_mod_cast (gridScale_pos k).ne'
  rw [div_eq_iff hne]
  simp only [gridUnit, gridScale, Decimal.value, Nat.pow_eq]
  push_cast
  rw [← hp]
  ring

lemma near_of_onGrid {x : Finite} {k : Int} {c : Nat} (h : x.onGrid? k = some c) :
    x.Near (4 * stepsPerUnit * (Decimal.value ⟨c, k⟩)) := by
  rw [← gridUnit_div_gridScale]
  apply near_of_covers (gridScale_pos k)
  simp only [onGrid?] at h
  split_ifs at h with hboth <;> simp_all

lemma search_spec (x : Finite) {j count : Nat} {k : Int} (hj : j < count)
    (h : (x.onGrid? (k - j)).isSome) :
    x.Near (4 * stepsPerUnit * (x.search k count).value) := by
  induction count generalizing j k with
  | zero => omega
  | succ count ih =>
    rw [search]
    cases hc : x.onGrid? k with
    | some c => exact near_of_onGrid hc
    | none =>
      cases j with
      | zero => simp [hc] at h
      | succ j =>
        apply ih (j := j) (by omega)
        rwa [show k - 1 - (j : Int) = k - ((j + 1 : Nat) : Int) by push_cast; omega]

lemma unit_le_scale : gridUnit (-324) ≤ gridScale (-324) := by
  decide +kernel

lemma lowerQuarters_le (x : Finite) : x.lowerQuarters ≤ (4 * x.mantissa - 1) * 2 ^ x.exponent := by
  simp only [lowerQuarters, Nat.pow_eq]
  split
  · exact le_rfl
  · exact Nat.mul_le_mul_right _ (by omega)

lemma quarters_lt_upper (x : Finite) : 4 * x.steps < x.upperQuarters := by
  have hpos : 0 < 2 ^ x.exponent := by positivity
  simp only [upperQuarters, steps, Nat.pow_eq, ← Nat.mul_assoc]
  exact Nat.mul_lt_mul_of_pos_right (by omega) hpos

lemma isSome_onGrid (x : Finite) (hx : x.isZero = false) : (x.onGrid? (-324)).isSome := by
  have hm : 1 ≤ x.mantissa := by
    simp [isZero] at hx
    omega
  have hlow : x.lowerQuarters + 1 ≤ 4 * x.steps := by
    have hpos : 1 ≤ 2 ^ x.exponent := Nat.one_le_two_pow
    have hstep : 4 * x.steps = (4 * x.mantissa - 1) * 2 ^ x.exponent + 2 ^ x.exponent := by
      obtain ⟨n, hn⟩ := Nat.exists_eq_add_of_le hm
      rw [show 4 * x.mantissa - 1 = 4 * n + 3 by omega, steps, Nat.pow_eq, hn]
      ring
    have hle := x.lowerQuarters_le
    omega
  have hup := x.quarters_lt_upper
  have hs := unit_le_scale
  have hscale := gridScale_pos (-324)
  have hunit : 0 < gridUnit (-324) := by decide +kernel
  have hcovers : x.covers (4 * x.steps * gridScale (-324) / gridUnit (-324) * gridUnit (-324))
      (gridScale (-324)) = true := by
    have hdiv := Nat.div_add_mod (4 * x.steps * gridScale (-324)) (gridUnit (-324))
    have hmod := Nat.mod_lt (4 * x.steps * gridScale (-324)) hunit
    have hbelow : (x.lowerQuarters + 1) * gridScale (-324) ≤ 4 * x.steps * gridScale (-324) :=
      Nat.mul_le_mul_right _ hlow
    have habove : 4 * x.steps * gridScale (-324) < x.upperQuarters * gridScale (-324) :=
      Nat.mul_lt_mul_of_pos_right hup hscale
    rw [Nat.mul_comm] at hdiv
    rw [Nat.add_mul, Nat.one_mul] at hbelow
    generalize 4 * x.steps * gridScale (-324) / gridUnit (-324) * gridUnit (-324) = below at *
    simp only [covers]
    split <;> simp only [Bool.and_eq_true, decide_eq_true_eq] <;> omega
  simp only [onGrid?, hcovers, Bool.true_and]
  split_ifs <;> rfl

lemma near_shortest {x : Finite} (hx : x.isZero = false) :
    x.Near (4 * stepsPerUnit * x.shortest.value) :=
  search_spec x (j := 633) (by decide) (isSome_onGrid x hx)

lemma near_zero {x : Finite} (hx : x.isZero = true) : x.Near 0 := by
  have hm : x.mantissa = 0 := by simpa [isZero] using hx
  have he : x.exponent = 0 := by
    obtain ⟨-, -, h | h⟩ := x.fits
    · exact h
    · simp [hm] at h
  simp [Near, lowerQuarters, upperQuarters, hm, he]

end Finite

end AnswerCache.Binary64
