import AnswerCache.Proofs.Binary64.Shortest

namespace AnswerCache.Binary64.Finite

lemma near_steps (x : Finite) : x.Near ((4 * x.steps : Nat) : ℚ) := by
  have hpos : 0 < 2 ^ x.exponent := by positivity
  have hlow := x.lowerQuarters_le
  have hup := x.quarters_lt_upper
  have hstep : (4 * x.mantissa - 1) * 2 ^ x.exponent ≤ 4 * x.steps ∧
      (x.mantissa % 2 = 1 → (4 * x.mantissa - 1) * 2 ^ x.exponent < 4 * x.steps) := by
    simp only [steps, Nat.pow_eq, ← Nat.mul_assoc]
    exact ⟨Nat.mul_le_mul_right _ (by omega),
      fun hodd => Nat.mul_lt_mul_of_pos_right (by omega) hpos⟩
  refine ⟨by exact_mod_cast hlow.trans hstep.1, by exact_mod_cast hup.le, fun hodd => ?_⟩
  exact ⟨by exact_mod_cast lt_of_le_of_lt hlow (hstep.2 hodd), by exact_mod_cast hup⟩

lemma ext_of_steps {x y : Finite} (hn : x.negative = y.negative) (hs : x.steps = y.steps) :
    x = y := by
  have hx := x.near_steps
  rw [hs] at hx
  obtain ⟨hm, he⟩ := near_unique hx y.near_steps
  exact ext_of_magnitude hn hm he

lemma isZero_iff (x : Finite) : x.isZero = true ↔ x.steps = 0 := by
  simp [isZero, steps, Nat.pow_eq]

lemma stepsPerUnit_pos : 0 < stepsPerUnit := by
  unfold stepsPerUnit
  generalize 1074 = n
  exact Nat.two_pow_pos n

lemma steps_of_isWhole {x : Finite} (h : x.isWhole = true) :
    x.steps = x.toInt.natAbs * stepsPerUnit := by
  have hmod : x.steps % stepsPerUnit = 0 := by simpa [isWhole] using h
  have habs : x.toInt.natAbs = x.steps / stepsPerUnit := by
    simp only [toInt]
    split
    · rw [Int.natAbs_neg, Int.natAbs_natCast]
    · rw [Int.natAbs_natCast]
  rw [habs, Nat.div_mul_cancel (Nat.dvd_of_mod_eq_zero hmod)]

lemma isZero_iff_of_isWhole {x : Finite} (h : x.isWhole = true) :
    x.isZero = true ↔ x.toInt = 0 := by
  rw [isZero_iff, steps_of_isWhole h]
  simp [stepsPerUnit_pos.ne']

lemma negative_iff_of_toInt_ne {x : Finite} (h : x.toInt ≠ 0) :
    x.negative = true ↔ x.toInt < 0 := by
  simp only [toInt] at h ⊢
  generalize x.steps / stepsPerUnit = n at h ⊢
  split at h
  · rename_i hx
    rw [if_pos hx]
    exact ⟨fun _ => by omega, fun _ => hx⟩
  · rename_i hx
    rw [if_neg hx]
    exact ⟨fun hn => absurd hn hx, fun hlt => by omega⟩

theorem sameValue_iff_toInt {x y : Finite} (hx : x.isWhole = true) (hy : y.isWhole = true) :
    x.sameValue y = true ↔ x.toInt = y.toInt := by
  simp only [sameValue, Bool.or_eq_true, beq_iff_eq, Bool.and_eq_true, isZero_iff_of_isWhole hx,
    isZero_iff_of_isWhole hy]
  constructor
  · rintro (rfl | ⟨hx0, hy0⟩)
    · rfl
    · rw [hx0, hy0]
  · intro h
    by_cases h0 : x.toInt = 0
    · exact Or.inr ⟨h0, h ▸ h0⟩
    · left
      apply ext_of_steps
      · rw [Bool.eq_iff_iff, negative_iff_of_toInt_ne h0, negative_iff_of_toInt_ne (h ▸ h0), h]
      · rw [steps_of_isWhole hx, steps_of_isWhole hy, h]

lemma sameValue_iff_of_not_isZero {x y : Finite} (h : x.isZero = false ∨ y.isZero = false) :
    x.sameValue y = true ↔ x = y := by
  rcases h with h | h <;> simp [sameValue, h]

def value (x : Finite) : ℚ :=
  (if x.negative then -1 else 1) * (x.steps / stepsPerUnit)

lemma stepsPerUnit_ne_zero : (stepsPerUnit : ℚ) ≠ 0 := by
  exact_mod_cast stepsPerUnit_pos.ne'

lemma abs_value (x : Finite) : |x.value| = x.steps / stepsPerUnit := by
  have hnonneg : (0 : ℚ) ≤ x.steps / stepsPerUnit := by positivity
  have hsign : |if x.negative then (-1 : ℚ) else 1| = 1 := by split <;> simp
  rw [value, abs_mul, abs_of_nonneg hnonneg, hsign, one_mul]

lemma steps_eq_of_abs_value {x y : Finite} (h : |x.value| = |y.value|) : x.steps = y.steps := by
  rw [abs_value, abs_value, div_left_inj' stepsPerUnit_ne_zero] at h
  exact_mod_cast h

lemma value_eq_zero_iff (x : Finite) : x.value = 0 ↔ x.isZero = true := by
  rw [← abs_eq_zero, abs_value, div_eq_zero_iff, or_iff_left stepsPerUnit_ne_zero,
    Nat.cast_eq_zero, isZero_iff]

lemma negative_iff_of_not_isZero {x : Finite} (h : x.isZero = false) :
    x.negative = true ↔ x.value < 0 := by
  have hpos : 0 < |x.value| := by
    rw [abs_pos, ne_eq, value_eq_zero_iff, h]
    exact Bool.false_ne_true
  rw [abs_value] at hpos
  rw [value]
  split
  · rename_i hx
    rw [neg_one_mul]
    exact ⟨fun _ => neg_neg_of_pos hpos, fun _ => hx⟩
  · rename_i hx
    rw [one_mul]
    exact ⟨fun hn => absurd hn hx, fun hlt => absurd hlt hpos.le.not_gt⟩

theorem value_eq_iff {x y : Finite} : x.value = y.value ↔ x.sameValue y = true := by
  simp only [sameValue, Bool.or_eq_true, beq_iff_eq, Bool.and_eq_true]
  constructor
  · intro h
    by_cases hx : x.isZero = true
    · exact Or.inr ⟨hx, (value_eq_zero_iff y).mp (h ▸ (value_eq_zero_iff x).mpr hx)⟩
    · have hy : ¬ y.isZero = true := fun hy =>
        hx ((value_eq_zero_iff x).mp (h.trans ((value_eq_zero_iff y).mpr hy)))
      rw [Bool.not_eq_true] at hx hy
      left
      apply ext_of_steps
      · rw [Bool.eq_iff_iff, negative_iff_of_not_isZero hx, negative_iff_of_not_isZero hy, h]
      · exact steps_eq_of_abs_value (congrArg abs h)
  · rintro (rfl | ⟨hx, hy⟩)
    · rfl
    · rw [(value_eq_zero_iff x).mpr hx, (value_eq_zero_iff y).mpr hy]

lemma value_of_isWhole {x : Finite} (h : x.isWhole = true) : x.value = x.toInt := by
  have hmod : x.steps % stepsPerUnit = 0 := by simpa [isWhole] using h
  obtain ⟨n, hn⟩ := Nat.dvd_of_mod_eq_zero hmod
  have hdiv : x.steps / stepsPerUnit = n := by rw [hn, Nat.mul_div_cancel_left n stepsPerUnit_pos]
  rw [value, toInt, hdiv, hn, Nat.cast_mul, mul_div_cancel_left₀ _ stepsPerUnit_ne_zero]
  split <;> simp

lemma isWhole_of_value {x : Finite} {n : ℤ} (h : x.value = n) : x.isWhole = true := by
  have hsteps : x.steps = n.natAbs * stepsPerUnit := by
    have habs := congrArg abs h
    rw [abs_value, div_eq_iff stepsPerUnit_ne_zero, ← Int.cast_abs, Int.abs_eq_natAbs] at habs
    exact_mod_cast habs
  simp [isWhole, hsteps]

end AnswerCache.Binary64.Finite
