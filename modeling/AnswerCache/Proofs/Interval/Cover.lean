import AnswerCache.Interval.Cover
import AnswerCache.Proofs.Time.ReadBack
import Mathlib.Order.Lattice

namespace AnswerCache

namespace Instant

lemma position_injective : Function.Injective position := by
  intro s t h
  have hs := s.nano_lt
  have ht := t.nano_lt
  simp only [position, perSecond] at hs ht h
  have hsecond : s.second = t.second := by omega
  have hnano : s.nano = t.nano := by omega
  cases s
  cases t
  simp_all

instance : LinearOrder Instant where
  le := (· ≤ ·)
  lt := (· < ·)
  max := max
  le_refl t := Int.le_refl t.position
  le_trans _ _ _ := Int.le_trans
  lt_iff_le_not_ge _ _ := Int.lt_iff_le_and_not_ge
  le_antisymm _ _ hst hts := position_injective (Int.le_antisymm hst hts)
  le_total s t := Int.le_total s.position t.position
  toDecidableLE := inferInstance
  toDecidableLT := inferInstance
  toDecidableEq := inferInstance

lemma IsMilli.max {s t : Instant} (hs : s.IsMilli) (ht : t.IsMilli) : (max s t).IsMilli := by
  rcases max_choice s t with h | h
  · rwa [h]
  · rwa [h]

lemma floorMilli_le (t : Instant) : t.floorMilli ≤ t := by
  change t.floorMilli.position ≤ t.position
  have hnano := Nat.div_mul_le_self t.nano perMilli
  simp only [position, floorMilli]
  omega

lemma le_floorMilli_iff {s : Instant} (hs : s.IsMilli) (t : Instant) :
    s ≤ t.floorMilli ↔ s ≤ t := by
  constructor
  · intro h
    exact h.trans t.floorMilli_le
  · intro h
    rw [← floorMilli_of_isMilli hs]
    exact floorMilli_mono h

lemma two_perSecond_pos : 0 < 2 * perSecond := by
  decide

def ofSecond (n : Fin 60) : Instant where
  second := n
  nano := 0
  nano_lt := two_perSecond_pos
  leap_last h := absurd h (by decide)
  in_range := by
    revert n
    decide

lemma ofSecond_mono {m n : Fin 60} (h : m ≤ n) : ofSecond m ≤ ofSecond n := by
  change (ofSecond m).position ≤ (ofSecond n).position
  have hle : (m : Int) ≤ n := by exact_mod_cast h
  simp only [position, ofSecond, perSecond]
  omega

end Instant

namespace Interval

variable {i j : Interval} {is js : List Interval} {t : Instant}

lemma eq_of_ends (hstart : i.start = j.start) (hstop : i.stop = j.stop) : i = j := by
  cases i
  cases j
  simp_all

lemma isEmpty_eq_false_iff : i.isEmpty = false ↔ i.start < i.stop := by
  rw [isEmpty, beq_eq_false_iff_ne]
  exact i.start_le_stop.lt_iff_ne.symm

lemma Contains.start_lt_stop (h : i.Contains t) : i.start < i.stop :=
  lt_of_le_of_lt h.1 h.2

lemma contains_start (h : i.start < i.stop) : i.Contains i.start :=
  ⟨le_rfl, h⟩

lemma intersects_eq_true_iff : i.intersects j = true ↔ i.start < j.stop ∧ j.start < i.stop := by
  rw [intersects, Bool.and_eq_true, decide_eq_true_iff, decide_eq_true_iff]

lemma Contains.intersects (hi : i.Contains t) (hj : j.Contains t) : i.intersects j = true :=
  intersects_eq_true_iff.mpr ⟨lt_of_le_of_lt hi.1 hj.2, lt_of_le_of_lt hj.1 hi.2⟩

@[simp] lemma covers_nil (t : Instant) : ¬ Covers [] t := by
  simp [Covers]

@[simp] lemma covers_cons (i : Interval) (is : List Interval) (t : Instant) :
    Covers (i :: is) t ↔ i.Contains t ∨ Covers is t := by
  simp [Covers]

@[simp] lemma covers_append (is js : List Interval) (t : Instant) :
    Covers (is ++ js) t ↔ Covers is t ∨ Covers js t := by
  simp [Covers, or_and_right, exists_or]

lemma covers_flatMap {α : Type} (xs : List α) (f : α → List Interval) (t : Instant) :
    Covers (xs.flatMap f) t ↔ ∃ x ∈ xs, Covers (f x) t := by
  simp only [Covers, List.mem_flatMap]
  constructor
  · rintro ⟨i, ⟨x, hx, hi⟩, ht⟩
    exact ⟨x, hx, i, hi, ht⟩
  · rintro ⟨x, hx, i, hi, ht⟩
    exact ⟨i, ⟨x, hx, hi⟩, ht⟩

lemma covers_map {α : Type} (xs : List α) (f : α → Interval) (t : Instant) :
    Covers (xs.map f) t ↔ ∃ x ∈ xs, (f x).Contains t := by
  simp [Covers]

lemma covers_filterMap {α : Type} (xs : List α) (f : α → Option Interval) (t : Instant) :
    Covers (xs.filterMap f) t ↔ ∃ x ∈ xs, ∃ i, f x = some i ∧ i.Contains t := by
  simp only [Covers, List.mem_filterMap]
  constructor
  · rintro ⟨i, ⟨x, hx, hi⟩, ht⟩
    exact ⟨x, hx, i, hi, ht⟩
  · rintro ⟨x, hx, i, hi, ht⟩
    exact ⟨i, ⟨x, hx, hi⟩, ht⟩

lemma covers_congr (h : ∀ i, i ∈ is ↔ i ∈ js) (t : Instant) : Covers is t ↔ Covers js t := by
  simp only [Covers, h]

lemma covers_filter {p : Interval → Bool} (h : ∀ i ∈ is, i.Contains t → p i = true) :
    Covers (is.filter p) t ↔ Covers is t := by
  constructor
  · rintro ⟨i, hi, ht⟩
    exact ⟨i, (List.mem_filter.mp hi).1, ht⟩
  · rintro ⟨i, hi, ht⟩
    exact ⟨i, List.mem_filter.mpr ⟨hi, h i hi ht⟩, ht⟩

end Interval

end AnswerCache
