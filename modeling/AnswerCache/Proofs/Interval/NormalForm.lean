import AnswerCache.Proofs.Interval.Cover
import Mathlib.Data.List.Pairwise
import Mathlib.Data.List.Sort
import Mathlib.Data.Prod.Lex

/-!
A set of instants that a list of intervals covers has one normal form: pieces that are not empty, in
order, with a gap between any two. Simplifying a list gives it.
-/

namespace AnswerCache.Interval

/-- No piece is empty, and each ends before the next one starts. -/
structure IsNormal (is : List Interval) : Prop where
  nonempty : ∀ i ∈ is, i.start < i.stop
  apart : is.Pairwise fun i j => i.stop < j.start

variable {i j : Interval} {is js : List Interval}

lemma isNormal_nil : IsNormal [] :=
  ⟨fun _ h => absurd h List.not_mem_nil, List.Pairwise.nil⟩

lemma isNormal_singleton (h : i.start < i.stop) : IsNormal [i] :=
  ⟨List.forall_mem_singleton.mpr h, List.pairwise_singleton _ _⟩

lemma isNormal_append_iff : IsNormal (is ++ js) ↔
    IsNormal is ∧ IsNormal js ∧ ∀ i ∈ is, ∀ j ∈ js, i.stop < j.start := by
  constructor
  · rintro ⟨hnonempty, hapart⟩
    obtain ⟨his, hjs⟩ := List.forall_mem_append.mp hnonempty
    obtain ⟨hisApart, hjsApart, hbetween⟩ := List.pairwise_append.mp hapart
    exact ⟨⟨his, hisApart⟩, ⟨hjs, hjsApart⟩, hbetween⟩
  · rintro ⟨his, hjs, hbetween⟩
    exact ⟨List.forall_mem_append.mpr ⟨his.nonempty, hjs.nonempty⟩,
      List.pairwise_append.mpr ⟨his.apart, hjs.apart, hbetween⟩⟩

lemma isNormal_cons_iff :
    IsNormal (i :: is) ↔ i.start < i.stop ∧ (∀ j ∈ is, i.stop < j.start) ∧ IsNormal is := by
  constructor
  · rintro ⟨hnonempty, hapart⟩
    obtain ⟨hi, his⟩ := List.forall_mem_cons.mp hnonempty
    obtain ⟨hafter, hisApart⟩ := List.pairwise_cons.mp hapart
    exact ⟨hi, hafter, his, hisApart⟩
  · rintro ⟨hi, hafter, his⟩
    exact ⟨List.forall_mem_cons.mpr ⟨hi, his.nonempty⟩, List.pairwise_cons.mpr ⟨hafter, his.apart⟩⟩

section Unique

namespace IsNormal

lemma sorted (h : IsNormal is) : is.Pairwise fun i j => i.start < j.start := by
  refine h.apart.imp fun {i j} hij => ?_
  exact lt_of_le_of_lt i.start_le_stop hij

lemma filter (h : IsNormal is) (p : Interval → Bool) : IsNormal (is.filter p) :=
  ⟨fun i hi => h.nonempty i (List.mem_filter.mp hi).1, h.apart.filter p⟩

lemma eq_or_apart (h : IsNormal is) (hi : i ∈ is) (hj : j ∈ is) :
    i = j ∨ i.stop < j.start ∨ j.stop < i.start := by
  have hsymm : Std.Symm fun i j : Interval => i.stop < j.start ∨ j.stop < i.start :=
    ⟨fun _ _ => Or.symm⟩
  have hpairs : is.Pairwise fun i j => i.stop < j.start ∨ j.stop < i.start := h.apart.imp Or.inl
  exact or_iff_not_imp_left.mpr (hpairs.forall hi hj)

lemma eq_of_contains (h : IsNormal is) (hi : i ∈ is) (hj : j ∈ is) {t : Instant}
    (hit : i.Contains t) (hjt : j.Contains t) : i = j := by
  rcases h.eq_or_apart hi hj with heq | hlt | hlt
  · exact heq
  · exact absurd (hjt.1.trans_lt hit.2) hlt.not_gt
  · exact absurd (hit.1.trans_lt hjt.2) hlt.not_gt

lemma not_covers_stop (h : IsNormal is) (hi : i ∈ is) : ¬ Covers is i.stop := by
  rintro ⟨j, hj, hle, hlt⟩
  rcases h.eq_or_apart hi hj with rfl | hij | hji
  · exact lt_irrefl _ hlt
  · exact absurd hle hij.not_ge
  · exact absurd (hji.trans_le i.start_le_stop) hlt.not_gt

lemma exists_around (h : IsNormal is) (hi : i.start < i.stop)
    (hcovered : ∀ t, i.Contains t → Covers is t) :
    ∃ j ∈ is, j.start ≤ i.start ∧ i.stop ≤ j.stop := by
  obtain ⟨j, hj, hle, hlt⟩ := hcovered i.start (contains_start hi)
  refine ⟨j, hj, hle, not_lt.mp fun hshort => ?_⟩
  exact h.not_covers_stop hj (hcovered j.stop ⟨hlt.le, hshort⟩)

lemma mem_of_covers (his : IsNormal is) (hjs : IsNormal js)
    (h : ∀ t, Covers is t ↔ Covers js t) (hi : i ∈ is) : i ∈ js := by
  obtain ⟨j, hj, hstart, hstop⟩ :=
    hjs.exists_around (his.nonempty i hi) fun t ht => (h t).mp ⟨i, hi, ht⟩
  obtain ⟨k, hk, hkstart, hkstop⟩ :=
    his.exists_around (hjs.nonempty j hj) fun t ht => (h t).mpr ⟨j, hj, ht⟩
  -- the piece around the piece around `i` is `i` itself
  have hstarts := contains_start (his.nonempty i hi)
  obtain rfl := his.eq_of_contains hi hk hstarts
    ⟨hkstart.trans hstart, hstarts.2.trans_le (hstop.trans hkstop)⟩
  rwa [eq_of_ends (le_antisymm hkstart hstart) (le_antisymm hstop hkstop)]

lemma eq_of_covers (his : IsNormal is) (hjs : IsNormal js)
    (h : ∀ t, Covers is t ↔ Covers js t) : is = js := by
  refine his.sorted.eq_of_mem_iff hjs.sorted fun i => ?_
  constructor
  · exact mem_of_covers his hjs h
  · exact mem_of_covers hjs his fun t => (h t).symm

lemma eq_nil_iff (h : IsNormal is) : is = [] ↔ ∀ t, ¬ Covers is t := by
  constructor
  · rintro rfl
    exact covers_nil
  · intro hnone
    exact h.eq_of_covers isNormal_nil fun t => iff_of_false (hnone t) (covers_nil t)

end IsNormal

end Unique

section Merging

variable {piece : Interval}

def StartsInOrder (is : List Interval) : Prop :=
  is.Pairwise fun i j => i.start ≤ j.start

lemma stop_extendTo (i j : Interval) : (i.extendTo j).stop = max i.stop j.stop := by
  rw [extendTo]
  split
  · rename_i h
    exact (max_eq_right h).symm
  · rename_i h
    exact (max_eq_left (not_le.mp h).le).symm

lemma start_extendTo (i j : Interval) : (i.extendTo j).start = i.start := by
  rw [extendTo]
  split <;> rfl

lemma abutsOrOverlaps_iff (h : i.start ≤ j.start) :
    i.abutsOrOverlaps j = true ↔ j.start ≤ i.stop := by
  rw [abutsOrOverlaps, Bool.and_eq_true, decide_eq_true_iff, decide_eq_true_iff]
  exact and_iff_right (h.trans j.start_le_stop)

lemma contains_extendTo (hstart : i.start ≤ j.start) (htouch : j.start ≤ i.stop) (t : Instant) :
    (i.extendTo j).Contains t ↔ i.Contains t ∨ j.Contains t := by
  rw [Contains, start_extendTo, stop_extendTo, lt_max_iff, Contains, Contains]
  constructor
  · rintro ⟨hle, hlt | hlt⟩
    · exact Or.inl ⟨hle, hlt⟩
    · rcases lt_or_ge t i.stop with hin | hout
      · exact Or.inl ⟨hle, hin⟩
      · exact Or.inr ⟨htouch.trans hout, hlt⟩
  · rintro (⟨hle, hlt⟩ | ⟨hle, hlt⟩)
    · exact ⟨hle, Or.inl hlt⟩
    · exact ⟨hstart.trans hle, Or.inr hlt⟩

lemma StartsInOrder.extendTo (h : StartsInOrder (piece :: i :: is)) :
    StartsInOrder (piece.extendTo i :: is) := by
  obtain ⟨hpiece, hrest⟩ := List.pairwise_cons.mp h
  refine List.pairwise_cons.mpr ⟨fun j hj => ?_, (List.pairwise_cons.mp hrest).2⟩
  rw [start_extendTo]
  exact hpiece j (List.mem_cons_of_mem i hj)

lemma covers_mergeFrom (h : StartsInOrder (piece :: is)) (t : Instant) :
    Covers (mergeFrom piece is) t ↔ Covers (piece :: is) t := by
  induction is generalizing piece with
  | nil => rfl
  | cons i rest ih =>
    obtain ⟨hpiece, hrest⟩ := List.pairwise_cons.mp h
    have hi : piece.start ≤ i.start := hpiece i List.mem_cons_self
    rw [mergeFrom]
    split
    · rename_i htouch
      rw [abutsOrOverlaps_iff hi] at htouch
      rw [ih h.extendTo, covers_cons, contains_extendTo hi htouch, covers_cons, covers_cons,
        or_assoc]
    · rw [covers_cons, ih hrest, covers_cons piece]

lemma isNormal_mergeFrom (h : StartsInOrder (piece :: is))
    (hnonempty : ∀ i ∈ piece :: is, i.start < i.stop) :
    IsNormal (mergeFrom piece is) ∧ ∀ i ∈ mergeFrom piece is, piece.start ≤ i.start := by
  induction is generalizing piece with
  | nil =>
    rw [mergeFrom]
    exact ⟨isNormal_singleton (hnonempty piece List.mem_cons_self),
      List.forall_mem_singleton.mpr le_rfl⟩
  | cons i rest ih =>
    obtain ⟨hpiece, hrest⟩ := List.pairwise_cons.mp h
    obtain ⟨hlt, hnonempty⟩ := List.forall_mem_cons.mp hnonempty
    have hi : piece.start ≤ i.start := hpiece i List.mem_cons_self
    rw [mergeFrom]
    split
    · have hextended : (piece.extendTo i).start < (piece.extendTo i).stop := by
        rw [start_extendTo, stop_extendTo]
        exact lt_max_of_lt_left hlt
      have hmerged := ih h.extendTo
        (List.forall_mem_cons.mpr ⟨hextended, (List.forall_mem_cons.mp hnonempty).2⟩)
      rwa [start_extendTo] at hmerged
    · rename_i hapart
      rw [abutsOrOverlaps_iff hi, not_le] at hapart
      obtain ⟨hmerged, hstarts⟩ := ih hrest hnonempty
      constructor
      · exact isNormal_cons_iff.mpr
          ⟨hlt, fun j hj => hapart.trans_le (hstarts j hj), hmerged⟩
      · exact List.forall_mem_cons.mpr ⟨le_rfl, fun j hj => hi.trans (hstarts j hj)⟩

end Merging

section Simplifying

lemma precedes_iff (i j : Interval) :
    i.precedes j = true ↔ toLex (i.start, i.stop) ≤ toLex (j.start, j.stop) := by
  have hstart : Ord.compare i.start.position j.start.position = .eq ↔ i.start = j.start := by
    rw [Int.compare_eq_eq]
    exact Instant.position_injective.eq_iff
  rw [precedes, compare, Ordering.isLE_then_iff_or, hstart, Int.isLE_compare, Int.compare_eq_lt,
    Prod.Lex.toLex_le_toLex]
  rfl

lemma startsInOrder_mergeSort (is : List Interval) : StartsInOrder (is.mergeSort precedes) := by
  have hsorted : (is.mergeSort precedes).Pairwise fun i j => i.precedes j = true := by
    apply List.pairwise_mergeSort
    · intro i j k hij hjk
      rw [precedes_iff] at *
      exact hij.trans hjk
    · intro i j
      rw [Bool.or_eq_true, precedes_iff, precedes_iff]
      exact le_total _ _
  refine hsorted.imp fun {i j} hij => ?_
  rcases Prod.Lex.toLex_le_toLex.mp ((precedes_iff i j).mp hij) with hlt | ⟨heq, -⟩
  · exact le_of_lt hlt
  · exact le_of_eq heq

lemma covers_merge (h : StartsInOrder is) (t : Instant) : Covers (merge is) t ↔ Covers is t := by
  cases is with
  | nil => rfl
  | cons piece rest => exact covers_mergeFrom h t

lemma isNormal_merge (h : StartsInOrder is) (hnonempty : ∀ i ∈ is, i.start < i.stop) :
    IsNormal (merge is) := by
  cases is with
  | nil => exact isNormal_nil
  | cons piece rest => exact (isNormal_mergeFrom h hnonempty).1

lemma covers_simplify (is : List Interval) (t : Instant) :
    Covers (simplify is) t ↔ Covers is t := by
  rw [simplify, covers_merge (startsInOrder_mergeSort _), covers_congr fun _ => List.mem_mergeSort]
  refine covers_filter fun i _ ht => ?_
  rw [Bool.not_eq_true', isEmpty_eq_false_iff]
  exact ht.start_lt_stop

lemma isNormal_simplify (is : List Interval) : IsNormal (simplify is) := by
  refine isNormal_merge (startsInOrder_mergeSort _) fun i hi => ?_
  have hkept := (List.mem_filter.mp (List.mem_mergeSort.mp hi)).2
  rwa [Bool.not_eq_true', isEmpty_eq_false_iff] at hkept

lemma eq_simplify_iff : is = simplify js ↔ IsNormal is ∧ ∀ t, Covers is t ↔ Covers js t := by
  constructor
  · rintro rfl
    exact ⟨isNormal_simplify js, covers_simplify js⟩
  · rintro ⟨hnormal, hcovers⟩
    refine hnormal.eq_of_covers (isNormal_simplify js) fun t => ?_
    rw [hcovers, covers_simplify]

lemma simplify_eq_simplify_iff : simplify is = simplify js ↔ ∀ t, Covers is t ↔ Covers js t := by
  rw [eq_simplify_iff, and_iff_right (isNormal_simplify is)]
  simp only [covers_simplify]

lemma contains_of_cut {k : Interval} (hstart : i.start = j.start) (hcut : j.stop = k.start)
    (hstop : k.stop = i.stop) (t : Instant) : i.Contains t ↔ j.Contains t ∨ k.Contains t := by
  have hj := j.start_le_stop
  have hk := k.start_le_stop
  rw [Contains, Contains, Contains, hstart, ← hstop, ← hcut]
  constructor
  · rintro ⟨hle, hlt⟩
    exact (lt_or_ge t j.stop).imp (⟨hle, ·⟩) (⟨·, hlt⟩)
  · rintro (⟨hle, hlt⟩ | ⟨hle, hlt⟩)
    · exact ⟨hle, hlt.trans_le (hcut.trans_le hk)⟩
    · exact ⟨hj.trans hle, hlt⟩

/-- Simplifying gives the one normal form of the instants that are covered: two lists are simplified
to the same pieces exactly when they cover the same instants, however they are ordered, repeated or
cut. -/
theorem simplify_is_normal_form (is js : List Interval) :
    IsNormal (simplify is) ∧
      (simplify is).Pairwise (fun i j => i.start < j.start) ∧
      (∀ t, Covers (simplify is) t ↔ Covers is t) ∧
      (simplify is = simplify js ↔ ∀ t, Covers is t ↔ Covers js t) ∧
      (is = simplify js ↔ IsNormal is ∧ ∀ t, Covers is t ↔ Covers js t) ∧
      simplify (simplify is) = simplify is ∧
      ((∀ i, i ∈ is ↔ i ∈ js) → simplify is = simplify js) ∧
      ∀ i j k, i.start = j.start → j.stop = k.start → k.stop = i.stop →
        simplify (is ++ j :: k :: js) = simplify (is ++ i :: js) := by
  have hnormal := isNormal_simplify is
  refine ⟨hnormal, hnormal.sorted, covers_simplify is, simplify_eq_simplify_iff, eq_simplify_iff,
    ?idempotent, ?members, ?cut⟩
  case idempotent => exact simplify_eq_simplify_iff.mpr (covers_simplify is)
  case members => exact fun hsame => simplify_eq_simplify_iff.mpr (covers_congr hsame)
  case cut =>
    intro i j k hstart hcut hstop
    refine simplify_eq_simplify_iff.mpr fun t => ?_
    rw [covers_append, covers_append, covers_cons, covers_cons, covers_cons,
      contains_of_cut hstart hcut hstop, or_assoc]

def ofSeconds (start stop : Fin 60) (h : start ≤ stop) : Interval where
  start := .ofSecond start
  stop := .ofSecond stop
  start_milli := rfl
  stop_milli := rfl
  start_le_stop := Instant.ofSecond_mono h

theorem cut_and_reversed_is_whole :
    let whole := ofSeconds 0 2 (by decide)
    let first := ofSeconds 0 1 (by decide)
    let second := ofSeconds 1 2 (by decide)
    (∀ i, i ∈ [second, first] ↔ i ∈ [first, second]) ∧
      whole.start = first.start ∧ first.stop = second.start ∧ second.stop = whole.stop ∧
      simplify [second, first] = simplify [whole] := by
  intro whole first second
  have hmembers : ∀ i, i ∈ [second, first] ↔ i ∈ [first, second] := by
    intro i
    simp [or_comm]
  obtain ⟨-, -, -, -, -, -, hturned, -⟩ := simplify_is_normal_form [second, first] [first, second]
  obtain ⟨-, -, -, -, -, -, -, hcut⟩ := simplify_is_normal_form [] []
  exact ⟨hmembers, rfl, rfl, rfl, (hturned hmembers).trans (hcut whole first second rfl rfl rfl)⟩

end Simplifying

end AnswerCache.Interval
