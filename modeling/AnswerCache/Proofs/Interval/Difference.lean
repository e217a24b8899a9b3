import AnswerCache.Proofs.Interval.NormalForm

namespace AnswerCache.Interval

/-- The normal form of what is left of an interval without the instants that a list covers. -/
structure IsDifference (i : Interval) (covered pieces : List Interval) : Prop where
  covers : ∀ t, Covers pieces t ↔ i.Contains t ∧ ¬ Covers covered t
  normal : IsNormal pieces

variable {i piece : Interval} {rest pieces covered : List Interval}

lemma IsDifference.inside (h : IsDifference i covered pieces) {p : Interval} (hp : p ∈ pieces) :
    i.start ≤ p.start ∧ p.stop ≤ i.stop := by
  have hinside : ∀ t, p.Contains t → i.Contains t := fun t ht =>
    ((h.covers t).mp ⟨p, hp, ht⟩).1
  have hstart := hinside p.start (contains_start (h.normal.nonempty p hp))
  refine ⟨hstart.1, not_lt.mp fun hlong => ?_⟩
  exact lt_irrefl _ (hinside i.stop ⟨hstart.2.le, hlong⟩).2

section Steps

def partBefore (i piece : Interval) : List Interval :=
  if h : i.start < piece.start then
    [{ i with stop := piece.start, stop_milli := piece.start_milli, start_le_stop := le_of_lt h }]
  else []

def partAfter (i piece : Interval) (h : max i.start piece.stop < i.stop) : Interval :=
  { i with
    start := max i.start piece.stop
    start_milli := i.start_milli.max piece.stop_milli
    start_le_stop := le_of_lt h }

lemma cutOut_cons (i piece : Interval) (rest : List Interval) :
    cutOut i (piece :: rest) =
      if h : max i.start piece.stop < i.stop then
        i.partBefore piece ++ cutOut (i.partAfter piece h) rest
      else i.partBefore piece :=
  rfl

lemma covers_partBefore (i piece : Interval) (t : Instant) :
    Covers (i.partBefore piece) t ↔ i.start ≤ t ∧ t < piece.start := by
  rw [partBefore]
  split
  · simp [Contains]
  · rename_i h
    refine iff_of_false (covers_nil t) fun ht => h ?_
    exact lt_of_le_of_lt ht.1 ht.2

lemma stop_of_mem_partBefore {p : Interval} (h : p ∈ i.partBefore piece) :
    p.stop = piece.start := by
  rw [partBefore] at h
  split at h
  · rw [List.mem_singleton.mp h]
  · exact absurd h List.not_mem_nil

lemma isNormal_partBefore (i piece : Interval) : IsNormal (i.partBefore piece) := by
  rw [partBefore]
  split
  · rename_i h
    exact isNormal_singleton h
  · exact isNormal_nil

lemma isDifference_nil (i : Interval) : IsDifference i [] (cutOut i []) := by
  rw [cutOut]
  split
  · rename_i hempty
    have hnone : ∀ t, ¬ i.Contains t := fun t ht =>
      ht.start_lt_stop.ne (beq_iff_eq.mp hempty)
    exact ⟨fun t => by simp [hnone], isNormal_nil⟩
  · rename_i hnonempty
    have hlt : i.start < i.stop := isEmpty_eq_false_iff.mp (by simpa using hnonempty)
    exact ⟨fun t => by simp, isNormal_singleton hlt⟩

section Piece

variable (hpiece : piece.start < piece.stop) (hrest : ∀ p ∈ rest, piece.stop < p.start)
include hpiece hrest

lemma split_at_piece (t : Instant) : i.Contains t ∧ ¬ Covers (piece :: rest) t ↔
    (i.start ≤ t ∧ t < piece.start ∧ t < i.stop) ∨
      (max i.start piece.stop ≤ t ∧ t < i.stop) ∧ ¬ Covers rest t := by
  have hbehind : Covers rest t → piece.stop < t := by
    rintro ⟨p, hp, ht⟩
    exact (hrest p hp).trans_le ht.1
  rw [covers_cons, not_or, max_le_iff]
  constructor
  · rintro ⟨hin, hout, hfree⟩
    rcases lt_or_ge t piece.start with hlt | hge
    · exact Or.inl ⟨hin.1, hlt, hin.2⟩
    · exact Or.inr ⟨⟨⟨hin.1, not_lt.mp fun hlt => hout ⟨hge, hlt⟩⟩, hin.2⟩, hfree⟩
  · rintro (⟨hle, hlt, hstop⟩ | ⟨⟨⟨hle, hge⟩, hstop⟩, hfree⟩)
    · refine ⟨⟨hle, hstop⟩, fun hin => hlt.not_ge hin.1, fun hcovered => ?_⟩
      exact lt_asymm (hlt.trans hpiece) (hbehind hcovered)
    · exact ⟨⟨hle, hstop⟩, fun hin => hin.2.not_ge hge, hfree⟩

lemma IsDifference.cons (hlt : max i.start piece.stop < i.stop)
    (h : IsDifference (i.partAfter piece hlt) rest pieces) :
    IsDifference i (piece :: rest) (i.partBefore piece ++ pieces) := by
  have hpieceStop : piece.start < max i.start piece.stop := lt_max_of_lt_right hpiece
  constructor
  · intro t
    have hbefore : t < piece.start → t < i.stop := fun ht => ht.trans (hpieceStop.trans hlt)
    rw [split_at_piece hpiece hrest, covers_append, covers_partBefore, h.covers]
    exact or_congr_left (and_congr_right fun _ => (and_iff_left_of_imp hbefore).symm)
  · refine isNormal_append_iff.mpr ⟨isNormal_partBefore i piece, h.normal, fun p hp q hq => ?_⟩
    rw [stop_of_mem_partBefore hp]
    exact hpieceStop.trans_le (h.inside hq).1

lemma isDifference_partBefore (hreached : ¬ max i.start piece.stop < i.stop)
    (hmeets : piece.start < i.stop) : IsDifference i (piece :: rest) (i.partBefore piece) := by
  refine ⟨fun t => ?_, isNormal_partBefore i piece⟩
  have hnothing : ¬ ((max i.start piece.stop ≤ t ∧ t < i.stop) ∧ ¬ Covers rest t) :=
    fun h => hreached (h.1.1.trans_lt h.1.2)
  have hbefore : t < piece.start → t < i.stop := fun ht => ht.trans hmeets
  rw [split_at_piece hpiece hrest, or_iff_left hnothing, covers_partBefore]
  exact and_congr_right fun _ => (and_iff_left_of_imp hbefore).symm

end Piece

end Steps

lemma isDifference_cutOut (hcovered : IsNormal covered) (hmeets : ∀ p ∈ covered, p.start < i.stop) :
    IsDifference i covered (cutOut i covered) := by
  -- `i` is what the sweep has still to do, so it starts further on behind each piece
  induction covered generalizing i with
  | nil => exact isDifference_nil i
  | cons piece rest ih =>
    obtain ⟨hpiece, hafter, hrest⟩ := isNormal_cons_iff.mp hcovered
    obtain ⟨hmeetsPiece, hmeetsRest⟩ := List.forall_mem_cons.mp hmeets
    rw [cutOut_cons]
    split
    · rename_i hlt
      exact IsDifference.cons hpiece hafter hlt (ih hrest hmeetsRest)
    · rename_i hreached
      exact isDifference_partBefore hpiece hafter hreached hmeetsPiece

lemma isDifference_subtract (i : Interval) (covered : List Interval) :
    IsDifference i covered (i.subtract covered) := by
  have hcut : IsDifference i ((simplify covered).filter i.intersects) (i.subtract covered) := by
    refine isDifference_cutOut ((isNormal_simplify covered).filter _) fun p hp => ?_
    have hmeets := intersects_eq_true_iff.mp (List.mem_filter.mp hp).2
    exact hmeets.2
  refine ⟨fun t => ?_, hcut.normal⟩
  rw [hcut.covers]
  refine and_congr_right fun ht => not_congr ?_
  rw [covers_filter fun p _ hp => ht.intersects hp, covers_simplify]

/-- An instant is left when it lies in the interval and is not covered; what is left stands in
pieces that are not empty, in order, inside the interval and apart from one another. -/
theorem subtract_is_difference (i : Interval) (covered : List Interval) :
    (∀ t, Covers (i.subtract covered) t ↔ i.Contains t ∧ ¬ Covers covered t) ∧
      IsNormal (i.subtract covered) ∧
      (i.subtract covered).Pairwise (fun p q => p.start < q.start) ∧
      ∀ p ∈ i.subtract covered, i.start ≤ p.start ∧ p.stop ≤ i.stop := by
  have h := isDifference_subtract i covered
  exact ⟨h.covers, h.normal, h.normal.sorted, fun _ => h.inside⟩

end AnswerCache.Interval
