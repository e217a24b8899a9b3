import AnswerCache.Proofs.Segment.Coverage

/-!
Which segments a request selects: those that share an instant with one of its intervals, and with
them the empty segments strictly inside an interval and those strictly around an empty one.
-/

namespace AnswerCache

open AnswerCache.Interval (Covers)

namespace Interval

def EmptyInside (i j : Interval) : Prop :=
  i.start = i.stop ∧ j.start < i.start ∧ i.start < j.stop

variable {i j : Interval}

lemma EmptyInside.intersects (h : i.EmptyInside j) : i.intersects j = true := by
  obtain ⟨hempty, hafter, hbefore⟩ := h
  exact intersects_eq_true_iff.mpr ⟨hbefore, hempty ▸ hafter⟩

lemma intersects_comm (i j : Interval) : i.intersects j = j.intersects i := by
  rw [intersects, intersects, Bool.and_comm]

lemma exists_shared (hi : i.start < i.stop) (hj : j.start < j.stop)
    (h : i.intersects j = true) : ∃ t, i.Contains t ∧ j.Contains t := by
  obtain ⟨hij, hji⟩ := intersects_eq_true_iff.mp h
  exact ⟨max i.start j.start, ⟨le_max_left _ _, max_lt hi hji⟩, le_max_right _ _, max_lt hij hj⟩

lemma intersects_iff (i j : Interval) : i.intersects j = true ↔
    (∃ t, i.Contains t ∧ j.Contains t) ∨ i.EmptyInside j ∨ j.EmptyInside i := by
  constructor
  · intro h
    obtain ⟨hij, hji⟩ := intersects_eq_true_iff.mp h
    rcases i.start_le_stop.lt_or_eq with hi | hi
    · rcases j.start_le_stop.lt_or_eq with hj | hj
      · exact Or.inl (exists_shared hi hj h)
      · exact Or.inr (Or.inr ⟨hj, hj ▸ hij, hji⟩)
    · exact Or.inr (Or.inl ⟨hi, hi ▸ hji, hij⟩)
  · rintro (⟨t, hi, hj⟩ | hi | hj)
    · exact hi.intersects hj
    · exact hi.intersects
    · rw [intersects_comm]
      exact hj.intersects

end Interval

namespace Segment

def SharesInstant (s : Segment) (intervals : List Interval) : Prop :=
  ∃ t, Covers intervals t ∧ s.interval.Contains t

def MeetsEmptily (s : Segment) (intervals : List Interval) : Prop :=
  ∃ i ∈ intervals, i.EmptyInside s.interval ∨ s.interval.EmptyInside i

lemma meets_iff (s : Segment) (intervals : List Interval) :
    s.Meets intervals ↔ s.SharesInstant intervals ∨ s.MeetsEmptily intervals := by
  have hshares : s.SharesInstant intervals ↔
      ∃ i ∈ intervals, ∃ t, i.Contains t ∧ s.interval.Contains t := by
    constructor
    · rintro ⟨t, ⟨i, hi, hit⟩, hst⟩
      exact ⟨i, hi, t, hit, hst⟩
    · rintro ⟨i, hi, t, hit, hst⟩
      exact ⟨t, ⟨i, hi, hit⟩, hst⟩
  rw [hshares, Meets, MeetsEmptily, ← exists_or]
  apply exists_congr
  intro i
  rw [Interval.intersects_iff, and_or_left]

end Segment

namespace Registry

variable {r : Registry} {source : String}

/-- A request selects every loaded segment that meets it once, in the order of the identifiers. These
are the segments that share an instant with it exactly when every loaded one that meets it because
something is empty shares an instant with it as well. -/
theorem selection_is_of_meeting_segments (hr : r.Reachable) (htracked : r.isTracked source = true)
    (intervals : List Interval) :
    ∃ segments, r.intersecting? source intervals = some segments ∧
      segments.Pairwise (fun s t => s.identifier < t.identifier) ∧
      (∀ s, s ∈ segments ↔ r.Loaded s ∧ s.dataSource = source ∧
        (s.SharesInstant intervals ∨ s.MeetsEmptily intervals)) ∧
      ((∀ s, s ∈ segments ↔ r.Loaded s ∧ s.dataSource = source ∧ s.SharesInstant intervals) ↔
        ∀ s, r.Loaded s → s.dataSource = source → s.MeetsEmptily intervals →
          s.SharesInstant intervals) := by
  obtain ⟨segments, hsegments, hmem⟩ := exists_intersecting hr.filed htracked intervals
  simp only [Segment.meets_iff] at hmem
  refine ⟨segments, hsegments, intersecting?_pairwise hr.filed hsegments, hmem, ?_⟩
  constructor
  · intro hshared s hloaded hsource hempty
    have hs : s ∈ segments := (hmem s).mpr ⟨hloaded, hsource, Or.inr hempty⟩
    exact ((hshared s).mp hs).2.2
  · intro hshares s
    rw [hmem]
    apply and_congr_right
    intro hloaded
    apply and_congr_right
    intro hsource
    exact or_iff_left_of_imp (hshares s hloaded hsource)

theorem crossing_segment_is_selected :
    let request : List Interval := [.ofSeconds 1 3 (by decide)]
    twoSeconds.Reachable ∧ twoSeconds.isTracked "events" = true ∧
      ∃ segments, twoSeconds.intersecting? "events" request = some segments ∧
        segments.Pairwise (fun s t => s.identifier < t.identifier) ∧
        ∀ s, s ∈ segments ↔
          twoSeconds.Loaded s ∧ s.dataSource = "events" ∧ s.SharesInstant request := by
  intro request
  have hreachable : twoSeconds.Reachable := ⟨_, rfl⟩
  have htracked : twoSeconds.isTracked "events" = true := by rfl
  obtain ⟨segments, hsegments, hsorted, -, hexact⟩ :=
    selection_is_of_meeting_segments hreachable htracked request
  refine ⟨hreachable, htracked, segments, hsegments, hsorted, hexact.mpr fun s hloaded _ _ => ?_⟩
  -- the second that the segment and the request share begins at 1
  obtain rfl := (loaded_holding_iff _ s).mp hloaded
  exact ⟨.ofSecond 1, ⟨_, List.mem_singleton_self _, by decide⟩, by decide⟩

def emptySegment (n : Fin 60) : Segment :=
  .new "events" (.ofSeconds n n (Nat.le_refl n)) "v1"

theorem empty_segment_is_selected :
    let request : List Interval := [.ofSeconds 0 2 (by decide)]
    let s := emptySegment 1
    (holding s).Reachable ∧ (holding s).isTracked "events" = true ∧
      (holding s).intersecting? "events" request = some [s] ∧
      ¬ ∀ t, t ∈ [s] ↔ (holding s).Loaded t ∧ t.dataSource = "events" ∧
        t.SharesInstant request := by
  intro request s
  refine ⟨⟨_, rfl⟩, rfl, by decide +kernel, fun hshared => ?_⟩
  obtain ⟨-, -, t, -, hstart, hstop⟩ := (hshared s).mp (List.mem_singleton_self s)
  exact absurd (hstart.trans_lt hstop) (lt_irrefl _)

end Registry

end AnswerCache
