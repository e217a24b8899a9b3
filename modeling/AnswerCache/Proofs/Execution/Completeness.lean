import AnswerCache.Execution.Segments
import AnswerCache.Proofs.Segment.Coverage

/-!
An answer from the registry says of itself what it lacks: the instants without data in one of the
tables, and those from which on data may still change. It is cacheable when there are neither.
-/

namespace AnswerCache

open AnswerCache.Interval (Covers IsNormal)

lemma Interval.contains_of?_iff (start stop t : Instant) :
    (∃ i, of? start stop = some i ∧ i.Contains t) ↔
      start.floorMilli ≤ t ∧ t < stop.floorMilli := by
  rw [of?]
  split
  · simp only [Option.some.injEq, exists_eq_left', Contains]
  · rename_i hreversed
    refine iff_of_false (by simp) ?_
    rintro ⟨hstart, hstop⟩
    exact hreversed (hstart.trans hstop.le)

lemma Verdict.ofIntervals_isCacheable_iff (missing volatile : List Interval) :
    (ofIntervals missing volatile).isCacheable = true ↔ missing = [] ∧ volatile = [] := by
  simp [ofIntervals, isCacheable]

namespace Registry

variable {r : Registry}

lemma contains_partFrom_iff (since : Instant) (i : Interval) (t : Instant) :
    (∃ part, partFrom since i = some part ∧ part.Contains t) ↔
      i.Contains t ∧ since.floorMilli ≤ t := by
  have hstart : (max i.start since).floorMilli = max i.start since.floorMilli := by
    rw [Monotone.map_max fun _ _ => Instant.floorMilli_mono,
      Instant.floorMilli_of_isMilli i.start_milli]
  rw [partFrom]
  split
  · rw [Interval.contains_of?_iff, hstart, Instant.floorMilli_of_isMilli i.stop_milli, max_le_iff]
    exact and_right_comm
  · rename_i hended
    have hstop : i.stop ≤ since.floorMilli :=
      (Instant.le_floorMilli_iff i.stop_milli since).mpr (not_lt.mp hended)
    refine iff_of_false (by simp) ?_
    rintro ⟨ht, hfrom⟩
    exact absurd (ht.2.trans_le hstop) hfrom.not_gt

lemma covers_volatileFor (volatileFrom : Option Instant) (q : Query) (t : Instant) :
    Covers (volatileFor volatileFrom q) t ↔
      ∃ since, volatileFrom = some since ∧ Covers q.intervals t ∧ since.floorMilli ≤ t := by
  cases volatileFrom with
  | none => simp [volatileFor]
  | some since =>
    simp only [volatileFor, Interval.covers_simplify, Interval.covers_filterMap,
      contains_partFrom_iff, Option.some.injEq, exists_eq_left']
    constructor
    · rintro ⟨i, hi, ht, hfrom⟩
      exact ⟨⟨i, hi, ht⟩, hfrom⟩
    · rintro ⟨⟨i, hi, ht⟩, hfrom⟩
      exact ⟨i, hi, ht, hfrom⟩

lemma isNormal_volatileFor (volatileFrom : Option Instant) (q : Query) :
    IsNormal (volatileFor volatileFrom q) := by
  cases volatileFrom with
  | none => exact Interval.isNormal_nil
  | some since => exact Interval.isNormal_simplify _

lemma covers_missingFor (hr : r.Filed) (q : Query) (t : Instant) :
    Covers (r.missingFor q) t ↔
      Covers q.intervals t ∧ ∃ table ∈ q.dataSource.tableNames, ¬ r.HasData table t := by
  simp only [missingFor, Interval.covers_simplify, Interval.covers_flatMap, covers_missing hr]
  constructor
  · rintro ⟨table, htable, ht, hnone⟩
    exact ⟨ht, table, htable, hnone⟩
  · rintro ⟨ht, table, htable, hnone⟩
    exact ⟨table, htable, ht, hnone⟩

lemma isNormal_missingFor (r : Registry) (q : Query) : IsNormal (r.missingFor q) :=
  Interval.isNormal_simplify _

lemma missingFor_eq_nil_iff (hr : r.Filed) (q : Query) :
    r.missingFor q = [] ↔
      ∀ table ∈ q.dataSource.tableNames, ∀ i ∈ q.intervals, ∀ t, i.Contains t →
        r.HasData table t := by
  rw [(r.isNormal_missingFor q).eq_nil_iff]
  simp only [covers_missingFor hr]
  constructor
  · intro h table htable i hi t ht
    by_contra hnone
    exact h t ⟨⟨i, hi, ht⟩, table, htable, hnone⟩
  · rintro h t ⟨⟨i, hi, ht⟩, table, htable, hnone⟩
    exact hnone (h table htable i hi t ht)

lemma volatileFor_eq_nil_iff (volatileFrom : Option Instant) (q : Query) :
    volatileFor volatileFrom q = [] ↔
      ∀ since, volatileFrom = some since →
        ∀ i ∈ q.intervals, i.start < i.stop → i.stop ≤ since := by
  rw [(isNormal_volatileFor volatileFrom q).eq_nil_iff]
  simp only [covers_volatileFor]
  constructor
  · intro h since hsince i hi hnonempty
    by_contra hlate
    -- the first instant of the interval that may still change
    have hfloor : since.floorMilli < i.stop := since.floorMilli_le.trans_lt (not_le.mp hlate)
    have ht : i.Contains (max i.start since.floorMilli) :=
      ⟨le_max_left _ _, max_lt hnonempty hfloor⟩
    exact h _ ⟨since, hsince, ⟨i, hi, ht⟩, le_max_right _ _⟩
  · rintro h t ⟨since, hsince, ⟨i, hi, ht⟩, hfrom⟩
    have hstop := h since hsince i hi ht.start_lt_stop
    rw [← Instant.le_floorMilli_iff i.stop_milli] at hstop
    exact absurd (ht.2.trans_le hstop) hfrom.not_gt

/-- An answer of the registry is declared incomplete exactly when it is. -/
theorem answer_declares_what_it_lacks (hr : r.Reachable) (volatileFrom : Option Instant)
    (q : Query) :
    ∃ a, (r.backend volatileFrom).answer q = .ok a ∧
      (∀ t, Covers a.missing t ↔
        Covers q.intervals t ∧ ∃ table ∈ q.dataSource.tableNames, ¬ r.HasData table t) ∧
      (∀ table, r.isTracked table = false → ∀ t, ¬ r.HasData table t) ∧
      (∀ t, Covers a.volatile t ↔
        ∃ since, volatileFrom = some since ∧ Covers q.intervals t ∧ since.floorMilli ≤ t) ∧
      IsNormal a.missing ∧ IsNormal a.volatile ∧
      ∀ ticket, (Response.ofBackend q a ticket).verdict.isCacheable = true ↔
        (∀ table ∈ q.dataSource.tableNames, ∀ i ∈ q.intervals, ∀ t, i.Contains t →
          r.HasData table t) ∧
        ∀ since, volatileFrom = some since →
          ∀ i ∈ q.intervals, i.start < i.stop → i.stop ≤ since := by
  refine ⟨r.answer volatileFrom q, rfl, covers_missingFor hr.filed q,
    fun _ => not_hasData_of_untracked, covers_volatileFor volatileFrom q,
    r.isNormal_missingFor q, isNormal_volatileFor volatileFrom q, fun ticket => ?_⟩
  rw [← missingFor_eq_nil_iff hr.filed, ← volatileFor_eq_nil_iff]
  exact Verdict.ofIntervals_isCacheable_iff _ _

theorem first_second_is_cacheable :
    let q : Query := { Query.blank .timeseries (.union ["events", "events"]) with
      intervals := [.ofSeconds 0 1 (by decide)] }
    twoSeconds.Reachable ∧
      ∃ a, (twoSeconds.backend (some (.ofSecond 1))).answer q = .ok a ∧
        (Response.ofBackend q a none).verdict.isCacheable = true := by
  intro q
  have hreachable : twoSeconds.Reachable := ⟨_, rfl⟩
  obtain ⟨a, hanswer, -, -, -, -, -, hcacheable⟩ :=
    answer_declares_what_it_lacks hreachable (some (.ofSecond 1)) q
  refine ⟨hreachable, a, hanswer, (hcacheable none).mpr ⟨?data, ?settled⟩⟩
  case data =>
    intro table htable i hi t ht
    change table ∈ ["events", "events"] at htable
    obtain rfl : table = "events" := by simpa using htable
    obtain rfl := List.mem_singleton.mp hi
    refine ⟨_, (loaded_holding_iff _ _).mpr rfl, rfl, ht.1, ht.2.trans_le ?_⟩
    exact Instant.ofSecond_mono (by decide)
  case settled =>
    intro since hsince i hi _
    obtain rfl := Option.some.inj hsince
    obtain rfl := List.mem_singleton.mp hi
    exact le_rfl

end Registry

end AnswerCache
