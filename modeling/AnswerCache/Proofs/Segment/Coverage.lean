import AnswerCache.Proofs.Interval.Difference
import AnswerCache.Proofs.Segment.Reads

/-!
What there is data for: the instants that the loaded segments of a data source contain. What is
missing from a request are the other instants of it; its coverage may reach beyond it.
-/

namespace AnswerCache

open AnswerCache.Interval (Covers IsNormal)

def Segment.Meets (s : Segment) (intervals : List Interval) : Prop :=
  ∃ i ∈ intervals, i.intersects s.interval = true

lemma Segment.meets_of_contains {s : Segment} {intervals : List Interval} {t : Instant}
    (hs : s.interval.Contains t) (ht : Covers intervals t) : s.Meets intervals := by
  obtain ⟨i, hi, hit⟩ := ht
  exact ⟨i, hi, hit.intersects hs⟩

namespace Registry

def HasData (r : Registry) (source : String) (t : Instant) : Prop :=
  ∃ s, r.Loaded s ∧ s.dataSource = source ∧ s.interval.Contains t

variable {r : Registry} {source : String} {intervals covered : List Interval} {t : Instant}

lemma not_hasData_of_untracked (h : r.isTracked source = false) (t : Instant) :
    ¬ r.HasData source t := by
  rintro ⟨s, hloaded, rfl, -⟩
  rw [isTracked, Dictionary.contains, Option.isSome_eq_false_iff, Option.isNone_iff_eq_none] at h
  rw [Loaded, segmentsOf, h] at hloaded
  exact absurd hloaded List.not_mem_nil

lemma mem_segmentsOf_iff (hr : r.Filed) (source : String) (s : Segment) :
    s ∈ (r.segmentsOf source).values ↔ r.Loaded s ∧ s.dataSource = source := by
  constructor
  · intro h
    obtain ⟨id, hid⟩ := (Dictionary.mem_values_iff _ s).mp h
    obtain ⟨rfl, -⟩ := hr.segmentsOf source id s hid
    exact ⟨h, rfl⟩
  · rintro ⟨h, rfl⟩
    exact h

lemma loaded_iff_filedAs? (hr : r.Filed) (s : Segment) : r.Loaded s ↔ r.filedAs? s = some s := by
  rw [Loaded, Dictionary.mem_values_iff, filedAs?]
  constructor
  · rintro ⟨id, hid⟩
    rwa [(hr.segmentsOf _ id s hid).2]
  · exact fun h => ⟨_, h⟩

lemma exists_intersecting (hr : r.Filed) (h : r.isTracked source = true)
    (intervals : List Interval) :
    ∃ segments, r.intersecting? source intervals = some segments ∧
      ∀ s, s ∈ segments ↔ r.Loaded s ∧ s.dataSource = source ∧ s.Meets intervals := by
  obtain ⟨segments, hsegments⟩ := Option.isSome_iff_exists.mp h
  refine ⟨_, by rw [intersecting?, hsegments, Option.map_some], fun s => ?_⟩
  have hloaded := mem_segmentsOf_iff hr source s
  rw [segmentsOf, hsegments, Option.getD_some] at hloaded
  rw [List.mem_filter, hloaded, and_assoc, List.any_eq_true]
  rfl

lemma coverage?_of_untracked (h : r.isTracked source = false) (intervals : List Interval) :
    r.coverage? source intervals = none := by
  rw [isTracked, Dictionary.contains, Option.isSome_eq_false_iff, Option.isNone_iff_eq_none] at h
  rw [coverage?, intersecting?, h]
  rfl

lemma exists_coverage (hr : r.Filed) (h : r.isTracked source = true) (intervals : List Interval) :
    ∃ covered, r.coverage? source intervals = some covered ∧ IsNormal covered ∧
      ∀ t, Covers covered t ↔
        ∃ s, r.Loaded s ∧ s.dataSource = source ∧ s.Meets intervals ∧ s.interval.Contains t := by
  obtain ⟨segments, hsegments, hmem⟩ := exists_intersecting hr h intervals
  refine ⟨Interval.simplify (segments.map Segment.interval), ?_, Interval.isNormal_simplify _,
    fun t => ?_⟩
  · rw [coverage?, hsegments, Option.map_some]
  · rw [Interval.covers_simplify, Interval.covers_map]
    simp only [hmem, and_assoc]

lemma covers_coverage_iff_hasData (hr : r.Filed) (source : String) (ht : Covers intervals t) :
    Covers ((r.coverage? source intervals).getD []) t ↔ r.HasData source t := by
  cases htracked : r.isTracked source with
  | false =>
    rw [coverage?_of_untracked htracked]
    exact iff_of_false (Interval.covers_nil t) (not_hasData_of_untracked htracked t)
  | true =>
    obtain ⟨covered, hcovered, -, hcovers⟩ := exists_coverage hr htracked intervals
    rw [hcovered, Option.getD_some, hcovers]
    refine exists_congr fun s => and_congr_right fun _ => and_congr_right fun _ => ?_
    exact and_iff_right_of_imp fun hs => Segment.meets_of_contains hs ht

lemma covers_missing (hr : r.Filed) (source : String) (intervals : List Interval) (t : Instant) :
    Covers (r.missing source intervals) t ↔ Covers intervals t ∧ ¬ r.HasData source t := by
  simp only [missing, Interval.covers_simplify, Interval.covers_flatMap,
    (Interval.isDifference_subtract _ _).covers]
  constructor
  · rintro ⟨i, hi, hin, hout⟩
    have ht : Covers intervals t := ⟨i, hi, hin⟩
    refine ⟨ht, fun hdata => hout ?_⟩
    exact (covers_coverage_iff_hasData hr source ht).mpr hdata
  · rintro ⟨⟨i, hi, hin⟩, hnone⟩
    have ht : Covers intervals t := ⟨i, hi, hin⟩
    refine ⟨i, hi, hin, fun hcovered => hnone ?_⟩
    exact (covers_coverage_iff_hasData hr source ht).mp hcovered

/-- The coverage of a request are the whole segments that meet it. Within the request these are the
instants that there is data for, and the other instants of the request are missing; the coverage is
the covered part of the request exactly when no segment that meets it reaches beyond it. -/
theorem coverage_is_of_whole_segments (hr : r.Reachable) (htracked : r.isTracked source = true)
    (intervals : List Interval) :
    ∃ covered, r.coverage? source intervals = some covered ∧ IsNormal covered ∧
      (∀ t, Covers covered t ↔
        ∃ s, r.Loaded s ∧ s.dataSource = source ∧ s.Meets intervals ∧ s.interval.Contains t) ∧
      (∀ t, Covers intervals t ∧ Covers covered t ↔
        Covers intervals t ∧ r.HasData source t) ∧
      (∀ t, Covers intervals t ∧ ¬ Covers covered t ↔ Covers (r.missing source intervals) t) ∧
      ((∀ t, Covers covered t ↔ Covers intervals t ∧ r.HasData source t) ↔
        ∀ s, r.Loaded s → s.dataSource = source → s.Meets intervals →
          ∀ t, s.interval.Contains t → Covers intervals t) := by
  obtain ⟨covered, hcovered, hnormal, hcovers⟩ := exists_coverage hr.filed htracked intervals
  have hwithin : ∀ t, Covers intervals t → (Covers covered t ↔ r.HasData source t) := by
    intro t ht
    have hdata := covers_coverage_iff_hasData hr.filed source ht
    rwa [hcovered, Option.getD_some] at hdata
  refine ⟨covered, hcovered, hnormal, hcovers, fun t => and_congr_right (hwithin t), ?missing,
    ?exact⟩
  case missing =>
    intro t
    rw [covers_missing hr.filed]
    exact and_congr_right fun ht => not_congr (hwithin t ht)
  case exact =>
    constructor
    · intro hpart s hloaded hsource hmeets t ht
      exact ((hpart t).mp ((hcovers t).mpr ⟨s, hloaded, hsource, hmeets, ht⟩)).1
    · intro hinside t
      constructor
      · intro ht
        obtain ⟨s, hloaded, hsource, hmeets, hs⟩ := (hcovers t).mp ht
        exact ⟨hinside s hloaded hsource hmeets t hs, s, hloaded, hsource, hs⟩
      · rintro ⟨ht, hdata⟩
        exact (hwithin t ht).mpr hdata

def holding (s : Segment) : Registry :=
  empty.applyAll [.loaded s]

lemma loaded_holding_iff (s t : Segment) : (holding s).Loaded t ↔ t = s := by
  have hfiled : (holding s).Filed := filed_empty.apply (.loaded s)
  have hheld : (holding s).filedAs? t = if t.identity = s.identity then some s else none :=
    filedAs?_load empty s t
  rw [loaded_iff_filedAs? hfiled, hheld]
  split
  · rw [Option.some.injEq, eq_comm]
  · rename_i hne
    exact iff_of_false (by simp) fun heq => hne (congrArg Segment.identity heq)

def twoSeconds : Registry :=
  holding (.new "events" (.ofSeconds 0 2 (by decide)) "v1")

theorem segment_inside_request_is_covered_part :
    let request : List Interval := [.ofSeconds 0 3 (by decide)]
    twoSeconds.Reachable ∧ twoSeconds.isTracked "events" = true ∧
      ∃ covered, twoSeconds.coverage? "events" request = some covered ∧
        ∀ t, Covers covered t ↔ Covers request t ∧ twoSeconds.HasData "events" t := by
  intro request
  have hreachable : twoSeconds.Reachable := ⟨_, rfl⟩
  have htracked : twoSeconds.isTracked "events" = true := by rfl
  obtain ⟨covered, hcovered, -, -, -, -, hexact⟩ :=
    coverage_is_of_whole_segments hreachable htracked request
  refine ⟨hreachable, htracked, covered, hcovered, hexact.mpr fun s hloaded _ _ t ht => ?_⟩
  obtain rfl := (loaded_holding_iff _ s).mp hloaded
  refine ⟨_, List.mem_singleton_self _, ht.1, ht.2.trans_le ?_⟩
  decide

theorem coverage_reaches_beyond_request :
    let request : List Interval := [.ofSeconds 0 1 (by decide)]
    let covered : List Interval := [.ofSeconds 0 2 (by decide)]
    twoSeconds.Reachable ∧ twoSeconds.isTracked "events" = true ∧
      twoSeconds.coverage? "events" request = some covered ∧
      ¬ ∀ t, Covers covered t ↔ Covers request t ∧ twoSeconds.HasData "events" t := by
  intro request covered
  have hcoverage : twoSeconds.coverage? "events" request = some covered := by
    have hnormal : covered = Interval.simplify covered :=
      Interval.eq_simplify_iff.mpr ⟨Interval.isNormal_singleton (by decide), fun _ => Iff.rfl⟩
    have hmeeting : twoSeconds.intersecting? "events" request =
        some [.new "events" (.ofSeconds 0 2 (by decide)) "v1"] := by
      rfl
    rw [coverage?, hmeeting, hnormal]
    rfl
  refine ⟨⟨_, rfl⟩, rfl, hcoverage, fun hpart => ?_⟩
  have hcovered : Covers covered (.ofSecond 1) := ⟨_, List.mem_singleton_self _, by decide⟩
  obtain ⟨i, hi, hin⟩ := ((hpart _).mp hcovered).1
  obtain rfl := List.mem_singleton.mp hi
  exact absurd hin (by decide)

end Registry

end AnswerCache
