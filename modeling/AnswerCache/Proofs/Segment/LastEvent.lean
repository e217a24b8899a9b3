import AnswerCache.Proofs.Segment.Reads
import Mathlib.Data.Set.Card

/-!
A registry says of every segment what the last event about it says: a segment is there, as it was
last loaded, unless it or its whole data source was dropped since.
-/

namespace AnswerCache

namespace SegmentEvent

def concerns (identity : String × Interval × String × UInt32) : SegmentEvent → Bool
  | tracked _ => false
  | loaded s => identity == s.identity
  | dropped s => identity == s.identity
  | dataSourceDropped source => identity.1 == source

def tracks (source : String) : SegmentEvent → Bool
  | tracked other => source == other
  | loaded s => source == s.dataSource
  | _ => false

def loaded? : SegmentEvent → Option Segment
  | loaded s => some s
  | _ => none

lemma loaded?_eq_some_iff (e : SegmentEvent) (s : Segment) : e.loaded? = some s ↔ e = loaded s := by
  cases e <;> simp [loaded?]

end SegmentEvent

def lastEvent? (events : List SegmentEvent) (identity : String × Interval × String × UInt32) :
    Option SegmentEvent :=
  events.reverse.find? (SegmentEvent.concerns identity)

lemma lastEvent?_concat (events : List SegmentEvent) (e : SegmentEvent)
    (identity : String × Interval × String × UInt32) : lastEvent? (events ++ [e]) identity =
      if e.concerns identity then some e else lastEvent? events identity := by
  rw [lastEvent?, List.reverse_concat, List.find?_cons, lastEvent?]
  cases e.concerns identity <;> rfl

def TrackedSince (events : List SegmentEvent) (source : String) : Prop :=
  ∃ before e after, events = before ++ e :: after ∧ e.tracks source = true ∧
    .dataSourceDropped source ∉ after

lemma not_trackedSince_nil (source : String) : ¬ TrackedSince [] source := by
  rintro ⟨before, e, after, h, -⟩
  exact absurd h (by simp)

lemma trackedSince_concat (events : List SegmentEvent) (e : SegmentEvent) (source : String) :
    TrackedSince (events ++ [e]) source ↔
      e.tracks source = true ∨ e ≠ .dataSourceDropped source ∧ TrackedSince events source := by
  constructor
  · rintro ⟨before, first, after, hevents, htracks, hkept⟩
    rcases List.eq_nil_or_concat' after with rfl | ⟨more, last, rfl⟩
    · obtain ⟨-, hlast⟩ := List.append_inj' hevents rfl
      obtain rfl := List.singleton_inj.mp hlast
      exact Or.inl htracks
    · rw [← List.cons_append, ← List.append_assoc] at hevents
      obtain ⟨rfl, hlast⟩ := List.append_inj' hevents rfl
      obtain rfl := List.singleton_inj.mp hlast
      rw [List.mem_append, List.mem_singleton, not_or] at hkept
      exact Or.inr ⟨Ne.symm hkept.2, before, first, more, rfl, htracks, hkept.1⟩
  · rintro (htracks | ⟨hne, before, first, after, rfl, htracks, hkept⟩)
    · exact ⟨events, e, [], rfl, htracks, List.not_mem_nil⟩
    · refine ⟨before, first, after ++ [e], by simp, htracks, ?_⟩
      rw [List.mem_append, List.mem_singleton, not_or]
      exact ⟨hkept, Ne.symm hne⟩

namespace Registry

variable {r : Registry}

lemma filedAs?_apply (r : Registry) (e : SegmentEvent) (s : Segment) : (r.apply e).filedAs? s =
    if e.concerns s.identity then e.loaded? else r.filedAs? s := by
  cases e with
  | tracked source => exact filedAs?_track r source s
  | loaded t =>
    simp only [apply, filedAs?_load, SegmentEvent.concerns, beq_iff_eq, SegmentEvent.loaded?]
  | dropped t =>
    simp only [apply, filedAs?_dropSegment, SegmentEvent.concerns, beq_iff_eq, SegmentEvent.loaded?]
  | dataSourceDropped source =>
    simp only [apply, filedAs?_dropDataSource, SegmentEvent.concerns, beq_iff_eq,
      SegmentEvent.loaded?, Segment.identity]

lemma filedAs?_applyAll (events : List SegmentEvent) (s : Segment) :
    (empty.applyAll events).filedAs? s =
      (lastEvent? events s.identity).bind SegmentEvent.loaded? := by
  induction events using List.reverseRecOn with
  | nil => rfl
  | append_singleton events e ih =>
    rw [applyAll, List.foldl_concat, filedAs?_apply, lastEvent?_concat]
    split
    · rfl
    · exact ih

lemma filedAs?_eq_some_iff (events : List SegmentEvent) (s t : Segment) :
    (empty.applyAll events).filedAs? s = some t ↔
      lastEvent? events s.identity = some (.loaded t) := by
  simp only [filedAs?_applyAll, Option.bind_eq_some_iff, SegmentEvent.loaded?_eq_some_iff,
    exists_eq_right]

lemma isTracked_apply (r : Registry) (e : SegmentEvent) (source : String) :
    (r.apply e).isTracked source = true ↔
      e.tracks source = true ∨ e ≠ .dataSourceDropped source ∧ r.isTracked source = true := by
  cases e with
  | tracked other => simp [apply, isTracked_track, SegmentEvent.tracks]
  | loaded s => simp [apply, isTracked_load, SegmentEvent.tracks]
  | dropped s => simp [apply, isTracked_dropSegment, SegmentEvent.tracks]
  | dataSourceDropped other =>
    have hother : SegmentEvent.dataSourceDropped other ≠ .dataSourceDropped source ↔
        source ≠ other := by
      rw [ne_eq, SegmentEvent.dataSourceDropped.injEq]
      exact ne_comm
    rw [apply, isTracked_dropDataSource, hother]
    simp [SegmentEvent.tracks]

lemma isTracked_applyAll_iff (events : List SegmentEvent) (source : String) :
    (empty.applyAll events).isTracked source = true ↔ TrackedSince events source := by
  induction events using List.reverseRecOn with
  | nil =>
    refine iff_of_false ?_ (not_trackedSince_nil source)
    simp [applyAll, isTracked, empty, Dictionary.contains, Dictionary.find?_empty]
  | append_singleton events e ih =>
    rw [applyAll, List.foldl_concat, isTracked_apply, trackedSince_concat]
    exact or_congr_right (and_congr_right fun _ => ih)

def allSegments (r : Registry) : List Segment :=
  r.sources.values.flatMap Dictionary.values

lemma length_allSegments (r : Registry) : r.allSegments.length = r.segmentCount := by
  rw [allSegments, segmentCount]
  induction r.sources.values with
  | nil => rfl
  | cons segments rest ih =>
    rw [List.flatMap_cons, List.length_append, ih, List.foldr_cons]
    simp [Dictionary.values, Dictionary.size]

lemma mem_allSegments_iff (hr : r.Filed) (s : Segment) :
    s ∈ r.allSegments ↔ r.filedAs? s = some s := by
  simp only [allSegments, List.mem_flatMap, Dictionary.mem_values_iff]
  constructor
  · rintro ⟨segments, ⟨source, hsource⟩, id, hid⟩
    obtain ⟨rfl, rfl⟩ := hr source segments hsource id s hid
    rwa [filedAs?, segmentsOf, hsource, Option.getD_some]
  · intro h
    cases hsource : r.sources.find? s.dataSource with
    | none =>
      rw [filedAs?, segmentsOf, hsource, Option.getD_none, Dictionary.find?_empty] at h
      contradiction
    | some segments =>
      rw [filedAs?, segmentsOf, hsource, Option.getD_some] at h
      exact ⟨segments, ⟨_, hsource⟩, _, h⟩

lemma nodup_identifiers {source : String} {segments : Dictionary Segment}
    (h : FiledUnder source segments) : (segments.values.map Segment.identifier).Nodup := by
  rw [h.map_identifier]
  exact segments.keys_pairwise.imp ne_of_lt

lemma nodup_identities (hr : r.Filed) : (r.allSegments.map Segment.identity).Nodup := by
  have hfiled : ∀ e ∈ r.sources.entries, FiledUnder e.1 e.2 := fun e he =>
    hr e.1 e.2 ((r.sources.find?_eq_some_iff _ _).mpr he)
  rw [allSegments, Dictionary.values, List.flatMap_map, List.map_flatMap, List.nodup_flatMap]
  refine ⟨fun e he => ?_, ?_⟩
  · have hids := List.pairwise_map.mp (nodup_identifiers (hfiled e he))
    exact List.pairwise_map.mpr (hids.imp fun hne h => hne (Segment.identifier_eq_iff.mpr h))
  -- segments of two data sources differ in their data sources
  · refine r.sources.increasing.imp_of_mem fun {d e} hd he hlt identity hi hj => ?_
    obtain ⟨s, hs, rfl⟩ := List.mem_map.mp hi
    obtain ⟨t, ht, hidentity⟩ := List.mem_map.mp hj
    obtain ⟨id, hid⟩ := (d.2.mem_values_iff s).mp hs
    obtain ⟨id', hid'⟩ := (e.2.mem_values_iff t).mp ht
    have hsource : t.dataSource = s.dataSource := congrArg Prod.fst hidentity
    rw [(hfiled d hd id s hid).1, (hfiled e he id' t hid').1] at hsource
    exact String.lt_irrefl _ (hsource ▸ hlt)

lemma encard_filed (hr : r.Filed) :
    {identity | ∃ s, r.filedAs? s = some s ∧ s.identity = identity}.encard = r.segmentCount := by
  have hset : {identity | ∃ s, r.filedAs? s = some s ∧ s.identity = identity} =
      ((r.allSegments.map Segment.identity).toFinset : Set _) := by
    ext identity
    simp only [List.coe_toFinset, List.mem_map, mem_allSegments_iff hr]
  rw [hset, Set.encard_coe_eq_coe_finsetCard, List.toFinset_card_of_nodup (nodup_identities hr),
    List.length_map, length_allSegments]

/-- Everything that a registry tells about its data sources and segments is what the last events
about them were. -/
structure Remembers (r : Registry) (events : List SegmentEvent) : Prop where
  tracked : ∀ source, r.isTracked source = true ↔ TrackedSince events source
  held : ∀ s t, r.filedAs? s = some t ↔ lastEvent? events s.identity = some (.loaded t)
  filed : r.Filed
  count : {identity | ∃ s, lastEvent? events identity = some (.loaded s)}.encard = r.segmentCount
  sorted : r.dataSources.Pairwise (· < ·)
  listed : ∀ source, source ∈ r.dataSources ↔ TrackedSince events source
  removed : ∀ s, (r.removeSegment s).1 = true ↔
    ∃ t, lastEvent? events s.identity = some (.loaded t)
  forgotten : ∀ source, (r.removeDataSource source).1 = true ↔ TrackedSince events source

theorem remembers_applyAll (events : List SegmentEvent) :
    (empty.applyAll events).Remembers events := by
  have hfiled := filed_empty.applyAll events
  have htracked := isTracked_applyAll_iff events
  have hheld := filedAs?_eq_some_iff events
  refine ⟨htracked, hheld, hfiled, ?count, Dictionary.keys_pairwise _, ?listed, ?removed, htracked⟩
  case count =>
    rw [← encard_filed hfiled]
    congr 1
    ext identity
    refine exists_congr fun s => ?_
    rw [hheld]
    constructor
    · intro hlast
      have hconcerns : SegmentEvent.concerns identity (.loaded s) = true := List.find?_some hlast
      obtain rfl : identity = s.identity := beq_iff_eq.mp hconcerns
      exact ⟨hlast, rfl⟩
    · rintro ⟨hlast, rfl⟩
      exact hlast
  case listed =>
    intro source
    rw [dataSources, Dictionary.mem_keys_iff, ← htracked, isTracked, Dictionary.contains,
      Option.isSome_iff_exists]
  case removed =>
    intro s
    simp only [← hheld, removeSegment, filedAs?, segmentsOf]
    cases (empty.applyAll events).sources.find? s.dataSource with
    | none => simp [Dictionary.find?_empty]
    | some segments => simp [Dictionary.contains, Option.isSome_iff_exists]

end Registry

end AnswerCache
