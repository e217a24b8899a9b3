import AnswerCache.Proofs.Dictionary
import AnswerCache.Segment.Registry

namespace AnswerCache.Registry

def FiledUnder (source : String) (segments : Dictionary Segment) : Prop :=
  ∀ id s, segments.find? id = some s → s.dataSource = source ∧ s.identifier = id

def Filed (r : Registry) : Prop :=
  ∀ source segments, r.sources.find? source = some segments → FiledUnder source segments

lemma filedUnder_empty (source : String) : FiledUnder source .empty := by
  intro id s h
  rw [Dictionary.find?_empty] at h
  contradiction

lemma filed_empty : empty.Filed := by
  intro source segments h
  rw [empty, Dictionary.find?_empty] at h
  contradiction

lemma FiledUnder.map_identifier {source : String} {segments : Dictionary Segment}
    (h : FiledUnder source segments) : segments.values.map Segment.identifier = segments.keys := by
  rw [Dictionary.values, Dictionary.keys, List.map_map]
  apply List.map_congr_left
  intro e he
  exact (h e.1 e.2 ((segments.find?_eq_some_iff _ _).mpr he)).2

lemma Filed.segmentsOf {r : Registry} (h : r.Filed) (source : String) :
    FiledUnder source (r.segmentsOf source) := by
  rw [Registry.segmentsOf]
  cases hs : r.sources.find? source with
  | none => exact filedUnder_empty source
  | some segments => exact h source segments hs

lemma Filed.insert {r : Registry} (h : r.Filed) {source : String} {segments : Dictionary Segment}
    (hs : FiledUnder source segments) : Filed ⟨r.sources.insert source segments⟩ := by
  intro other found hfound
  rw [Dictionary.find?_insert] at hfound
  split at hfound
  · rename_i heq
    rw [heq, ← Option.some.inj hfound]
    exact hs
  · exact h other found hfound

lemma Filed.apply {r : Registry} (h : r.Filed) (e : SegmentEvent) : (r.apply e).Filed := by
  cases e with
  | tracked source => exact h.insert (h.segmentsOf source)
  | loaded segment =>
    refine h.insert fun id s hs => ?_
    rw [Dictionary.find?_insert] at hs
    split at hs
    · rename_i heq
      rw [heq, ← Option.some.inj hs]
      exact ⟨rfl, rfl⟩
    · exact h.segmentsOf _ id s hs
  | dropped segment =>
    simp only [Registry.apply, dropSegment]
    split
    · rename_i segments hsegments
      refine h.insert fun id s hs => ?_
      rw [Dictionary.find?_erase] at hs
      split at hs
      · contradiction
      · exact h _ _ hsegments id s hs
    · exact h
  | dataSourceDropped source =>
    intro other found hfound
    simp only [Registry.apply, dropDataSource, Dictionary.find?_erase] at hfound
    split at hfound
    · contradiction
    · exact h other found hfound

theorem Filed.applyAll {r : Registry} (h : r.Filed) (events : List SegmentEvent) :
    (r.applyAll events).Filed := by
  induction events generalizing r with
  | nil => exact h
  | cons e rest ih => exact ih (h.apply e)

end AnswerCache.Registry
