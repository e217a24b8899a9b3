import AnswerCache.Execution.Segments
import AnswerCache.Proofs.Segment.Identifier
import AnswerCache.Proofs.Segment.Registry
import Mathlib.Data.List.Sort
import Mathlib.Data.String.Basic

namespace AnswerCache.Registry

lemma mapM_eq_some {α β : Type} {f : α → Option β} {xs : List α} {ys : List β}
    (h : xs.mapM f = some ys) : xs.map f = ys.map some := by
  induction xs generalizing ys with
  | nil => simp_all
  | cons x xs ih =>
    simp only [List.mapM_cons, bind, Option.bind_eq_some_iff, pure, Option.some.injEq] at h
    obtain ⟨y, hy, ys', hys, rfl⟩ := h
    rw [List.map_cons, List.map_cons, hy, ih hys]

lemma mem_sortUnique {texts : List String} {t : String} : t ∈ sortUnique texts ↔ t ∈ texts := by
  rw [sortUnique, Dictionary.mem_keys_iff, Dictionary.ofList]
  simp only [Dictionary.foldl_insert_find?, Dictionary.find?_empty, Option.or_none]
  rw [← Option.isSome_iff_exists, List.lookup_isSome_iff]
  simp

def listed (r : Registry) (q : Query) : List String :=
  (sortUnique q.dataSource.tableNames).flatMap fun table => (r.identifiers? q table).getD []

lemma listed_of_signedText {r : Registry} {q : Query} {text : String}
    (h : r.signedText? q = some text) :
    (∀ table ∈ q.dataSource.tableNames, ∃ ids, r.identifiers? q table = some ids) ∧
      text.toList = (sortTexts (r.listed q)).flatMap fun id => id.toList ++ ['\n'] := by
  simp only [signedText?, bind, Option.bind_eq_some_iff, pure, Option.some.injEq] at h
  obtain ⟨perTable, hm, rfl⟩ := h
  have hmap := mapM_eq_some hm
  constructor
  · intro table ht
    have hmem := List.mem_map_of_mem (f := r.identifiers? q) (mem_sortUnique.mpr ht)
    rw [hmap, List.mem_map] at hmem
    obtain ⟨ids, -, hids⟩ := hmem
    exact ⟨ids, hids.symm⟩
  · have hflat : perTable.flatten = r.listed q := by
      have hget : (sortUnique q.dataSource.tableNames).map
          (fun table => (r.identifiers? q table).getD []) = perTable := by
        have := congrArg (List.map (fun o => Option.getD o [])) hmap
        simpa [Function.comp_def] using this
      rw [listed, List.flatMap_def, hget]
    rw [hflat, String.toList_join, List.flatMap_map]
    simp [String.toList_append]

lemma intersecting?_pairwise {r : Registry} (hr : r.Filed) {source : String}
    {intervals : List Interval} {segments : List Segment}
    (h : r.intersecting? source intervals = some segments) :
    segments.Pairwise fun s t => s.identifier < t.identifier := by
  obtain ⟨filed, hfiled, rfl⟩ := Option.map_eq_some_iff.mp h
  have hsorted := filed.keys_pairwise
  rw [← (hr source filed hfiled).map_identifier, List.pairwise_map] at hsorted
  exact hsorted.sublist List.filter_sublist

lemma identifiers?_pairwise {r : Registry} (hr : r.Filed) {q : Query} {table : String}
    {ids : List String} (h : r.identifiers? q table = some ids) : ids.Pairwise (· < ·) := by
  obtain ⟨segments, hsegments, rfl⟩ := Option.map_eq_some_iff.mp h
  exact List.pairwise_map.mpr (intersecting?_pairwise hr hsegments)

lemma source_of_mem_identifiers? {r : Registry} (hr : r.Filed) {q : Query} {table : String}
    {ids : List String} (h : r.identifiers? q table = some ids) {id : String} (hid : id ∈ ids) :
    ∃ s : Segment, s.identifier = id ∧ s.dataSource = table := by
  simp only [identifiers?, intersecting?, Option.map_map, Option.map_eq_some_iff,
    Function.comp_def] at h
  obtain ⟨segments, hs, rfl⟩ := h
  obtain ⟨s, hmem, rfl⟩ := List.mem_map.mp hid
  obtain ⟨key, hkey⟩ := (segments.mem_values_iff s).mp (List.mem_filter.mp hmem).1
  exact ⟨s, rfl, (hr _ _ hs key s hkey).1⟩

lemma mem_listed_iff {r : Registry} {q : Query} {id : String} : id ∈ r.listed q ↔
    ∃ table ∈ q.dataSource.tableNames, ∃ ids, r.identifiers? q table = some ids ∧ id ∈ ids := by
  simp only [listed, List.mem_flatMap, mem_sortUnique]
  refine exists_congr fun table => and_congr_right fun _ => ?_
  cases r.identifiers? q table <;> simp

lemma exists_segment_of_mem_listed {r : Registry} (hr : r.Filed) {q : Query} {id : String}
    (h : id ∈ r.listed q) : ∃ s : Segment, s.identifier = id := by
  obtain ⟨table, -, ids, hids, hid⟩ := mem_listed_iff.mp h
  obtain ⟨s, hs, -⟩ := source_of_mem_identifiers? hr hids hid
  exact ⟨s, hs⟩

lemma exists_segments_listed {r : Registry} (hr : r.Filed) (q : Query) :
    ∃ ss : List Segment, ss.map Segment.identifier = sortTexts (r.listed q) := by
  have h : ∀ ids : List String, (∀ id ∈ ids, ∃ s : Segment, s.identifier = id) →
      ∃ ss : List Segment, ss.map Segment.identifier = ids := by
    intro ids hids
    induction ids with
    | nil => exact ⟨[], rfl⟩
    | cons id rest ih =>
      obtain ⟨s, hs⟩ := hids id List.mem_cons_self
      obtain ⟨ss, hss⟩ := ih fun id hid => hids id (List.mem_cons_of_mem _ hid)
      exact ⟨s :: ss, by rw [List.map_cons, hs, hss]⟩
  apply h
  intro id hid
  exact exists_segment_of_mem_listed hr (List.mem_mergeSort.mp hid)

lemma intervals_eq_of_identifiers_eq {xs ys : List Segment}
    (h : xs.map Segment.identifier = ys.map Segment.identifier) :
    xs.map Segment.interval = ys.map Segment.interval := by
  induction xs generalizing ys with
  | nil => cases ys <;> simp_all
  | cons x xs ih =>
    cases ys with
    | nil => simp at h
    | cons y ys =>
      obtain ⟨hid, hrest⟩ := List.cons.inj h
      have hidentity := Segment.identity_eq_of_identifier_eq hid
      simp only [Segment.identity, Prod.mk.injEq] at hidentity
      rw [List.map_cons, List.map_cons, hidentity.2.1, ih hrest]

section SameText

variable {r s : Registry} (hr : r.Filed) (hs : s.Filed) {q p : Query}
include hr hs

lemma mem_listed_of_signedText {text : String} (hq : r.signedText? q = some text)
    (hp : s.signedText? p = some text) {id : String} (hid : id ∈ r.listed q) :
    id ∈ s.listed p := by
  obtain ⟨ss, hss⟩ := exists_segments_listed hr q
  obtain ⟨ts, hts⟩ := exists_segments_listed hs p
  have htext := (listed_of_signedText hq).2.symm.trans (listed_of_signedText hp).2
  rw [← hss, ← hts] at htext
  have hsorted := Segment.lines_injective htext
  rw [hss, hts] at hsorted
  have hmem : id ∈ sortTexts (r.listed q) := List.mem_mergeSort.mpr hid
  rw [hsorted] at hmem
  exact List.mem_mergeSort.mp hmem

lemma mem_identifiers?_of_listed (hl : ∀ id, id ∈ r.listed q → id ∈ s.listed p) {table : String}
    (ht : table ∈ q.dataSource.tableNames) {ids ids' : List String}
    (h : r.identifiers? q table = some ids) (h' : s.identifiers? p table = some ids') {id : String}
    (hid : id ∈ ids) : id ∈ ids' := by
  obtain ⟨other, -, found, hfound, hmem⟩ :=
    mem_listed_iff.mp (hl id (mem_listed_iff.mpr ⟨table, ht, ids, h, hid⟩))
  obtain ⟨a, ha, rfl⟩ := source_of_mem_identifiers? hr h hid
  obtain ⟨b, hb, rfl⟩ := source_of_mem_identifiers? hs hfound hmem
  have hidentity := Segment.identity_eq_of_identifier_eq (ha.trans hb.symm)
  have hsource : a.dataSource = b.dataSource := congrArg Prod.fst hidentity
  rw [hsource, hfound] at h'
  rwa [← Option.some.inj h']

lemma identifiers?_eq_of_signedText (hsource : q.dataSource = p.dataSource) {text : String}
    (hq : r.signedText? q = some text) (hp : s.signedText? p = some text) {table : String}
    (ht : table ∈ q.dataSource.tableNames) :
    ∃ ids, r.identifiers? q table = some ids ∧ s.identifiers? p table = some ids := by
  obtain ⟨ids, hids⟩ := (listed_of_signedText hq).1 table ht
  obtain ⟨ids', hids'⟩ := (listed_of_signedText hp).1 table (hsource ▸ ht)
  have heq : ids = ids' := by
    apply (identifiers?_pairwise hr hids).eq_of_mem_iff (identifiers?_pairwise hs hids')
    intro id
    constructor
    · exact mem_identifiers?_of_listed hr hs
        (fun _ => mem_listed_of_signedText hr hs hq hp) ht hids hids'
    · exact mem_identifiers?_of_listed hs hr
        (fun _ => mem_listed_of_signedText hs hr hp hq) (hsource ▸ ht) hids' hids
  exact ⟨ids, hids, heq ▸ hids'⟩

lemma scanned_eq_of_signedText (hsource : q.dataSource = p.dataSource) {text : String}
    (hq : r.signedText? q = some text) (hp : s.signedText? p = some text) :
    r.scanned q = s.scanned p := by
  rw [scanned, scanned, ← hsource]
  congr 1
  apply List.flatMap_congr
  intro table ht
  obtain ⟨ids, h, h'⟩ := identifiers?_eq_of_signedText hr hs hsource hq hp ht
  rw [h, h']

lemma missing_eq_of_signedText (hsource : q.dataSource = p.dataSource)
    (hintervals : q.intervals = p.intervals) {text : String}
    (hq : r.signedText? q = some text) (hp : s.signedText? p = some text) {table : String}
    (ht : table ∈ q.dataSource.tableNames) :
    r.missing table q.intervals = s.missing table p.intervals := by
  obtain ⟨ids, h, h'⟩ := identifiers?_eq_of_signedText hr hs hsource hq hp ht
  simp only [identifiers?, Option.map_eq_some_iff] at h h'
  obtain ⟨xs, hxs, hids⟩ := h
  obtain ⟨ys, hys, hids'⟩ := h'
  have hsame := intervals_eq_of_identifiers_eq (hids.trans hids'.symm)
  rw [hintervals] at hxs
  simp only [missing, coverage?, hxs, hys, Option.map_some, hsame, hintervals]

theorem answer_eq_of_signedText (hsource : q.dataSource = p.dataSource)
    (hintervals : q.intervals = p.intervals) {text : String}
    (hq : r.signedText? q = some text) (hp : s.signedText? p = some text) :
    r.payload q = s.payload p ∧ r.missingFor q = s.missingFor p := by
  constructor
  · simp only [payload, scanned_eq_of_signedText hr hs hsource hq hp]
  · rw [missingFor, missingFor, ← hsource]
    congr 1
    apply List.flatMap_congr
    intro table ht
    exact missing_eq_of_signedText hr hs hsource hintervals hq hp ht

end SameText

end AnswerCache.Registry
