import AnswerCache.Proofs.Segment.Signature
import Mathlib.Data.Set.Basic

namespace AnswerCache

def Query.Concerns (q : Query) (s : Segment) : Prop :=
  s.dataSource ∈ q.dataSource.tableNames ∧ ∃ i ∈ q.intervals, i.intersects s.interval = true

lemma Query.concerns_congr (q : Query) {s t : Segment} (h : s.identity = t.identity) :
    q.Concerns s ↔ q.Concerns t := by
  simp only [Segment.identity, Prod.mk.injEq] at h
  rw [Concerns, Concerns, h.1, h.2.1]

def Query.Ignores (q : Query) : SegmentEvent → Prop
  | .tracked _ => True
  | .loaded s => ¬ q.Concerns s
  | .dropped s => ¬ q.Concerns s
  | .dataSourceDropped source => source ∉ q.dataSource.tableNames

namespace Registry

def Reachable (r : Registry) : Prop :=
  ∃ events, empty.applyAll events = r

lemma Reachable.filed {r : Registry} (h : r.Reachable) : r.Filed := by
  obtain ⟨events, rfl⟩ := h
  exact filed_empty.applyAll events

def Loaded (r : Registry) (s : Segment) : Prop :=
  s ∈ (r.segmentsOf s.dataSource).values

/-- The identities of the loaded segments that a query reads; sizes play no part. -/
def reads (r : Registry) (q : Query) : Set (String × Interval × String × UInt32) :=
  {identity | ∃ s, r.Loaded s ∧ q.Concerns s ∧ s.identity = identity}

section Holding

variable {r : Registry}

lemma holds_iff_loaded (hr : r.Filed) (s : Segment) :
    r.holds s = true ↔ ∃ t, r.Loaded t ∧ t.identity = s.identity := by
  rw [holds, Dictionary.contains, Option.isSome_iff_exists]
  constructor
  · rintro ⟨t, ht⟩
    obtain ⟨hsource, hid⟩ := hr.segmentsOf s.dataSource _ t ht
    refine ⟨t, ?_, Segment.identity_eq_of_identifier_eq hid⟩
    rw [Loaded, hsource, Dictionary.mem_values_iff]
    exact ⟨_, ht⟩
  · rintro ⟨t, ht, hidentity⟩
    have hsource : t.dataSource = s.dataSource := congrArg Prod.fst hidentity
    rw [Loaded, hsource, Dictionary.mem_values_iff] at ht
    obtain ⟨id, hid⟩ := ht
    rw [← Segment.identifier_eq_iff.mpr hidentity, (hr.segmentsOf _ id t hid).2]
    exact ⟨t, hid⟩

lemma mem_reads_iff (hr : r.Filed) (q : Query) (s : Segment) :
    s.identity ∈ r.reads q ↔ r.holds s = true ∧ q.Concerns s := by
  rw [holds_iff_loaded hr]
  constructor
  · rintro ⟨t, ht, hq, hidentity⟩
    exact ⟨⟨t, ht, hidentity⟩, (q.concerns_congr hidentity).mp hq⟩
  · rintro ⟨⟨t, ht, hidentity⟩, hq⟩
    exact ⟨t, ht, (q.concerns_congr hidentity).mpr hq, hidentity⟩

lemma reads_ext {s : Registry} {q p : Query}
    (h : ∀ t : Segment, t.identity ∈ r.reads q ↔ t.identity ∈ s.reads p) :
    r.reads q = s.reads p := by
  ext ⟨source, interval, version, partition⟩
  -- every identity is the identity of some segment
  exact h ⟨source, interval, version, partition, 0⟩

lemma segmentsOf_insert (r : Registry) (source other : String) (segments : Dictionary Segment) :
    Registry.segmentsOf ⟨r.sources.insert source segments⟩ other =
      if other = source then segments else r.segmentsOf other := by
  rw [segmentsOf, Dictionary.find?_insert, segmentsOf]
  split <;> rfl

def filedAs? (r : Registry) (s : Segment) : Option Segment :=
  (r.segmentsOf s.dataSource).find? s.identifier

lemma source_eq_of_identifier_eq {s t : Segment} (h : s.identifier = t.identifier) :
    s.dataSource = t.dataSource :=
  congrArg Prod.fst (Segment.identity_eq_of_identifier_eq h)

lemma filedAs?_insert (r : Registry) (source : String) (segments : Dictionary Segment)
    (s : Segment) : filedAs? ⟨r.sources.insert source segments⟩ s =
      if s.dataSource = source then segments.find? s.identifier else r.filedAs? s := by
  rw [filedAs?, segmentsOf_insert, filedAs?]
  split <;> rfl

lemma filedAs?_load (r : Registry) (s t : Segment) :
    (r.load s).filedAs? t = if t.identity = s.identity then some s else r.filedAs? t := by
  simp only [load, filedAs?_insert, Dictionary.find?_insert, ← Segment.identifier_eq_iff]
  by_cases hsource : t.dataSource = s.dataSource
  · rw [if_pos hsource, filedAs?, hsource]
  · have hne : t.identifier ≠ s.identifier := fun h => hsource (source_eq_of_identifier_eq h)
    rw [if_neg hsource, if_neg hne]

lemma filedAs?_dropSegment (r : Registry) (s t : Segment) :
    (r.dropSegment s).filedAs? t = if t.identity = s.identity then none else r.filedAs? t := by
  simp only [dropSegment, ← Segment.identifier_eq_iff]
  split
  · rename_i segments hsegments
    rw [filedAs?_insert, Dictionary.find?_erase]
    by_cases hsource : t.dataSource = s.dataSource
    · rw [if_pos hsource, filedAs?, segmentsOf, hsource, hsegments, Option.getD_some]
    · have hne : t.identifier ≠ s.identifier := fun h => hsource (source_eq_of_identifier_eq h)
      rw [if_neg hsource, if_neg hne]
  · rename_i hnone
    split
    · rename_i hidentifier
      rw [filedAs?, segmentsOf, source_eq_of_identifier_eq hidentifier, hnone, Option.getD_none,
        Dictionary.find?_empty]
    · rfl

lemma filedAs?_track (r : Registry) (source : String) (t : Segment) :
    (r.track source).filedAs? t = r.filedAs? t := by
  rw [track, filedAs?_insert]
  split
  · rename_i hsource
    rw [filedAs?, hsource]
  · rfl

lemma filedAs?_dropDataSource (r : Registry) (source : String) (t : Segment) :
    (r.dropDataSource source).filedAs? t =
      if t.dataSource = source then none else r.filedAs? t := by
  rw [filedAs?, segmentsOf, dropDataSource, Dictionary.find?_erase]
  split <;> rfl

lemma holds_eq_isSome (r : Registry) (s : Segment) : r.holds s = (r.filedAs? s).isSome :=
  rfl

lemma holds_load (r : Registry) (s t : Segment) :
    (r.load s).holds t = true ↔ t.identity = s.identity ∨ r.holds t = true := by
  rw [holds_eq_isSome, filedAs?_load, holds_eq_isSome]
  by_cases h : t.identity = s.identity <;> simp [h]

lemma holds_dropSegment (r : Registry) (s t : Segment) :
    (r.dropSegment s).holds t = true ↔ t.identity ≠ s.identity ∧ r.holds t = true := by
  rw [holds_eq_isSome, filedAs?_dropSegment, holds_eq_isSome]
  by_cases h : t.identity = s.identity <;> simp [h]

lemma holds_track (r : Registry) (source : String) (t : Segment) :
    (r.track source).holds t = r.holds t := by
  rw [holds_eq_isSome, filedAs?_track, holds_eq_isSome]

lemma holds_dropDataSource (r : Registry) (source : String) (t : Segment) :
    (r.dropDataSource source).holds t = true ↔ t.dataSource ≠ source ∧ r.holds t = true := by
  rw [holds_eq_isSome, filedAs?_dropDataSource, holds_eq_isSome]
  by_cases h : t.dataSource = source <;> simp [h]

lemma isTracked_track (r : Registry) (source other : String) :
    (r.track source).isTracked other = true ↔ other = source ∨ r.isTracked other = true := by
  rw [isTracked, track, Dictionary.contains_insert, isTracked]

lemma isTracked_dropDataSource (r : Registry) (source other : String) :
    (r.dropDataSource source).isTracked other = true ↔
      other ≠ source ∧ r.isTracked other = true := by
  rw [isTracked, dropDataSource, Dictionary.contains_erase, isTracked]

lemma isTracked_load (r : Registry) (s : Segment) (source : String) :
    (r.load s).isTracked source = true ↔ source = s.dataSource ∨ r.isTracked source = true := by
  rw [isTracked, load, Dictionary.contains_insert, isTracked]

lemma isTracked_dropSegment (r : Registry) (s : Segment) (source : String) :
    (r.dropSegment s).isTracked source = r.isTracked source := by
  rw [dropSegment]
  split
  · rename_i segments hsegments
    rw [Bool.eq_iff_iff, isTracked, Dictionary.contains_insert, isTracked]
    refine or_iff_right_of_imp ?_
    rintro rfl
    rw [Dictionary.contains, hsegments, Option.isSome_some]
  · rfl

lemma mem_reads_load (hr : r.Filed) (q : Query) (s t : Segment) :
    t.identity ∈ (r.load s).reads q ↔
      t.identity = s.identity ∧ q.Concerns s ∨ t.identity ∈ r.reads q := by
  have hloaded : (r.load s).Filed := hr.apply (.loaded s)
  rw [mem_reads_iff hloaded, mem_reads_iff hr, holds_load, or_and_right]
  exact or_congr_left (and_congr_right fun h => q.concerns_congr h)

lemma mem_reads_dropSegment (hr : r.Filed) (q : Query) (s t : Segment) :
    t.identity ∈ (r.dropSegment s).reads q ↔ t.identity ≠ s.identity ∧ t.identity ∈ r.reads q := by
  have hdropped : (r.dropSegment s).Filed := hr.apply (.dropped s)
  rw [mem_reads_iff hdropped, mem_reads_iff hr, holds_dropSegment, and_assoc]

lemma reads_apply_of_ignores (hr : r.Filed) {q : Query} {e : SegmentEvent} (h : q.Ignores e) :
    (r.apply e).reads q = r.reads q := by
  refine reads_ext fun t => ?_
  cases e with
  | tracked source =>
    have htracked : (r.track source).Filed := hr.apply (.tracked source)
    rw [Registry.apply, mem_reads_iff htracked, mem_reads_iff hr, holds_track]
  | loaded s =>
    have hs : ¬ q.Concerns s := h
    rw [Registry.apply, mem_reads_load hr, or_iff_right fun hsame => hs hsame.2]
  | dropped s =>
    have hs : ¬ q.Concerns s := h
    rw [Registry.apply, mem_reads_dropSegment hr]
    refine and_iff_right_of_imp fun hread hsame => hs ?_
    exact (q.concerns_congr hsame).mp ((mem_reads_iff hr q t).mp hread).2
  | dataSourceDropped source =>
    have hsource : source ∉ q.dataSource.tableNames := h
    have hdropped : (r.dropDataSource source).Filed := hr.apply (.dataSourceDropped source)
    rw [Registry.apply, mem_reads_iff hdropped, mem_reads_iff hr, holds_dropDataSource, and_assoc]
    refine and_iff_right_of_imp fun hread heq => hsource ?_
    exact heq ▸ hread.2.1

lemma isTracked_apply_of_ignores {q : Query} {e : SegmentEvent} (h : q.Ignores e) {table : String}
    (htable : table ∈ q.dataSource.tableNames) (ht : r.isTracked table = true) :
    (r.apply e).isTracked table = true := by
  cases e with
  | tracked source => exact (isTracked_track r source table).mpr (.inr ht)
  | loaded s => exact (isTracked_load r s table).mpr (.inr ht)
  | dropped s => exact (isTracked_dropSegment r s table).trans ht
  | dataSourceDropped source =>
    have hsource : source ∉ q.dataSource.tableNames := h
    have hne : table ≠ source := fun heq => hsource (heq ▸ htable)
    exact (isTracked_dropDataSource r source table).mpr ⟨hne, ht⟩

lemma reads_applyAll_of_ignores (hr : r.Filed) {q : Query} {events : List SegmentEvent}
    (h : ∀ e ∈ events, q.Ignores e) :
    (r.applyAll events).reads q = r.reads q ∧
      ∀ table ∈ q.dataSource.tableNames, r.isTracked table = true →
        (r.applyAll events).isTracked table = true := by
  induction events generalizing r with
  | nil => exact ⟨rfl, fun _ _ ht => ht⟩
  | cons e rest ih =>
    obtain ⟨he, hrest⟩ := List.forall_mem_cons.mp h
    obtain ⟨hreads, htracked⟩ := ih (hr.apply e) hrest
    refine ⟨hreads.trans (reads_apply_of_ignores hr he), fun table htable ht => ?_⟩
    exact htracked table htable (isTracked_apply_of_ignores he htable ht)

lemma mem_reads_loads (hr : r.Filed) (q : Query) (ss : List Segment) (t : Segment) :
    t.identity ∈ (r.applyAll (ss.map .loaded)).reads q ↔
      t.identity ∈ ss.map Segment.identity ∧ q.Concerns t ∨ t.identity ∈ r.reads q := by
  induction ss generalizing r with
  | nil => simp [Registry.applyAll]
  | cons s ss ih =>
    have hloaded : (r.load s).Filed := hr.apply (.loaded s)
    have hstep := ih hloaded
    rw [mem_reads_load hr] at hstep
    rw [List.map_cons, List.map_cons, List.mem_cons, or_and_right, or_assoc, or_left_comm]
    refine hstep.trans (or_congr_right (or_congr_left (and_congr_right fun hsame => ?_)))
    exact (q.concerns_congr hsame).symm

lemma isTracked_loads (ss : List Segment) (table : String) :
    (r.applyAll (ss.map .loaded)).isTracked table = true ↔
      table ∈ ss.map Segment.dataSource ∨ r.isTracked table = true := by
  induction ss generalizing r with
  | nil => simp [Registry.applyAll]
  | cons s ss ih =>
    have hstep := ih (r := r.load s)
    rw [isTracked_load] at hstep
    rw [List.map_cons, List.map_cons, List.mem_cons, or_assoc, or_left_comm]
    exact hstep

end Holding

section Listing

variable {r : Registry}

lemma identifier_mem_listed_iff (hr : r.Filed) (q : Query) (s : Segment) :
    s.identifier ∈ r.listed q ↔ s.identity ∈ r.reads q := by
  rw [mem_listed_iff]
  constructor
  · rintro ⟨table, htable, ids, hids, hid⟩
    simp only [identifiers?, intersecting?, Option.map_map, Option.map_eq_some_iff,
      Function.comp_def] at hids
    obtain ⟨segments, hsegments, rfl⟩ := hids
    obtain ⟨t, ht, hidentifier⟩ := List.mem_map.mp hid
    obtain ⟨hvalue, hmeets⟩ := List.mem_filter.mp ht
    obtain ⟨key, hkey⟩ := (segments.mem_values_iff t).mp hvalue
    obtain rfl := (hr _ _ hsegments key t hkey).1
    refine ⟨t, ?_, ⟨htable, List.any_eq_true.mp hmeets⟩,
      Segment.identity_eq_of_identifier_eq hidentifier⟩
    rwa [Loaded, segmentsOf, hsegments, Option.getD_some]
  · rintro ⟨t, hloaded, ⟨htable, hmeets⟩, hidentity⟩
    cases hsegments : r.sources.find? t.dataSource with
    | none =>
      rw [Loaded, segmentsOf, hsegments, Option.getD_none] at hloaded
      contradiction
    | some segments =>
      rw [Loaded, segmentsOf, hsegments, Option.getD_some] at hloaded
      refine ⟨t.dataSource, htable, _, by rw [identifiers?, intersecting?, hsegments]; rfl, ?_⟩
      rw [← Segment.identifier_eq_iff.mpr hidentity]
      exact List.mem_map_of_mem (List.mem_filter.mpr ⟨hloaded, List.any_eq_true.mpr hmeets⟩)

lemma listed_nodup (hr : r.Filed) (q : Query) : (r.listed q).Nodup := by
  have htables : (sortUnique q.dataSource.tableNames).Pairwise (· < ·) := Dictionary.keys_pairwise _
  refine List.nodup_flatMap.mpr ⟨fun table _ => ?_, htables.imp fun {a b} hlt => ?_⟩
  · cases hids : r.identifiers? q table with
    | none => exact List.nodup_nil
    | some ids => exact (identifiers?_pairwise hr hids).imp ne_of_lt
  -- an identifier tells its table, so no identifier is listed for two of them
  · intro id ha hb
    cases has : r.identifiers? q a with
    | none => simp [has] at ha
    | some as =>
      cases hbs : r.identifiers? q b with
      | none => simp [hbs] at hb
      | some bs =>
        simp only [has, Option.getD_some] at ha
        simp only [hbs, Option.getD_some] at hb
        obtain ⟨s, hs, rfl⟩ := source_of_mem_identifiers? hr has ha
        obtain ⟨t, ht, rfl⟩ := source_of_mem_identifiers? hr hbs hb
        have hidentity := Segment.identity_eq_of_identifier_eq (hs.trans ht.symm)
        exact ne_of_lt hlt (congrArg Prod.fst hidentity)

lemma sortTexts_eq_of_mem_iff {xs ys : List String} (hx : xs.Nodup) (hy : ys.Nodup)
    (h : ∀ t, t ∈ xs ↔ t ∈ ys) : sortTexts xs = sortTexts ys := by
  have hperm : (sortTexts xs).Perm (sortTexts ys) :=
    (List.mergeSort_perm xs _).trans
      (((List.perm_ext_iff_of_nodup hx hy).mpr h).trans (List.mergeSort_perm ys _).symm)
  have hsorted : ∀ zs : List String, (sortTexts zs).Pairwise (· ≤ ·) := by
    intro zs
    have hle : (sortTexts zs).Pairwise fun a b => decide (a ≤ b) = true :=
      List.pairwise_mergeSort (by simpa using fun a b c => le_trans) (by simpa using le_total) zs
    simpa using hle
  exact hperm.eq_of_pairwise' (hsorted xs) (hsorted ys)

lemma isSome_identifiers? (r : Registry) (q : Query) (table : String) :
    (r.identifiers? q table).isSome = r.isTracked table := by
  simp [identifiers?, intersecting?, isTracked, Dictionary.contains]

lemma isSome_mapM {α β : Type} (f : α → Option β) (xs : List α) :
    (xs.mapM f).isSome = true ↔ ∀ x ∈ xs, (f x).isSome = true := by
  induction xs with
  | nil => simp
  | cons x xs ih =>
    rw [List.forall_mem_cons, ← ih, List.mapM_cons]
    cases f x with
    | none => simp
    | some y => cases xs.mapM f <;> simp

lemma isSome_signedText? (r : Registry) (q : Query) : (r.signedText? q).isSome = true ↔
    ∀ table ∈ q.dataSource.tableNames, r.isTracked table = true := by
  have hmap : (r.signedText? q).isSome =
      ((sortUnique q.dataSource.tableNames).mapM (r.identifiers? q)).isSome := by
    rw [signedText?]
    cases (sortUnique q.dataSource.tableNames).mapM (r.identifiers? q) <;> rfl
  rw [hmap, isSome_mapM]
  simp only [mem_sortUnique, isSome_identifiers?]

lemma signatureFor_eq_none_iff (r : Registry) (q : Query) : r.signatureFor q = none ↔
    ∃ table ∈ q.dataSource.tableNames, r.isTracked table = false := by
  have h := not_congr (isSome_signedText? r q)
  rw [Option.not_isSome_iff_eq_none] at h
  rw [signatureFor, Option.map_eq_none_iff, h]
  simp

end Listing

section Text

variable {r s : Registry} {q p : Query} {a b : String}

lemma signedText_eq_iff (hr : r.Filed) (hs : s.Filed) (ha : r.signedText? q = some a)
    (hb : s.signedText? p = some b) : a = b ↔ r.reads q = s.reads p := by
  constructor
  · rintro rfl
    refine reads_ext fun t => ?_
    rw [← identifier_mem_listed_iff hr, ← identifier_mem_listed_iff hs]
    exact ⟨mem_listed_of_signedText hr hs ha hb, mem_listed_of_signedText hs hr hb ha⟩
  · intro hreads
    have hlisted : ∀ id, id ∈ r.listed q ↔ id ∈ s.listed p := by
      intro id
      constructor <;> intro hid
      · obtain ⟨t, rfl⟩ := exists_segment_of_mem_listed hr hid
        rwa [identifier_mem_listed_iff hs, ← hreads, ← identifier_mem_listed_iff hr]
      · obtain ⟨t, rfl⟩ := exists_segment_of_mem_listed hs hid
        rwa [identifier_mem_listed_iff hr, hreads, ← identifier_mem_listed_iff hs]
    have hsorted := sortTexts_eq_of_mem_iff (listed_nodup hr q) (listed_nodup hs p) hlisted
    rw [← String.toList_inj, (listed_of_signedText ha).2, (listed_of_signedText hb).2, hsorted]

end Text

end Registry

end AnswerCache
