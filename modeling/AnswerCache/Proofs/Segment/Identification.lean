import AnswerCache.Proofs.Execution.Current
import AnswerCache.Proofs.Segment.Reads
import AnswerCache.Proofs.Text.Bytes

/-!
A signature identifies the segments that a query reads: what is hashed is the same exactly when
they are the same, so nothing else changes a signature, and every change among them does.
-/

namespace AnswerCache

namespace Registry

/-- The changes of one segment among those that a query reads: one more, one less, or another
version of one. -/
inductive Disturbs (r : Registry) (q : Query) : List SegmentEvent → Prop
  | load {s : Segment} (concerned : q.Concerns s) (new : s.identity ∉ r.reads q) :
    Disturbs r q [.loaded s]
  | drop {s : Segment} (read : s.identity ∈ r.reads q) : Disturbs r q [.dropped s]
  | replace {s : Segment} {version : String} (read : s.identity ∈ r.reads q)
    (other : version ≠ s.version) : Disturbs r q [.dropped s, .loaded { s with version := version }]

section Changes

variable {r : Registry} {q : Query} {change : List SegmentEvent}

lemma reads_ne_of_disturbs (hr : r.Filed) (h : r.Disturbs q change) :
    (r.applyAll change).reads q ≠ r.reads q := by
  intro hsame
  cases h with
  | @load s concerned new =>
    have hread : s.identity ∈ (r.load s).reads q :=
      (mem_reads_load hr q s s).mpr (.inl ⟨rfl, concerned⟩)
    exact new (hsame ▸ hread)
  | @drop s read =>
    have hread : s.identity ∈ (r.dropSegment s).reads q := hsame ▸ read
    exact ((mem_reads_dropSegment hr q s s).mp hread).1 rfl
  | @replace s version read other =>
    have hdropped : (r.dropSegment s).Filed := hr.apply (.dropped s)
    have hread : s.identity ∈ ((r.dropSegment s).load { s with version := version }).reads q :=
      hsame ▸ read
    rcases (mem_reads_load hdropped q _ s).mp hread with ⟨hidentity, -⟩ | hkept
    · simp only [Segment.identity, Prod.mk.injEq] at hidentity
      exact other hidentity.2.2.1.symm
    · exact ((mem_reads_dropSegment hr q s s).mp hkept).1 rfl

lemma isTracked_of_disturbs (h : r.Disturbs q change) {table : String}
    (ht : r.isTracked table = true) : (r.applyAll change).isTracked table = true := by
  cases h with
  | @load s _ _ => exact (isTracked_load r s table).mpr (.inr ht)
  | @drop s _ => exact (isTracked_dropSegment r s table).trans ht
  | @replace s version _ _ =>
    have hdropped := (isTracked_dropSegment r s table).trans ht
    exact (isTracked_load (r.dropSegment s) { s with version := version } table).mpr (.inr hdropped)

end Changes

section Signed

variable {r s : Registry} {q p : Query}

lemma signatureFor_congr (hr : r.Filed) (hs : s.Filed)
    (htracked : (∀ table ∈ q.dataSource.tableNames, r.isTracked table = true) ↔
      ∀ table ∈ p.dataSource.tableNames, s.isTracked table = true)
    (hreads : r.reads q = s.reads p) : r.signatureFor q = s.signatureFor p := by
  have hsome : (r.signedText? q).isSome = true ↔ (s.signedText? p).isSome = true := by
    rw [isSome_signedText?, isSome_signedText?, htracked]
  rw [signatureFor, signatureFor]
  cases ha : r.signedText? q with
  | none =>
    cases hb : s.signedText? p with
    | none => rfl
    | some b => simp [ha, hb] at hsome
  | some a =>
    cases hb : s.signedText? p with
    | none => simp [ha, hb] at hsome
    | some b => rw [(signedText_eq_iff hr hs ha hb).mpr hreads]

lemma signatureFor_eq_iff (hr : r.Filed) (hs : s.Filed) {a b : String}
    (ha : r.signedText? q = some a) (hb : s.signedText? p = some b)
    (hfree : CollisionFree [a, b]) :
    r.signatureFor q = s.signatureFor p ↔ r.reads q = s.reads p := by
  have hsigned : r.signatureFor q = s.signatureFor p ↔ Signature.ofText a = Signature.ofText b := by
    rw [signatureFor_eq_some.mpr ⟨a, ha, rfl⟩, signatureFor_eq_some.mpr ⟨b, hb, rfl⟩,
      Option.some.injEq]
  -- only the way back from equal digests to equal texts needs that there is no collision
  rw [hsigned, ← signedText_eq_iff hr hs ha hb]
  constructor
  · exact hfree a List.mem_cons_self b (List.mem_cons_of_mem a List.mem_cons_self)
  · exact congrArg Signature.ofText

lemma signatureFor_loads (hr : r.Filed) (q : Query) {ss ts : List Segment}
    (h : ∀ identity, identity ∈ ss.map Segment.identity ↔ identity ∈ ts.map Segment.identity) :
    (r.applyAll (ss.map .loaded)).signatureFor q =
      (r.applyAll (ts.map .loaded)).signatureFor q := by
  refine signatureFor_congr (hr.applyAll _) (hr.applyAll _) ?_ (reads_ext fun t => ?_)
  · refine forall_congr' fun table => imp_congr_right fun _ => ?_
    have hsources : ∀ us : List Segment, us.map Segment.dataSource =
        (us.map Segment.identity).map Prod.fst := fun us => by rw [List.map_map]; rfl
    rw [isTracked_loads, isTracked_loads, hsources, hsources, List.mem_map, List.mem_map]
    exact or_congr_left (exists_congr fun identity => and_congr_left fun _ => h identity)
  · rw [mem_reads_loads hr, mem_reads_loads hr, h]

lemma signatureFor_of_ignores (hr : r.Filed) (hknown : r.signatureFor q ≠ none)
    {events : List SegmentEvent} (h : ∀ e ∈ events, q.Ignores e) :
    (r.applyAll events).signatureFor q = r.signatureFor q := by
  obtain ⟨hreads, hkept⟩ := reads_applyAll_of_ignores hr h
  have htracked : ∀ table ∈ q.dataSource.tableNames, r.isTracked table = true := by
    rw [ne_eq, signatureFor_eq_none_iff] at hknown
    simpa using hknown
  refine signatureFor_congr (hr.applyAll events) hr ?_ hreads
  exact iff_of_true (fun table ht => hkept table ht (htracked table ht)) htracked

lemma signatureFor_of_same_tables (hr : r.Filed)
    (htables : ∀ table, table ∈ q.dataSource.tableNames ↔ table ∈ p.dataSource.tableNames)
    (hintervals : q.intervals = p.intervals) : r.signatureFor q = r.signatureFor p := by
  have hconcerns : ∀ t, q.Concerns t ↔ p.Concerns t := fun t => by
    rw [Query.Concerns, Query.Concerns, htables, hintervals]
  refine signatureFor_congr hr hr ?_ (reads_ext fun t => ?_)
  · simp only [htables]
  · rw [mem_reads_iff hr, mem_reads_iff hr, hconcerns]

lemma signatureFor_of_disturbs (hr : r.Filed) {change : List SegmentEvent} (h : r.Disturbs q change)
    {a : String} (ha : r.signedText? q = some a) :
    ∃ b, (r.applyAll change).signedText? q = some b ∧
      (CollisionFree [a, b] → (r.applyAll change).signatureFor q ≠ r.signatureFor q) := by
  have htracked : ∀ table ∈ q.dataSource.tableNames, r.isTracked table = true :=
    (isSome_signedText? r q).mp (Option.isSome_of_eq_some ha)
  have hsome : ((r.applyAll change).signedText? q).isSome = true :=
    (isSome_signedText? _ q).mpr fun table ht => isTracked_of_disturbs h (htracked table ht)
  obtain ⟨b, hb⟩ := Option.isSome_iff_exists.mp hsome
  refine ⟨b, hb, fun hfree hsame => ?_⟩
  have hreads := (signatureFor_eq_iff hr (hr.applyAll change) ha hb hfree).mp hsame.symm
  exact reads_ne_of_disturbs hr h hreads.symm

/-- Of the data of a query its signature tells the identities of the segments that are read, all of
them and nothing else. -/
theorem signature_identifies_reads (hr : r.Reachable) (hs : s.Reachable) (q p : Query) :
    (r.signatureFor q = none ↔
      ∃ table ∈ q.dataSource.tableNames, r.isTracked table = false) ∧
    (∀ a b, r.signedText? q = some a → s.signedText? p = some b →
      (utf8Bytes a = utf8Bytes b ↔ r.reads q = s.reads p) ∧
      (r.reads q = s.reads p → r.signatureFor q = s.signatureFor p) ∧
      (CollisionFree [a, b] → r.reads q ≠ s.reads p → r.signatureFor q ≠ s.signatureFor p)) ∧
    (∀ ss ts : List Segment,
      (∀ identity, identity ∈ ss.map Segment.identity ↔ identity ∈ ts.map Segment.identity) →
      (r.applyAll (ss.map .loaded)).signatureFor q =
        (r.applyAll (ts.map .loaded)).signatureFor q) ∧
    (r.signatureFor q ≠ none → ∀ events, (∀ e ∈ events, q.Ignores e) →
      (r.applyAll events).signatureFor q = r.signatureFor q) ∧
    ((∀ table, table ∈ q.dataSource.tableNames ↔ table ∈ p.dataSource.tableNames) →
      q.intervals = p.intervals → r.signatureFor q = r.signatureFor p) ∧
    (∀ change, r.Disturbs q change → ∀ a, r.signedText? q = some a →
      ∃ b, (r.applyAll change).signedText? q = some b ∧
        (CollisionFree [a, b] → (r.applyAll change).signatureFor q ≠ r.signatureFor q)) := by
  have hfr := hr.filed
  have hfs := hs.filed
  refine ⟨signatureFor_eq_none_iff r q, fun a b ha hb => ⟨?_, ?_, ?_⟩,
    fun _ _ => signatureFor_loads hfr q, fun hknown _ => signatureFor_of_ignores hfr hknown,
    signatureFor_of_same_tables hfr, fun _ h _ => signatureFor_of_disturbs hfr h⟩
  · rw [utf8Bytes_injective.eq_iff, signedText_eq_iff hfr hfs ha hb]
  · intro hreads
    rw [signatureFor, signatureFor, ha, hb, (signedText_eq_iff hfr hfs ha hb).mpr hreads]
  · intro hfree
    exact mt (signatureFor_eq_iff hfr hfs ha hb hfree).mp

theorem replaced_version_changes_signature :
    (empty.applyAll [.loaded (.ofFirstSecond "v1")]).Reachable ∧
    (empty.applyAll [.loaded (.ofFirstSecond "v1")]).Disturbs .overFirstSecond
      [.dropped (.ofFirstSecond "v1"), .loaded (.ofFirstSecond "v2")] ∧
    (empty.applyAll [.loaded (.ofFirstSecond "v1"), .dropped (.ofFirstSecond "v1"),
        .loaded (.ofFirstSecond "v2")]).signatureFor .overFirstSecond ≠
      (empty.applyAll [.loaded (.ofFirstSecond "v1")]).signatureFor .overFirstSecond := by
  let v1 := Segment.ofFirstSecond "v1"
  have hreachable : (empty.applyAll [.loaded v1]).Reachable := ⟨_, rfl⟩
  have hconcerned : Query.overFirstSecond.Concerns v1 :=
    ⟨List.mem_singleton_self _, Interval.firstSecond, List.mem_singleton_self _, by decide⟩
  have hread : v1.identity ∈ (empty.applyAll [.loaded v1]).reads .overFirstSecond :=
    (mem_reads_load filed_empty _ v1 v1).mpr (.inl ⟨rfl, hconcerned⟩)
  have hchange : (empty.applyAll [.loaded v1]).Disturbs .overFirstSecond
      [.dropped v1, .loaded (.ofFirstSecond "v2")] := .replace hread (by decide)
  have ha : (empty.applyAll [.loaded v1]).signedText? .overFirstSecond =
      some "6:events_1970-01-01T00:00:00+00:00_1970-01-01T00:00:01+00:00_2:v1_0\n" := by
    decide +kernel
  have hb : (empty.applyAll [.loaded v1, .dropped v1, .loaded (.ofFirstSecond "v2")]).signedText?
      .overFirstSecond =
      some "6:events_1970-01-01T00:00:00+00:00_1970-01-01T00:00:01+00:00_2:v2_0\n" := by
    decide +kernel
  obtain ⟨-, -, -, -, -, hnoticed⟩ := signature_identifies_reads hreachable hreachable
    .overFirstSecond .overFirstSecond
  obtain ⟨b, hb', hne⟩ := hnoticed _ hchange _ ha
  obtain rfl := Option.some.inj (hb.symm.trans hb')
  exact ⟨hreachable, hchange, hne (by decide +kernel)⟩

end Signed

end Registry

end AnswerCache
