import AnswerCache.Proofs.Segment.Identification

/-!
The payload of an answer and the signature of its query change together: each of the two tells which
segments the query reads, also of a union that names a table more than once.
-/

namespace AnswerCache.Registry

variable {r s : Registry} {q : Query}

lemma mem_scanned_iff (r : Registry) (q : Query) (id : String) :
    id ∈ r.scanned q ↔ id ∈ r.listed q := by
  simp only [scanned, sortTexts, listed, List.mem_mergeSort, List.mem_flatMap, mem_sortUnique]

lemma payload_eq_iff : r.payload q = s.payload q ↔ r.scanned q = s.scanned q := by
  constructor
  · intro h
    simp only [payload, Json.array.injEq, Json.object.injEq, List.cons.injEq, Prod.mk.injEq] at h
    exact map_string_inj.mp h.1.2.1.2
  · intro h
    rw [payload, payload, h]

lemma reads_eq_of_payload_eq (hr : r.Filed) (hs : s.Filed) (h : r.payload q = s.payload q) :
    r.reads q = s.reads q := by
  apply reads_ext
  intro t
  rw [← identifier_mem_listed_iff hr, ← identifier_mem_listed_iff hs, ← mem_scanned_iff,
    ← mem_scanned_iff, payload_eq_iff.mp h]

lemma payload_eq_iff_reads_eq (hr : r.Filed) (hs : s.Filed) {a b : String}
    (ha : r.signedText? q = some a) (hb : s.signedText? q = some b) :
    r.payload q = s.payload q ↔ r.reads q = s.reads q := by
  constructor
  · exact reads_eq_of_payload_eq hr hs
  · intro hreads
    obtain rfl : a = b := (signedText_eq_iff hr hs ha hb).mpr hreads
    exact (answer_eq_of_signedText hr hs rfl rfl ha hb).1

/-- Where all tables are tracked, two states of the data give a query the same payload exactly when
they give it the same signature, unless the two texts that are hashed collide. -/
theorem payload_changes_with_signature (hr : r.Reachable) (hs : s.Reachable) (q : Query)
    (hrt : ∀ table ∈ q.dataSource.tableNames, r.isTracked table = true)
    (hst : ∀ table ∈ q.dataSource.tableNames, s.isTracked table = true)
    (fromFirst fromSecond : Option Instant) :
    ∃ x y a b, (r.backend fromFirst).answer q = .ok x ∧ (s.backend fromSecond).answer q = .ok y ∧
      r.signedText? q = some a ∧ s.signedText? q = some b ∧
      (x.payload = y.payload ↔ r.reads q = s.reads q) ∧
      (CollisionFree [a, b] →
        (x.payload = y.payload ↔ r.signatureFor q = s.signatureFor q)) := by
  obtain ⟨a, ha⟩ := Option.isSome_iff_exists.mp ((isSome_signedText? r q).mpr hrt)
  obtain ⟨b, hb⟩ := Option.isSome_iff_exists.mp ((isSome_signedText? s q).mpr hst)
  have hpayload := payload_eq_iff_reads_eq hr.filed hs.filed ha hb
  refine ⟨_, _, a, b, rfl, rfl, ha, hb, hpayload, fun hfree => ?_⟩
  exact hpayload.trans (signatureFor_eq_iff hr.filed hs.filed ha hb hfree).symm

def overEventsTwice : Query :=
  { Query.overFirstSecond with dataSource := .union ["events", "events"] }

theorem new_version_changes_both :
    let r := empty.applyAll [.loaded (.ofFirstSecond "v1")]
    let s := empty.applyAll [.loaded (.ofFirstSecond "v2")]
    r.Reachable ∧ s.Reachable ∧
      (∀ table ∈ overEventsTwice.dataSource.tableNames, r.isTracked table = true) ∧
      (∀ table ∈ overEventsTwice.dataSource.tableNames, s.isTracked table = true) ∧
      ∃ x y, (r.backend none).answer overEventsTwice = .ok x ∧
        (s.backend none).answer overEventsTwice = .ok y ∧ x.payload ≠ y.payload ∧
        r.signatureFor overEventsTwice ≠ s.signatureFor overEventsTwice := by
  intro r s
  have hr : r.Reachable := ⟨_, rfl⟩
  have hs : s.Reachable := ⟨_, rfl⟩
  have hrt : ∀ table ∈ overEventsTwice.dataSource.tableNames, r.isTracked table = true := by decide
  have hst : ∀ table ∈ overEventsTwice.dataSource.tableNames, s.isTracked table = true := by decide
  have ha' : r.signedText? overEventsTwice =
      some "6:events_1970-01-01T00:00:00+00:00_1970-01-01T00:00:01+00:00_2:v1_0\n" := by
    decide +kernel
  have hb' : s.signedText? overEventsTwice =
      some "6:events_1970-01-01T00:00:00+00:00_1970-01-01T00:00:01+00:00_2:v2_0\n" := by
    decide +kernel
  obtain ⟨x, y, a, b, hx, hy, ha, hb, hreads, hsigned⟩ :=
    payload_changes_with_signature hr hs overEventsTwice hrt hst none none
  obtain rfl := Option.some.inj (ha'.symm.trans ha)
  obtain rfl := Option.some.inj (hb'.symm.trans hb)
  have hne : x.payload ≠ y.payload := by
    intro hsame
    have htexts := (signedText_eq_iff hr.filed hs.filed ha hb).mpr (hreads.mp hsame)
    exact absurd htexts (by decide)
  exact ⟨hr, hs, hrt, hst, x, y, hx, hy, hne, fun h => hne ((hsigned (by decide +kernel)).mpr h)⟩

end AnswerCache.Registry
