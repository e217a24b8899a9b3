import AnswerCache.Proofs.Execution.Payload
import AnswerCache.Proofs.Policy.Calls
import AnswerCache.Proofs.Query.Identity
import AnswerCache.Proofs.Segment.Signature

namespace AnswerCache

open Canonicalizer (standard)

def Signature.ofText (text : String) : Signature :=
  ofBytes (Sha256.digest (utf8Bytes text))

def CollisionFree (texts : List String) : Prop :=
  ∀ a ∈ texts, ∀ b ∈ texts, Signature.ofText a = Signature.ofText b → a = b

instance (texts : List String) : Decidable (CollisionFree texts) :=
  inferInstanceAs
    (Decidable (∀ a ∈ texts, ∀ b ∈ texts, Signature.ofText a = Signature.ofText b → a = b))

lemma Canonicalizer.reads_same_of_keyOf {q r : Query} {k : CacheKey}
    (hq : standard.keyOf q = .ok k) (hr : standard.keyOf r = .ok k) :
    q.dataSource = r.dataSource ∧ q.intervals = r.intervals := by
  have h := (keyOf_eq_iff_same hq hr).mp rfl
  simp only [Query.same, Query.withContext, Bool.and_eq_true, beq_iff_eq] at h
  exact ⟨h.1.1.1.1.1.1.1.1.2, h.1.1.2⟩

namespace Registry

lemma signatureFor_eq_some {r : Registry} {q : Query} {signature : Signature} :
    r.signatureFor q = some signature ↔
      ∃ text, r.signedText? q = some text ∧ Signature.ofText text = signature :=
  Option.map_eq_some_iff

lemma volatileFor_congr {volatileFrom : Option Instant} {q r : Query}
    (h : q.intervals = r.intervals) : volatileFor volatileFrom q = volatileFor volatileFrom r := by
  cases volatileFrom <;> simp only [volatileFor, h]

theorem answer_eq_of_signature {texts : List String} (hfree : CollisionFree texts)
    {r s : Registry} (hr : r.Filed) (hs : s.Filed) {q u : Query} {k : CacheKey}
    (hq : standard.keyOf q = .ok k) (hu : standard.keyOf u = .ok k) {signature : Signature}
    (hrq : r.signatureFor q = some signature) (hsu : s.signatureFor u = some signature)
    (hrtexts : ∀ t, r.signedText? q = some t → t ∈ texts)
    (hstexts : ∀ t, s.signedText? u = some t → t ∈ texts) (volatileFrom : Option Instant) :
    r.answer volatileFrom q = s.answer volatileFrom u := by
  obtain ⟨a, ha, hofa⟩ := signatureFor_eq_some.mp hrq
  obtain ⟨b, hb, hofb⟩ := signatureFor_eq_some.mp hsu
  obtain rfl : a = b := hfree a (hrtexts a ha) b (hstexts b hb) (hofa.trans hofb.symm)
  obtain ⟨hsource, hintervals⟩ := Canonicalizer.reads_same_of_keyOf hq hu
  obtain ⟨hpayload, hmissing⟩ := answer_eq_of_signedText hr hs hsource hintervals ha hb
  rw [answer, answer, hpayload, hmissing, volatileFor_congr hintervals]

def leftBehind (r : Registry) (volatileFrom : Option Instant) (q : Query)
    (ticket : Option Ticket) : PendingWrite :=
  ⟨q, r.payload q, .ofIntervals (r.missingFor q) (volatileFor volatileFrom q), ticket⟩

end Registry

lemma Policy.Admitted.parse?_value {σ : Type} {p : Policy σ} {v : Verdict} {entry : Entry}
    {r : Registry} {q : Query} (h : p.Admitted v entry (r.payload q)) :
    Json.parse? entry.value = some (r.payload q) := by
  have hfits := h.fits
  rw [h.value] at hfits ⊢
  exact Registry.parse?_payload hfits

def Interval.firstSecond : Interval where
  start := ⟨0, 0, by decide, by decide, by decide⟩
  stop := ⟨1, 0, by decide, by decide, by decide⟩
  start_milli := by decide
  stop_milli := by decide
  start_le_stop := by decide

def Query.overFirstSecond : Query :=
  { Query.blank .timeseries (.table "events") with intervals := [.firstSecond] }

def Segment.ofFirstSecond (version : String) : Segment :=
  .new "events" .firstSecond version

end AnswerCache
