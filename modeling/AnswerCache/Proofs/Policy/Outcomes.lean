import AnswerCache.Proofs.Policy.Counts
import AnswerCache.Proofs.Policy.Provenance

/-!
The counters agree with the outcomes: over every store each call is counted by what it answered, and
over a run the counters are the tallies of the answers.
-/

namespace AnswerCache

def Counter.ofOffers : List Counter :=
  [writes, skippedUncacheable, skippedOversized, setFailures]

namespace Metrics

structure Looked (m n : Metrics) (served outdated : Prop) : Prop where
  requests : n.requests = m.requests + 1
  answered : (served ∧ n.hits = m.hits + 1 ∧ n.misses = m.misses) ∨
    (¬served ∧ n.hits = m.hits ∧ n.misses = m.misses + 1)
  nearly : (outdated ∧ ¬served ∧ n.potentialHits = m.potentialHits + 1) ∨
    (¬outdated ∧ n.potentialHits = m.potentialHits)
  others : Counter.ofOffers.map n.get = Counter.ofOffers.map m.get

def Offered (m n : Metrics) (o : WriteOutcome) : Prop :=
  ∃ c ∈ Counter.ofOffers, o.counter? = some c ∧ ∀ d, n.get d = m.get d + if c = d then 1 else 0

end Metrics

lemma WriteOutcome.counter?_mem {o : WriteOutcome} {c : Counter} (h : o.counter? = some c) :
    c ∈ Counter.ofOffers := by
  cases o with
  | disabled => contradiction
  | stored _ _ | notCacheable | oversized _ _ | failed _ =>
    obtain rfl := Option.some.inj h
    decide

namespace Policy

variable {σ : Type}

lemma looked_lookup {p : Policy σ} (henabled : p.config.enabled = true)
    (service : SignatureService) (s : PolicyState σ) (q : Query) :
    Metrics.Looked s.metrics (p.lookup service s q).2.metrics
      ((p.lookup service s q).1.value.isSome = true) (p.FindsOutdated service s q) := by
  cases p.lookup_counted service s henabled q with
  | hit served current counted =>
    rw [counted]
    exact ⟨rfl, .inl ⟨served, rfl, rfl⟩, .inr ⟨current, rfl⟩, rfl⟩
  | nearly empty found counted =>
    rw [counted, empty]
    exact ⟨rfl, .inr ⟨nofun, rfl, rfl⟩, .inl ⟨found, nofun, rfl⟩, rfl⟩
  | miss empty current counted =>
    rw [counted, empty]
    exact ⟨rfl, .inr ⟨nofun, rfl, rfl⟩, .inr ⟨current, rfl⟩, rfl⟩

lemma Counted.offered {p : Policy σ} (henabled : p.config.enabled = true) {s : PolicyState σ}
    {r : WriteOutcome × PolicyState σ} (h : p.Counted s r) :
    Metrics.Offered s.metrics r.2.metrics r.1 := by
  obtain ⟨c, hc⟩ := Option.isSome_iff_exists.mp (h.once henabled)
  refine ⟨c, WriteOutcome.counter?_mem hc, hc, fun d => ?_⟩
  rw [h.metrics, hc]
  exact s.metrics.get_bump c d

structure Moment (σ : Type) where
  meanwhile : σ → σ
  service : SignatureService
  call : Call

def runAt (p : Policy σ) (s : PolicyState σ) (m : Moment σ) : Answer × PolicyState σ :=
  p.run m.service { s with store := m.meanwhile s.store } m.call

def afterAll (p : Policy σ) (s : PolicyState σ) : List (Moment σ) → PolicyState σ
  | [] => s
  | m :: rest => p.afterAll (p.runAt s m).2 rest

def answers (p : Policy σ) (s : PolicyState σ) : List (Moment σ) → List Answer
  | [] => []
  | m :: rest => (p.runAt s m).1 :: p.answers (p.runAt s m).2 rest

def Answer.counts (c : Counter) : Answer → Bool
  | looked l =>
    match c with
    | .requests => true
    | .hits => l.value.isSome
    | .misses => !l.value.isSome
    | _ => false
  | wrote o => o.counter? == some c

structure Tallied (m n : Metrics) (answers : List Answer) : Prop where
  told : ∀ c, c ≠ .potentialHits → n.get c = m.get c + answers.countP (Answer.counts c)
  nearly : n.potentialHits + m.misses ≤ m.potentialHits + n.misses

lemma Tallied.refl (m : Metrics) : Tallied m m [] :=
  ⟨fun _ _ => rfl, Nat.le_refl _⟩

lemma Tallied.trans {l m n : Metrics} {first second : List Answer} (h : Tallied l m first)
    (h' : Tallied m n second) : Tallied l n (first ++ second) := by
  have hnearly := h.nearly
  have hnearly' := h'.nearly
  refine ⟨fun c hc => ?_, by omega⟩
  rw [h'.told c hc, h.told c hc, List.countP_append, Nat.add_assoc]

lemma tallied_of_looked {m n : Metrics} {l : Lookup} {outdated : Prop}
    (h : m.Looked n (l.value.isSome = true) outdated) : Tallied m n [.looked l] := by
  obtain ⟨hrequests, hanswered, hnearly, hothers⟩ := h
  have hkept : ∀ c ∈ Counter.ofOffers, n.get c = m.get c := List.map_inj_left.mp hothers
  refine ⟨fun c hc => ?told, ?nearly⟩
  case told =>
    rw [List.countP_singleton]
    cases c with
    | requests => exact hrequests
    | hits | misses =>
      rcases hanswered with ⟨hvalue, hhits, hmisses⟩ | ⟨hvalue, hhits, hmisses⟩ <;>
        simp [Answer.counts, Metrics.get, hvalue, hhits, hmisses]
    | potentialHits => contradiction
    | writes | skippedUncacheable | skippedOversized | setFailures => exact hkept _ (by decide)
  case nearly =>
    -- A potential hit is a miss as well.
    rcases hnearly with ⟨-, hempty, hnearly⟩ | ⟨-, hnearly⟩
    · have hmissed := hanswered.resolve_left fun hserved => hempty hserved.1
      omega
    · omega

lemma tallied_of_offered {m n : Metrics} {o : WriteOutcome} (h : m.Offered n o) :
    Tallied m n [.wrote o] := by
  obtain ⟨c, hmem, hcounter, hmoved⟩ := h
  have hother : ∀ d ∈ Counter.ofOffers, d ≠ .potentialHits ∧ d ≠ .misses := by
    decide
  obtain ⟨hpotential, hmiss⟩ := hother c hmem
  refine ⟨fun d _ => ?_, ?_⟩
  · rw [hmoved d, List.countP_singleton]
    simp [Answer.counts, hcounter]
  · have hnearly := hmoved .potentialHits
    have hmisses := hmoved .misses
    rw [if_neg hpotential] at hnearly
    rw [if_neg hmiss] at hmisses
    exact Nat.le_of_eq (congrArg₂ (· + ·) hnearly hmisses.symm)

lemma tallied_run {p : Policy σ} (henabled : p.config.enabled = true) (service : SignatureService)
    (s : PolicyState σ) (call : Call) :
    Tallied s.metrics (p.run service s call).2.metrics [(p.run service s call).1] := by
  cases call with
  | lookup q => exact tallied_of_looked (looked_lookup henabled service s q)
  | write payload q v =>
    exact tallied_of_offered ((p.write_counted service s payload q v).offered henabled)
  | writeWithTicket ticket payload q v =>
    exact tallied_of_offered
      ((p.writeWithTicket_counted service s ticket payload q v).offered henabled)

lemma tallied_after {p : Policy σ} (henabled : p.config.enabled = true) (s : PolicyState σ)
    (moments : List (Moment σ)) :
    Tallied s.metrics (p.afterAll s moments).metrics (p.answers s moments) := by
  induction moments generalizing s with
  | nil => exact .refl s.metrics
  | cons first rest ih =>
    have hfirst := tallied_run henabled first.service
      { s with store := first.meanwhile s.store } first.call
    exact hfirst.trans (ih (p.runAt s first).2)

lemma countP_requests (answers : List Answer) :
    answers.countP (Answer.counts .requests) =
      answers.countP (Answer.counts .hits) + answers.countP (Answer.counts .misses) := by
  induction answers with
  | nil => rfl
  | cons first rest ih =>
    simp only [List.countP_cons, ih]
    cases first with
    | looked l => cases h : l.value.isSome <;> simp [Answer.counts, h] <;> omega
    | wrote o => cases o <;> simp [Answer.counts, WriteOutcome.counter?]

lemma metrics_run_disabled {p : Policy σ} (hdisabled : p.config.enabled = false)
    (service : SignatureService) (s : PolicyState σ) (call : Call) :
    (p.run service s call).2.metrics = s.metrics := by
  cases call with
  | lookup q => rw [run, p.lookup_disabled service s hdisabled]
  | write payload q v => rw [run, p.write_disabled service s hdisabled]
  | writeWithTicket ticket payload q v => rw [run, p.writeWithTicket_disabled service s hdisabled]

/-- Over every store, a lookup adds one to the requests, one to the hits or to the misses as it
serves a value or not, and one to the potential hits where it finds an outdated entry. An offer adds
one to the counter that its outcome names. Over a run the counters are the tallies of the answers,
so all requests are hits or misses, and no more are potential hits than misses. A policy that is off
counts nothing. -/
theorem metrics_agree_with_outcomes (p : Policy σ) :
    (p.config.enabled = true →
      (∀ service s q, Metrics.Looked s.metrics (p.lookup service s q).2.metrics
        ((p.lookup service s q).1.value.isSome = true) (p.FindsOutdated service s q)) ∧
      (∀ service s payload q v, Metrics.Offered s.metrics
        (p.write service s payload q v).2.metrics (p.write service s payload q v).1) ∧
      (∀ service s ticket payload q v, Metrics.Offered s.metrics
        (p.writeWithTicket service s ticket payload q v).2.metrics
        (p.writeWithTicket service s ticket payload q v).1) ∧
      ∀ store moments,
        let m := (p.afterAll (.new store) moments).metrics
        m.requests = m.hits + m.misses ∧ m.potentialHits ≤ m.misses ∧
          ∀ c, c ≠ .potentialHits →
            m.get c = (p.answers (.new store) moments).countP (Answer.counts c)) ∧
    (p.config.enabled = false →
      ∀ service s call, (p.run service s call).2.metrics = s.metrics) := by
  refine ⟨fun henabled => ⟨?lookups, ?writes, ?tickets, ?runs⟩, fun hdisabled => ?off⟩
  case lookups => exact looked_lookup henabled
  case writes =>
    intro service s payload q v
    exact (p.write_counted service s payload q v).offered henabled
  case tickets =>
    intro service s ticket payload q v
    exact (p.writeWithTicket_counted service s ticket payload q v).offered henabled
  case runs =>
    intro store moments m
    obtain ⟨htold, hnearly⟩ := tallied_after henabled (.new store) moments
    have htally : ∀ c, c ≠ .potentialHits →
        m.get c = (p.answers (.new store) moments).countP (Answer.counts c) := by
      intro c hc
      rw [htold c hc]
      cases c <;> exact Nat.zero_add _
    have hbound : m.potentialHits + 0 ≤ 0 + m.misses := hnearly
    refine ⟨?_, by omega, htally⟩
    have hrequests := htally .requests (by decide)
    rw [countP_requests, ← htally .hits (by decide), ← htally .misses (by decide)] at hrequests
    exact hrequests
  case off => exact metrics_run_disabled hdisabled

def overUnsigned : Policy Unit where
  config := {}
  canonicalizer := .standard
  store :=
    { name := "unsigned"
      get := fun _ _ => (.ok (some ⟨none, "null"⟩), ())
      set := fun _ _ _ => (.error (.unavailable "read only"), ()) }

def lookAndOffer : List (Moment Unit) :=
  [⟨id, everySignature ⟨1⟩, .lookup anyQuery⟩,
    ⟨id, everySignature ⟨1⟩, .write .null anyQuery ⟨false, false⟩⟩]

theorem unsigned_entry_is_potential_hit :
    overUnsigned.FindsOutdated (everySignature ⟨1⟩) (.new ()) anyQuery ∧
      (overUnsigned.lookup (everySignature ⟨1⟩) (.new ()) anyQuery).2.metrics.potentialHits = 1 ∧
      (overUnsigned.afterAll (.new ()) lookAndOffer).metrics.misses = 1 ∧
      (overUnsigned.afterAll (.new ()) lookAndOffer).metrics.setFailures = 1 := by
  have hfound : overUnsigned.FindsOutdated (everySignature ⟨1⟩) (.new ()) anyQuery := by
    cases hkey : overUnsigned.keyOf anyQuery with
    | ok key => exact ⟨key, _, hkey, rfl, Or.inl rfl⟩
    | error e =>
      have hok : (overUnsigned.keyOf anyQuery).isOk = true := by
        decide +kernel
      rw [hkey] at hok
      contradiction
  obtain ⟨hlookups, -, -, hruns⟩ := (metrics_agree_with_outcomes overUnsigned).1 rfl
  obtain ⟨-, -, htally⟩ := hruns () lookAndOffer
  refine ⟨hfound, ?_, ?_, ?_⟩
  · have hlooked := hlookups (everySignature ⟨1⟩) (.new ()) anyQuery
    exact (hlooked.nearly.resolve_right fun hcurrent => hcurrent.1 hfound).2.2
  · exact (htally .misses (by decide)).trans (by decide +kernel)
  · exact (htally .setFailures (by decide)).trans (by decide +kernel)

end Policy

end AnswerCache
