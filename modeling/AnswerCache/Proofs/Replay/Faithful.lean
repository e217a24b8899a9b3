import AnswerCache.Proofs.Execution.Current
import AnswerCache.Proofs.Execution.Executor
import AnswerCache.Proofs.Policy.Memory
import AnswerCache.Replay.Run

/-!
A step of a replay answers a query as the backend would: whatever is held under a signature is the
whole answer of some registry whose signed text has that signature.
-/

namespace AnswerCache

open Canonicalizer (standard)

def AnswersAs (result : Except QueryError Execution) (q : Query) (answer : BackendAnswer) : Prop :=
  (∀ error, q.validate = .error error → result = .error error) ∧
    (q.validate = .ok () → ∃ execution, result = .ok execution ∧
      execution.response.payload = answer.payload ∧
      execution.response.missing = answer.missing ∧
      execution.response.volatile = answer.volatile)

namespace Replay

lemma policy_eq (config : CacheConfig) :
    policy config = Policy.overMemory config standard := by
  rw [policy, ClockedMemory.within_eq, Policy.overMemory]

def lookup (config : CacheConfig) (r : Replay) (q : Query) : Lookup × PolicyState ClockedMemory :=
  (policy config).lookup r.registry.signatureFor r.state.policy q

lemma lookup_eq (config : CacheConfig) (r : Replay) (q : Query) : r.lookup config q =
    (Policy.overMemory config standard).lookup r.registry.signatureFor r.state.policy q := by
  rw [lookup, policy_eq]

def execution (config : CacheConfig) (volatileFrom : Option Instant) (r : Replay) (q : Query) :
    Except QueryError Execution × ExecutorState ClockedMemory :=
  (executor config).execute r.registry.signatureFor (r.registry.backend volatileFrom) r.state q

def asksSignature (config : CacheConfig) (volatileFrom : Option Instant) (r : Replay) (q : Query) :
    Bool :=
  match r.execution config volatileFrom q with
  | (.error _, _) => false
  | (.ok x, s) =>
    let service := r.registry.signatureFor
    (r.lookup config q).1.ticket.any (fun t => t.signature.isSome) ||
      x.write.any fun w => (w.run (policy config) service s.policy).1.reachedStore

def hashed (config : CacheConfig) (volatileFrom : Option Instant) (r : Replay) (q : Query) :
    List String :=
  if r.asksSignature config volatileFrom q then (r.registry.signedText? q).toList else []

/-- An entry with a signature is a whole and final answer, of a registry whose signed text is among
these. -/
def Faithful (texts : List String) (volatileFrom : Option Instant) (k : Held) : Prop :=
  ∀ signature, k.entry.signature = some signature →
    ∃ (r : Registry) (q : Query), r.Filed ∧ standard.keyOf q = .ok k.key ∧
      r.signatureFor q = some signature ∧ (∀ t, r.signedText? q = some t → t ∈ texts) ∧
      ∃ value, Json.parse? k.entry.value = some value ∧
        r.answer volatileFrom q = ⟨value, [], []⟩

structure Sound (texts : List String) (volatileFrom : Option Instant) (r : Replay) : Prop where
  filed : r.registry.Filed
  faithful : ∀ k ∈ r.state.policy.store.memory.held, Faithful texts volatileFrom k

section Step

variable {config : CacheConfig} {volatileFrom : Option Instant} {texts : List String} {r : Replay}
  {q : Query}

lemma Sound.of_lookup (hr : Sound texts volatileFrom r) {s : ExecutorState ClockedMemory}
    (hs : s.policy.store = (r.lookup config q).2.store) :
    Sound texts volatileFrom { r with state := s } := by
  refine ⟨hr.filed, fun k hk => ?_⟩
  rw [hs, lookup_eq] at hk
  exact hr.faithful k (Policy.mem_held_of_lookup hk)

lemma mem_of_asksSignature (hasks : r.asksSignature config volatileFrom q = true)
    (hhashed : ∀ t ∈ r.hashed config volatileFrom q, t ∈ texts) :
    ∀ t, r.registry.signedText? q = some t → t ∈ texts := by
  intro t ht
  refine hhashed t ?_
  rw [hashed, if_pos hasks]
  exact Option.mem_toList.mpr ht

lemma asksSignature_of_value (hq : q.validate = .ok ()) {value : Json}
    (h : (r.lookup config q).1.value = some value) :
    r.asksSignature config volatileFrom q = true := by
  obtain ⟨notices, hx⟩ := (executor config).execute_hit r.registry.signatureFor
    (r.registry.backend volatileFrom) r.state q rfl hq h
  obtain ⟨key, hticket⟩ := Policy.lookup_ticket_of_value _ _ _ h
  simp only [asksSignature, execution, hx, lookup, hticket]
  rfl

lemma answer_of_value (hr : Sound texts volatileFrom r) (hfree : CollisionFree texts)
    (hq : q.validate = .ok ()) (hhashed : ∀ t ∈ r.hashed config volatileFrom q, t ∈ texts)
    {value : Json} (h : (r.lookup config q).1.value = some value) :
    r.registry.answer volatileFrom q = ⟨value, [], []⟩ := by
  have htexts := mem_of_asksSignature (asksSignature_of_value hq h) hhashed
  rw [lookup_eq] at h
  obtain ⟨k, signature, hk, hkey, hservice, hsignature, hvalue⟩ := Policy.held_of_value h
  obtain ⟨r₀, q₀, hfiled₀, hkey₀, hservice₀, htexts₀, found, hfound, hanswer⟩ :=
    hr.faithful k hk signature hsignature
  obtain rfl : found = value := Option.some.inj (hfound.symm.trans hvalue)
  rw [← hanswer]
  exact (Registry.answer_eq_of_signature hfree hfiled₀ hr.filed hkey₀ hkey hservice₀ hservice
    htexts₀ htexts volatileFrom).symm

variable (config volatileFrom)

lemma execution_of_error {error : QueryError} (hq : q.validate = .error error) :
    r.execution config volatileFrom q = (.error error, r.state) :=
  (executor config).execute_invalid _ _ _ q hq

lemma execution_of_value (hq : q.validate = .ok ()) {value : Json}
    (h : (r.lookup config q).1.value = some value) :
    ∃ s, r.execution config volatileFrom q = (.ok ⟨.ofCache q value, none⟩, s) ∧
      s.policy.store = (r.lookup config q).2.store := by
  obtain ⟨notices, hx⟩ := (executor config).execute_hit r.registry.signatureFor
    (r.registry.backend volatileFrom) r.state q rfl hq h
  exact ⟨_, hx, rfl⟩

lemma execution_of_none (hq : q.validate = .ok ()) (h : (r.lookup config q).1.value = none) :
    ∃ s, r.execution config volatileFrom q =
        (.ok ⟨.ofBackend q (r.registry.answer volatileFrom q) (r.lookup config q).1.ticket,
          (policy config).offer? (.ofBackend q (r.registry.answer volatileFrom q)
            (r.lookup config q).1.ticket)⟩, s) ∧
      s.policy.store = (r.lookup config q).2.store := by
  obtain ⟨notices, hx⟩ := (executor config).execute_miss r.registry.signatureFor
    (r.registry.backend volatileFrom) r.state q rfl hq h rfl
  exact ⟨_, hx, rfl⟩

variable {config volatileFrom}

theorem answersAs_execution (hr : Sound texts volatileFrom r) (hfree : CollisionFree texts)
    (hhashed : ∀ t ∈ r.hashed config volatileFrom q, t ∈ texts) :
    AnswersAs (r.execution config volatileFrom q).1 q (r.registry.answer volatileFrom q) := by
  refine ⟨fun error hq => congrArg Prod.fst (execution_of_error config volatileFrom hq),
    fun hq => ?_⟩
  cases h : (r.lookup config q).1.value with
  | some value =>
    obtain ⟨s, hx, -⟩ := execution_of_value config volatileFrom hq h
    rw [hx, answer_of_value hr hfree hq hhashed h]
    exact ⟨_, rfl, rfl, rfl, rfl⟩
  | none =>
    obtain ⟨s, hx, -⟩ := execution_of_none config volatileFrom hq h
    rw [hx]
    exact ⟨_, rfl, rfl, rfl, rfl⟩

lemma faithful_of_admitted (hr : r.registry.Filed) (hpartial : config.cachePartialData = false)
    {entry : Entry} {ticket : Option Ticket}
    (hadmitted : (policy config).Admitted
      (r.registry.leftBehind volatileFrom q ticket).verdict entry (r.registry.payload q))
    {k : Held} (hkey : standard.keyOf q = .ok k.key) (hentry : k.entry = entry)
    (hsignature : entry.signature = r.registry.signatureFor q)
    (htexts : ∀ t, r.registry.signedText? q = some t → t ∈ texts) :
    Faithful texts volatileFrom k := by
  intro signature hk
  rw [hentry, hsignature] at hk
  obtain ⟨hcomplete, hfinal⟩ :=
    (Policy.admits_iff (p := policy config) hpartial _ _).mp hadmitted.admits
  refine ⟨r.registry, q, hr, hkey, hk, htexts, r.registry.payload q, ?_, ?_⟩
  · rw [hentry]
    exact hadmitted.parse?_value
  · rw [Registry.answer, hcomplete, hfinal]

lemma asksSignature_of_reachedStore {x : Execution} {s : ExecutorState ClockedMemory}
    (hx : r.execution config volatileFrom q = (.ok x, s)) {w : PendingWrite}
    (hw : x.write = some w)
    (hreached : (w.run (policy config) r.registry.signatureFor s.policy).1.reachedStore = true) :
    r.asksSignature config volatileFrom q = true := by
  simp only [asksSignature, hx, hw, Option.any_some, hreached, Bool.or_true]

def pendingWrite (config : CacheConfig) (volatileFrom : Option Instant) (r : Replay) (q : Query) :
    PendingWrite :=
  r.registry.leftBehind volatileFrom q (r.lookup config q).1.ticket

lemma keyOf_pendingWrite {ticket : Ticket}
    (h : (r.pendingWrite config volatileFrom q).ticket = some ticket) :
    standard.keyOf q = .ok ticket.key :=
  (Policy.lookup_ticket _ _ _ h).1

lemma signatureFor_pendingWrite :
    (r.pendingWrite config volatileFrom q).signatureFor r.registry.signatureFor =
      r.registry.signatureFor q := by
  rw [PendingWrite.signatureFor]
  split
  · rename_i ticket hticket
    rcases (Policy.lookup_ticket _ _ _ hticket).2 with h | h <;> rw [Ticket.signatureFor, h] <;> rfl
  · rfl

lemma sound_settle (hr : Sound texts volatileFrom r) (hpartial : config.cachePartialData = false)
    (hhashed : ∀ t ∈ r.hashed config volatileFrom q, t ∈ texts)
    {x : Execution} {s : ExecutorState ClockedMemory}
    (hx : r.execution config volatileFrom q = (.ok x, s))
    (hstore : s.policy.store = (r.lookup config q).2.store)
    (hw : x.write = some (r.pendingWrite config volatileFrom q)) :
    Sound texts volatileFrom { r with
      state := (executor config).settle r.registry.signatureFor s
        (r.pendingWrite config volatileFrom q) } := by
  have hold := (hr.of_lookup hstore).faithful
  refine ⟨hr.filed, fun k hk => ?_⟩
  dsimp only [Executor.settle, executor] at hk
  rcases Policy.run_cases (policy config) r.registry.signatureFor s.policy
      (r.pendingWrite config volatileFrom q) (fun _ => keyOf_pendingWrite) with
    ⟨hsame, -⟩ | ⟨key, entry, hkey, hadmitted, hsignature, hput⟩
  · exact hold k (hsame ▸ hk)
  -- a write that reaches the store has asked for the signature, so its text is among `texts`
  · have hasks : r.asksSignature config volatileFrom q = true := by
      refine asksSignature_of_reachedStore hx hw ?_
      rw [hput]
      exact (policy config).reachedStore_put s.policy key entry
    rw [signatureFor_pendingWrite] at hsignature
    rw [hput, policy_eq] at hk
    rcases Policy.mem_held_of_put hk with ⟨rfl, hentry, -⟩ | ⟨hk, -⟩
    · exact faithful_of_admitted hr.filed hpartial hadmitted hkey hentry hsignature
        (mem_of_asksSignature hasks hhashed)
    · exact hold k hk

end Step

end Replay

end AnswerCache
