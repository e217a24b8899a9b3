import AnswerCache.Proofs.Execution.Current
import AnswerCache.Proofs.Execution.Runs
import AnswerCache.Proofs.Policy.Provenance

/-!
What an executor writes to its store over a whole run: the complete and final answers of the backend
that are small enough, each once, and nothing else.
-/

namespace AnswerCache

namespace Executor

variable {σ : Type}

structure Event.Keeps (event : Event) (p : Policy σ) (r : Response) (key : CacheKey) : Prop where
  executed : event.turn.call = .execute r.query
  answered : event.answer = .ok r
  fromBackend : r.provenance = .backend
  unchanged : event.turn.backend.answer r.query = .ok ⟨r.payload, r.missing, r.volatile⟩
  complete : r.missing = []
  final : r.volatile = []
  enabled : p.config.enabled = true
  keyed : p.keyOf r.query = .ok key
  fits : r.payload.compactText.utf8ByteSize ≤ p.config.maxResponseBytes.toNat

def Event.Idle (event : Event) (p : Policy σ) : Prop :=
  event.sets = [] ∧ ∀ r key, ¬event.Keeps p r key

def Event.KeepsOne (event : Event) (p : Policy σ) : Prop :=
  ∃ r key signature result, event.Keeps p r key ∧
    event.sets = [⟨key, ⟨signature, r.payload.compactText⟩, result⟩]

section Outcomes

variable {e : Executor σ} {q : Query} {b : Backend} {current later : SignatureService}
  {t : ExecutorState (σ × List SetCall)}

lemma idle_of_error {p : Policy σ} {event : Event} {err : QueryError}
    (hanswer : event.answer = .error err) (hsets : event.sets = []) : event.Idle p := by
  refine ⟨hsets, fun r key hkeeps => ?_⟩
  have hok := hkeeps.answered
  rw [hanswer] at hok
  contradiction

lemma idle_of_cache {p : Policy σ} {event : Event} {r : Response} (hanswer : event.answer = .ok r)
    (hcache : r.provenance = .cache) (hsets : event.sets = []) : event.Idle p := by
  refine ⟨hsets, fun other key hkeeps => ?_⟩
  have hok := hkeeps.answered
  rw [hanswer] at hok
  have hbackend := hkeeps.fromBackend
  rw [← Except.ok.inj hok, hcache] at hbackend
  contradiction

lemma kept_of_miss (hpartial : e.policy.config.cachePartialData = false) {answer : BackendAnswer}
    (hb : b.answer q = .ok answer) {ticket : Option Ticket}
    (hticket : ∀ k, ticket = some k → e.policy.keyOf q = .ok k.key)
    (hlog : t.policy.store.2 = []) {event : Event}
    (hevent : event = ⟨⟨.execute q, b, current, later⟩, .ok (.ofBackend q answer ticket),
      (e.recorded.flush later t
        (e.policy.offer? (.ofBackend q answer ticket))).policy.store.2⟩) :
    event.Idle e.policy ∨ event.KeepsOne e.policy := by
  by_cases henabled : e.policy.config.enabled = true
  · rw [Policy.offer?_ofBackend henabled] at hevent
    rcases Policy.logged_run e.policy later t.policy
        ⟨q, answer.payload, .ofIntervals answer.missing answer.volatile, ticket⟩ hticket with
      ⟨hsame, hnone⟩ | ⟨key, ⟨signature, text⟩, hkey, hadmitted, hlogged⟩
    · left
      refine ⟨by rw [hevent]; exact hsame.trans hlog, fun r key hkeeps => ?_⟩
      have hanswered := hkeeps.answered
      rw [hevent] at hanswered
      obtain rfl := Except.ok.inj hanswered
      -- such a response would have been admitted, so it would have reached the store
      exact hnone key ⟨none, answer.payload.compactText⟩ hkeeps.keyed
        ⟨hkeeps.enabled, (Policy.admits_iff hpartial _ _).mpr ⟨hkeeps.complete, hkeeps.final⟩,
          hkeeps.fits, rfl⟩
    · right
      obtain ⟨hcomplete, hfinal⟩ := (Policy.admits_iff hpartial _ _).mp hadmitted.admits
      obtain rfl : text = answer.payload.compactText := hadmitted.value
      rw [hlog] at hlogged
      subst hevent
      exact ⟨.ofBackend q answer ticket, key, signature, _,
        ⟨rfl, rfl, rfl, hb, hcomplete, hfinal, henabled, hkey, hadmitted.fits⟩, hlogged⟩
  · left
    rw [Policy.offer?_disabled (Bool.not_eq_true _ ▸ henabled)] at hevent
    exact ⟨by rw [hevent]; exact hlog, fun r key hkeeps => henabled hkeeps.enabled⟩

end Outcomes

section Gate

variable {e : Executor σ} (hstages : e.stages = [])
  (hpartial : e.policy.config.cachePartialData = false)

lemma logged_executeUncached (b : Backend) (t : ExecutorState (σ × List SetCall)) (q : Query) :
    (executeUncached b t q).2.policy.store.2 = t.policy.store.2 := by
  simp only [executeUncached, ask]
  cases q.validate with
  | error err => rfl
  | ok _ => cases b.answer q <;> rfl

include hstages hpartial

lemma idle_or_keepsOne (s : ExecutorState σ) (t : Turn) :
    (e.watch s t).1.Idle e.policy ∨ (e.watch s t).1.KeepsOne e.policy := by
  obtain ⟨call, b, current, later⟩ := t
  cases call with
  | executeUncached q =>
    left
    exact ⟨logged_executeUncached b s.recording q, fun r key hkeeps => nomatch hkeeps.executed⟩
  | execute q =>
    have hlog := Policy.logged_lookup e.policy current s.recording.policy q
    rcases hx : e.recorded.execute current b s.recording q with ⟨result, t⟩
    cases execute_outcome (e := e.recorded) hstages hx with
    | invalid hq =>
      rw [watch_of_error hx]
      exact Or.inl (idle_of_error rfl rfl)
    | hit hq hvalue =>
      rw [watch_of_ok hx]
      exact Or.inl (idle_of_cache rfl rfl hlog)
    | failed hq hvalue hb =>
      rw [watch_of_error hx]
      exact Or.inl (idle_of_error rfl hlog)
    | miss hq hvalue hb =>
      refine kept_of_miss hpartial hb (fun k hk => ?_) hlog (watch_of_ok hx)
      exact (Policy.lookup_ticket e.policy.recorded current s.recording.policy hk).1

/-- Whatever the store answers, each write that reaches it comes from a complete and final answer
of the backend to an execution, carries the text of that answer under the key of its query, and is
the only one of its event; every such answer that is small enough is written. -/
theorem writes_are_gated (s : ExecutorState σ) (turns : List Turn) (event : Event)
    (hevent : event ∈ e.history s turns) :
    (∀ set ∈ event.sets, ∃ r, event.Keeps e.policy r set.key ∧
      set.entry.value = r.payload.compactText) ∧
    (∀ r key, event.Keeps e.policy r key → ∃ signature result,
      event.sets = [⟨key, ⟨signature, r.payload.compactText⟩, result⟩]) ∧
    ((∃ r, event.answer = .ok r ∧ r.provenance = .cache) ∨
      (∃ q, event.turn.call = .executeUncached q) ∨ e.policy.config.enabled = false →
      event.sets = []) := by
  have hgate := forall_history e
    (P := fun event => event.Idle e.policy ∨ event.KeepsOne e.policy)
    (idle_or_keepsOne hstages hpartial) s turns event hevent
  rcases hgate with ⟨hnone, hidle⟩ | ⟨r, key, signature, result, hkeeps, hsets⟩
  · refine ⟨?_, fun r key hkeeps => absurd hkeeps (hidle r key), fun _ => hnone⟩
    rw [hnone]
    exact fun set hmem => absurd hmem List.not_mem_nil
  · refine ⟨?written, ?only, ?silent⟩
    case written =>
      rw [hsets]
      intro set hmem
      rw [List.mem_singleton.mp hmem]
      exact ⟨r, hkeeps, rfl⟩
    case only =>
      intro r' key' hkeeps'
      obtain rfl := Except.ok.inj (hkeeps.answered.symm.trans hkeeps'.answered)
      obtain rfl := Except.ok.inj (hkeeps.keyed.symm.trans hkeeps'.keyed)
      exact ⟨signature, result, hsets⟩
    case silent =>
      rintro (⟨r', hanswer, hcache⟩ | ⟨q, huncached⟩ | hdisabled)
      · obtain rfl := Except.ok.inj (hkeeps.answered.symm.trans hanswer)
        exact nomatch hkeeps.fromBackend.symm.trans hcache
      · exact nomatch hkeeps.executed.symm.trans huncached
      · exact nomatch hkeeps.enabled.symm.trans hdisabled

end Gate

def plain : Executor ClockedMemory :=
  ⟨.overMemory {} .standard, []⟩

def plainTurn (call : Call) : Turn :=
  ⟨call, .constant ⟨.null, [], []⟩, Policy.everySignature ⟨1⟩, Policy.everySignature ⟨1⟩⟩

def plainTurns : List Turn :=
  [plainTurn (.execute .overFirstSecond), plainTurn (.execute .overFirstSecond),
    plainTurn (.executeUncached .overFirstSecond)]

def Event.shown (event : Event) : Option Provenance × Nat :=
  (event.answer.toOption.map Response.provenance, event.sets.length)

theorem answer_is_written_once :
    ∃ missed hit bypassed, plain.history (.new (.new {})) plainTurns = [missed, hit, bypassed] ∧
      (∃ r key, missed.Keeps plain.policy r key) ∧ hit.sets = [] ∧ bypassed.sets = [] := by
  have hshown : (plain.history (.new (.new {})) plainTurns).map Event.shown =
      [(some .backend, 1), (some .cache, 0), (some .backend, 0)] := by
    decide +kernel
  have hturns := map_turn_history plain (.new (.new {})) plainTurns
  have hgate := writes_are_gated (e := plain) rfl rfl (.new (.new {})) plainTurns
  obtain ⟨missed, _, hhistory, hmissed, hrest⟩ := List.map_eq_cons_iff.mp hshown
  obtain ⟨hit, _, rfl, hhit, hrest⟩ := List.map_eq_cons_iff.mp hrest
  obtain ⟨bypassed, _, rfl, hbypassed, hrest⟩ := List.map_eq_cons_iff.mp hrest
  obtain rfl := List.map_eq_nil_iff.mp hrest
  rw [hhistory] at hturns hgate
  refine ⟨missed, hit, bypassed, hhistory, ?_, ?_, ?_⟩
  · obtain ⟨set, hset⟩ := List.length_eq_one_iff.mp (congrArg Prod.snd hmissed)
    obtain ⟨r, hkeeps, -⟩ := (hgate missed (by simp)).1 set (by simp [hset])
    exact ⟨r, set.key, hkeeps⟩
  · obtain ⟨r, hanswer, hcache⟩ := Option.map_eq_some_iff.mp (congrArg Prod.fst hhit)
    apply (hgate hit (by simp)).2.2
    exact Or.inl ⟨r, ok_of_toOption hanswer, hcache⟩
  · apply (hgate bypassed (by simp)).2.2
    simp only [plainTurns, List.map_cons, List.cons.injEq] at hturns
    exact Or.inr (Or.inl ⟨.overFirstSecond, congrArg Turn.call hturns.2.2.1⟩)

end Executor

end AnswerCache
