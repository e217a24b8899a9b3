import AnswerCache.Proofs.Execution.Executor
import AnswerCache.Proofs.Policy.History

namespace AnswerCache

namespace ExecutorState

variable {σ : Type}

def recording (s : ExecutorState σ) : ExecutorState (σ × List SetCall) :=
  ⟨Policy.PolicyState.recording s.policy, s.backendCalls⟩

def unrecorded (s : ExecutorState (σ × List SetCall)) : ExecutorState σ :=
  ⟨Policy.PolicyState.unrecorded s.policy, s.backendCalls⟩

end ExecutorState

namespace Executor

variable {σ : Type}

inductive Call
  | execute (q : Query)
  | executeUncached (q : Query)

structure Turn where
  call : Call
  backend : Backend
  current : SignatureService
  later : SignatureService

structure Event where
  turn : Turn
  answer : Except QueryError Response
  sets : List SetCall

def flush (e : Executor σ) (service : SignatureService) (s : ExecutorState σ) :
    Option PendingWrite → ExecutorState σ
  | some w => e.settle service s w
  | none => s

def run (e : Executor σ) (s : ExecutorState σ) (t : Turn) :
    Except QueryError Response × ExecutorState σ :=
  match t.call with
  | .execute q =>
    match e.execute t.current t.backend s q with
    | (.ok x, s) => (.ok x.response, e.flush t.later s x.write)
    | (.error err, s) => (.error err, s)
  | .executeUncached q => executeUncached t.backend s q

def recorded (e : Executor σ) : Executor (σ × List SetCall) :=
  ⟨e.policy.recorded, e.stages⟩

def watch (e : Executor σ) (s : ExecutorState σ) (t : Turn) : Event × ExecutorState σ :=
  let (answer, s) := e.recorded.run s.recording t
  (⟨t, answer, s.policy.store.2⟩, s.unrecorded)

def history (e : Executor σ) (s : ExecutorState σ) : List Turn → List Event
  | [] => []
  | t :: rest => (e.watch s t).1 :: e.history (e.watch s t).2 rest

section Recording

variable (e : Executor σ) (service : SignatureService) (b : Backend)

lemma unrecorded_execute (t : ExecutorState (σ × List SetCall)) (q : Query) :
    ((e.recorded.execute service b t q).1, (e.recorded.execute service b t q).2.unrecorded) =
      e.execute service b t.unrecorded q := by
  have hpolicy : e.recorded.policy = e.policy.recorded := rfl
  have hstate : t.unrecorded.policy = Policy.PolicyState.unrecorded t.policy := rfl
  have hlookup := Policy.unrecorded_lookup e.policy service t.policy q
  simp only [execute, hpolicy, hstate, ← hlookup]
  cases q.validate with
  | error error => rfl
  | ok _ =>
    cases (e.policy.recorded.lookup service t.policy q).1.value with
    | some payload => rfl
    | none =>
      simp only [ask]
      cases b.answer q <;> rfl

lemma unrecorded_flush (t : ExecutorState (σ × List SetCall)) (write : Option PendingWrite) :
    (e.recorded.flush service t write).unrecorded = e.flush service t.unrecorded write := by
  cases write with
  | none => rfl
  | some w =>
    obtain ⟨q, payload, v, ticket⟩ := w
    cases ticket with
    | none =>
      have h := Policy.unrecorded_write e.policy service t.policy payload q v
      exact congrArg (fun r => ExecutorState.mk r.2 t.backendCalls) h
    | some ticket =>
      have h := Policy.unrecorded_writeWithTicket e.policy service t.policy ticket payload q v
      exact congrArg (fun r => ExecutorState.mk r.2 t.backendCalls) h

lemma unrecorded_executeUncached (t : ExecutorState (σ × List SetCall)) (q : Query) :
    ((executeUncached b t q).1, (executeUncached b t q).2.unrecorded) =
      executeUncached b t.unrecorded q := by
  simp only [executeUncached, ask]
  cases q.validate with
  | error error => rfl
  | ok _ => cases b.answer q <;> rfl

theorem watch_eq_run (s : ExecutorState σ) (t : Turn) :
    ((e.watch s t).1.answer, (e.watch s t).2) = e.run s t := by
  obtain ⟨call, b, current, later⟩ := t
  cases call with
  | executeUncached q => exact unrecorded_executeUncached b s.recording q
  | execute q =>
    have hexecute := unrecorded_execute e current b s.recording q
    simp only [watch, run]
    rcases hx : e.recorded.execute current b s.recording q with ⟨result, t⟩
    rw [hx] at hexecute
    have hplain : e.execute current b s q = (result, t.unrecorded) := hexecute.symm
    rw [hplain]
    cases result with
    | error error => rfl
    | ok x => exact congrArg (Prod.mk _) (unrecorded_flush e later t x.write)

lemma forall_history {P : Event → Prop} (hstep : ∀ s t, P (e.watch s t).1) (s : ExecutorState σ)
    (turns : List Turn) : ∀ event ∈ e.history s turns, P event := by
  induction turns generalizing s with
  | nil => exact fun event hmem => absurd hmem List.not_mem_nil
  | cons first rest ih => exact List.forall_mem_cons.mpr ⟨hstep s first, ih (e.watch s first).2⟩

lemma map_turn_history (s : ExecutorState σ) (turns : List Turn) :
    (e.history s turns).map Event.turn = turns := by
  induction turns generalizing s with
  | nil => rfl
  | cons first rest ih => exact congrArg (first :: ·) (ih (e.watch s first).2)

end Recording

section Watched

variable {e : Executor σ} {s : ExecutorState σ} {q : Query} {b : Backend}
  {current later : SignatureService} {t : ExecutorState (σ × List SetCall)}

lemma watch_of_ok {x : Execution}
    (h : e.recorded.execute current b s.recording q = (.ok x, t)) :
    (e.watch s ⟨.execute q, b, current, later⟩).1 = ⟨⟨.execute q, b, current, later⟩,
      .ok x.response, (e.recorded.flush later t x.write).policy.store.2⟩ := by
  simp only [watch, run, h]

lemma watch_of_error {err : QueryError}
    (h : e.recorded.execute current b s.recording q = (.error err, t)) :
    (e.watch s ⟨.execute q, b, current, later⟩).1 =
      ⟨⟨.execute q, b, current, later⟩, .error err, t.policy.store.2⟩ := by
  simp only [watch, run, h]

end Watched

end Executor

end AnswerCache
