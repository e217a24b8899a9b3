import AnswerCache.Execution.Executor
import AnswerCache.Proofs.Policy.Calls

namespace AnswerCache

lemma Policy.offer?_ofBackend {σ : Type} {p : Policy σ} (hp : p.config.enabled = true) (q : Query)
    (a : BackendAnswer) (ticket : Option Ticket) :
    p.offer? (.ofBackend q a ticket) =
      some ⟨q, a.payload, .ofIntervals a.missing a.volatile, ticket⟩ := by
  simp [offer?, Response.isFromCache, Response.ofBackend, Response.verdict, hp]

lemma Policy.offer?_disabled {σ : Type} {p : Policy σ} (hp : p.config.enabled = false)
    (r : Response) : p.offer? r = none := by
  simp [offer?, hp]

namespace Executor

lemma ok_of_toOption {ε α : Type} {r : Except ε α} {a : α} (h : r.toOption = some a) :
    r = .ok a := by
  cases r with
  | error err => contradiction
  | ok b => rw [Option.some.inj h]

variable {σ : Type} (e : Executor σ) (service : SignatureService) (b : Backend)
  (s : ExecutorState σ) (q : Query)

lemma respond_default (he : e.stages = []) (r : Response) :
    e.respond s r = (⟨r, e.policy.offer? r⟩, s.giveAll (Stage.reporting.notices r)) := by
  simp only [respond, stagesBeforeCache, he, Stage.runAll, List.append_nil]
  rfl

lemma execute_invalid {error : QueryError} (hq : q.validate = .error error) :
    e.execute service b s q = (.error error, s) := by
  simp only [execute, hq]

lemma execute_hit (he : e.stages = []) (hq : q.validate = .ok ()) {payload : Json}
    (hvalue : (e.policy.lookup service s.policy q).1.value = some payload) :
    ∃ notices, e.execute service b s q = (.ok ⟨.ofCache q payload, none⟩,
      ({ s with policy := (e.policy.lookup service s.policy q).2 } : ExecutorState σ).giveAll
        notices) := by
  simp only [execute, hq, hvalue, respond_default e _ he]
  exact ⟨_, rfl⟩

lemma execute_failed (hq : q.validate = .ok ())
    (hvalue : (e.policy.lookup service s.policy q).1.value = none) {error : QueryError}
    (hb : b.answer q = .error error) :
    ∃ notices, e.execute service b s q = (.error error,
      ({ s with policy := (e.policy.lookup service s.policy q).2 } : ExecutorState σ).giveAll
        notices) := by
  simp only [execute, hq, hvalue, ask, hb]
  exact ⟨_, rfl⟩

lemma execute_miss (he : e.stages = []) (hq : q.validate = .ok ())
    (hvalue : (e.policy.lookup service s.policy q).1.value = none) {answer : BackendAnswer}
    (hb : b.answer q = .ok answer) :
    ∃ notices, e.execute service b s q =
      (.ok ⟨.ofBackend q answer (e.policy.lookup service s.policy q).1.ticket,
        e.policy.offer? (.ofBackend q answer (e.policy.lookup service s.policy q).1.ticket)⟩,
      ({ s with policy := (e.policy.lookup service s.policy q).2,
                backendCalls := s.backendCalls + 1 } : ExecutorState σ).giveAll notices) := by
  simp only [execute, hq, hvalue, ask, hb, respond_default e _ he]
  refine ⟨[.backendAsked b.name q.queryId] ++ Stage.reporting.notices
    (.ofBackend q answer (e.policy.lookup service s.policy q).1.ticket), ?_⟩
  simp only [ExecutorState.giveAll, PolicyState.giveAll, List.append_assoc]

/-- What an execution can come to, and the state that it leaves. -/
inductive Outcome : Except QueryError Execution → ExecutorState σ → Prop
  | invalid {error : QueryError} (hq : q.validate = .error error) : Outcome (.error error) s
  | hit {payload : Json} {notices : List Notice} (hq : q.validate = .ok ())
      (hvalue : (e.policy.lookup service s.policy q).1.value = some payload) :
      Outcome (.ok ⟨.ofCache q payload, none⟩)
        (({ s with policy := (e.policy.lookup service s.policy q).2 } :
          ExecutorState σ).giveAll notices)
  | failed {error : QueryError} {notices : List Notice} (hq : q.validate = .ok ())
      (hvalue : (e.policy.lookup service s.policy q).1.value = none)
      (hb : b.answer q = .error error) :
      Outcome (.error error) (({ s with policy := (e.policy.lookup service s.policy q).2 } :
        ExecutorState σ).giveAll notices)
  | miss {answer : BackendAnswer} {notices : List Notice} (hq : q.validate = .ok ())
      (hvalue : (e.policy.lookup service s.policy q).1.value = none)
      (hb : b.answer q = .ok answer) :
      Outcome (.ok ⟨.ofBackend q answer (e.policy.lookup service s.policy q).1.ticket,
          e.policy.offer? (.ofBackend q answer (e.policy.lookup service s.policy q).1.ticket)⟩)
        (({ s with policy := (e.policy.lookup service s.policy q).2,
                   backendCalls := s.backendCalls + 1 } : ExecutorState σ).giveAll notices)

variable {e service b s q}

lemma execute_outcome (he : e.stages = []) {result : Except QueryError Execution}
    {t : ExecutorState σ} (h : e.execute service b s q = (result, t)) :
    Outcome e service b s q result t := by
  cases hq : q.validate with
  | error error =>
    rw [execute_invalid e service b s q hq] at h
    obtain ⟨rfl, rfl⟩ := Prod.mk.inj h
    exact .invalid hq
  | ok _ =>
    cases hvalue : (e.policy.lookup service s.policy q).1.value with
    | some payload =>
      obtain ⟨notices, hx⟩ := execute_hit e service b s q he hq hvalue
      obtain ⟨rfl, rfl⟩ := Prod.mk.inj (hx.symm.trans h)
      exact .hit hq hvalue
    | none =>
      cases hb : b.answer q with
      | error error =>
        obtain ⟨notices, hx⟩ := execute_failed e service b s q hq hvalue hb
        obtain ⟨rfl, rfl⟩ := Prod.mk.inj (hx.symm.trans h)
        exact .failed hq hvalue hb
      | ok answer =>
        obtain ⟨notices, hx⟩ := execute_miss e service b s q he hq hvalue hb
        obtain ⟨rfl, rfl⟩ := Prod.mk.inj (hx.symm.trans h)
        exact .miss hq hvalue hb

end Executor

end AnswerCache
