import AnswerCache.Proofs.Execution.Runs
import AnswerCache.Proofs.Policy.Alike

namespace AnswerCache

structure ExecutorState.Alike {σ : Type} (R : σ → σ → Prop) (s t : ExecutorState σ) : Prop where
  policy : s.policy.Alike R t.policy
  backendCalls : s.backendCalls = t.backendCalls

def Response.answer (r : Response) : BackendAnswer × Provenance :=
  (⟨r.payload, r.missing, r.volatile⟩, r.provenance)

namespace Executor

variable {σ : Type} {e : Executor σ} {R : σ → σ → Prop} {service later : SignatureService}
  {b : Backend} {s t : ExecutorState σ} {q r : Query}

structure Indistinct (e : Executor σ) (service : SignatureService) (b : Backend) (q r : Query) :
    Prop where
  valid : q.validate = r.validate
  key : e.policy.keyOf q = e.policy.keyOf r
  signature : service q = service r
  answer : b.answer q = b.answer r

lemma flush_alike (hp : e.policy.store.Respects R) (hst : s.Alike R t)
    (hkey : e.policy.keyOf q = e.policy.keyOf r) (hlater : later q = later r)
    (a : BackendAnswer) (ticket : Option Ticket) :
    (e.flush later s (e.policy.offer? (.ofBackend q a ticket))).Alike R
      (e.flush later t (e.policy.offer? (.ofBackend r a ticket))) := by
  by_cases henabled : e.policy.config.enabled = true
  · rw [Policy.offer?_ofBackend henabled, Policy.offer?_ofBackend henabled]
    have hrun := Policy.run_alike hp hst.policy hkey hlater a.payload
      (.ofIntervals a.missing a.volatile) ticket
    exact ⟨hrun.2, hst.backendCalls⟩
  · rw [Bool.not_eq_true] at henabled
    rw [Policy.offer?_disabled henabled, Policy.offer?_disabled henabled]
    exact hst

theorem execute_alike (hstages : e.stages = []) (hp : e.policy.store.Respects R)
    (hst : s.Alike R t) (h : e.Indistinct service b q r) (hlater : later q = later r) :
    (∃ err s' t', e.execute service b s q = (.error err, s') ∧
        e.execute service b t r = (.error err, t')) ∨
      ∃ x y s' t', e.execute service b s q = (.ok x, s') ∧ e.execute service b t r = (.ok y, t') ∧
        x.response.answer = y.response.answer ∧
        (e.flush later s' x.write).Alike R (e.flush later t' y.write) := by
  obtain ⟨hlookup, hafter⟩ := Policy.lookup_alike hp hst.policy h.key h.signature
  cases hr : r.validate with
  | error err =>
    left
    exact ⟨err, _, _, execute_invalid e service b s q (h.valid.trans hr),
      execute_invalid e service b t r hr⟩
  | ok _ =>
    have hq := h.valid.trans hr
    cases hvalue : (e.policy.lookup service t.policy r).1.value with
    | some payload =>
      right
      have hvalue' := (congrArg Lookup.value hlookup).trans hvalue
      obtain ⟨ms, hx⟩ := execute_hit e service b s q hstages hq hvalue'
      obtain ⟨ns, hy⟩ := execute_hit e service b t r hstages hr hvalue
      exact ⟨_, _, _, _, hx, hy, rfl, hafter.giveAll ms ns, hst.backendCalls⟩
    | none =>
      have hvalue' := (congrArg Lookup.value hlookup).trans hvalue
      cases hb : b.answer r with
      | error err =>
        left
        obtain ⟨ms, hx⟩ := execute_failed e service b s q hq hvalue' (h.answer.trans hb)
        obtain ⟨ns, hy⟩ := execute_failed e service b t r hr hvalue hb
        exact ⟨err, _, _, hx, hy⟩
      | ok answer =>
        right
        obtain ⟨ms, hx⟩ := execute_miss e service b s q hstages hq hvalue' (h.answer.trans hb)
        obtain ⟨ns, hy⟩ := execute_miss e service b t r hstages hr hvalue hb
        refine ⟨_, _, _, _, hx, hy, rfl, ?_⟩
        rw [hlookup]
        refine flush_alike hp ⟨hafter.giveAll ms ns, ?_⟩ h.key hlater answer _
        exact congrArg (· + 1) hst.backendCalls

end Executor

end AnswerCache
