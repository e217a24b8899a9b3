import AnswerCache.Proofs.Execution.Runs
import AnswerCache.Proofs.Policy.Counts

namespace AnswerCache

namespace Metrics

def offered (m : Metrics) : Nat :=
  m.writes + m.skippedUncacheable + m.skippedOversized + m.setFailures

structure Moved (m n : Metrics) (hits misses offers : Nat) : Prop where
  requests : n.requests = m.requests + (hits + misses)
  hit : n.hits = m.hits + hits
  missed : n.misses = m.misses + misses
  nearly : n.potentialHits ≤ m.potentialHits + misses
  offered : n.offered = m.offered + offers

lemma Moved.refl (m : Metrics) : Moved m m 0 0 0 :=
  ⟨rfl, rfl, rfl, Nat.le_refl _, rfl⟩

lemma Moved.trans {l m n : Metrics} {h h' k k' o o' : Nat} (first : Moved l m h k o)
    (second : Moved m n h' k' o') : Moved l n (h + h') (k + k') (o + o') := by
  have hrequests := first.requests
  have hrequests' := second.requests
  have hnearly := first.nearly
  have hnearly' := second.nearly
  refine ⟨by omega, ?_, ?_, by omega, ?_⟩
  · rw [second.hit, first.hit, Nat.add_assoc]
  · rw [second.missed, first.missed, Nat.add_assoc]
  · rw [second.offered, first.offered, Nat.add_assoc]

lemma moved_of_counter {outcome : WriteOutcome} (h : outcome.counter?.isSome = true)
    (m : Metrics) : Moved m (m.bumpAll outcome.counter?.toList) 0 0 1 := by
  have hoffered : (m.bumpAll outcome.counter?.toList).offered = m.offered + 1 := by
    cases outcome with
    | stored _ _ | notCacheable | oversized _ _ | failed _ =>
      simp only [WriteOutcome.counter?, Option.toList_some, bumpAll, List.foldl_cons,
        List.foldl_nil, bump, Metrics.offered]
      omega
    | disabled => contradiction
  cases outcome <;> exact ⟨rfl, rfl, rfl, Nat.le_refl _, hoffered⟩

end Metrics

namespace Policy

variable {σ : Type} {p : Policy σ} {service : SignatureService} {s : PolicyState σ} {q : Query}

lemma moved_of_value (henabled : p.config.enabled = true) {value : Json}
    (hvalue : (p.lookup service s q).1.value = some value) :
    Metrics.Moved s.metrics (p.lookup service s q).2.metrics 1 0 0 := by
  cases p.lookup_counted service s henabled q with
  | hit _ _ hm =>
    rw [hm]
    exact ⟨rfl, rfl, rfl, Nat.le_refl _, rfl⟩
  | nearly hnone _ _ | miss hnone _ _ => exact nomatch hvalue.symm.trans hnone

lemma moved_of_none (henabled : p.config.enabled = true)
    (hnone : (p.lookup service s q).1.value = none) :
    Metrics.Moved s.metrics (p.lookup service s q).2.metrics 0 1 0 := by
  cases p.lookup_counted service s henabled q with
  | hit hsome _ _ =>
    rw [hnone] at hsome
    contradiction
  | nearly _ _ hm =>
    rw [hm]
    exact ⟨rfl, rfl, rfl, Nat.le_refl _, rfl⟩
  | miss _ _ hm =>
    rw [hm]
    exact ⟨rfl, rfl, rfl, Nat.le_succ _, rfl⟩

end Policy

namespace Executor

variable {σ : Type}

structure Answered (s t : ExecutorState σ) (cached asked : Nat) : Prop where
  metrics : Metrics.Moved s.policy.metrics t.policy.metrics cached asked asked
  backendCalls : t.backendCalls = s.backendCalls + asked

structure Bypassed (s t : ExecutorState σ) (asked : Nat) : Prop where
  metrics : t.policy.metrics = s.policy.metrics
  backendCalls : t.backendCalls = s.backendCalls + asked

section Compose

variable {s t u : ExecutorState σ} {c c' a a' : Nat}

lemma Answered.refl (s : ExecutorState σ) : Answered s s 0 0 :=
  ⟨.refl _, rfl⟩

lemma Answered.trans (first : Answered s t c a) (second : Answered t u c' a') :
    Answered s u (c + c') (a + a') := by
  refine ⟨first.metrics.trans second.metrics, ?_⟩
  rw [second.backendCalls, first.backendCalls, Nat.add_assoc]

lemma Bypassed.refl (s : ExecutorState σ) : Bypassed s s 0 :=
  ⟨rfl, rfl⟩

lemma Bypassed.trans (first : Bypassed s t a) (second : Bypassed t u a') :
    Bypassed s u (a + a') := by
  refine ⟨second.metrics.trans first.metrics, ?_⟩
  rw [second.backendCalls, first.backendCalls, Nat.add_assoc]

end Compose

section Execution

variable {e : Executor σ} {service : SignatureService} {b : Backend} {s t : ExecutorState σ}
  {q : Query} {x : Execution} (later : SignatureService)

theorem answered_execute (hstages : e.stages = []) (henabled : e.policy.config.enabled = true)
    (h : e.execute service b s q = (.ok x, t)) :
    Answered s (e.flush later t x.write) ([x.response.provenance].count .cache)
      ([x.response.provenance].count .backend) := by
  cases execute_outcome hstages h with
  | hit hq hvalue => exact ⟨Policy.moved_of_value henabled hvalue, rfl⟩
  | miss hq hvalue hb =>
    rw [Policy.offer?_ofBackend henabled]
    have hmissed := Policy.moved_of_none henabled hvalue
    have hwritten := e.policy.run_counted later
    refine ⟨?_, rfl⟩
    dsimp only [flush, settle]
    rw [(hwritten _ _).metrics]
    exact hmissed.trans (Metrics.moved_of_counter ((hwritten _ _).once henabled) _)

theorem bypassed_execute (hstages : e.stages = []) (hdisabled : e.policy.config.enabled = false)
    (h : e.execute service b s q = (.ok x, t)) : Bypassed s (e.flush later t x.write) 1 := by
  have hlookup := e.policy.lookup_disabled service s.policy hdisabled q
  cases execute_outcome hstages h with
  | hit hq hvalue =>
    rw [hlookup] at hvalue
    contradiction
  | miss hq hvalue hb =>
    rw [Policy.offer?_disabled hdisabled, hlookup]
    exact ⟨rfl, rfl⟩

end Execution

end Executor

end AnswerCache
