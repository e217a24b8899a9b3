import AnswerCache.Proofs.Execution.Alike
import AnswerCache.Proofs.Policy.Memory
import AnswerCache.Proofs.Query.Identity
import AnswerCache.Proofs.Replay.Steps
import AnswerCache.Proofs.Replay.Transparency
import AnswerCache.Proofs.Store.Undated

/-!
The contexts of its queries play no part in a replay. Two replays of scenarios that differ in
contexts only are followed side by side: their registries stay equal and their stores stay equal up
to the times of their entries, which do not count when entries have no time to live.
-/

namespace AnswerCache

open Canonicalizer (standard)

inductive SameOutcome {ε α β : Type} (R : α → β → Prop) : Except ε α → Except ε β → Prop
  | error (err : ε) : SameOutcome R (.error err) (.error err)
  | ok {a : α} {b : β} (h : R a b) : SameOutcome R (.ok a) (.ok b)

lemma SameOutcome.bind {ε α β γ δ : Type} {R : α → β → Prop} {S : γ → δ → Prop}
    {x : Except ε α} {y : Except ε β} {f : α → Except ε γ} {g : β → Except ε δ}
    (h : SameOutcome R x y) (hfg : ∀ a b, R a b → SameOutcome S (f a) (g b)) :
    SameOutcome S (x >>= f) (y >>= g) := by
  cases h with
  | error err => exact .error err
  | ok h => exact hfg _ _ h

namespace ClockedMemory

structure Alike (c d : ClockedMemory) : Prop where
  lasting : c.memory.config.ttlNanos = none
  undated : c.memory.undated = d.memory.undated

namespace Alike

variable {c d : ClockedMemory}

lemma config (h : c.Alike d) : d.memory.config = c.memory.config :=
  (congrArg MemoryStore.config h.undated).symm

lemma pass (h : c.Alike d) (m n : Nat) : (c.pass m).Alike (d.pass n) :=
  ⟨h.lasting, h.undated⟩

lemma get (h : c.Alike d) (key : CacheKey) :
    (store.get c key).1 = (store.get d key).1 ∧
      (store.get c key).2.Alike (store.get d key).2 := by
  have hlasting : d.memory.config.ttlNanos = none := by rw [h.config, h.lasting]
  have hc := MemoryStore.get_undated h.lasting c.now key
  have hd := MemoryStore.get_undated hlasting d.now key
  rw [h.undated, hd] at hc
  obtain ⟨hanswer, hundated⟩ := Prod.mk.inj hc
  refine ⟨congrArg Except.ok hanswer.symm, ?_, hundated.symm⟩
  exact (congrArg StoreConfig.ttlNanos (MemoryStore.config_get _ _ _)).trans h.lasting

lemma set (h : c.Alike d) (key : CacheKey) (entry : Entry) :
    (store.set c key entry).1 = (store.set d key entry).1 ∧
      (store.set c key entry).2.Alike (store.set d key entry).2 := by
  have hc := MemoryStore.set_undated c.memory c.now key entry
  have hd := MemoryStore.set_undated d.memory d.now key entry
  rw [h.undated, hd] at hc
  obtain ⟨hanswer, hundated⟩ := Prod.mk.inj hc
  refine ⟨hanswer.symm, ?_, hundated.symm⟩
  exact (congrArg StoreConfig.ttlNanos (MemoryStore.config_set _ _ _ _)).trans h.lasting

end Alike

end ClockedMemory

namespace Query

lemma withContext_ensureId (q : Query) (fresh : String) (context : Context) :
    (q.ensureId fresh).withContext context = q.withContext context := by
  unfold ensureId
  split <;> rfl

lemma eq_withContext {q r : Query} (h : q.withContext .empty = r.withContext .empty) :
    r = q.withContext r.context :=
  (congrArg (fun p : Query => p.withContext r.context) h).symm

end Query

def Scenario.Step.withoutContext : Scenario.Step → Scenario.Step
  | .query label q => .query label (q.withContext .empty)
  | .segments events => .segments events

def Scenario.withoutContexts (s : Scenario) : Scenario :=
  { s with steps := s.steps.map Step.withoutContext }

def StepReport.observed (s : StepReport) : Nat × String × Option Provenance × String :=
  (s.step, s.label, s.provenance, s.detail)

structure ReplayReport.Observed where
  steps : List (Nat × String × Option Provenance × String)
  metrics : Metrics
  hitRate : Binary64
  backendCalls : Nat

def ReplayReport.observed (r : ReplayReport) : Observed :=
  ⟨r.steps.map StepReport.observed, r.metrics, r.hitRate, r.backendCalls⟩

namespace Replay

structure Alike (r t : Replay) : Prop where
  registry : r.registry = t.registry
  state : r.state.Alike ClockedMemory.Alike t.state

lemma Alike.pass {r t : Replay} (h : r.Alike t) (m n : Nat) : (r.pass m).Alike (t.pass n) :=
  ⟨h.registry, ⟨h.state.policy.store.pass m n, h.state.policy.metrics⟩, h.state.backendCalls⟩

lemma respects_alike (config : CacheConfig) :
    (policy config).store.Respects ClockedMemory.Alike := by
  rw [policy, ClockedMemory.within_eq]
  exact ⟨fun h => h.get, fun h => h.set⟩

lemma indistinct (config : CacheConfig) (registry : Registry) (volatileFrom : Option Instant)
    {q r : Query} (h : q.withContext .empty = r.withContext .empty) :
    (executor config).Indistinct registry.signatureFor (registry.backend volatileFrom) q r := by
  rw [Query.eq_withContext h]
  exact ⟨rfl, (Canonicalizer.keyOf_withContext q r.context).symm, rfl, rfl⟩

lemma responseDetail_congr {x y : Response} (h : x.answer = y.answer) :
    responseDetail x = responseDetail y := by
  obtain ⟨hanswer, -⟩ := Prod.mk.inj h
  obtain ⟨-, hmissing, hvolatile⟩ := BackendAnswer.mk.inj hanswer
  rw [responseDetail, responseDetail, hmissing, hvolatile]

section Steps

variable {config : CacheConfig} {volatileFrom : Option Instant} {r t : Replay}

lemma queryStep_alike (hrt : r.Alike t) (number elapsed delay : Nat) (label : Option String)
    {p q : Query} (hpq : p.withContext .empty = q.withContext .empty) :
    SameOutcome (fun a b => a.1.observed = b.1.observed ∧ a.2.Alike b.2)
      (queryStep config volatileFrom r number elapsed label p)
      (queryStep config volatileFrom t number delay label q) := by
  have h := indistinct config t.registry volatileFrom hpq
  rw [queryStep_eq, queryStep_eq, hrt.registry]
  rcases Executor.execute_alike rfl (respects_alike config) hrt.state h h.signature with
    ⟨err, _, _, hr, ht⟩ | ⟨x, y, s, s', hr, ht, hanswer, hflushed⟩
  · rw [hr, ht]
    exact .error _
  · rw [hr, ht]
    have hprovenance : x.response.provenance = y.response.provenance := congrArg Prod.snd hanswer
    refine .ok ⟨?_, rfl, hflushed⟩
    simp only [StepReport.observed, hprovenance, responseDetail_congr hanswer]

lemma step_alike (hrt : r.Alike t) (around elsewhere : Surroundings) (number : Nat)
    {a b : Scenario.Step} (hab : a.withoutContext = b.withoutContext) :
    SameOutcome (fun a b => a.1.observed = b.1.observed ∧ a.2.Alike b.2)
      (step config volatileFrom around r number a)
      (step config volatileFrom elsewhere t number b) := by
  cases a with
  | query label p =>
    cases b with
    | query label' q =>
      obtain ⟨rfl, hpq⟩ := Scenario.Step.query.inj hab
      refine queryStep_alike (hrt.pass _ _) number _ _ label ?_
      rwa [Query.withContext_ensureId, Query.withContext_ensureId]
    | segments events => contradiction
  | segments events =>
    cases b with
    | query label q => contradiction
    | segments events' =>
      obtain rfl := Scenario.Step.segments.inj hab
      refine .ok ⟨?_, ?_, hrt.state⟩
      · simp only [applyStep, StepReport.observed, hrt.registry]
      · simp only [applyStep, hrt.registry]

variable (config volatileFrom) in
lemma runFrom_alike (hrt : r.Alike t) (around elsewhere : Surroundings) (number : Nat)
    {steps steps' : List Scenario.Step}
    (h : steps.map Scenario.Step.withoutContext = steps'.map Scenario.Step.withoutContext) :
    SameOutcome
      (fun a b => a.1.map StepReport.observed = b.1.map StepReport.observed ∧ a.2.Alike b.2)
      (runFrom config volatileFrom around r number steps)
      (runFrom config volatileFrom elsewhere t number steps') := by
  induction steps generalizing r t number steps' with
  | nil =>
    obtain rfl := List.map_eq_nil_iff.mp h.symm
    exact .ok ⟨rfl, hrt⟩
  | cons first rest ih =>
    cases steps' with
    | nil => contradiction
    | cons first' rest' =>
      obtain ⟨hfirst, hrest⟩ := List.cons.inj h
      refine (step_alike hrt around elsewhere number hfirst).bind ?_
      rintro ⟨report, after⟩ ⟨report', after'⟩ ⟨hreport, hafter⟩
      refine (ih hafter (number + 1) hrest).bind ?_
      rintro ⟨reports, last⟩ ⟨reports', last'⟩ ⟨hreports, hlast⟩
      exact .ok ⟨congrArg₂ List.cons hreport hreports, hlast⟩

end Steps

end Replay

namespace Scenario

/-- Where entries have no time to live, scenarios that differ only in the contexts of their queries
fail at one step with one error, or give reports that differ at most in how long steps took. -/
theorem replay_ignores_contexts (config : CacheConfig) (hlasting : config.store.ttlMs = none)
    {s t : Scenario} (h : s.withoutContexts = t.withoutContexts) (around elsewhere : Surroundings) :
    (s.replay config around).map ReplayReport.observed =
      (t.replay config elsewhere).map ReplayReport.observed := by
  obtain ⟨hsegments, hvolatile, hsteps⟩ := Scenario.mk.inj h
  have hstart : (Replay.start config s).Alike (Replay.start config t) := by
    have hundated : config.store.ttlNanos = none := congrArg (Option.map _) hlasting
    refine ⟨?_, ⟨⟨hundated, rfl⟩, rfl⟩, rfl⟩
    exact congrArg Registry.empty.applyAll hsegments
  have hrun := Replay.runFrom_alike config t.volatileFrom hstart around elsewhere 1 hsteps
  rw [Replay.start, Replay.start] at hrun
  rw [replay, replay, replayOn, replayOn, hvolatile]
  generalize Replay.runFrom config t.volatileFrom around _ 1 s.steps = result at hrun
  generalize Replay.runFrom config t.volatileFrom elsewhere _ 1 t.steps = result' at hrun
  cases hrun with
  | error err => rfl
  | @ok a b hab =>
    obtain ⟨hreports, hlast⟩ := hab
    have hmetrics := hlast.state.policy.metrics
    have hcalls := hlast.state.backendCalls
    refine congrArg Except.ok ?_
    simp only [ReplayReport.observed, ReplayReport.hitRate, hreports, hmetrics, hcalls]

def askedTwice (first second : Context) : Scenario where
  segments := [.loaded (.ofFirstSecond "v1")]
  volatileFrom := none
  steps := [.query none (Query.overFirstSecond.withContext first),
    .query none (Query.overFirstSecond.withContext second)]

def nestedContext : Context :=
  Dictionary.empty.insert "useCache" (.array [.object [("context", .bool false)]])

-- an id that is not a text counts as none
def numberedContext : Context :=
  Dictionary.empty.insert Query.idKey (.number (.whole 7))

theorem askedTwice_ignores_contexts : ∃ report,
    ((askedTwice .empty .empty).replay {} .still).map ReplayReport.observed = .ok report ∧
    ((askedTwice nestedContext numberedContext).replay {} .still).map ReplayReport.observed =
      .ok report ∧ report.metrics.hits = 1 := by
  have hhits : ((askedTwice .empty .empty).replay {} .still).map (fun r => r.metrics.hits) =
      .ok 1 := by
    decide +kernel
  have hsame := replay_ignores_contexts {} rfl (s := askedTwice .empty .empty)
    (t := askedTwice nestedContext numberedContext) rfl .still .still
  cases hreport : (askedTwice .empty .empty).replay {} .still with
  | error error =>
    rw [hreport] at hhits
    contradiction
  | ok report =>
    rw [hreport] at hhits hsame
    exact ⟨report.observed, rfl, hsame.symm, Except.ok.inj hhits⟩

end Scenario

end AnswerCache
