import AnswerCache.Proofs.Execution.Counts
import AnswerCache.Proofs.Replay.Steps
import AnswerCache.Proofs.Replay.Transparency

namespace AnswerCache

open Replay

def Scenario.Step.isQuery : Scenario.Step → Bool
  | .query _ _ => true
  | .segments _ => false

def Scenario.queryCount (s : Scenario) : Nat :=
  s.steps.countP Step.isQuery

def StepReport.isFrom (p : Provenance) (s : StepReport) : Bool :=
  s.provenance == some p

def ReplayReport.answersFrom (r : ReplayReport) (p : Provenance) : Nat :=
  r.steps.countP (StepReport.isFrom p)

lemma countP_isSome (reports : List StepReport) :
    reports.countP (fun s => s.provenance.isSome) =
      reports.countP (StepReport.isFrom .cache) + reports.countP (StepReport.isFrom .backend) := by
  induction reports with
  | nil => rfl
  | cons first rest ih =>
    simp only [List.countP_cons, ih]
    rcases h : first.provenance with _ | (_ | _) <;> simp [StepReport.isFrom, h] <;> omega

namespace Replay

section Run

variable {config : CacheConfig} {volatileFrom : Option Instant} {around : Surroundings}
  {r last : Replay} {number : Nat} {steps : List Scenario.Step} {reports : List StepReport}

lemma headings_runFrom
    (h : runFrom config volatileFrom around r number steps = .ok (reports, last)) :
    reports.map StepReport.heading = (steps.zipIdx number).map fun s => s.1.heading s.2 := by
  induction steps generalizing r number reports with
  | nil =>
    obtain ⟨rfl, -⟩ := Prod.mk.inj (Except.ok.inj h)
    rfl
  | cons first rest ih =>
    obtain ⟨report, after, more, hstep, hmore, rfl⟩ := runFrom_cons_ok h
    rw [List.map_cons, List.zipIdx_cons, List.map_cons, (step_ok hstep).1, ih hmore]

lemma countP_isQuery (h : reports.map StepReport.heading =
    (steps.zipIdx number).map fun s => s.1.heading s.2) :
    steps.countP Scenario.Step.isQuery = reports.countP fun s => s.provenance.isSome := by
  have hquery : ∀ s : Scenario.Step × Nat, (s.1.heading s.2).2.2 = s.1.isQuery := by
    rintro ⟨_ | _, _⟩ <;> rfl
  have hcount := congrArg (List.countP fun heading => heading.2.2) h
  simp only [List.countP_map, Function.comp_def, hquery] at hcount
  have hsteps : steps.countP Scenario.Step.isQuery =
      (steps.zipIdx number).countP fun s => s.1.isQuery := by
    rw [← List.zipIdx_map_fst number steps, List.countP_map, List.zipIdx_map_fst]
    rfl
  exact hsteps.trans hcount.symm

lemma answered_step (henabled : config.enabled = true) {first : Scenario.Step}
    {report : StepReport}
    (h : step config volatileFrom around r number first = .ok (report, last)) :
    Executor.Answered r.state last.state ([report].countP (StepReport.isFrom .cache))
      ([report].countP (StepReport.isFrom .backend)) := by
  rcases (step_ok h).2 with ⟨hnone, hsame⟩ | ⟨q, x, s, hx, hprovenance, hafter⟩
  · simp only [List.countP_cons, StepReport.isFrom, hnone, hsame]
    exact .refl _
  · obtain ⟨hmetrics, hcalls⟩ := Executor.answered_execute r.registry.signatureFor rfl henabled hx
    rw [← hafter] at hmetrics hcalls
    simp only [List.countP_cons, StepReport.isFrom, hprovenance]
    cases hp : x.response.provenance <;> rw [hp] at hmetrics hcalls <;> exact ⟨hmetrics, hcalls⟩

lemma bypassed_step (hdisabled : config.enabled = false) {first : Scenario.Step}
    {report : StepReport}
    (h : step config volatileFrom around r number first = .ok (report, last)) :
    Executor.Bypassed r.state last.state ([report].countP fun s => s.provenance.isSome) := by
  rcases (step_ok h).2 with ⟨hnone, hsame⟩ | ⟨q, x, s, hx, hprovenance, hafter⟩
  · simp only [List.countP_cons, hnone, hsame]
    exact .refl _
  · obtain ⟨hmetrics, hcalls⟩ :=
      Executor.bypassed_execute r.registry.signatureFor rfl hdisabled hx
    rw [← hafter] at hmetrics hcalls
    simp only [List.countP_cons, hprovenance]
    exact ⟨hmetrics, hcalls⟩

lemma answered_runFrom (henabled : config.enabled = true)
    (h : runFrom config volatileFrom around r number steps = .ok (reports, last)) :
    Executor.Answered r.state last.state (reports.countP (StepReport.isFrom .cache))
      (reports.countP (StepReport.isFrom .backend)) := by
  induction steps generalizing r number reports with
  | nil =>
    obtain ⟨rfl, rfl⟩ := Prod.mk.inj (Except.ok.inj h)
    exact .refl _
  | cons first rest ih =>
    obtain ⟨report, after, more, hstep, hmore, rfl⟩ := runFrom_cons_ok h
    have hfirst := (answered_step henabled hstep).trans (ih hmore)
    rwa [← List.countP_append, ← List.countP_append] at hfirst

lemma bypassed_runFrom (hdisabled : config.enabled = false)
    (h : runFrom config volatileFrom around r number steps = .ok (reports, last)) :
    Executor.Bypassed r.state last.state (reports.countP fun s => s.provenance.isSome) := by
  induction steps generalizing r number reports with
  | nil =>
    obtain ⟨rfl, rfl⟩ := Prod.mk.inj (Except.ok.inj h)
    exact .refl _
  | cons first rest ih =>
    obtain ⟨report, after, more, hstep, hmore, rfl⟩ := runFrom_cons_ok h
    have hfirst := (bypassed_step hdisabled hstep).trans (ih hmore)
    rwa [← List.countP_append] at hfirst

end Run

end Replay

lemma Scenario.runFrom_of_replay {scenario : Scenario} {config : CacheConfig}
    {around : Surroundings} {report : ReplayReport}
    (h : scenario.replay config around = .ok report) :
    ∃ last, runFrom config scenario.volatileFrom around (.start config scenario) 1
        scenario.steps = .ok (report.steps, last) ∧
      report.metrics = last.state.policy.metrics ∧
      report.backendCalls = last.state.backendCalls := by
  obtain ⟨⟨steps, last⟩, hrun, h⟩ := bind_eq_ok.mp h
  obtain rfl := Except.ok.inj h
  exact ⟨last, hrun, rfl, rfl⟩

/-- A report has an entry for every step, in order. With a cache its counters add up: requests are
hits and misses, which are the queries that the cache and the backend answered, and every answer of
the backend was called for and offered once. Without one nothing is counted but the calls. -/
theorem Scenario.replay_accounts (scenario : Scenario) (config : CacheConfig)
    (around : Surroundings) {report : ReplayReport}
    (h : scenario.replay config around = .ok report) :
    report.steps.map StepReport.heading =
        (scenario.steps.zipIdx 1).map (fun s => s.1.heading s.2) ∧
      (config.enabled = true →
        report.metrics.requests = scenario.queryCount ∧
        report.metrics.requests = report.metrics.hits + report.metrics.misses ∧
        report.metrics.hits = report.answersFrom .cache ∧
        report.metrics.misses = report.answersFrom .backend ∧
        report.metrics.misses = report.backendCalls ∧
        report.metrics.misses = report.metrics.writes + report.metrics.skippedUncacheable +
          report.metrics.skippedOversized + report.metrics.setFailures ∧
        report.metrics.potentialHits ≤ report.metrics.misses) ∧
      (config.enabled = false →
        (∀ c, report.metrics.get c = 0) ∧ report.backendCalls = scenario.queryCount) := by
  obtain ⟨last, hrun, hmetrics, hcalls⟩ := Scenario.runFrom_of_replay h
  have hheadings := headings_runFrom hrun
  have hqueries := countP_isQuery hheadings
  refine ⟨hheadings, fun henabled => ?enabled, fun hdisabled => ?disabled⟩
  case enabled =>
    obtain ⟨⟨hrequests, hhits, hmisses, hnearly, hoffered⟩, hasked⟩ :=
      answered_runFrom henabled hrun
    rw [countP_isSome] at hqueries
    have hstart : (start config scenario).state.policy.metrics = {} := rfl
    have hzero : (start config scenario).state.backendCalls = 0 := rfl
    rw [hstart] at hrequests hhits hmisses hnearly hoffered
    rw [hzero] at hasked
    simp only [Metrics.offered, Nat.zero_add] at hrequests hhits hmisses hnearly hoffered hasked
    rw [hmetrics, hcalls]
    unfold Scenario.queryCount ReplayReport.answersFrom
    omega
  case disabled =>
    obtain ⟨hsame, hasked⟩ := bypassed_runFrom hdisabled hrun
    refine ⟨fun c => ?_, ?_⟩
    · rw [hmetrics, hsame]
      cases c <;> rfl
    · rw [hcalls, hasked, Scenario.queryCount, hqueries]
      exact Nat.zero_add _

def Scenario.replaced : Scenario where
  segments := [.loaded (.ofFirstSecond "v1")]
  volatileFrom := none
  steps := [.query none .overFirstSecond, .query none .overFirstSecond,
    .segments [.dropped (.ofFirstSecond "v1"), .loaded (.ofFirstSecond "v2")],
    .query none .overFirstSecond]

theorem Scenario.replaced_accounts : ∃ report, Scenario.replaced.replay {} .still = .ok report ∧
    report.metrics.requests = 3 ∧ report.metrics.hits = 1 ∧ report.metrics.misses = 2 ∧
    report.backendCalls = 2 := by
  have hanswers : (Scenario.replaced.replay {} .still).map
      (fun r => (r.answersFrom .cache, r.answersFrom .backend)) = .ok (1, 2) := by
    decide +kernel
  cases hreport : Scenario.replaced.replay {} .still with
  | error error =>
    rw [hreport] at hanswers
    contradiction
  | ok report =>
    rw [hreport] at hanswers
    obtain ⟨hcached, hasked⟩ := Prod.mk.inj (Except.ok.inj hanswers)
    obtain ⟨-, hcounted, -⟩ := Scenario.replay_accounts _ _ _ hreport
    obtain ⟨hrequests, hsum, hhits, hmisses, hcalls, -⟩ := hcounted rfl
    refine ⟨report, rfl, ?_, hhits.trans hcached, hmisses.trans hasked, ?_⟩
    · rw [hsum, hhits, hmisses, hcached, hasked]
    · rw [← hcalls, hmisses, hasked]

end AnswerCache
