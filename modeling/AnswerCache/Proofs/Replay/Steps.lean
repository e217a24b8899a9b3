import AnswerCache.Proofs.Canonical
import AnswerCache.Proofs.Execution.Runs
import AnswerCache.Replay.Run

namespace AnswerCache

def Scenario.Step.heading (number : Nat) : Scenario.Step → Nat × String × Bool
  | .query label _ => (number, label.getD ("query " ++ Replay.countText number), true)
  | .segments _ => (number, "segments", false)

def StepReport.heading (s : StepReport) : Nat × String × Bool :=
  (s.step, s.label, s.provenance.isSome)

namespace Replay

variable {config : CacheConfig} {volatileFrom : Option Instant} {around : Surroundings}

lemma queryStep_eq (r : Replay) (number elapsed : Nat) (label : Option String) (q : Query) :
    r.queryStep config volatileFrom number elapsed label q =
      match (executor config).execute r.registry.signatureFor (r.registry.backend volatileFrom)
        r.state q with
      | (.error cause, _) => .error ⟨number, cause⟩
      | (.ok x, s) => .ok (⟨number, label.getD ("query " ++ countText number),
          some x.response.provenance, responseDetail x.response, elapsed⟩,
        { r with state := (executor config).flush r.registry.signatureFor s x.write }) := by
  rw [queryStep]
  rcases (executor config).execute r.registry.signatureFor (r.registry.backend volatileFrom)
    r.state q with ⟨cause | ⟨response, write⟩, s⟩
  · rfl
  · cases write <;> rfl

lemma runFrom_cons_ok {r last : Replay} {number : Nat} {first : Scenario.Step}
    {rest : List Scenario.Step} {reports : List StepReport}
    (h : runFrom config volatileFrom around r number (first :: rest) = .ok (reports, last)) :
    ∃ report after more, step config volatileFrom around r number first = .ok (report, after) ∧
      runFrom config volatileFrom around after (number + 1) rest = .ok (more, last) ∧
      reports = report :: more := by
  obtain ⟨⟨report, after⟩, hstep, h⟩ := bind_eq_ok.mp h
  obtain ⟨⟨more, last'⟩, hmore, h⟩ := bind_eq_ok.mp h
  obtain ⟨rfl, rfl⟩ := Prod.mk.inj (Except.ok.inj h)
  exact ⟨report, after, more, hstep, hmore, rfl⟩

lemma step_ok {r after : Replay} {number : Nat} {first : Scenario.Step} {report : StepReport}
    (h : step config volatileFrom around r number first = .ok (report, after)) :
    report.heading = first.heading number ∧
      ((report.provenance = none ∧ after.state = r.state) ∨
        ∃ q x s, (executor config).execute r.registry.signatureFor
            (r.registry.backend volatileFrom) (r.pass (around.delay number)).state q = (.ok x, s) ∧
          report.provenance = some x.response.provenance ∧
          after.state = (executor config).flush r.registry.signatureFor s x.write) := by
  cases first with
  | segments events =>
    obtain ⟨rfl, rfl⟩ := Prod.mk.inj (Except.ok.inj h)
    exact ⟨rfl, Or.inl ⟨rfl, rfl⟩⟩
  | query label q =>
    rw [step, queryStep_eq] at h
    split at h
    · contradiction
    · rename_i x s hx
      obtain ⟨rfl, rfl⟩ := Prod.mk.inj (Except.ok.inj h)
      exact ⟨rfl, Or.inr ⟨_, x, s, hx, rfl, rfl⟩⟩

end Replay

end AnswerCache
