import AnswerCache.Proofs.Replay.Faithful

/-!
Replays with and without a cache tell the same story: each step is compared with a step that never
had a cache, and what is held stays faithful from one step to the next.
-/

namespace AnswerCache

def StepReport.outline (s : StepReport) : Nat × String × String :=
  (s.step, s.label, s.detail)

def ReplayReport.outline (r : ReplayReport) : List (Nat × String × String) :=
  r.steps.map StepReport.outline

namespace Replay

def asked (around : Surroundings) (number : Nat) (q : Query) : Query :=
  q.ensureId (around.freshId number)

def arrive (around : Surroundings) (number : Nat) (r : Replay) : Replay :=
  r.pass (around.delay number)

def hashedAt (config : CacheConfig) (volatileFrom : Option Instant) (around : Surroundings)
    (r : Replay) (number : Nat) : Scenario.Step → List String
  | .query _ q => (r.arrive around number).hashed config volatileFrom (asked around number q)
  | .segments _ => []

def hashedFrom (config : CacheConfig) (volatileFrom : Option Instant) (around : Surroundings)
    (r : Replay) (number : Nat) : List Scenario.Step → List String
  | [] => []
  | first :: rest =>
    r.hashedAt config volatileFrom around number first ++
      match step config volatileFrom around r number first with
      | .ok (_, r) => hashedFrom config volatileFrom around r (number + 1) rest
      | .error _ => []

def plainStep (volatileFrom : Option Instant) (registry : Registry) (number : Nat) :
    Scenario.Step → Except ReplayError ((Nat × String × String) × Registry)
  | .query label q =>
    match q.validate with
    | .error cause => .error ⟨number, cause⟩
    | .ok () =>
      .ok ((number, label.getD ("query " ++ countText number),
        responseDetail (.ofBackend q (registry.answer volatileFrom q) none)), registry)
  | .segments events =>
    .ok ((number, "segments", eventsDetail events (registry.applyAll events)),
      registry.applyAll events)

def plainFrom (volatileFrom : Option Instant) (registry : Registry) (number : Nat) :
    List Scenario.Step → Except ReplayError (List (Nat × String × String))
  | [] => .ok []
  | first :: rest => do
    let (outline, registry) ← plainStep volatileFrom registry number first
    let outlines ← plainFrom volatileFrom registry (number + 1) rest
    return outline :: outlines

section Step

variable {config : CacheConfig} {volatileFrom : Option Instant} {around : Surroundings}
  {texts : List String} {r : Replay} {q : Query} (number elapsed : Nat) (label : Option String)

lemma queryStep_of_error {error : QueryError} (hq : q.validate = .error error) :
    r.queryStep config volatileFrom number elapsed label q = .error ⟨number, error⟩ := by
  have hx := execution_of_error config volatileFrom (r := r) hq
  simp only [execution] at hx
  simp only [queryStep, hx]

lemma queryStep_of_ok (hr : Sound texts volatileFrom r) (hfree : CollisionFree texts)
    (hpartial : config.cachePartialData = false)
    (hhashed : ∀ t ∈ r.hashed config volatileFrom q, t ∈ texts) (hq : q.validate = .ok ()) :
    ∃ report s, r.queryStep config volatileFrom number elapsed label q =
        .ok (report, { r with state := s }) ∧
      report.outline = (number, label.getD ("query " ++ countText number),
        responseDetail (.ofBackend q (r.registry.answer volatileFrom q) none)) ∧
      Sound texts volatileFrom { r with state := s } := by
  cases h : (r.lookup config q).1.value with
  | some value =>
    obtain ⟨s, hx, hstore⟩ := execution_of_value config volatileFrom hq h
    have hanswer := answer_of_value hr hfree hq hhashed h
    simp only [execution] at hx
    refine ⟨_, s, by simp only [queryStep, hx]; rfl, ?_, hr.of_lookup hstore⟩
    rw [hanswer]
    rfl
  | none =>
    obtain ⟨s, hx, hstore⟩ := execution_of_none config volatileFrom hq h
    cases henabled : config.enabled with
    | true =>
      rw [Policy.offer?_ofBackend henabled] at hx
      have hsettled := sound_settle hr hpartial hhashed hx hstore rfl
      simp only [execution] at hx
      exact ⟨_, _, by simp only [queryStep, hx]; rfl, rfl, hsettled⟩
    | false =>
      rw [Policy.offer?_disabled henabled] at hx
      simp only [execution] at hx
      exact ⟨_, s, by simp only [queryStep, hx]; rfl, rfl, hr.of_lookup hstore⟩

end Step

section Run

variable {config : CacheConfig} {volatileFrom : Option Instant} {around : Surroundings}
  {texts : List String}

lemma validate_asked (number : Nat) (q : Query) :
    (asked around number q).validate = q.validate := by
  simp only [asked, Query.ensureId]
  split <;> rfl

lemma answer_asked (registry : Registry) (number : Nat) (q : Query) :
    registry.answer volatileFrom (asked around number q) = registry.answer volatileFrom q := by
  simp only [asked, Query.ensureId]
  split <;> rfl

lemma Sound.arrive {r : Replay} (hr : Sound texts volatileFrom r) (number : Nat) :
    Sound texts volatileFrom (r.arrive around number) :=
  ⟨hr.filed, hr.faithful⟩

lemma step_sound {r : Replay} (hr : Sound texts volatileFrom r) (hfree : CollisionFree texts)
    (hpartial : config.cachePartialData = false) (number : Nat) (first : Scenario.Step)
    (hhashed : ∀ t ∈ r.hashedAt config volatileFrom around number first, t ∈ texts) :
    (∃ error, step config volatileFrom around r number first = .error error ∧
        plainStep volatileFrom r.registry number first = .error error) ∨
      ∃ report after, step config volatileFrom around r number first = .ok (report, after) ∧
        plainStep volatileFrom r.registry number first = .ok (report.outline, after.registry) ∧
        Sound texts volatileFrom after := by
  cases first with
  | query label q =>
    have hsound : Sound texts volatileFrom (r.arrive around number) := hr.arrive number
    cases hq : q.validate with
    | error error =>
      refine Or.inl ⟨⟨number, error⟩, ?_, by simp only [plainStep, hq]⟩
      exact queryStep_of_error number _ label ((validate_asked number q).trans hq)
    | ok _ =>
      obtain ⟨report, s, hstep, houtline, hafter⟩ := queryStep_of_ok number
        (around.elapsed number) label hsound hfree hpartial hhashed
        ((validate_asked number q).trans hq)
      refine Or.inr ⟨report, _, hstep, ?_, hafter⟩
      rw [houtline]
      simp only [plainStep, hq, responseDetail, Response.ofBackend, answer_asked]
      rfl
  | segments events =>
    exact Or.inr ⟨_, _, rfl, rfl, hr.filed.applyAll events, hr.faithful⟩

lemma runFrom_cons (r : Replay) (number : Nat) (first : Scenario.Step)
    (rest : List Scenario.Step) {report : StepReport} {after : Replay}
    (h : step config volatileFrom around r number first = .ok (report, after)) :
    runFrom config volatileFrom around r number (first :: rest) =
      (runFrom config volatileFrom around after (number + 1) rest).map
        fun (reports, r) => (report :: reports, r) := by
  simp only [runFrom, h, bind, Except.bind, pure, Except.pure]
  cases runFrom config volatileFrom around after (number + 1) rest <;> rfl

lemma mem_hashedFrom {r : Replay} {number : Nat} {first : Scenario.Step} {t : String}
    (h : t ∈ r.hashedAt config volatileFrom around number first) (rest : List Scenario.Step) :
    t ∈ hashedFrom config volatileFrom around r number (first :: rest) := by
  rw [hashedFrom]
  exact List.mem_append_left _ h

lemma hashedFrom_cons (r : Replay) (number : Nat) (first : Scenario.Step)
    (rest : List Scenario.Step) {report : StepReport} {after : Replay}
    (h : step config volatileFrom around r number first = .ok (report, after)) :
    hashedFrom config volatileFrom around r number (first :: rest) =
      r.hashedAt config volatileFrom around number first ++
        hashedFrom config volatileFrom around after (number + 1) rest := by
  rw [hashedFrom, h]

variable (config around) in
lemma runFrom_plain (steps : List Scenario.Step) {r : Replay} (hr : Sound texts volatileFrom r)
    (hfree : CollisionFree texts) (hpartial : config.cachePartialData = false) (number : Nat)
    (hhashed : ∀ t ∈ hashedFrom config volatileFrom around r number steps, t ∈ texts) :
    (runFrom config volatileFrom around r number steps).map
        (fun result => result.1.map StepReport.outline) =
      plainFrom volatileFrom r.registry number steps := by
  induction steps generalizing r number with
  | nil => rfl
  | cons first rest ih =>
    have hfirst : ∀ t ∈ r.hashedAt config volatileFrom around number first, t ∈ texts :=
      fun t ht => hhashed t (mem_hashedFrom ht rest)
    rcases step_sound hr hfree hpartial number first hfirst with
      ⟨error, hstep, hplain⟩ | ⟨report, after, hstep, hplain, hafter⟩
    · rw [runFrom, plainFrom, hstep, hplain]
      rfl
    · rw [hashedFrom_cons r number first rest hstep] at hhashed
      have hrest := ih hafter (number + 1) fun t ht => hhashed t (List.mem_append_right _ ht)
      rw [runFrom_cons r number first rest hstep, plainFrom, hplain]
      refine Eq.trans ?_ (congrArg (Except.map (report.outline :: ·)) hrest)
      cases runFrom config volatileFrom around after (number + 1) rest <;> rfl

lemma sound_of_runFrom (before : List Scenario.Step) {r : Replay}
    (hr : Sound texts volatileFrom r) (hfree : CollisionFree texts)
    (hpartial : config.cachePartialData = false) (number : Nat) {after : List Scenario.Step}
    (hhashed : ∀ t ∈ hashedFrom config volatileFrom around r number (before ++ after), t ∈ texts)
    {reports : List StepReport} {last : Replay}
    (hrun : runFrom config volatileFrom around r number before = .ok (reports, last)) :
    Sound texts volatileFrom last ∧
      ∀ t ∈ hashedFrom config volatileFrom around last (number + before.length) after,
        t ∈ texts := by
  induction before generalizing r number reports with
  | nil =>
    obtain ⟨-, rfl⟩ := Prod.mk.inj (Except.ok.inj hrun)
    exact ⟨hr, hhashed⟩
  | cons first rest ih =>
    have hfirst : ∀ t ∈ r.hashedAt config volatileFrom around number first, t ∈ texts :=
      fun t ht => hhashed t (mem_hashedFrom ht _)
    rcases step_sound hr hfree hpartial number first hfirst with
      ⟨error, hstep, -⟩ | ⟨report, next, hstep, -, hnext⟩
    · rw [runFrom, hstep] at hrun
      contradiction
    · rw [List.cons_append, hashedFrom_cons r number first _ hstep] at hhashed
      rw [runFrom_cons r number first rest hstep] at hrun
      cases hmore : runFrom config volatileFrom around next (number + 1) rest with
      | error error =>
        rw [hmore] at hrun
        contradiction
      | ok result =>
        rw [hmore] at hrun
        obtain ⟨-, rfl⟩ := Prod.mk.inj (Except.ok.inj hrun)
        have h := ih hnext (number + 1) (fun t ht => hhashed t (List.mem_append_right _ ht)) hmore
        rwa [List.length_cons, Nat.add_comm rest.length, ← Nat.add_assoc]

end Run

lemma sound_start (config : CacheConfig) (texts : List String) (scenario : Scenario) :
    Sound texts scenario.volatileFrom (start config scenario) := by
  refine ⟨Registry.filed_empty.applyAll scenario.segments, fun k hk => ?_⟩
  simp [start, startOn, ExecutorState.new, PolicyState.new, MemoryStore.new] at hk

end Replay

open Replay

def Scenario.hashed (scenario : Scenario) (config : CacheConfig) (around : Surroundings) :
    List String :=
  hashedFrom config scenario.volatileFrom around (.start config scenario) 1 scenario.steps

lemma Scenario.replay_plain (scenario : Scenario) (config : CacheConfig) (around : Surroundings)
    (hpartial : config.cachePartialData = false)
    (hfree : CollisionFree (scenario.hashed config around)) :
    (scenario.replay config around).map ReplayReport.outline =
      plainFrom scenario.volatileFrom (Registry.empty.applyAll scenario.segments) 1
        scenario.steps := by
  have h := runFrom_plain config around scenario.steps (sound_start config _ scenario) hfree
    hpartial 1 fun _ ht => ht
  refine Eq.trans ?_ h
  simp only [Scenario.replay, Scenario.replayOn, bind, Except.bind, pure, Except.pure, start]
  cases runFrom config scenario.volatileFrom around (.startOn (.new config.store) scenario) 1
    scenario.steps <;> rfl

lemma MemoryStore.eq_new_of_make {tables : Nat → Except TableFault Unit} {config : StoreConfig}
    {memory : MemoryStore} (h : make tables config = .ok memory) : memory = new config := by
  obtain ⟨-, -, hnew⟩ := bind_eq_ok.mp h
  exact (Except.ok.inj hnew).symm

lemma Scenario.run_of_make (scenario : Scenario) {config : CacheConfig} {around : Surroundings}
    {memory : MemoryStore} (h : MemoryStore.make around.tables config.store = .ok memory) :
    scenario.run config around = .ok (scenario.replay config around) := by
  rw [MemoryStore.eq_new_of_make h] at h
  rw [run, h]
  rfl

lemma Scenario.eq_replay_of_run {scenario : Scenario} {config : CacheConfig}
    {around : Surroundings} {result : Except ReplayError ReplayReport}
    (h : scenario.run config around = .ok result) : result = scenario.replay config around := by
  obtain ⟨memory, hmade, -⟩ := bind_eq_ok.mp h
  exact Except.ok.inj (h.symm.trans (scenario.run_of_make hmade))

lemma Scenario.run_eq_error_iff (scenario : Scenario) (config : CacheConfig)
    (around : Surroundings) (fault : TableFault) :
    scenario.run config around = .error fault ↔
      MemoryStore.make around.tables config.store = .error fault := by
  cases hmade : MemoryStore.make around.tables config.store with
  | error found =>
    rw [run, hmade]
    exact ⟨fun h => congrArg _ (Except.error.inj h), fun h => congrArg _ (Except.error.inj h)⟩
  | ok memory =>
    rw [scenario.run_of_make hmade]
    exact ⟨nofun, nofun⟩

/-- As long as no partial answers are kept and no two hashed texts share a signature, every query of
a run is answered as the backend would answer it at that step. Runs of one scenario report the same,
or fail at the same step for the same reason, whatever their caches and clocks; only the table of
the store, where there is no memory for it, can keep a run from coming to that. -/
theorem Scenario.run_transparent (scenario : Scenario) (config : CacheConfig)
    (around : Surroundings) (hpartial : config.cachePartialData = false)
    (hfree : CollisionFree (scenario.hashed config around)) :
    (∀ memory before label q after reports r,
      MemoryStore.make around.tables config.store = .ok memory →
      scenario.steps = before ++ .query label q :: after →
      runFrom config scenario.volatileFrom around (.startOn memory scenario) 1 before =
        .ok (reports, r) →
      AnswersAs
        ((r.arrive around (before.length + 1)).execution config scenario.volatileFrom
          (asked around (before.length + 1) q)).1
        (asked around (before.length + 1) q)
        (r.registry.answer scenario.volatileFrom (asked around (before.length + 1) q))) ∧
    (∀ (other : CacheConfig) (elsewhere : Surroundings), other.cachePartialData = false →
      CollisionFree (scenario.hashed other elsewhere) →
      ∀ result found, scenario.run config around = .ok result →
        scenario.run other elsewhere = .ok found →
        result.map ReplayReport.outline = found.map ReplayReport.outline) ∧
    ∀ fault, scenario.run config around = .error fault ↔
      MemoryStore.make around.tables config.store = .error fault := by
  refine ⟨?answers, ?reports, scenario.run_eq_error_iff config around⟩
  case answers =>
    intro memory before label q after reports r hmade hsteps hrun
    obtain rfl := MemoryStore.eq_new_of_make hmade
    have hmem : ∀ t ∈ hashedFrom config scenario.volatileFrom around (.start config scenario) 1
        (before ++ .query label q :: after), t ∈ scenario.hashed config around := by
      rw [Scenario.hashed, hsteps]
      exact fun _ ht => ht
    obtain ⟨hsound, hrest⟩ := sound_of_runFrom before
      (sound_start config (scenario.hashed config around) scenario) hfree hpartial 1 hmem hrun
    rw [Nat.add_comm 1] at hrest
    exact answersAs_execution (hsound.arrive _) hfree fun t ht => hrest t (mem_hashedFrom ht after)
  case reports =>
    intro other elsewhere hother hfree' result found hresult hfound
    rw [Scenario.eq_replay_of_run hresult, Scenario.eq_replay_of_run hfound,
      scenario.replay_plain config around hpartial hfree,
      scenario.replay_plain other elsewhere hother hfree']

example (scenario : Scenario) : scenario.run { store := { maxEntries := 18446744073709551615 } }
    { delay := fun _ => 0, elapsed := fun _ => 0, freshId := fun _ => "" } = .error .tooLarge := rfl

def Surroundings.still : Surroundings where
  delay _ := 0
  elapsed _ := 0
  freshId _ := "id"

def Scenario.repeated : Scenario where
  segments := [.loaded (.ofFirstSecond "v1")]
  volatileFrom := none
  steps := List.replicate 2 (.query none .overFirstSecond)

theorem Scenario.repeated_transparent :
    CollisionFree (Scenario.repeated.hashed {} .still) ∧
      (Scenario.repeated.replay {} .still).map (fun r => r.steps.map StepReport.provenance) =
        .ok [some .backend, some .cache] ∧
      ∃ result found, Scenario.repeated.run {} .still = .ok result ∧
        Scenario.repeated.run .disabled .still = .ok found ∧
        result.map ReplayReport.outline = found.map ReplayReport.outline := by
  have hfree : CollisionFree (Scenario.repeated.hashed {} .still) := by
    decide +kernel
  have hresult : Scenario.repeated.run {} .still = .ok (Scenario.repeated.replay {} .still) :=
    Scenario.run_of_make _ rfl
  have hfound : Scenario.repeated.run .disabled .still =
      .ok (Scenario.repeated.replay .disabled .still) := Scenario.run_of_make _ rfl
  refine ⟨hfree, by decide +kernel, _, _, hresult, hfound, ?_⟩
  refine (Scenario.repeated.run_transparent {} .still rfl hfree).2.1 .disabled .still rfl ?_ _ _
    hresult hfound
  decide +kernel

end AnswerCache
