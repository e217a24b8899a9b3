import AnswerCache.Execution.Executor
import AnswerCache.Execution.Segments
import AnswerCache.Replay.Scenario
import AnswerCache.Store.Memory

/-!
Replaying a scenario: every step meets the registry and the cache as the steps before left them,
and writes are done before the next step.
-/

namespace AnswerCache

structure StepReport where
  step : Nat
  label : String
  provenance : Option Provenance
  detail : String
  elapsedNanos : Nat

structure ReplayReport where
  steps : List StepReport
  metrics : Metrics
  backendCalls : Nat

structure ReplayError where
  step : Nat
  cause : QueryError
  deriving DecidableEq

namespace ReplayError

def outline (e : ReplayError) : String :=
  "Step " ++ String.ofList (Text.decimal e.step) ++ " failed"

def message (e : ReplayError) : String :=
  e.outline ++ ": " ++ e.cause.message

end ReplayError

/-- What a run takes from outside. For each step of a replay by its number: the nanoseconds that
pass before it and while a query is answered, and an id for a query that has none. Further which
tables there is memory for, and how many lines can be printed, if not all. -/
structure Surroundings where
  delay : Nat → Nat
  elapsed : Nat → Nat
  freshId : Nat → String
  tables : Nat → Except TableFault Unit := grantTable
  printLimit : Option Nat := none

structure Replay where
  registry : Registry
  state : ExecutorState ClockedMemory

namespace Replay

def policy (config : CacheConfig) : Policy ClockedMemory where
  config := config
  canonicalizer := .standard
  store := ClockedMemory.store.within config.store.operationTimeoutMs.toNat

def executor (config : CacheConfig) : Executor ClockedMemory :=
  ⟨policy config, []⟩

def startOn (memory : MemoryStore) (scenario : Scenario) : Replay :=
  ⟨Registry.empty.applyAll scenario.segments, .new ⟨memory, 0⟩⟩

def start (config : CacheConfig) (scenario : Scenario) : Replay :=
  .startOn (.new config.store) scenario

def pass (r : Replay) (nanos : Nat) : Replay :=
  { r with state := r.state.mapStore fun store => store.pass nanos }

def countText (n : Nat) : String :=
  String.ofList (Text.decimal n)

def responseDetail (response : Response) : String :=
  "missing=" ++ countText response.missing.length ++
    " volatile=" ++ countText response.volatile.length

def eventsDetail (events : List SegmentEvent) (registry : Registry) : String :=
  countText events.length ++ " event(s) applied, " ++
    countText registry.segmentCount ++ " segment(s) loaded"

def applyStep (r : Replay) (number : Nat) (events : List SegmentEvent) : StepReport × Replay :=
  let registry := r.registry.applyAll events
  (⟨number, "segments", none, eventsDetail events registry, 0⟩, { r with registry })

def queryStep (config : CacheConfig) (volatileFrom : Option Instant) (r : Replay)
    (number elapsed : Nat) (label : Option String) (query : Query) :
    Except ReplayError (StepReport × Replay) :=
  let service := r.registry.signatureFor
  let e := executor config
  match e.execute service (r.registry.backend volatileFrom) r.state query with
  | (.error cause, _) => .error ⟨number, cause⟩
  | (.ok execution, s) =>
    let s := match execution.write with
      | some write => e.settle service s write
      | none => s
    let response := execution.response
    .ok (⟨number, label.getD ("query " ++ countText number), some response.provenance,
      responseDetail response, elapsed⟩, { r with state := s })

def step (config : CacheConfig) (volatileFrom : Option Instant) (around : Surroundings)
    (r : Replay) (number : Nat) : Scenario.Step → Except ReplayError (StepReport × Replay)
  | .query label query =>
    queryStep config volatileFrom (r.pass (around.delay number)) number (around.elapsed number)
      label (query.ensureId (around.freshId number))
  | .segments events => .ok (r.applyStep number events)

def runFrom (config : CacheConfig) (volatileFrom : Option Instant) (around : Surroundings)
    (r : Replay) (number : Nat) :
    List Scenario.Step → Except ReplayError (List StepReport × Replay)
  | [] => .ok ([], r)
  | first :: rest => do
    let (report, r) ← step config volatileFrom around r number first
    let (reports, r) ← runFrom config volatileFrom around r (number + 1) rest
    return (report :: reports, r)

end Replay

namespace Scenario

def replayOn (memory : MemoryStore) (scenario : Scenario) (config : CacheConfig)
    (around : Surroundings) : Except ReplayError ReplayReport := do
  let (steps, r) ← Replay.runFrom config scenario.volatileFrom around
    (.startOn memory scenario) 1 scenario.steps
  return ⟨steps, r.state.policy.metrics, r.state.backendCalls⟩

def replay (scenario : Scenario) (config : CacheConfig) (around : Surroundings) :
    Except ReplayError ReplayReport :=
  scenario.replayOn (.new config.store) config around

/-- The store is made before the first step, also where the cache is off. -/
def run (scenario : Scenario) (config : CacheConfig) (around : Surroundings) :
    Except TableFault (Except ReplayError ReplayReport) := do
  let memory ← MemoryStore.make around.tables config.store
  return scenario.replayOn memory config around

end Scenario

namespace ReplayReport

def hitRate (r : ReplayReport) : Binary64 :=
  r.metrics.hitRate

end ReplayReport

end AnswerCache
