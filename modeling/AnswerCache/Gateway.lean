import AnswerCache.Execution.Executor
import AnswerCache.Execution.Segments
import AnswerCache.Store.Faults

/-!
A gateway at work: an executor over a store that can be made to fail, a cache stage of its own
beside it, and one queue of the writes that both have left behind.
-/

namespace AnswerCache

inductive SignatureSource
  | unknown
  | settable (signature : Option Signature)
  | segments

inductive AnswerSource
  | constant
  | segments (volatileFrom : Option Instant)

inductive Writer
  | executor
  | stage
  deriving DecidableEq

structure Gateway where
  executor : Executor FaultyMemory
  signatures : SignatureSource
  answers : AnswerSource
  answer : BackendAnswer
  stallMs : UInt64
  writesInline : Bool
  registry : Registry
  state : ExecutorState FaultyMemory
  queue : List (Writer × PendingWrite)

namespace Gateway

def policy (g : Gateway) : Policy FaultyMemory :=
  g.executor.policy

def store (g : Gateway) : FaultyMemory :=
  g.state.policy.store

def mapStore (g : Gateway) (f : FaultyMemory → FaultyMemory) : Gateway :=
  { g with state := g.state.mapStore f }

def pass (g : Gateway) (nanos : Nat) : Gateway :=
  g.mapStore fun store => store.pass nanos

def notices (g : Gateway) : List Notice :=
  g.state.policy.notices

def forgetNotices (g : Gateway) : Gateway :=
  { g with state := { g.state with policy := { g.state.policy with notices := [] } } }

def service (g : Gateway) : SignatureService :=
  match g.signatures with
  | .unknown => fun _ => none
  | .settable signature => fun _ => signature
  | .segments => g.registry.signatureFor

def setSignature (g : Gateway) (signature : Option Signature) : Gateway :=
  match g.signatures with
  | .settable _ => { g with signatures := .settable signature }
  | _ => g

def backend (g : Gateway) : Backend :=
  let backend := match g.answers with
    | .constant => .constant g.answer
    | .segments volatileFrom => g.registry.backend volatileFrom
  if g.stallMs = 0 then backend else backend.stalled g.stallMs

def apply (g : Gateway) (event : SegmentEvent) : Gateway :=
  { g with
    registry := g.registry.apply event
    state := g.state.giveAll (g.registry.notices event) }

def withPolicy {α : Type} (g : Gateway) (call : α × PolicyState FaultyMemory) : α × Gateway :=
  (call.1, { g with state := { g.state with policy := call.2 } })

def lookup (g : Gateway) (q : Query) : Lookup × Gateway :=
  g.withPolicy (g.policy.lookup g.service g.state.policy q)

def read (g : Gateway) (q : Query) : Option Json × Gateway :=
  g.withPolicy (g.policy.read g.service g.state.policy q)

def write (g : Gateway) (w : PendingWrite) : WriteOutcome × Gateway :=
  g.withPolicy (w.run g.policy g.service g.state.policy)

def settle (g : Gateway) (w : PendingWrite) : Gateway :=
  (g.write w).2

def inFlight (g : Gateway) (writer : Writer) : Nat :=
  g.queue.countP fun w => w.1 = writer

def submit (g : Gateway) (writer : Writer) : Option PendingWrite → Gateway
  | none => g
  | some w => if g.writesInline then g.settle w else { g with queue := g.queue ++ [(writer, w)] }

def flush (g : Gateway) (writer : Writer) : Gateway :=
  if g.inFlight writer = 0 then g
  else g.queue.foldl (fun g w => g.settle w.2) { g with queue := [] }

def execute (g : Gateway) (q : Query) : Except QueryError Response × Gateway :=
  match g.executor.execute g.service g.backend g.state q with
  | (.error e, state) => (.error e, { g with state })
  | (.ok execution, state) =>
    (.ok execution.response, { g with state }.submit .executor execution.write)

def executeUncached (g : Gateway) (q : Query) : Except QueryError Response × Gateway :=
  let (result, state) := Executor.executeUncached g.backend g.state q
  (result, { g with state })

def ask (g : Gateway) (q : Query) : Except QueryError BackendAnswer × Gateway :=
  let (result, state) := Executor.ask g.backend g.state q
  (result, { g with state })

def offer (g : Gateway) (r : Response) : Gateway :=
  g.submit .stage (g.policy.offer? r)

end Gateway

end AnswerCache
