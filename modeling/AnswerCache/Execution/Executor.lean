import AnswerCache.Execution.Stage

/-!
Executing queries: a valid stored answer is returned without asking the backend, any other answer
is the backend's and is offered to the cache behind the response.
-/

namespace AnswerCache

structure Executor (σ : Type) where
  policy : Policy σ
  stages : List Stage

structure ExecutorState (σ : Type) where
  policy : PolicyState σ
  backendCalls : Nat

namespace ExecutorState

variable {σ : Type}

def new (store : σ) : ExecutorState σ :=
  ⟨.new store, 0⟩

def mapStore (s : ExecutorState σ) (f : σ → σ) : ExecutorState σ :=
  { s with policy := { s.policy with store := f s.policy.store } }

def giveAll (s : ExecutorState σ) (ns : List Notice) : ExecutorState σ :=
  { s with policy := s.policy.giveAll ns }

end ExecutorState

structure Execution where
  response : Response
  write : Option PendingWrite

namespace Executor

variable {σ : Type}

def stagesBeforeCache (e : Executor σ) : List Stage :=
  .reporting :: e.stages

def stageNames (e : Executor σ) : List String :=
  e.stagesBeforeCache.map Stage.name ++ [CacheStage.name]

def ask (b : Backend) (s : ExecutorState σ) (q : Query) :
    Except QueryError BackendAnswer × ExecutorState σ :=
  match b.answer q with
  | .ok a => (.ok a, { s with backendCalls := s.backendCalls + 1 })
  | .error e => (.error e, s)

def respond (e : Executor σ) (s : ExecutorState σ) (r : Response) :
    Execution × ExecutorState σ :=
  let (out, notices) := Stage.runAll e.stagesBeforeCache r
  (⟨out, e.policy.offer? out⟩, s.giveAll notices)

def execute (e : Executor σ) (service : SignatureService) (b : Backend) (s : ExecutorState σ)
    (q : Query) : Except QueryError Execution × ExecutorState σ :=
  match q.validate with
  | .error err => (.error err, s)
  | .ok () =>
    let (lookup, policyState) := e.policy.lookup service s.policy q
    let s := { s with policy := policyState }
    match lookup.value with
    | some payload =>
      let (execution, s) := e.respond s (.ofCache q payload)
      (.ok execution, s)
    | none =>
      let s := s.giveAll [.backendAsked b.name q.queryId]
      match ask b s q with
      | (.error err, s) => (.error err, s)
      | (.ok answer, s) =>
        let (execution, s) := e.respond s (.ofBackend q answer lookup.ticket)
        (.ok execution, s)

def executeUncached (b : Backend) (s : ExecutorState σ) (q : Query) :
    Except QueryError Response × ExecutorState σ :=
  match q.validate with
  | .error err => (.error err, s)
  | .ok () =>
    match ask b s q with
    | (.error err, s) => (.error err, s)
    | (.ok answer, s) => (.ok (.ofBackend q answer none), s)

def settle (e : Executor σ) (service : SignatureService) (s : ExecutorState σ)
    (w : PendingWrite) : ExecutorState σ :=
  { s with policy := (w.run e.policy service s.policy).2 }

end Executor

end AnswerCache
