import AnswerCache.Policy.Basic
import AnswerCache.Query.Validate

namespace AnswerCache

structure BackendAnswer where
  payload : Json
  missing : List Interval
  volatile : List Interval

structure Backend where
  name : String
  answer : Query → Except QueryError BackendAnswer

def Backend.constant (answer : BackendAnswer) : Backend :=
  ⟨"static", fun _ => .ok answer⟩

def Backend.stalled (b : Backend) (ms : UInt64) : Backend :=
  { b with answer := fun _ => .error (.backendTimeout ms.toNat) }

inductive Provenance
  | backend
  | cache
  deriving DecidableEq

def Provenance.name : Provenance → String
  | backend => "backend"
  | cache => "cache"

structure Response where
  query : Query
  payload : Json
  missing : List Interval
  volatile : List Interval
  provenance : Provenance
  ticket : Option Ticket

namespace Response

def ofBackend (q : Query) (a : BackendAnswer) (ticket : Option Ticket) : Response :=
  ⟨q, a.payload, a.missing, a.volatile, .backend, ticket⟩

def ofCache (q : Query) (payload : Json) : Response :=
  ⟨q, payload, [], [], .cache, none⟩

def verdict (r : Response) : Verdict :=
  .ofIntervals r.missing r.volatile

def isFromCache (r : Response) : Bool :=
  r.provenance == .cache

end Response

end AnswerCache
