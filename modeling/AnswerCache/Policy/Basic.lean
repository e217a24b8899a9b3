import AnswerCache.Canonical
import AnswerCache.Config
import AnswerCache.Metrics
import AnswerCache.Store.Basic

/-!
What the cache policy decides with: verdicts on responses, tickets that a lookup leaves behind, and
the outcomes of writes.
-/

namespace AnswerCache

structure Verdict where
  missing : Bool
  volatile : Bool
  deriving DecidableEq

def Verdict.ofIntervals (missing volatile : List Interval) : Verdict :=
  ⟨!missing.isEmpty, !volatile.isEmpty⟩

def Verdict.isCacheable (v : Verdict) : Bool :=
  !v.missing && !v.volatile

structure Ticket where
  key : CacheKey
  signature : Option (Option Signature)
  deriving DecidableEq

def Ticket.pending (key : CacheKey) : Ticket :=
  ⟨key, none⟩

def Ticket.resolved (key : CacheKey) (signature : Option Signature) : Ticket :=
  ⟨key, some signature⟩

def Ticket.signatureFor (t : Ticket) (service : SignatureService) (q : Query) :
    Option Signature :=
  t.signature.getD (service q)

structure Lookup where
  value : Option Json
  ticket : Option Ticket

inductive CacheError
  | key (error : KeyError)
  | store (error : StoreError)
  deriving DecidableEq

def CacheError.message : CacheError → String
  | key error => error.message
  | store error => error.message

structure WriteFailure where
  key : Option CacheKey
  signature : Option Signature
  valueLength : Option Nat
  error : CacheError
  deriving DecidableEq

namespace WriteFailure

def keyLength (f : WriteFailure) : Nat :=
  (f.key.map CacheKey.length).getD 0

def keyChecksum (f : WriteFailure) : Option String :=
  f.key.map CacheKey.checksum

def signatureChecksum (f : WriteFailure) : Option String :=
  f.signature.map fun s => CacheKey.checksum ⟨s.hex⟩

end WriteFailure

inductive WriteOutcome
  | stored (signature : Option Signature) (valueLength : Nat)
  | disabled
  | notCacheable
  | oversized (valueLength : Nat) (limit : UInt64)
  | failed (failure : WriteFailure)
  deriving DecidableEq

def WriteOutcome.isStored : WriteOutcome → Bool
  | stored _ _ => true
  | _ => false

end AnswerCache
