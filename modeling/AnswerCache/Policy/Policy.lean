import AnswerCache.Json.Reader
import AnswerCache.Policy.Notice

/-!
The read and write policy: an answer is served only under the signature that is current, and kept
only when it is complete and final. Whatever fails counts as an empty cache.
-/

namespace AnswerCache

structure Policy (σ : Type) where
  config : CacheConfig
  canonicalizer : Canonicalizer
  store : Store σ

structure PolicyState (σ : Type) where
  store : σ
  metrics : Metrics
  notices : List Notice

namespace PolicyState

variable {σ : Type}

def new (store : σ) : PolicyState σ :=
  ⟨store, {}, []⟩

def bump (s : PolicyState σ) (c : Counter) : PolicyState σ :=
  { s with metrics := s.metrics.bump c }

def give (s : PolicyState σ) (n : Notice) : PolicyState σ :=
  { s with notices := s.notices ++ [n] }

def giveAll (s : PolicyState σ) (ns : List Notice) : PolicyState σ :=
  { s with notices := s.notices ++ ns }

end PolicyState

namespace Policy

variable {σ : Type}

def keyOf (p : Policy σ) (q : Query) : Except KeyError CacheKey :=
  p.canonicalizer.keyOf q

def judge (service : SignatureService) (s : PolicyState σ) (q : Query) (key : CacheKey)
    (entry : Entry) : Lookup × PolicyState σ :=
  let current := service q
  let ticket := Ticket.resolved key current
  if current.isSome && current == entry.signature then
    match Json.parse? entry.value with
    | some value =>
      (⟨some value, some ticket⟩,
        (s.bump .hits).give (.hit q.queryId entry.value.utf8ByteSize))
    | none => (⟨none, some ticket⟩, (s.give (.entryUnreadable key)).bump .misses)
  else
    (⟨none, some ticket⟩,
      ((s.give (.entryInvalid q.queryId key)).bump .potentialHits).bump .misses)

def lookup (p : Policy σ) (service : SignatureService) (s : PolicyState σ) (q : Query) :
    Lookup × PolicyState σ :=
  if !p.config.enabled then (⟨none, none⟩, s)
  else
    let s := s.bump .requests
    match p.keyOf q with
    | .error e => (⟨none, none⟩, (s.give (.keyUnavailable e)).bump .misses)
    | .ok key =>
      let (answer, store) := p.store.get s.store key
      let s := { s with store }
      match answer with
      | .ok (some entry) => judge service s q key entry
      | .ok none => (⟨none, some (.pending key)⟩, s.bump .misses)
      | .error e =>
        (⟨none, some (.pending key)⟩, (s.give (.readFailed p.store.name key e)).bump .misses)

def read (p : Policy σ) (service : SignatureService) (s : PolicyState σ) (q : Query) :
    Option Json × PolicyState σ :=
  let (lookup, s) := p.lookup service s q
  (lookup.value, s)

def admits (p : Policy σ) (v : Verdict) : Bool :=
  p.config.cachePartialData || v.isCacheable

def skip (s : PolicyState σ) (q : Query) (v : Verdict) : WriteOutcome × PolicyState σ :=
  (.notCacheable, (s.bump .skippedUncacheable).give (.partialData q.queryId v))

def fail (s : PolicyState σ) (f : WriteFailure) : WriteOutcome × PolicyState σ :=
  (.failed f, (s.bump .setFailures).give (.writeFailed f))

def put (p : Policy σ) (s : PolicyState σ) (key : CacheKey) (entry : Entry) :
    WriteOutcome × PolicyState σ :=
  let length := entry.value.utf8ByteSize
  let (answer, store) := p.store.set s.store key entry
  let s := { s with store }
  match answer with
  | .ok () =>
    (.stored entry.signature length,
      (s.bump .writes).give (.stored key length entry.signature))
  | .error e => fail s ⟨some key, entry.signature, some length, .store e⟩

def writeWithTicket (p : Policy σ) (service : SignatureService) (s : PolicyState σ)
    (ticket : Ticket) (payload : Json) (q : Query) (v : Verdict) :
    WriteOutcome × PolicyState σ :=
  if !p.config.enabled then (.disabled, s)
  else if !p.admits v then skip s q v
  else
    let value := payload.compactText
    let length := value.utf8ByteSize
    if p.config.maxResponseBytes.toNat < length then
      (.oversized length p.config.maxResponseBytes,
        (s.bump .skippedOversized).give
          (.oversized ticket.key length p.config.maxResponseBytes))
    else p.put s ticket.key ⟨ticket.signatureFor service q, value⟩

def write (p : Policy σ) (service : SignatureService) (s : PolicyState σ) (payload : Json)
    (q : Query) (v : Verdict) : WriteOutcome × PolicyState σ :=
  if !p.config.enabled then (.disabled, s)
  else if !p.admits v then skip s q v
  else
    match p.keyOf q with
    | .ok key => p.writeWithTicket service s (.pending key) payload q v
    | .error e => fail s ⟨none, none, none, .key e⟩

end Policy

structure PendingWrite where
  query : Query
  payload : Json
  verdict : Verdict
  ticket : Option Ticket

def PendingWrite.run {σ : Type} (w : PendingWrite) (p : Policy σ) (service : SignatureService)
    (s : PolicyState σ) : WriteOutcome × PolicyState σ :=
  match w.ticket with
  | some ticket => p.writeWithTicket service s ticket w.payload w.query w.verdict
  | none => p.write service s w.payload w.query w.verdict

end AnswerCache
