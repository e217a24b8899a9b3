import AnswerCache.Json.Basic

namespace AnswerCache

inductive Counter
  | requests
  | hits
  | potentialHits
  | misses
  | setFailures
  | writes
  | skippedUncacheable
  | skippedOversized
  deriving DecidableEq

structure Metrics where
  requests : Nat := 0
  hits : Nat := 0
  potentialHits : Nat := 0
  misses : Nat := 0
  setFailures : Nat := 0
  writes : Nat := 0
  skippedUncacheable : Nat := 0
  skippedOversized : Nat := 0
  deriving DecidableEq

def Counter.name : Counter → String
  | requests => "requests"
  | hits => "hits"
  | potentialHits => "potential_hits"
  | misses => "misses"
  | setFailures => "set_failures"
  | writes => "writes"
  | skippedUncacheable => "skipped_uncacheable"
  | skippedOversized => "skipped_oversized"

def Counter.all : List Counter :=
  [requests, hits, potentialHits, misses, setFailures, writes, skippedUncacheable,
    skippedOversized]

namespace Metrics

def get (m : Metrics) : Counter → Nat
  | .requests => m.requests
  | .hits => m.hits
  | .potentialHits => m.potentialHits
  | .misses => m.misses
  | .setFailures => m.setFailures
  | .writes => m.writes
  | .skippedUncacheable => m.skippedUncacheable
  | .skippedOversized => m.skippedOversized

def bump (m : Metrics) : Counter → Metrics
  | .requests => { m with requests := m.requests + 1 }
  | .hits => { m with hits := m.hits + 1 }
  | .potentialHits => { m with potentialHits := m.potentialHits + 1 }
  | .misses => { m with misses := m.misses + 1 }
  | .setFailures => { m with setFailures := m.setFailures + 1 }
  | .writes => { m with writes := m.writes + 1 }
  | .skippedUncacheable => { m with skippedUncacheable := m.skippedUncacheable + 1 }
  | .skippedOversized => { m with skippedOversized := m.skippedOversized + 1 }

theorem get_bump (m : Metrics) (c d : Counter) :
    (m.bump c).get d = m.get d + if c = d then 1 else 0 := by
  cases c <;> cases d <;> rfl

def counters (m : Metrics) : List (String × Nat) :=
  Counter.all.map fun c => (c.name, m.get c)

def hitRate (m : Metrics) : Binary64 :=
  if m.requests = 0 then .zero
  else
    match Binary64.ofNat m.hits, Binary64.ofNat m.requests with
    | .finite hits, .finite requests => hits.div requests
    | _, _ => .nan

def toJson (m : Metrics) : Json :=
  .object (m.counters.map fun c => (c.1, .nat c.2))

end Metrics

end AnswerCache
