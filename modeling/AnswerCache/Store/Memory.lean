import AnswerCache.Config
import AnswerCache.Store.Basic

/-!
The store in memory: bounded in entries and bytes, it gives up the least recently used entries
first, and those that have outlived their time when they are asked for.
-/

namespace AnswerCache

structure Held where
  key : CacheKey
  entry : Entry
  storedAt : Nat
  deriving DecidableEq

def Held.size (h : Held) : Nat :=
  h.entry.size

inductive TableFault
  | tooLarge
  | noMemory
  deriving DecidableEq

/-- The slots are a power of two, and one in eight stays free. -/
def tableSlots (entries : Nat) : Nat :=
  Nat.pow 2 ((entries * 8 / 7 - 1).log2 + 1)

def tableBytes (entries : Nat) : Nat :=
  tableSlots entries * 17 + 16

def maxTableBytes : Nat := Nat.pow 2 63 - 1

def maxMappedBytes : Nat := Nat.pow 2 47

/-- As long as there is memory behind every address that can be mapped. -/
def grantTable (entries : Nat) : Except TableFault Unit :=
  if maxTableBytes < tableBytes entries then .error .tooLarge
  else if maxMappedBytes < tableBytes entries then .error .noMemory
  else .ok ()

/-- The entries stand from the most to the least recently used. -/
structure MemoryStore where
  config : StoreConfig
  held : List Held
  memoryUsed : Nat
  evictions : Nat
  expirations : Nat
  rejected : Nat
  deriving DecidableEq

namespace MemoryStore

def new (config : StoreConfig) : MemoryStore :=
  ⟨config, [], 0, 0, 0, 0⟩

def capacity (s : MemoryStore) : Nat :=
  max s.config.maxEntries.toNat 1

/-- A store has the table for all its entries from the start. -/
def make (tables : Nat → Except TableFault Unit) (config : StoreConfig) :
    Except TableFault MemoryStore := do
  tables (new config).capacity
  return new config

def maxMemory (s : MemoryStore) : Nat :=
  s.config.maxMemoryBytes.toNat

def size (s : MemoryStore) : Nat :=
  s.held.length

def find? (s : MemoryStore) (key : CacheKey) : Option Held :=
  s.held.find? fun h => h.key == key

def isExpired (s : MemoryStore) (now : Nat) (h : Held) : Bool :=
  match s.config.ttlNanos with
  | some ttl => ttl < now - h.storedAt
  | none => false

def without (held : List Held) (key : CacheKey) : List Held :=
  held.filter fun h => h.key != key

def remove (s : MemoryStore) (key : CacheKey) : MemoryStore :=
  match s.find? key with
  | some h => { s with held := without s.held key, memoryUsed := s.memoryUsed - h.size }
  | none => s

def expire (s : MemoryStore) (key : CacheKey) : MemoryStore :=
  let s := s.remove key
  { s with expirations := s.expirations + 1 }

def peek (s : MemoryStore) (now : Nat) (key : CacheKey) : Option Entry :=
  match s.find? key with
  | some h => if s.isExpired now h then none else some h.entry
  | none => none

def get (s : MemoryStore) (now : Nat) (key : CacheKey) : Option Entry × MemoryStore :=
  match s.find? key with
  | some h =>
    if s.isExpired now h then (none, s.expire key)
    else (some h.entry, { s with held := h :: without s.held key })
  | none => (none, s)

def expireStale (s : MemoryStore) (now : Nat) : Nat × MemoryStore :=
  let stale := s.held.filter (s.isExpired now)
  (stale.length, stale.foldl (fun s h => s.expire h.key) s)

def evictFrom (limit size memory : Nat) : List Held → List Held × Nat × Nat
  | [] => ([], memory, 0)
  | h :: rest =>
    if limit < memory + size then
      let (kept, memory, count) := evictFrom limit size (memory - h.size) rest
      (kept, memory, count + 1)
    else (h :: rest, memory, 0)

def makeRoom (s : MemoryStore) (size : Nat) : MemoryStore :=
  let (kept, memory, count) := evictFrom s.maxMemory size s.memoryUsed s.held.reverse
  { s with held := kept.reverse, memoryUsed := memory, evictions := s.evictions + count }

def push (s : MemoryStore) (h : Held) : MemoryStore :=
  match s.held.getLast? with
  | some last =>
    if s.capacity ≤ s.size then
      { s with
        held := h :: s.held.dropLast
        memoryUsed := s.memoryUsed - last.size + h.size
        evictions := s.evictions + 1 }
    else { s with held := h :: s.held, memoryUsed := s.memoryUsed + h.size }
  | none => { s with held := [h], memoryUsed := s.memoryUsed + h.size }

def tooLarge : StoreError :=
  .unavailable "value exceeds store memory bound"

def set (s : MemoryStore) (now : Nat) (key : CacheKey) (entry : Entry) :
    Except StoreError Unit × MemoryStore :=
  let s := s.remove key
  if s.maxMemory < entry.size then (.error tooLarge, { s with rejected := s.rejected + 1 })
  else (.ok (), (s.makeRoom entry.size).push ⟨key, entry, now⟩)

end MemoryStore

structure ClockedMemory where
  memory : MemoryStore
  now : Nat

namespace ClockedMemory

def new (config : StoreConfig) : ClockedMemory :=
  ⟨.new config, 0⟩

def pass (c : ClockedMemory) (nanos : Nat) : ClockedMemory :=
  { c with now := c.now + nanos }

def store : SlowStore ClockedMemory where
  name := "memory"
  get c key :=
    let (entry, memory) := c.memory.get c.now key
    (.ok entry, { c with memory })
  set c key entry :=
    let (result, memory) := c.memory.set c.now key entry
    (result, { c with memory })
  getDelay _ := some 0
  setDelay _ := some 0

end ClockedMemory

end AnswerCache
