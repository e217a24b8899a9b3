import AnswerCache.Proofs.Store.Eviction
import Mathlib.Data.List.Induction

/-!
The entries held stand in the order in which they were last used, and a write gives up those that
were used the longest ago.
-/

namespace AnswerCache

namespace MemoryStore

def keys (s : MemoryStore) : List CacheKey :=
  s.held.map Held.key

lemma get_of_found {s : MemoryStore} (httl : s.config.ttlNanos = none) (now : Nat)
    {key : CacheKey} {h : Held} (hf : s.find? key = some h) :
    s.get now key = (some h.entry, { s with held := h :: without s.held key }) :=
  get_of_fresh hf (isExpired_of_ttl httl now h)

lemma keys_without (held : List Held) (key : CacheKey) :
    (without held key).map Held.key = (held.map Held.key).filter (· != key) := by
  rw [List.filter_map]
  rfl

lemma keys_cons_sublist {s : MemoryStore} {h : Held} {kept : List Held} {used : List CacheKey}
    (hkept : kept.Sublist (without s.held h.key)) (hused : s.keys.Sublist used) :
    ((h :: kept).map Held.key).Sublist (h.key :: used.filter (· != h.key)) := by
  have hless := hkept.map Held.key
  rw [keys_without] at hless
  exact (hless.trans (hused.filter _)).cons_cons h.key

end MemoryStore

namespace ClockedMemory

open MemoryStore

def Event.uses? : Event → Option CacheKey
  | ⟨.get key, .found (some _)⟩ => some key
  | ⟨.set key _, .wrote (.ok ())⟩ => some key
  | _ => none

def use (used : List CacheKey) (e : Event) : List CacheKey :=
  match e.uses? with
  | some key => key :: used.filter (· != key)
  | none => used

def recency (past : List Event) : List CacheKey :=
  past.foldl use []

lemma recency_concat (past : List Event) (e : Event) :
    recency (past ++ [e]) = use (recency past) e :=
  List.foldl_concat use [] e past

variable {c : ClockedMemory}

lemma turn_get_of_found (httl : c.memory.config.ttlNanos = none) (nanos : Nat) {key : CacheKey}
    {h : Held} (hf : c.memory.find? key = some h) :
    c.turn ⟨nanos, .get key⟩ = (⟨.get key, .found (some h.entry)⟩,
      ⟨{ c.memory with held := h :: without c.memory.held key }, c.now + nanos⟩) :=
  (turn_reads (get_of_found httl (c.now + nanos) hf)).1

lemma turn_get_of_missing (nanos : Nat) {key : CacheKey} (hf : c.memory.find? key = none) :
    c.turn ⟨nanos, .get key⟩ = (⟨.get key, .found none⟩, c.pass nanos) :=
  (turn_reads (get_of_missing (c.now + nanos) hf)).1

lemma turn_expireStale (httl : c.memory.config.ttlNanos = none) (nanos : Nat) :
    (c.turn ⟨nanos, .expireStale⟩).2 = c.pass nanos :=
  congrArg (ClockedMemory.mk · (c.now + nanos)) (expireStale_of_ttl httl (c.now + nanos))

lemma turn_set_of_fits (hc : c.memory.Accounted) (nanos : Nat) (key : CacheKey) {entry : Entry}
    (hsize : entry.size ≤ c.memory.maxMemory) :
    ∃ kept cut, without c.memory.held key = kept ++ cut ∧
      IsLongestFront (c.memory.capacity - 1) (c.memory.maxMemory - entry.size)
        (without c.memory.held key) kept ∧
      c.turn ⟨nanos, .set key entry⟩ = (⟨.set key entry, .wrote (.ok ())⟩,
        ⟨{ c.memory with
          held := ⟨key, entry, c.now + nanos⟩ :: kept
          memoryUsed := entry.size + bytes kept
          evictions := c.memory.evictions + cut.length }, c.now + nanos⟩) := by
  obtain ⟨kept, cut, hsplit, hlongest, hset⟩ := hc.set_of_fits (c.now + nanos) key hsize
  exact ⟨kept, cut, hsplit, hlongest, turn_writes hset⟩

lemma turn_set_of_tooLarge (hc : c.memory.Accounted) (nanos : Nat) (key : CacheKey) {entry : Entry}
    (hsize : c.memory.maxMemory < entry.size) :
    c.turn ⟨nanos, .set key entry⟩ = (⟨.set key entry, .wrote (.error tooLarge)⟩,
      ⟨{ c.memory with
        held := without c.memory.held key
        memoryUsed := bytes (without c.memory.held key)
        rejected := c.memory.rejected + 1 }, c.now + nanos⟩) :=
  turn_writes (hc.set_of_tooLarge (c.now + nanos) key hsize)

lemma keys_turn (hc : c.memory.Accounted) (httl : c.memory.config.ttlNanos = none)
    {used : List CacheKey} (hused : c.memory.keys.Sublist used) (t : Turn) :
    (c.turn t).2.memory.keys.Sublist (use used (c.turn t).1) := by
  obtain ⟨nanos, call⟩ := t
  cases call with
  | get key =>
    cases hf : c.memory.find? key with
    | none =>
      rw [turn_get_of_missing nanos hf]
      exact hused
    | some h =>
      rw [turn_get_of_found httl nanos hf]
      obtain ⟨-, rfl⟩ := find?_eq_some hf
      exact keys_cons_sublist (List.Sublist.refl _) hused
  | set key entry =>
    rcases Nat.lt_or_ge c.memory.maxMemory entry.size with hlarge | hsmall
    -- a write that is refused is no use of its key
    · rw [turn_set_of_tooLarge hc nanos key hlarge]
      exact (List.filter_sublist.map Held.key).trans hused
    · obtain ⟨kept, cut, -, hlongest, hturn⟩ := turn_set_of_fits hc nanos key hsmall
      rw [hturn]
      exact keys_cons_sublist (h := ⟨key, entry, c.now + nanos⟩) hlongest.initial.sublist hused
  | peek key => exact hused
  | expireStale =>
    rw [turn_expireStale httl nanos]
    exact hused

lemma keys_after {config : StoreConfig} (httl : config.ttlMs = none) (turns : List Turn) :
    ((new config).after turns).memory.keys.Sublist (recency ((new config).history turns)) := by
  induction turns using List.reverseRecOn with
  | nil => exact List.Sublist.slnil
  | append_singleton turns t ih =>
    rw [history_concat, after_concat, recency_concat]
    exact keys_turn (accounted_memory config turns) (ttlNanos_after httl turns) ih t

/-- Where entries do not age, they stand in the order in which they were last used. A read that
finds an entry moves it to the front, and looking at it does not. A write keeps, behind the new
entry, the longest front of the others that both bounds leave room for, and counts the rest as given
up; an entry that could never fit takes out what was under its key and nothing else. -/
theorem least_recently_used_is_given_up (config : StoreConfig) (httl : config.ttlMs = none)
    (past : List Turn) (nanos : Nat) :
    let c := (new config).after past
    let s := c.memory
    let now := c.now + nanos
    s.keys.Sublist (recency ((new config).history past)) ∧
      (∀ key h, s.find? key = some h →
        c.turn ⟨nanos, .get key⟩ = (⟨.get key, .found (some h.entry)⟩,
          ⟨{ s with held := h :: without s.held key }, now⟩)) ∧
      (∀ key, s.find? key = none →
        c.turn ⟨nanos, .get key⟩ = (⟨.get key, .found none⟩, ⟨s, now⟩)) ∧
      (∀ key, (c.turn ⟨nanos, .peek key⟩).2 = ⟨s, now⟩) ∧
      (c.turn ⟨nanos, .expireStale⟩).2 = ⟨s, now⟩ ∧
      (∀ key entry, entry.size ≤ config.maxMemoryBytes.toNat →
        ∃ kept cut, without s.held key = kept ++ cut ∧
          IsLongestFront (max config.maxEntries.toNat 1 - 1)
            (config.maxMemoryBytes.toNat - entry.size) (without s.held key) kept ∧
          c.turn ⟨nanos, .set key entry⟩ = (⟨.set key entry, .wrote (.ok ())⟩,
            ⟨{ s with
              held := ⟨key, entry, now⟩ :: kept
              memoryUsed := entry.size + bytes kept
              evictions := s.evictions + cut.length }, now⟩)) ∧
      ∀ key entry, config.maxMemoryBytes.toNat < entry.size →
        c.turn ⟨nanos, .set key entry⟩ = (⟨.set key entry, .wrote (.error tooLarge)⟩,
          ⟨{ s with
            held := without s.held key
            memoryUsed := bytes (without s.held key)
            rejected := s.rejected + 1 }, now⟩) := by
  intro c s now
  have hc : s.Accounted := accounted_memory config past
  have hconfig : s.config = config := config_after (new config) past
  have hnever := ttlNanos_after httl past
  refine ⟨keys_after httl past, ?found, ?missing, fun _ => rfl, turn_expireStale hnever nanos,
    ?taken, ?refused⟩
  case found => exact fun key h hf => turn_get_of_found hnever nanos hf
  case missing => exact fun key hf => turn_get_of_missing nanos hf
  case taken =>
    rw [← hconfig]
    exact fun key entry hsize => turn_set_of_fits hc nanos key hsize
  case refused =>
    rw [← hconfig]
    exact fun key entry hsize => turn_set_of_tooLarge hc nanos key hsize

def threePlaces : StoreConfig := { maxEntries := 3, maxMemoryBytes := 100 }

def rereading : List Turn :=
  [⟨0, .set ⟨"first"⟩ ⟨none, "1"⟩⟩, ⟨1, .set ⟨"second"⟩ ⟨none, "2"⟩⟩,
    ⟨1, .set ⟨"third"⟩ ⟨none, "3"⟩⟩, ⟨1, .get ⟨"first"⟩⟩]

theorem fourth_gives_up_two :
    let s := ((new threePlaces).after rereading).memory
    s.keys.Sublist (recency ((new threePlaces).history rereading)) ∧
      ∃ kept cut, without s.held ⟨"fourth"⟩ = kept ++ cut ∧
        IsLongestFront 2 44 (without s.held ⟨"fourth"⟩) kept ∧
        kept.map Held.key = [⟨"first"⟩] ∧ cut.map Held.key = [⟨"third"⟩, ⟨"second"⟩] := by
  intro s
  obtain ⟨horder, -, -, -, -, htaken, -⟩ :=
    least_recently_used_is_given_up threePlaces rfl rereading 1
  obtain ⟨kept, cut, hsplit, hlongest, hturn⟩ :=
    htaken ⟨"fourth"⟩ ⟨none, "a text of 24 characters."⟩ (by decide +kernel)
  have hheld := congrArg (fun result => result.2.memory.keys) hturn
  have hkept : kept.map Held.key = [⟨"first"⟩] := (List.cons.inj hheld.symm).2
  have hkeys := congrArg (List.map Held.key) hsplit
  rw [List.map_append, hkept] at hkeys
  exact ⟨horder, kept, cut, hsplit, hlongest, hkept, (List.cons.inj hkeys.symm).2⟩

end ClockedMemory

end AnswerCache
