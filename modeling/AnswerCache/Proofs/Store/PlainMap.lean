import AnswerCache.Proofs.Store.Account
import AnswerCache.Proofs.Store.LastSet
import Mathlib.Data.List.AList
import Mathlib.Data.List.Infix

/-!
The store in memory beside a plain map that forgets nothing: as long as the map would fit into the
store, and entries do not age, nothing is given up and both answer alike.
-/

namespace AnswerCache

abbrev PlainMap := AList fun _ : CacheKey => Entry

namespace PlainMap

open ClockedMemory (Event)

def bytes (m : PlainMap) : Nat :=
  (m.entries.map fun e => e.2.size).sum

structure Fits (config : StoreConfig) (m : PlainMap) : Prop where
  entries : m.entries.length ≤ max config.maxEntries.toNat 1
  memory : m.bytes ≤ config.maxMemoryBytes.toNat

instance (config : StoreConfig) (m : PlainMap) : Decidable (m.Fits config) :=
  decidable_of_iff (m.entries.length ≤ max config.maxEntries.toNat 1 ∧
    m.bytes ≤ config.maxMemoryBytes.toNat) ⟨fun h => ⟨h.1, h.2⟩, fun h => ⟨h.entries, h.memory⟩⟩

def record (m : PlainMap) : Event → PlainMap
  | ⟨.set key entry, .wrote (.ok ())⟩ => m.insert key entry
  | ⟨.set key _, .wrote (.error _)⟩ => m.erase key
  | _ => m

def ofHistory (past : List Event) : PlainMap :=
  past.foldl record ∅

lemma bytes_insert (m : PlainMap) (key : CacheKey) (entry : Entry) :
    bytes (m.insert key entry) = entry.size + bytes (m.erase key) := by
  rw [bytes, AList.entries_insert]
  exact List.sum_cons

lemma length_insert (m : PlainMap) (key : CacheKey) (entry : Entry) :
    (m.insert key entry).entries.length = (m.erase key).entries.length + 1 := by
  rw [AList.entries_insert]
  rfl

end PlainMap

def Held.pair (h : Held) : Sigma fun _ : CacheKey => Entry :=
  ⟨h.key, h.entry⟩

namespace MemoryStore

def Mirrors (s : MemoryStore) (m : PlainMap) : Prop :=
  (s.held.map Held.pair).Perm m.entries

lemma nodupKeys_pairs {s : MemoryStore} (hs : s.Accounted) :
    (s.held.map Held.pair).NodupKeys := by
  rw [List.NodupKeys, List.keys, List.map_map]
  exact hs.distinct

lemma pairs_without {held : List Held} (hdistinct : (held.map Held.key).Nodup) (key : CacheKey) :
    (without held key).map Held.pair = (held.map Held.pair).kerase key := by
  induction held with
  | nil => rfl
  | cons h rest ih =>
    rw [List.map_cons, List.nodup_cons] at hdistinct
    obtain ⟨hnew, hrest⟩ := hdistinct
    by_cases hk : h.key = key
    · subst hk
      rw [without_cons_self hnew]
      exact (List.kerase_cons_eq (s := h.pair) rfl).symm
    · rw [without_cons_ne hk, List.map_cons, ih hrest]
      exact (List.kerase_cons_ne (s := h.pair) (Ne.symm hk)).symm

lemma find?_eq_dlookup (held : List Held) (key : CacheKey) :
    (held.find? fun h => h.key == key).map Held.entry = (held.map Held.pair).dlookup key := by
  induction held with
  | nil => rfl
  | cons h rest ih =>
    rw [List.find?_cons]
    by_cases hk : h.key = key
    · subst hk
      simp only [beq_self_eq_true, Option.map_some]
      exact (List.dlookup_cons_eq (rest.map Held.pair) h.key h.entry).symm
    · rw [beq_false_of_ne hk, ih]
      exact (List.dlookup_cons_ne _ h.pair (Ne.symm hk)).symm

lemma bytes_of_mirrors {s : MemoryStore} {m : PlainMap} (h : s.Mirrors m) :
    bytes s.held = m.bytes := by
  have hsum := (h.map fun e => e.2.size).sum_eq
  rw [List.map_map] at hsum
  exact hsum

lemma makeRoom_of_fits {s : MemoryStore} {size : Nat} (h : s.memoryUsed + size ≤ s.maxMemory) :
    s.makeRoom size = s := by
  have hevict : evictFrom s.maxMemory size s.memoryUsed s.held.reverse =
      (s.held.reverse, s.memoryUsed, 0) := by
    cases s.held.reverse with
    | nil => rfl
    | cons last rest => exact if_neg (Nat.not_lt.mpr h)
  simp only [makeRoom, hevict, List.reverse_reverse, Nat.add_zero]

lemma evictions_remove (s : MemoryStore) (key : CacheKey) :
    (s.remove key).evictions = s.evictions := by
  rw [remove]
  split <;> rfl

lemma set_of_room {s : MemoryStore} {now : Nat} {key : CacheKey} {entry : Entry}
    (hmemory : (s.remove key).memoryUsed + entry.size ≤ (s.remove key).maxMemory)
    (hroom : (s.remove key).size < (s.remove key).capacity) :
    s.set now key entry = (.ok (), { s.remove key with
      held := ⟨key, entry, now⟩ :: (s.remove key).held
      memoryUsed := (s.remove key).memoryUsed + entry.size }) := by
  have hsize : ¬(s.remove key).maxMemory < entry.size := by omega
  simp only [set, if_neg hsize, makeRoom_of_fits hmemory]
  rw [push_of_room _ hroom]
  rfl

namespace Mirrors

variable {s : MemoryStore} {m : PlainMap} (hs : s.Accounted) (hm : s.Mirrors m)
include hs hm

lemma memoryUsed_eq : s.memoryUsed = m.bytes :=
  hs.counted.trans (bytes_of_mirrors hm)

lemma find?_eq_lookup (key : CacheKey) : (s.find? key).map Held.entry = m.lookup key := by
  exact (find?_eq_dlookup s.held key).trans (List.perm_dlookup key (nodupKeys_pairs hs) hm)

lemma remove (key : CacheKey) : (s.remove key).Mirrors (m.erase key) := by
  rw [Mirrors, held_remove, pairs_without hs.distinct]
  exact List.Perm.kerase (nodupKeys_pairs hs) hm

lemma get (httl : s.config.ttlNanos = none) (now : Nat) (key : CacheKey) :
    (s.get now key).2.Mirrors m ∧ (s.get now key).2.evictions = s.evictions := by
  rw [MemoryStore.get]
  split
  · rename_i h hf
    rw [isExpired_of_ttl httl]
    exact ⟨((hs.perm_of_found hf).symm.map Held.pair).trans hm, rfl⟩
  · exact ⟨hm, rfl⟩

lemma set (now : Nat) (key : CacheKey) (entry : Entry)
    (hfits : (m.record ⟨.set key entry, .wrote (s.set now key entry).1⟩).Fits s.config) :
    (s.set now key entry).2.Mirrors (m.record ⟨.set key entry, .wrote (s.set now key entry).1⟩) ∧
      (s.set now key entry).2.evictions = s.evictions := by
  have hremoved := hm.remove hs key
  have hused := hremoved.memoryUsed_eq (hs.remove key)
  have hconfig := s.config_remove key
  rcases Nat.lt_or_ge (s.remove key).maxMemory entry.size with hlarge | hsmall
  · have hset : s.set now key entry =
        (.error tooLarge, { s.remove key with rejected := (s.remove key).rejected + 1 }) :=
      if_pos hlarge
    rw [hset]
    exact ⟨hremoved, evictions_remove s key⟩
  · have hok : (s.set now key entry).1 = .ok () :=
      congrArg Prod.fst (if_neg (Nat.not_lt.mpr hsmall))
    rw [hok] at hfits ⊢
    have hmemory := hfits.memory
    have hentries := hfits.entries
    rw [PlainMap.record, PlainMap.bytes_insert] at hmemory
    rw [PlainMap.record, PlainMap.length_insert, ← hremoved.length_eq, List.length_map] at hentries
    rw [← hconfig] at hmemory hentries
    rw [set_of_room (by rw [hused, Nat.add_comm]; exact hmemory) hentries]
    refine ⟨?_, evictions_remove s key⟩
    rw [Mirrors, PlainMap.record, AList.entries_insert]
    exact hremoved.cons _

end Mirrors

end MemoryStore

namespace ClockedMemory

open MemoryStore

lemma mirrors_turn {c : ClockedMemory} {m : PlainMap} (hc : c.memory.Accounted)
    (hm : c.memory.Mirrors m) (httl : c.memory.config.ttlNanos = none) (t : Turn)
    (hfits : ∀ key entry, t.call = .set key entry →
      (m.record (c.turn t).1).Fits c.memory.config) :
    (c.turn t).2.memory.Mirrors (m.record (c.turn t).1) ∧
      (c.turn t).2.memory.evictions = c.memory.evictions := by
  obtain ⟨nanos, call⟩ := t
  cases call with
  | get key => exact hm.get hc httl _ key
  | set key entry => exact hm.set hc _ key entry (hfits key entry rfl)
  | peek key => exact ⟨hm, rfl⟩
  | expireStale =>
    have hsame : (c.turn ⟨nanos, .expireStale⟩).2.memory = c.memory := expireStale_of_ttl httl _
    rw [hsame]
    exact ⟨hm, rfl⟩

/-- Whenever a write of the run was done, the plain map would have fitted into the store. -/
def AlwaysFits (config : StoreConfig) (turns : List Turn) : Prop :=
  ∀ earlier nanos key entry, earlier ++ [⟨nanos, .set key entry⟩] <+: turns →
    (PlainMap.ofHistory ((new config).history (earlier ++ [⟨nanos, .set key entry⟩]))).Fits config

lemma ofHistory_concat (past : List Event) (e : Event) :
    PlainMap.ofHistory (past ++ [e]) = (PlainMap.ofHistory past).record e := by
  rw [PlainMap.ofHistory, List.foldl_append]
  rfl

lemma mirrors_after {config : StoreConfig} (httl : config.ttlMs = none) {turns : List Turn}
    (hfits : AlwaysFits config turns) :
    ((new config).after turns).memory.Mirrors (PlainMap.ofHistory ((new config).history turns)) ∧
      ((new config).after turns).memory.evictions = 0 := by
  induction turns using List.reverseRecOn with
  | nil => exact ⟨List.Perm.nil, rfl⟩
  | append_singleton turns t ih =>
    have hconfig := config_after (new config) turns
    obtain ⟨hm, hevictions⟩ := ih fun earlier nanos key entry hfront =>
      hfits earlier nanos key entry (hfront.trans (List.prefix_append turns [t]))
    rw [history_concat, after_concat, ofHistory_concat]
    have hnever := ttlNanos_after httl turns
    have hturn := mirrors_turn (accounted_memory config turns) hm hnever t fun key entry hset => by
      obtain ⟨nanos, _⟩ := t
      subst hset
      have hlast := hfits turns nanos key entry List.prefix_rfl
      rw [history_concat, ofHistory_concat] at hlast
      rw [hconfig]
      exact hlast
    exact ⟨hturn.1, hturn.2.trans hevictions⟩

lemma lastSet?_of_peek {config : StoreConfig} {past : List Turn} {now : Nat} {key : CacheKey}
    {entry : Entry} (h : ((new config).after past).memory.peek now key = some entry) :
    lastSet? ((new config).history past) key = some (entry, .ok ()) := by
  rw [← get_eq_peek] at h
  obtain ⟨k, hmem, rfl, rfl⟩ := get_eq_some h
  exact lastSetHeld_after config past k hmem

/-- What is seen under a key is the last write under it, which was taken; after a refused write
nothing is seen. Where entries do not age and the plain map of the writes always fits, nothing is
ever given up, and every answer is the one of the plain map. -/
theorem last_set_is_visible (config : StoreConfig) (past : List Turn) (t : Turn) (key : CacheKey)
    (hreads : t.call.reads? = some key) :
    (∀ entry, (((new config).after past).turn t).1.answer = .found (some entry) →
      lastSet? ((new config).history past) key = some (entry, .ok ())) ∧
    (∀ entry error, lastSet? ((new config).history past) key = some (entry, .error error) →
      (((new config).after past).turn t).1.answer = .found none) ∧
    (config.ttlMs = none → AlwaysFits config past →
      ((new config).after past).memory.evictions = 0 ∧
      (((new config).after past).turn t).1.answer =
        .found ((PlainMap.ofHistory ((new config).history past)).lookup key)) := by
  rw [answer_of_reads hreads]
  refine ⟨?taken, ?refused, ?fitting⟩
  case taken =>
    intro entry hfound
    exact lastSet?_of_peek (Answer.found.inj hfound)
  case refused =>
    intro entry error hlast
    congr 1
    by_contra hvisible
    obtain ⟨other, hpeek⟩ := Option.ne_none_iff_exists'.mp hvisible
    rw [lastSet?_of_peek hpeek] at hlast
    injection hlast with hlast
    injection hlast with _ hresult
    contradiction
  case fitting =>
    intro httl hfits
    obtain ⟨hm, hevictions⟩ := mirrors_after httl hfits
    refine ⟨hevictions, ?_⟩
    have httl' : ((new config).after past).memory.config.ttlNanos = none := by
      rw [config_after]
      exact congrArg (Option.map _) httl
    rw [peek_of_ttl httl', hm.find?_eq_lookup (accounted_memory config past)]

def narrow : StoreConfig := { maxEntries := 2, maxMemoryBytes := 70 }

def refusal : List Turn :=
  [⟨0, .set ⟨"first"⟩ ⟨none, "1"⟩⟩, ⟨1, .set ⟨"second"⟩ ⟨none, "2"⟩⟩,
    ⟨1, .set ⟨"first"⟩ ⟨none, "a text that does not fit into the store"⟩⟩]

theorem refused_key_is_empty :
    (((new narrow).after refusal).turn ⟨1, .get ⟨"first"⟩⟩).1.answer = .found none ∧
      (((new narrow).after refusal).turn ⟨1, .peek ⟨"second"⟩⟩).1.answer =
        .found (some ⟨none, "2"⟩) ∧
      lastSet? ((new narrow).history refusal) ⟨"second"⟩ = some (⟨none, "2"⟩, .ok ()) := by
  have hfits : ∀ front ∈ refusal.inits,
      (PlainMap.ofHistory ((new narrow).history front)).Fits narrow := by
    decide +kernel
  have hfirst := last_set_is_visible narrow refusal ⟨1, .get ⟨"first"⟩⟩ ⟨"first"⟩ rfl
  have hsecond := last_set_is_visible narrow refusal ⟨1, .peek ⟨"second"⟩⟩ ⟨"second"⟩ rfl
  have hvisible := (hsecond.2.2 rfl fun _ _ _ _ hfront =>
    hfits _ ((List.mem_inits _ _).mpr hfront)).2
  have hheld : (PlainMap.ofHistory ((new narrow).history refusal)).lookup ⟨"second"⟩ =
      some ⟨none, "2"⟩ := by
    decide +kernel
  rw [hheld] at hvisible
  exact ⟨hfirst.2.1 _ _ rfl, hvisible, hsecond.1 _ hvisible⟩

end ClockedMemory

end AnswerCache
