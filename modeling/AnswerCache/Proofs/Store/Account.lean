import AnswerCache.Proofs.Store.Memory
import AnswerCache.Proofs.Store.Runs
import Mathlib.Algebra.GroupWithZero.Nat
import Mathlib.Algebra.Order.BigOperators.Group.List
import Mathlib.Algebra.Order.Group.Nat

namespace AnswerCache

namespace MemoryStore

def bytes (held : List Held) : Nat :=
  (held.map Held.size).sum

structure Accounted (s : MemoryStore) : Prop where
  distinct : (s.held.map Held.key).Nodup
  counted : s.memoryUsed = bytes s.held
  withinMemory : s.memoryUsed ≤ s.maxMemory
  withinEntries : s.size ≤ s.capacity

def RemovalExact (s : MemoryStore) (key : CacheKey) : Prop :=
  ∀ h, s.find? key = some h → h.size ≤ s.memoryUsed

def EvictionsExact (limit size memory : Nat) : List Held → Prop
  | [] => True
  | h :: rest =>
    limit < memory + size → h.size ≤ memory ∧ EvictionsExact limit size (memory - h.size) rest

def PushExact (s : MemoryStore) : Prop :=
  s.capacity ≤ s.size → ∀ last, s.held.getLast? = some last → last.size ≤ s.memoryUsed

def Exact (s : MemoryStore) : ClockedMemory.Call → Prop
  | .get key => s.RemovalExact key
  | .set key entry =>
    s.RemovalExact key ∧
      EvictionsExact (s.remove key).maxMemory entry.size (s.remove key).memoryUsed
        (s.remove key).held.reverse ∧
      ((s.remove key).makeRoom entry.size).PushExact
  | .peek _ => True
  | .expireStale =>
    ∀ (earlier : List Held) key, (earlier.foldl (fun s h => s.expire h.key) s).RemovalExact key

lemma bytes_cons (h : Held) (held : List Held) : bytes (h :: held) = h.size + bytes held :=
  List.sum_cons

lemma bytes_append (left right : List Held) : bytes (left ++ right) = bytes left + bytes right := by
  rw [bytes, List.map_append, List.sum_append]
  rfl

lemma bytes_perm {left right : List Held} (h : left.Perm right) : bytes left = bytes right :=
  (h.map Held.size).sum_eq

lemma bytes_reverse (held : List Held) : bytes held.reverse = bytes held :=
  bytes_perm (List.reverse_perm held)

lemma bytes_le_of_sublist {left right : List Held} (h : left.Sublist right) :
    bytes left ≤ bytes right :=
  (h.map Held.size).sum_le_sum fun _ _ => Nat.zero_le _

lemma perm_of_find? {held : List Held} {key : CacheKey} {h : Held}
    (hdistinct : (held.map Held.key).Nodup) (hf : held.find? (fun h => h.key == key) = some h) :
    held.Perm (h :: without held key) := by
  induction held with
  | nil => contradiction
  | cons k rest ih =>
    rw [List.map_cons, List.nodup_cons] at hdistinct
    obtain ⟨hnew, hrest⟩ := hdistinct
    rw [List.find?_cons] at hf
    by_cases hk : k.key = key
    · subst hk
      rw [beq_self_eq_true] at hf
      obtain rfl := Option.some.inj hf
      rw [without_cons_self hnew]
    · rw [beq_false_of_ne hk] at hf
      rw [without_cons_ne hk]
      exact ((ih hrest hf).cons k).trans (List.Perm.swap h k _)

lemma accounted_new (config : StoreConfig) : (new config).Accounted :=
  ⟨List.nodup_nil, rfl, Nat.zero_le _, Nat.zero_le _⟩

lemma evictFrom_counted {limit size memory : Nat} {held : List Held} (h : memory = bytes held) :
    (evictFrom limit size memory held).2.1 = bytes (evictFrom limit size memory held).1 := by
  induction held generalizing memory with
  | nil => exact h
  | cons k rest ih =>
    rw [evictFrom]
    split
    · apply ih
      rw [h, bytes_cons, Nat.add_sub_cancel_left]
    · exact h

lemma evictFrom_fits {limit size memory : Nat} {held : List Held} (h : memory = bytes held)
    (hsize : size ≤ limit) : (evictFrom limit size memory held).2.1 + size ≤ limit := by
  induction held generalizing memory with
  | nil =>
    subst h
    exact (Nat.zero_add size).trans_le hsize
  | cons k rest ih =>
    rw [evictFrom]
    split
    · apply ih
      rw [h, bytes_cons, Nat.add_sub_cancel_left]
    · rename_i hroom
      exact Nat.not_lt.mp hroom

lemma evictionsExact_of_counted {limit size memory : Nat} {held : List Held}
    (h : memory = bytes held) : EvictionsExact limit size memory held := by
  induction held generalizing memory with
  | nil => trivial
  | cons k rest ih =>
    rw [bytes_cons] at h
    exact fun _ => ⟨by omega, ih (by omega)⟩

lemma push_of_room {s : MemoryStore} (h : Held) (hroom : s.size < s.capacity) :
    s.push h = { s with held := h :: s.held, memoryUsed := s.memoryUsed + h.size } := by
  rw [push]
  split
  · exact if_neg (Nat.not_le.mpr hroom)
  · rename_i hnone
    rw [List.getLast?_eq_none_iff.mp hnone]

lemma push_of_full {s : MemoryStore} (h : Held) (hfull : s.capacity ≤ s.size) {kept : List Held}
    {last : Held} (hheld : s.held = kept ++ [last]) :
    s.push h = { s with
      held := h :: kept
      memoryUsed := s.memoryUsed - last.size + h.size
      evictions := s.evictions + 1 } := by
  simp only [push, hheld, List.getLast?_concat, hfull, if_true, List.dropLast_concat]

lemma exists_last_of_full {s : MemoryStore} (hfull : s.capacity ≤ s.size) :
    ∃ kept last, s.held = kept ++ [last] := by
  have hpos : 0 < s.size := Nat.lt_of_lt_of_le (Nat.le_max_right _ 1) hfull
  exact (List.eq_nil_or_concat' s.held).resolve_left (List.ne_nil_of_length_pos hpos)

lemma notMem_keys_makeRoom_remove (s : MemoryStore) (key : CacheKey) (size : Nat) :
    key ∉ ((s.remove key).makeRoom size).held.map Held.key := by
  intro hmem
  obtain ⟨h, hh, hkey⟩ := List.mem_map.mp hmem
  have hremoved := ((s.remove key).held_makeRoom_initial size).subset hh
  exact (mem_held_remove.mp hremoved).2 hkey

namespace Accounted

variable {s : MemoryStore} (hs : s.Accounted)
include hs

lemma counted_reverse : s.memoryUsed = bytes s.held.reverse :=
  hs.counted.trans (bytes_reverse s.held).symm

lemma size_le_memoryUsed {h : Held} (hmem : h ∈ s.held) : h.size ≤ s.memoryUsed := by
  have hle := bytes_le_of_sublist (List.singleton_sublist.mpr hmem)
  rw [bytes_cons] at hle
  exact hs.counted ▸ hle

lemma of_perm {t : MemoryStore} (hperm : t.held.Perm s.held) (hused : t.memoryUsed = s.memoryUsed)
    (hconfig : t.config = s.config) : t.Accounted := by
  refine ⟨?_, ?_, ?_, ?_⟩
  · exact ((hperm.map Held.key).nodup_iff).mpr hs.distinct
  · rw [hused, hs.counted, bytes_perm hperm]
  · rw [hused, maxMemory, hconfig]
    exact hs.withinMemory
  · rw [size, hperm.length_eq, capacity, hconfig]
    exact hs.withinEntries

lemma perm_of_found {key : CacheKey} {h : Held} (hf : s.find? key = some h) :
    s.held.Perm (h :: without s.held key) :=
  perm_of_find? hs.distinct hf

lemma remove (key : CacheKey) : (s.remove key).Accounted := by
  rw [MemoryStore.remove]
  split
  · rename_i h hf
    have hperm := hs.perm_of_found hf
    have hbytes := hs.counted.trans ((bytes_perm hperm).trans (bytes_cons h _))
    refine ⟨?_, ?_, ?_, ?_⟩
    · exact (List.filter_sublist.map Held.key).nodup hs.distinct
    · simp only [hbytes, Nat.add_sub_cancel_left]
    · exact Nat.le_trans (Nat.sub_le _ _) hs.withinMemory
    · exact Nat.le_trans (List.length_filter_le _ _) hs.withinEntries
  · exact hs

lemma expire (key : CacheKey) : (s.expire key).Accounted :=
  ⟨(hs.remove key).distinct, (hs.remove key).counted, (hs.remove key).withinMemory,
    (hs.remove key).withinEntries⟩

lemma get (now : Nat) (key : CacheKey) : (s.get now key).2.Accounted := by
  rw [MemoryStore.get]
  split
  · rename_i h hf
    split
    · exact hs.expire key
    · exact hs.of_perm (hs.perm_of_found hf).symm rfl rfl
  · exact hs

lemma expireAll (stale : List Held) :
    (stale.foldl (fun s h => s.expire h.key) s).Accounted := by
  induction stale generalizing s with
  | nil => exact hs
  | cons h rest ih => exact ih (hs.expire h.key)

lemma memoryUsed_makeRoom (size : Nat) :
    (s.makeRoom size).memoryUsed = bytes (s.makeRoom size).held :=
  (evictFrom_counted hs.counted_reverse).trans (bytes_reverse _).symm

lemma makeRoom (size : Nat) : (s.makeRoom size).Accounted := by
  have hkept := (s.held_makeRoom_initial size).sublist
  refine ⟨?_, hs.memoryUsed_makeRoom size, ?_, ?_⟩
  · exact (hkept.map Held.key).nodup hs.distinct
  · have hbytes := bytes_le_of_sublist hkept
    rw [← hs.memoryUsed_makeRoom, ← hs.counted] at hbytes
    exact Nat.le_trans hbytes hs.withinMemory
  · exact Nat.le_trans hkept.length_le hs.withinEntries

lemma makeRoom_fits {size : Nat} (hsize : size ≤ s.maxMemory) :
    (s.makeRoom size).memoryUsed + size ≤ s.maxMemory :=
  evictFrom_fits hs.counted_reverse hsize

lemma push {h : Held} (hnew : h.key ∉ s.held.map Held.key)
    (hfits : s.memoryUsed + h.size ≤ s.maxMemory) : (s.push h).Accounted := by
  have hdistinct : ((h :: s.held).map Held.key).Nodup := List.nodup_cons.mpr ⟨hnew, hs.distinct⟩
  rcases Nat.lt_or_ge s.size s.capacity with hroom | hfull
  · rw [push_of_room h hroom]
    refine ⟨hdistinct, ?_, hfits, hroom⟩
    simp only [bytes_cons, hs.counted, Nat.add_comm]
  · obtain ⟨kept, last, hheld⟩ := exists_last_of_full hfull
    rw [push_of_full h hfull hheld]
    have hcounted : s.memoryUsed = bytes kept + last.size := by
      rw [hs.counted, hheld, bytes_append]
      rfl
    rw [hheld] at hdistinct
    refine ⟨?_, ?_, ?_, ?_⟩
    · exact (((List.sublist_append_left kept [last]).cons_cons h).map Held.key).nodup hdistinct
    · simp only [bytes_cons]
      omega
    · have hle : s.memoryUsed - last.size + h.size ≤ s.memoryUsed + h.size := by omega
      exact Nat.le_trans hle hfits
    · have hlength := hs.withinEntries
      rw [size, hheld, List.length_append] at hlength
      exact hlength

lemma set (now : Nat) (key : CacheKey) (entry : Entry) : (s.set now key entry).2.Accounted := by
  have hremoved := hs.remove key
  rw [MemoryStore.set]
  split
  · exact ⟨hremoved.distinct, hremoved.counted, hremoved.withinMemory, hremoved.withinEntries⟩
  · rename_i hfits
    apply (hremoved.makeRoom entry.size).push
    · exact notMem_keys_makeRoom_remove s key entry.size
    · exact hremoved.makeRoom_fits (Nat.not_lt.mp hfits)

lemma removalExact (key : CacheKey) : s.RemovalExact key :=
  fun _ hf => hs.size_le_memoryUsed (find?_eq_some hf).1

lemma pushExact : s.PushExact :=
  fun _ _ hlast => hs.size_le_memoryUsed (List.mem_of_getLast? hlast)

lemma exact (call : ClockedMemory.Call) : s.Exact call := by
  cases call with
  | get key => exact hs.removalExact key
  | set key entry =>
    have hremoved := hs.remove key
    exact ⟨hs.removalExact key, evictionsExact_of_counted hremoved.counted_reverse,
      (hremoved.makeRoom entry.size).pushExact⟩
  | peek key => trivial
  | expireStale => exact fun earlier key => (hs.expireAll earlier).removalExact key

end Accounted

end MemoryStore

namespace ClockedMemory

open MemoryStore

lemma accounted_turn (c : ClockedMemory) (t : Turn) (hc : c.memory.Accounted) :
    (c.turn t).2.memory.Accounted := by
  obtain ⟨nanos, call⟩ := t
  cases call with
  | get key => exact hc.get _ key
  | set key entry => exact hc.set _ key entry
  | peek key => exact hc
  | expireStale => exact hc.expireAll _

lemma accounted_memory (config : StoreConfig) (turns : List Turn) :
    ((new config).after turns).memory.Accounted :=
  after_preserves (P := fun c => c.memory.Accounted) accounted_turn (accounted_new config) turns

/-- After every run the account is right, and whatever call comes next, no subtraction from the
bytes counted is cut off at zero. -/
theorem accounted_after (config : StoreConfig) (turns : List Turn) :
    ((new config).after turns).memory.config = config ∧
      ((new config).after turns).memory.Accounted ∧
      ∀ call, ((new config).after turns).memory.Exact call :=
  ⟨config_after (new config) turns, accounted_memory config turns,
    (accounted_memory config turns).exact⟩

end ClockedMemory

end AnswerCache
