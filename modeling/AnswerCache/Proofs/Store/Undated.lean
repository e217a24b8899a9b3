import AnswerCache.Proofs.Store.Memory

namespace AnswerCache

def Held.undated (h : Held) : Held :=
  { h with storedAt := 0 }

namespace MemoryStore

def undated (s : MemoryStore) : MemoryStore :=
  { s with held := s.held.map Held.undated }

lemma find?_undated (s : MemoryStore) (key : CacheKey) :
    s.undated.find? key = (s.find? key).map Held.undated :=
  List.find?_map

lemma without_undated (held : List Held) (key : CacheKey) :
    without (held.map Held.undated) key = (without held key).map Held.undated :=
  List.filter_map

lemma remove_undated (s : MemoryStore) (key : CacheKey) :
    s.undated.remove key = (s.remove key).undated := by
  rw [remove, remove, find?_undated]
  cases s.find? key with
  | none => rfl
  | some h =>
    have hheld := without_undated s.held key
    simp only [Option.map_some, undated, hheld]
    rfl

lemma get_undated {s : MemoryStore} (httl : s.config.ttlNanos = none) (now : Nat)
    (key : CacheKey) :
    s.undated.get 0 key = ((s.get now key).1, (s.get now key).2.undated) := by
  have hundated : s.undated.config.ttlNanos = none := httl
  rw [get, get, find?_undated]
  cases s.find? key with
  | none => rfl
  | some h =>
    have hheld := without_undated s.held key
    simp only [Option.map_some, isExpired_of_ttl httl, isExpired_of_ttl hundated,
      Bool.false_eq_true, if_false]
    simp only [undated, List.map_cons, hheld]
    rfl

lemma evictFrom_undated (limit size memory : Nat) (held : List Held) :
    evictFrom limit size memory (held.map Held.undated) =
      ((evictFrom limit size memory held).1.map Held.undated,
        (evictFrom limit size memory held).2) := by
  induction held generalizing memory with
  | nil => rfl
  | cons h rest ih =>
    have hsize : h.undated.size = h.size := rfl
    rw [List.map_cons, evictFrom, evictFrom, hsize]
    split
    · rw [ih]
    · rfl

lemma makeRoom_undated (s : MemoryStore) (size : Nat) :
    s.undated.makeRoom size = (s.makeRoom size).undated := by
  have h := evictFrom_undated s.maxMemory size s.memoryUsed s.held.reverse
  rw [List.map_reverse] at h
  have hlimit : s.undated.maxMemory = s.maxMemory := rfl
  simp only [makeRoom, hlimit]
  simp only [undated, h, List.map_reverse]

lemma push_undated (s : MemoryStore) (h : Held) :
    s.undated.push h.undated = (s.push h).undated := by
  have hcapacity : s.undated.capacity = s.capacity := rfl
  have hsize : s.undated.size = s.size := by simp [size, undated]
  have hlast : s.undated.held.getLast? = s.held.getLast?.map Held.undated := List.getLast?_map
  rw [push, push, hlast, hcapacity, hsize]
  cases s.held.getLast? with
  | none => rfl
  | some last =>
    simp only [Option.map_some]
    split
    · simp only [undated, List.map_cons, List.map_dropLast]
      rfl
    · rfl

lemma set_undated (s : MemoryStore) (now : Nat) (key : CacheKey) (entry : Entry) :
    s.undated.set 0 key entry = ((s.set now key entry).1, (s.set now key entry).2.undated) := by
  have hlimit : (s.remove key).undated.maxMemory = (s.remove key).maxMemory := rfl
  simp only [set, remove_undated, hlimit]
  split
  · rfl
  · rw [makeRoom_undated]
    exact congrArg (Prod.mk _) (push_undated _ ⟨key, entry, now⟩)

end MemoryStore

end AnswerCache
