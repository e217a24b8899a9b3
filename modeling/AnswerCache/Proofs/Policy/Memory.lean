import AnswerCache.Proofs.Policy.Calls
import AnswerCache.Proofs.Store.Memory

namespace AnswerCache

lemma ClockedMemory.within_eq (limit : Nat) : store.within limit = store.toStore := by
  have hget : ∀ c : ClockedMemory, SlowStore.inTime limit (store.getDelay c) = true := by
    intro c
    simp [SlowStore.inTime, store]
  have hset : ∀ c : ClockedMemory, SlowStore.inTime limit (store.setDelay c) = true := by
    intro c
    simp [SlowStore.inTime, store]
  simp only [SlowStore.within, hget, hset, if_true]

namespace Policy

def overMemory (config : CacheConfig) (canonicalizer : Canonicalizer) : Policy ClockedMemory :=
  ⟨config, canonicalizer, ClockedMemory.store.toStore⟩

variable {config : CacheConfig} {canonicalizer : Canonicalizer} {service : SignatureService}
  {s : PolicyState ClockedMemory}

lemma held_of_value {q : Query} {value : Json}
    (h : ((overMemory config canonicalizer).lookup service s q).1.value = some value) :
    ∃ k signature, k ∈ s.store.memory.held ∧ canonicalizer.keyOf q = .ok k.key ∧
      service q = some signature ∧ k.entry.signature = some signature ∧
      Json.parse? k.entry.value = some value := by
  obtain ⟨key, entry, signature, hkey, hget, hservice, hsignature, hvalue⟩ :=
    lookup_value _ service s h
  obtain ⟨k, hk, rfl, rfl⟩ := MemoryStore.get_eq_some (Except.ok.inj hget)
  exact ⟨k, signature, hk, hkey, hservice, hsignature, hvalue⟩

lemma mem_held_of_lookup {q : Query} {k : Held}
    (h : k ∈ ((overMemory config canonicalizer).lookup service s q).2.store.memory.held) :
    k ∈ s.store.memory.held := by
  rcases (overMemory config canonicalizer).lookup_store service s q with hs | ⟨key, hs⟩
  · rwa [hs] at h
  · rw [hs] at h
    exact MemoryStore.mem_held_of_get h

lemma mem_held_of_put {key : CacheKey} {entry : Entry} {k : Held}
    (h : k ∈ ((overMemory config canonicalizer).put s key entry).2.store.memory.held) :
    (k.key = key ∧ k.entry = entry ∧
        ((overMemory config canonicalizer).put s key entry).1.isStored = true) ∨
      (k ∈ s.store.memory.held ∧ k.key ≠ key) := by
  rw [put_store] at h
  rcases MemoryStore.mem_held_of_set h with ⟨rfl, hset⟩ | hold
  · have hstored := (put_stored (overMemory config canonicalizer) s).mpr ⟨hset, rfl, rfl⟩
    rw [hstored]
    exact Or.inl ⟨rfl, rfl, rfl⟩
  · exact Or.inr hold

end Policy

end AnswerCache
