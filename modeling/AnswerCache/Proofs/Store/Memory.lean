import AnswerCache.Store.Memory
import Mathlib.Data.List.Basic

namespace AnswerCache

namespace MemoryStore

lemma mem_without {held : List Held} {key : CacheKey} {h : Held} :
    h ∈ without held key ↔ h ∈ held ∧ h.key ≠ key := by
  simp [without]

lemma find?_eq_some {s : MemoryStore} {key : CacheKey} {h : Held} (hf : s.find? key = some h) :
    h ∈ s.held ∧ h.key = key := by
  refine ⟨List.mem_of_find?_eq_some hf, ?_⟩
  simpa using List.find?_some hf

lemma without_eq_self {held : List Held} {key : CacheKey} (h : key ∉ held.map Held.key) :
    without held key = held := by
  apply List.filter_eq_self.mpr
  intro k hk
  have hne : k.key ≠ key := fun he => h (he ▸ List.mem_map_of_mem hk)
  simpa using hne

lemma without_cons_self {h : Held} {held : List Held} (hnew : h.key ∉ held.map Held.key) :
    without (h :: held) h.key = held := by
  rw [without, List.filter_cons_of_neg (by simp)]
  exact without_eq_self hnew

lemma without_cons_ne {h : Held} {key : CacheKey} (hne : h.key ≠ key) (held : List Held) :
    without (h :: held) key = h :: without held key :=
  List.filter_cons_of_pos (by simpa using hne)

lemma notMem_keys_of_find?_none {s : MemoryStore} {key : CacheKey} (hf : s.find? key = none) :
    key ∉ s.held.map Held.key := by
  intro hmem
  obtain ⟨h, hh, hkey⟩ := List.mem_map.mp hmem
  have hmiss := List.find?_eq_none.mp hf h hh
  simp [hkey] at hmiss

lemma held_remove (s : MemoryStore) (key : CacheKey) :
    (s.remove key).held = without s.held key := by
  rw [remove]
  split
  · rfl
  · rename_i hnone
    exact (without_eq_self (notMem_keys_of_find?_none hnone)).symm

lemma mem_held_remove {s : MemoryStore} {key : CacheKey} {h : Held} :
    h ∈ (s.remove key).held ↔ h ∈ s.held ∧ h.key ≠ key := by
  rw [held_remove]
  exact mem_without

lemma held_expire (s : MemoryStore) (key : CacheKey) : (s.expire key).held = (s.remove key).held :=
  rfl

lemma get_eq_some {s : MemoryStore} {now : Nat} {key : CacheKey} {e : Entry}
    (h : (s.get now key).1 = some e) : ∃ k ∈ s.held, k.key = key ∧ k.entry = e := by
  rw [get] at h
  split at h
  · rename_i k hk
    split at h
    · contradiction
    · obtain ⟨hmem, hkey⟩ := find?_eq_some hk
      exact ⟨k, hmem, hkey, Option.some.inj h⟩
  · contradiction

lemma mem_held_of_get {s : MemoryStore} {now : Nat} {key : CacheKey} {h : Held}
    (hmem : h ∈ (s.get now key).2.held) : h ∈ s.held := by
  rw [get] at hmem
  split at hmem
  · rename_i k hk
    split at hmem
    · rw [held_expire] at hmem
      exact (mem_held_remove.mp hmem).1
    · rcases List.mem_cons.mp hmem with rfl | hmem
      · exact (find?_eq_some hk).1
      · exact (mem_without.mp hmem).1
  · exact hmem

lemma mem_held_of_expireAll {s : MemoryStore} {stale : List Held} {h : Held}
    (hmem : h ∈ (stale.foldl (fun s k => s.expire k.key) s).held) : h ∈ s.held := by
  induction stale generalizing s with
  | nil => exact hmem
  | cons k rest ih =>
    have hkept : h ∈ (s.expire k.key).held := ih hmem
    exact (mem_held_remove.mp hkept).1

lemma get_eq_peek (s : MemoryStore) (now : Nat) (key : CacheKey) :
    (s.get now key).1 = s.peek now key := by
  rw [get, peek]
  split
  · split <;> rfl
  · rfl

lemma get_of_missing {s : MemoryStore} (now : Nat) {key : CacheKey} (hf : s.find? key = none) :
    s.get now key = (none, s) := by
  simp only [get, hf]

lemma get_of_fresh {s : MemoryStore} {now : Nat} {key : CacheKey} {h : Held}
    (hf : s.find? key = some h) (hfresh : s.isExpired now h = false) :
    s.get now key = (some h.entry, { s with held := h :: without s.held key }) := by
  simp only [get, hf, hfresh, Bool.false_eq_true, if_false]

lemma evictFrom_suffix (limit size memory : Nat) (held : List Held) :
    (evictFrom limit size memory held).1 <:+ held := by
  induction held generalizing memory with
  | nil => exact List.nil_suffix
  | cons h rest ih =>
    rw [evictFrom]
    split
    · exact (ih _).trans (List.suffix_cons h rest)
    · exact List.suffix_rfl

lemma held_makeRoom_initial (s : MemoryStore) (size : Nat) : (s.makeRoom size).held <+: s.held := by
  have h := evictFrom_suffix s.maxMemory size s.memoryUsed s.held.reverse
  rw [← List.reverse_prefix, List.reverse_reverse] at h
  exact h

lemma mem_held_push {s : MemoryStore} {k h : Held} (hmem : h ∈ (s.push k).held) :
    h = k ∨ h ∈ s.held := by
  rw [push] at hmem
  split at hmem
  · split at hmem
    · exact (List.mem_cons.mp hmem).imp id fun h => List.dropLast_subset _ h
    · exact List.mem_cons.mp hmem
  · exact Or.inl (List.mem_singleton.mp hmem)

theorem mem_held_of_set {s : MemoryStore} {now : Nat} {key : CacheKey} {entry : Entry} {h : Held}
    (hmem : h ∈ (s.set now key entry).2.held) :
    (h = ⟨key, entry, now⟩ ∧ (s.set now key entry).1 = .ok ()) ∨ (h ∈ s.held ∧ h.key ≠ key) := by
  rw [set] at hmem ⊢
  split at hmem
  · exact Or.inr (mem_held_remove.mp hmem)
  · rename_i hsize
    rcases mem_held_push hmem with rfl | hmem
    · left
      simp [hsize]
    · right
      exact mem_held_remove.mp ((held_makeRoom_initial _ _).subset hmem)

lemma config_remove (s : MemoryStore) (key : CacheKey) : (s.remove key).config = s.config := by
  rw [remove]
  split <;> rfl

lemma config_push (s : MemoryStore) (h : Held) : (s.push h).config = s.config := by
  rw [push]
  split
  · split <;> rfl
  · rfl

lemma find?_push (s : MemoryStore) (h : Held) : (s.push h).find? h.key = some h := by
  rw [push]
  split
  · split <;> simp [find?]
  · simp [find?]

lemma config_set (s : MemoryStore) (now : Nat) (key : CacheKey) (entry : Entry) :
    (s.set now key entry).2.config = s.config := by
  rw [set]
  split
  · exact s.config_remove key
  · exact (config_push _ _).trans (s.config_remove key)

lemma config_get (s : MemoryStore) (now : Nat) (key : CacheKey) :
    (s.get now key).2.config = s.config := by
  rw [get]
  split
  · split
    · exact s.config_remove key
    · rfl
  · rfl

lemma config_expireAll (s : MemoryStore) (stale : List Held) :
    (stale.foldl (fun s h => s.expire h.key) s).config = s.config := by
  induction stale generalizing s with
  | nil => rfl
  | cons h rest ih => exact (ih (s.expire h.key)).trans (s.config_remove h.key)

lemma find?_set {s : MemoryStore} {now : Nat} {key : CacheKey} {entry : Entry}
    (h : (s.set now key entry).1 = .ok ()) :
    (s.set now key entry).2.find? key = some ⟨key, entry, now⟩ := by
  rw [set] at h ⊢
  split at h
  · contradiction
  · rename_i hfits
    rw [if_neg hfits]
    exact find?_push _ ⟨key, entry, now⟩

theorem get_set {s : MemoryStore} {now : Nat} {key : CacheKey} {entry : Entry}
    (h : (s.set now key entry).1 = .ok ()) (later : Nat) :
    ((s.set now key entry).2.get later key).1 =
      if (s.set now key entry).2.isExpired later ⟨key, entry, now⟩ then none else some entry := by
  rw [get, find?_set h]
  dsimp only
  split <;> rfl

lemma isExpired_of_ttl {s : MemoryStore} (h : s.config.ttlNanos = none) (now : Nat) (k : Held) :
    s.isExpired now k = false := by
  rw [isExpired, h]

lemma expireStale_of_ttl {s : MemoryStore} (httl : s.config.ttlNanos = none) (now : Nat) :
    (s.expireStale now).2 = s := by
  have hstale : s.held.filter (s.isExpired now) = [] :=
    List.filter_eq_nil_iff.mpr fun h _ => by simp [isExpired_of_ttl httl]
  rw [expireStale, hstale]
  rfl

lemma peek_of_ttl {s : MemoryStore} (httl : s.config.ttlNanos = none) (now : Nat)
    (key : CacheKey) : s.peek now key = (s.find? key).map Held.entry := by
  rw [peek]
  split
  · rename_i h hf
    rw [isExpired_of_ttl httl, hf]
    rfl
  · rename_i hf
    rw [hf]
    rfl

end MemoryStore

/-- After a pause, what is found under a key is what was last set there. -/
def Store.LastWriterWins {σ : Type} (store : Store σ) (pause : σ → σ) : Prop :=
  ∀ s key entry found, (store.set s key entry).1 = .ok () →
    (store.get (pause (store.set s key entry).2) key).1 = .ok (some found) → found = entry

lemma ClockedMemory.lastWriterWins (nanos : Nat) :
    store.toStore.LastWriterWins fun memory => memory.pass nanos := by
  intro s key entry found hset hget
  have hkept := MemoryStore.get_set hset (s.now + nanos)
  have hfound := (hkept.symm.trans (Except.ok.inj hget))
  split at hfound
  · contradiction
  · exact (Option.some.inj hfound).symm

end AnswerCache
