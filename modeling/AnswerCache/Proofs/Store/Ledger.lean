import AnswerCache.Proofs.Store.Expiry

/-!
The ledger of the store in memory: an entry that a write brought in is held still, or it was given
up, or it outlived its time, or it made way for a later write under its key, and is counted as one
of these only.
-/

namespace AnswerCache

namespace MemoryStore

def booked (s : MemoryStore) : Nat :=
  s.size + s.evictions + s.expirations

structure Booked (s t : MemoryStore) (stored refused replaced : Nat) : Prop where
  entries : s.booked + stored = t.booked + replaced
  rejected : t.rejected = s.rejected + refused

lemma Booked.refl (s : MemoryStore) : Booked s s 0 0 0 :=
  ⟨rfl, rfl⟩

lemma Booked.trans {s t u : MemoryStore} {stored stored' refused refused' replaced replaced' : Nat}
    (first : Booked s t stored refused replaced) (second : Booked t u stored' refused' replaced') :
    Booked s u (stored' + stored) (refused' + refused) (replaced' + replaced) := by
  obtain ⟨hentries, hrejected⟩ := first
  obtain ⟨hentries', hrejected'⟩ := second
  exact ⟨by omega, by omega⟩

namespace Accounted

variable {s : MemoryStore} (hs : s.Accounted)
include hs

lemma length_without_of_found {key : CacheKey} {h : Held} (hf : s.find? key = some h) :
    (without s.held key).length + 1 = s.size :=
  (hs.perm_of_found hf).length_eq.symm

lemma length_without (key : CacheKey) :
    (without s.held key).length + (if (s.find? key).isSome then 1 else 0) = s.size := by
  cases hf : s.find? key with
  | none => exact congrArg List.length (without_eq_self (notMem_keys_of_find?_none hf))
  | some h => exact hs.length_without_of_found hf

lemma booked_get (now : Nat) (key : CacheKey) : Booked s (s.get now key).2 0 0 0 := by
  cases hf : s.find? key with
  | none =>
    rw [get_of_missing now hf]
    exact .refl s
  | some h =>
    have hlength := hs.length_without_of_found hf
    cases hexpired : s.isExpired now h with
    | false =>
      rw [get_of_fresh hf hexpired]
      exact ⟨congrArg (· + s.evictions + s.expirations) hlength.symm, rfl⟩
    | true =>
      rw [hs.get_of_expired hf hexpired]
      refine ⟨?_, rfl⟩
      simp only [booked, size] at hlength ⊢
      omega

lemma booked_expireStale (now : Nat) : Booked s (s.expireStale now).2 0 0 0 := by
  have hlength := List.length_eq_length_filter_add (l := s.held) (s.isExpired now)
  rw [hs.expireStale_eq, List.countP_eq_length_filter]
  refine ⟨?_, rfl⟩
  simp only [booked, size] at hlength ⊢
  omega

lemma booked_set_of_fits (now : Nat) (key : CacheKey) {entry : Entry}
    (hsize : entry.size ≤ s.maxMemory) :
    Booked s (s.set now key entry).2 1 0 (if (s.find? key).isSome then 1 else 0) := by
  have hlength := hs.length_without key
  obtain ⟨kept, cut, hsplit, -, hset⟩ := hs.set_of_fits now key hsize
  rw [hset]
  rw [hsplit, List.length_append] at hlength
  refine ⟨?_, rfl⟩
  simp only [booked, size, List.length_cons] at hlength ⊢
  omega

lemma booked_set_of_tooLarge (now : Nat) (key : CacheKey) {entry : Entry}
    (hsize : s.maxMemory < entry.size) :
    Booked s (s.set now key entry).2 0 1 (if (s.find? key).isSome then 1 else 0) := by
  have hlength := hs.length_without key
  rw [hs.set_of_tooLarge now key hsize]
  refine ⟨?_, rfl⟩
  simp only [booked, size] at hlength ⊢
  omega

end Accounted

end MemoryStore

namespace ClockedMemory

open MemoryStore

def Event.stores : Event → Bool
  | ⟨.set _ _, .wrote (.ok ())⟩ => true
  | _ => false

def Event.refuses : Event → Bool
  | ⟨.set _ _, .wrote (.error (.unavailable _))⟩ => true
  | _ => false

def replaces (c : ClockedMemory) : Call → Bool
  | .set key _ => (c.memory.find? key).isSome
  | _ => false

def replacements (c : ClockedMemory) : List Turn → Nat
  | [] => 0
  | t :: rest => (c.turn t).2.replacements rest + if c.replaces t.call then 1 else 0

lemma booked_turn {c : ClockedMemory} (hc : c.memory.Accounted) (t : Turn) :
    Booked c.memory (c.turn t).2.memory (if (c.turn t).1.stores then 1 else 0)
      (if (c.turn t).1.refuses then 1 else 0) (if c.replaces t.call then 1 else 0) := by
  obtain ⟨nanos, call⟩ := t
  cases call with
  | get key => exact hc.booked_get (c.now + nanos) key
  | set key entry =>
    -- The entry under the key goes in either case, before it is known whether the new one fits.
    rcases Nat.lt_or_ge c.memory.maxMemory entry.size with hlarge | hsmall
    · have hbooked := hc.booked_set_of_tooLarge (c.now + nanos) key hlarge
      have hset := hc.set_of_tooLarge (c.now + nanos) key hlarge
      rw [hset] at hbooked
      rw [turn_writes hset]
      exact hbooked
    · have hbooked := hc.booked_set_of_fits (c.now + nanos) key hsmall
      obtain ⟨kept, cut, -, -, hset⟩ := hc.set_of_fits (c.now + nanos) key hsmall
      rw [hset] at hbooked
      rw [turn_writes hset]
      exact hbooked
  | peek key => exact .refl c.memory
  | expireStale => exact hc.booked_expireStale (c.now + nanos)

lemma booked_after {c : ClockedMemory} (hc : c.memory.Accounted) (turns : List Turn) :
    Booked c.memory (c.after turns).memory ((c.history turns).countP Event.stores)
      ((c.history turns).countP Event.refuses) (c.replacements turns) := by
  induction turns generalizing c with
  | nil => exact .refl c.memory
  | cons first rest ih =>
    rw [history, List.countP_cons, List.countP_cons]
    exact (booked_turn hc first).trans (ih (accounted_turn c first hc))

/-- In every run the writes that were taken are the entries that are held, given up or outlived, and
those that a later write under their key took the place of or took out. The writes that were refused
are counted apart. -/
theorem ledger_balances (config : StoreConfig) (turns : List Turn) :
    let s := ((new config).after turns).memory
    let past := (new config).history turns
    past.countP Event.stores =
        s.size + s.evictions + s.expirations + (new config).replacements turns ∧
      s.rejected = past.countP Event.refuses := by
  intro s past
  have hnew : (new config).memory.Accounted := accounted_new config
  obtain ⟨hentries, hrejected⟩ := booked_after hnew turns
  exact ⟨(Nat.zero_add _).symm.trans hentries, hrejected.trans (Nat.zero_add _)⟩

end ClockedMemory

end AnswerCache
