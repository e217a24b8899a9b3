import AnswerCache.Proofs.Store.Account
import Mathlib.Data.List.Infix

/-!
What a write gives up: the entries behind the longest front that leaves room for the new entry,
and no more than those.
-/

namespace AnswerCache.MemoryStore

/-- The longest front of the entries that keeps both bounds. -/
structure IsLongestFront (count limit : Nat) (old kept : List Held) : Prop where
  initial : kept <+: old
  entries : kept.length ≤ count
  memory : bytes kept ≤ limit
  longest : ∀ front, front <+: old → front.length ≤ count → bytes front ≤ limit → front <+: kept

lemma evictFrom_count (limit size memory : Nat) (held : List Held) :
    ∃ cut, held = cut ++ (evictFrom limit size memory held).1 ∧
      (evictFrom limit size memory held).2.2 = cut.length := by
  induction held generalizing memory with
  | nil => exact ⟨[], rfl, rfl⟩
  | cons h rest ih =>
    rw [evictFrom]
    split
    · obtain ⟨cut, hsplit, hcount⟩ := ih (memory - h.size)
      exact ⟨h :: cut, congrArg (h :: ·) hsplit, congrArg (· + 1) hcount⟩
    · exact ⟨[], rfl, rfl⟩

lemma evictFrom_longest {limit size memory : Nat} {held back : List Held}
    (h : memory = bytes held) (hback : back <:+ held) (hfits : bytes back + size ≤ limit) :
    back <:+ (evictFrom limit size memory held).1 := by
  induction held generalizing memory with
  | nil => exact hback
  | cons k rest ih =>
    rw [evictFrom]
    split
    · rename_i hfull
      rcases List.suffix_cons_iff.mp hback with rfl | hrest
      · omega
      · apply ih _ hrest
        rw [h, bytes_cons, Nat.add_sub_cancel_left]
    · exact hback

lemma makeRoom_count (s : MemoryStore) (size : Nat) :
    ∃ cut, s.held = (s.makeRoom size).held ++ cut ∧
      (s.makeRoom size).evictions = s.evictions + cut.length := by
  obtain ⟨cut, hsplit, hcount⟩ := evictFrom_count s.maxMemory size s.memoryUsed s.held.reverse
  refine ⟨cut.reverse, ?_, ?_⟩
  · have hheld := congrArg List.reverse hsplit
    rw [List.reverse_reverse, List.reverse_append] at hheld
    exact hheld
  · rw [List.length_reverse]
    exact congrArg (s.evictions + ·) hcount

namespace Accounted

variable {s : MemoryStore} (hs : s.Accounted)
include hs

lemma makeRoom_longest (size : Nat) {front : List Held} (hfront : front <+: s.held)
    (hfits : bytes front + size ≤ s.maxMemory) : front <+: (s.makeRoom size).held := by
  have hback : front.reverse <:+ s.held.reverse := List.reverse_suffix.mpr hfront
  rw [← bytes_reverse] at hfits
  have hkept := List.reverse_prefix.mpr (evictFrom_longest hs.counted_reverse hback hfits)
  rw [List.reverse_reverse] at hkept
  exact hkept

lemma push_eq (h : Held) :
    s.push h = { s with
      held := h :: s.held.take (s.capacity - 1)
      memoryUsed := h.size + bytes (s.held.take (s.capacity - 1))
      evictions := s.evictions + (s.held.drop (s.capacity - 1)).length } := by
  rcases Nat.lt_or_ge s.size s.capacity with hroom | hfull
  · have hall : s.held.length ≤ s.capacity - 1 := Nat.le_sub_one_of_lt hroom
    rw [push_of_room h hroom, List.take_of_length_le hall, List.drop_of_length_le hall, hs.counted,
      Nat.add_comm]
    rfl
  · obtain ⟨kept, last, hheld⟩ := exists_last_of_full hfull
    have hlength : kept.length = s.capacity - 1 := by
      have hsize := Nat.le_antisymm hs.withinEntries hfull
      rw [size, hheld, List.length_append] at hsize
      exact (Nat.sub_eq_of_eq_add hsize.symm).symm
    have hused : s.memoryUsed - last.size = bytes kept := by
      rw [hs.counted, hheld, bytes_append]
      exact Nat.add_sub_cancel (bytes kept) last.size
    rw [push_of_full h hfull hheld, hused, hheld, ← hlength, List.take_left, List.drop_left,
      Nat.add_comm]
    rfl

lemma remove_eq (key : CacheKey) :
    s.remove key = { s with
      held := without s.held key
      memoryUsed := bytes (without s.held key) } := by
  rw [← held_remove, ← (hs.remove key).counted, MemoryStore.remove]
  split <;> rfl

lemma push_makeRoom {h : Held} (hsize : h.size ≤ s.maxMemory) :
    ∃ kept cut, s.held = kept ++ cut ∧
      IsLongestFront (s.capacity - 1) (s.maxMemory - h.size) s.held kept ∧
      (s.makeRoom h.size).push h = { s with
        held := h :: kept
        memoryUsed := h.size + bytes kept
        evictions := s.evictions + cut.length } := by
  have hroom := hs.makeRoom h.size
  have hcounted := hroom.counted
  have hfits := hs.makeRoom_fits hsize
  obtain ⟨cut, hsplit, hcount⟩ := s.makeRoom_count h.size
  set fitting := (s.makeRoom h.size).held
  have hfront : fitting.take (s.capacity - 1) <+: fitting := List.take_prefix _ _
  refine ⟨fitting.take (s.capacity - 1), fitting.drop (s.capacity - 1) ++ cut, ?_, ?_, ?_⟩
  · rw [← List.append_assoc, List.take_append_drop]
    exact hsplit
  · refine ⟨?_, List.length_take_le _ _, ?_, ?_⟩
    · exact hfront.trans ⟨cut, hsplit.symm⟩
    · have hless := bytes_le_of_sublist hfront.sublist
      omega
    · intro front hinitial hentries hmemory
      -- such a front had its bytes already, so none of it was given up for them
      have hlongest := hs.makeRoom_longest h.size hinitial (by omega)
      exact List.prefix_take_iff.mpr ⟨hlongest, hentries⟩
  · have hevictions : s.evictions + (fitting.drop (s.capacity - 1) ++ cut).length =
        (s.makeRoom h.size).evictions + (fitting.drop (s.capacity - 1)).length := by
      rw [hcount, List.length_append]
      omega
    rw [hroom.push_eq h, hevictions]
    rfl

lemma set_of_fits (now : Nat) (key : CacheKey) {entry : Entry}
    (hsize : entry.size ≤ s.maxMemory) :
    ∃ kept cut, without s.held key = kept ++ cut ∧
      IsLongestFront (s.capacity - 1) (s.maxMemory - entry.size) (without s.held key) kept ∧
      s.set now key entry = (.ok (), { s with
        held := ⟨key, entry, now⟩ :: kept
        memoryUsed := entry.size + bytes kept
        evictions := s.evictions + cut.length }) := by
  have hremoved := hs.remove_eq key
  have hpush := (hs.remove key).push_makeRoom (h := ⟨key, entry, now⟩)
  rw [MemoryStore.set]
  rw [hremoved] at hpush ⊢
  obtain ⟨kept, cut, hsplit, hlongest, hstate⟩ := hpush hsize
  refine ⟨kept, cut, hsplit, hlongest, ?_⟩
  exact (if_neg (Nat.not_lt.mpr hsize)).trans (congrArg (Prod.mk _) hstate)

lemma set_of_tooLarge (now : Nat) (key : CacheKey) {entry : Entry}
    (hsize : s.maxMemory < entry.size) :
    s.set now key entry = (.error tooLarge, { s with
      held := without s.held key
      memoryUsed := bytes (without s.held key)
      rejected := s.rejected + 1 }) := by
  rw [MemoryStore.set, hs.remove_eq key]
  exact if_pos hsize

end Accounted

end AnswerCache.MemoryStore
