import AnswerCache.Dictionary
import Mathlib.Data.List.Basic
import Mathlib.Logic.Function.Basic

namespace AnswerCache

lemma lookup_cons_eq {α : Type} (l : String) (entry : String × α) (rest : List (String × α)) :
    (entry :: rest).lookup l = if l = entry.1 then some entry.2 else rest.lookup l := by
  obtain ⟨key, value⟩ := entry
  by_cases hl : l = key
  · simp [hl]
  · simp [List.lookup_cons, hl, beq_false_of_ne hl]

lemma lookup_insertEntry {α : Type} (key l : String) (value : α) (entries : List (String × α)) :
    (insertEntry key value entries).lookup l =
      if l = key then some value else entries.lookup l := by
  induction entries with
  | nil => rw [insertEntry, lookup_cons_eq]
  | cons entry rest ih =>
    simp only [insertEntry]
    split
    · rw [lookup_cons_eq]
    · split
      · rename_i hge hlt
        have hne : entry.1 ≠ key := fun he => String.lt_irrefl key (he ▸ hlt)
        rw [lookup_cons_eq, ih, lookup_cons_eq]
        by_cases hl : l = entry.1
        · simp [hl, hne]
        · simp [hl]
      · rename_i hge hle
        have he : key = entry.1 := eq_of_not_lt hge hle
        rw [lookup_cons_eq, lookup_cons_eq, he]
        by_cases hl : l = entry.1 <;> simp [hl]

lemma Increasing.eq_of_mem {α : Type} {entries : List (String × α)} (h : Increasing entries)
    {key : String} {v w : α} (hv : (key, v) ∈ entries) (hw : (key, w) ∈ entries) : v = w := by
  induction entries with
  | nil => simp at hv
  | cons entry rest ih =>
    obtain ⟨hhead, htail⟩ := List.pairwise_cons.mp h
    rcases List.mem_cons.mp hv with rfl | hv <;> rcases List.mem_cons.mp hw with hw | hw
    · exact (Prod.mk.inj hw).2.symm
    · exact absurd (hhead _ hw) (String.lt_irrefl _)
    · exact absurd (hw ▸ hhead _ hv) (String.lt_irrefl _)
    · exact ih htail hv hw

namespace Dictionary

variable {α : Type}

lemma find?_empty (key : String) : (empty : Dictionary α).find? key = none := rfl

lemma find?_insert (d : Dictionary α) (key l : String) (value : α) :
    (d.insert key value).find? l = if l = key then some value else d.find? l :=
  lookup_insertEntry key l value d.entries

lemma find?_erase (d : Dictionary α) (key l : String) :
    (d.erase key).find? l = if l = key then none else d.find? l := by
  simp only [find?, erase]
  induction d.entries with
  | nil => simp
  | cons entry rest ih =>
    by_cases he : entry.1 = key
    · rw [List.filter_cons_of_neg (by simp [he]), ih, lookup_cons_eq]
      by_cases hl : l = key <;> simp [hl, he]
    · rw [List.filter_cons_of_pos (by simp [he]), lookup_cons_eq, ih, lookup_cons_eq]
      by_cases hl : l = entry.1
      · simp [hl, he]
      · simp [hl]

lemma contains_insert (d : Dictionary α) (key l : String) (value : α) :
    (d.insert key value).contains l = true ↔ l = key ∨ d.contains l = true := by
  rw [contains, find?_insert, contains]
  by_cases hl : l = key <;> simp [hl]

lemma contains_erase (d : Dictionary α) (key l : String) :
    (d.erase key).contains l = true ↔ l ≠ key ∧ d.contains l = true := by
  rw [contains, find?_erase, contains]
  by_cases hl : l = key <;> simp [hl]

lemma find?_eq_some_iff (d : Dictionary α) (key : String) (value : α) :
    d.find? key = some value ↔ (key, value) ∈ d.entries := by
  constructor
  · intro h
    obtain ⟨l₁, l₂, he, -⟩ := List.lookup_eq_some_iff.mp h
    rw [he]
    simp
  · intro h
    cases hf : d.find? key with
    | none =>
      have hnone := List.lookup_eq_none_iff.mp hf _ h
      simp at hnone
    | some w =>
      obtain ⟨l₁, l₂, he, -⟩ := List.lookup_eq_some_iff.mp hf
      have hw : (key, w) ∈ d.entries := by
        rw [he]
        simp
      rw [d.increasing.eq_of_mem h hw]

lemma keys_pairwise (d : Dictionary α) : d.keys.Pairwise (· < ·) :=
  List.pairwise_map.mpr d.increasing

lemma mem_keys_iff (d : Dictionary α) (key : String) :
    key ∈ d.keys ↔ ∃ value, d.find? key = some value := by
  simp only [keys, List.mem_map, Prod.exists, exists_and_right, exists_eq_right,
    find?_eq_some_iff]

lemma mem_values_iff (d : Dictionary α) (value : α) :
    value ∈ d.values ↔ ∃ key, d.find? key = some value := by
  simp only [values, List.mem_map, Prod.exists, exists_eq_right, find?_eq_some_iff]

lemma foldl_insert_find? (entries : List (String × α)) (d : Dictionary α) (key : String) :
    (entries.foldl (fun d e => d.insert e.1 e.2) d).find? key =
      (entries.reverse.lookup key).or (d.find? key) := by
  induction entries generalizing d with
  | nil => rfl
  | cons e rest ih =>
    rw [List.foldl_cons, ih, find?_insert, List.reverse_cons, List.lookup_append]
    cases rest.reverse.lookup key with
    | some _ => rfl
    | none =>
      rw [lookup_cons_eq, List.lookup_nil]
      by_cases hk : key = e.1 <;> simp [hk]

end Dictionary

end AnswerCache
