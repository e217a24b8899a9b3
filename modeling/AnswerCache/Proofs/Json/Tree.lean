import AnswerCache.Json.Basic
import Mathlib.Data.List.Basic

namespace AnswerCache.Json

mutual

def nesting : Json → Nat
  | array items => nestingOfItems items + 1
  | object fields => nestingOfFields fields + 1
  | _ => 0

def nestingOfItems : List Json → Nat
  | [] => 0
  | item :: rest => max item.nesting (nestingOfItems rest)

def nestingOfFields : List (String × Json) → Nat
  | [] => 0
  | (_, value) :: rest => max value.nesting (nestingOfFields rest)

end

mutual

def numbers : Json → List Number
  | number n => [n]
  | array items => numbersOfItems items
  | object fields => numbersOfFields fields
  | _ => []

def numbersOfItems : List Json → List Number
  | [] => []
  | item :: rest => item.numbers ++ numbersOfItems rest

def numbersOfFields : List (String × Json) → List Number
  | [] => []
  | (_, value) :: rest => value.numbers ++ numbersOfFields rest

end

mutual

def objects : Json → List (List (String × Json))
  | array items => objectsOfItems items
  | object fields => fields :: objectsOfFields fields
  | _ => []

def objectsOfItems : List Json → List (List (String × Json))
  | [] => []
  | item :: rest => item.objects ++ objectsOfItems rest

def objectsOfFields : List (String × Json) → List (List (String × Json))
  | [] => []
  | (_, value) :: rest => value.objects ++ objectsOfFields rest

end

@[elab_as_elim]
theorem tree_induction {motive : Json → Prop} (null : motive .null) (bool : ∀ b, motive (.bool b))
    (number : ∀ n, motive (.number n)) (string : ∀ s, motive (.string s))
    (array : ∀ items, (∀ j ∈ items, motive j) → motive (.array items))
    (object : ∀ fields, (∀ f ∈ fields, motive f.2) → motive (.object fields)) (j : Json) :
    motive j := by
  refine @Json.rec motive (fun items => ∀ j ∈ items, motive j)
    (fun fields => ∀ f ∈ fields, motive f.2) (fun f => motive f.2) null bool number string array
    object ?_ ?_ ?_ ?_ ?_ j
  · intro j hj
    contradiction
  · intro item rest hitem hrest
    exact List.forall_mem_cons.mpr ⟨hitem, hrest⟩
  · intro f hf
    contradiction
  · intro field rest hfield hrest
    exact List.forall_mem_cons.mpr ⟨hfield, hrest⟩
  · intro key value hvalue
    exact hvalue

lemma WellFormed.of_mem {items : List Json} (h : WellFormed.All items) {j : Json}
    (hj : j ∈ items) : j.WellFormed := by
  induction items with
  | nil => contradiction
  | cons item rest ih =>
    rcases List.mem_cons.mp hj with rfl | hj
    · exact h.1
    · exact ih h.2 hj

lemma WellFormed.of_mem_fields {fields : List (String × Json)} (h : WellFormed.Fields fields)
    {f : String × Json} (hf : f ∈ fields) : f.2.WellFormed := by
  induction fields with
  | nil => contradiction
  | cons field rest ih =>
    rcases List.mem_cons.mp hf with rfl | hf
    · exact h.1
    · exact ih h.2 hf

lemma WellFormed.all_of_forall {items : List Json} (h : ∀ j ∈ items, j.WellFormed) :
    WellFormed.All items := by
  induction items with
  | nil => trivial
  | cons item rest ih =>
    obtain ⟨hitem, hrest⟩ := List.forall_mem_cons.mp h
    exact ⟨hitem, ih hrest⟩

lemma WellFormed.fields_of_forall {fields : List (String × Json)}
    (h : ∀ f ∈ fields, f.2.WellFormed) : WellFormed.Fields fields := by
  induction fields with
  | nil => trivial
  | cons field rest ih =>
    obtain ⟨hfield, hrest⟩ := List.forall_mem_cons.mp h
    exact ⟨hfield, ih hrest⟩

lemma mem_numbersOfItems {items : List Json} {n : Number} :
    n ∈ numbersOfItems items ↔ ∃ j ∈ items, n ∈ j.numbers := by
  induction items with
  | nil => simp [numbersOfItems]
  | cons item rest ih => rw [numbersOfItems, List.mem_append, ih, List.exists_mem_cons_iff]

lemma mem_numbersOfFields {fields : List (String × Json)} {n : Number} :
    n ∈ numbersOfFields fields ↔ ∃ f ∈ fields, n ∈ f.2.numbers := by
  induction fields with
  | nil => simp [numbersOfFields]
  | cons field rest ih => rw [numbersOfFields, List.mem_append, ih, List.exists_mem_cons_iff]

lemma WellFormed.inRange {j : Json} (h : j.WellFormed) {n : Number} (hn : n ∈ j.numbers) :
    n.InRange := by
  induction j using tree_induction with
  | null => contradiction
  | bool b => contradiction
  | number m => rwa [List.mem_singleton.mp hn]
  | string s => contradiction
  | array items ih =>
    obtain ⟨j, hj, hn⟩ := mem_numbersOfItems.mp hn
    exact ih j hj (WellFormed.of_mem h hj) hn
  | object fields ih =>
    obtain ⟨f, hf, hn⟩ := mem_numbersOfFields.mp hn
    exact ih f hf (WellFormed.of_mem_fields h.2 hf) hn

lemma mem_objectsOfItems {items : List Json} {fields : List (String × Json)} :
    fields ∈ objectsOfItems items ↔ ∃ j ∈ items, fields ∈ j.objects := by
  induction items with
  | nil => simp [objectsOfItems]
  | cons item rest ih => rw [objectsOfItems, List.mem_append, ih, List.exists_mem_cons_iff]

lemma mem_objectsOfFields {fields others : List (String × Json)} :
    others ∈ objectsOfFields fields ↔ ∃ f ∈ fields, others ∈ f.2.objects := by
  induction fields with
  | nil => simp [objectsOfFields]
  | cons field rest ih => rw [objectsOfFields, List.mem_append, ih, List.exists_mem_cons_iff]

lemma WellFormed.increasing {j : Json} (h : j.WellFormed) {fields : List (String × Json)}
    (hfields : fields ∈ j.objects) : Increasing fields := by
  induction j using tree_induction with
  | null => contradiction
  | bool b => contradiction
  | number n => contradiction
  | string s => contradiction
  | array items ih =>
    obtain ⟨j, hj, hfields⟩ := mem_objectsOfItems.mp hfields
    exact ih j hj (.of_mem h hj) hfields
  | object others ih =>
    rcases List.mem_cons.mp hfields with rfl | hfields
    · exact h.1
    · obtain ⟨f, hf, hfields⟩ := mem_objectsOfFields.mp hfields
      exact ih f hf (.of_mem_fields h.2 hf) hfields

end AnswerCache.Json
