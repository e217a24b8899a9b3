namespace AnswerCache

def Increasing {α : Type} (entries : List (String × α)) : Prop :=
  entries.Pairwise fun a b => a.1 < b.1

instance {α : Type} (entries : List (String × α)) : Decidable (Increasing entries) :=
  inferInstanceAs (Decidable (List.Pairwise _ _))

def insertEntry {α : Type} (key : String) (value : α) : List (String × α) → List (String × α)
  | [] => [(key, value)]
  | entry :: rest =>
    if key < entry.1 then (key, value) :: entry :: rest
    else if entry.1 < key then entry :: insertEntry key value rest
    else (key, value) :: rest

theorem mem_insertEntry {α : Type} {key : String} {value : α} {entries : List (String × α)}
    {e : String × α} (h : e ∈ insertEntry key value entries) : e = (key, value) ∨ e ∈ entries := by
  induction entries with
  | nil => simpa [insertEntry] using h
  | cons entry rest ih =>
    simp only [insertEntry] at h
    split at h
    · simpa using h
    · split at h
      · rcases List.mem_cons.1 h with h | h
        · exact Or.inr (by simp [h])
        · exact (ih h).imp id (List.mem_cons_of_mem _)
      · rcases List.mem_cons.1 h with h | h
        · exact Or.inl h
        · exact Or.inr (List.mem_cons_of_mem _ h)

theorem eq_of_not_lt {a b : String} (hab : ¬ a < b) (hba : ¬ b < a) : a = b :=
  String.le_antisymm hba hab

theorem Increasing.insertEntry {α : Type} {key : String} {value : α}
    {entries : List (String × α)} (h : Increasing entries) :
    Increasing (insertEntry key value entries) := by
  induction entries with
  | nil => exact List.pairwise_singleton _ _
  | cons entry rest ih =>
    obtain ⟨hhead, htail⟩ := List.pairwise_cons.1 h
    simp only [AnswerCache.insertEntry]
    split
    · rename_i hlt
      refine List.pairwise_cons.2 ⟨fun e he => ?_, h⟩
      rcases List.mem_cons.1 he with rfl | he
      · exact hlt
      · exact String.lt_trans hlt (hhead e he)
    · rename_i hle
      split
      · rename_i hlt
        refine List.pairwise_cons.2 ⟨fun e he => ?_, ih htail⟩
        rcases mem_insertEntry he with rfl | he
        · exact hlt
        · exact hhead e he
      · rename_i hge
        obtain rfl := eq_of_not_lt hle hge
        exact List.pairwise_cons.2 ⟨fun e he => hhead e he, htail⟩

structure Dictionary (α : Type) where
  entries : List (String × α)
  increasing : Increasing entries
  deriving DecidableEq

namespace Dictionary

variable {α : Type}

def empty : Dictionary α := ⟨[], List.Pairwise.nil⟩

instance : EmptyCollection (Dictionary α) := ⟨empty⟩

instance : Inhabited (Dictionary α) := ⟨empty⟩

def find? (d : Dictionary α) (key : String) : Option α :=
  d.entries.lookup key

def contains (d : Dictionary α) (key : String) : Bool :=
  (d.find? key).isSome

def insert (d : Dictionary α) (key : String) (value : α) : Dictionary α :=
  ⟨insertEntry key value d.entries, d.increasing.insertEntry⟩

def erase (d : Dictionary α) (key : String) : Dictionary α :=
  ⟨d.entries.filter (fun e => e.1 != key), List.Pairwise.filter _ d.increasing⟩

def keys (d : Dictionary α) : List String :=
  d.entries.map Prod.fst

def values (d : Dictionary α) : List α :=
  d.entries.map Prod.snd

def size (d : Dictionary α) : Nat :=
  d.entries.length

def isEmpty (d : Dictionary α) : Bool :=
  d.entries.isEmpty

def ofList (entries : List (String × α)) : Dictionary α :=
  entries.foldl (fun d e => d.insert e.1 e.2) empty

end Dictionary

end AnswerCache
