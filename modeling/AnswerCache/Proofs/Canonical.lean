import AnswerCache.Canonical
import AnswerCache.Proofs.Binary64.Whole
import AnswerCache.Proofs.Json.Compact

/-!
The canonical text of a tree is the compact text of its normal form, so two trees have one key
exactly when they have one normal form.
-/

namespace AnswerCache

lemma bind_eq_ok {ε α β : Type} {x : Except ε α} {f : α → Except ε β} {b : β} :
    (x >>= f) = .ok b ↔ ∃ a, x = .ok a ∧ f a = .ok b := by
  cases x <;> simp [bind, Except.bind]

def Json.Number.normal : Json.Number → Json.Number
  | .whole n => .whole n
  | .double x => if Canonicalizer.isExactWhole x then .whole x.toInt else .double x

namespace Json.Number

open Binary64.Finite

lemma isWhole_of_isExactWhole {x : Binary64.Finite} (h : Canonicalizer.isExactWhole x = true) :
    x.isWhole = true := by
  simp only [Canonicalizer.isExactWhole, Bool.and_eq_true] at h
  exact h.1

lemma not_isZero_of_not_isExactWhole {x : Binary64.Finite}
    (h : Canonicalizer.isExactWhole x = false) : x.isZero = false := by
  rw [← Bool.not_eq_true, isZero_iff]
  intro h0
  simp [Canonicalizer.isExactWhole, isWhole, h0, stepsPerUnit_pos] at h

lemma normal_double_eq_iff (x y : Binary64.Finite) :
    (Number.double x).normal = (Number.double y).normal ↔ x.sameValue y = true := by
  cases hx : Canonicalizer.isExactWhole x <;> cases hy : Canonicalizer.isExactWhole y
  · rw [sameValue_iff_of_not_isZero (Or.inl (not_isZero_of_not_isExactWhole hx))]
    simp [normal, hx, hy]
  · rw [sameValue_iff_of_not_isZero (Or.inl (not_isZero_of_not_isExactWhole hx))]
    constructor
    · simp [normal, hx, hy]
    · rintro rfl
      rfl
  · rw [sameValue_iff_of_not_isZero (Or.inr (not_isZero_of_not_isExactWhole hy))]
    constructor
    · simp [normal, hx, hy]
    · rintro rfl
      rfl
  · rw [sameValue_iff_toInt (isWhole_of_isExactWhole hx) (isWhole_of_isExactWhole hy)]
    simp [normal, hx, hy]

end Json.Number

namespace Canonicalizer

mutual

def normalize (c : Canonicalizer) : Json → Json
  | .number n => .number n.normal
  | .array items => .array (c.normalizeItems items)
  | .object fields => .object (c.normalizeFields fields)
  | j => j

def normalizeItems (c : Canonicalizer) : List Json → List Json
  | [] => []
  | item :: rest => c.normalize item :: c.normalizeItems rest

def normalizeFields (c : Canonicalizer) : List (String × Json) → List (String × Json)
  | [] => []
  | (key, value) :: rest =>
    (key, if c.omitted.contains key then .object [] else c.normalize value) ::
      c.normalizeFields rest

end

@[simp] lemma normalizeItems_eq_map (c : Canonicalizer) (items : List Json) :
    c.normalizeItems items = items.map c.normalize := by
  induction items with
  | nil => rfl
  | cons item rest ih => rw [normalizeItems, ih, List.map_cons]

@[simp] lemma normalize_string (c : Canonicalizer) (s : String) :
    c.normalize (.string s) = .string s := rfl

@[simp] lemma normalize_array (c : Canonicalizer) (items : List Json) :
    c.normalize (.array items) = .array (items.map c.normalize) := by
  rw [normalize, normalizeItems_eq_map]

@[simp] lemma normalize_object (c : Canonicalizer) (fields : List (String × Json)) :
    c.normalize (.object fields) = .object (c.normalizeFields fields) := rfl

@[simp] lemma normalizeFields_nil (c : Canonicalizer) : c.normalizeFields [] = [] := rfl

@[simp] lemma normalizeFields_cons (c : Canonicalizer) (key : String) (value : Json)
    (rest : List (String × Json)) : c.normalizeFields ((key, value) :: rest) =
      (key, if c.omitted.contains key then .object [] else c.normalize value) ::
        c.normalizeFields rest := rfl

@[simp] lemma normalizeFields_append (c : Canonicalizer) (xs ys : List (String × Json)) :
    c.normalizeFields (xs ++ ys) = c.normalizeFields xs ++ c.normalizeFields ys := by
  induction xs with
  | nil => rfl
  | cons x xs ih => rw [List.cons_append, normalizeFields_cons, normalizeFields_cons, ih,
      List.cons_append]

lemma writeNumber_eq (n : Json.Number) : writeNumber n = n.normal.written := by
  cases n with
  | whole n => rfl
  | double x =>
    simp only [writeNumber, Json.Number.normal]
    split <;> rfl

def writeValue (c : Canonicalizer) (depth : Nat) (key : String) (value : Json) :
    Except KeyError (List Char) :=
  if c.omitted.contains key then .ok emptied else c.write depth value

lemma writeFields_cons (c : Canonicalizer) (depth : Nat) (key : String) (value : Json)
    (rest : List (String × Json)) : c.writeFields depth ((key, value) :: rest) =
      c.writeValue depth key value >>= fun first => c.writeMoreFields depth rest >>= fun more =>
        .ok (Json.keyText key ++ first ++ more) := by
  rw [writeFields.eq_def, writeValue]
  dsimp only
  split <;> rfl

lemma writeMoreFields_cons (c : Canonicalizer) (depth : Nat) (key : String) (value : Json)
    (rest : List (String × Json)) : c.writeMoreFields depth ((key, value) :: rest) =
      c.writeValue depth key value >>= fun first => c.writeMoreFields depth rest >>= fun more =>
        .ok (',' :: Json.keyText key ++ first ++ more) := by
  rw [writeMoreFields.eq_def, writeValue]
  dsimp only
  split <;> rfl

lemma eq_compact_of_writeValue {c : Canonicalizer} {depth : Nat} {key : String} {value : Json}
    (ih : ∀ {cs}, c.write depth value = .ok cs → cs = (c.normalize value).compact)
    {cs : List Char} (h : c.writeValue depth key value = .ok cs) :
    cs = (if c.omitted.contains key then .object [] else c.normalize value).compact := by
  rw [writeValue] at h
  split at h
  · rename_i hk
    rw [if_pos hk]
    exact (Except.ok.inj h).symm
  · rename_i hk
    rw [if_neg hk]
    exact ih h

mutual

theorem eq_compact_of_write (c : Canonicalizer) (depth : Nat) (j : Json) {cs : List Char}
    (h : c.write depth j = .ok cs) : cs = (c.normalize j).compact := by
  rw [write.eq_def] at h
  split at h
  · contradiction
  match j with
  | .array items =>
    obtain ⟨text, ht, h⟩ := bind_eq_ok.mp h
    rw [← Except.ok.inj h, eq_compactItems_of_write c (depth + 1) items ht]
    rfl
  | .object fields =>
    obtain ⟨text, ht, h⟩ := bind_eq_ok.mp h
    rw [← Except.ok.inj h, eq_compactFields_of_write c (depth + 1) fields ht]
    rfl
  | .number n =>
    rw [← Except.ok.inj h, writeNumber_eq]
    rfl
  | .null => exact (Except.ok.inj h).symm
  | .bool b => exact (Except.ok.inj h).symm
  | .string s => exact (Except.ok.inj h).symm

theorem eq_compactItems_of_write (c : Canonicalizer) (depth : Nat) (items : List Json)
    {cs : List Char} (h : c.writeItems depth items = .ok cs) :
    cs = Json.compactItems (c.normalizeItems items) := by
  match items with
  | [] => exact (Except.ok.inj h).symm
  | item :: rest =>
    obtain ⟨first, hf, h⟩ := bind_eq_ok.mp h
    obtain ⟨more, hm, h⟩ := bind_eq_ok.mp h
    rw [← Except.ok.inj h, eq_compact_of_write c depth item hf,
      eq_compactMoreItems_of_write c depth rest hm]
    rfl

theorem eq_compactMoreItems_of_write (c : Canonicalizer) (depth : Nat) (items : List Json)
    {cs : List Char} (h : c.writeMoreItems depth items = .ok cs) :
    cs = Json.compactMoreItems (c.normalizeItems items) := by
  match items with
  | [] => exact (Except.ok.inj h).symm
  | item :: rest =>
    obtain ⟨first, hf, h⟩ := bind_eq_ok.mp h
    obtain ⟨more, hm, h⟩ := bind_eq_ok.mp h
    rw [← Except.ok.inj h, eq_compact_of_write c depth item hf,
      eq_compactMoreItems_of_write c depth rest hm]
    rfl

theorem eq_compactFields_of_write (c : Canonicalizer) (depth : Nat)
    (fields : List (String × Json)) {cs : List Char} (h : c.writeFields depth fields = .ok cs) :
    cs = Json.compactFields (c.normalizeFields fields) := by
  match fields with
  | [] => exact (Except.ok.inj h).symm
  | (key, value) :: rest =>
    rw [writeFields_cons] at h
    obtain ⟨first, hf, h⟩ := bind_eq_ok.mp h
    obtain ⟨more, hm, h⟩ := bind_eq_ok.mp h
    rw [← Except.ok.inj h, eq_compactMoreFields_of_write c depth rest hm,
      eq_compact_of_writeValue (eq_compact_of_write c depth value) hf]
    rfl

theorem eq_compactMoreFields_of_write (c : Canonicalizer) (depth : Nat)
    (fields : List (String × Json)) {cs : List Char} (h : c.writeMoreFields depth fields = .ok cs) :
    cs = Json.compactMoreFields (c.normalizeFields fields) := by
  match fields with
  | [] => exact (Except.ok.inj h).symm
  | (key, value) :: rest =>
    rw [writeMoreFields_cons] at h
    obtain ⟨first, hf, h⟩ := bind_eq_ok.mp h
    obtain ⟨more, hm, h⟩ := bind_eq_ok.mp h
    rw [← Except.ok.inj h, eq_compactMoreFields_of_write c depth rest hm,
      eq_compact_of_writeValue (eq_compact_of_write c depth value) hf]
    rfl

end

lemma keyOfTree_eq (c : Canonicalizer) {j : Json} {key : CacheKey} (h : c.keyOfTree j = .ok key) :
    key.text = (c.normalize j).compactText := by
  obtain ⟨cs, hcs, h⟩ := bind_eq_ok.mp h
  rw [← Except.ok.inj h, eq_compact_of_write c 0 j hcs]
  rfl

theorem keyOfTree_eq_iff (c : Canonicalizer) {i j : Json} {k l : CacheKey}
    (hi : c.keyOfTree i = .ok k) (hj : c.keyOfTree j = .ok l) :
    k = l ↔ c.normalize i = c.normalize j := by
  have hk := keyOfTree_eq c hi
  have hl := keyOfTree_eq c hj
  constructor
  · rintro rfl
    rw [hk] at hl
    exact Json.compact_injective (String.ofList_inj.mp hl)
  · intro h
    cases k
    cases l
    simp_all

end Canonicalizer

end AnswerCache
