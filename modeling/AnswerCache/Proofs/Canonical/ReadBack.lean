import AnswerCache.Proofs.Canonical.Equivalence
import AnswerCache.Proofs.Json.RoundTrip
import AnswerCache.Proofs.Json.Unquoted
import AnswerCache.Proofs.Text.Bytes

namespace AnswerCache

namespace Json

def KeysInByteOrder (j : Json) : Prop :=
  ∀ fields ∈ j.objects, fields.Pairwise fun e f => utf8Bytes e.1 < utf8Bytes f.1

lemma WellFormed.keysInByteOrder {j : Json} (h : j.WellFormed) : j.KeysInByteOrder :=
  fun _ hfields => (h.increasing hfields).imp utf8Bytes_lt

namespace Number

lemma normal_normal (n : Number) : n.normal.normal = n.normal := by
  cases n with
  | whole n => rfl
  | double x =>
    cases hx : Canonicalizer.isExactWhole x <;> simp [normal, hx]

lemma eq_of_normal_eq_double {n : Number} {x : Binary64.Finite} (h : n.normal = .double x) :
    n = .double x := by
  cases n with
  | whole n => contradiction
  | double y =>
    simp only [normal] at h
    split at h
    · contradiction
    · exact h

lemma inRange_normal {n : Number} (h : n.InRange) : n.normal.InRange := by
  cases n with
  | whole n => exact h
  | double x =>
    cases hn : (Number.double x).normal with
    | double y => trivial
    | whole n =>
      obtain ⟨hvalue, hbound⟩ := (normal_double_eq_whole_iff x n).mp hn
      rw [hvalue, abs_lt] at hbound
      obtain ⟨hlow, hhigh⟩ := hbound
      have hlow : -2 ^ 53 < n := by exact_mod_cast hlow
      have hhigh : n < 2 ^ 53 := by exact_mod_cast hhigh
      refine ⟨Int.le_of_lt (lt_trans ?_ hlow), lt_trans hhigh ?_⟩ <;> decide

end Number

end Json

namespace Canonicalizer

variable {c : Canonicalizer}

/-- The second tree is the first with its omitted fields emptied, and with integers for the doubles
below `2 ^ 53` that equal one. -/
inductive Reduces (c : Canonicalizer) : Json → Json → Prop
  | null : Reduces c .null .null
  | bool (b : Bool) : Reduces c (.bool b) (.bool b)
  | integer (n : Int) : Reduces c (.number (.whole n)) (.number (.whole n))
  | whole {x : Binary64.Finite} {n : Int} (hvalue : x.value = n) (hbound : |x.value| < 2 ^ 53) :
      Reduces c (.number (.double x)) (.number (.whole n))
  | double {x : Binary64.Finite} (hother : ∀ n : Int, x.value = n → 2 ^ 53 ≤ |x.value|) :
      Reduces c (.number (.double x)) (.number (.double x))
  | string (s : String) : Reduces c (.string s) (.string s)
  | array {xs ys : List Json} (hlength : xs.length = ys.length)
      (hitems : ∀ i (hx : i < xs.length) (hy : i < ys.length), Reduces c xs[i] ys[i]) :
      Reduces c (.array xs) (.array ys)
  | object {fs gs : List (String × Json)} (hkeys : fs.map Prod.fst = gs.map Prod.fst)
      (hvalues : ∀ i (hf : i < fs.length) (hg : i < gs.length),
        c.omitted.contains fs[i].1 = false → Reduces c fs[i].2 gs[i].2)
      (homitted : ∀ i (hf : i < fs.length) (hg : i < gs.length),
        c.omitted.contains fs[i].1 = true → gs[i].2 = .object []) :
      Reduces c (.object fs) (.object gs)

lemma normal_of_reduces {x : Binary64.Finite} (hother : ∀ n : ℤ, x.value = n → 2 ^ 53 ≤ |x.value|) :
    (Json.Number.double x).normal = .double x := by
  cases hn : (Json.Number.double x).normal with
  | double y => rw [Json.Number.double.inj (Json.Number.eq_of_normal_eq_double hn)]
  | whole n =>
    obtain ⟨hvalue, hbound⟩ := (Json.Number.normal_double_eq_whole_iff x n).mp hn
    exact absurd hbound (not_lt.mpr (hother n hvalue))

lemma Reduces.eq_normalize {j t : Json} (h : c.Reduces j t) : t = c.normalize j := by
  induction h with
  | null => rfl
  | bool b => rfl
  | integer n => rfl
  | whole hvalue hbound =>
    rw [normalize, (Json.Number.normal_double_eq_whole_iff _ _).mpr ⟨hvalue, hbound⟩]
  | double hother => rw [normalize, normal_of_reduces hother]
  | string s => rfl
  | array hlength hitems ih =>
    rw [normalize_array]
    congr 1
    apply List.ext_getElem
    · rw [List.length_map, hlength]
    · intro i hy hx
      rw [List.length_map] at hx
      rw [List.getElem_map]
      exact ih i hx hy
  | @object fs gs hkeys hvalues homitted ih =>
    rw [normalize_object, normalizeFields_eq_map]
    congr 1
    apply List.ext_getElem
    · simpa using (congrArg List.length hkeys).symm
    · intro i hg hf
      rw [List.length_map] at hf
      rw [List.getElem_map, normalField]
      refine Prod.ext (getElem_eq_of_map_eq hkeys hf hg).symm ?_
      cases hkey : c.omitted.contains fs[i].1 with
      | true => exact homitted i hf hg hkey
      | false => exact ih i hf hg hkey

lemma reduces_normalize (c : Canonicalizer) (j : Json) : c.Reduces j (c.normalize j) := by
  induction j using Json.tree_induction with
  | null => exact .null
  | bool b => exact .bool b
  | number n =>
    cases n with
    | whole n => exact .integer n
    | double x =>
      rw [normalize]
      cases hn : (Json.Number.double x).normal with
      | whole n =>
        obtain ⟨hvalue, hbound⟩ := (Json.Number.normal_double_eq_whole_iff x n).mp hn
        exact .whole hvalue hbound
      | double y =>
        obtain rfl := Json.Number.double.inj (Json.Number.eq_of_normal_eq_double hn)
        refine .double fun n hvalue => ?_
        -- were it below the bound, it would be written as that integer
        by_contra hbound
        rw [(Json.Number.normal_double_eq_whole_iff x n).mpr ⟨hvalue, not_le.mp hbound⟩] at hn
        contradiction
  | string s => exact .string s
  | array items ih =>
    rw [normalize_array]
    refine .array (List.length_map c.normalize).symm fun i hx hy => ?_
    rw [List.getElem_map]
    exact ih items[i] (List.getElem_mem hx)
  | object fields ih =>
    rw [normalize_object, normalizeFields_eq_map]
    have hkeys : (fields.map c.normalField).map Prod.fst = fields.map Prod.fst := by
      rw [List.map_map]
      rfl
    refine .object hkeys.symm (fun i hf hg hkey => ?_) fun i hf hg hkey => ?_
    · rw [List.getElem_map, normalField, if_neg (by simp [hkey])]
      exact ih fields[i] (List.getElem_mem hf)
    · rw [List.getElem_map, normalField, if_pos hkey]

lemma reduces_iff {j t : Json} : c.Reduces j t ↔ t = c.normalize j :=
  ⟨Reduces.eq_normalize, fun h => h ▸ reduces_normalize c j⟩

lemma wellFormed_normalize {j : Json} (hj : j.WellFormed) : (c.normalize j).WellFormed := by
  induction j using Json.tree_induction with
  | null => trivial
  | bool b => trivial
  | number n => exact Json.Number.inRange_normal hj
  | string s => trivial
  | array items ih =>
    rw [normalize_array]
    refine Json.WellFormed.all_of_forall (List.forall_mem_map.mpr fun item hitem => ?_)
    exact ih item hitem (.of_mem hj hitem)
  | object fields ih =>
    obtain ⟨hkeys, hfields⟩ := hj
    rw [normalize_object, normalizeFields_eq_map]
    refine ⟨List.pairwise_map.mpr hkeys, ?_⟩
    refine Json.WellFormed.fields_of_forall (List.forall_mem_map.mpr fun field hfield => ?_)
    rw [normalField]
    split
    · exact ⟨List.Pairwise.nil, trivial⟩
    · exact ih field hfield (.of_mem_fields hfields hfield)

lemma double_mem_of_normalize {j : Json} {x : Binary64.Finite}
    (hx : .double x ∈ (c.normalize j).numbers) : .double x ∈ j.numbers := by
  induction j using Json.tree_induction with
  | null => exact hx
  | bool b => exact hx
  | number n =>
    have hn := List.mem_singleton.mp hx
    exact List.mem_singleton.mpr (Json.Number.eq_of_normal_eq_double hn.symm).symm
  | string s => exact hx
  | array items ih =>
    rw [normalize_array] at hx
    obtain ⟨_, hitem, hx⟩ := Json.mem_numbersOfItems.mp hx
    obtain ⟨item, hmem, rfl⟩ := List.mem_map.mp hitem
    exact Json.mem_numbersOfItems.mpr ⟨item, hmem, ih item hmem hx⟩
  | object fields ih =>
    rw [normalize_object, normalizeFields_eq_map] at hx
    obtain ⟨_, hfield, hx⟩ := Json.mem_numbersOfFields.mp hx
    obtain ⟨field, hmem, rfl⟩ := List.mem_map.mp hfield
    rw [normalField] at hx
    split at hx
    · contradiction
    · exact Json.mem_numbersOfFields.mpr ⟨field, hmem, ih field hmem hx⟩

lemma writeMoreItems_map {items : List Json}
    (h : ∀ item ∈ items, ∀ depth, c.write depth (c.normalize item) = c.write depth item)
    (depth : Nat) :
    c.writeMoreItems depth (items.map c.normalize) = c.writeMoreItems depth items := by
  induction items with
  | nil => rfl
  | cons item rest ih =>
    obtain ⟨hitem, hrest⟩ := List.forall_mem_cons.mp h
    rw [List.map_cons, writeMoreItems, writeMoreItems, hitem, ih hrest]

lemma writeItems_map {items : List Json}
    (h : ∀ item ∈ items, ∀ depth, c.write depth (c.normalize item) = c.write depth item)
    (depth : Nat) : c.writeItems depth (items.map c.normalize) = c.writeItems depth items := by
  cases items with
  | nil => rfl
  | cons item rest =>
    obtain ⟨hitem, hrest⟩ := List.forall_mem_cons.mp h
    rw [List.map_cons, writeItems, writeItems, hitem, writeMoreItems_map hrest]

lemma writeValue_normalize {value : Json}
    (h : ∀ depth, c.write depth (c.normalize value) = c.write depth value) (depth : Nat)
    (key : String) :
    c.writeValue depth key (if c.omitted.contains key then .object [] else c.normalize value) =
      c.writeValue depth key value := by
  rw [writeValue, writeValue]
  split
  · rfl
  · exact h depth

lemma writeMoreFields_normalize {fields : List (String × Json)}
    (h : ∀ field ∈ fields, ∀ depth, c.write depth (c.normalize field.2) = c.write depth field.2)
    (depth : Nat) :
    c.writeMoreFields depth (c.normalizeFields fields) = c.writeMoreFields depth fields := by
  induction fields with
  | nil => rfl
  | cons field rest ih =>
    obtain ⟨hvalue, hrest⟩ := List.forall_mem_cons.mp h
    rw [normalizeFields_cons, writeMoreFields_cons, writeMoreFields_cons,
      writeValue_normalize hvalue, ih hrest]

lemma writeFields_normalize {fields : List (String × Json)}
    (h : ∀ field ∈ fields, ∀ depth, c.write depth (c.normalize field.2) = c.write depth field.2)
    (depth : Nat) :
    c.writeFields depth (c.normalizeFields fields) = c.writeFields depth fields := by
  cases fields with
  | nil => rfl
  | cons field rest =>
    obtain ⟨hvalue, hrest⟩ := List.forall_mem_cons.mp h
    rw [normalizeFields_cons, writeFields_cons, writeFields_cons, writeValue_normalize hvalue,
      writeMoreFields_normalize hrest]

lemma write_normalize (c : Canonicalizer) (depth : Nat) (j : Json) :
    c.write depth (c.normalize j) = c.write depth j := by
  induction j using Json.tree_induction generalizing depth with
  | null => rfl
  | bool b => rfl
  | number n =>
    rw [normalize, write, write, writeNumber_eq, writeNumber_eq, Json.Number.normal_normal]
  | string s => rfl
  | array items ih =>
    have hitems := writeItems_map (fun item hitem depth => ih item hitem depth) (depth + 1)
    rw [normalize_array, write, write, hitems]
  | object fields ih =>
    have hfields := writeFields_normalize (fun field hfield depth => ih field hfield depth)
      (depth + 1)
    rw [normalize_object, write, write, hfields]

lemma toList_key {j : Json} {k : CacheKey} (hk : c.keyOfTree j = .ok k) :
    k.text.toList = (c.normalize j).compact := by
  rw [keyOfTree_eq c hk, Json.compactText, String.toList_ofList]

/-- The key of a tree is the JSON text of one tree only, the one without what `c` does not look at.
It is read back as that unless its brackets are nested too deeply for the reader; it has no blank
outside its strings, the keys of its objects stand in the order of their bytes, and the tree that is
read has the same key. -/
theorem key_is_text_of_reduced_tree (c : Canonicalizer) {j : Json} {k : CacheKey}
    (hj : j.WellFormed) (hk : c.keyOfTree j = .ok k)
    (hdoubles : ∀ x, .double x ∈ j.numbers → (Json.Number.double x).ReadsBack) :
    ∃ t, (∀ u, c.Reduces j u ↔ u = t) ∧
      (∀ levels, Json.bracketDepth k.text.toList ≤ levels →
        Json.Document.ofText levels k.text = ⟨.ofJson t, none⟩) ∧
      Json.parse? k.text =
        (if Json.bracketDepth k.text.toList ≤ Json.maxLevels then some t else none) ∧
      Json.Dense k.text.toList ∧ t.KeysInByteOrder ∧ c.keyOfTree t = .ok k := by
  have ht := wellFormed_normalize (c := c) hj
  have hread : ∀ x, .double x ∈ (c.normalize j).numbers → (Json.Number.double x).ReadsBack :=
    fun x hx => hdoubles x (double_mem_of_normalize hx)
  have hagain : c.keyOfTree (c.normalize j) = .ok k := by
    rw [keyOfTree, write_normalize]
    exact hk
  rw [toList_key hk, Json.bracketDepth_compact, keyOfTree_eq c hk]
  exact ⟨c.normalize j, fun u => reduces_iff,
    fun levels hlevels => Json.ofText_compactText (ht.readsBack hread) hlevels,
    Json.parse?_compactText ht hread, Json.dense_compact _, ht.keysInByteOrder, hagain⟩

def oneHalf : Binary64.Finite :=
  ⟨false, Nat.pow 2 52, 1021, by decide⟩

def spacedTree : Json :=
  .object [("context", .string "a b"), ("rows", .array [.number (.double twoPointZero),
    .number (.double oneHalf), .string "one \"line\"\n"])]

def reducedTree : Json :=
  .object [("context", .object []), ("rows", .array [.number (.whole 2),
    .number (.double oneHalf), .string "one \"line\"\n"])]

theorem spaced_tree_is_read_as_reduced :
    ∃ k, standard.keyOfTree spacedTree = .ok k ∧ standard.Reduces spacedTree reducedTree ∧
      Json.parse? k.text = some reducedTree ∧ Json.Dense k.text.toList ∧
      standard.keyOfTree reducedTree = .ok k := by
  have hformed : spacedTree.WellFormed :=
    ⟨List.pairwise_pair.mpr (show "context" < "rows" by decide), trivial,
      ⟨trivial, trivial, trivial, trivial⟩, trivial⟩
  have hdoubles : ∀ x, .double x ∈ spacedTree.numbers → (Json.Number.double x).ReadsBack := by
    intro x hx
    have hmem : x = twoPointZero ∨ x = oneHalf := by
      simpa [spacedTree, Json.numbers, Json.numbersOfFields, Json.numbersOfItems] using hx
    rcases hmem with rfl | rfl <;> decide +kernel
  obtain ⟨k, hk⟩ : ∃ k, standard.keyOfTree spacedTree = .ok k := ⟨_, rfl⟩
  obtain ⟨t, hreduced, -, hparse, hdense, -, hagain⟩ :=
    standard.key_is_text_of_reduced_tree hformed hk hdoubles
  have htwo : (Json.Number.double twoPointZero).normal = .whole 2 := by decide +kernel
  have hhalf : (Json.Number.double oneHalf).normal = .double oneHalf := by decide +kernel
  have homitted : standard.omitted.contains "context" = true := by decide
  have hkept : standard.omitted.contains "rows" = false := by decide
  have hnormal : standard.normalize spacedTree = reducedTree := by
    simp [spacedTree, reducedTree, normalize, homitted, hkept, htwo, hhalf]
  have hreduces : standard.Reduces spacedTree reducedTree := reduces_iff.mpr hnormal.symm
  have hdepth : Json.bracketDepth k.text.toList ≤ Json.maxLevels := by
    rw [toList_key hk, Json.bracketDepth_compact, hnormal]
    decide
  obtain rfl := (hreduced reducedTree).mp hreduces
  rw [if_pos hdepth] at hparse
  exact ⟨k, hk, hreduces, hparse, hdense, hagain⟩

end Canonicalizer

end AnswerCache
