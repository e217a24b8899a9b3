import AnswerCache.Proofs.Canonical
import AnswerCache.Proofs.Dictionary
import AnswerCache.Proofs.Json.Tree
import Mathlib.Data.List.Sort
import Mathlib.Data.String.Basic

/-!
Two trees have one key exactly when they are equivalent: the same but for what stands in omitted
fields and for the spelling of whole numbers.
-/

namespace AnswerCache

namespace Json

def Number.Agrees : Number → Number → Prop
  | whole m, whole n => m = n
  | double x, double y => x.value = y.value
  | whole n, double x => x.value = n ∧ |x.value| < 2 ^ 53
  | double x, whole n => x.value = n ∧ |x.value| < 2 ^ 53

namespace Number

open Binary64.Finite

lemma isExactWhole_iff (x : Binary64.Finite) :
    Canonicalizer.isExactWhole x = true ↔ x.isWhole = true ∧ |x.value| < 2 ^ 53 := by
  have hpos : (0 : ℚ) < Binary64.stepsPerUnit := by exact_mod_cast stepsPerUnit_pos
  have hbound : x.steps < Nat.pow 2 53 * Binary64.stepsPerUnit ↔ |x.value| < 2 ^ 53 := by
    rw [abs_value, div_lt_iff₀ hpos]
    generalize Binary64.stepsPerUnit = units
    exact (Nat.cast_lt (α := ℚ)).symm.trans (by rw [Nat.cast_mul, Nat.pow_eq, Nat.cast_pow]; rfl)
  simp only [Canonicalizer.isExactWhole, Bool.and_eq_true, decide_eq_true_eq, hbound]

lemma normal_double_eq_whole_iff (x : Binary64.Finite) (n : ℤ) :
    (Number.double x).normal = .whole n ↔ x.value = n ∧ |x.value| < 2 ^ 53 := by
  constructor
  · intro h
    simp only [normal] at h
    split at h
    · rename_i hx
      obtain ⟨hwhole, hbound⟩ := (isExactWhole_iff x).mp hx
      rw [← Number.whole.inj h]
      exact ⟨value_of_isWhole hwhole, hbound⟩
    · contradiction
  · rintro ⟨hvalue, hbound⟩
    have hwhole := isWhole_of_value hvalue
    have hn : x.toInt = n := by
      rw [value_of_isWhole hwhole] at hvalue
      exact_mod_cast hvalue
    rw [normal, if_pos ((isExactWhole_iff x).mpr ⟨hwhole, hbound⟩), hn]

lemma normal_eq_iff_agrees (m n : Number) : m.normal = n.normal ↔ m.Agrees n := by
  cases m with
  | whole m =>
    cases n with
    | whole n => exact ⟨Number.whole.inj, congrArg Number.whole⟩
    | double y => exact eq_comm.trans (normal_double_eq_whole_iff y m)
  | double x =>
    cases n with
    | whole n => exact normal_double_eq_whole_iff x n
    | double y => exact (normal_double_eq_iff x y).trans value_eq_iff.symm

end Number

end Json

namespace Canonicalizer

/-- Trees that differ in nothing that `c` looks at. -/
inductive Equivalent (c : Canonicalizer) : Json → Json → Prop
  | null : Equivalent c .null .null
  | bool (b : Bool) : Equivalent c (.bool b) (.bool b)
  | number {m n : Json.Number} (hagrees : m.Agrees n) : Equivalent c (.number m) (.number n)
  | string (s : String) : Equivalent c (.string s) (.string s)
  | array {xs ys : List Json} (hlength : xs.length = ys.length)
      (hitems : ∀ i (hx : i < xs.length) (hy : i < ys.length), Equivalent c xs[i] ys[i]) :
      Equivalent c (.array xs) (.array ys)
  | object {fs gs : List (String × Json)}
      (hkeys : ∀ key, key ∈ fs.map Prod.fst ↔ key ∈ gs.map Prod.fst)
      (hvalues : ∀ key v w, (key, v) ∈ fs → (key, w) ∈ gs →
        c.omitted.contains key = false → Equivalent c v w) :
      Equivalent c (.object fs) (.object gs)

variable {c : Canonicalizer}

def normalField (c : Canonicalizer) (field : String × Json) : String × Json :=
  (field.1, if c.omitted.contains field.1 then .object [] else c.normalize field.2)

lemma normalizeFields_eq_map (c : Canonicalizer) (fields : List (String × Json)) :
    c.normalizeFields fields = fields.map c.normalField := by
  induction fields with
  | nil => rfl
  | cons field rest ih => rw [normalizeFields_cons, ih, List.map_cons, normalField]

lemma normalField_eq_iff {e f : String × Json} : c.normalField e = c.normalField f ↔
    e.1 = f.1 ∧ (c.omitted.contains e.1 = false → c.normalize e.2 = c.normalize f.2) := by
  simp only [normalField, Prod.mk.injEq]
  refine and_congr_right fun hkey => ?_
  rw [← hkey]
  cases c.omitted.contains e.1 <;> simp

lemma map_fst_eq_of_normalFields {fs gs : List (String × Json)}
    (h : fs.map c.normalField = gs.map c.normalField) : fs.map Prod.fst = gs.map Prod.fst := by
  have hfst : Prod.fst ∘ c.normalField = Prod.fst := rfl
  have h' := congrArg (List.map Prod.fst) h
  rwa [List.map_map, List.map_map, hfst] at h'

lemma map_fst_eq_of_keys {fs gs : List (String × Json)} (hf : Increasing fs) (hg : Increasing gs)
    (h : ∀ key, key ∈ fs.map Prod.fst ↔ key ∈ gs.map Prod.fst) :
    fs.map Prod.fst = gs.map Prod.fst :=
  List.Pairwise.eq_of_mem_iff (List.pairwise_map.mpr hf) (List.pairwise_map.mpr hg)
    fun {key} => h key

lemma normalField_eq_of_mem {fs gs : List (String × Json)} (hg : Increasing gs)
    (h : fs.map c.normalField = gs.map c.normalField) {key : String} {v w : Json}
    (hv : (key, v) ∈ fs) (hw : (key, w) ∈ gs) :
    c.normalField (key, v) = c.normalField (key, w) := by
  have hmem : c.normalField (key, v) ∈ gs.map c.normalField := h ▸ List.mem_map_of_mem hv
  obtain ⟨⟨l, u⟩, hu, hsame⟩ := List.mem_map.mp hmem
  obtain rfl : l = key := congrArg Prod.fst hsame
  rw [← hsame, hg.eq_of_mem hu hw]

lemma getElem_eq_of_map_eq {α β : Type} {f : α → β} {xs ys : List α} (h : xs.map f = ys.map f)
    {k : Nat} (hx : k < xs.length) (hy : k < ys.length) : f xs[k] = f ys[k] := by
  have hk := congrArg (fun zs => zs[k]?) h
  simpa [hx, hy] using hk

theorem equivalent_of_normalize {i j : Json} (hi : i.WellFormed) (hj : j.WellFormed)
    (h : c.normalize i = c.normalize j) : c.Equivalent i j := by
  induction i using Json.tree_induction generalizing j with
  | null =>
    cases j with
    | null => exact .null
    | _ => simp [normalize] at h
  | bool a =>
    cases j with
    | bool b =>
      obtain rfl := Json.bool.inj h
      exact .bool a
    | _ => simp [normalize] at h
  | number m =>
    cases j with
    | number n => exact .number ((Json.Number.normal_eq_iff_agrees m n).mp (Json.number.inj h))
    | _ => simp [normalize] at h
  | string s =>
    cases j with
    | string t =>
      obtain rfl := Json.string.inj h
      exact .string s
    | _ => simp [normalize] at h
  | array xs ih =>
    cases j with
    | array ys =>
      simp only [normalize_array, Json.array.injEq] at h
      have hlength : xs.length = ys.length := by simpa using congrArg List.length h
      refine .array hlength fun k hx hy => ?_
      exact ih xs[k] (List.getElem_mem hx) (.of_mem hi (List.getElem_mem hx))
        (.of_mem hj (List.getElem_mem hy)) (getElem_eq_of_map_eq h hx hy)
    | _ => simp [normalize] at h
  | object fs ih =>
    cases j with
    | object gs =>
      obtain ⟨-, hfs⟩ := hi
      obtain ⟨hg, hgs⟩ := hj
      simp only [normalize_object, Json.object.injEq, normalizeFields_eq_map] at h
      refine .object (fun key => by rw [map_fst_eq_of_normalFields h]) fun key v w hv hw hkey => ?_
      have hsame := (normalField_eq_iff.mp (normalField_eq_of_mem hg h hv hw)).2 hkey
      exact ih (key, v) hv (.of_mem_fields hfs hv) (.of_mem_fields hgs hw) hsame
    | _ => simp [normalize] at h

theorem normalize_of_equivalent {i j : Json} (hi : i.WellFormed) (hj : j.WellFormed)
    (h : c.Equivalent i j) : c.normalize i = c.normalize j := by
  induction h with
  | null => rfl
  | bool b => rfl
  | number hagrees => rw [normalize, normalize, (Json.Number.normal_eq_iff_agrees _ _).mpr hagrees]
  | string s => rfl
  | array hlength hitems ih =>
    rw [normalize_array, normalize_array]
    congr 1
    apply List.ext_getElem
    · simpa using hlength
    · intro k hx hy
      rw [List.length_map] at hx hy
      rw [List.getElem_map, List.getElem_map]
      exact ih k hx hy (.of_mem hi (List.getElem_mem hx)) (.of_mem hj (List.getElem_mem hy))
  | @object fs gs hkeys hvalues ih =>
    obtain ⟨hf, hfs⟩ := hi
    obtain ⟨hg, hgs⟩ := hj
    have hfst := map_fst_eq_of_keys hf hg hkeys
    rw [normalize_object, normalize_object, normalizeFields_eq_map, normalizeFields_eq_map]
    congr 1
    apply List.ext_getElem
    · simpa using congrArg List.length hfst
    · intro k hx hy
      rw [List.length_map] at hx hy
      have hkey : fs[k].1 = gs[k].1 := getElem_eq_of_map_eq hfst hx hy
      have hv : (fs[k].1, fs[k].2) ∈ fs := List.getElem_mem hx
      have hw : (fs[k].1, gs[k].2) ∈ gs := by
        rw [hkey]
        exact List.getElem_mem hy
      rw [List.getElem_map, List.getElem_map, normalField_eq_iff]
      refine ⟨hkey, fun homitted => ?_⟩
      exact ih _ _ _ hv hw homitted (.of_mem_fields hfs hv)
        (.of_mem_fields hgs (List.getElem_mem hy))

/-- Whatever fields are omitted and however deep trees may be: of the trees that have a key, exactly
the equivalent ones share it. -/
theorem keys_agree_iff_equivalent (c : Canonicalizer) {i j : Json} {k l : CacheKey}
    (hi : i.WellFormed) (hj : j.WellFormed) (hk : c.keyOfTree i = .ok k)
    (hl : c.keyOfTree j = .ok l) : k = l ↔ c.Equivalent i j :=
  (c.keyOfTree_eq_iff hk hl).trans ⟨equivalent_of_normalize hi hj, normalize_of_equivalent hi hj⟩

def respelled (context : Json) (zero two : Json.Number) : Json :=
  .object [("context", context), ("v", .array [.number zero, .number two])]

def twoPointZero : Binary64.Finite :=
  ⟨false, Nat.pow 2 52, 1023, by decide +kernel⟩

def integerTree : Json :=
  respelled .null (.whole 0) (.whole 2)

def doubleTree : Json :=
  respelled (.array []) (.double (.zero true)) (.double twoPointZero)

theorem respelled_trees_share_key :
    ∃ k, standard.keyOfTree integerTree = .ok k ∧ standard.keyOfTree doubleTree = .ok k ∧
      standard.Equivalent integerTree doubleTree := by
  have hinteger : integerTree.WellFormed :=
    ⟨List.pairwise_pair.mpr (show "context" < "v" by decide), trivial,
      ⟨⟨by decide, by decide⟩, ⟨by decide, by decide⟩, trivial⟩, trivial⟩
  have hdouble : doubleTree.WellFormed :=
    ⟨List.pairwise_pair.mpr (show "context" < "v" by decide), trivial,
      ⟨trivial, trivial, trivial⟩, trivial⟩
  obtain ⟨k, hk⟩ : ∃ k, standard.keyOfTree integerTree = .ok k := ⟨_, rfl⟩
  have hsame : standard.keyOfTree doubleTree = standard.keyOfTree integerTree := by decide +kernel
  have hl := hsame.trans hk
  exact ⟨k, hk, hl, (standard.keys_agree_iff_equivalent hinteger hdouble hk hl).mp rfl⟩

end Canonicalizer

end AnswerCache
