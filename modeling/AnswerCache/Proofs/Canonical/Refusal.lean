import AnswerCache.Proofs.Json.Tree
import AnswerCache.Proofs.Query.Constants
import AnswerCache.Query.Validate

/-!
What has no key: trees with a node deeper than the limit that is not hidden in an omitted field, and
queries with a constant that is no finite number.
-/

namespace AnswerCache

namespace Json

inductive PathStep
  | item (index : Nat)
  | field (key : String)

inductive Leads : Json → List PathStep → Json → Prop
  | here (j : Json) : Leads j [] j
  | item {items : List Json} {index : Nat} {item node : Json} {path : List PathStep}
    (hitem : items[index]? = some item) (h : Leads item path node) :
    Leads (.array items) (.item index :: path) node
  | field {fields : List (String × Json)} {key : String} {value node : Json} {path : List PathStep}
    (hfield : (key, value) ∈ fields) (h : Leads value path node) :
    Leads (.object fields) (.field key :: path) node

end Json

namespace Canonicalizer

open Json (Leads PathStep)

def Follows (c : Canonicalizer) (path : List PathStep) : Prop :=
  ∀ key, .field key ∈ path → c.omitted.contains key = false

def BeyondLimit (c : Canonicalizer) (depth : Nat) (j : Json) : Prop :=
  ∃ path node, Leads j path node ∧ c.Follows path ∧ c.maxDepth < depth + path.length

variable {c : Canonicalizer} {depth : Nat}

lemma follows_nil (c : Canonicalizer) : c.Follows [] := by
  intro key h
  contradiction

lemma follows_item (index : Nat) (path : List PathStep) :
    c.Follows (.item index :: path) ↔ c.Follows path := by
  simp [Follows]

lemma follows_field (key : String) (path : List PathStep) : c.Follows (.field key :: path) ↔
    c.omitted.contains key = false ∧ c.Follows path := by
  simp [Follows]

lemma beyondLimit_of_lt (h : c.maxDepth < depth) (j : Json) : c.BeyondLimit depth j :=
  ⟨[], j, .here j, c.follows_nil, h⟩

lemma beyondLimit_array (items : List Json) : c.BeyondLimit depth (.array items) ↔
    c.maxDepth < depth ∨ ∃ item ∈ items, c.BeyondLimit (depth + 1) item := by
  constructor
  · rintro ⟨path, node, hleads, hfollows, hlimit⟩
    cases hleads with
    | here => exact Or.inl hlimit
    | @item _ index item _ path hitem h =>
      rw [follows_item] at hfollows
      rw [List.length_cons] at hlimit
      exact Or.inr ⟨item, List.mem_of_getElem? hitem, path, node, h, hfollows, by omega⟩
  · rintro (h | ⟨item, hitem, path, node, hleads, hfollows, hlimit⟩)
    · exact beyondLimit_of_lt h _
    · obtain ⟨index, hindex⟩ := List.mem_iff_getElem?.mp hitem
      refine ⟨.item index :: path, node, .item hindex hleads, (follows_item _ _).mpr hfollows, ?_⟩
      rw [List.length_cons]
      omega

lemma beyondLimit_object (fields : List (String × Json)) : c.BeyondLimit depth (.object fields) ↔
    c.maxDepth < depth ∨ ∃ f ∈ fields, c.omitted.contains f.1 = false ∧
      c.BeyondLimit (depth + 1) f.2 := by
  constructor
  · rintro ⟨path, node, hleads, hfollows, hlimit⟩
    cases hleads with
    | here => exact Or.inl hlimit
    | @field _ key value _ path hfield h =>
      obtain ⟨hkey, hfollows⟩ := (follows_field key path).mp hfollows
      rw [List.length_cons] at hlimit
      exact Or.inr ⟨(key, value), hfield, hkey, path, node, h, hfollows, by omega⟩
  · rintro (h | ⟨⟨key, value⟩, hfield, hkey, path, node, hleads, hfollows, hlimit⟩)
    · exact beyondLimit_of_lt h _
    · refine ⟨.field key :: path, node, .field hfield hleads,
        (follows_field key path).mpr ⟨hkey, hfollows⟩, ?_⟩
      rw [List.length_cons]
      omega

def RefusesWhen {α : Type} (c : Canonicalizer) (P : Prop) (x : Except KeyError α) : Prop :=
  ∀ e, x = .error e ↔ e = .tooDeep c.maxDepth ∧ P

lemma refusesWhen_ok {α : Type} (a : α) : c.RefusesWhen False (.ok a : Except KeyError α) := by
  intro e
  simp

lemma RefusesWhen.congr {α : Type} {P Q : Prop} {x : Except KeyError α} (h : c.RefusesWhen P x)
    (hPQ : P ↔ Q) : c.RefusesWhen Q x := by
  rwa [← hPQ]

lemma RefusesWhen.bind {α β : Type} {P Q : Prop} {x : Except KeyError α}
    {next : α → Except KeyError β} (hx : c.RefusesWhen P x) (hnext : ∀ a, c.RefusesWhen Q (next a)) :
    c.RefusesWhen (P ∨ Q) (x >>= next) := by
  intro e
  rw [bind_eq_error, hx]
  cases x with
  | error e' =>
    obtain ⟨rfl, hP⟩ := (hx e').mp rfl
    simp [hP]
  | ok a =>
    have hP : ¬ P := fun hP => nomatch (hx (.tooDeep c.maxDepth)).mpr ⟨rfl, hP⟩
    simp [hP, hnext a e]

lemma RefusesWhen.join {α β γ : Type} {P Q : Prop} {x : Except KeyError α} {y : Except KeyError β}
    (hx : c.RefusesWhen P x) (hy : c.RefusesWhen Q y) (f : α → β → γ) :
    c.RefusesWhen (P ∨ Q) (x >>= fun a => y >>= fun b => .ok (f a b)) := by
  apply hx.bind
  intro a
  exact (hy.bind fun b => refusesWhen_ok (f a b)).congr (or_iff_left not_false)

lemma refusesWhen_writeMoreItems {items : List Json}
    (h : ∀ item ∈ items, c.RefusesWhen (c.BeyondLimit depth item) (c.write depth item)) :
    c.RefusesWhen (∃ item ∈ items, c.BeyondLimit depth item) (c.writeMoreItems depth items) := by
  induction items with
  | nil => exact (refusesWhen_ok []).congr (by simp)
  | cons item rest ih =>
    obtain ⟨hitem, hrest⟩ := List.forall_mem_cons.mp h
    exact (hitem.join (ih hrest) _).congr (by rw [List.exists_mem_cons_iff])

lemma refusesWhen_writeItems {items : List Json}
    (h : ∀ item ∈ items, c.RefusesWhen (c.BeyondLimit depth item) (c.write depth item)) :
    c.RefusesWhen (∃ item ∈ items, c.BeyondLimit depth item) (c.writeItems depth items) := by
  cases items with
  | nil => exact (refusesWhen_ok []).congr (by simp)
  | cons item rest =>
    obtain ⟨hitem, hrest⟩ := List.forall_mem_cons.mp h
    exact (hitem.join (refusesWhen_writeMoreItems hrest) _).congr
      (by rw [List.exists_mem_cons_iff])

lemma refusesWhen_writeValue {f : String × Json}
    (h : c.RefusesWhen (c.BeyondLimit depth f.2) (c.write depth f.2)) :
    c.RefusesWhen (c.omitted.contains f.1 = false ∧ c.BeyondLimit depth f.2)
      (c.writeValue depth f.1 f.2) := by
  rw [writeValue]
  split
  · rename_i homitted
    exact (refusesWhen_ok emptied).congr (by simp [homitted])
  · rename_i hkept
    exact h.congr (by simp [hkept])

lemma refusesWhen_writeMoreFields {fields : List (String × Json)}
    (h : ∀ f ∈ fields, c.RefusesWhen (c.BeyondLimit depth f.2) (c.write depth f.2)) :
    c.RefusesWhen (∃ f ∈ fields, c.omitted.contains f.1 = false ∧ c.BeyondLimit depth f.2)
      (c.writeMoreFields depth fields) := by
  induction fields with
  | nil => exact (refusesWhen_ok []).congr (by simp)
  | cons field rest ih =>
    obtain ⟨hfield, hrest⟩ := List.forall_mem_cons.mp h
    rw [writeMoreFields_cons]
    exact ((refusesWhen_writeValue hfield).join (ih hrest) _).congr
      (by rw [List.exists_mem_cons_iff])

lemma refusesWhen_writeFields {fields : List (String × Json)}
    (h : ∀ f ∈ fields, c.RefusesWhen (c.BeyondLimit depth f.2) (c.write depth f.2)) :
    c.RefusesWhen (∃ f ∈ fields, c.omitted.contains f.1 = false ∧ c.BeyondLimit depth f.2)
      (c.writeFields depth fields) := by
  cases fields with
  | nil => exact (refusesWhen_ok []).congr (by simp)
  | cons field rest =>
    obtain ⟨hfield, hrest⟩ := List.forall_mem_cons.mp h
    rw [writeFields_cons]
    exact ((refusesWhen_writeValue hfield).join (refusesWhen_writeMoreFields hrest) _).congr
      (by rw [List.exists_mem_cons_iff])

lemma RefusesWhen.map {α β : Type} {P : Prop} {x : Except KeyError α} (hx : c.RefusesWhen P x)
    (f : α → β) : c.RefusesWhen P (x >>= fun a => .ok (f a)) :=
  (hx.bind fun a => refusesWhen_ok (f a)).congr (or_iff_left not_false)

lemma refusesWhen_write_of_body {j : Json} {body : Except KeyError (List Char)}
    (hwrite : c.write depth j = if c.maxDepth < depth then .error (.tooDeep c.maxDepth) else body)
    (hbody : ¬ c.maxDepth < depth → c.RefusesWhen (c.BeyondLimit depth j) body) :
    c.RefusesWhen (c.BeyondLimit depth j) (c.write depth j) := by
  rw [hwrite]
  split
  · rename_i h
    intro e
    rw [Except.error.injEq, eq_comm]
    exact (and_iff_left (beyondLimit_of_lt h j)).symm
  · rename_i h
    exact hbody h

lemma refusesWhen_write_of_leaf {j : Json} {text : List Char}
    (hwrite : c.write depth j =
      if c.maxDepth < depth then .error (.tooDeep c.maxDepth) else .ok text)
    (hleaf : ∀ path node, Leads j path node → path = []) :
    c.RefusesWhen (c.BeyondLimit depth j) (c.write depth j) := by
  apply refusesWhen_write_of_body hwrite
  intro hdepth
  apply (refusesWhen_ok text).congr
  refine iff_of_false not_false ?_
  rintro ⟨path, node, hleads, -, hlimit⟩
  obtain rfl := hleaf path node hleads
  exact hdepth hlimit

theorem refusesWhen_write (c : Canonicalizer) (depth : Nat) (j : Json) :
    c.RefusesWhen (c.BeyondLimit depth j) (c.write depth j) := by
  induction j using Json.tree_induction generalizing depth with
  | null => exact refusesWhen_write_of_leaf (by rw [write.eq_def]) fun _ _ h => by cases h; rfl
  | bool b => exact refusesWhen_write_of_leaf (by rw [write.eq_def]) fun _ _ h => by cases h; rfl
  | number n => exact refusesWhen_write_of_leaf (by rw [write.eq_def]) fun _ _ h => by cases h; rfl
  | string s => exact refusesWhen_write_of_leaf (by rw [write.eq_def]) fun _ _ h => by cases h; rfl
  | array items ih =>
    refine refusesWhen_write_of_body (by rw [write.eq_def]) fun hdepth => ?_
    have hitems := refusesWhen_writeItems fun item hitem => ih item hitem (depth + 1)
    apply (hitems.map fun text => '[' :: text ++ [']']).congr
    rw [beyondLimit_array, or_iff_right hdepth]
  | object fields ih =>
    refine refusesWhen_write_of_body (by rw [write.eq_def]) fun hdepth => ?_
    have hfields := refusesWhen_writeFields fun f hf => ih f hf (depth + 1)
    apply (hfields.map fun text => Json.openBrace :: text ++ [Json.closeBrace]).congr
    rw [beyondLimit_object, or_iff_right hdepth]

def NestsTooDeep (c : Canonicalizer) (j : Json) : Prop :=
  ∃ path node, Leads j path node ∧ c.Follows path ∧ c.maxDepth < path.length

lemma beyondLimit_zero (j : Json) : c.BeyondLimit 0 j ↔ c.NestsTooDeep j := by
  simp only [BeyondLimit, NestsTooDeep, Nat.zero_add]

lemma keyOfTree_error_iff (c : Canonicalizer) (j : Json) (e : KeyError) :
    c.keyOfTree j = .error e ↔ e = .tooDeep c.maxDepth ∧ c.NestsTooDeep j := by
  rw [← beyondLimit_zero]
  exact (c.refusesWhen_write 0 j).map (fun text => (⟨String.ofList text⟩ : CacheKey)) e

lemma keyOf_error_iff (c : Canonicalizer) (q : Query) (e : KeyError) : c.keyOf q = .error e ↔
    (∃ fault, q.constants.findSome? Binary64.fault? = some fault ∧ e = .encoding fault) ∨
      e = .tooDeep c.maxDepth ∧ ∃ j, q.toJson = .ok j ∧ c.NestsTooDeep j := by
  simp only [← Query.toJson_error_iff, keyOf]
  cases q.toJson with
  | error fault => simp [eq_comm]
  | ok j => simp [keyOfTree_error_iff]

/-- There is no key exactly for a tree that is nested too deep and for a query with such a tree or
with a constant that is no finite number, and every refusal says which of these it is. -/
theorem refused_exactly_without_bounded_form (c : Canonicalizer) :
    (∀ q : Query, (∃ e, c.keyOf q = .error e) ↔
      (∃ x ∈ q.constants, x = .nan ∨ ∃ negative, x = .infinite negative) ∨
        ∃ j, q.toJson = .ok j ∧ c.NestsTooDeep j) ∧
    (∀ j : Json, (∃ e, c.keyOfTree j = .error e) ↔ c.NestsTooDeep j) ∧
    (∀ q e, c.keyOf q = .error e →
      (∃ fault, q.constants.findSome? Binary64.fault? = some fault ∧
        e.message = "Serialization error: " ++ fault.message) ∨
      e.message = "Serialization error: " ++ (KeyError.tooDeep c.maxDepth).reason) ∧
    ∀ j e, c.keyOfTree j = .error e →
      e.message = "Serialization error: " ++ (KeyError.tooDeep c.maxDepth).reason := by
  refine ⟨fun q => ?_, fun j => ?_, fun q e h => ?_, fun j e h => ?_⟩
  · rw [← q.exists_toJson_error_iff]
    simp only [keyOf_error_iff, Query.toJson_error_iff, exists_or, exists_and_right, exists_eq,
      true_and]
    apply or_congr_left
    rw [exists_comm]
    simp
  · simp only [keyOfTree_error_iff, exists_and_right, exists_eq, true_and]
  · rcases (c.keyOf_error_iff q e).mp h with ⟨fault, hfault, rfl⟩ | ⟨rfl, -⟩
    · exact Or.inl ⟨fault, hfault, rfl⟩
    · exact Or.inr rfl
  · rw [((c.keyOfTree_error_iff j e).mp h).1]
    rfl

def boxedAs (key : String) : Json :=
  .object [(key, .array [.null])]

def deeplyInfinite : Query :=
  { Query.blank .timeseries (.table "events") with
    postAggregations := [.arithmetic "sum" .plus [.constant "all" (.infinite true)]] }

theorem omitted_depth_is_free :
    let c := standard.withMaxDepth 1
    (∃ e, c.keyOfTree (boxedAs "rows") = .error e) ∧
      (¬ ∃ e, c.keyOfTree (boxedAs "context") = .error e) ∧
      ∃ e, c.keyOf deeplyInfinite = .error e := by
  intro c
  obtain ⟨hquery, htree, -, -⟩ := refused_exactly_without_bounded_form c
  refine ⟨(htree _).mpr ?rows, ?context, (hquery _).mpr (Or.inl ?constant)⟩
  case rows =>
    have hleads : Leads (boxedAs "rows") [.field "rows", .item 0] .null :=
      .field (List.mem_singleton_self _) (.item rfl (.here _))
    refine ⟨_, _, hleads, ?_, by decide⟩
    rw [follows_field, follows_item]
    exact ⟨by decide, c.follows_nil⟩
  case context =>
    rintro ⟨e, he⟩
    contradiction
  case constant => exact ⟨.infinite true, List.mem_singleton_self _, Or.inr ⟨true, rfl⟩⟩

end Canonicalizer

end AnswerCache
