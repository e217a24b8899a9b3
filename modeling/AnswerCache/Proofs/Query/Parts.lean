import AnswerCache.Proofs.Canonical
import AnswerCache.Proofs.Dictionary
import AnswerCache.Proofs.Time.Written
import AnswerCache.Query.Validate

namespace AnswerCache

open Canonicalizer (standard)

namespace Canonicalizer

@[simp] lemma contains_omitted_standard (key : String) :
    standard.omitted.contains key = (key == "context") := by
  simp only [standard, Dictionary.contains, Dictionary.find?_insert, Dictionary.find?_empty,
    contextField]
  by_cases h : key = "context" <;> simp [h]

end Canonicalizer

lemma normalize_optionalField {α : Type} {key : String} (hkey : key ≠ "context")
    {encode : α → Json} (h : ∀ a, standard.normalize (encode a) = encode a) (o : Option α) :
    standard.normalizeFields (optionalField key encode o) = optionalField key encode o := by
  cases o <;> simp [optionalField, hkey, h]

lemma optionalField_append_inj {α : Type} {key : String} {encode : α → Json} {o p : Option α}
    {rest rest' : List (String × Json)} (hr : ∀ e ∈ rest.head?, e.1 ≠ key)
    (hr' : ∀ e ∈ rest'.head?, e.1 ≠ key)
    (h : optionalField key encode o ++ rest = optionalField key encode p ++ rest') :
    o.map encode = p.map encode ∧ rest = rest' := by
  cases o <;> cases p <;> simp only [optionalField, List.nil_append, List.singleton_append] at h
  · exact ⟨rfl, h⟩
  · rw [h] at hr
    exact absurd rfl (hr _ rfl)
  · rw [← h] at hr'
    exact absurd rfl (hr' _ rfl)
  · obtain ⟨he, hrest⟩ := List.cons.inj h
    exact ⟨congrArg some (Prod.mk.inj he).2, hrest⟩

namespace Interval

lemma written_injective : Function.Injective written := by
  intro i j h
  obtain ⟨hstart, hstop⟩ := Text.append_cons_inj '/' i.start.slash_notMem_written
    j.start.slash_notMem_written (String.ofList_inj.mp h)
  have hs := Instant.written_inj i.start_milli j.start_milli hstart
  have ht := Instant.written_inj i.stop_milli j.stop_milli hstop
  cases i
  cases j
  simp_all

lemma toJson_injective : Function.Injective toJson :=
  fun _ _ h => written_injective (Json.string.inj h)

end Interval

lemma QueryType.name_injective : Function.Injective name := by
  intro a b h
  cases a <;> cases b <;> simp_all [name]

lemma Granularity.name_injective : Function.Injective name := by
  intro a b h
  cases a <;> cases b <;> simp_all [name]

lemma AggregationType.name_injective : Function.Injective name := by
  intro a b h
  cases a <;> cases b <;> simp_all [name]

lemma ArithmeticFn.name_injective : Function.Injective name := by
  intro a b h
  cases a <;> cases b <;> simp_all [name]

lemma string_injective : Function.Injective Json.string := fun _ _ h => Json.string.inj h

lemma map_string_inj {xs ys : List String} : xs.map Json.string = ys.map Json.string ↔ xs = ys :=
  string_injective.list_map.eq_iff

@[simp] lemma map_normalize_strings (xs : List String) :
    (xs.map Json.string).map standard.normalize = xs.map Json.string := by
  rw [List.map_map]
  rfl

namespace DataSource

lemma normalize_toJson (d : DataSource) : standard.normalize d.toJson = d.toJson := by
  cases d <;> simp [toJson]

lemma toJson_injective : Function.Injective toJson := by
  intro d e h
  cases d <;> cases e <;> simp [toJson, Tag.name, map_string_inj] at h ⊢
  · exact h
  · exact h

end DataSource

namespace Aggregation

lemma normalize_toJson (a : Aggregation) : standard.normalize a.toJson = a.toJson := by
  rw [toJson, Canonicalizer.normalize_object, Canonicalizer.normalizeFields_append,
    normalize_optionalField (by decide) (fun _ => rfl)]
  simp

lemma toJson_injective : Function.Injective toJson := by
  intro a b h
  obtain ⟨hfield, hrest⟩ := optionalField_append_inj (by simp) (by simp) (Json.object.inj h)
  have hfield := Option.map_injective string_injective hfield
  simp only [List.cons.injEq, Prod.mk.injEq, Json.string.injEq] at hrest
  cases a
  cases b
  simp_all [AggregationType.name_injective.eq_iff]

end Aggregation

namespace Filter

mutual

lemma normalize_toJson (f : Filter) : standard.normalize f.toJson = f.toJson := by
  match f with
  | selector _ _ => simp [toJson]
  | among _ _ => simp [toJson]
  | bound dimension lower upper =>
    have hlower : standard.normalizeFields (optionalField "lower" Json.string lower) =
        optionalField "lower" Json.string lower :=
      normalize_optionalField (by decide) (fun _ => rfl) lower
    have hupper : standard.normalizeFields (optionalField "upper" Json.string upper) =
        optionalField "upper" Json.string upper :=
      normalize_optionalField (by decide) (fun _ => rfl) upper
    simp [toJson, hlower, hupper]
  | and fields => simp [toJson, normalize_listToJson fields]
  | or fields => simp [toJson, normalize_listToJson fields]
  | not field => simp [toJson, normalize_toJson field]

lemma normalize_listToJson (fs : List Filter) :
    (listToJson fs).map standard.normalize = listToJson fs := by
  match fs with
  | [] => rfl
  | f :: fs => rw [listToJson, List.map_cons, normalize_toJson f, normalize_listToJson fs]

end

lemma bound_toJson_inj {d e : String} {l m u v : Option String}
    (h : (bound d l u).toJson = (bound e m v).toJson) : d = e ∧ l = m ∧ u = v := by
  simp only [toJson, List.cons_append, Json.object.injEq, List.cons.injEq] at h
  obtain ⟨hd, h⟩ := h
  obtain ⟨hl, h⟩ := optionalField_append_inj (by simp) (by simp) h
  have hupper : optionalField "upper" Json.string u ++ [] =
      optionalField "upper" Json.string v ++ [] := by
    simpa using (List.cons.inj h).2
  obtain ⟨hu, -⟩ := optionalField_append_inj (by simp) (by simp) hupper
  exact ⟨Json.string.inj (Prod.mk.inj hd).2, Option.map_injective string_injective hl,
    Option.map_injective string_injective hu⟩

mutual

lemma toJson_eq_iff (f g : Filter) : f.toJson = g.toJson ↔ f.same g = true := by
  match f with
  | selector d v =>
    cases g with
    | bound e m w => cases m <;> simp [toJson, same, Tag.name, optionalField]
    | _ => simp [toJson, same, Tag.name]
  | among d vs =>
    cases g with
    | bound e m w => cases m <;> simp [toJson, same, Tag.name, optionalField]
    | _ => simp [toJson, same, Tag.name, map_string_inj]
  | bound d l u =>
    cases g with
    | bound e m v =>
      simp only [same, Bool.and_eq_true, beq_iff_eq, and_assoc]
      exact ⟨bound_toJson_inj, by rintro ⟨rfl, rfl, rfl⟩; rfl⟩
    | _ => cases l <;> simp [toJson, same, Tag.name, optionalField]
  | and xs => cases g <;> simp [toJson, same, Tag.name, listToJson_eq_iff xs]
  | or xs => cases g <;> simp [toJson, same, Tag.name, listToJson_eq_iff xs]
  | not x => cases g <;> simp [toJson, same, Tag.name, toJson_eq_iff x]

lemma listToJson_eq_iff (xs ys : List Filter) :
    listToJson xs = listToJson ys ↔ sameList xs ys = true := by
  match xs, ys with
  | [], [] => simp [listToJson, sameList]
  | [], _ :: _ => simp [listToJson, sameList]
  | _ :: _, [] => simp [listToJson, sameList]
  | x :: xs, y :: ys =>
    simp [listToJson, sameList, toJson_eq_iff x y, listToJson_eq_iff xs ys]

end

end Filter

namespace PostAggregation

lemma arithmetic_of_toJson {name : String} {f : ArithmeticFn} {xs : List PostAggregation} {j : Json}
    (h : (arithmetic name f xs).toJson = .ok j) : ∃ js, listToJson xs = .ok js ∧
      standard.normalize j = .object [("fields", .array (js.map standard.normalize)),
        ("fn", .string f.name), ("name", .string name), ("type", .string "arithmetic")] := by
  obtain ⟨js, hjs, h⟩ := bind_eq_ok.mp h
  obtain rfl := Except.ok.inj h
  exact ⟨js, hjs, by simp [Tag.name]⟩

lemma fieldAccess_of_toJson {name field : String} {j : Json}
    (h : (fieldAccess name field).toJson = .ok j) : standard.normalize j =
      .object [("fieldName", .string field), ("name", .string name),
        ("type", .string "fieldAccess")] := by
  obtain rfl := Except.ok.inj h
  simp [Tag.name]

lemma constant_of_toJson {name : String} {value : Binary64} {j : Json}
    (h : (constant name value).toJson = .ok j) : ∃ x, value = .finite x ∧ standard.normalize j =
      .object [("name", .string name), ("type", .string "constant"),
        ("value", .number (Json.Number.double x).normal)] := by
  obtain ⟨v, hv, h⟩ := bind_eq_ok.mp h
  obtain rfl := Except.ok.inj h
  cases value with
  | finite x =>
    obtain rfl := Except.ok.inj hv
    exact ⟨x, rfl, by simp [Tag.name, Canonicalizer.normalize]⟩
  | infinite negative => contradiction
  | nan => contradiction

mutual

lemma normalize_toJson_eq_iff (p q : PostAggregation) {i j : Json} (hi : p.toJson = .ok i)
    (hj : q.toJson = .ok j) : standard.normalize i = standard.normalize j ↔ p.same q = true := by
  match p with
  | arithmetic m f xs =>
    obtain ⟨is, his, hi'⟩ := arithmetic_of_toJson hi
    cases q with
    | arithmetic n g ys =>
      obtain ⟨js, hjs, hj'⟩ := arithmetic_of_toJson hj
      have hfields := normalize_listToJson_eq_iff xs ys his hjs
      simp [hi', hj', same, hfields, ArithmeticFn.name_injective.eq_iff, and_comm]
    | fieldAccess n g => simp [hi', fieldAccess_of_toJson hj, same]
    | constant n y =>
      obtain ⟨y, rfl, hj'⟩ := constant_of_toJson hj
      simp [hi', hj', same]
  | fieldAccess m f =>
    have hi' := fieldAccess_of_toJson hi
    cases q with
    | arithmetic n g ys =>
      obtain ⟨js, hjs, hj'⟩ := arithmetic_of_toJson hj
      simp [hi', hj', same]
    | fieldAccess n g => simp [hi', fieldAccess_of_toJson hj, same, and_comm]
    | constant n y =>
      obtain ⟨y, rfl, hj'⟩ := constant_of_toJson hj
      simp [hi', hj', same]
  | constant m x =>
    obtain ⟨x, rfl, hi'⟩ := constant_of_toJson hi
    cases q with
    | arithmetic n g ys =>
      obtain ⟨js, hjs, hj'⟩ := arithmetic_of_toJson hj
      simp [hi', hj', same]
    | fieldAccess n g => simp [hi', fieldAccess_of_toJson hj, same]
    | constant n y =>
      obtain ⟨y, rfl, hj'⟩ := constant_of_toJson hj
      simp [hi', hj', same, Binary64.sameValue, Json.Number.normal_double_eq_iff]

lemma normalize_listToJson_eq_iff (xs ys : List PostAggregation) {is js : List Json}
    (hi : listToJson xs = .ok is) (hj : listToJson ys = .ok js) :
    is.map standard.normalize = js.map standard.normalize ↔ sameList xs ys = true := by
  match xs, ys with
  | [], [] =>
    obtain rfl := Except.ok.inj hi
    obtain rfl := Except.ok.inj hj
    simp [sameList]
  | [], y :: ys =>
    obtain rfl := Except.ok.inj hi
    obtain ⟨j, -, hj⟩ := bind_eq_ok.mp hj
    obtain ⟨js, -, hj⟩ := bind_eq_ok.mp hj
    obtain rfl := Except.ok.inj hj
    simp [sameList]
  | x :: xs, [] =>
    obtain rfl := Except.ok.inj hj
    obtain ⟨i, -, hi⟩ := bind_eq_ok.mp hi
    obtain ⟨is, -, hi⟩ := bind_eq_ok.mp hi
    obtain rfl := Except.ok.inj hi
    simp [sameList]
  | x :: xs, y :: ys =>
    obtain ⟨i, hx, hi⟩ := bind_eq_ok.mp hi
    obtain ⟨is, hxs, hi⟩ := bind_eq_ok.mp hi
    obtain rfl := Except.ok.inj hi
    obtain ⟨j, hy, hj⟩ := bind_eq_ok.mp hj
    obtain ⟨js, hys, hj⟩ := bind_eq_ok.mp hj
    obtain rfl := Except.ok.inj hj
    simp [sameList, normalize_toJson_eq_iff x y hx hy, normalize_listToJson_eq_iff xs ys hxs hys]

end

end PostAggregation

end AnswerCache
