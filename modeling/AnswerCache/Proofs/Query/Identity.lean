import AnswerCache.Proofs.Query.Parts

namespace AnswerCache

open Canonicalizer (standard)

namespace Query

lemma normal_of_toJson {q : Query} {j : Json} (h : q.toJson = .ok j) :
    ∃ ps, PostAggregation.listToJson q.postAggregations = .ok ps ∧
      standard.normalize j = .object
        ([("aggregations", .array (q.aggregations.map Aggregation.toJson)),
          ("context", .object []), ("dataSource", q.dataSource.toJson),
          ("dimensions", .array (q.dimensions.map Json.string))] ++
        (optionalField "filter" Filter.toJson q.filter ++
        ([("granularity", .string q.granularity.name),
          ("intervals", .array (q.intervals.map Interval.toJson))] ++
        (optionalField "limit" jsonOfUInt64 q.limit ++
        [("postAggregations", .array (ps.map standard.normalize)),
          ("queryType", .string q.queryType.name)])))) := by
  obtain ⟨ps, hps, h⟩ := bind_eq_ok.mp h
  obtain rfl := Except.ok.inj h
  refine ⟨ps, hps, ?_⟩
  have hfilter : standard.normalizeFields (optionalField "filter" Filter.toJson q.filter) =
      optionalField "filter" Filter.toJson q.filter :=
    normalize_optionalField (by decide) Filter.normalize_toJson q.filter
  have hlimit : standard.normalizeFields (optionalField "limit" jsonOfUInt64 q.limit) =
      optionalField "limit" jsonOfUInt64 q.limit :=
    normalize_optionalField (by decide) (fun _ => rfl) q.limit
  have haggregations : (q.aggregations.map Aggregation.toJson).map standard.normalize =
      q.aggregations.map Aggregation.toJson := by
    rw [List.map_map]
    exact List.map_congr_left fun a _ => a.normalize_toJson
  have hintervals : (q.intervals.map Interval.toJson).map standard.normalize =
      q.intervals.map Interval.toJson := by
    rw [List.map_map]
    rfl
  simp [hfilter, hlimit, haggregations, hintervals, DataSource.normalize_toJson]

lemma jsonOfUInt64_injective : Function.Injective jsonOfUInt64 := by
  intro m n h
  simp only [jsonOfUInt64, Json.nat, Json.number.injEq, Json.Number.whole.injEq] at h
  exact UInt64.toNat_inj.mp (by omega)

lemma sameFilter_iff (f g : Option Filter) :
    f.map Filter.toJson = g.map Filter.toJson ↔ sameFilter f g = true := by
  cases f <;> cases g <;> simp [sameFilter, Filter.toJson_eq_iff]

lemma normalize_eq_iff_same {q r : Query} {i j : Json} (hi : q.toJson = .ok i)
    (hj : r.toJson = .ok j) : standard.normalize i = standard.normalize j ↔
      (q.withContext .empty).same (r.withContext .empty) = true := by
  obtain ⟨ps, hps, hi⟩ := normal_of_toJson hi
  obtain ⟨qs, hqs, hj⟩ := normal_of_toJson hj
  have hposts := PostAggregation.normalize_listToJson_eq_iff _ _ hps hqs
  have hcontext : Context.same .empty .empty = true := rfl
  simp only [same, withContext, Bool.and_eq_true, beq_iff_eq, hcontext, and_true, ← hposts,
    ← sameFilter_iff]
  rw [hi, hj, Json.object.injEq]
  constructor
  · intro h
    obtain ⟨hhead, h⟩ := List.append_inj h rfl
    obtain ⟨hfilter, h⟩ := optionalField_append_inj (by simp) (by simp) h
    obtain ⟨hmid, h⟩ := List.append_inj h rfl
    obtain ⟨hlimit, htail⟩ := optionalField_append_inj (by simp) (by simp) h
    have hlimit := Option.map_injective jsonOfUInt64_injective hlimit
    simp only [List.cons.injEq, Prod.mk.injEq, Json.array.injEq, Json.string.injEq, true_and,
      and_true] at hhead hmid htail
    obtain ⟨haggregations, hsource, hdimensions⟩ := hhead
    exact ⟨⟨⟨⟨⟨⟨⟨⟨QueryType.name_injective htail.2, DataSource.toJson_injective hsource⟩,
      map_string_inj.mp hdimensions⟩, Aggregation.toJson_injective.list_map haggregations⟩,
      htail.1⟩, hfilter⟩, Granularity.name_injective hmid.1⟩,
      Interval.toJson_injective.list_map hmid.2⟩, hlimit⟩
  · rintro ⟨⟨⟨⟨⟨⟨⟨⟨htype, hsource⟩, hdimensions⟩, haggregations⟩, hposts⟩, hfilter⟩, hgranularity⟩,
      hintervals⟩, hlimit⟩
    have hfield : optionalField "filter" Filter.toJson q.filter =
        optionalField "filter" Filter.toJson r.filter := by
      cases hq : q.filter <;> cases hr : r.filter <;> simp_all [optionalField]
    rw [htype, hsource, hdimensions, haggregations, hposts, hfield, hgranularity, hintervals,
      hlimit]

end Query

namespace Canonicalizer

lemma toJson_of_keyOf {c : Canonicalizer} {q : Query} {k : CacheKey} (h : c.keyOf q = .ok k) :
    ∃ j, q.toJson = .ok j ∧ c.keyOfTree j = .ok k := by
  rw [keyOf] at h
  split at h
  · rename_i j hj
    exact ⟨j, hj, h⟩
  · contradiction

lemma keyOf_eq_iff_same {q r : Query} {k l : CacheKey} (hq : standard.keyOf q = .ok k)
    (hr : standard.keyOf r = .ok l) :
    k = l ↔ (q.withContext .empty).same (r.withContext .empty) = true := by
  obtain ⟨i, hi, hk⟩ := toJson_of_keyOf hq
  obtain ⟨j, hj, hl⟩ := toJson_of_keyOf hr
  rw [keyOfTree_eq_iff standard hk hl, Query.normalize_eq_iff_same hi hj]

section Context

variable {c : Canonicalizer} (hc : c.omitted.contains contextField = true)
include hc

lemma write_context (depth : Nat) (first : String × Json) (v w : Json)
    (rest : List (String × Json)) :
    c.write depth (.object (first :: ("context", v) :: rest)) =
      c.write depth (.object (first :: ("context", w) :: rest)) := by
  obtain ⟨key, value⟩ := first
  have hmore : c.writeMoreFields (depth + 1) (("context", v) :: rest) =
      c.writeMoreFields (depth + 1) (("context", w) :: rest) := by
    have homitted : c.omitted.contains "context" = true := hc
    simp only [writeMoreFields, homitted, if_true]
  simp only [write, writeFields_cons, hmore]

lemma keyOf_withContext_of_omitted (q : Query) (context : Context) :
    c.keyOf (q.withContext context) = c.keyOf q := by
  cases hps : PostAggregation.listToJson q.postAggregations with
  | error e => simp [keyOf, Query.toJson, Query.withContext, hps, bind, Except.bind]
  | ok ps =>
    simp only [keyOf, Query.toJson, Query.withContext, hps, bind, Except.bind, pure, Except.pure,
      keyOfTree, List.cons_append]
    rw [write_context hc]

end Context

lemma keyOf_withContext (q : Query) (context : Context) :
    standard.keyOf (q.withContext context) = standard.keyOf q :=
  keyOf_withContext_of_omitted rfl q context

/-- Two queries share a key exactly when they differ in their contexts only, and the context plays
no part in whether there is a key. -/
theorem standard_key_is_identity :
    (∀ (q r : Query) (k l : CacheKey), standard.keyOf q = .ok k → standard.keyOf r = .ok l →
      (k = l ↔ (q.withContext .empty).same (r.withContext .empty) = true)) ∧
    ∀ (q : Query) (context : Context),
      standard.keyOf (q.withContext context) = standard.keyOf q :=
  ⟨fun _ _ _ _ => keyOf_eq_iff_same, keyOf_withContext⟩

def zeroQuery (negative : Bool) : Query :=
  { Query.blank .timeseries (.table "events") with
    postAggregations := [.constant "zero" (.finite (.zero negative))] }

theorem zeros_share_key :
    ∃ k, standard.keyOf (zeroQuery false) = .ok k ∧ standard.keyOf (zeroQuery true) = .ok k := by
  obtain ⟨k, hk⟩ : ∃ k, standard.keyOf (zeroQuery false) = .ok k := ⟨_, rfl⟩
  obtain ⟨l, hl⟩ : ∃ l, standard.keyOf (zeroQuery true) = .ok l := ⟨_, rfl⟩
  have hkl : k = l := (standard_key_is_identity.1 _ _ _ _ hk hl).mpr (by decide)
  exact ⟨k, hk, hkl ▸ hl⟩

end Canonicalizer

end AnswerCache
