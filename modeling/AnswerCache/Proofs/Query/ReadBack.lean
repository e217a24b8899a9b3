import AnswerCache.Proofs.Json.Decode
import AnswerCache.Proofs.Time.ReadBack

namespace AnswerCache

open Json (Origin bind_of_ok decodeFields_object decodeOnly decodeOnly_of_mem decodePair
  decodeTagged_object decodeVariant findTag findTag_of_mem foldMembers_field foldMembers_optional
  readOnce readOnce_of_ok)
open Json.Source (ofFields ofItems ofJson toText)

lemma toText_ofJson (s : String) : toText (ofJson (.string s)) = .ok s :=
  rfl

lemma toTexts_ofJson (ss : List String) :
    (ofJson (.array (ss.map .string))).toList toText = .ok ss :=
  Json.Source.toList_array fun s _ => toText_ofJson s

lemma QueryType.decode_name (origin : Origin) (t : QueryType) :
    decodeVariant origin variants (ofJson (.string t.name)) = .ok t := by
  cases t <;> rfl

lemma Granularity.decode_name (origin : Origin) (g : Granularity) :
    decodeVariant origin variants (ofJson (.string g.name)) = .ok g := by
  cases g <;> rfl

lemma ArithmeticFn.decode_name (origin : Origin) (f : ArithmeticFn) :
    decodeVariant origin variants (ofJson (.string f.name)) = .ok f := by
  cases f <;> rfl

lemma Interval.decode_toJson {i : Interval} (hi : i.FourDigitYears) :
    decode (ofJson i.toJson) = .ok i := by
  have hparse := parse_written hi
  rw [decode, toJson, bind_of_ok (toText_ofJson i.written), hparse]
  rfl

namespace DataSource

lemma decode_toJson (origin : Origin) (d : DataSource) :
    decode origin (ofJson d.toJson) = .ok d := by
  cases d with
  | table name => rfl
  | union names =>
    have htag : findTag origin "type" Tag.variants none (ofFields
        [("names", .array (names.map .string)), ("type", .string Tag.union.name)]) = .ok .union :=
      findTag_of_mem origin Tag.union.name (by simp) (by simp) rfl
    have hnames : decodeOnly "struct variant DataSource::Union" "names"
        (Json.Source.toList toText) (ofJson (.object
          [("names", .array (names.map .string)), ("type", .string Tag.union.name)])) =
        .ok names :=
      decodeOnly_of_mem _ (by simp) (by simp) (toTexts_ofJson names)
    rw [toJson, decode, bind_of_ok (decodeTagged_object htag)]
    exact bind_of_ok hnames _

end DataSource

namespace Aggregation

lemma decode_toJson (origin : Origin) (a : Aggregation) :
    decode origin (ofJson a.toJson) = .ok a := by
  obtain ⟨type, name, fieldName⟩ := a
  cases fieldName <;> cases type <;> rfl

end Aggregation

namespace Filter

lemma decode_among (origin : Origin) (dimension : String) (values : List String) :
    decode origin (ofJson (among dimension values).toJson) = .ok (among dimension values) := by
  have htag : findTag origin "type" Tag.variants none (ofFields
      [("dimension", .string dimension), ("type", .string Tag.among.name),
        ("values", .array (values.map .string))]) = .ok .among :=
    findTag_of_mem origin Tag.among.name (by simp) (by simp) rfl
  have hpair : decodePair "struct variant Filter::In" "dimension" toText "values"
      (Json.Source.toList toText) (ofJson (.object
        [("dimension", .string dimension), ("type", .string Tag.among.name),
          ("values", .array (values.map .string))])) = .ok (dimension, values) := by
    have hvalues : readOnce "values" none ((ofJson (.array (values.map .string))).toList toText) =
        .ok (some values) := bind_of_ok (toTexts_ofJson values) _
    have hne : "values" ≠ "dimension" := by decide
    rw [decodePair, decodeFields_object, foldMembers_field rfl, foldMembers_field rfl, ofFields,
      Json.foldMembers]
    simp only [if_neg hne, if_true, hvalues]
    rfl
  rw [toJson, ofJson, decode, bind_of_ok htag]
  exact bind_of_ok hpair _

lemma findTag_second (origin : Origin) (t : Tag) {key : String} (hkey : key ≠ "type") (j : Json) :
    findTag origin "type" Tag.variants none (ofFields [(key, j), ("type", .string t.name)]) =
      .ok t :=
  findTag_of_mem origin t.name (by simp [hkey]) (by simp) (by cases t <;> rfl)

lemma decodeFields_ofFields {fs : List Filter} (h : decodeList (ofItems (listToJson fs)) = .ok fs)
    (tag : String) : decodeFields none (ofFields
      [("fields", .array (listToJson fs)), ("type", .string tag)]) = .ok fs := by
  rw [ofFields, decodeFields, if_pos rfl]
  exact bind_of_ok h _

lemma decodeField_ofFields {f : Filter} (h : decode .tagged (ofJson f.toJson) = .ok f)
    (tag : String) : decodeField none (ofFields [("field", f.toJson), ("type", .string tag)]) =
      .ok f := by
  rw [ofFields, decodeField, if_pos rfl]
  exact bind_of_ok h _

mutual

lemma decode_toJson (origin : Origin) (f : Filter) : decode origin (ofJson f.toJson) = .ok f := by
  match f with
  | selector d v => rfl
  | among d vs => exact decode_among origin d vs
  | bound d l u => cases l <;> cases u <;> rfl
  | and fields =>
    have hfields := decodeFields_ofFields (decodeList_listToJson fields) Tag.and.name
    rw [toJson, ofJson, decode, bind_of_ok (findTag_second origin .and (by decide) _)]
    exact bind_of_ok hfields _
  | or fields =>
    have hfields := decodeFields_ofFields (decodeList_listToJson fields) Tag.or.name
    rw [toJson, ofJson, decode, bind_of_ok (findTag_second origin .or (by decide) _)]
    exact bind_of_ok hfields _
  | not field =>
    have hfield := decodeField_ofFields (decode_toJson .tagged field) Tag.not.name
    rw [toJson, ofJson, decode, bind_of_ok (findTag_second origin .not (by decide) _)]
    exact bind_of_ok hfield _

lemma decodeList_listToJson (fs : List Filter) : decodeList (ofItems (listToJson fs)) = .ok fs := by
  match fs with
  | [] => rfl
  | f :: fs =>
    rw [listToJson, ofItems, decodeList, bind_of_ok (decode_toJson .tagged f),
      bind_of_ok (decodeList_listToJson fs)]
    rfl

end

end Filter

inductive PostAggregation.Finite : PostAggregation → Prop
  | arithmetic (name : String) (function : ArithmeticFn) {fields : List PostAggregation}
    (h : ∀ p ∈ fields, Finite p) : Finite (.arithmetic name function fields)
  | fieldAccess (name fieldName : String) : Finite (.fieldAccess name fieldName)
  | constant (name : String) (x : Binary64.Finite) : Finite (.constant name (.finite x))

namespace PostAggregation

def ReadsBack (origin : Origin) (p : PostAggregation) : Prop :=
  ∃ j, p.toJson = .ok j ∧ decode origin (ofJson j) = .ok p

lemma listToJson_of_readsBack {origin : Origin} {ps : List PostAggregation}
    (h : ∀ p ∈ ps, p.ReadsBack origin) : ∃ js, listToJson ps = .ok js ∧
      (ofItems js).mapM (decode origin) = .ok ps := by
  induction ps with
  | nil => exact ⟨[], rfl, rfl⟩
  | cons p ps ih =>
    obtain ⟨⟨j, hj, hp⟩, hrest⟩ := List.forall_mem_cons.mp h
    obtain ⟨js, hjs, hps⟩ := ih hrest
    refine ⟨j :: js, ?_, ?_⟩
    · rw [listToJson, hj, hjs]
      rfl
    · rw [ofItems, List.mapM_cons, bind_of_ok hp, bind_of_ok hps]
      rfl

lemma decodeList_eq_mapM (items : List Json.Source) :
    decodeList items = items.mapM (decode .tagged) := by
  induction items with
  | nil => rfl
  | cons item rest ih => rw [decodeList, ih, List.mapM_cons]

lemma decodeArithmetic_ofFields {js : List Json} {fields : List PostAggregation}
    (h : (ofItems js).mapM (decode .tagged) = .ok fields) (name tag : String) (f : ArithmeticFn) :
    decodeArithmetic none none none (ofFields [("fields", .array js), ("fn", .string f.name),
      ("name", .string name), ("type", .string tag)]) = .ok (.arithmetic name f fields) := by
  have hfields : decodeItems (ofJson (.array js)) = .ok fields := by
    rw [ofJson, decodeItems, decodeList_eq_mapM, h]
  have hfunction : readOnce "fn" none
      (decodeVariant .tagged ArithmeticFn.variants (ofJson (.string f.name))) = .ok (some f) :=
    bind_of_ok (f.decode_name .tagged) _
  rw [ofFields, decodeArithmetic, if_neg (by decide), if_neg (by decide), if_pos rfl]
  refine (bind_of_ok hfields _).trans ?_
  rw [ofFields, decodeArithmetic, if_neg (by decide), if_pos rfl]
  exact bind_of_ok hfunction _

lemma readsBack_arithmetic (origin : Origin) (name : String) (f : ArithmeticFn)
    {fields : List PostAggregation} (h : ∀ p ∈ fields, p.ReadsBack .tagged) :
    (arithmetic name f fields).ReadsBack origin := by
  obtain ⟨js, hjs, hfields⟩ := listToJson_of_readsBack h
  have htag : findTag origin "type" Tag.variants none (ofFields [("fields", .array js),
      ("fn", .string f.name), ("name", .string name), ("type", .string Tag.arithmetic.name)]) =
      .ok .arithmetic :=
    findTag_of_mem origin Tag.arithmetic.name (by simp) (by simp) rfl
  refine ⟨.object [("fields", .array js), ("fn", .string f.name), ("name", .string name),
    ("type", .string Tag.arithmetic.name)], ?_, ?_⟩
  · rw [toJson, hjs]
    rfl
  · rw [ofJson, decode, bind_of_ok htag]
    exact decodeArithmetic_ofFields hfields name _ f

lemma Finite.readsBack {p : PostAggregation} (hp : p.Finite) (origin : Origin) :
    p.ReadsBack origin := by
  induction hp generalizing origin with
  | arithmetic name f _ ih => exact readsBack_arithmetic origin name f fun p hp => ih p hp .tagged
  | fieldAccess name fieldName => exact ⟨_, rfl, rfl⟩
  | constant name x => exact ⟨_, rfl, rfl⟩

end PostAggregation

namespace Query

lemma toOption_filter (f : Filter) :
    (ofJson f.toJson).toOption (Filter.decode .tree) = .ok (some f) := by
  have hf := bind_of_ok (f.decode_toJson .tree) fun f => pure (some f)
  cases f <;> exact hf

lemma toOption_limit (n : UInt64) :
    (ofJson (jsonOfUInt64 n)).toOption Json.Source.toUInt64 = .ok (some n) :=
  Json.Source.toOption_ofJson (some n)

lemma read_filter (p : Partial) (hp : p.filter = none) (f : Filter) :
    p.read .tree "filter" (ofJson f.toJson) = .ok { p with filter := some (some f) } := by
  rw [Partial.read, hp, bind_of_ok (readOnce_of_ok (toOption_filter f) "filter")]
  rfl

lemma read_limit (p : Partial) (hp : p.limit = none) (n : UInt64) :
    p.read .tree "limit" (ofJson (jsonOfUInt64 n)) = .ok { p with limit := some (some n) } := by
  rw [Partial.read, hp, bind_of_ok (readOnce_of_ok (toOption_limit n) "limit")]
  rfl

def asRead (q : Query) : Partial :=
  ⟨some q.queryType, some q.dataSource, some q.dimensions, some q.aggregations,
    some q.postAggregations, q.filter.map some, some q.granularity, some q.intervals,
    q.limit.map some, some q.context⟩

lemma foldMembers_asRead {q : Query} {js : List Json}
    (hposts : (ofJson (.array js)).toList (PostAggregation.decode .tree) = .ok q.postAggregations)
    (hyears : ∀ i ∈ q.intervals, i.FourDigitYears)
    (hcontext : ∀ f ∈ q.context.entries, f.2.WellFormed) :
    Json.foldMembers (Partial.read .tree) {} (ofFields
      ([("aggregations", .array (q.aggregations.map Aggregation.toJson)),
        ("context", Context.toJson q.context), ("dataSource", q.dataSource.toJson),
        ("dimensions", .array (q.dimensions.map .string))] ++
      (optionalField "filter" Filter.toJson q.filter ++
      ([("granularity", .string q.granularity.name),
        ("intervals", .array (q.intervals.map Interval.toJson))] ++
      (optionalField "limit" jsonOfUInt64 q.limit ++
      [("postAggregations", .array js), ("queryType", .string q.queryType.name)]))))) =
      .ok q.asRead := by
  have haggregations := readOnce_of_ok (Json.Source.toList_array
    fun a (_ : a ∈ q.aggregations) => Aggregation.decode_toJson .tree a) "aggregations"
  have hentries := readOnce_of_ok (Json.Source.toDictionary_ofJson hcontext) "context"
  have hsource := readOnce_of_ok (q.dataSource.decode_toJson .tree) "dataSource"
  have hdimensions := readOnce_of_ok (toTexts_ofJson q.dimensions) "dimensions"
  have hgranularity := readOnce_of_ok (q.granularity.decode_name .tree) "granularity"
  have hintervals := readOnce_of_ok (Json.Source.toList_array
    fun i hi => Interval.decode_toJson (hyears i hi)) "intervals"
  have hexpressions := readOnce_of_ok hposts "postAggregations"
  have htype := readOnce_of_ok (q.queryType.decode_name .tree) "queryType"
  refine Eq.trans (foldMembers_field (bind_of_ok haggregations _) _) ?_
  refine Eq.trans (foldMembers_field (bind_of_ok hentries _) _) ?_
  refine Eq.trans (foldMembers_field (bind_of_ok hsource _) _) ?_
  refine Eq.trans (foldMembers_field (bind_of_ok hdimensions _) _) ?_
  refine Eq.trans (foldMembers_optional (fun o => Partial.mk none (some q.dataSource)
    (some q.dimensions) (some q.aggregations) none (o.map some) none none none (some q.context))
    rfl (fun f => read_filter _ rfl f) _) ?_
  refine Eq.trans (foldMembers_field (bind_of_ok hgranularity _) _) ?_
  refine Eq.trans (foldMembers_field (bind_of_ok hintervals _) _) ?_
  refine Eq.trans (foldMembers_optional (fun o => Partial.mk none (some q.dataSource)
    (some q.dimensions) (some q.aggregations) none (q.filter.map some) (some q.granularity)
    (some q.intervals) (o.map some) (some q.context)) rfl (fun n => read_limit _ rfl n) _) ?_
  refine Eq.trans (foldMembers_field (bind_of_ok hexpressions _) _) ?_
  exact foldMembers_field (bind_of_ok htype _) []

/-- A query whose constants are finite and whose intervals stay in years of four digits can be
written, and is what is read from the tree that it is written as. -/
theorem tree_round_trip {q : Query} (hfinite : ∀ p ∈ q.postAggregations, p.Finite)
    (hyears : ∀ i ∈ q.intervals, i.FourDigitYears)
    (hcontext : ∀ f ∈ q.context.entries, f.2.WellFormed) :
    ∃ j, q.toJson = .ok j ∧ Json.decodeTree decode j = .ok q := by
  obtain ⟨js, hjs, hposts⟩ := PostAggregation.listToJson_of_readsBack
    fun p hp => (hfinite p hp).readsBack .tree
  have hread := foldMembers_asRead hposts hyears hcontext
  have hjoin : ∀ {α : Type} (o : Option α), (o.map some).join = o := by
    rintro α (_ | _) <;> rfl
  refine ⟨_, bind_of_ok hjs _, ?_⟩
  rw [Json.decodeTree, decode]
  simp only [List.append_assoc]
  refine (bind_of_ok hread _).trans ?_
  simp only [asRead, hjoin]
  rfl

def allYears : Interval where
  start := ⟨-62167219141, 1500000000, by decide, by decide, by decide⟩
  stop := ⟨253402300799, 1999000000, by decide, by decide, by decide⟩
  start_milli := by decide
  stop_milli := by decide
  start_le_stop := by decide

def overAllYears : Query where
  queryType := .groupBy
  dataSource := .union ["events", "clicks"]
  dimensions := ["page"]
  aggregations := [⟨.count, "rows", none⟩, ⟨.longSum, "bytes", some "size"⟩]
  postAggregations := [.arithmetic "mean" .divide [.fieldAccess "sum" "bytes",
    .arithmetic "shifted" .plus [.constant "nothing" (.finite (.zero true))]]]
  filter := some (.or [.not (.among "page" ["/", ""]), .bound "size" none (some "9")])
  granularity := .all
  intervals := [allYears]
  limit := some 0
  context := Dictionary.empty.insert "trace" (.object [("depth", .array [.null])])

theorem overAllYears_round_trip :
    ∃ j, overAllYears.toJson = .ok j ∧ Json.decodeTree decode j = .ok overAllYears := by
  refine tree_round_trip ?finite ?years ?context
  case finite =>
    have hshifted : (PostAggregation.arithmetic "shifted" .plus
        [.constant "nothing" (.finite (.zero true))]).Finite :=
      .arithmetic _ _ (List.forall_mem_singleton.mpr (.constant _ _))
    intro p hp
    obtain rfl := List.mem_singleton.mp hp
    refine .arithmetic _ _ (List.forall_mem_cons.mpr ⟨.fieldAccess _ _, ?_⟩)
    exact List.forall_mem_singleton.mpr hshifted
  case years =>
    intro i hi
    obtain rfl := List.mem_singleton.mp hi
    exact ⟨by decide, by decide⟩
  case context =>
    intro f hf
    obtain rfl := List.mem_singleton.mp hf
    simp [Json.WellFormed, Json.WellFormed.All, Json.WellFormed.Fields, Increasing]

end Query

end AnswerCache
