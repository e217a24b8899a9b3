import AnswerCache.Proofs.Dictionary
import AnswerCache.Proofs.Json.RoundTrip
import AnswerCache.Query.Decode
import AnswerCache.Query.Encode

namespace AnswerCache.Json

open Source (ofJson ofItems toTree toItems toFields)

lemma bind_of_ok {ε α β : Type} {x : Except ε α} {a : α} (h : x = .ok a)
    (next : α → Except ε β) : (x >>= next) = next a := by
  rw [h]
  rfl

lemma decodeText_of_ofText {α : Type} {decode : Origin → Source → Decoded α} {text : String}
    {j : Json} (h : Document.ofText maxLevels text = ⟨ofJson j, none⟩) :
    decodeText decode text = decode .text (ofJson j) := by
  rw [decodeText, h, Document.decode]
  cases decode .text (ofJson j) <;> rfl

lemma exists_toTree (j : Json) :
    ∃ tree, (ofJson j).toTree = .ok tree ∧ (j.WellFormed → tree = j) := by
  induction j using tree_induction with
  | null => exact ⟨_, rfl, fun _ => rfl⟩
  | bool b => exact ⟨_, rfl, fun _ => rfl⟩
  | number n => exact ⟨_, rfl, fun _ => rfl⟩
  | string s => exact ⟨_, rfl, fun _ => rfl⟩
  | array items ih =>
    suffices h : ∃ trees, toItems (ofItems items) = .ok trees ∧
        (WellFormed.All items → trees = items) by
      obtain ⟨trees, htrees, hsame⟩ := h
      refine ⟨.array trees, ?_, fun hj => congrArg Json.array (hsame hj)⟩
      rw [ofJson, toTree, htrees]
      rfl
    induction items with
    | nil => exact ⟨[], rfl, fun _ => rfl⟩
    | cons item rest irest =>
      obtain ⟨hitem, hrest⟩ := List.forall_mem_cons.mp ih
      obtain ⟨tree, htree, hsame⟩ := hitem
      obtain ⟨trees, htrees, hsames⟩ := irest hrest
      refine ⟨tree :: trees, ?_, fun hj => ?_⟩
      · rw [ofItems, toItems, htree, htrees]
        rfl
      · rw [hsame hj.1, hsames hj.2]
  | object fields ih =>
    suffices h : ∀ before, ∃ read, toFields before (Source.ofFields fields) = .ok read ∧
        (WellFormed.Fields fields → Increasing (before ++ fields) → read = before ++ fields) by
      obtain ⟨read, hread, hsame⟩ := h []
      refine ⟨.object read, ?_, fun hj => congrArg Json.object (hsame hj.2 hj.1)⟩
      rw [ofJson, toTree, hread]
      rfl
    induction fields with
    | nil => exact fun before => ⟨before, rfl, fun _ _ => (List.append_nil before).symm⟩
    | cons field rest irest =>
      obtain ⟨key, value⟩ := field
      obtain ⟨hvalue, hrest⟩ := List.forall_mem_cons.mp ih
      obtain ⟨tree, htree, hsame⟩ := hvalue
      intro before
      obtain ⟨read, hread, hsames⟩ := irest hrest (insertEntry key tree before)
      refine ⟨read, ?_, fun hj hi => ?_⟩
      · rw [Source.ofFields, toFields]
        exact (bind_of_ok htree _).trans hread
      · have hlt : ∀ e ∈ before, e.1 < key := fun e he =>
          (List.pairwise_append.mp hi).2.2 e he _ List.mem_cons_self
        rw [insertEntry_append hlt, hsame hj.1] at hsames
        rw [hsames hj.2 (by simpa using hi), List.append_assoc, List.singleton_append]

lemma toJson_ofJson {j : Json} (hj : j.WellFormed) : (ofJson j).toJson = .ok j := by
  obtain ⟨tree, htree, hsame⟩ := exists_toTree j
  rw [Source.toJson, htree, hsame hj]

lemma readable {α : Type} (j : Json) (next : Decoded α) :
    ((ofJson j).toJson >>= fun _ => next) = next := by
  obtain ⟨tree, htree, -⟩ := exists_toTree j
  rw [Source.toJson, htree]
  rfl

lemma findTag_behind {α : Type} (origin : Origin) {tag : String} (variants : List (String × α))
    (seen : Option α) {fields : List (String × Json)} (h : ∀ f ∈ fields, f.1 ≠ tag)
    (rest : List Member) : findTag origin tag variants seen (Source.ofFields fields ++ rest) =
      findTag origin tag variants seen rest := by
  induction fields with
  | nil => rfl
  | cons field fields ih =>
    obtain ⟨key, value⟩ := field
    obtain ⟨hkey, hfields⟩ := List.forall_mem_cons.mp h
    rw [Source.ofFields, List.cons_append, findTag, if_neg hkey]
    exact (readable value _).trans (ih hfields)

lemma ofFields_append (fields more : List (String × Json)) :
    Source.ofFields (fields ++ more) = Source.ofFields fields ++ Source.ofFields more := by
  induction fields with
  | nil => rfl
  | cons field rest ih =>
    rw [List.cons_append, Source.ofFields, Source.ofFields, ih, List.cons_append]

lemma ne_of_distinct {key : String} {j : Json} {before after : List (String × Json)}
    (h : ((before ++ (key, j) :: after).map Prod.fst).Nodup) :
    (∀ f ∈ before, f.1 ≠ key) ∧ ∀ f ∈ after, f.1 ≠ key := by
  rw [List.map_append, List.map_cons, List.nodup_append, List.nodup_cons] at h
  obtain ⟨-, ⟨hafter, -⟩, hbefore⟩ := h
  refine ⟨fun f hf => hbefore _ (List.mem_map_of_mem hf) _ List.mem_cons_self, fun f hf he => ?_⟩
  exact hafter (List.mem_map.mpr ⟨f, hf, he⟩)

lemma findTag_of_mem {α : Type} (origin : Origin) {tag : String} (name : String)
    {variants : List (String × α)} {a : α} {fields : List (String × Json)}
    (hdistinct : (fields.map Prod.fst).Nodup) (htag : (tag, .string name) ∈ fields)
    (hname : findVariant variants name = .ok a) :
    findTag origin tag variants none (Source.ofFields fields) = .ok a := by
  obtain ⟨before, after, rfl⟩ := List.append_of_mem htag
  obtain ⟨hbefore, hafter⟩ := ne_of_distinct hdistinct
  have hread : readOnce tag none (decodeTag origin variants (ofJson (.string name))) =
      .ok (some a) := bind_of_ok hname _
  rw [ofFields_append, findTag_behind origin variants none hbefore, Source.ofFields, findTag,
    if_pos rfl, bind_of_ok hread, ← List.append_nil (Source.ofFields after),
    findTag_behind origin variants (some a) hafter]
  rfl

lemma decodeTagged_object {α : Type} {origin : Origin} {name tag : String}
    {variants : List (String × α)} {a : α} {fields : List (String × Json)}
    (h : findTag origin tag variants none (Source.ofFields fields) = .ok a) :
    decodeTagged origin name tag variants (ofJson (.object fields)) =
      .ok (a, ofJson (.object fields)) :=
  bind_of_ok h _

section Members

variable {σ : Type} {step : σ → String → Source → Decoded σ} {s t : σ} {key : String}

lemma readOnce_of_ok {α : Type} {x : Decoded α} {a : α} (h : x = .ok a) (name : String) :
    readOnce name none x = .ok (some a) :=
  bind_of_ok h _

lemma foldMembers_field {j : Json} (h : step s key (ofJson j) = .ok t)
    (rest : List (String × Json)) : foldMembers step s (Source.ofFields ((key, j) :: rest)) =
      foldMembers step t (Source.ofFields rest) := by
  rw [Source.ofFields, foldMembers, bind_of_ok h]

lemma foldMembers_optional {α : Type} {encode : α → Json} (next : Option α → σ) {o : Option α}
    (hnone : next none = s) (hsome : ∀ a, step s key (ofJson (encode a)) = .ok (next (some a)))
    (rest : List (String × Json)) :
    foldMembers step s (Source.ofFields (optionalField key encode o ++ rest)) =
      foldMembers step (next o) (Source.ofFields rest) := by
  cases o with
  | none => rw [hnone]; rfl
  | some a => exact foldMembers_field (hsome a) rest

lemma foldMembers_skipped {fields : List (String × Json)}
    (h : ∀ f ∈ fields, step s f.1 (ofJson f.2) = .ok s) (rest : List Member) :
    foldMembers step s (Source.ofFields fields ++ rest) = foldMembers step s rest := by
  induction fields with
  | nil => rfl
  | cons field fields ih =>
    obtain ⟨hfield, hfields⟩ := List.forall_mem_cons.mp h
    rw [Source.ofFields, List.cons_append, foldMembers, bind_of_ok hfield, ih hfields]

end Members

lemma decodeFields_object {σ : Type} (origin : Origin) (shape : Shape) (start : σ)
    (step : σ → String → Source → Decoded σ) (fields : List (String × Json)) :
    decodeFields origin shape start step (ofJson (.object fields)) =
      foldMembers step start (Source.ofFields fields) := rfl

section List

variable {σ : Type} (origin : Origin) (step : σ → String → Source → Decoded σ)

def memberOf (field : String × Bool) (item : Source) : Member :=
  (.ok field.1, item)

lemma foldItems_eq (shape : Shape) (s : σ) {fields : List (String × Bool)}
    (items : List Source) (hlength : items.length ≤ fields.length)
    (hrest : ∀ f ∈ fields.drop items.length, f.2 = true) :
    foldItems origin shape step s fields items =
      foldMembers step s (List.zipWith memberOf fields items) := by
  induction fields generalizing s items with
  | nil =>
    obtain rfl := List.length_eq_zero_iff.mp (Nat.le_zero.mp hlength)
    rfl
  | cons field fields ih =>
    obtain ⟨name, isOptional⟩ := field
    cases items with
    | nil =>
      obtain ⟨hfield, hfields⟩ := List.forall_mem_cons.mp hrest
      obtain rfl : isOptional = true := hfield
      have hmore : foldItems origin shape step s fields [] = .ok s := by
        rw [ih s [] (Nat.zero_le _) hfields, List.zipWith_nil_right, foldMembers]
      rw [foldItems, hmore, List.zipWith_nil_right, foldMembers]
    | cons item items =>
      rw [foldItems, List.zipWith_cons_cons, memberOf, foldMembers]
      refine congrArg _ (funext fun t => ?_)
      exact ih t items (Nat.le_of_succ_le_succ hlength) hrest

/-- The list of its fields is read as the object that has them, as far as they are given. -/
theorem decodeFields_array (shape : Shape) (start : σ) {items : List Source}
    (hlength : items.length ≤ shape.fields.length)
    (hrest : ∀ f ∈ shape.fields.drop items.length, f.2 = true) :
    decodeFields origin shape start step (.array items) =
      decodeFields origin shape start step
        (.object (List.zipWith memberOf shape.fields items)) :=
  foldItems_eq origin step shape start items hlength hrest

end List

lemma decodeOnly_of_mem {α : Type} (variant : String) {name : String} {read : Source → Decoded α}
    {j : Json} {a : α} {fields : List (String × Json)} (hdistinct : (fields.map Prod.fst).Nodup)
    (hname : (name, j) ∈ fields) (hread : read (ofJson j) = .ok a) :
    decodeOnly variant name read (ofJson (.object fields)) = .ok a := by
  obtain ⟨before, after, rfl⟩ := List.append_of_mem hname
  obtain ⟨hbefore, hafter⟩ := ne_of_distinct hdistinct
  have hfound : readOnce name none (read (ofJson j)) = .ok (some a) := bind_of_ok hread _
  rw [decodeOnly, decodeFields_object, ofFields_append, foldMembers_skipped fun f hf => if_neg (hbefore f hf),
    foldMembers_field ((if_pos rfl).trans hfound), ← List.append_nil (Source.ofFields after),
    foldMembers_skipped fun f hf => if_neg (hafter f hf)]
  rfl

namespace Source

lemma toList_array {α : Type} {encode : α → Json} {decode : Source → Decoded α} {as : List α}
    (h : ∀ a ∈ as, decode (ofJson (encode a)) = .ok a) :
    (ofJson (.array (as.map encode))).toList decode = .ok as := by
  change (ofItems (as.map encode)).mapM decode = .ok as
  induction as with
  | nil => rfl
  | cons a as ih =>
    obtain ⟨ha, has⟩ := List.forall_mem_cons.mp h
    rw [List.map_cons, ofItems, List.mapM_cons, ha, ih has]
    rfl

lemma toNatBelow_ofJson (n : UInt64) (name : String) :
    (ofJson (jsonOfUInt64 n)).toNatBelow UInt64.size name = .ok n.toNat := by
  have hrange : (0 : Int) ≤ n.toNat ∧ (n.toNat : Int) < UInt64.size :=
    ⟨Int.natCast_nonneg _, Int.ofNat_lt.mpr n.toNat_lt⟩
  rw [jsonOfUInt64, Json.nat, ofJson, toNatBelow, if_pos hrange]
  rfl

lemma toUInt64_ofJson (n : UInt64) : (ofJson (jsonOfUInt64 n)).toUInt64 = .ok n := by
  rw [toUInt64, bind_of_ok (toNatBelow_ofJson n "u64"), UInt64.ofNat_toNat]
  rfl

lemma toSize_ofJson (n : UInt64) : (ofJson (jsonOfUInt64 n)).toSize = .ok n := by
  rw [toSize, bind_of_ok (toNatBelow_ofJson n "usize"), UInt64.ofNat_toNat]
  rfl

lemma toOption_ofJson (o : Option UInt64) :
    (ofJson (Json.optional jsonOfUInt64 o)).toOption toUInt64 = .ok o := by
  cases o with
  | none => rfl
  | some n => exact bind_of_ok (toUInt64_ofJson n) _

lemma toDictionaryFrom_ofFields {fields : List (String × Json)} (d : Dictionary Json)
    (hfields : ∀ f ∈ fields, f.2.WellFormed) (hi : Increasing (d.entries ++ fields)) :
    toDictionaryFrom d (Source.ofFields fields) = .ok ⟨d.entries ++ fields, hi⟩ := by
  induction fields generalizing d with
  | nil =>
    rw [Source.ofFields, toDictionaryFrom]
    simp only [List.append_nil]
  | cons field rest ih =>
    obtain ⟨key, value⟩ := field
    obtain ⟨hvalue, hrest⟩ := List.forall_mem_cons.mp hfields
    have hlt : ∀ e ∈ d.entries, e.1 < key := fun e he =>
      (List.pairwise_append.mp hi).2.2 e he _ List.mem_cons_self
    have hentries : (d.insert key value).entries = d.entries ++ [(key, value)] :=
      insertEntry_append hlt
    have hnext : Increasing ((d.insert key value).entries ++ rest) := by
      rwa [hentries, List.append_assoc, List.singleton_append]
    rw [Source.ofFields, toDictionaryFrom, toJson_ofJson hvalue]
    refine (ih (d.insert key value) hrest hnext).trans ?_
    simp only [hentries, List.append_assoc, List.singleton_append]

lemma toDictionary_ofJson {d : Dictionary Json} (h : ∀ f ∈ d.entries, f.2.WellFormed) :
    (ofJson (.object d.entries)).toDictionary = .ok d :=
  toDictionaryFrom_ofFields .empty h d.increasing

end Source

end AnswerCache.Json
