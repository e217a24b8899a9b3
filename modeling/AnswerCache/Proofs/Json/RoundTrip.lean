import AnswerCache.Proofs.Json.Compact
import AnswerCache.Proofs.Json.Layout
import AnswerCache.Proofs.Json.Numeral
import AnswerCache.Proofs.Json.Tree
import Mathlib.Data.List.DropRight

/-!
The text of a tree whose numbers are read back, whatever blanks stand between its parts: it is read
as that tree, or not at all where the tree is nested too deeply for the reader.
-/

namespace AnswerCache.Json

open Reader

def Number.ReadsBack (n : Number) : Prop :=
  Reader.number n.written = (.number n, .ok [])

def Number.readsBack? (n : Number) : Bool :=
  match Numeral.span n.written with
  | .ok (numeral, []) => numeral.number? == some n
  | _ => false

lemma readsBack?_iff (n : Number) : n.readsBack? = true ↔ n.ReadsBack := by
  simp only [Number.readsBack?, Number.ReadsBack, Reader.number]
  cases hspan : Numeral.span n.written with
  | error b => cases b <;> simp [Reader.broken]
  | ok spanned =>
    obtain ⟨numeral, left⟩ := spanned
    cases left with
    | nil => cases hn : numeral.number? <;> simp [hn]
    | cons c left => cases hn : numeral.number? <;> simp [hn]

instance (n : Number) : Decidable n.ReadsBack :=
  decidable_of_iff _ (readsBack?_iff n)

lemma readsBack_whole {z : Int} (h : (Number.whole z).InRange) : (Number.whole z).ReadsBack := by
  have hread := number_signed h ends_nil
  rwa [List.append_nil] at hread

mutual

def Source.taken (levels : Nat) : Json → Source
  | .null => .null
  | .bool b => .bool b
  | .number n => .number n
  | .string s => .string s
  | .array items => container levels (.array (Source.takenItems (levels - 1) items))
  | .object fields => container levels (.object (Source.takenFields (levels - 1) fields))

def Source.takenItems (levels : Nat) : List Json → List Source
  | [] => []
  | item :: rest => Source.taken levels item :: Source.takenItems levels rest

def Source.takenFields (levels : Nat) : List (String × Json) → List Member
  | [] => []
  | (key, value) :: rest => (.ok key, Source.taken levels value) :: Source.takenFields levels rest

end

lemma skipSpaces_cons {c : Char} (h : isSpace c = false) (cs : List Char) :
    skipSpaces (c :: cs) = c :: cs := by
  simp [skipSpaces, h]

lemma isSpace_of_isNumeric {c : Char} (h : Text.isNumeric c = true) : isSpace c = false := by
  simp only [isSpace]
  by_contra hcon
  simp only [Bool.not_eq_false, Bool.or_eq_true, beq_iff_eq] at hcon
  rcases hcon with ((rfl | rfl) | rfl) | rfl <;> simp [Text.isNumeric] at h

lemma skipSpaces_blanks {blanks : List Char} (h : ∀ c ∈ blanks, isSpace c = true)
    (cs : List Char) : skipSpaces (blanks ++ cs) = skipSpaces cs := by
  rw [skipSpaces, List.dropWhile_append_of_pos h]
  rfl

lemma skipSpaces_skipSpaces (cs : List Char) : skipSpaces (skipSpaces cs) = skipSpaces cs :=
  List.dropWhile_idempotent isSpace cs

lemma value_skipSpaces (levels fuel : Nat) (cs : List Char) :
    value levels fuel (skipSpaces cs) = value levels fuel cs := by
  cases fuel with
  | zero => rfl
  | succ fuel => rw [value, value, skipSpaces_skipSpaces]

lemma items_skipSpaces (levels fuel : Nat) (cs : List Char) :
    items levels fuel (skipSpaces cs) = items levels fuel cs := by
  cases fuel with
  | zero => rfl
  | succ fuel => rw [items, items, value_skipSpaces]

lemma members_skipSpaces (levels fuel : Nat) (afterComma : Bool) (cs : List Char) :
    members levels afterComma fuel (skipSpaces cs) = members levels afterComma fuel cs := by
  cases fuel with
  | zero => rfl
  | succ fuel => rw [members, members, skipSpaces_skipSpaces]

lemma value_blanks {blanks : List Char} (h : ∀ c ∈ blanks, isSpace c = true) (levels fuel : Nat)
    (cs : List Char) : value levels fuel (blanks ++ cs) = value levels fuel cs := by
  rw [← value_skipSpaces, skipSpaces_blanks h, value_skipSpaces]

lemma ends_blanks {blanks rest : List Char} (h : ∀ c ∈ blanks, isSpace c = true)
    (hr : Ends rest) : Ends (blanks ++ rest) := by
  cases blanks with
  | nil => exact hr
  | cons c blanks => exact ends_cons (.inl (h c List.mem_cons_self)) _

lemma written_eq_cons (n : Number) :
    ∃ c cs, n.written = c :: cs ∧ (c = '-' ∨ c.isDigit = true) := by
  cases n with
  | whole z =>
    simp only [Number.written, Text.signed]
    split
    · exact ⟨_, _, rfl, Or.inl rfl⟩
    · rcases hd : Text.decimal z.natAbs with _ | ⟨d, ds⟩
      · exact absurd hd (Text.decimal_ne_nil _)
      · exact ⟨d, ds, rfl, Or.inr (Text.isDigit_of_mem_decimal (hd ▸ List.mem_cons_self))⟩
  | double x =>
    rw [Number.written, Binary64.Finite.written_eq]
    split
    · exact ⟨_, _, rfl, Or.inl rfl⟩
    · have h := x.magnitude_chars.2.1
      rcases hm : x.magnitude with _ | ⟨d, ds⟩
      · simp [hm] at h
      · exact ⟨d, ds, rfl, Or.inr (by simpa [hm] using h)⟩

lemma value_null (levels fuel : Nat) (rest : List Char) :
    value levels (fuel + 1) ("null".toList ++ rest) = (.null, .ok rest) := by
  rfl

lemma value_bool (levels fuel : Nat) (b : Bool) (rest : List Char) :
    value levels (fuel + 1) (boolText b ++ rest) = (.bool b, .ok rest) := by
  cases b <;> rfl

lemma value_string (levels fuel : Nat) (s : String) (rest : List Char) :
    value levels (fuel + 1) (quoted s ++ rest) = (.string s, .ok rest) := by
  have h : value levels (fuel + 1) (quoted s ++ rest) =
      Reader.string (s.toList.flatMap escapeChar ++ '"' :: rest) := by
    simp [value, quoted, skipSpaces_cons (c := '"') rfl]
  simp only [h, Reader.string, stringBody_escaped, String.ofList_toList]

lemma value_number (levels fuel : Nat) {n : Number} (hn : n.ReadsBack) {rest : List Char}
    (hr : Ends rest) : value levels (fuel + 1) (n.written ++ rest) = (.number n, .ok rest) := by
  obtain ⟨c, cs, hc, hhead⟩ := written_eq_cons n
  have hspace : isSpace c = false :=
    isSpace_of_isNumeric (Number.isNumeric_of_mem_written (hc ▸ List.mem_cons_self))
  have h : value levels (fuel + 1) (n.written ++ rest) = Reader.number (n.written ++ rest) := by
    rw [hc, List.cons_append, value, skipSpaces_cons hspace]
    split
    all_goals simp_all
    rintro rfl
    simp at hhead
  rw [h, number_followed hn hr]

section Layout

variable (l : Layout)

lemma text_eq_cons (level : Nat) (j : Json) :
    ∃ c cs, l.text level j = c :: cs ∧ j.StartsWith c := by
  match j with
  | null => exact ⟨_, _, rfl, rfl⟩
  | bool false => exact ⟨_, _, rfl, Or.inr rfl⟩
  | bool true => exact ⟨_, _, rfl, Or.inl rfl⟩
  | number n =>
    obtain ⟨c, cs, hc⟩ := List.exists_cons_of_ne_nil n.written_ne_nil
    exact ⟨c, cs, hc, Number.isNumeric_of_mem_written (by rw [hc]; exact List.mem_cons_self)⟩
  | string _ => exact ⟨_, _, rfl, rfl⟩
  | array [] => exact ⟨_, _, rfl, rfl⟩
  | array (_ :: _) => exact ⟨_, _, rfl, rfl⟩
  | object [] => exact ⟨_, _, rfl, rfl⟩
  | object (_ :: _) => exact ⟨_, _, rfl, rfl⟩

lemma length_text_pos (level : Nat) (j : Json) : 0 < (l.text level j).length := by
  obtain ⟨c, cs, hc, -⟩ := text_eq_cons l level j
  simp [hc]

lemma skipSpaces_text (level : Nat) (j : Json) (rest : List Char) :
    ∃ c cs, skipSpaces (l.text level j ++ rest) = c :: cs ∧ c ≠ ']' := by
  obtain ⟨c, cs, hc, hs⟩ := text_eq_cons l level j
  have hspace : isSpace c = false ∧ c ≠ ']' := by
    cases j with
    | number n =>
      refine ⟨isSpace_of_isNumeric hs, ?_⟩
      rintro rfl
      contradiction
    | bool b => rcases hs with rfl | rfl <;> decide
    | _ => rw [show c = _ from hs]; decide
  exact ⟨c, cs ++ rest, by rw [hc, List.cons_append, skipSpaces_cons hspace.1], hspace.2⟩

lemma value_array (level levels fuel : Nat) {x : Json} {xs : List Json} {rest : List Char}
    {read : List Source}
    (h : items (levels - 1) fuel
      (l.itemsText (level + 1) (x :: xs) ++ (l.gap level ++ ']' :: rest)) = (read, .ok rest)) :
    value levels (fuel + 1) (l.text level (array (x :: xs)) ++ rest) =
      (container levels (.array read), .ok rest) := by
  have htext : l.text level (array (x :: xs)) ++ rest =
      '[' :: (l.itemsText (level + 1) (x :: xs) ++ (l.gap level ++ ']' :: rest)) := by
    simp only [Layout.text, List.cons_append, List.append_assoc, List.nil_append]
  obtain ⟨c, cs, hskip, hc⟩ := skipSpaces_text l (level + 1) x
    (l.moreItemsText (level + 1) xs ++ (l.gap level ++ ']' :: rest))
  rw [← skipSpaces_blanks (l.gap_blank (level + 1))] at hskip
  rw [← items_skipSpaces] at h
  rw [htext, value, skipSpaces_cons rfl]
  simp only [Layout.itemsText, List.append_assoc, hskip] at h ⊢
  split
  · contradiction
  · rename_i tail htail
    exact absurd (List.cons.inj htail).1 hc
  · rw [h]

lemma items_last (level levels fuel : Nat) {x : Json} {blanks rest : List Char} {read : Source}
    (hb : ∀ c ∈ blanks, isSpace c = true)
    (hx : value levels fuel (l.text level x ++ (blanks ++ ']' :: rest)) =
      (read, .ok (blanks ++ ']' :: rest))) :
    items levels (fuel + 1) (l.itemsText level [x] ++ (blanks ++ ']' :: rest)) =
      ([read], .ok rest) := by
  have hclose : skipSpaces (blanks ++ ']' :: rest) = ']' :: rest := skipSpaces_blanks hb _
  rw [← value_blanks (l.gap_blank level)] at hx
  simp only [Layout.itemsText, Layout.moreItemsText, List.append_nil, List.append_assoc, items, hx,
    hclose]

lemma items_cons (level levels fuel : Nat) {x y : Json} {ys : List Json} {rest left : List Char}
    {read : Source} {more : List Source}
    (hx : value levels fuel (l.text level x ++ (',' :: (l.itemsText level (y :: ys) ++ rest))) =
      (read, .ok (',' :: (l.itemsText level (y :: ys) ++ rest))))
    (hys : items levels fuel (l.itemsText level (y :: ys) ++ rest) = (more, .ok left)) :
    items levels (fuel + 1) (l.itemsText level (x :: y :: ys) ++ rest) =
      (read :: more, .ok left) := by
  have htext : l.itemsText level (x :: y :: ys) ++ rest =
      l.gap level ++ (l.text level x ++ (',' :: (l.itemsText level (y :: ys) ++ rest))) := by
    simp only [Layout.itemsText, Layout.moreItemsText, List.cons_append, List.append_assoc]
  obtain ⟨c, cs, hskip, hc⟩ := skipSpaces_text l level y (l.moreItemsText level ys ++ rest)
  rw [← skipSpaces_blanks (l.gap_blank level), ← List.append_assoc, ← List.append_assoc] at hskip
  have hskip : skipSpaces (l.itemsText level (y :: ys) ++ rest) = c :: cs := hskip
  rw [← items_skipSpaces, hskip] at hys
  rw [htext, items, value_blanks (l.gap_blank level), hx]
  simp only [skipSpaces_cons (c := ',') rfl, hskip]
  split
  · rename_i tail htail
    exact absurd (List.cons.inj htail).1 hc
  · rw [hys]

lemma skipSpaces_fieldsText (level : Nat) (k : String) (v : Json) (fs : List (String × Json))
    (rest : List Char) :
    ∃ cs, skipSpaces (l.fieldsText level ((k, v) :: fs) ++ rest) = '"' :: cs := by
  simp only [Layout.fieldsText, List.append_assoc, skipSpaces_blanks (l.gap_blank level)]
  exact ⟨_, rfl⟩

lemma value_object (level levels fuel : Nat) {k : String} {v : Json} {fs : List (String × Json)}
    {rest : List Char} {read : List Member}
    (h : members (levels - 1) false fuel
      (l.fieldsText (level + 1) ((k, v) :: fs) ++ (l.gap level ++ closeBrace :: rest)) =
        (read, .ok rest)) :
    value levels (fuel + 1) (l.text level (object ((k, v) :: fs)) ++ rest) =
      (container levels (.object read), .ok rest) := by
  have htext : l.text level (object ((k, v) :: fs)) ++ rest = openBrace ::
      (l.fieldsText (level + 1) ((k, v) :: fs) ++ (l.gap level ++ closeBrace :: rest)) := by
    simp only [Layout.text, List.cons_append, List.append_assoc, List.nil_append]
  obtain ⟨cs, hskip⟩ := skipSpaces_fieldsText l (level + 1) k v fs
    (l.gap level ++ closeBrace :: rest)
  rw [← members_skipSpaces, hskip] at h
  rw [htext, value, skipSpaces_cons rfl]
  simp [openBrace, hskip, h]

lemma members_field (level levels fuel : Nat) (afterComma : Bool) (k : String) (v : Json)
    {blanks rest : List Char} {c : Char} (hb : ∀ c ∈ blanks, isSpace c = true)
    (hc : c = ',' ∨ c = closeBrace) {read : Source}
    (hv : value levels fuel (l.text level v ++ (blanks ++ c :: rest)) =
      (read, .ok (blanks ++ c :: rest))) :
    members levels afterComma (fuel + 1)
        (l.gap level ++
          (keyText k ++ (l.afterColon ++ (l.text level v ++ (blanks ++ c :: rest))))) =
      if c = ',' then
        ((.ok k, read) :: (members levels true fuel rest).1, (members levels true fuel rest).2)
      else ([(.ok k, read)], .ok rest) := by
  have htext : keyText k ++ (l.afterColon ++ (l.text level v ++ (blanks ++ c :: rest))) =
      '"' :: (k.toList.flatMap escapeChar ++
        '"' :: ':' :: (l.afterColon ++ (l.text level v ++ (blanks ++ c :: rest)))) := by
    simp only [keyText, quoted, List.cons_append, List.append_assoc, List.nil_append]
  have hspace : isSpace c = false := by rcases hc with rfl | rfl <;> rfl
  have hskip : skipSpaces (blanks ++ c :: rest) = c :: rest := by
    rw [skipSpaces_blanks hb, skipSpaces_cons hspace]
  rw [← value_blanks l.afterColon_blank] at hv
  rw [members, skipSpaces_blanks (l.gap_blank level), htext, skipSpaces_cons rfl]
  simp only [stringBody_escaped, skipSpaces_cons (c := ':') rfl, hv, hskip, Except.map,
    String.ofList_toList]
  rcases hc with rfl | rfl
  · rfl
  · rfl

mutual

theorem value_text (level : Nat) (j : Json) (levels fuel : Nat) {rest : List Char}
    (hj : ∀ n ∈ j.numbers, n.ReadsBack) (hfuel : (l.text level j).length ≤ fuel)
    (hr : Ends rest) :
    value levels fuel (l.text level j ++ rest) = (Source.taken levels j, .ok rest) := by
  have hpos := length_text_pos l level j
  obtain ⟨fuel, rfl⟩ := Nat.exists_eq_add_of_lt (lt_of_lt_of_le hpos hfuel)
  rw [Nat.zero_add] at hfuel ⊢
  match j with
  | null => exact value_null levels fuel rest
  | bool b => exact value_bool levels fuel b rest
  | number n => exact value_number levels fuel (hj n (List.mem_singleton_self n)) hr
  | string s => exact value_string levels fuel s rest
  | array [] => rfl
  | array (x :: xs) =>
    apply value_array
    apply items_text (level + 1) (x :: xs) (by simp) (levels - 1) fuel (l.gap_blank level) hj
    simp only [Layout.text, List.length_cons, List.length_append] at hfuel
    omega
  | object [] => rfl
  | object ((k, v) :: fs) =>
    apply value_object
    apply members_text (level + 1) ((k, v) :: fs) (by simp) false (levels - 1) fuel
      (l.gap_blank level) hj
    simp only [Layout.text, List.length_cons, List.length_append] at hfuel
    omega

theorem items_text (level : Nat) (xs : List Json) (hne : xs ≠ []) (levels fuel : Nat)
    {blanks rest : List Char} (hb : ∀ c ∈ blanks, isSpace c = true)
    (hj : ∀ n ∈ numbersOfItems xs, n.ReadsBack) (hfuel : (l.itemsText level xs).length < fuel) :
    items levels fuel (l.itemsText level xs ++ (blanks ++ ']' :: rest)) =
      (Source.takenItems levels xs, .ok rest) := by
  obtain ⟨fuel, rfl⟩ := Nat.exists_eq_add_of_lt (Nat.zero_lt_of_lt hfuel)
  rw [Nat.zero_add] at hfuel ⊢
  have hclosed : Ends (blanks ++ ']' :: rest) := ends_blanks hb (ends_cons (by simp) rest)
  match xs with
  | [] => contradiction
  | [x] =>
    obtain ⟨hx, -⟩ := List.forall_mem_append.mp hj
    simp only [Layout.itemsText, List.length_append] at hfuel
    exact items_last l level levels fuel hb
      (value_text level x levels fuel hx (by omega) hclosed)
  | x :: y :: ys =>
    obtain ⟨hx, hmore⟩ := List.forall_mem_append.mp hj
    have hpos := length_text_pos l level x
    simp only [Layout.itemsText, Layout.moreItemsText, List.length_append, List.length_cons]
      at hfuel
    have hless : (l.itemsText level (y :: ys)).length < fuel := by
      simp only [Layout.itemsText, List.length_append]
      omega
    refine items_cons l level levels fuel
      (value_text level x levels fuel hx (by omega) (ends_cons (by simp) _)) ?_
    exact items_text level (y :: ys) (by simp) levels fuel hb hmore hless

theorem members_text (level : Nat) (fs : List (String × Json)) (hne : fs ≠ []) (afterComma : Bool)
    (levels fuel : Nat) {blanks rest : List Char} (hb : ∀ c ∈ blanks, isSpace c = true)
    (hj : ∀ n ∈ numbersOfFields fs, n.ReadsBack)
    (hfuel : (l.fieldsText level fs).length < fuel) :
    members levels afterComma fuel (l.fieldsText level fs ++ (blanks ++ closeBrace :: rest)) =
      (Source.takenFields levels fs, .ok rest) := by
  obtain ⟨fuel, rfl⟩ := Nat.exists_eq_add_of_lt (Nat.zero_lt_of_lt hfuel)
  rw [Nat.zero_add] at hfuel ⊢
  have hclosed : Ends (blanks ++ closeBrace :: rest) := ends_blanks hb (ends_cons (by simp) rest)
  match fs with
  | [] => contradiction
  | [(k, v)] =>
    obtain ⟨hv, -⟩ := List.forall_mem_append.mp hj
    simp only [Layout.fieldsText, List.length_append] at hfuel
    have hvalue := value_text level v levels fuel hv (by omega) hclosed
    have h := members_field l level levels fuel afterComma k v hb (Or.inr rfl) hvalue
    simpa [Layout.fieldsText, Layout.moreFieldsText, closeBrace, Source.takenFields] using h
  | (k, v) :: (m, w) :: gs =>
    obtain ⟨hv, hmore⟩ := List.forall_mem_append.mp hj
    simp only [Layout.fieldsText, Layout.moreFieldsText, List.length_append, List.length_cons]
      at hfuel
    have hless : (l.fieldsText level ((m, w) :: gs)).length < fuel := by
      simp only [Layout.fieldsText, List.length_append]
      omega
    have hgs : members levels true fuel
        (l.fieldsText level ((m, w) :: gs) ++ (blanks ++ closeBrace :: rest)) =
          (Source.takenFields levels ((m, w) :: gs), .ok rest) :=
      members_text level ((m, w) :: gs) (by simp) true levels fuel hb hmore hless
    have hvalue := value_text level v levels fuel hv (by omega)
      (ends_cons (c := ',') (by simp)
        (l.fieldsText level ((m, w) :: gs) ++ (blanks ++ closeBrace :: rest)))
    have hnone : ∀ c ∈ ([] : List Char), isSpace c = true := nofun
    have h := members_field l level levels fuel afterComma k v hnone (Or.inl rfl) hvalue
    rw [hgs] at h
    simpa [Layout.fieldsText, Layout.moreFieldsText, Source.takenFields] using h

end

end Layout

lemma insertEntry_append {α : Type} {key : String} {value : α} {fields : List (String × α)}
    (h : ∀ e ∈ fields, e.1 < key) :
    insertEntry key value fields = fields ++ [(key, value)] := by
  induction fields with
  | nil => rfl
  | cons e rest ih =>
    have he := h e List.mem_cons_self
    rw [insertEntry, if_neg (String.lt_asymm he), if_pos he,
      ih fun e he => h e (List.mem_cons_of_mem _ he), List.cons_append]

mutual

theorem toTree_taken (j : Json) (hj : j.WellFormed) (levels : Nat) :
    (Source.taken levels j).toTree =
      if j.nesting ≤ levels then .ok j else .error .tooDeep := by
  match j with
  | null => exact (if_pos (Nat.zero_le levels)).symm
  | bool b => exact (if_pos (Nat.zero_le levels)).symm
  | number n => exact (if_pos (Nat.zero_le levels)).symm
  | string s => exact (if_pos (Nat.zero_le levels)).symm
  | array items =>
    have hitems := toItems_taken items hj (levels - 1)
    cases levels with
    | zero => rfl
    | succ levels =>
      rw [Nat.add_sub_cancel] at hitems
      simp only [Source.taken, container, Nat.add_sub_cancel, Nat.succ_ne_zero, if_false,
        Source.toTree, hitems, nesting, Nat.add_le_add_iff_right]
      split <;> rfl
  | object fields =>
    have hfields := toFields_taken fields [] hj.2 hj.1 (levels - 1)
    cases levels with
    | zero => rfl
    | succ levels =>
      rw [Nat.add_sub_cancel] at hfields
      simp only [Source.taken, container, Nat.add_sub_cancel, Nat.succ_ne_zero, if_false,
        Source.toTree, hfields, nesting, Nat.add_le_add_iff_right]
      split <;> rfl

theorem toItems_taken (items : List Json) (hj : WellFormed.All items) (levels : Nat) :
    Source.toItems (Source.takenItems levels items) =
      if nestingOfItems items ≤ levels then .ok items else .error .tooDeep := by
  match items with
  | [] => rw [nestingOfItems, if_pos (Nat.zero_le levels)]; rfl
  | item :: rest =>
    rw [Source.takenItems, Source.toItems, toTree_taken item hj.1, toItems_taken rest hj.2,
      nestingOfItems]
    simp only [Nat.max_le]
    by_cases hitem : item.nesting ≤ levels
    · by_cases hrest : nestingOfItems rest ≤ levels <;>
        simp [hitem, hrest, bind, Except.bind, pure, Except.pure]
    · simp [hitem, bind, Except.bind]

theorem toFields_taken (fields before : List (String × Json)) (hj : WellFormed.Fields fields)
    (hi : Increasing (before ++ fields)) (levels : Nat) :
    Source.toFields before (Source.takenFields levels fields) =
      if nestingOfFields fields ≤ levels then .ok (before ++ fields) else .error .tooDeep := by
  match fields with
  | [] => rw [nestingOfFields, if_pos (Nat.zero_le levels), List.append_nil]; rfl
  | (key, value) :: rest =>
    have hlt : ∀ e ∈ before, e.1 < key := fun e he =>
      (List.pairwise_append.mp hi).2.2 e he _ List.mem_cons_self
    have hrest := toFields_taken rest (before ++ [(key, value)]) hj.2 (by simpa using hi) levels
    rw [List.append_assoc, List.singleton_append] at hrest
    rw [Source.takenFields, Source.toFields, toTree_taken value hj.1, nestingOfFields]
    simp only [Nat.max_le]
    by_cases hvalue : value.nesting ≤ levels
    · simp only [hvalue, if_true, true_and, bind, Except.bind, insertEntry_append hlt, hrest]
    · simp [hvalue, bind, Except.bind]

end

mutual

lemma taken_of_nesting (j : Json) {levels : Nat} (h : j.nesting ≤ levels) :
    Source.taken levels j = .ofJson j := by
  match j with
  | null => rfl
  | bool b => rfl
  | number n => rfl
  | string s => rfl
  | array items =>
    rw [nesting] at h
    obtain ⟨levels, rfl⟩ := Nat.exists_eq_add_of_le' (Nat.le_trans (Nat.le_add_left 1 _) h)
    rw [Source.taken, Nat.add_sub_cancel, takenItems_of_nesting items (Nat.le_of_succ_le_succ h)]
    rfl
  | object fields =>
    rw [nesting] at h
    obtain ⟨levels, rfl⟩ := Nat.exists_eq_add_of_le' (Nat.le_trans (Nat.le_add_left 1 _) h)
    rw [Source.taken, Nat.add_sub_cancel, takenFields_of_nesting fields (Nat.le_of_succ_le_succ h)]
    rfl

lemma takenItems_of_nesting (items : List Json) {levels : Nat}
    (h : nestingOfItems items ≤ levels) :
    Source.takenItems levels items = Source.ofItems items := by
  match items with
  | [] => rfl
  | item :: rest =>
    rw [nestingOfItems, Nat.max_le] at h
    rw [Source.takenItems, taken_of_nesting item h.1, takenItems_of_nesting rest h.2]
    rfl

lemma takenFields_of_nesting (fields : List (String × Json)) {levels : Nat}
    (h : nestingOfFields fields ≤ levels) :
    Source.takenFields levels fields = Source.ofFields fields := by
  match fields with
  | [] => rfl
  | (key, value) :: rest =>
    rw [nestingOfFields, Nat.max_le] at h
    rw [Source.takenFields, taken_of_nesting value h.1, takenFields_of_nesting rest h.2]
    rfl

end

lemma WellFormed.readsBack {j : Json} (hj : j.WellFormed)
    (hdoubles : ∀ x, .double x ∈ j.numbers → (Number.double x).ReadsBack) :
    ∀ n ∈ j.numbers, n.ReadsBack := by
  intro n hn
  cases n with
  | whole z => exact readsBack_whole (hj.inRange hn)
  | double x => exact hdoubles x hn

lemma ofText_text (l : Layout) {j : Json} (hnumbers : ∀ n ∈ j.numbers, n.ReadsBack)
    (levels : Nat) :
    Document.ofText levels (String.ofList (l.text 0 j)) = ⟨Source.taken levels j, none⟩ := by
  have hread : Reader.value levels ((l.text 0 j).length + 1) (l.text 0 j ++ []) =
      (Source.taken levels j, .ok []) :=
    value_text l 0 j levels _ hnumbers (Nat.le_succ _) ends_nil
  rw [List.append_nil] at hread
  simp only [Document.ofText, String.toList_ofList, hread]
  rfl

lemma ofText_taken {j : Json} (hnumbers : ∀ n ∈ j.numbers, n.ReadsBack) (levels : Nat) :
    Document.ofText levels j.compactText = ⟨Source.taken levels j, none⟩ := by
  rw [compactText, ← Layout.text_tight 0 j, ofText_text .tight hnumbers]

lemma ofText_compactText {j : Json} (hnumbers : ∀ n ∈ j.numbers, n.ReadsBack) {levels : Nat}
    (hlevels : j.nesting ≤ levels) :
    Document.ofText levels j.compactText = ⟨.ofJson j, none⟩ := by
  rw [ofText_taken hnumbers, taken_of_nesting j hlevels]

theorem parse?_compactText {j : Json} (hj : j.WellFormed)
    (hdoubles : ∀ x, .double x ∈ j.numbers → (Number.double x).ReadsBack) :
    parse? j.compactText = if j.nesting ≤ maxLevels then some j else none := by
  simp only [parse?, ofText_taken (hj.readsBack hdoubles), Document.toTree, toTree_taken j hj]
  split <;> rfl

end AnswerCache.Json
