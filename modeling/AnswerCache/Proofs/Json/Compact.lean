import AnswerCache.Json.Printer
import AnswerCache.Proofs.Binary64.Notation
import AnswerCache.Proofs.Json.Quoted

namespace AnswerCache.Json

open Text

namespace Number

lemma written_ne (n : Int) (x : Binary64.Finite) : Text.signed n ≠ x.written := by
  intro h
  have hmem : ∀ c ∈ Text.signed n, c.isDigit = true ∨ c = '-' := by
    intro c hc
    simp only [Text.signed] at hc
    split at hc
    · exact (List.mem_cons.mp hc).elim Or.inr fun hc => Or.inl (isDigit_of_mem_decimal hc)
    · exact Or.inl (isDigit_of_mem_decimal hc)
  rcases x.point_or_power_mem_written with hp | he
  · simpa using hmem '.' (h ▸ hp)
  · simpa using hmem 'e' (h ▸ he)

lemma written_injective : Function.Injective written := by
  intro m n h
  cases m with
  | whole m =>
    cases n with
    | whole n => rw [signed_injective h]
    | double y => exact absurd h (written_ne m y)
  | double x =>
    cases n with
    | whole n => exact absurd h.symm (written_ne n x)
    | double y => rw [Binary64.Finite.written_injective h]

lemma isNumeric_of_mem_written {n : Number} {c : Char} (h : c ∈ n.written) :
    isNumeric c = true := by
  cases n with
  | whole n => exact isNumeric_of_mem_signed h
  | double x => exact Binary64.Finite.isNumeric_of_mem_written h

lemma written_ne_nil (n : Number) : n.written ≠ [] := by
  cases n with
  | whole n =>
    simp only [written, Text.signed]
    split <;> simp [decimal_ne_nil]
  | double x =>
    intro h
    rcases x.point_or_power_mem_written with hp | he
    · exact List.ne_nil_of_mem hp h
    · exact List.ne_nil_of_mem he h

end Number

def StartsWith : Json → Char → Prop
  | null, c => c = 'n'
  | bool _, c => c = 't' ∨ c = 'f'
  | number _, c => isNumeric c = true
  | string _, c => c = '"'
  | array _, c => c = '['
  | object _, c => c = openBrace

def kind : Json → Nat
  | null => 0
  | bool _ => 1
  | number _ => 2
  | string _ => 3
  | array _ => 4
  | object _ => 5

lemma kind_eq_of_startsWith {i j : Json} {c : Char} (hi : i.StartsWith c) (hj : j.StartsWith c) :
    i.kind = j.kind := by
  cases i <;> cases j <;> simp only [StartsWith, kind, openBrace] at hi hj ⊢
  all_goals
    first
    | (subst hi; simp [isNumeric] at hj)
    | (subst hj; simp [isNumeric] at hi)
    | (rcases hi with rfl | rfl <;> simp [isNumeric] at hj)
    | (rcases hj with rfl | rfl <;> simp [isNumeric] at hi)

lemma compact_eq_cons (j : Json) : ∃ c cs, j.compact = c :: cs ∧ j.StartsWith c := by
  cases j with
  | null => exact ⟨_, _, rfl, rfl⟩
  | bool b =>
    cases b
    · exact ⟨_, _, rfl, Or.inr rfl⟩
    · exact ⟨_, _, rfl, Or.inl rfl⟩
  | number n =>
    obtain ⟨c, cs, hc⟩ := List.exists_cons_of_ne_nil n.written_ne_nil
    exact ⟨c, cs, hc, Number.isNumeric_of_mem_written (by rw [hc]; exact List.mem_cons_self)⟩
  | string _ => exact ⟨_, _, rfl, rfl⟩
  | array _ => exact ⟨_, _, rfl, rfl⟩
  | object _ => exact ⟨_, _, rfl, rfl⟩

lemma length_compact_pos (j : Json) : 0 < j.compact.length := by
  obtain ⟨c, cs, hc, -⟩ := j.compact_eq_cons
  simp [hc]

lemma kind_eq_of_append_eq {i j : Json} {rest rest' : List Char}
    (h : i.compact ++ rest = j.compact ++ rest') : i.kind = j.kind := by
  obtain ⟨c, cs, hc, hs⟩ := i.compact_eq_cons
  obtain ⟨d, ds, hd, ht⟩ := j.compact_eq_cons
  rw [hc, hd] at h
  obtain rfl := (List.cons.inj h).1
  exact kind_eq_of_startsWith hs ht

lemma boolText_append_inj {a b : Bool} {rest rest' : List Char}
    (h : boolText a ++ rest = boolText b ++ rest') : a = b ∧ rest = rest' := by
  cases a <;> cases b <;> simp_all [boolText]

lemma compact_append_ne (j : Json) (rest rest' : List Char) : j.compact ++ rest ≠ ']' :: rest' := by
  obtain ⟨c, cs, hc, hs⟩ := j.compact_eq_cons
  rw [hc]
  rintro h
  obtain rfl := (List.cons.inj h).1
  cases j <;> simp [StartsWith, isNumeric, openBrace] at hs

lemma stops_moreItems (xs : List Json) (rest : List Char) :
    Stops isNumeric (compactMoreItems xs ++ ']' :: rest) := by
  cases xs <;> exact stops_cons rfl _

lemma stops_moreFields (fs : List (String × Json)) (rest : List Char) :
    Stops isNumeric (compactMoreFields fs ++ closeBrace :: rest) := by
  rcases fs with _ | ⟨⟨k, v⟩, fs⟩ <;> exact stops_cons rfl _

mutual

theorem compact_append_inj (i j : Json) {rest rest' : List Char} (hr : Stops isNumeric rest)
    (hr' : Stops isNumeric rest') (h : i.compact ++ rest = j.compact ++ rest') :
    i = j ∧ rest = rest' := by
  have hk := kind_eq_of_append_eq h
  match i with
  | null =>
    cases j with
    | null => exact ⟨rfl, List.append_cancel_left h⟩
    | _ => simp [kind] at hk
  | bool a =>
    cases j with
    | bool b =>
      obtain ⟨hab, hrest⟩ := boolText_append_inj h
      exact ⟨by rw [hab], hrest⟩
    | _ => simp [kind] at hk
  | number m =>
    cases j with
    | number n =>
      obtain ⟨hmn, hrest⟩ := append_inj_of_stops isNumeric
        (fun _ => Number.isNumeric_of_mem_written) (fun _ => Number.isNumeric_of_mem_written)
        hr hr' h
      exact ⟨by rw [Number.written_injective hmn], hrest⟩
    | _ => simp [kind] at hk
  | string s =>
    cases j with
    | string t =>
      obtain ⟨hst, hrest⟩ := quoted_append_inj h
      exact ⟨by rw [hst], hrest⟩
    | _ => simp [kind] at hk
  | array xs =>
    cases j with
    | array ys =>
      simp only [compact, List.cons_append, List.append_assoc, List.nil_append] at h
      obtain ⟨hxy, hrest⟩ := compactItems_append_inj xs ys (List.tail_eq_of_cons_eq h)
      exact ⟨by rw [hxy], hrest⟩
    | _ => simp [kind] at hk
  | object fs =>
    cases j with
    | object gs =>
      simp only [compact, List.cons_append, List.append_assoc, List.nil_append] at h
      obtain ⟨hfg, hrest⟩ := compactFields_append_inj fs gs (List.tail_eq_of_cons_eq h)
      exact ⟨by rw [hfg], hrest⟩
    | _ => simp [kind] at hk

theorem compactItems_append_inj (xs ys : List Json) {rest rest' : List Char}
    (h : compactItems xs ++ ']' :: rest = compactItems ys ++ ']' :: rest') :
    xs = ys ∧ rest = rest' := by
  match xs, ys with
  | [], [] => exact ⟨rfl, List.tail_eq_of_cons_eq h⟩
  | [], y :: ys =>
    simp only [compactItems, List.append_assoc, List.nil_append] at h
    exact absurd h.symm (compact_append_ne y _ _)
  | x :: xs, [] =>
    simp only [compactItems, List.append_assoc, List.nil_append] at h
    exact absurd h (compact_append_ne x _ _)
  | x :: xs, y :: ys =>
    simp only [compactItems, List.append_assoc] at h
    obtain ⟨hxy, h⟩ := compact_append_inj x y (stops_moreItems _ _) (stops_moreItems _ _) h
    obtain ⟨hxsys, hrest⟩ := compactMoreItems_append_inj xs ys h
    exact ⟨by rw [hxy, hxsys], hrest⟩

theorem compactMoreItems_append_inj (xs ys : List Json) {rest rest' : List Char}
    (h : compactMoreItems xs ++ ']' :: rest = compactMoreItems ys ++ ']' :: rest') :
    xs = ys ∧ rest = rest' := by
  match xs, ys with
  | [], [] => exact ⟨rfl, List.tail_eq_of_cons_eq h⟩
  | [], y :: ys => simp [compactMoreItems] at h
  | x :: xs, [] => simp [compactMoreItems] at h
  | x :: xs, y :: ys =>
    simp only [compactMoreItems, List.cons_append, List.append_assoc] at h
    obtain ⟨hxy, h⟩ := compact_append_inj x y (stops_moreItems _ _) (stops_moreItems _ _)
      (List.tail_eq_of_cons_eq h)
    obtain ⟨hxsys, hrest⟩ := compactMoreItems_append_inj xs ys h
    exact ⟨by rw [hxy, hxsys], hrest⟩

theorem compactFields_append_inj (fs gs : List (String × Json)) {rest rest' : List Char}
    (h : compactFields fs ++ closeBrace :: rest = compactFields gs ++ closeBrace :: rest') :
    fs = gs ∧ rest = rest' := by
  match fs, gs with
  | [], [] => exact ⟨rfl, List.tail_eq_of_cons_eq h⟩
  | [], (l, w) :: gs => simp [compactFields, keyText, quoted, closeBrace] at h
  | (k, v) :: fs, [] => simp [compactFields, keyText, quoted, closeBrace] at h
  | (k, v) :: fs, (l, w) :: gs =>
    simp only [compactFields, keyText, List.append_assoc] at h
    obtain ⟨hkl, h⟩ := quoted_append_inj h
    obtain ⟨hvw, h⟩ := compact_append_inj v w (stops_moreFields _ _) (stops_moreFields _ _)
      (List.tail_eq_of_cons_eq h)
    obtain ⟨hfg, hrest⟩ := compactMoreFields_append_inj fs gs h
    exact ⟨by rw [hkl, hvw, hfg], hrest⟩

theorem compactMoreFields_append_inj (fs gs : List (String × Json)) {rest rest' : List Char}
    (h : compactMoreFields fs ++ closeBrace :: rest = compactMoreFields gs ++ closeBrace :: rest') :
    fs = gs ∧ rest = rest' := by
  match fs, gs with
  | [], [] => exact ⟨rfl, List.tail_eq_of_cons_eq h⟩
  | [], (l, w) :: gs => simp [compactMoreFields, closeBrace] at h
  | (k, v) :: fs, [] => simp [compactMoreFields, closeBrace] at h
  | (k, v) :: fs, (l, w) :: gs =>
    simp only [compactMoreFields, keyText, List.cons_append, List.append_assoc] at h
    obtain ⟨hkl, h⟩ := quoted_append_inj (List.tail_eq_of_cons_eq h)
    obtain ⟨hvw, h⟩ := compact_append_inj v w (stops_moreFields _ _) (stops_moreFields _ _)
      (List.tail_eq_of_cons_eq h)
    obtain ⟨hfg, hrest⟩ := compactMoreFields_append_inj fs gs h
    exact ⟨by rw [hkl, hvw, hfg], hrest⟩

end

theorem compact_injective : Function.Injective compact := by
  intro i j h
  exact (compact_append_inj i j (stops_nil _) (stops_nil _) (by rw [h])).1

end AnswerCache.Json
