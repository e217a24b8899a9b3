import AnswerCache.Proofs.Json.Compact
import AnswerCache.Proofs.Json.Tree
import AnswerCache.Proofs.Text.Scan

/-!
Outside its strings the compact text of a tree has no blank, and its brackets are nested as deeply
as the tree.
-/

namespace AnswerCache.Json

def outside : Bool → List Char → List Char
  | _, [] => []
  | false, '"' :: rest => outside true rest
  | false, c :: rest => c :: outside false rest
  | true, '"' :: rest => outside false rest
  | true, '\\' :: _ :: rest => outside true rest
  | true, _ :: rest => outside true rest

def Dense (text : List Char) : Prop :=
  ∀ c ∈ outside false text, Text.isBlank c = false

def deepest (opened : Nat) : List Char → Nat
  | [] => opened
  | c :: rest =>
    if c = '[' ∨ c = openBrace then deepest (opened + 1) rest
    else if c = ']' ∨ c = closeBrace then max opened (deepest (opened - 1) rest)
    else deepest opened rest

def bracketDepth (text : List Char) : Nat :=
  deepest 0 (outside false text)

section Outside

lemma outside_cons {c : Char} (hc : c ≠ '"') (rest : List Char) :
    outside false (c :: rest) = c :: outside false rest := by
  rw [outside]
  exact fun h => hc h

lemma outside_plain {c : Char} (hq : c ≠ '"') (hb : c ≠ '\\') (rest : List Char) :
    outside true (c :: rest) = outside true rest := by
  rw [outside]
  · exact fun h => hq h
  · exact fun _ _ h => absurd h hb

lemma hexDigit_plain (n : Nat) : hexDigit n ≠ '"' ∧ hexDigit n ≠ '\\' := by
  have hdigits : ∀ d < 16, Nat.digitChar d ≠ '"' ∧ Nat.digitChar d ≠ '\\' := by decide
  exact hdigits (n % 16) (Nat.mod_lt n (by decide))

lemma outside_escapeChar (c : Char) (rest : List Char) :
    outside true (escapeChar c ++ rest) = outside true rest := by
  unfold escapeChar
  by_cases hq : c = '"'
  · rw [if_pos hq]
    rfl
  by_cases hb : c = '\\'
  · rw [if_neg hq, if_pos hb]
    rfl
  simp only [hq, hb, if_false]
  split_ifs
  · rfl
  · rfl
  · rfl
  · rfl
  · rfl
  · obtain ⟨hfirst, hfirst'⟩ := hexDigit_plain (c.toNat / 16)
    obtain ⟨hsecond, hsecond'⟩ := hexDigit_plain c.toNat
    exact (outside_plain hfirst hfirst' _).trans (outside_plain hsecond hsecond' _)
  · exact outside_plain hq hb rest

lemma outside_quoted (s : String) (rest : List Char) :
    outside false (quoted s ++ rest) = outside false rest := by
  have hbody : ∀ cs : List Char,
      outside true (cs.flatMap escapeChar ++ '"' :: rest) = outside false rest := by
    intro cs
    induction cs with
    | nil => rfl
    | cons c cs ih => rw [List.flatMap_cons, List.append_assoc, outside_escapeChar, ih]
  simp only [quoted, List.cons_append, List.append_assoc]
  exact hbody s.toList

end Outside

lemma le_deepest (opened : Nat) (cs : List Char) : opened ≤ deepest opened cs := by
  induction cs generalizing opened with
  | nil => exact Nat.le_refl opened
  | cons c cs ih =>
    rw [deepest]
    split_ifs
    · exact Nat.le_trans (Nat.le_add_right opened 1) (ih _)
    · exact Nat.le_max_left _ _
    · exact ih opened

structure Balanced (levels : Nat) (part : List Char) : Prop where
  dense : ∀ {rest}, Dense rest → Dense (part ++ rest)
  deepest_eq : ∀ opened rest, deepest opened (outside false (part ++ rest)) =
    max (opened + levels) (deepest opened (outside false rest))

def isPlain (c : Char) : Bool :=
  !Text.isBlank c && c != '"' && c != '[' && c != ']' && c != openBrace && c != closeBrace

namespace Balanced

lemma nil : Balanced 0 [] :=
  ⟨id, fun opened _ => (Nat.max_eq_right (le_deepest opened _)).symm⟩

lemma append {m n : Nat} {left right : List Char} (hl : Balanced m left) (hr : Balanced n right) :
    Balanced (max m n) (left ++ right) where
  dense h := by
    rw [List.append_assoc]
    exact hl.dense (hr.dense h)
  deepest_eq opened rest := by
    rw [List.append_assoc, hl.deepest_eq, hr.deepest_eq]
    omega

lemma cons {c : Char} (hc : isPlain c = true) {n : Nat} {part : List Char} (h : Balanced n part) :
    Balanced n (c :: part) := by
  simp only [isPlain, Bool.and_eq_true, Bool.not_eq_true', bne_iff_ne] at hc
  obtain ⟨⟨⟨⟨⟨hblank, hquote⟩, hopen⟩, hclose⟩, hopen'⟩, hclose'⟩ := hc
  refine ⟨fun hr => ?_, fun opened rest => ?_⟩
  · rw [Dense, List.cons_append, outside_cons hquote]
    exact List.forall_mem_cons.mpr ⟨hblank, h.dense hr⟩
  · rw [List.cons_append, outside_cons hquote, deepest, if_neg (by simp [hopen, hopen']),
      if_neg (by simp [hclose, hclose']), h.deepest_eq]

lemma word {cs : List Char} (h : ∀ c ∈ cs, isPlain c = true) : Balanced 0 cs := by
  induction cs with
  | nil => exact nil
  | cons c cs ih =>
    obtain ⟨hc, hcs⟩ := List.forall_mem_cons.mp h
    exact (ih hcs).cons hc

lemma quoted (s : String) : Balanced 0 (Json.quoted s) where
  dense h := by
    rw [Dense, outside_quoted]
    exact h
  deepest_eq opened rest := by
    rw [outside_quoted]
    exact nil.deepest_eq opened rest

lemma keyed (key : String) {n : Nat} {part : List Char} (h : Balanced n part) :
    Balanced n (keyText key ++ part) := by
  have hkey := (quoted key).append (h.cons (c := ':') (by decide))
  rw [Nat.zero_max] at hkey
  rw [keyText, List.append_assoc]
  exact hkey

lemma enclosed {opening closing : Char} {n : Nat} {part : List Char} (h : Balanced n part)
    (hpair : opening = '[' ∧ closing = ']' ∨ opening = openBrace ∧ closing = closeBrace) :
    Balanced (n + 1) (opening :: part ++ [closing]) := by
  have hquotes : opening ≠ '"' ∧ closing ≠ '"' := by
    rcases hpair with ⟨rfl, rfl⟩ | ⟨rfl, rfl⟩ <;> decide
  have hblanks : Text.isBlank opening = false ∧ Text.isBlank closing = false := by
    rcases hpair with ⟨rfl, rfl⟩ | ⟨rfl, rfl⟩ <;> decide
  have hopens : opening = '[' ∨ opening = openBrace := hpair.imp And.left And.left
  have hcloses : closing = ']' ∨ closing = closeBrace := hpair.imp And.right And.right
  have hother : ¬(closing = '[' ∨ closing = openBrace) := by
    rcases hpair with ⟨rfl, rfl⟩ | ⟨rfl, rfl⟩ <;> decide
  refine ⟨fun {rest} hr => ?_, fun opened rest => ?_⟩
  · have hclosed : Dense (closing :: rest) := by
      rw [Dense, outside_cons hquotes.2]
      exact List.forall_mem_cons.mpr ⟨hblanks.2, hr⟩
    rw [Dense, List.cons_append, List.cons_append, List.append_assoc, outside_cons hquotes.1]
    exact List.forall_mem_cons.mpr ⟨hblanks.1, h.dense hclosed⟩
  · rw [List.cons_append, List.cons_append, List.append_assoc, outside_cons hquotes.1, deepest,
      if_pos hopens, h.deepest_eq, List.singleton_append, outside_cons hquotes.2, deepest,
      if_neg hother, if_pos hcloses, Nat.add_sub_cancel]
    omega

end Balanced

lemma isPlain_of_isNumeric {c : Char} (h : Text.isNumeric c = true) : isPlain c = true := by
  simp only [Text.isNumeric, Bool.or_eq_true, beq_iff_eq] at h
  rcases h with (((h | rfl) | rfl) | rfl) | rfl
  case inr | inl.inr | inl.inl.inr | inl.inl.inl.inr => decide
  simp only [isPlain, Text.isBlank_of_isDigit h, Bool.and_eq_true, bne_iff_ne]
  refine ⟨⟨⟨⟨⟨rfl, ?_⟩, ?_⟩, ?_⟩, ?_⟩, ?_⟩ <;> (rintro rfl; contradiction)

mutual

theorem balanced_compact (j : Json) : Balanced j.nesting j.compact := by
  match j with
  | null => exact .word (List.all_eq_true.mp rfl)
  | bool b => cases b <;> exact .word (List.all_eq_true.mp rfl)
  | number n => exact .word fun c hc => isPlain_of_isNumeric (n.isNumeric_of_mem_written hc)
  | string s => exact .quoted s
  | array items => exact (balanced_compactItems items).enclosed (.inl ⟨rfl, rfl⟩)
  | object fields => exact (balanced_compactFields fields).enclosed (.inr ⟨rfl, rfl⟩)

theorem balanced_compactItems (items : List Json) :
    Balanced (nestingOfItems items) (compactItems items) := by
  match items with
  | [] => exact .nil
  | item :: rest => exact (balanced_compact item).append (balanced_compactMoreItems rest)

theorem balanced_compactMoreItems (items : List Json) :
    Balanced (nestingOfItems items) (compactMoreItems items) := by
  match items with
  | [] => exact .nil
  | item :: rest =>
    exact ((balanced_compact item).cons (by decide)).append (balanced_compactMoreItems rest)

theorem balanced_compactFields (fields : List (String × Json)) :
    Balanced (nestingOfFields fields) (compactFields fields) := by
  match fields with
  | [] => exact .nil
  | (key, value) :: rest =>
    exact ((balanced_compact value).keyed key).append (balanced_compactMoreFields rest)

theorem balanced_compactMoreFields (fields : List (String × Json)) :
    Balanced (nestingOfFields fields) (compactMoreFields fields) := by
  match fields with
  | [] => exact .nil
  | (key, value) :: rest =>
    exact (((balanced_compact value).keyed key).cons (by decide)).append
      (balanced_compactMoreFields rest)

end

lemma dense_compact (j : Json) : Dense j.compact := by
  have hnil : Dense [] := nofun
  have h := j.balanced_compact.dense hnil
  rwa [List.append_nil] at h

lemma bracketDepth_compact (j : Json) : bracketDepth j.compact = j.nesting := by
  have h := j.balanced_compact.deepest_eq 0 []
  rw [List.append_nil, Nat.zero_add] at h
  exact h.trans (Nat.max_eq_left (Nat.zero_le _))

end AnswerCache.Json
