import AnswerCache.Json.Printer
import AnswerCache.Json.Reader
import Mathlib.Data.List.Basic

/-!
The text of a tree with blanks of one's choice between its parts; the compact and the pretty text
are two cases of it.
-/

namespace AnswerCache.Json

structure Layout where
  gap : Nat → List Char
  afterColon : List Char
  gap_blank : ∀ level, ∀ c ∈ gap level, isSpace c = true
  afterColon_blank : ∀ c ∈ afterColon, isSpace c = true

namespace Layout

def tight : Layout where
  gap _ := []
  afterColon := []
  gap_blank := nofun
  afterColon_blank := nofun

@[simp] lemma tight_gap (level : Nat) : tight.gap level = [] := rfl

@[simp] lemma tight_afterColon : tight.afterColon = [] := rfl

lemma isSpace_of_mem_lineBreak {level : Nat} {c : Char} (hc : c ∈ lineBreak level) :
    isSpace c = true := by
  rcases List.mem_cons.mp hc with rfl | hc
  · rfl
  · rw [List.eq_of_mem_replicate hc]
    rfl

def lines : Layout where
  gap := lineBreak
  afterColon := [' ']
  gap_blank _ _ := isSpace_of_mem_lineBreak
  afterColon_blank := List.forall_mem_singleton.mpr rfl

@[simp] lemma lines_gap (level : Nat) : lines.gap level = lineBreak level := rfl

@[simp] lemma lines_afterColon : lines.afterColon = [' '] := rfl

mutual

def text (l : Layout) (level : Nat) : Json → List Char
  | .null => "null".toList
  | .bool b => boolText b
  | .number n => n.written
  | .string s => quoted s
  | .array [] => ['[', ']']
  | .array items => '[' :: l.itemsText (level + 1) items ++ l.gap level ++ [']']
  | .object [] => [openBrace, closeBrace]
  | .object fields =>
    openBrace :: l.fieldsText (level + 1) fields ++ l.gap level ++ [closeBrace]

def itemsText (l : Layout) (level : Nat) : List Json → List Char
  | [] => []
  | item :: rest => l.gap level ++ l.text level item ++ l.moreItemsText level rest

def moreItemsText (l : Layout) (level : Nat) : List Json → List Char
  | [] => []
  | item :: rest => ',' :: l.gap level ++ l.text level item ++ l.moreItemsText level rest

def fieldsText (l : Layout) (level : Nat) : List (String × Json) → List Char
  | [] => []
  | (key, value) :: rest =>
    l.gap level ++ keyText key ++ l.afterColon ++ l.text level value ++ l.moreFieldsText level rest

def moreFieldsText (l : Layout) (level : Nat) : List (String × Json) → List Char
  | [] => []
  | (key, value) :: rest =>
    ',' :: l.gap level ++ keyText key ++ l.afterColon ++ l.text level value ++
      l.moreFieldsText level rest

end

mutual

lemma text_tight (level : Nat) (j : Json) : tight.text level j = j.compact := by
  match j with
  | .null => rfl
  | .bool b => rfl
  | .number n => rfl
  | .string s => rfl
  | .array [] => rfl
  | .array (item :: rest) =>
    have hitems := itemsText_tight (level + 1) (item :: rest)
    simp [text, compact, hitems]
  | .object [] => rfl
  | .object (field :: rest) =>
    have hfields := fieldsText_tight (level + 1) (field :: rest)
    simp [text, compact, hfields]

lemma itemsText_tight (level : Nat) (items : List Json) :
    tight.itemsText level items = compactItems items := by
  match items with
  | [] => rfl
  | item :: rest =>
    simp [itemsText, compactItems, text_tight level item, moreItemsText_tight level rest]

lemma moreItemsText_tight (level : Nat) (items : List Json) :
    tight.moreItemsText level items = compactMoreItems items := by
  match items with
  | [] => rfl
  | item :: rest =>
    simp [moreItemsText, compactMoreItems, text_tight level item, moreItemsText_tight level rest]

lemma fieldsText_tight (level : Nat) (fields : List (String × Json)) :
    tight.fieldsText level fields = compactFields fields := by
  match fields with
  | [] => rfl
  | (key, value) :: rest =>
    simp [fieldsText, compactFields, text_tight level value, moreFieldsText_tight level rest]

lemma moreFieldsText_tight (level : Nat) (fields : List (String × Json)) :
    tight.moreFieldsText level fields = compactMoreFields fields := by
  match fields with
  | [] => rfl
  | (key, value) :: rest =>
    simp [moreFieldsText, compactMoreFields, text_tight level value,
      moreFieldsText_tight level rest]

end

mutual

lemma text_lines (level : Nat) (j : Json) : lines.text level j = j.pretty level := by
  match j with
  | .null => rfl
  | .bool b => rfl
  | .number n => rfl
  | .string s => rfl
  | .array [] => rfl
  | .array (item :: rest) =>
    have hitems := itemsText_lines (level + 1) (item :: rest)
    simp [text, pretty, hitems]
  | .object [] => rfl
  | .object (field :: rest) =>
    have hfields := fieldsText_lines (level + 1) (field :: rest)
    simp [text, pretty, hfields]

lemma itemsText_lines (level : Nat) (items : List Json) :
    lines.itemsText level items = prettyItems level items := by
  match items with
  | [] => rfl
  | item :: rest =>
    simp [itemsText, prettyItems, text_lines level item, moreItemsText_lines level rest]

lemma moreItemsText_lines (level : Nat) (items : List Json) :
    lines.moreItemsText level items = prettyMoreItems level items := by
  match items with
  | [] => rfl
  | item :: rest =>
    simp [moreItemsText, prettyMoreItems, text_lines level item, moreItemsText_lines level rest]

lemma fieldsText_lines (level : Nat) (fields : List (String × Json)) :
    lines.fieldsText level fields = prettyFields level fields := by
  match fields with
  | [] => rfl
  | (key, value) :: rest =>
    simp [fieldsText, prettyFields, text_lines level value, moreFieldsText_lines level rest]

lemma moreFieldsText_lines (level : Nat) (fields : List (String × Json)) :
    lines.moreFieldsText level fields = prettyMoreFields level fields := by
  match fields with
  | [] => rfl
  | (key, value) :: rest =>
    simp [moreFieldsText, prettyMoreFields, text_lines level value,
      moreFieldsText_lines level rest]

end

end Layout

end AnswerCache.Json
