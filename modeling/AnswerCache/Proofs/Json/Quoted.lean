import AnswerCache.Json.Printer
import AnswerCache.Json.Reader
import Mathlib.Logic.Basic
import Mathlib.Tactic.IntervalCases

namespace AnswerCache.Json

open Reader

lemma settle_none (r : StringRead) : StringRead.settle none r = r := rfl

lemma stringBody_simple {c e : Char} (h : simpleEscape? e = some c) (hu : e ≠ 'u')
    (rest : List Char) : stringBody none ('\\' :: e :: rest) = .cons c (stringBody none rest) := by
  rw [stringBody]
  · simp only [h, settle_none]
  all_goals simp_all

lemma stringBody_plain {c : Char} (hq : c ≠ '"') (hb : c ≠ '\\') (hc : ¬ c.toNat < 0x20)
    (rest : List Char) : stringBody none (c :: rest) = .cons c (stringBody none rest) := by
  rw [stringBody]
  · simp only [hc, if_false, settle_none]
  all_goals simp_all

lemma stringBody_control {n : Nat} (h : n < 0x20) (rest : List Char) :
    stringBody none ('\\' :: 'u' :: '0' :: '0' :: hexDigit (n / 16) :: hexDigit n :: rest) =
      .cons (Char.ofNat n) (stringBody none rest) := by
  have hunit : codeUnit? '0' '0' (hexDigit (n / 16)) (hexDigit n) = some n := by
    interval_cases n <;> decide
  have hlow : isLowSurrogate n = false := by
    simp [isLowSurrogate]
    omega
  have hhigh : isHighSurrogate n = false := by
    simp [isHighSurrogate]
    omega
  rw [stringBody]
  simp [hunit, hlow, hhigh]

lemma stringBody_escapeChar (c : Char) (rest : List Char) :
    stringBody none (escapeChar c ++ rest) = .cons c (stringBody none rest) := by
  unfold escapeChar
  by_cases hq : c = '"'
  · subst hq
    exact stringBody_simple rfl (by decide) rest
  by_cases hb : c = '\\'
  · subst hb
    exact stringBody_simple rfl (by decide) rest
  simp only [hq, hb, if_false]
  split_ifs with h8 hc hn hr ht hctl
  · exact stringBody_simple (h8 ▸ rfl) (by decide) rest
  · exact stringBody_simple (hc ▸ rfl) (by decide) rest
  · exact stringBody_simple (hn ▸ rfl) (by decide) rest
  · exact stringBody_simple (hr ▸ rfl) (by decide) rest
  · exact stringBody_simple (ht ▸ rfl) (by decide) rest
  · have h := stringBody_control hctl rest
    rwa [Char.ofNat_toNat] at h
  · exact stringBody_plain hq hb hctl rest

lemma stringBody_escaped (cs rest : List Char) :
    stringBody none (cs.flatMap escapeChar ++ '"' :: rest) = (.ok cs, .ok rest) := by
  induction cs with
  | nil => rw [List.flatMap_nil, List.nil_append, stringBody, settle_none]
  | cons c cs ih =>
    rw [List.flatMap_cons, List.append_assoc, stringBody_escapeChar, ih]
    rfl

theorem quoted_append_inj {s t : String} {rest rest' : List Char}
    (h : quoted s ++ rest = quoted t ++ rest') : s = t ∧ rest = rest' := by
  simp only [quoted, List.cons_append, List.append_assoc] at h
  have hread := congrArg (stringBody none) (List.tail_eq_of_cons_eq h)
  rw [stringBody_escaped, stringBody_escaped] at hread
  simp only [Prod.mk.injEq, Except.ok.injEq] at hread
  exact ⟨String.toList_inj.mp hread.1, hread.2⟩

end AnswerCache.Json
