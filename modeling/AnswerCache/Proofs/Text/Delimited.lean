import AnswerCache.Text.Decimal
import Mathlib.Algebra.Order.Ring.Nat
import Mathlib.Data.List.TakeWhile
import Mathlib.Logic.Function.Basic

namespace AnswerCache.Text

def Stops (p : Char → Bool) (rest : List Char) : Prop :=
  ∀ c ∈ rest.head?, p c = false

lemma stops_nil (p : Char → Bool) : Stops p [] := by
  simp [Stops]

lemma stops_cons {p : Char → Bool} {c : Char} (h : p c = false) (rest : List Char) :
    Stops p (c :: rest) := by
  simpa [Stops] using h

lemma span_append {p : Char → Bool} {xs rest : List Char} (hx : ∀ c ∈ xs, p c = true)
    (hr : Stops p rest) :
    (xs ++ rest).takeWhile p = xs ∧ (xs ++ rest).dropWhile p = rest := by
  rw [List.takeWhile_append_of_pos hx, List.dropWhile_append_of_pos hx]
  cases rest with
  | nil => simp
  | cons c rest =>
    have hc : p c = false := hr c rfl
    constructor <;> simp [hc]

lemma span_append_of_stops {p : Char → Bool} {rest : List Char} (hr : Stops p rest)
    (cs : List Char) : (cs ++ rest).takeWhile p = cs.takeWhile p ∧
      (cs ++ rest).dropWhile p = cs.dropWhile p ++ rest := by
  induction cs with
  | nil => exact span_append (by simp) hr
  | cons c cs ih =>
    rw [List.cons_append, List.takeWhile_cons, List.dropWhile_cons, List.takeWhile_cons,
      List.dropWhile_cons, ih.1, ih.2]
    cases p c <;> exact ⟨rfl, rfl⟩

lemma append_inj_of_stops (p : Char → Bool) {xs ys rest rest' : List Char}
    (hx : ∀ c ∈ xs, p c = true) (hy : ∀ c ∈ ys, p c = true) (hr : Stops p rest)
    (hr' : Stops p rest') (h : xs ++ rest = ys ++ rest') : xs = ys ∧ rest = rest' := by
  obtain ⟨ht, hd⟩ := span_append hx hr
  obtain ⟨ht', hd'⟩ := span_append hy hr'
  rw [h] at ht hd
  exact ⟨ht.symm.trans ht', hd.symm.trans hd'⟩

lemma append_cons_inj (mark : Char) {xs ys rest rest' : List Char} (hx : mark ∉ xs)
    (hy : mark ∉ ys) (h : xs ++ mark :: rest = ys ++ mark :: rest') : xs = ys ∧ rest = rest' := by
  have hne : ∀ {zs : List Char}, mark ∉ zs → ∀ c ∈ zs, (c != mark) = true := by
    intro zs hz c hc
    simpa using fun he : c = mark => hz (he ▸ hc)
  have hs : ∀ zs, Stops (· != mark) (mark :: zs) := stops_cons (by simp)
  obtain ⟨hxy, hrest⟩ := append_inj_of_stops _ (hne hx) (hne hy) (hs _) (hs _) h
  exact ⟨hxy, List.tail_eq_of_cons_eq hrest⟩

def isNumeric (c : Char) : Bool :=
  c.isDigit || c == '.' || c == 'e' || c == '-' || c == '+'

lemma isNumeric_of_isDigit {c : Char} (h : c.isDigit = true) : isNumeric c = true := by
  simp [isNumeric, h]

lemma decimal_injective : Function.Injective decimal :=
  Function.LeftInverse.injective digitsValue_decimal

lemma decimal_ne_nil (n : Nat) : decimal n ≠ [] :=
  Nat.toDigits_ne_nil

lemma notMem_decimal {c : Char} (h : c.isDigit = false) (n : Nat) : c ∉ decimal n := by
  intro hc
  rw [isDigit_of_mem_decimal hc] at h
  contradiction

lemma padded_injective (width : Nat) : Function.Injective (padded width) :=
  Function.LeftInverse.injective (digitsValue_padded width)

lemma length_padded {width n : Nat} (hw : 0 < width) (hn : n < Nat.pow 10 width) :
    (padded width n).length = width := by
  have h : (decimal n).length ≤ width := (Nat.length_toDigits_le_iff (by decide) hw).mpr hn
  simp [padded]
  omega

lemma isDigit_of_mem_padded {width n : Nat} {c : Char} (h : c ∈ padded width n) : c.isDigit := by
  rcases List.mem_append.mp h with h | h
  · rw [List.eq_of_mem_replicate h]
    rfl
  · exact isDigit_of_mem_decimal h

lemma padded_eq_cons (width n : Nat) :
    ∃ c rest, padded width n = c :: rest ∧ c.isDigit = true := by
  have hne : padded width n ≠ [] := List.append_ne_nil_of_right_ne_nil _ (decimal_ne_nil n)
  obtain ⟨c, rest, hc⟩ := List.exists_cons_of_ne_nil hne
  exact ⟨c, rest, hc, isDigit_of_mem_padded (hc ▸ List.mem_cons_self)⟩

lemma notMem_padded {c : Char} (h : c.isDigit = false) (width n : Nat) : c ∉ padded width n := by
  intro hc
  rw [isDigit_of_mem_padded hc] at h
  contradiction

section Value

lemma digitsValue_append (xs ys : List Char) :
    digitsValue (xs ++ ys) = digitsValue xs * 10 ^ ys.length + digitsValue ys := by
  rw [digitsValue, Nat.ofDigitChars_append, Nat.ofDigitChars_eq_ofDigitChars_zero, digitsValue,
    digitsValue, Nat.mul_comm]

lemma digitsValue_zeros (n : Nat) : digitsValue (List.replicate n '0') = 0 := by
  simp [digitsValue]

lemma digitsValue_lt {ds : List Char} (h : ∀ c ∈ ds, c.isDigit = true) :
    digitsValue ds < 10 ^ ds.length := by
  induction ds with
  | nil => decide
  | cons c ds ih =>
    obtain ⟨hc, hds⟩ := List.forall_mem_cons.mp h
    have hfirst : digitsValue [c] ≤ 9 := by
      have hrange : 48 ≤ c.toNat ∧ c.toNat ≤ 57 := Char.isDigit_iff_toNat.mp hc
      have hvalue : digitsValue [c] = c.toNat - 48 := by simp [digitsValue, Nat.ofDigitChars_cons]
      omega
    have hscaled := Nat.mul_le_mul_right (10 ^ ds.length) hfirst
    have hrest := ih hds
    have hsum : digitsValue (c :: ds) = digitsValue [c] * 10 ^ ds.length + digitsValue ds :=
      digitsValue_append [c] ds
    rw [hsum, List.length_cons, pow_succ]
    omega

lemma digitsValue_take {ds : List Char} (h : ∀ c ∈ ds, c.isDigit = true) (k : Nat) :
    digitsValue ds * 10 ^ k / 10 ^ ds.length =
      digitsValue (ds.take k) * 10 ^ (k - (ds.take k).length) := by
  rcases Nat.le_total ds.length k with hshort | hlong
  · have hpow : 10 ^ k = 10 ^ (k - ds.length) * 10 ^ ds.length := by
      rw [← pow_add, Nat.sub_add_cancel hshort]
    rw [List.take_of_length_le hshort, hpow, ← Nat.mul_assoc]
    exact Nat.mul_div_cancel _ (Nat.pow_pos (by decide))
  · have hlength : ds.length = k + (ds.drop k).length := by
      rw [List.length_drop]
      omega
    have hvalue : digitsValue ds =
        digitsValue (ds.take k) * 10 ^ (ds.drop k).length + digitsValue (ds.drop k) := by
      rw [← digitsValue_append, List.take_append_drop]
    have hdropped : digitsValue (ds.drop k) < 10 ^ (ds.drop k).length :=
      digitsValue_lt fun c hc => h c (List.mem_of_mem_drop hc)
    rw [List.length_take_of_le hlong, Nat.sub_self, pow_zero, Nat.mul_one, hlength, pow_add,
      Nat.mul_comm, Nat.mul_div_mul_left _ _ (Nat.pow_pos (by decide)), hvalue, Nat.mul_comm,
      Nat.mul_add_div (Nat.pow_pos (by decide)), Nat.div_eq_of_lt hdropped, Nat.add_zero]

end Value

lemma signed_injective : Function.Injective signed := by
  intro a b h
  have hminus : ∀ {m n : Nat} , '-' :: decimal m ≠ decimal n := by
    intro m n he
    exact notMem_decimal rfl n (he ▸ List.mem_cons_self)
  simp only [signed] at h
  split at h <;> split at h
  · have := decimal_injective (List.tail_eq_of_cons_eq h)
    omega
  · exact absurd h hminus
  · exact absurd h.symm hminus
  · have := decimal_injective h
    omega

lemma isNumeric_of_mem_signed {z : Int} {c : Char} (h : c ∈ signed z) : isNumeric c = true := by
  simp only [signed] at h
  split at h
  · rcases List.mem_cons.mp h with rfl | h
    · rfl
    · exact isNumeric_of_isDigit (isDigit_of_mem_decimal h)
  · exact isNumeric_of_isDigit (isDigit_of_mem_decimal h)

end AnswerCache.Text
