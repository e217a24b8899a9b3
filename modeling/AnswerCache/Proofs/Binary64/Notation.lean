import AnswerCache.Binary64.Notation
import AnswerCache.Proofs.Binary64.Shortest
import AnswerCache.Proofs.Text.Delimited

/-!
No two finite numbers have one written form: the value of a decimal can be read off its text, and
two numbers never share the decimal that is nearest to both.
-/

namespace AnswerCache.Binary64

open Text

def powerValue : List Char → Int
  | _ :: sign :: digits => if sign = '-' then -(digitsValue digits : Int) else digitsValue digits
  | _ => 0

def textValue (cs : List Char) : ℚ :=
  let mantissa := cs.takeWhile (· != 'e')
  let whole := mantissa.takeWhile (· != '.')
  let fraction := (mantissa.dropWhile (· != '.')).tail
  digitsValue (whole ++ fraction) *
    (10 : ℚ) ^ (powerValue (cs.dropWhile (· != 'e')) - fraction.length)

lemma ne_of_isDigit {m : Char} (hm : m.isDigit = false) {cs : List Char}
    (hcs : ∀ c ∈ cs, c.isDigit = true) : ∀ c ∈ cs, (c != m) = true := by
  intro c hc
  simp only [bne_iff_ne, ne_eq]
  rintro rfl
  rw [hcs c hc] at hm
  contradiction

lemma textValue_plain {whole fraction : List Char} (hw : ∀ c ∈ whole, c.isDigit = true)
    (hf : ∀ c ∈ fraction, c.isDigit = true) :
    textValue (whole ++ '.' :: fraction) =
      digitsValue (whole ++ fraction) * (10 : ℚ) ^ (-(fraction.length : Int)) := by
  have he : ∀ c ∈ whole ++ '.' :: fraction, (c != 'e') = true := by
    intro c hc
    rcases List.mem_append.mp hc with h | h
    · exact ne_of_isDigit rfl hw c h
    · rcases List.mem_cons.mp h with rfl | h
      · rfl
      · exact ne_of_isDigit rfl hf c h
  obtain ⟨ht, hd⟩ := span_append he (stops_nil _)
  rw [List.append_nil] at ht hd
  obtain ⟨ht', hd'⟩ := span_append (ne_of_isDigit rfl hw)
    (stops_cons (p := (· != '.')) (c := '.') rfl fraction)
  simp only [textValue, ht, hd, ht', hd', powerValue, List.tail_cons, zero_sub]

lemma textValue_power {mantissa power : List Char} (hm : ∀ c ∈ mantissa, (c != 'e') = true) :
    textValue (mantissa ++ 'e' :: power) =
      textValue mantissa * (10 : ℚ) ^ powerValue ('e' :: power) := by
  obtain ⟨ht, hd⟩ := span_append hm (stops_cons (p := (· != 'e')) (c := 'e') rfl power)
  obtain ⟨ht', hd'⟩ := span_append hm (stops_nil _)
  rw [List.append_nil] at ht' hd'
  simp only [textValue, ht, hd, ht', hd', powerValue]
  rw [mul_assoc, ← zpow_add₀ (by norm_num)]
  congr 2
  ring

lemma textValue_digits {digits : List Char} (h : ∀ c ∈ digits, c.isDigit = true) :
    textValue digits = digitsValue digits := by
  obtain ⟨ht, hd⟩ := span_append (ne_of_isDigit (m := 'e') rfl h) (stops_nil _)
  obtain ⟨ht', hd'⟩ := span_append (ne_of_isDigit (m := '.') rfl h) (stops_nil _)
  rw [List.append_nil] at ht hd ht' hd'
  simp [textValue, ht, hd, ht', hd', powerValue]

lemma isDigit_of_mem_zeros {n : Nat} {c : Char} (h : c ∈ List.replicate n '0') :
    c.isDigit = true := by
  rw [List.eq_of_mem_replicate h]
  rfl

namespace Decimal

lemma positional_shape (d : Decimal) : ∃ whole fraction,
    d.positional = whole ++ '.' :: fraction ∧ whole ≠ [] ∧
      (∀ c ∈ whole, c.isDigit = true) ∧ (∀ c ∈ fraction, c.isDigit = true) ∧
      digitsValue (whole ++ fraction) * (10 : ℚ) ^ (-(fraction.length : Int)) = d.value := by
  have hdigits : ∀ c ∈ decimal d.significand, c.isDigit = true := fun _ => isDigit_of_mem_decimal
  have hne := decimal_ne_nil d.significand
  have hvalue := digitsValue_decimal d.significand
  simp only [positional, value]
  split_ifs with hexp hpoint
  · refine ⟨decimal d.significand ++ List.replicate d.exponent.toNat '0', ['0'], by simp,
      by simp [hne], ?_, by simp, ?_⟩
    · intro c hc
      rcases List.mem_append.mp hc with h | h
      · exact hdigits c h
      · exact isDigit_of_mem_zeros h
    · have hpow : (10 : ℚ) ^ d.exponent = (10 : ℚ) ^ d.exponent.toNat := by
        rw [← zpow_natCast]
        congr 1
        omega
      rw [digitsValue_append, digitsValue_append, hvalue, digitsValue_zeros, List.length_replicate,
        hpow]
      norm_num [digitsValue, Nat.ofDigitChars_cons]
      ring
  · refine ⟨(decimal d.significand).take ((decimal d.significand).length + d.exponent).toNat,
      (decimal d.significand).drop ((decimal d.significand).length + d.exponent).toNat, rfl, ?_,
      fun c hc => hdigits c (List.mem_of_mem_take hc),
      fun c hc => hdigits c (List.mem_of_mem_drop hc), ?_⟩
    · simp [hne]
      omega
    · rw [List.take_append_drop, hvalue, List.length_drop]
      congr 2
      omega
  · refine ⟨['0'], List.replicate (-((decimal d.significand).length + d.exponent)).toNat '0' ++
      decimal d.significand, by simp, by simp, by simp, ?_, ?_⟩
    · intro c hc
      rcases List.mem_append.mp hc with h | h
      · exact isDigit_of_mem_zeros h
      · exact hdigits c h
    · rw [← List.append_assoc, digitsValue_append, hvalue, List.length_append,
        List.length_replicate, digitsValue_append, digitsValue_zeros]
      have hzero : digitsValue ['0'] = 0 := rfl
      simp only [hzero, Nat.zero_mul, Nat.zero_add]
      congr 2
      omega

lemma powerValue_written (power : Int) :
    powerValue ('e' :: (if power < 0 then '-' else '+') :: decimal power.natAbs) = power := by
  simp only [powerValue, digitsValue_decimal]
  split_ifs <;> first | omega | simp_all

lemma scientific_shape (d : Decimal) : ∃ mantissa,
    d.scientific =
        mantissa ++ 'e' :: (if d.leading < 0 then '-' else '+') :: decimal d.leading.natAbs ∧
      mantissa.head?.map Char.isDigit = some true ∧
      (∀ c ∈ mantissa, c.isDigit = true ∨ c = '.') ∧
      textValue mantissa * (10 : ℚ) ^ d.leading = d.value := by
  have hdigits : ∀ c ∈ decimal d.significand, c.isDigit = true := fun _ => isDigit_of_mem_decimal
  have hvalue := digitsValue_decimal d.significand
  rcases hds : decimal d.significand with _ | ⟨digit, _ | ⟨next, rest⟩⟩
  · exact absurd hds (decimal_ne_nil _)
  · rw [hds] at hdigits hvalue
    refine ⟨[digit], by simp only [scientific, hds, List.singleton_append],
      by simp [hdigits digit], fun c hc => Or.inl (hdigits c hc), ?_⟩
    rw [textValue_digits hdigits, hvalue]
    simp [leading, hds, value]
  · rw [hds] at hdigits hvalue
    refine ⟨[digit] ++ '.' :: next :: rest,
      by simp only [scientific, hds, List.cons_append, List.nil_append],
      by simp [hdigits digit], ?_, ?_⟩
    · intro c hc
      rcases List.mem_cons.mp hc with rfl | hc
      · exact Or.inl (hdigits c (by simp))
      · rcases List.mem_cons.mp hc with rfl | hc
        · exact Or.inr rfl
        · exact Or.inl (hdigits c (List.mem_cons_of_mem _ hc))
    · rw [textValue_plain (fun c hc => hdigits c (by simp_all))
        (fun c hc => hdigits c (List.mem_cons_of_mem _ hc)), List.singleton_append, hvalue,
        mul_assoc, ← zpow_add₀ (by norm_num)]
      simp only [leading, hds, value, List.length_cons]
      congr 2
      push_cast
      ring

lemma textValue_written (style : Style) (d : Decimal) : textValue (d.written style) = d.value := by
  simp only [written]
  split_ifs
  · obtain ⟨whole, fraction, hd, -, hw, hf, hv⟩ := d.positional_shape
    rw [hd, textValue_plain hw hf, hv]
  · obtain ⟨mantissa, hd, -, hm, hv⟩ := d.scientific_shape
    have he : ∀ c ∈ mantissa, (c != 'e') = true := by
      intro c hc
      rcases hm c hc with h | rfl
      · simp only [bne_iff_ne, ne_eq]
        rintro rfl
        contradiction
      · rfl
    rw [hd, textValue_power he, powerValue_written, hv]

lemma written_chars (style : Style) (d : Decimal) :
    (∀ c ∈ d.written style, isNumeric c = true) ∧
      ((d.written style).head?.map Char.isDigit = some true) ∧
      ('.' ∈ d.written style ∨ 'e' ∈ d.written style) := by
  simp only [written]
  split_ifs
  · obtain ⟨whole, fraction, hd, hne, hw, hf, -⟩ := d.positional_shape
    rw [hd]
    refine ⟨?_, ?_, Or.inl (by simp)⟩
    · intro c hc
      rcases List.mem_append.mp hc with h | h
      · exact isNumeric_of_isDigit (hw c h)
      · rcases List.mem_cons.mp h with rfl | h
        · rfl
        · exact isNumeric_of_isDigit (hf c h)
    · cases whole with
      | nil => contradiction
      | cons c whole => simp [hw c]
  · obtain ⟨mantissa, hd, hhead, hm, -⟩ := d.scientific_shape
    rw [hd]
    refine ⟨?_, ?_, Or.inr (by simp)⟩
    · intro c hc
      rcases List.mem_append.mp hc with h | h
      · rcases hm c h with h | rfl
        · exact isNumeric_of_isDigit h
        · rfl
      · rcases List.mem_cons.mp h with rfl | h
        · rfl
        · rcases List.mem_cons.mp h with rfl | h
          · split_ifs <;> rfl
          · exact isNumeric_of_isDigit (isDigit_of_mem_decimal h)
    · cases mantissa with
      | nil => simp at hhead
      | cons c mantissa => simpa using hhead

end Decimal

namespace Finite

def magnitude (x : Finite) : List Char :=
  if x.isZero then ['0', '.', '0'] else x.shortest.written jsonStyle

lemma written_eq (x : Finite) :
    x.written = if x.negative then '-' :: x.magnitude else x.magnitude := rfl

lemma magnitude_chars (x : Finite) :
    (∀ c ∈ x.magnitude, isNumeric c = true) ∧ x.magnitude.head?.map Char.isDigit = some true ∧
      ('.' ∈ x.magnitude ∨ 'e' ∈ x.magnitude) := by
  simp only [magnitude]
  split_ifs
  · simp [isNumeric]
  · exact Decimal.written_chars _ _

lemma isNumeric_of_mem_written {x : Finite} {c : Char} (h : c ∈ x.written) :
    isNumeric c = true := by
  rw [written_eq] at h
  split_ifs at h
  · rcases List.mem_cons.mp h with rfl | h
    · rfl
    · exact x.magnitude_chars.1 c h
  · exact x.magnitude_chars.1 c h

lemma point_or_power_mem_written (x : Finite) : '.' ∈ x.written ∨ 'e' ∈ x.written := by
  rw [written_eq]
  have h := x.magnitude_chars.2.2
  split_ifs
  · exact h.imp (List.mem_cons_of_mem _) (List.mem_cons_of_mem _)
  · exact h

lemma near_magnitude (x : Finite) : x.Near (4 * stepsPerUnit * textValue x.magnitude) := by
  simp only [magnitude]
  split_ifs with hz
  · have h0 : textValue ['0', '.', '0'] = 0 := by
      rw [show ['0', '.', '0'] = ['0'] ++ '.' :: ['0'] from rfl,
        textValue_plain (by simp) (by simp)]
      norm_num [digitsValue, Nat.ofDigitChars_cons]
    rw [h0, mul_zero]
    exact near_zero hz
  · rw [Decimal.textValue_written]
    exact near_shortest (by simpa using hz)

lemma sign_eq_of_written_eq {x y : Finite} (h : x.written = y.written) : x.negative = y.negative ∧
    x.magnitude = y.magnitude := by
  have hne : ∀ u v : Finite, '-' :: u.magnitude ≠ v.magnitude := by
    intro u v he
    have hd := v.magnitude_chars.2.1
    rw [← he] at hd
    simp at hd
  rw [written_eq, written_eq] at h
  cases hx : x.negative <;> cases hy : y.negative <;> simp only [hx, hy, if_true] at h
  · exact ⟨rfl, h⟩
  · exact absurd h.symm (hne _ _)
  · exact absurd h (hne _ _)
  · exact ⟨rfl, List.tail_eq_of_cons_eq h⟩

theorem written_injective : Function.Injective written := by
  intro x y h
  obtain ⟨hsign, hmag⟩ := sign_eq_of_written_eq h
  have hx := x.near_magnitude
  rw [hmag] at hx
  obtain ⟨hm, he⟩ := near_unique hx y.near_magnitude
  exact ext_of_magnitude hsign hm he

end Finite

end AnswerCache.Binary64
