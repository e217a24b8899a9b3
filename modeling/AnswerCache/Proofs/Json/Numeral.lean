import AnswerCache.Json.Printer
import AnswerCache.Json.Reader
import AnswerCache.Proofs.Text.Delimited

namespace AnswerCache.Json

open Text

def Ends (rest : List Char) : Prop :=
  ∀ c ∈ rest.head?, c.isDigit = false ∧ c ≠ '.' ∧ c ≠ 'e' ∧ c ≠ 'E'

lemma Ends.stops {rest : List Char} (hr : Ends rest) : Stops Char.isDigit rest :=
  fun c hc => (hr c hc).1

lemma ends_nil : Ends [] :=
  nofun

lemma ends_cons {c : Char} (hc : isSpace c = true ∨ c = ',' ∨ c = ']' ∨ c = closeBrace)
    (rest : List Char) : Ends (c :: rest) := by
  intro d hd
  obtain rfl := Option.some.inj hd
  rcases hc with hc | rfl | rfl | rfl
  · simp only [isSpace, Bool.or_eq_true, beq_iff_eq] at hc
    rcases hc with ((rfl | rfl) | rfl) | rfl <;> decide
  · decide
  · decide
  · decide

lemma decimal_head_ne_zero (n : Nat) (hn : 0 < n) : (decimal n).head? ≠ some '0' := by
  induction n using Nat.strongRecOn with
  | ind n ih =>
    rw [decimal, Nat.toDigits_eq_if (by decide)]
    split
    · have hdigit : ∀ m < 10, 0 < m → Nat.digitChar m ≠ '0' := by decide
      simpa using hdigit n ‹_› hn
    · have h := ih (n / 10) (by omega) (by omega)
      rcases hd : Nat.toDigits 10 (n / 10) with _ | ⟨d, ds⟩
      · exact absurd hd Nat.toDigits_ne_nil
      · rw [decimal, hd] at h
        simpa using h

lemma decimal_cases (n : Nat) :
    n = 0 ∧ decimal n = ['0'] ∨
      ∃ d ds, decimal n = d :: ds ∧ d ≠ '0' ∧ d.isDigit = true := by
  rcases Nat.eq_zero_or_pos n with rfl | hn
  · exact Or.inl ⟨rfl, rfl⟩
  · right
    rcases hd : decimal n with _ | ⟨d, ds⟩
    · exact absurd hd (decimal_ne_nil n)
    · have h := decimal_head_ne_zero n hn
      rw [hd] at h
      exact ⟨d, ds, rfl, by simpa using h, isDigit_of_mem_decimal (hd ▸ List.mem_cons_self)⟩

namespace Numeral

lemma extend_eq (ds : List Char) (significand : Nat)
    (h : Nat.ofDigitChars 10 ds significand ≤ maxSignificand) :
    extend significand ds = (Nat.ofDigitChars 10 ds significand, []) := by
  induction ds generalizing significand with
  | nil => rfl
  | cons d ds ih =>
    rw [Nat.ofDigitChars_cons, Nat.mul_comm] at h ⊢
    have hle : significand * 10 + (d.toNat - '0'.toNat) ≤ maxSignificand := by
      rw [Nat.ofDigitChars_eq_ofDigitChars_zero] at h
      exact (Nat.le_mul_of_pos_left _ (Nat.pow_pos (by decide))).trans
        ((Nat.le_add_right _ _).trans h)
    simp only [extend, hle, if_true]
    exact ih _ h

lemma extend_decimal {n : Nat} (h : n ≤ maxSignificand) : extend 0 (decimal n) = (n, []) := by
  have hn : Nat.ofDigitChars 10 (decimal n) 0 = n := digitsValue_decimal n
  rw [extend_eq _ _ (hn.symm ▸ h), hn]

lemma spanDigits_append {ds rest : List Char} (hne : ds ≠ [])
    (hd : ∀ c ∈ ds, c.isDigit = true) (hr : Stops Char.isDigit rest) :
    spanDigits (ds ++ rest) = .ok (ds, rest) := by
  obtain ⟨ht, hdrop⟩ := span_append hd hr
  simp only [spanDigits, Text.spanDigits, ht, hdrop]
  rcases ds with _ | ⟨d, ds⟩
  · contradiction
  · rfl

lemma spanInteger_decimal (n : Nat) {rest : List Char} (hr : Stops Char.isDigit rest) :
    spanInteger (decimal n ++ rest) = .ok (decimal n, rest) := by
  rcases decimal_cases n with ⟨rfl, h⟩ | ⟨d, ds, h, hd, hdigit⟩
  · rw [h]
    rcases rest with _ | ⟨c, rest⟩
    · rfl
    · have hc : c.isDigit = false := hr c rfl
      simp [spanInteger, hc]
  · have hspan := spanDigits_append (decimal_ne_nil n) (fun _ => isDigit_of_mem_decimal) hr
    rw [h] at hspan ⊢
    rw [List.cons_append, spanInteger, ← List.cons_append, hspan]
    intro tail htail
    exact hd (List.cons.inj htail).1

lemma spanSign_decimal (n : Nat) (rest : List Char) :
    spanSign (decimal n ++ rest) = (false, decimal n ++ rest) := by
  have hhead : ∀ d ds, decimal n = d :: ds → d ≠ '-' := by
    rintro d ds h rfl
    exact notMem_decimal (c := '-') rfl n (h ▸ List.mem_cons_self)
  rcases h : decimal n with _ | ⟨d, ds⟩
  · exact absurd h (decimal_ne_nil n)
  · rw [List.cons_append, spanSign]
    intro tail htail
    exact hhead d ds h (List.cons.inj htail).1

lemma spanSign_signed (z : Int) (rest : List Char) :
    spanSign (signed z ++ rest) = (decide (z < 0), decimal z.natAbs ++ rest) := by
  simp only [signed]
  split
  · rename_i hz
    rw [List.cons_append, spanSign, decide_eq_true hz]
  · rename_i hz
    rw [spanSign_decimal, decide_eq_false hz]

section Followed

variable {cs left rest : List Char}

lemma spanDigits_followed {ds : List Char} (h : spanDigits cs = .ok (ds, left)) (hr : Ends rest) :
    spanDigits (cs ++ rest) = .ok (ds, left ++ rest) := by
  obtain ⟨htake, hdrop⟩ := span_append_of_stops hr.stops cs
  simp only [spanDigits, Text.spanDigits] at h ⊢
  rw [htake, hdrop]
  cases hds : cs.takeWhile Char.isDigit with
  | nil => simp [hds] at h
  | cons d ds => simp_all

lemma spanInteger_of_ne {c : Char} (hc : c ≠ '0') (cs : List Char) :
    spanInteger (c :: cs) = spanDigits (c :: cs) := by
  rw [spanInteger]
  intro tail htail
  exact hc (List.cons.inj htail).1

lemma spanInteger_followed {ds : List Char} (h : spanInteger cs = .ok (ds, left))
    (hr : Ends rest) : spanInteger (cs ++ rest) = .ok (ds, left ++ rest) := by
  rcases cs with _ | ⟨c, cs⟩
  · contradiction
  · by_cases hc : c = '0'
    · subst hc
      rcases cs with _ | ⟨d, cs⟩
      · obtain ⟨rfl, rfl⟩ := Prod.mk.inj (Except.ok.inj h)
        rcases rest with _ | ⟨e, rest⟩
        · rfl
        · have he : e.isDigit = false := hr.stops e rfl
          simp [spanInteger, he]
      · simp only [List.cons_append, spanInteger] at h ⊢
        split at h
        · contradiction
        · rename_i hd
          obtain ⟨rfl, rfl⟩ := Prod.mk.inj (Except.ok.inj h)
          rw [if_neg hd, List.cons_append]
    · rw [spanInteger_of_ne hc] at h
      rw [List.cons_append, spanInteger_of_ne hc]
      exact spanDigits_followed h hr

lemma spanFraction_ends (hr : Ends rest) : spanFraction rest = .ok ([], rest) := by
  rcases rest with _ | ⟨c, rest⟩
  · rfl
  · rw [spanFraction]
    intro more hmore
    exact (hr c rfl).2.1 (List.cons.inj hmore).1

lemma spanFraction_followed {ds : List Char} (h : spanFraction cs = .ok (ds, left))
    (hr : Ends rest) : spanFraction (cs ++ rest) = .ok (ds, left ++ rest) := by
  rcases cs with _ | ⟨c, cs⟩
  · obtain ⟨rfl, rfl⟩ := Prod.mk.inj (Except.ok.inj h)
    exact spanFraction_ends hr
  · by_cases hc : c = '.'
    · subst hc
      have hdigits : spanDigits cs = .ok (ds, left) := h
      exact spanDigits_followed hdigits hr
    · have hnone : ∀ tail, spanFraction (c :: tail) = .ok ([], c :: tail) := by
        intro tail
        rw [spanFraction]
        intro more hmore
        exact hc (List.cons.inj hmore).1
      rw [hnone] at h
      obtain ⟨rfl, rfl⟩ := Prod.mk.inj (Except.ok.inj h)
      exact hnone _

lemma spanPower_followed {down : Bool} {e : Option (Bool × List Char)}
    (h : spanPower down cs = .ok (e, left)) (hr : Ends rest) :
    spanPower down (cs ++ rest) = .ok (e, left ++ rest) := by
  simp only [spanPower] at h ⊢
  cases hds : spanDigits cs with
  | error b => simp [hds, bind, Except.bind] at h
  | ok spanned =>
    rw [hds] at h
    obtain ⟨rfl, rfl⟩ := Prod.mk.inj (Except.ok.inj h)
    rw [spanDigits_followed hds hr]
    rfl

lemma spanExponent_ends (hr : Ends rest) : spanExponent rest = .ok (none, rest) := by
  rcases rest with _ | ⟨c, rest⟩
  · rfl
  · obtain ⟨-, -, he⟩ := hr c rfl
    simp only [spanExponent, if_neg (not_or.mpr he)]

lemma spanExponent_followed {e : Option (Bool × List Char)} (h : spanExponent cs = .ok (e, left))
    (hr : Ends rest) : spanExponent (cs ++ rest) = .ok (e, left ++ rest) := by
  rcases cs with _ | ⟨c, cs⟩
  · obtain ⟨rfl, rfl⟩ := Prod.mk.inj (Except.ok.inj h)
    exact spanExponent_ends hr
  · rw [List.cons_append]
    simp only [spanExponent] at h ⊢
    split at h
    · rename_i hc
      rw [if_pos hc]
      rcases cs with _ | ⟨d, cs⟩
      · contradiction
      · split at h
        · rename_i tail htail
          rw [htail]
          exact spanPower_followed h hr
        · rename_i tail htail
          rw [htail]
          exact spanPower_followed h hr
        · rename_i hplus hminus
          rw [List.cons_append]
          split
          · rename_i more hmore
            exact absurd (by rw [(List.cons.inj hmore).1]) (hplus cs)
          · rename_i more hmore
            exact absurd (by rw [(List.cons.inj hmore).1]) (hminus cs)
          · rw [← List.cons_append]
            exact spanPower_followed h hr
    · rename_i hc
      obtain ⟨rfl, rfl⟩ := Prod.mk.inj (Except.ok.inj h)
      rw [if_neg hc, List.cons_append]

lemma spanSign_append {c : Char} (cs rest : List Char) :
    spanSign (c :: cs ++ rest) = ((spanSign (c :: cs)).1, (spanSign (c :: cs)).2 ++ rest) := by
  rw [List.cons_append]
  by_cases hc : c = '-'
  · subst hc
    rfl
  · have hnone : ∀ tail, spanSign (c :: tail) = (false, c :: tail) := by
      intro tail
      rw [spanSign]
      intro more hmore
      exact hc (List.cons.inj hmore).1
    rw [hnone, hnone, List.cons_append]

lemma span_followed {n : Numeral} (h : span cs = .ok (n, left)) (hr : Ends rest) :
    span (cs ++ rest) = .ok (n, left ++ rest) := by
  rcases cs with _ | ⟨c, cs⟩
  · contradiction
  · simp only [span, spanSign_append, bind, pure] at h ⊢
    cases hi : spanInteger (spanSign (c :: cs)).2 with
    | error b => simp [hi, Except.bind] at h
    | ok i =>
      cases hf : spanFraction i.2 with
      | error b => simp [hi, hf, Except.bind] at h
      | ok f =>
        cases he : spanExponent f.2 with
        | error b => simp [hi, hf, he, Except.bind] at h
        | ok e =>
          simp only [hi, hf, he, Except.bind, Except.pure] at h
          obtain ⟨rfl, rfl⟩ := Prod.mk.inj (Except.ok.inj h)
          simp only [spanInteger_followed hi hr, spanFraction_followed hf hr,
            spanExponent_followed he hr, Except.bind, Except.pure]

end Followed

lemma span_signed (z : Int) {rest : List Char} (hr : Ends rest) :
    span (signed z ++ rest) = .ok (⟨decide (z < 0), decimal z.natAbs, [], none⟩, rest) := by
  simp only [span, spanSign_signed, spanInteger_decimal _ hr.stops, spanFraction_ends hr,
    spanExponent_ends hr, bind, Except.bind, pure, Except.pure]

lemma ofSignificand_natAbs {z : Int} (h : Int64.minValue.toInt ≤ z) :
    ofSignificand (decide (z < 0)) z.natAbs = .whole z := by
  by_cases hz : z < 0
  · have h0 : z.natAbs ≠ 0 := by omega
    have hmin : z.natAbs ≤ Int64.minValue.toInt.natAbs := by omega
    simp only [ofSignificand, hz, decide_true, h0, hmin, if_true, if_false, Bool.not_true,
      Bool.false_eq_true, Number.whole.injEq]
    omega
  · simp only [ofSignificand, hz, decide_false, Bool.not_false, if_true, Number.whole.injEq]
    omega

lemma number?_signed {z : Int} (h : (Number.whole z).InRange) :
    (Numeral.mk (decide (z < 0)) (decimal z.natAbs) [] none).number? = some (.whole z) := by
  obtain ⟨hmin, hmax⟩ := h
  have hsig : z.natAbs ≤ maxSignificand := by
    have hsize : UInt64.size = 18446744073709551616 := rfl
    have hlow : Int64.minValue.toInt = -9223372036854775808 := rfl
    simp only [maxSignificand]
    omega
  simp [number?, extend_decimal hsig, ofSignificand_natAbs hmin]

end Numeral

lemma number_signed {z : Int} (h : (Number.whole z).InRange) {rest : List Char} (hr : Ends rest) :
    Reader.number (signed z ++ rest) = (.number (.whole z), .ok rest) := by
  simp only [Reader.number, Numeral.span_signed z hr, Numeral.number?_signed h]

lemma number_followed {cs rest : List Char} {n : Number}
    (h : Reader.number cs = (.number n, .ok [])) (hr : Ends rest) :
    Reader.number (cs ++ rest) = (.number n, .ok rest) := by
  simp only [Reader.number] at h ⊢
  cases hspan : Numeral.span cs with
  | error b => cases b <;> simp [hspan, Reader.broken] at h
  | ok spanned =>
    obtain ⟨numeral, left⟩ := spanned
    simp only [hspan, Numeral.span_followed hspan hr] at h ⊢
    cases hn : numeral.number? with
    | none => simp [hn] at h
    | some m =>
      simp only [hn, Prod.mk.injEq, Source.number.injEq, Except.ok.injEq] at h ⊢
      obtain ⟨rfl, rfl⟩ := h
      exact ⟨rfl, rfl⟩

end AnswerCache.Json
