import AnswerCache.Proofs.Text.Delimited
import AnswerCache.Proofs.Time.Calendar
import AnswerCache.Time.Printer

namespace AnswerCache

open Text

namespace Date

lemma isDigit_sign (year : Int) : (if year < 0 then '-' else '+').isDigit = false := by
  split <;> rfl

lemma yearText_injective : Function.Injective yearText := by
  intro a b h
  have hsign : ∀ (c : Char) (k l : Nat), c.isDigit = false → c :: padded 4 k ≠ padded 4 l := by
    intro c k l hc he
    exact notMem_padded hc 4 l (he ▸ List.mem_cons_self)
  by_cases ha : 0 ≤ a ∧ a ≤ 9999 <;> by_cases hb : 0 ≤ b ∧ b ≤ 9999 <;>
    simp only [yearText, ha, hb, if_true, if_false, and_self] at h
  · have := padded_injective 4 h
    omega
  · exact absurd h.symm (hsign _ _ _ (isDigit_sign b))
  · exact absurd h (hsign _ _ _ (isDigit_sign a))
  · obtain ⟨hc, hn⟩ := List.cons.inj h
    have hab := padded_injective 4 hn
    by_cases ha0 : a < 0 <;> by_cases hb0 : b < 0 <;> simp [ha0, hb0] at hc <;> omega

lemma notMem_yearText {c : Char} (hd : c.isDigit = false) (hm : c ≠ '-') (hp : c ≠ '+')
    (year : Int) : c ∉ yearText year := by
  simp only [yearText]
  split
  · exact notMem_padded hd 4 _
  · split <;> simp [hm, hp, notMem_padded hd]

lemma notMem_written {c : Char} (hd : c.isDigit = false) (hm : c ≠ '-') (hp : c ≠ '+') (d : Date) :
    c ∉ d.written := by
  simp [written, notMem_yearText hd hm hp, notMem_padded hd, hm]

lemma written_inj {d e : Date} (hd : d.month ≤ 12 ∧ d.day ≤ 31) (he : e.month ≤ 12 ∧ e.day ≤ 31)
    (h : d.written = e.written) : d = e := by
  simp only [written, List.append_assoc] at h
  have hlen : ∀ n : Nat, n < 100 → (padded 2 n).length = 2 :=
    fun _ hn => length_padded Nat.two_pos hn
  obtain ⟨hy, h⟩ := List.append_inj' h (by
    simp only [List.length_cons, List.length_append, hlen d.month (by omega),
      hlen d.day (by omega), hlen e.month (by omega), hlen e.day (by omega)])
  obtain ⟨hm, hday⟩ := List.append_inj (List.tail_eq_of_cons_eq h)
    (by rw [hlen _ (by omega), hlen _ (by omega)])
  have hyear := yearText_injective hy
  have hmonth := padded_injective 2 hm
  have hday := padded_injective 2 (List.tail_eq_of_cons_eq hday)
  cases d
  cases e
  simp_all

end Date

namespace ClockTime

lemma toSecond_append_inj {s t : ClockTime} (hs : s.Valid) (ht : t.Valid) {rest rest' : List Char}
    (h : s.toSecond ++ rest = t.toSecond ++ rest') :
    (s.hour = t.hour ∧ s.minute = t.minute ∧ s.second = t.second) ∧ rest = rest' := by
  obtain ⟨hh, hm, hsec, -⟩ := hs
  obtain ⟨hh', hm', hsec', -⟩ := ht
  have hlen : ∀ n : Nat, n < 100 → (padded 2 n).length = 2 :=
    fun _ hn => length_padded Nat.two_pos hn
  simp only [toSecond, List.append_assoc, List.cons_append] at h
  obtain ⟨hhour, h⟩ := List.append_inj h (by rw [hlen _ (by omega), hlen _ (by omega)])
  obtain ⟨hmin, h⟩ := List.append_inj (List.tail_eq_of_cons_eq h)
    (by rw [hlen _ (by omega), hlen _ (by omega)])
  obtain ⟨hsecond, h⟩ := List.append_inj (List.tail_eq_of_cons_eq h)
    (by rw [hlen _ (by omega), hlen _ (by omega)])
  exact ⟨⟨padded_injective 2 hhour, padded_injective 2 hmin, padded_injective 2 hsecond⟩, h⟩

lemma millis_inj {s t : ClockTime} (h : s.millis = t.millis) :
    s.nano / Instant.perMilli = t.nano / Instant.perMilli :=
  padded_injective 3 (List.tail_eq_of_cons_eq h)

lemma notMem_toSecond {c : Char} (hd : c.isDigit = false) (hc : c ≠ ':') (t : ClockTime) :
    c ∉ t.toSecond := by
  simp [toSecond, notMem_padded hd, hc]

end ClockTime

namespace Instant

lemma time_of_lt {t : Instant} (h : t.nano < perSecond) :
    t.time = ⟨(t.second % 86400).toNat / 3600, (t.second % 86400).toNat / 60 % 60,
      (t.second % 86400).toNat % 60, t.nano⟩ :=
  if_pos h

lemma time_of_leap {t : Instant} (h : perSecond ≤ t.nano) :
    t.time = ⟨(t.second % 86400).toNat / 3600, (t.second % 86400).toNat / 60 % 60, 60,
      t.nano - perSecond⟩ := by
  have hs := t.leap_last h
  have h60 : (t.second % 86400).toNat % 60 + 1 = 60 := by omega
  simp only [time, if_neg (Nat.not_lt.mpr h), h60]

lemma time_valid (t : Instant) : t.time.Valid := by
  have hn := t.nano_lt
  rcases Nat.lt_or_ge t.nano perSecond with h | h
  · rw [time_of_lt h]
    refine ⟨?_, ?_, ?_, h⟩ <;> dsimp only <;> omega
  · rw [time_of_leap h]
    refine ⟨?_, ?_, le_rfl, ?_⟩ <;> dsimp only <;> omega

lemma date_bounds (t : Instant) : t.date.month ≤ 12 ∧ t.date.day ≤ 31 :=
  (Date.inCalendar_ofDayNumber _).bounds

lemma time_nano_mod {t : Instant} (ht : t.IsMilli) : t.time.nano % perMilli = 0 := by
  rcases Nat.lt_or_ge t.nano perSecond with h | h
  · rwa [time_of_lt h]
  · rw [time_of_leap h]
    simp only [IsMilli, perMilli, perSecond] at *
    omega

lemma ext_of_civil {s t : Instant} (hd : s.date = t.date) (ht : s.time = t.time) : s = t := by
  have hday : s.second / 86400 = t.second / 86400 := Date.ofDayNumber_injective hd
  suffices h : s.second = t.second ∧ s.nano = t.nano by
    cases s
    cases t
    simpa using h
  rcases Nat.lt_or_ge s.nano perSecond with hs | hs <;>
    rcases Nat.lt_or_ge t.nano perSecond with ht' | ht'
  · rw [time_of_lt hs, time_of_lt ht', ClockTime.mk.injEq] at ht
    omega
  · rw [time_of_lt hs, time_of_leap ht', ClockTime.mk.injEq] at ht
    omega
  · rw [time_of_leap hs, time_of_lt ht', ClockTime.mk.injEq] at ht
    omega
  · have := s.leap_last hs
    have := t.leap_last ht'
    rw [time_of_leap hs, time_of_leap ht', ClockTime.mk.injEq] at ht
    omega

lemma ext_of_clock {s t : Instant} (hs : s.IsMilli) (ht : t.IsMilli) (hd : s.date = t.date)
    (hc : s.time.hour = t.time.hour ∧ s.time.minute = t.time.minute ∧ s.time.second = t.time.second)
    (hm : s.time.nano / perMilli = t.time.nano / perMilli) : s = t := by
  have hn : s.time.nano = t.time.nano := by
    have := time_nano_mod hs
    have := time_nano_mod ht
    simp only [perMilli] at *
    omega
  obtain ⟨hh, hmin, hsec⟩ := hc
  apply ext_of_civil hd
  cases hst : s.time
  cases htt : t.time
  simp_all

theorem written_inj {s t : Instant} (hs : s.IsMilli) (ht : t.IsMilli)
    (h : s.written = t.written) : s = t := by
  simp only [written, List.append_assoc, List.cons_append] at h
  obtain ⟨hd, h⟩ := append_cons_inj 'T' (Date.notMem_written rfl (by decide) (by decide) _)
    (Date.notMem_written rfl (by decide) (by decide) _) h
  obtain ⟨hc, h⟩ := ClockTime.toSecond_append_inj s.time_valid t.time_valid h
  obtain ⟨hm, -⟩ := List.append_inj' h rfl
  exact ext_of_clock hs ht (Date.written_inj s.date_bounds t.date_bounds hd) hc
    (ClockTime.millis_inj hm)

theorem identifying_inj {s t : Instant} (hs : s.IsMilli) (ht : t.IsMilli)
    (h : s.identifying = t.identifying) : s = t := by
  obtain ⟨h, -⟩ := List.append_inj' h rfl
  simp only [List.append_assoc, List.cons_append] at h
  obtain ⟨hd, h⟩ := append_cons_inj 'T' (Date.notMem_written rfl (by decide) (by decide) _)
    (Date.notMem_written rfl (by decide) (by decide) _) h
  obtain ⟨hc, h⟩ := ClockTime.toSecond_append_inj s.time_valid t.time_valid h
  refine ext_of_clock hs ht (Date.written_inj s.date_bounds t.date_bounds hd) hc ?_
  split at h <;> split at h
  · omega
  · simp [ClockTime.millis] at h
  · simp [ClockTime.millis] at h
  · exact ClockTime.millis_inj h

lemma slash_notMem_written (t : Instant) : '/' ∉ t.written := by
  have hm : '/' ∉ t.time.millis := by
    simp [ClockTime.millis, notMem_padded (c := '/') rfl]
  have hd := Date.notMem_written (c := '/') rfl (by decide) (by decide) t.date
  have hc := ClockTime.notMem_toSecond (c := '/') rfl (by decide) t.time
  simp [written, hd, hc, hm]

lemma underscore_notMem_identifying (t : Instant) : '_' ∉ t.identifying := by
  have hm : '_' ∉ t.time.millis := by
    simp [ClockTime.millis, notMem_padded (c := '_') rfl]
  have hd := Date.notMem_written (c := '_') rfl (by decide) (by decide) t.date
  have hc := ClockTime.notMem_toSecond (c := '_') rfl (by decide) t.time
  simp only [identifying]
  split <;> simp [hd, hc, hm]

end Instant

end AnswerCache
