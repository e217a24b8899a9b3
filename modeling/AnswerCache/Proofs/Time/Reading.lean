import AnswerCache.Proofs.Time.ReadBack

namespace AnswerCache

open Text

/-- What a clock in UTC shows, with the seconds to any number of places. -/
structure Reading where
  date : Date
  hour : Nat
  minute : Nat
  second : Nat
  places : List Char
  inCalendar : date.InCalendar
  hour_lt : hour < 24
  minute_lt : minute < 60
  second_le : second ≤ 60
  isDigit_places : ∀ c ∈ places, c.isDigit = true

namespace Reading

def nano (r : Reading) : Nat :=
  digitsValue r.places * Instant.perSecond / 10 ^ r.places.length

def time (r : Reading) : ClockTime :=
  ⟨r.hour, r.minute, r.second, r.nano⟩

def Shows (r : Reading) (t : Instant) : Prop :=
  t.date = r.date ∧ t.time = r.time

def FourDigitYear (r : Reading) : Prop :=
  0 ≤ r.date.year ∧ r.date.year ≤ 9999

instance (r : Reading) : Decidable r.FourDigitYear :=
  inferInstanceAs (Decidable (_ ∧ _))

def minuteNumber (r : Reading) : Int :=
  r.date.dayNumber * 1440 + (r.hour * 60 + r.minute : Nat)

def shift (r : Reading) (minutes : Int) : Reading :=
  let shown := r.minuteNumber + minutes
  { r with
    date := .ofDayNumber (shown / 1440)
    hour := (shown % 1440 / 60).toNat
    minute := (shown % 60).toNat
    inCalendar := Date.inCalendar_ofDayNumber _
    hour_lt := by omega
    minute_lt := by omega }

end Reading

structure Zone where
  west : Bool
  hours : Nat
  minutes : Nat
  hours_le : hours ≤ 23
  minutes_le : minutes ≤ 59

namespace Zone

def ahead (z : Zone) : Int :=
  (if z.west then -1 else 1) * (z.hours * 60 + z.minutes : Nat)

lemma ahead_bounds (z : Zone) : -1439 ≤ z.ahead ∧ z.ahead ≤ 1439 := by
  have hhours := z.hours_le
  have hminutes := z.minutes_le
  rw [ahead]
  split <;> omega

end Zone

namespace Reading

variable {r : Reading} {t : Instant}

lemma minuteNumber_shift (r : Reading) (minutes : Int) :
    (r.shift minutes).minuteNumber = r.minuteNumber + minutes := by
  have hday := Date.dayNumber_ofDayNumber ((r.minuteNumber + minutes) / 1440)
  simp only [minuteNumber, shift] at hday ⊢
  rw [hday]
  omega

lemma nano_lt (r : Reading) : r.nano < Instant.perSecond := by
  have hvalue := digitsValue_lt r.isDigit_places
  rw [nano, Nat.div_lt_iff_lt_mul (Nat.pow_pos (by decide)), Nat.mul_comm]
  exact Nat.mul_lt_mul_of_pos_left hvalue (by decide)

lemma time_valid (r : Reading) : r.time.Valid :=
  ⟨r.hour_lt, r.minute_lt, r.second_le, r.nano_lt⟩

lemma date_valid (h : r.FourDigitYear) : r.date.Valid :=
  ⟨⟨le_trans (by decide) h.1, le_trans h.2 (by decide)⟩, r.inCalendar⟩

lemma time_of_zeros (hsecond : r.second = 0) (hplaces : ∀ c ∈ r.places, c = '0') :
    r.time = ⟨r.hour, r.minute, 0, 0⟩ := by
  have hvalue : digitsValue r.places = 0 := by
    rw [List.eq_replicate_of_mem hplaces]
    exact digitsValue_zeros _
  rw [time, nano, hsecond, hvalue, Nat.zero_mul, Nat.zero_div]

lemma Shows.unique {s : Instant} (hs : r.Shows s) (ht : r.Shows t) : s = t :=
  Instant.ext_of_civil (hs.1.trans ht.1.symm) (hs.2.trans ht.2.symm)

lemma shows_iff : r.Shows t ↔ t.second = r.minuteNumber * 60 + min r.second 59 ∧
    t.nano = r.nano + if r.second = 60 then Instant.perSecond else 0 := by
  constructor
  · rintro ⟨hdate, htime⟩
    have hsecond := t.second_eq
    have hnano := t.nano_eq
    rw [hdate, htime] at hsecond
    rw [htime] at hnano
    refine ⟨?_, hnano⟩
    simp only [time, minuteNumber] at hsecond ⊢
    omega
  · rintro ⟨hsecond, hnano⟩
    have hhour := r.hour_lt
    have hminute := r.minute_lt
    have hlast := r.second_le
    rw [minuteNumber] at hsecond
    constructor
    · have hday : t.second / 86400 = r.date.dayNumber := by omega
      rw [Instant.date, hday, Date.ofDayNumber_dayNumber r.inCalendar]
    · by_cases hleap : r.second = 60
      · rw [if_pos hleap] at hnano
        rw [Instant.time_of_leap (by omega), hnano, Nat.add_sub_cancel, time, ClockTime.mk.injEq]
        omega
      · rw [if_neg hleap, Nat.add_zero] at hnano
        rw [Instant.time_of_lt (hnano ▸ r.nano_lt), hnano, time, ClockTime.mk.injEq]
        omega

lemma exists_shows_of_bounds (hmin : -1000001 ≤ r.date.dayNumber)
    (hmax : r.date.dayNumber ≤ 3000001) : ∃ t, r.Shows t := by
  have hnano := r.nano_lt
  have hhour := r.hour_lt
  have hminute := r.minute_lt
  have hlast := r.second_le
  have hfirst : Instant.minSecond ≤ -1000001 * 86400 := by decide
  have hend : 3000002 * 86400 ≤ Instant.maxSecond := by decide
  have hnumber : r.minuteNumber = r.date.dayNumber * 1440 + (r.hour * 60 + r.minute : Nat) := rfl
  let t : Instant := {
    second := r.minuteNumber * 60 + min r.second 59
    nano := r.nano + if r.second = 60 then Instant.perSecond else 0
    nano_lt := by
      split <;> omega
    leap_last := by
      split <;> omega
    in_range := by omega }
  exact ⟨t, shows_iff.mpr ⟨rfl, rfl⟩⟩

lemma exists_shows (hyear : r.FourDigitYear) : ∃ t, r.Shows t := by
  obtain ⟨hmin, hmax⟩ := Date.dayNumber_bounds r.inCalendar hyear.1 hyear.2
  exact exists_shows_of_bounds (by omega) (by omega)

lemma exists_shows_of_shift (z : Zone) (hyear : (r.shift z.ahead).FourDigitYear) :
    ∃ t, r.Shows t := by
  obtain ⟨hmin, hmax⟩ := Date.dayNumber_bounds (r.shift z.ahead).inCalendar hyear.1 hyear.2
  have hnumber := r.minuteNumber_shift z.ahead
  have hahead := z.ahead_bounds
  have hhour := r.hour_lt
  have hminute := r.minute_lt
  have hhour' := (r.shift z.ahead).hour_lt
  have hminute' := (r.shift z.ahead).minute_lt
  rw [minuteNumber, minuteNumber] at hnumber
  -- the clock of a zone is never more than a day from UTC
  exact exists_shows_of_bounds (by omega) (by omega)

lemma Shows.ofCivil?_shift (h : r.Shows t) (minutes : Int)
    (hyear : (r.shift minutes).FourDigitYear) :
    Instant.ofCivil? (r.shift minutes).date (r.shift minutes).time minutes = some t := by
  have hminute := r.minuteNumber_shift minutes
  apply Instant.ofCivil?_of_shown (date_valid hyear) (time_valid _)
  · rw [h.1, h.2]
    exact hminute
  · rw [h.2]
    rfl
  · rw [h.2]
    rfl

lemma Shows.ofCivil?_eq (h : r.Shows t) (hyear : r.FourDigitYear) :
    Instant.ofCivil? r.date r.time 0 = some t := by
  have hdate := date_valid hyear
  rw [← h.1] at hdate ⊢
  rw [← h.2]
  exact Instant.ofCivil?_self hdate

section Millis

def AgreesToMillis (r r' : Reading) : Prop :=
  (r.date = r'.date ∧ r.hour = r'.hour ∧ r.minute = r'.minute ∧ r.second = r'.second) ∧
    r.places.take 3 = r'.places.take 3

lemma nano_div_perMilli (r : Reading) : r.nano / Instant.perMilli =
    digitsValue (r.places.take 3) * 10 ^ (3 - (r.places.take 3).length) := by
  have hscale : digitsValue r.places * Instant.perSecond =
      digitsValue r.places * 10 ^ 3 * Instant.perMilli := by
    rw [Nat.mul_assoc]
    rfl
  rw [nano, Nat.div_div_eq_div_mul, hscale, Nat.mul_div_mul_right _ _ (by decide)]
  exact digitsValue_take r.isDigit_places 3

lemma AgreesToMillis.floorMilli_eq {r' : Reading} {t' : Instant} (h : r.AgreesToMillis r')
    (ht : r.Shows t) (ht' : r'.Shows t') : t.floorMilli = t'.floorMilli := by
  obtain ⟨⟨hdate, hhour, hminute, hlast⟩, hplaces⟩ := h
  obtain ⟨hsecond, hnano⟩ := shows_iff.mp ht
  obtain ⟨hsecond', hnano'⟩ := shows_iff.mp ht'
  have hmillis : r.nano / Instant.perMilli = r'.nano / Instant.perMilli := by
    rw [nano_div_perMilli, nano_div_perMilli, hplaces]
  apply Instant.floorMilli_eq_iff.mpr
  constructor
  · rw [hsecond, hsecond', minuteNumber, minuteNumber, hdate, hhour, hminute, hlast]
  · rw [hnano, hnano', hlast]
    split
    · simp only [Instant.perMilli, Instant.perSecond] at *
      omega
    · exact hmillis

end Millis

end Reading

end AnswerCache
