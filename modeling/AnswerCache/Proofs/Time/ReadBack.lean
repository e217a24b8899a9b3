import AnswerCache.Interval.Text
import AnswerCache.Proofs.Text.Scan
import AnswerCache.Proofs.Time.Written

namespace AnswerCache

open Text

namespace Instant

lemma of?_self (t : Instant) : of? t.second t.nano = some t := by
  simp only [of?, dif_pos t.nano_lt, dif_pos t.leap_last, dif_pos t.in_range]

lemma second_eq (t : Instant) : t.date.dayNumber * 86400 +
    (t.time.hour * 3600 + t.time.minute * 60 : Nat) + min t.time.second 59 = t.second := by
  have hday : t.date.dayNumber = t.second / 86400 := Date.dayNumber_ofDayNumber _
  rcases Nat.lt_or_ge t.nano perSecond with h | h
  · rw [hday, time_of_lt h]
    dsimp only
    omega
  · have hlast := t.leap_last h
    rw [hday, time_of_leap h]
    dsimp only
    omega

lemma nano_eq (t : Instant) :
    t.nano = t.time.nano + if t.time.second = 60 then perSecond else 0 := by
  rcases Nat.lt_or_ge t.nano perSecond with h | h
  · have hshort : t.time.second ≠ 60 := by
      rw [time_of_lt h]
      dsimp only
      omega
    rw [if_neg hshort, time_of_lt h, Nat.add_zero]
  · have hlong : t.time.second = 60 := by rw [time_of_leap h]
    rw [if_pos hlong, time_of_leap h]
    exact (Nat.sub_add_cancel h).symm

lemma ofCivil?_of_shown {t : Instant} {date : Date} {time : ClockTime} {offset : Int}
    (hdate : date.Valid) (htime : time.Valid)
    (hminute : date.dayNumber * 1440 + (time.hour * 60 + time.minute : Nat) =
      t.date.dayNumber * 1440 + (t.time.hour * 60 + t.time.minute : Nat) + offset)
    (hsecond : time.second = t.time.second) (hnano : time.nano = t.time.nano) :
    ofCivil? date time offset = some t := by
  have hseconds := t.second_eq
  have hnanos := t.nano_eq
  have hlast := t.time_valid.2.2.1
  rw [ofCivil?, if_pos ⟨hdate, htime⟩, ← of?_self t, hsecond, hnano]
  by_cases hleap : t.time.second = 60
  · rw [if_pos hleap] at hnanos ⊢
    rw [← hnanos]
    congr 1
    omega
  · rw [if_neg hleap] at hnanos ⊢
    rw [Nat.add_zero] at hnanos
    rw [← hnanos]
    congr 1
    omega

lemma ofCivil?_self {t : Instant} (hdate : t.date.Valid) : ofCivil? t.date t.time 0 = some t :=
  ofCivil?_of_shown hdate t.time_valid (Int.add_zero _).symm rfl rfl

namespace Reader

section Whole

variable {cs : List Char} {date : Date} {time : ClockTime}

lemma zoned?_of_read {scan : Scan (Date × ClockTime × Int)} {offset : Int}
    (h : scan cs = some ((date, time, offset), [])) :
    zoned? scan cs = ofCivil? date time offset := by
  rw [zoned?, Scan.whole, h]
  rfl

lemma zoned?_of_none {scan : Scan (Date × ClockTime × Int)} (h : scan cs = none) :
    zoned? scan cs = none := by
  rw [zoned?, Scan.whole, h]
  rfl

lemma unzoned?_of_read {scan : Scan (Date × ClockTime)} (h : scan cs = some ((date, time), [])) :
    unzoned? scan cs = ofCivil? date time 0 := by
  rw [unzoned?, Scan.whole, h]
  rfl

lemma unzoned?_of_none {scan : Scan (Date × ClockTime)} (h : scan cs = none) :
    unzoned? scan cs = none := by
  rw [unzoned?, Scan.whole, h]
  rfl

end Whole

lemma fraction_cons {ds rest : List Char} (hne : ds ≠ []) (hds : ∀ c ∈ ds, c.isDigit = true)
    (hrest : Stops Char.isDigit rest) : fraction ('.' :: ds ++ rest) = some (nanos ds, rest) := by
  rw [fraction, List.cons_append, Scan.bind_of_eq (Scan.peek_cons _ _), if_pos rfl,
    Scan.bind_of_eq (Scan.char_cons _ _), Scan.bind_of_eq (Scan.allDigits_append hne hds hrest)]
  rfl

lemma fraction_millis {time : ClockTime} (hnano : time.nano < perSecond)
    (hmilli : time.nano % perMilli = 0) (rest : List Char) (hrest : Stops Char.isDigit rest) :
    fraction (time.millis ++ rest) = some (time.nano, rest) := by
  have hlength : (padded 3 (time.nano / perMilli)).length = 3 := by
    refine length_padded (by decide) ?_
    change time.nano / 1000000 < 1000
    simp only [perSecond] at hnano
    omega
  have hne : padded 3 (time.nano / perMilli) ≠ [] := List.ne_nil_of_length_pos (by omega)
  have hvalue : nanos (padded 3 (time.nano / perMilli)) = time.nano := by
    rw [nanos, List.take_of_length_le (by omega), digitsValue_padded, hlength]
    exact Nat.div_mul_cancel (Nat.dvd_of_mod_eq_zero hmilli)
  rw [ClockTime.millis, fraction_cons hne (fun _ => isDigit_of_mem_padded) hrest, hvalue]

lemma strictOffset_zulu : strictOffset ['Z'] = some (0, []) :=
  rfl

lemma exactly_pair {n : Nat} (hn : n ≤ 60) (rest : List Char) :
    Scan.exactly 2 (padded 2 n ++ rest) = some (n, rest) :=
  Scan.exactly_padded (by decide) (Nat.lt_of_le_of_lt hn (by decide)) rest

section Strict

variable {α : Type} {d : Date} {time : ClockTime}

lemma exactly_date (hyear : 0 ≤ d.year ∧ d.year ≤ 9999) (hday : d.month ≤ 12 ∧ d.day ≤ 31)
    (next : Nat → Nat → Nat → Scan α) (rest : List Char) :
    (do
      let y ← Scan.exactly 4
      Scan.char '-'
      let mo ← Scan.exactly 2
      Scan.char '-'
      let day ← Scan.exactly 2
      next y mo day) (d.written ++ rest) = next d.year.toNat d.month d.day rest := by
  have hdigits : d.year.toNat < Nat.pow 10 4 := by
    change d.year.toNat < 10000
    omega
  rw [Date.written, Date.yearText, if_pos hyear]
  simp only [List.append_assoc, List.cons_append]
  rw [Scan.bind_of_eq (Scan.exactly_padded (by decide) hdigits _),
    Scan.bind_of_eq (Scan.char_cons _ _), Scan.bind_of_eq (exactly_pair (by omega) _),
    Scan.bind_of_eq (Scan.char_cons _ _), Scan.bind_of_eq (exactly_pair (by omega) _)]

lemma exactly_clock (htime : time.Valid) (next : Nat → Nat → Nat → Scan α) (rest : List Char) :
    (do
      let h ← Scan.exactly 2
      Scan.char ':'
      let mi ← Scan.exactly 2
      Scan.char ':'
      let s ← Scan.exactly 2
      next h mi s) (time.toSecond ++ rest) = next time.hour time.minute time.second rest := by
  obtain ⟨hhour, hminute, hsecond, -⟩ := htime
  simp only [ClockTime.toSecond, List.append_assoc, List.cons_append]
  rw [Scan.bind_of_eq (exactly_pair (by omega) _), Scan.bind_of_eq (Scan.char_cons _ _),
    Scan.bind_of_eq (exactly_pair (by omega) _), Scan.bind_of_eq (Scan.char_cons _ _),
    Scan.bind_of_eq (exactly_pair hsecond _)]

lemma strict_eq (hyear : 0 ≤ d.year ∧ d.year ≤ 9999) (hday : d.month ≤ 12 ∧ d.day ≤ 31)
    (htime : time.Valid) (rest : List Char) :
    strict (d.written ++ 'T' :: time.toSecond ++ rest) =
      (do
        let n ← fraction
        let o ← strictOffset
        return (d, { time with nano := n }, o)) rest := by
  rw [strict, List.append_assoc, exactly_date hyear hday, List.cons_append,
    Scan.bind_of_eq (Scan.charIn_cons rfl _), exactly_clock htime, Int.toNat_of_nonneg hyear.1]

lemma strict_written {t : Instant} (ht : t.IsMilli) (hmin : 0 ≤ t.date.year)
    (hmax : t.date.year ≤ 9999) : strict t.written = some ((t.date, t.time, 0), []) := by
  have hfraction := fraction_millis t.time_valid.2.2.2 (time_nano_mod ht) ['Z'] (stops_cons rfl [])
  rw [written, List.append_assoc, strict_eq ⟨hmin, hmax⟩ t.date_bounds t.time_valid,
    Scan.bind_of_eq hfraction, Scan.bind_of_eq strictOffset_zulu]
  rfl

end Strict

end Reader

theorem parse?_written {t : Instant} (ht : t.IsMilli) (hmin : 0 ≤ t.date.year)
    (hmax : t.date.year ≤ 9999) : parse? t.written = some t := by
  have hvalid : t.date.Valid := Date.valid_ofDayNumber (le_trans (by decide) hmin)
    (le_trans hmax (by decide))
  have hstrict : Reader.zoned? Reader.strict t.written = some t := by
    rw [Reader.zoned?_of_read (Reader.strict_written ht hmin hmax)]
    exact ofCivil?_self hvalid
  rw [parse?, hstrict]
  rfl

lemma floorMilli_of_isMilli {t : Instant} (ht : t.IsMilli) : t.floorMilli = t := by
  have hnano : t.nano / perMilli * perMilli = t.nano :=
    Nat.div_mul_cancel (Nat.dvd_of_mod_eq_zero ht)
  cases t
  simp only [floorMilli, hnano]

lemma floorMilli_eq_iff {s t : Instant} : s.floorMilli = t.floorMilli ↔
    s.second = t.second ∧ s.nano / perMilli = t.nano / perMilli := by
  have hpos : 0 < perMilli := by decide
  rw [floorMilli, floorMilli, mk.injEq, Nat.mul_left_inj hpos.ne']

lemma yearText_eq_cons (year : Int) :
    ∃ c rest, Date.yearText year = c :: rest ∧ isBlank c = false := by
  rw [Date.yearText]
  split
  · obtain ⟨c, rest, hc, hdigit⟩ := padded_eq_cons 4 year.toNat
    exact ⟨c, rest, hc, isBlank_of_isDigit hdigit⟩
  · refine ⟨_, _, rfl, ?_⟩
    split <;> rfl

lemma trim_written (t : Instant) : trim t.written = t.written := by
  obtain ⟨first, rest, hyear, hfirst⟩ := yearText_eq_cons t.date.year
  refine trim_of_not_isBlank (fun c hc => ?_) (fun c hc => ?_)
  · rw [written, Date.written, hyear] at hc
    exact Option.some.inj hc ▸ hfirst
  · rw [written, List.getLast?_concat, Option.mem_some_iff] at hc
    subst hc
    rfl

end Instant

namespace Interval

def FourDigitYears (i : Interval) : Prop :=
  (0 ≤ i.start.date.year ∧ i.start.date.year ≤ 9999) ∧
    0 ≤ i.stop.date.year ∧ i.stop.date.year ≤ 9999

instance (i : Interval) : Decidable i.FourDigitYears :=
  inferInstanceAs (Decidable ((_ ∧ _) ∧ _ ∧ _))

lemma new_self (i : Interval) : new i.start i.stop = .ok i := by
  have hstart := Instant.floorMilli_of_isMilli i.start_milli
  have hstop := Instant.floorMilli_of_isMilli i.stop_milli
  have hle : i.start.floorMilli ≤ i.stop.floorMilli := Instant.floorMilli_mono i.start_le_stop
  have hof : of? i.start i.stop = some i := by
    rw [of?, dif_pos hle]
    cases i
    simp only [hstart, hstop]
  rw [new, hof]

lemma splitSlash_append {left : List Char} (h : '/' ∉ left) (right : List Char) :
    splitSlash (left ++ '/' :: right) = some (left, right) := by
  have hleft : ∀ c ∈ left, (c != '/') = true := by
    intro c hc
    simpa using fun he : c = '/' => h (he ▸ hc)
  have hright : Stops (· != '/') ('/' :: right) := stops_cons rfl right
  obtain ⟨htaken, hdropped⟩ := span_append hleft hright
  rw [splitSlash, hdropped, htaken]

theorem parse_written {i : Interval} (hi : i.FourDigitYears) : parse i.written = .ok i := by
  obtain ⟨⟨hmin, hmax⟩, hmin', hmax'⟩ := hi
  have hstart := Instant.parse?_written i.start_milli hmin hmax
  have hstop := Instant.parse?_written i.stop_milli hmin' hmax'
  rw [parse, written, String.toList_ofList, pairText,
    splitSlash_append i.start.slash_notMem_written]
  dsimp only
  rw [Instant.trim_written, Instant.trim_written, hstart, hstop]
  exact i.new_self

end Interval

end AnswerCache
