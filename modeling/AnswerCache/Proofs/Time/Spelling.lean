import AnswerCache.Proofs.Time.Reading

/-!
A reading of the clock is spelled with a zone or without, by the clock of another zone, and with
less where the rest is zero. Whichever way it is spelled, it is read as the instant it is of.
-/

namespace AnswerCache

open Text

namespace Zone

def text (z : Zone) : List Char :=
  (if z.west then '-' else '+') :: padded 2 z.hours ++ ':' :: padded 2 z.minutes

end Zone

namespace Reading

def fractionText (r : Reading) : List Char :=
  if r.places = [] then [] else '.' :: r.places

def fullText (r : Reading) : List Char :=
  r.date.written ++ 'T' :: r.time.toSecond ++ r.fractionText

def minuteText (r : Reading) : List Char :=
  r.date.written ++ 'T' :: padded 2 r.hour ++ ':' :: padded 2 r.minute

/-- The texts that spell a reading. The year that is written has four digits; behind a zone it is
the year of the zone. -/
inductive Spells (r : Reading) : List Char → Prop
  | utc : r.FourDigitYear → Spells r (r.fullText ++ ['Z'])
  | unzoned : r.FourDigitYear → Spells r r.fullText
  | zoned (z : Zone) : (r.shift z.ahead).FourDigitYear →
      Spells r ((r.shift z.ahead).fullText ++ z.text)
  | toMinute : r.FourDigitYear → r.second = 0 → (∀ c ∈ r.places, c = '0') → Spells r r.minuteText
  | toDay : r.FourDigitYear → r.hour = 0 → r.minute = 0 → r.second = 0 →
      (∀ c ∈ r.places, c = '0') → Spells r r.date.written

end Reading

namespace Instant.Reader

section Loose

variable {d : Date}

lemma small_append {n : Nat} (hn : n ≤ 60) (rest : List Char) :
    small (padded 2 n ++ rest) = some (n, rest) := by
  have hpair : n < Nat.pow 10 2 := Nat.lt_of_le_of_lt hn (by decide)
  rw [small, Scan.bind_of_eq (Scan.blanks_padded _ _ _),
    Scan.bind_of_eq (Scan.digits_padded (by decide) hpair _), digitsValue_padded]
  rfl

lemma year_append {y : Nat} (hy : y ≤ 9999) (rest : List Char) :
    year (padded 4 y ++ rest) = some ((y : Int), rest) := by
  have hdigits : Scan.digits 4 (padded 4 y ++ rest) = some (padded 4 y, rest) :=
    Scan.digits_padded (by decide) (Nat.lt_of_le_of_lt hy (by decide)) rest
  have hpeek : ∃ c, c.isDigit = true ∧
      Scan.peek (padded 4 y ++ rest) = some (some c, padded 4 y ++ rest) := by
    obtain ⟨c, tail, htext, hc⟩ := padded_eq_cons 4 y
    rw [htext]
    exact ⟨c, hc, rfl⟩
  obtain ⟨c, hc, hpeek⟩ := hpeek
  rw [year, Scan.bind_of_eq (Scan.blanks_padded _ _ _), Scan.bind_of_eq hpeek]
  refine (congrFun (?_ : _ = (do return digitsValue (← Scan.digits 4) : Scan Int)) _).trans ?_
  · split
    · rename_i hsign
      rw [Option.some.inj hsign] at hc
      contradiction
    · rename_i hsign
      rw [Option.some.inj hsign] at hc
      contradiction
    · rfl
  · rw [Scan.bind_of_eq hdigits, digitsValue_padded]
    rfl

lemma date_append (hyear : 0 ≤ d.year ∧ d.year ≤ 9999) (hday : d.month ≤ 12 ∧ d.day ≤ 31)
    (rest : List Char) : date (d.written ++ rest) = some (d, rest) := by
  rw [Date.written, Date.yearText, if_pos hyear]
  simp only [List.append_assoc, List.cons_append]
  rw [date, Scan.bind_of_eq (year_append (by omega) _), Scan.bind_of_eq (Scan.char_cons _ _),
    Scan.bind_of_eq (small_append (by omega) _), Scan.bind_of_eq (Scan.char_cons _ _),
    Scan.bind_of_eq (small_append (by omega) _), Int.toNat_of_nonneg hyear.1]
  rfl

lemma hourMinute_append {h m : Nat} (hh : h < 24) (hm : m < 60) (rest : List Char) :
    hourMinute (padded 2 h ++ ':' :: padded 2 m ++ rest) = some ((h, m), rest) := by
  rw [List.append_assoc, List.cons_append, hourMinute, Scan.bind_of_eq (small_append (by omega) _),
    Scan.bind_of_eq (Scan.char_cons _ _), Scan.bind_of_eq (small_append (by omega) _)]
  rfl

end Loose

lemma strictOffset_text (z : Zone) : strictOffset z.text = some (z.ahead, []) := by
  have hhours := z.hours_le
  have hminutes := z.minutes_le
  have hlast : Scan.exactly 2 (padded 2 z.minutes) = some (z.minutes, []) :=
    Scan.to_end (exactly_pair (by omega) [])
  have hminutesRead : offsetMinutes (if z.west then -1 else 1) z.hours z.minutes [] =
      some (z.ahead, []) := by
    rw [offsetMinutes, if_pos ⟨hhours, hminutes⟩]
    rfl
  have hsign : offsetSign z.text =
      some (if z.west then -1 else 1, padded 2 z.hours ++ ':' :: padded 2 z.minutes) := by
    rw [Zone.text, List.cons_append]
    cases z.west <;> rfl
  have hzulu : ∃ c, isZulu c = false ∧ Scan.peek z.text = some (some c, z.text) := by
    refine ⟨if z.west then '-' else '+', ?_, rfl⟩
    cases z.west <;> rfl
  obtain ⟨c, hc, hpeek⟩ := hzulu
  rw [strictOffset, Scan.bind_of_eq hpeek, Option.map_some, Option.getD_some, hc,
    if_neg Bool.false_ne_true, Scan.bind_of_eq hsign, Scan.bind_of_eq (exactly_pair (by omega) _),
    Scan.bind_of_eq (Scan.char_cons _ _), Scan.bind_of_eq hlast]
  exact hminutesRead

end Instant.Reader

namespace Reading

open Instant.Reader hiding date

variable {r : Reading} {t : Instant} {text : List Char}

section Read

lemma nanos_places (r : Reading) : nanos r.places = r.nano :=
  (digitsValue_take r.isDigit_places 9).symm

lemma fraction_append (r : Reading) {rest : List Char} (hdigit : Stops Char.isDigit rest)
    (hpoint : rest.head? ≠ some '.') :
    fraction (r.fractionText ++ rest) = some (r.nano, rest) := by
  by_cases hnone : r.places = []
  · have hnano : r.nano = 0 := by
      rw [nano, hnone]
      rfl
    have hpeek : Scan.peek rest = some (rest.head?, rest) := rfl
    rw [fractionText, if_pos hnone, List.nil_append, fraction, Scan.bind_of_eq hpeek,
      if_neg hpoint, hnano]
    rfl
  · rw [fractionText, if_neg hnone, fraction_cons hnone r.isDigit_places hdigit, nanos_places]

lemma strict_fullText (hyear : r.FourDigitYear) {rest : List Char}
    (hdigit : Stops Char.isDigit rest) (hpoint : rest.head? ≠ some '.') :
    strict (r.fullText ++ rest) =
      (strictOffset rest).map fun read => ((r.date, r.time, read.1), read.2) := by
  rw [fullText, List.append_assoc, strict_eq hyear r.inCalendar.bounds r.time_valid,
    Scan.bind_of_eq (r.fraction_append hdigit hpoint)]
  cases hoffset : strictOffset rest with
  | none =>
    change (strictOffset rest).bind _ = none
    rw [hoffset]
    rfl
  | some read =>
    obtain ⟨offset, rest'⟩ := read
    rw [Scan.bind_of_eq hoffset]
    rfl

lemma zoned?_strict_fullText (hyear : r.FourDigitYear) {rest : List Char} {offset : Int}
    (hdigit : Stops Char.isDigit rest) (hpoint : rest.head? ≠ some '.')
    (hoffset : strictOffset rest = some (offset, [])) :
    zoned? strict (r.fullText ++ rest) = Instant.ofCivil? r.date r.time offset := by
  apply zoned?_of_read
  rw [strict_fullText hyear hdigit hpoint, hoffset]
  rfl

lemma toSecond_fullText (hyear : r.FourDigitYear) :
    toSecond r.fullText = some ((r.date, r.time), []) := by
  have hfraction := Scan.to_end (r.fraction_append (stops_nil _) (Option.some_ne_none _).symm)
  rw [fullText, List.append_assoc, toSecond,
    Scan.bind_of_eq (date_append hyear r.inCalendar.bounds _), List.cons_append,
    Scan.bind_of_eq (Scan.char_cons _ _), ClockTime.toSecond, List.append_assoc, time,
    Scan.bind_of_eq (hourMinute_append r.hour_lt r.minute_lt _)]
  dsimp only
  rw [List.cons_append, Scan.bind_of_eq (Scan.char_cons _ _),
    Scan.bind_of_eq (small_append r.second_le _), Scan.bind_of_eq hfraction]
  rfl

lemma strict_minuteText (hyear : r.FourDigitYear) : strict r.minuteText = none := by
  have hhour := r.hour_lt
  have hminute := r.minute_lt
  have hlast : Scan.exactly 2 (padded 2 r.minute) = some (r.minute, []) :=
    Scan.to_end (exactly_pair (by omega) [])
  rw [minuteText, List.append_assoc, strict, exactly_date hyear r.inCalendar.bounds,
    List.cons_append, Scan.bind_of_eq (Scan.charIn_cons rfl _),
    Scan.bind_of_eq (exactly_pair (by omega) _), Scan.bind_of_eq (Scan.char_cons _ _),
    Scan.bind_of_eq hlast]
  rfl

lemma toSecond_minuteText (hyear : r.FourDigitYear) : toSecond r.minuteText = none := by
  have hread := Scan.to_end (hourMinute_append r.hour_lt r.minute_lt [])
  rw [minuteText, List.append_assoc, List.cons_append, toSecond,
    Scan.bind_of_eq (date_append hyear r.inCalendar.bounds _),
    Scan.bind_of_eq (Scan.char_cons _ _), Scan.bind_of_eq hread]
  rfl

lemma toMinute_minuteText (hyear : r.FourDigitYear) :
    toMinute r.minuteText = some ((r.date, ⟨r.hour, r.minute, 0, 0⟩), []) := by
  have hread := Scan.to_end (hourMinute_append r.hour_lt r.minute_lt [])
  rw [minuteText, List.append_assoc, List.cons_append, toMinute,
    Scan.bind_of_eq (date_append hyear r.inCalendar.bounds _),
    Scan.bind_of_eq (Scan.char_cons _ _), Scan.bind_of_eq hread]
  rfl

lemma strict_written (hyear : r.FourDigitYear) : strict r.date.written = none := by
  rw [← List.append_nil r.date.written, strict, exactly_date hyear r.inCalendar.bounds]
  rfl

lemma date_written (hyear : r.FourDigitYear) :
    Instant.Reader.date r.date.written = some (r.date, []) :=
  Scan.to_end (date_append hyear r.inCalendar.bounds [])

lemma toSecond_written (hyear : r.FourDigitYear) : toSecond r.date.written = none := by
  rw [toSecond, Scan.bind_of_eq (date_written hyear)]
  rfl

lemma toMinute_written (hyear : r.FourDigitYear) : toMinute r.date.written = none := by
  rw [toMinute, Scan.bind_of_eq (date_written hyear)]
  rfl

lemma toDay_written (hyear : r.FourDigitYear) :
    toDay r.date.written = some ((r.date, .midnight), []) := by
  rw [toDay, Scan.bind_of_eq (date_written hyear)]
  rfl

end Read

lemma Spells.parse?_eq (h : r.Spells text) (ht : r.Shows t) : Instant.parse? text = some t := by
  -- a form that leaves a field out is reached when all the forms that have the field have failed
  cases h with
  | utc hyear =>
    have hstrict : zoned? strict (r.fullText ++ ['Z']) = some t := by
      rw [zoned?_strict_fullText hyear (stops_cons rfl []) (by decide) strictOffset_zulu]
      exact ht.ofCivil?_eq hyear
    rw [Instant.parse?, hstrict]
    rfl
  | unzoned hyear =>
    have hstrict : strict r.fullText = none := by
      have hread := strict_fullText hyear (stops_nil _) (Option.some_ne_none _).symm
      rwa [List.append_nil] at hread
    rw [Instant.parse?, zoned?_of_none hstrict, unzoned?_of_read (toSecond_fullText hyear),
      ht.ofCivil?_eq hyear]
    rfl
  | zoned z hyear =>
    have hstops : Stops Char.isDigit z.text ∧ z.text.head? ≠ some '.' := by
      rw [Zone.text]
      cases z.west
      · exact ⟨stops_cons rfl _, by simp⟩
      · exact ⟨stops_cons rfl _, by simp⟩
    have hstrict : zoned? strict ((r.shift z.ahead).fullText ++ z.text) = some t := by
      rw [zoned?_strict_fullText hyear hstops.1 hstops.2 (strictOffset_text z)]
      exact ht.ofCivil?_shift z.ahead hyear
    rw [Instant.parse?, hstrict]
    rfl
  | toMinute hyear hsecond hplaces =>
    rw [Instant.parse?, zoned?_of_none (strict_minuteText hyear),
      unzoned?_of_none (toSecond_minuteText hyear), unzoned?_of_read (toMinute_minuteText hyear),
      ← time_of_zeros hsecond hplaces, ht.ofCivil?_eq hyear]
    rfl
  | toDay hyear hhour hminute hsecond hplaces =>
    have hmidnight : r.time = .midnight := by
      rw [time_of_zeros hsecond hplaces, hhour, hminute]
      rfl
    rw [Instant.parse?, zoned?_of_none (strict_written hyear),
      unzoned?_of_none (toSecond_written hyear), unzoned?_of_none (toMinute_written hyear),
      unzoned?_of_read (toDay_written hyear), ← hmidnight, ht.ofCivil?_eq hyear]
    rfl

lemma Spells.exists_shows (h : r.Spells text) : ∃ t, r.Shows t := by
  cases h with
  | zoned z hyear => exact exists_shows_of_shift z hyear
  | utc hyear | unzoned hyear | toMinute hyear | toDay hyear => exact Reading.exists_shows hyear

section Characters

def isPart (c : Char) : Bool :=
  c.isDigit || ['-', '+', ':', '.', 'T', 'Z'].contains c

lemma isPart_of_isDigit {c : Char} (h : c.isDigit = true) : isPart c = true := by
  rw [isPart, h, Bool.true_or]

lemma isPart_of_mem_padded {width n : Nat} : ∀ c ∈ padded width n, isPart c = true :=
  fun _ hc => isPart_of_isDigit (isDigit_of_mem_padded hc)

lemma isPart_of_mem_date (d : Date) : ∀ c ∈ d.written, isPart c = true := by
  have hyear : ∀ c ∈ Date.yearText d.year, isPart c = true := by
    rw [Date.yearText]
    split
    · exact isPart_of_mem_padded
    · rw [List.forall_mem_cons]
      refine ⟨?_, isPart_of_mem_padded⟩
      split <;> rfl
  rw [Date.written]
  simp only [List.forall_mem_append, List.forall_mem_cons]
  exact ⟨⟨hyear, rfl, isPart_of_mem_padded⟩, rfl, isPart_of_mem_padded⟩

lemma isPart_of_mem_fullText (r : Reading) : ∀ c ∈ r.fullText, isPart c = true := by
  have hfraction : ∀ c ∈ r.fractionText, isPart c = true := by
    rw [fractionText]
    split
    · exact fun _ hc => absurd hc List.not_mem_nil
    · exact List.forall_mem_cons.mpr ⟨rfl, fun c hc => isPart_of_isDigit (r.isDigit_places c hc)⟩
  rw [fullText, ClockTime.toSecond]
  simp only [List.forall_mem_append, List.forall_mem_cons]
  exact ⟨⟨isPart_of_mem_date _, rfl, ⟨isPart_of_mem_padded, rfl, isPart_of_mem_padded⟩, rfl,
    isPart_of_mem_padded⟩, hfraction⟩

lemma Spells.isPart_of_mem (h : r.Spells text) : ∀ c ∈ text, isPart c = true := by
  cases h with
  | utc =>
    rw [List.forall_mem_append, List.forall_mem_singleton]
    exact ⟨r.isPart_of_mem_fullText, rfl⟩
  | unzoned => exact r.isPart_of_mem_fullText
  | zoned z =>
    rw [Zone.text]
    simp only [List.forall_mem_append, List.forall_mem_cons]
    refine ⟨isPart_of_mem_fullText _, ⟨?_, isPart_of_mem_padded⟩, rfl, isPart_of_mem_padded⟩
    split <;> rfl
  | toMinute =>
    rw [minuteText]
    simp only [List.forall_mem_append, List.forall_mem_cons]
    exact ⟨⟨isPart_of_mem_date _, rfl, isPart_of_mem_padded⟩, rfl, isPart_of_mem_padded⟩
  | toDay => exact isPart_of_mem_date _

lemma isBlank_of_isPart {c : Char} (h : isPart c = true) : isBlank c = false := by
  rcases (Bool.or_eq_true _ _).mp h with hdigit | hmark
  · exact isBlank_of_isDigit hdigit
  · have hblank : ∀ m ∈ ['-', '+', ':', '.', 'T', 'Z'], isBlank m = false := by
      simp [isBlank, within, blankRanges]
    exact hblank c (List.contains_iff_mem.mp hmark)

lemma Spells.trim_eq (h : r.Spells text) : trim text = text :=
  trim_of_not_isBlank (fun c hc => isBlank_of_isPart (h.isPart_of_mem c (List.mem_of_mem_head? hc)))
    fun c hc => isBlank_of_isPart (h.isPart_of_mem c (List.mem_of_getLast? hc))

lemma Spells.slash_notMem (h : r.Spells text) : '/' ∉ text :=
  fun hc => absurd (h.isPart_of_mem _ hc) (by decide)

end Characters

end Reading

end AnswerCache
