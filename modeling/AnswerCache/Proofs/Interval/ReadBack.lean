import AnswerCache.Proofs.Json.Decode
import AnswerCache.Proofs.Time.ReadBack
import AnswerCache.Query.Decode

/-!
Which intervals are read back from what they are written as: the written form always ends in a zone,
a zone is read behind a year of four digits only, and years with a sign are written too.
-/

namespace AnswerCache

open Text

namespace Instant

namespace Reader

open Scan (Leaves leaves_allDigits leaves_blanks leaves_char leaves_digits leaves_peek leaves_pure)

lemma leaves_small : Leaves 'Z' small :=
  .bind (leaves_blanks rfl) fun _ => .bind (leaves_digits rfl 2) fun _ => leaves_pure _

lemma leaves_marked {α : Type} {mark : Char} (h : mark ≠ 'Z') (value : List Char → α) :
    Leaves 'Z' (do Scan.char mark; return value (← Scan.allDigits)) :=
  .bind (leaves_char h) fun _ => .bind (leaves_allDigits rfl) fun _ => leaves_pure _

lemma leaves_year : Leaves 'Z' year := by
  refine .bind (leaves_blanks rfl) fun _ => .bind leaves_peek fun c => ?_
  split
  · exact leaves_marked (by decide) _
  · exact leaves_marked (by decide) _
  · exact .bind (leaves_digits rfl 4) fun _ => leaves_pure _

lemma leaves_date : Leaves 'Z' date := by
  refine .bind leaves_year fun _ => .bind (leaves_char (by decide)) fun _ => ?_
  refine .bind leaves_small fun _ => .bind (leaves_char (by decide)) fun _ => ?_
  exact .bind leaves_small fun _ => leaves_pure _

lemma leaves_hourMinute : Leaves 'Z' hourMinute := by
  refine .bind leaves_small fun _ => .bind (leaves_char (by decide)) fun _ => ?_
  exact .bind leaves_small fun _ => leaves_pure _

lemma leaves_fraction : Leaves 'Z' fraction := by
  refine .bind leaves_peek fun c => ?_
  split
  · exact leaves_marked (by decide) _
  · exact leaves_pure _

lemma leaves_toSecond : Leaves 'Z' toSecond := by
  refine .bind leaves_date fun _ => .bind (leaves_char (by decide)) fun _ => ?_
  refine .bind leaves_hourMinute fun _ => .bind (leaves_char (by decide)) fun _ => ?_
  exact .bind leaves_small fun _ => .bind leaves_fraction fun _ => leaves_pure _

lemma leaves_toMinute : Leaves 'Z' toMinute := by
  refine .bind leaves_date fun _ => .bind (leaves_char (by decide)) fun _ => ?_
  exact .bind leaves_hourMinute fun _ => leaves_pure _

lemma leaves_toDay : Leaves 'Z' toDay :=
  .bind leaves_date fun _ => leaves_pure _

lemma unzoned?_of_leaves {scan : Scan (Date × ClockTime)} (h : Leaves 'Z' scan) {cs : List Char}
    (hc : 'Z' ∈ cs) : unzoned? scan cs = none := by
  rw [unzoned?, h.whole hc]
  rfl

lemma parse?_of_zulu {cs : List Char} (hc : 'Z' ∈ cs) : parse? cs = zoned? strict cs := by
  rw [parse?, unzoned?_of_leaves leaves_toSecond hc, unzoned?_of_leaves leaves_toMinute hc,
    unzoned?_of_leaves leaves_toDay hc]
  cases zoned? strict cs <;> rfl

lemma strict_of_sign {c : Char} (hc : c.isDigit = false) (rest : List Char) :
    zoned? strict (c :: rest) = none := by
  have hyear : Scan.exactly 4 (c :: rest) = none := Scan.exactly_of_not_isDigit hc rest
  apply zoned?_of_none
  change (Scan.exactly 4 (c :: rest)).bind _ = none
  rw [hyear]
  rfl

end Reader

def FourDigitYear (t : Instant) : Prop :=
  0 ≤ t.date.year ∧ t.date.year ≤ 9999

instance (t : Instant) : Decidable t.FourDigitYear :=
  inferInstanceAs (Decidable (_ ∧ _))

lemma written_of_sign {t : Instant} (h : ¬ t.FourDigitYear) :
    ∃ sign rest, t.written = sign :: rest ∧ sign.isDigit = false := by
  have hyear : Date.yearText t.date.year =
      (if t.date.year < 0 then '-' else '+') :: padded 4 t.date.year.natAbs := if_neg h
  rw [written, Date.written, hyear]
  exact ⟨_, _, rfl, Date.isDigit_sign _⟩

theorem parse?_written_eq {t : Instant} (ht : t.IsMilli) :
    parse? t.written = if t.FourDigitYear then some t else none := by
  split
  · rename_i hyear
    exact parse?_written ht hyear.1 hyear.2
  · rename_i hyear
    obtain ⟨sign, rest, hwritten, hsign⟩ := written_of_sign hyear
    have hzulu : 'Z' ∈ t.written := List.mem_append_right _ (List.mem_singleton_self 'Z')
    rw [Reader.parse?_of_zulu hzulu, hwritten]
    exact Reader.strict_of_sign hsign rest

end Instant

namespace Interval

def unreadable (i : Interval) : Fault :=
  if i.start.FourDigitYear then .badEnd else .badStart

lemma parse_written_eq (i : Interval) :
    parse i.written = if i.FourDigitYears then .ok i else .error ⟨i.written, i.unreadable⟩ := by
  have hstart := Instant.parse?_written_eq i.start_milli
  have hstop := Instant.parse?_written_eq i.stop_milli
  have hyears : i.FourDigitYears ↔ i.start.FourDigitYear ∧ i.stop.FourDigitYear := Iff.rfl
  by_cases hi : i.FourDigitYears
  · rw [parse_written hi, if_pos hi]
  rw [if_neg hi, parse, unreadable]
  have hsplit : splitSlash i.written.toList = some (i.start.written, i.stop.written) := by
    rw [written, String.toList_ofList, pairText, splitSlash_append i.start.slash_notMem_written]
  rw [hsplit]
  dsimp only
  rw [i.start.trim_written, i.stop.trim_written, hstart, hstop]
  -- the start is read first, and where it fails the end is not looked at
  by_cases hs : i.start.FourDigitYear
  · have ht : ¬ i.stop.FourDigitYear := fun ht => hi (hyears.mpr ⟨hs, ht⟩)
    rw [if_pos hs, if_pos hs, if_neg ht]
  · rw [if_neg hs, if_neg hs]

lemma decodeText_written_eq (i : Interval) :
    Json.decodeText (fun _ => decode) i.toJson.compactText =
      if i.FourDigitYears then .ok i
      else .error (.refused (IntervalError.message ⟨i.written, i.unreadable⟩)) := by
  have hread : Json.Document.ofText Json.maxLevels i.toJson.compactText =
      ⟨.ofJson i.toJson, none⟩ :=
    Json.ofText_compactText (by simp [toJson, Json.numbers]) (Nat.zero_le _)
  have htext : (Json.Source.ofJson i.toJson).toText = .ok i.written := rfl
  rw [Json.decodeText_of_ofText hread, decode, Json.bind_of_ok htext, parse_written_eq]
  by_cases hi : i.FourDigitYears
  · rw [if_pos hi, if_pos hi]
    rfl
  · rw [if_neg hi, if_neg hi]

/-- An interval is read back from its text, and from its JSON, exactly when both ends lie in the
years that are written with four digits; what any other is written as is refused. -/
theorem reads_back_iff (i : Interval) :
    (parse i.written = .ok i ↔ i.FourDigitYears) ∧
      (Json.decodeText (fun _ => decode) i.toJson.compactText = .ok i ↔ i.FourDigitYears) ∧
      (¬ i.FourDigitYears → parse i.written = .error ⟨i.written, i.unreadable⟩ ∧
        Json.decodeText (fun _ => decode) i.toJson.compactText =
          .error (.refused (IntervalError.message ⟨i.written, i.unreadable⟩))) := by
  rw [parse_written_eq, decodeText_written_eq]
  by_cases hi : i.FourDigitYears
  · simp [hi]
  · simp [hi]

lemma no_nano_lt : 0 < 2 * Instant.perSecond := by
  decide

def beyondYears : Interval where
  start := ⟨253402302600, 0, no_nano_lt, by decide, by decide⟩
  stop := ⟨253402303500, 0, no_nano_lt, by decide, by decide⟩
  start_milli := by decide
  stop_milli := by decide
  start_le_stop := by decide

theorem offset_leads_beyond_years :
    parse "9999-12-31T23:30:00-01:00/9999-12-31T23:45:00-01:00" = .ok beyondYears ∧
      beyondYears.written = "+10000-01-01T00:30:00.000Z/+10000-01-01T00:45:00.000Z" ∧
      parse beyondYears.written ≠ .ok beyondYears ∧
      Json.decodeText (fun _ => decode) beyondYears.toJson.compactText ≠ .ok beyondYears := by
  have hparse : parse "9999-12-31T23:30:00-01:00/9999-12-31T23:45:00-01:00" = .ok beyondYears := by
    rfl
  have hyears : ¬ beyondYears.FourDigitYears := by decide
  refine ⟨hparse, by decide +kernel, ?_, ?_⟩
  · rw [parse_written_eq, if_neg hyears]
    nofun
  · rw [decodeText_written_eq, if_neg hyears]
    nofun

end Interval

end AnswerCache
