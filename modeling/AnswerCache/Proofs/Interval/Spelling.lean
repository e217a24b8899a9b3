import AnswerCache.Proofs.Interval.Cover
import AnswerCache.Proofs.Interval.ReadBack
import AnswerCache.Proofs.Time.Spelling

namespace AnswerCache.Interval

open Text

section New

variable {s s' t t' : Instant} {i : Interval}

lemma new_congr (hs : s.floorMilli = s'.floorMilli) (ht : t.floorMilli = t'.floorMilli) :
    new s t = new s' t' := by
  simp only [new, of?, hs, ht]

lemma new_eq_ok_iff : new s t = .ok i ↔ i.start = s.floorMilli ∧ i.stop = t.floorMilli := by
  constructor
  · intro h
    rw [new, of?] at h
    split at h
    · rename_i j hj
      split at hj
      · rw [← Except.ok.inj h, ← Option.some.inj hj]
        exact ⟨rfl, rfl⟩
      · contradiction
    · contradiction
  · rintro ⟨hstart, hstop⟩
    have hself := new_self i
    have hstart' := Instant.floorMilli_of_isMilli i.start_milli
    have hstop' := Instant.floorMilli_of_isMilli i.stop_milli
    rwa [new_congr (hstart'.trans hstart) (hstop'.trans hstop)] at hself

end New

/-- The texts whose sides spell the readings `a` and `b`. -/
inductive Spells (a b : Reading) : String → Prop
  | pair {left right : List Char} : a.Spells left → b.Spells right →
      Spells a b (String.ofList (left ++ '/' :: right))

variable {a b a' b' : Reading} {text text' : String}

lemma Spells.exists_shows (h : Spells a b text) : (∃ s, a.Shows s) ∧ ∃ t, b.Shows t := by
  cases h with
  | pair hleft hright => exact ⟨hleft.exists_shows, hright.exists_shows⟩

lemma Spells.parse_eq {s t : Instant} (h : Spells a b text) (hs : a.Shows s) (ht : b.Shows t) :
    parse text = new s t := by
  cases h with
  | pair hleft hright =>
    rw [parse, String.toList_ofList, splitSlash_append hleft.slash_notMem]
    dsimp only
    rw [hleft.trim_eq, hright.trim_eq, hleft.parse?_eq hs, hright.parse?_eq ht]

lemma Spells.parse_eq_parse (h : Spells a b text) (h' : Spells a' b' text')
    (ha : a.AgreesToMillis a') (hb : b.AgreesToMillis b') : parse text = parse text' := by
  obtain ⟨⟨s, hs⟩, t, ht⟩ := h.exists_shows
  obtain ⟨⟨s', hs'⟩, t', ht'⟩ := h'.exists_shows
  rw [h.parse_eq hs ht, h'.parse_eq hs' ht',
    new_congr (ha.floorMilli_eq hs hs') (hb.floorMilli_eq ht ht')]

lemma Spells.eq_iff {s t s' t' : Instant} {i j : Interval} (h : Spells a b text)
    (hs : a.Shows s) (ht : b.Shows t) (h' : Spells a' b' text') (hs' : a'.Shows s')
    (ht' : b'.Shows t') (hi : parse text = .ok i) (hj : parse text' = .ok j) :
    i = j ↔ s.floorMilli = s'.floorMilli ∧ t.floorMilli = t'.floorMilli := by
  rw [h.parse_eq hs ht, new_eq_ok_iff] at hi
  rw [h'.parse_eq hs' ht', new_eq_ok_iff] at hj
  rw [← hi.1, ← hi.2, ← hj.1, ← hj.2]
  constructor
  · rintro rfl
    exact ⟨rfl, rfl⟩
  · rintro ⟨hstart, hstop⟩
    exact eq_of_ends hstart hstop

/-- Every spelling of a reading is read as the one instant that the reading is of, on both sides of
an interval. No place after the third matters, and two texts that are read spell one interval
exactly when their instants are the same on both sides, cut to milliseconds. -/
theorem spellings_agree :
    (∀ r : Reading, (∃ spelled, r.Spells spelled) →
      ∃ t, (∀ s, r.Shows s ↔ s = t) ∧
        ∀ spelled, r.Spells spelled → Instant.parse? spelled = some t) ∧
    (∀ (a b : Reading) (text : String) (s t : Instant),
      Spells a b text → a.Shows s → b.Shows t →
        parse text = new s t ∧
          ∀ i, parse text = .ok i ↔ i.start = s.floorMilli ∧ i.stop = t.floorMilli) ∧
    (∀ (a b a' b' : Reading) (text text' : String), Spells a b text → Spells a' b' text' →
      a.AgreesToMillis a' → b.AgreesToMillis b' → parse text = parse text') ∧
    ∀ (a b a' b' : Reading) (text text' : String) (s t s' t' : Instant) (i j : Interval),
      Spells a b text → a.Shows s → b.Shows t →
      Spells a' b' text' → a'.Shows s' → b'.Shows t' →
      parse text = .ok i → parse text' = .ok j →
        (i = j ↔ s.floorMilli = s'.floorMilli ∧ t.floorMilli = t'.floorMilli) := by
  refine ⟨?instants, ?intervals, ?places, ?accepted⟩
  case instants =>
    rintro r ⟨spelled, h⟩
    obtain ⟨t, ht⟩ := h.exists_shows
    refine ⟨t, fun s => ⟨fun hs => hs.unique ht, ?_⟩, fun _ hspelled => hspelled.parse?_eq ht⟩
    rintro rfl
    exact ht
  case intervals =>
    intro a b text s t h hs ht
    have hparse := h.parse_eq hs ht
    refine ⟨hparse, fun i => ?_⟩
    rw [hparse]
    exact new_eq_ok_iff
  case places =>
    intro a b a' b' text text' h h' ha hb
    exact h.parse_eq_parse h' ha hb
  case accepted =>
    intro a b a' b' text text' s t s' t' i j h hs ht h' hs' ht' hi hj
    exact h.eq_iff hs ht h' hs' ht' hi hj

def leapSecond (places : List Char) (h : ∀ c ∈ places, c.isDigit = true) : Reading where
  date := ⟨2016, 12, 31⟩
  hour := 23
  minute := 59
  second := 60
  places := places
  inCalendar := by decide
  hour_lt := by decide
  minute_lt := by decide
  second_le := by decide
  isDigit_places := h

def fiveAndAHalfEast : Zone :=
  ⟨false, 5, 30, by decide, by decide⟩

def twoHoursWest : Zone :=
  ⟨true, 2, 0, by decide, by decide⟩

theorem leap_second_in_two_zones :
    parse "2016-12-31T23:59:60.9Z/2017-01-01T05:29:60.9999+05:30" =
      parse "2016-12-31T23:59:60.9/2016-12-31T21:59:60.99951-02:00" := by
  let a := leapSecond ['9'] (by simp)
  let b := leapSecond ['9', '9', '9', '9'] (by simp)
  let b' := leapSecond ['9', '9', '9', '5', '1'] (by simp)
  have htext : String.ofList ((a.fullText ++ ['Z']) ++
      '/' :: ((b.shift fiveAndAHalfEast.ahead).fullText ++ fiveAndAHalfEast.text)) =
        "2016-12-31T23:59:60.9Z/2017-01-01T05:29:60.9999+05:30" := by
    decide +kernel
  have htext' : String.ofList (a.fullText ++
      '/' :: ((b'.shift twoHoursWest.ahead).fullText ++ twoHoursWest.text)) =
        "2016-12-31T23:59:60.9/2016-12-31T21:59:60.99951-02:00" := by
    decide +kernel
  have h : Spells a b _ := .pair (.utc (by decide)) (.zoned fiveAndAHalfEast (by decide))
  have h' : Spells a b' _ := .pair (.unzoned (by decide)) (.zoned twoHoursWest (by decide))
  rw [htext] at h
  rw [htext'] at h'
  obtain ⟨-, -, hplaces, -⟩ := spellings_agree
  exact hplaces a b a b' _ _ h h' ⟨⟨rfl, rfl, rfl, rfl⟩, rfl⟩ ⟨⟨rfl, rfl, rfl, rfl⟩, rfl⟩

end AnswerCache.Interval
