import AnswerCache.Time.Calendar

/-!
Points in time, counted in seconds from 1970 and nanoseconds, with a place for the leap second at
the end of every minute.
-/

namespace AnswerCache

def Instant.perSecond : Nat := 1000000000

def Instant.minSecond : Int := Date.dayNumber ⟨Date.minYear, 1, 1⟩ * 86400

def Instant.maxSecond : Int := Date.dayNumber ⟨Date.maxYear, 12, 31⟩ * 86400 + 86399

/-- A leap second is kept as the last second of its minute with a second or more of
nanoseconds. -/
structure Instant where
  second : Int
  nano : Nat
  nano_lt : nano < 2 * Instant.perSecond
  leap_last : Instant.perSecond ≤ nano → second % 60 = 59
  in_range : Instant.minSecond ≤ second ∧ second ≤ Instant.maxSecond
  deriving DecidableEq

namespace Instant

/-- The place of an instant on one line on which every second leaves room for a leap second. -/
def position (t : Instant) : Int :=
  2 * perSecond * t.second + t.nano

instance : LT Instant := ⟨fun s t => s.position < t.position⟩

instance : LE Instant := ⟨fun s t => s.position ≤ t.position⟩

instance (s t : Instant) : Decidable (s < t) :=
  inferInstanceAs (Decidable (s.position < t.position))

instance (s t : Instant) : Decidable (s ≤ t) :=
  inferInstanceAs (Decidable (s.position ≤ t.position))

instance : Max Instant := ⟨fun s t => if s ≤ t then t else s⟩

def of? (second : Int) (nano : Nat) : Option Instant :=
  if hn : nano < 2 * perSecond then
    if hl : perSecond ≤ nano → second % 60 = 59 then
      if hr : minSecond ≤ second ∧ second ≤ maxSecond then some ⟨second, nano, hn, hl, hr⟩
      else none
    else none
  else none

def perMilli : Nat := 1000000

def IsMilli (t : Instant) : Prop :=
  t.nano % perMilli = 0

instance (t : Instant) : Decidable t.IsMilli :=
  inferInstanceAs (Decidable (_ = _))

def floorMilli (t : Instant) : Instant :=
  { t with
    nano := t.nano / perMilli * perMilli
    nano_lt := Nat.lt_of_le_of_lt (Nat.div_mul_le_self _ _) t.nano_lt
    leap_last := fun h => t.leap_last (Nat.le_trans h (Nat.div_mul_le_self _ _)) }

theorem isMilli_floorMilli (t : Instant) : t.floorMilli.IsMilli :=
  Nat.mul_mod_left _ _

theorem floorMilli_mono {s t : Instant} (h : s ≤ t) : s.floorMilli ≤ t.floorMilli := by
  change s.position ≤ t.position at h
  change s.floorMilli.position ≤ t.floorMilli.position
  have hs := s.nano_lt
  have ht := t.nano_lt
  simp only [position, floorMilli, perMilli, perSecond] at *
  omega

def unixMillis (t : Instant) : Int :=
  t.second * 1000 + (t.nano / perMilli : Nat)

end Instant

structure ClockTime where
  hour : Nat
  minute : Nat
  second : Nat
  nano : Nat
  deriving DecidableEq

namespace ClockTime

def Valid (t : ClockTime) : Prop :=
  t.hour < 24 ∧ t.minute < 60 ∧ t.second ≤ 60 ∧ t.nano < Instant.perSecond

instance (t : ClockTime) : Decidable t.Valid :=
  inferInstanceAs (Decidable (_ ∧ _))

def midnight : ClockTime := ⟨0, 0, 0, 0⟩

end ClockTime

namespace Instant

def ofCivil? (date : Date) (time : ClockTime) (offset : Int) : Option Instant :=
  if date.Valid ∧ time.Valid then
    let start := date.dayNumber * 86400 + (time.hour * 3600 + time.minute * 60 : Nat) - offset * 60
    if time.second = 60 then of? (start + 59) (time.nano + perSecond)
    else of? (start + time.second) time.nano
  else none

def date (t : Instant) : Date :=
  .ofDayNumber (t.second / 86400)

def time (t : Instant) : ClockTime :=
  let s := (t.second % 86400).toNat
  if t.nano < perSecond then ⟨s / 3600, s / 60 % 60, s % 60, t.nano⟩
  else ⟨s / 3600, s / 60 % 60, s % 60 + 1, t.nano - perSecond⟩

end Instant

end AnswerCache
