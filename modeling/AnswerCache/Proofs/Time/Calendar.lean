import AnswerCache.Time.Calendar
import Mathlib.Tactic.IntervalCases
import Mathlib.Tactic.Ring

namespace AnswerCache.Date

def yearOfEra (d : Int) : Int :=
  (d - d / 1460 + d / 36524 - d / 146096) / 365

def dayOfYear (d : Int) : Int :=
  d - (365 * yearOfEra d + yearOfEra d / 4 - yearOfEra d / 100)

def daysBefore (year : Int) : Int :=
  365 * year + year / 4 - year / 100 + year / 400

def ofMarch (year m day : Int) : Date :=
  let month := if m < 10 then m + 3 else m - 9
  ⟨year + (if month ≤ 2 then 1 else 0), month.toNat, day.toNat⟩

lemma century_eq {d : Int} (h0 : 0 ≤ d) (h1 : d < 146097) :
    yearOfEra d / 100 = d / 36524 - d / 146096 := by
  have hq : 0 ≤ d / 36524 ∧ d / 36524 ≤ 4 := by omega
  unfold yearOfEra
  obtain ⟨hq0, hq4⟩ := hq
  generalize hqe : d / 36524 = q at *
  interval_cases q <;> omega

lemma yearOfEra_bounds {d : Int} (h0 : 0 ≤ d) (h1 : d < 146097) :
    0 ≤ yearOfEra d ∧ yearOfEra d ≤ 399 := by
  unfold yearOfEra
  omega

lemma dayOfYear_bounds {d : Int} (h0 : 0 ≤ d) (h1 : d < 146097) :
    0 ≤ dayOfYear d ∧ dayOfYear d ≤ 365 := by
  have hc := century_eq h0 h1
  have hy : yearOfEra d = (d - d / 1460 + d / 36524 - d / 146096) / 365 := rfl
  have hq : 25 * (d / 36524) ≤ d / 1460 := by omega
  rw [dayOfYear, hc]
  constructor <;> omega

lemma dayNumber_ofMarch (year : Int) {m day : Int} (hm0 : 0 ≤ m) (hm1 : m < 12) (hday : 1 ≤ day) :
    (ofMarch year m day).dayNumber =
      daysBefore year + ((153 * m + 2) / 5 + day - 1) - epochDay := by
  obtain ⟨k, rfl⟩ := Int.eq_ofNat_of_zero_le hm0
  obtain ⟨l, rfl⟩ := Int.eq_ofNat_of_zero_le (by omega : 0 ≤ day)
  by_cases hk : k < 10
  · have hmonth : (((k : Int) + 3).toNat + 9) % 12 = k := by omega
    simp only [ofMarch, dayNumber, daysBefore, if_pos (by omega : (k : Int) < 10),
      if_neg (by omega : ¬ (k : Int) + 3 ≤ 2), if_neg (by omega : ¬ ((k : Int) + 3).toNat ≤ 2),
      hmonth]
    omega
  · have hmonth : (((k : Int) - 9).toNat + 9) % 12 = k := by omega
    simp only [ofMarch, dayNumber, daysBefore, if_neg (by omega : ¬ (k : Int) < 10),
      if_pos (by omega : (k : Int) - 9 ≤ 2), if_pos (by omega : ((k : Int) - 9).toNat ≤ 2), hmonth]
    omega

lemma daysBefore_add_eras (year era : Int) :
    daysBefore (year + 400 * era) = daysBefore year + daysPerEra * era := by
  simp only [daysBefore, daysPerEra]
  omega

lemma ofDayNumber_eq (n : Int) :
    ofDayNumber n =
      let d := (n + epochDay) % daysPerEra
      let m := (5 * dayOfYear d + 2) / 153
      ofMarch (yearOfEra d + 400 * ((n + epochDay) / daysPerEra)) m
        (dayOfYear d - (153 * m + 2) / 5 + 1) := rfl

theorem dayNumber_ofDayNumber (n : Int) : (ofDayNumber n).dayNumber = n := by
  have h0 : 0 ≤ (n + epochDay) % daysPerEra := Int.emod_nonneg _ (by decide)
  have h1 : (n + epochDay) % daysPerEra < 146097 := Int.emod_lt_of_pos _ (by decide)
  have hsum := Int.emod_add_mul_ediv (n + epochDay) daysPerEra
  obtain ⟨hy0, hy1⟩ := yearOfEra_bounds h0 h1
  obtain ⟨hd0, hd1⟩ := dayOfYear_bounds h0 h1
  rw [ofDayNumber_eq, dayNumber_ofMarch _ (by omega) (by omega) (by omega), daysBefore_add_eras]
  simp only [dayOfYear, daysBefore] at *
  omega

theorem ofDayNumber_injective : Function.Injective ofDayNumber :=
  Function.LeftInverse.injective dayNumber_ofDayNumber

lemma isLeapYear_of_dayOfYear {d : Int} (h0 : 0 ≤ d) (h1 : d < 146097) (h : dayOfYear d = 365)
    (era : Int) : isLeapYear (yearOfEra d + 400 * era + 1) = true := by
  have hy : 365 * yearOfEra d ≤ d - d / 1460 + d / 36524 - d / 146096 ∧
      d - d / 1460 + d / 36524 - d / 146096 < 365 * yearOfEra d + 365 := by
    unfold yearOfEra
    omega
  have hc := century_eq h0 h1
  obtain ⟨hy0, hy1⟩ := yearOfEra_bounds h0 h1
  rw [dayOfYear] at h
  generalize yearOfEra d = y at *
  simp only [isLeapYear, Bool.and_eq_true, Bool.or_eq_true, bne_iff_ne, beq_iff_eq]
  -- the last day of an era stands apart: its year is divisible by 400
  obtain hlast | hd : d / 146096 = 1 ∨ d / 146096 = 0 := by omega
  · omega
  · have hcycle : y / 4 + 1 ≤ d / 1460 := by omega
    have hquarter : y % 4 = 3 := by omega
    refine ⟨by omega, Or.inl ?_⟩
    omega

lemma day_le_daysInMonth {year m day dayOfYear : Int} (hm0 : 0 ≤ m) (hm1 : m ≤ 11)
    (hday : dayOfYear = (153 * m + 2) / 5 + day - 1)
    (hnext : dayOfYear < (153 * (m + 1) + 2) / 5) (hend : dayOfYear ≤ 365)
    (hleap : dayOfYear = 365 → isLeapYear (year + 1) = true) :
    (ofMarch year m day).day ≤
      daysInMonth (ofMarch year m day).year (ofMarch year m day).month := by
  by_cases hfebruary : m = 11
  · subst hfebruary
    change day.toNat ≤ if isLeapYear (year + 1) then 29 else 28
    by_cases hlong : isLeapYear (year + 1) = true
    · rw [if_pos hlong]
      omega
    · have hne : dayOfYear ≠ 365 := fun h => hlong (hleap h)
      rw [if_neg hlong]
      omega
  · interval_cases m <;> simp [ofMarch, daysInMonth] <;> omega

def InCalendar (d : Date) : Prop :=
  (1 ≤ d.month ∧ d.month ≤ 12) ∧ 1 ≤ d.day ∧ d.day ≤ daysInMonth d.year d.month

instance (d : Date) : Decidable d.InCalendar :=
  inferInstanceAs (Decidable (_ ∧ _))

lemma daysInMonth_le (year : Int) (month : Nat) : daysInMonth year month ≤ 31 := by
  unfold daysInMonth
  split
  · split <;> decide
  all_goals decide

lemma InCalendar.bounds {d : Date} (h : d.InCalendar) : d.month ≤ 12 ∧ d.day ≤ 31 :=
  ⟨h.1.2, h.2.2.trans (daysInMonth_le d.year d.month)⟩

lemma inCalendar_ofDayNumber (n : Int) : (ofDayNumber n).InCalendar := by
  have h0 : 0 ≤ (n + epochDay) % daysPerEra := Int.emod_nonneg _ (by decide)
  have h1 : (n + epochDay) % daysPerEra < 146097 := Int.emod_lt_of_pos _ (by decide)
  obtain ⟨hd0, hd1⟩ := dayOfYear_bounds h0 h1
  refine ⟨⟨?_, ?_⟩, ?_, ?_⟩
  · rw [ofDayNumber_eq]
    simp only [ofMarch]
    split <;> omega
  · rw [ofDayNumber_eq]
    simp only [ofMarch]
    split <;> omega
  · rw [ofDayNumber_eq]
    simp only [ofMarch]
    omega
  · rw [ofDayNumber_eq]
    exact day_le_daysInMonth (by omega) (by omega) (by omega) (by omega) hd1
      fun h => isLeapYear_of_dayOfYear h0 h1 h _

lemma valid_ofDayNumber {n : Int} (hmin : minYear ≤ (ofDayNumber n).year)
    (hmax : (ofDayNumber n).year ≤ maxYear) : (ofDayNumber n).Valid :=
  ⟨⟨hmin, hmax⟩, inCalendar_ofDayNumber n⟩

section FromMarch

def marchYear (d : Date) : Int :=
  if d.month ≤ 2 then d.year - 1 else d.year

def marchMonth (d : Date) : Nat :=
  (d.month + 9) % 12

def daysToMonth (m : Nat) : Nat :=
  (153 * m + 2) / 5

lemma dayNumber_eq (d : Date) : d.dayNumber =
    daysBefore d.marchYear + (daysToMonth d.marchMonth + d.day - 1 : Nat) - epochDay := rfl

lemma daysToMonth_mono {m n : Nat} (h : m ≤ n) : daysToMonth m ≤ daysToMonth n :=
  Nat.div_le_div_right (by omega)

lemma daysBefore_mono {y z : Int} (h : y ≤ z) : daysBefore y ≤ daysBefore z := by
  simp only [daysBefore]
  omega

lemma daysBefore_succ (y : Int) :
    daysBefore (y + 1) = daysBefore y + if isLeapYear (y + 1) then 366 else 365 := by
  by_cases hleap : isLeapYear (y + 1) = true
  · rw [if_pos hleap]
    simp only [isLeapYear, Bool.and_eq_true, Bool.or_eq_true, bne_iff_ne, beq_iff_eq] at hleap
    simp only [daysBefore]
    omega
  · rw [if_neg hleap]
    simp only [isLeapYear, Bool.and_eq_true, Bool.or_eq_true, bne_iff_ne, beq_iff_eq] at hleap
    simp only [daysBefore]
    omega

variable {d e : Date}

lemma day_le_daysToMonth (hd : d.InCalendar) (hm : d.marchMonth < 11) :
    daysToMonth d.marchMonth + d.day ≤ daysToMonth (d.marchMonth + 1) := by
  obtain ⟨⟨hmin, hmax⟩, -, hday⟩ := hd
  simp only [marchMonth, daysToMonth] at *
  generalize d.month = month at *
  interval_cases month <;> simp [daysInMonth] at hday hm ⊢ <;> omega

lemma day_le_yearEnd (hd : d.InCalendar) :
    daysBefore d.marchYear + (daysToMonth d.marchMonth + d.day : Nat) ≤
      daysBefore (d.marchYear + 1) := by
  have hmonth := day_le_daysToMonth hd
  obtain ⟨⟨hmin, hmax⟩, -, hday⟩ := hd
  rw [daysBefore_succ]
  by_cases hfebruary : d.month = 2
  · have hyear : d.marchYear + 1 = d.year := by
      rw [marchYear, if_pos (by omega)]
      omega
    have hm : daysToMonth d.marchMonth = 337 := by
      rw [marchMonth, hfebruary]
      rfl
    rw [hfebruary, daysInMonth] at hday
    rw [hyear, hm]
    split at hday
    · rw [if_pos ‹_›]
      omega
    · rw [if_neg ‹_›]
      omega
  · have hm : d.marchMonth < 11 := by
      rw [marchMonth]
      omega
    have hlast : daysToMonth (d.marchMonth + 1) ≤ 337 := daysToMonth_mono hm
    have hnext := hmonth hm
    split <;> omega

lemma marchYear_le (hd : d.InCalendar) (he : e.InCalendar) (h : d.dayNumber ≤ e.dayNumber) :
    d.marchYear ≤ e.marchYear := by
  by_contra hlater
  have hd1 := hd.2.1
  have he1 := he.2.1
  have hend := day_le_yearEnd he
  have hyears : daysBefore (e.marchYear + 1) ≤ daysBefore d.marchYear :=
    daysBefore_mono (by omega)
  rw [dayNumber_eq, dayNumber_eq] at h
  omega

lemma marchMonth_le (hd : d.InCalendar) (he : e.InCalendar)
    (h : daysToMonth d.marchMonth + d.day ≤ daysToMonth e.marchMonth + e.day) :
    d.marchMonth ≤ e.marchMonth := by
  by_contra hlater
  have hd1 := hd.2.1
  have hd11 : d.marchMonth < 12 := Nat.mod_lt _ (by decide)
  have hend := day_le_daysToMonth he (by omega)
  have hmonths : daysToMonth (e.marchMonth + 1) ≤ daysToMonth d.marchMonth :=
    daysToMonth_mono (by omega)
  omega

lemma dayNumber_inj (hd : d.InCalendar) (he : e.InCalendar) (h : d.dayNumber = e.dayNumber) :
    d = e := by
  have hyear : d.marchYear = e.marchYear :=
    le_antisymm (marchYear_le hd he h.le) (marchYear_le he hd h.ge)
  have hsum : daysToMonth d.marchMonth + d.day = daysToMonth e.marchMonth + e.day := by
    have hd1 := hd.2.1
    have he1 := he.2.1
    rw [dayNumber_eq, dayNumber_eq, hyear] at h
    omega
  have hmonth : d.marchMonth = e.marchMonth :=
    le_antisymm (marchMonth_le hd he hsum.le) (marchMonth_le he hd hsum.ge)
  have hday : d.day = e.day := by
    rw [hmonth] at hsum
    omega
  obtain ⟨⟨hdmin, hdmax⟩, -⟩ := hd
  obtain ⟨⟨hemin, hemax⟩, -⟩ := he
  have hm : d.month = e.month := by
    simp only [marchMonth] at hmonth
    omega
  have hy : d.year = e.year := by
    rw [marchYear, marchYear, hm] at hyear
    split at hyear <;> omega
  cases d
  cases e
  simp_all

theorem ofDayNumber_dayNumber (hd : d.InCalendar) : ofDayNumber d.dayNumber = d :=
  dayNumber_inj (inCalendar_ofDayNumber _) hd (dayNumber_ofDayNumber _)

lemma dayNumber_bounds (hd : d.InCalendar) (hmin : 0 ≤ d.year) (hmax : d.year ≤ 9999) :
    -1000000 ≤ d.dayNumber ∧ d.dayNumber ≤ 3000000 := by
  obtain ⟨-, hday⟩ := hd.bounds
  have hmonth : daysToMonth d.marchMonth ≤ 400 := by
    simp only [daysToMonth, marchMonth]
    omega
  have hyear : d.year - 1 ≤ d.marchYear ∧ d.marchYear ≤ d.year := by
    rw [marchYear]
    split <;> omega
  rw [dayNumber_eq]
  simp only [daysBefore, epochDay]
  omega

end FromMarch

end AnswerCache.Date
