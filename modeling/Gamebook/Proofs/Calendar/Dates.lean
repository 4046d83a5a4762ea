import Gamebook.Calendar

namespace Gamebook.Calendar

theorem isLeapYear_iff (year : Int) :
    isLeapYear year = true ↔ year % 4 = 0 ∧ (year % 100 ≠ 0 ∨ year % 400 = 0) := by
  simp [isLeapYear]

/-- A day in the cycle of 400 years, by the century, the four years, the year and the day in this
year that it lies in. Years are counted from March, so that a leap day is the last one of the last
of four years, unless it would be in the last year of one of the first three centuries. -/
structure CycleDay where
  century : Int
  four : Int
  year : Int
  day : Int
  century_range : 0 ≤ century ∧ century ≤ 3
  four_range : 0 ≤ four ∧ four ≤ 24
  year_range : 0 ≤ year ∧ year ≤ 3
  day_range : 0 ≤ day ∧ day ≤ 365
  leap : day = 365 → year = 3 ∧ (four = 24 → century = 3)

namespace CycleDay

/-- The days of the cycle before a day. -/
def before (place : CycleDay) : Int :=
  36524 * place.century + 1461 * place.four + 365 * place.year + place.day

/-- The years of the cycle before the year of a day. -/
def years (place : CycleDay) : Int :=
  100 * place.century + 4 * place.four + place.year

theorem before_range (place : CycleDay) : 0 ≤ place.before ∧ place.before < 146097 := by
  obtain ⟨h, q, k, d, hh, hq, hk, hd, hleap⟩ := place
  simp only [before]
  omega

theorem years_range (place : CycleDay) : 0 ≤ place.years ∧ place.years < 400 := by
  obtain ⟨h, q, k, d, hh, hq, hk, hd, hleap⟩ := place
  simp only [years]
  omega

theorem exists_before_eq {c : Int} (hlow : 0 ≤ c) (hhigh : c < 146097) :
    ∃ place : CycleDay, place.before = c := by
  obtain ⟨h, r, hh, hr, hc⟩ : ∃ h r : Int, (0 ≤ h ∧ h ≤ 3) ∧
      (0 ≤ r ∧ r ≤ 36524 ∧ (r = 36524 → h = 3)) ∧ c = 36524 * h + r :=
    ⟨min (c / 36524) 3, c - 36524 * min (c / 36524) 3, by omega⟩
  obtain ⟨q, s, hq, hs, hr'⟩ : ∃ q s : Int, (0 ≤ q ∧ q ≤ 24) ∧
      (0 ≤ s ∧ s ≤ 1460 ∧ (s = 1460 → q = 24 → h = 3)) ∧ r = 1461 * q + s :=
    ⟨r / 1461, r % 1461, by omega⟩
  obtain ⟨k, d, hk, hd, hs'⟩ : ∃ k d : Int, (0 ≤ k ∧ k ≤ 3) ∧
      (0 ≤ d ∧ d ≤ 365 ∧ (d = 365 → k = 3)) ∧ s = 365 * k + d :=
    ⟨min (s / 365) 3, s - 365 * min (s / 365) 3, by omega⟩
  refine ⟨⟨h, q, k, d, hh, hq, hk, by omega, by omega⟩, ?_⟩
  simp only [before]
  omega

theorem years_eq (place : CycleDay) :
    (place.before - place.before / 1460 + place.before / 36524 - place.before / 146096) / 365 =
      place.years := by
  obtain ⟨h, q, k, d, hh, hq, hk, hd, hleap⟩ := place
  simp only [before, years]
  generalize hc : 36524 * h + 1461 * q + 365 * k + d = c
  by_cases hlast : c = 146096
  · omega
  · have hcycle : c / 146096 = 0 := by omega
    have hcentury : c / 36524 = h := by omega
    have hspan : c / 1460 = 25 * h + q + (24 * h + q + 365 * k + d) / 1460 := by omega
    omega

theorem day_eq (place : CycleDay) :
    place.before - (365 * place.years + place.years / 4 - place.years / 100) = place.day := by
  obtain ⟨h, q, k, d, hh, hq, hk, hd, hleap⟩ := place
  simp only [before, years]
  omega

theorem isLeapYear_of_day {place : CycleDay} (hday : place.day = 365) (cycle : Int) :
    isLeapYear (cycle * 400 + place.years + 1) = true := by
  obtain ⟨h, q, k, d, hh, hq, hk, hd, hleap⟩ := place
  rw [isLeapYear_iff, years]
  simp only at hday ⊢
  obtain ⟨rfl, hcentury⟩ := hleap hday
  by_cases hfour : q = 24
  · omega
  · omega

end CycleDay

namespace Date

/-- Whether a date is one of the calendar. -/
structure IsDate (date : Date) : Prop where
  month_pos : 1 ≤ date.month
  month_le : date.month ≤ 12
  day_pos : 1 ≤ date.day
  day_le : date.day ≤ daysInMonth date.year date.month

/-- The date of a day in a year that is counted from March. -/
def fromMarch (year : Int) (inYear : Nat) : Date :=
  let month := (5 * inYear + 2) / 153
  let day := inYear - (153 * month + 2) / 5 + 1
  if month < 10 then ⟨year, month + 3, day⟩ else ⟨year + 1, month - 9, day⟩

theorem isDate_fromMarch {year : Int} {inYear : Nat} (hlast : inYear ≤ 365)
    (hleap : inYear = 365 → isLeapYear (year + 1) = true) : (fromMarch year inYear).IsDate := by
  simp only [fromMarch]
  split
  · refine ⟨?_, ?_, ?_, ?_⟩ <;> simp only
    · omega
    · omega
    · omega
    · rw [daysInMonth, if_neg (by omega)]
      split <;> omega
  · refine ⟨?_, ?_, ?_, ?_⟩ <;> simp only
    · omega
    · omega
    · omega
    · rw [daysInMonth]
      split
      · split
        · omega
        · rename_i hshort
          have hnotLast : inYear ≠ 365 := fun hday => hshort (hleap hday)
          omega
      · rw [if_neg (by omega)]
        omega

theorem toDays_fromMarch {year : Int} {inYear : Nat} (hlast : inYear ≤ 365) :
    (fromMarch year inYear).toDays = year / 400 * 146097 +
      (year % 400 * 365 + year % 400 / 4 - year % 400 / 100 + inYear) - 719468 := by
  simp only [fromMarch, toDays]
  split
  · have hspring : ¬(5 * inYear + 2) / 153 + 3 ≤ 2 := by omega
    simp only [if_neg hspring]
    omega
  · have hwinter : (5 * inYear + 2) / 153 - 9 ≤ 2 := by omega
    simp only [if_pos hwinter]
    omega

theorem ofDays_eq {days cycle : Int} {place : CycleDay}
    (hdays : days + 719468 = cycle * 146097 + place.before) :
    ofDays days = fromMarch (cycle * 400 + place.years) place.day.toNat := by
  have hrange := place.before_range
  have hcycle : (cycle * 146097 + place.before) / 146097 = cycle := by omega
  have hbefore : (cycle * 146097 + place.before) % 146097 = place.before := by omega
  simp only [ofDays, fromMarch, hdays, hcycle, hbefore, CycleDay.years_eq, CycleDay.day_eq]

theorem exists_ofDays_eq (days : Int) : ∃ (cycle : Int) (place : CycleDay),
    days + 719468 = cycle * 146097 + place.before ∧
      ofDays days = fromMarch (cycle * 400 + place.years) place.day.toNat := by
  obtain ⟨place, hplace⟩ := CycleDay.exists_before_eq (c := (days + 719468) % 146097)
    (by omega) (by omega)
  have hdays : days + 719468 = (days + 719468) / 146097 * 146097 + place.before := by omega
  exact ⟨_, place, hdays, ofDays_eq hdays⟩

theorem isDate_ofDays (days : Int) : (ofDays days).IsDate := by
  obtain ⟨cycle, place, -, hdate⟩ := exists_ofDays_eq days
  have hday := place.day_range
  rw [hdate]
  apply isDate_fromMarch
  · omega
  · intro hlast
    exact CycleDay.isLeapYear_of_day (by omega) cycle

theorem toDays_ofDays (days : Int) : (ofDays days).toDays = days := by
  obtain ⟨cycle, place, hdays, hdate⟩ := exists_ofDays_eq days
  have hday := place.day_range
  have hyears := place.years_range
  have hsum := place.day_eq
  have hcycle : (cycle * 400 + place.years) / 400 = cycle := by omega
  have hyear : (cycle * 400 + place.years) % 400 = place.years := by omega
  rw [hdate, toDays_fromMarch (by omega), hcycle, hyear]
  omega

end Date

end Gamebook.Calendar
