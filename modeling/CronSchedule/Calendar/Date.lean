/-
Dates of the proleptic Gregorian calendar, years 1 to 9999, and their day
numbers: the first of January of the year 1 is day 0.

* `Date.dayNumber_ofDayNumber`, `Date.ofDayNumber_dayNumber`: the dates and
  the numbers below `dayCount` correspond one to one.
-/
import CronSchedule.Calendar.Year

namespace CronSchedule
open Calendar

/-- The year, month and day name a date of the calendar. -/
def IsDate (year month day : Nat) : Prop :=
  (1 ≤ year ∧ year ≤ 9999) ∧ (1 ≤ month ∧ month ≤ 12) ∧ 1 ≤ day ∧ day ≤ daysInMonth year month

instance (year month day : Nat) : Decidable (IsDate year month day) := inferInstanceAs (Decidable (_ ∧ _))

/-- A date of the calendar. -/
structure Date where
  year : Nat
  month : Nat
  day : Nat
  isDate : IsDate year month day
deriving DecidableEq, Repr

/-- How many days the calendar has. -/
def dayCount : Nat := 3652059

namespace Date

/-- The date with this year, month and day. -/
def of? (year month day : Nat) : Option Date :=
  if h : IsDate year month day then some ⟨year, month, day, h⟩ else none

/-- The days before the date. -/
def dayNumber (d : Date) : Nat :=
  daysBeforeYear d.year + totalDays ((monthLengths (isLeapYear d.year)).take (d.month - 1)) + (d.day - 1)

/-- The day of the week, Sunday being 0. The first day of the calendar is a Monday. -/
def weekday (d : Date) : Nat := (d.dayNumber + 1) % 7

theorem dayNumber_bounds (d : Date) :
    daysBeforeYear d.year ≤ d.dayNumber ∧ d.dayNumber < daysBeforeYear (d.year + 1) := by
  obtain ⟨⟨hy, _⟩, _, h1, h2⟩ := d.isDate
  rw [daysBeforeYear_succ hy]
  have := totalDays_take_add_lt (show d.day - 1 < (monthLengths (isLeapYear d.year)).getD (d.month - 1) 0 by
    simp only [daysInMonth] at h2; omega)
  simp only [dayNumber]; omega

theorem dayNumber_lt (d : Date) : d.dayNumber < dayCount := by
  obtain ⟨⟨hy, hy'⟩, _⟩ := d.isDate
  exact Nat.lt_of_lt_of_le d.dayNumber_bounds.2 (daysBeforeYear_mono (by omega) (show d.year + 1 ≤ 10000 by omega))

theorem isDate_ofDayNumber {n : Nat} (h : n < dayCount) :
    let r := takeMonths (monthLengths (isLeapYear (yearOf n))) (n - daysBeforeYear (yearOf n))
    IsDate (yearOf n) (r.1 + 1) (r.2 + 1) := by
  obtain ⟨h0, h1, h2⟩ := yearOf_spec n
  rw [daysBeforeYear_succ h0] at h2
  obtain ⟨hm, hd, _⟩ := takeMonths_spec
    (show n - daysBeforeYear (yearOf n) < totalDays (monthLengths (isLeapYear (yearOf n))) by omega)
  have h12 : (monthLengths (isLeapYear (yearOf n))).length = 12 := rfl
  rw [h12] at hm
  exact ⟨⟨h0, yearOf_le h⟩, ⟨by omega, by omega⟩, by omega, hd⟩

/-- The date with this day number. -/
def ofDayNumber (n : Nat) (h : n < dayCount) : Date :=
  let year := yearOf n
  let r := takeMonths (monthLengths (isLeapYear year)) (n - daysBeforeYear year)
  ⟨year, r.1 + 1, r.2 + 1, isDate_ofDayNumber h⟩

theorem dayNumber_ofDayNumber (n : Nat) (h : n < dayCount) : (ofDayNumber n h).dayNumber = n := by
  obtain ⟨h0, h1, h2⟩ := yearOf_spec n
  rw [daysBeforeYear_succ h0] at h2
  have hn : n - daysBeforeYear (yearOf n) < totalDays (monthLengths (isLeapYear (yearOf n))) := by omega
  obtain ⟨_, _, hs⟩ := takeMonths_spec hn
  simp only [ofDayNumber, dayNumber, Nat.add_sub_cancel]
  omega

theorem ofDayNumber_dayNumber (d : Date) : ofDayNumber d.dayNumber d.dayNumber_lt = d := by
  obtain ⟨h1, h2⟩ := d.dayNumber_bounds
  obtain ⟨⟨hy, _⟩, ⟨hm, _⟩, hd, hl⟩ := d.isDate
  have hy' := yearOf_eq hy h1 h2
  have ht := takeMonths_eq (show d.day - 1 < (monthLengths (isLeapYear d.year)).getD (d.month - 1) 0 by
    simp only [daysInMonth] at hl; omega)
  have hn : d.dayNumber - daysBeforeYear d.year =
      totalDays ((monthLengths (isLeapYear d.year)).take (d.month - 1)) + (d.day - 1) := by
    simp only [dayNumber]; omega
  cases d with
  | mk year month day hdate =>
    simp only [ofDayNumber, hy', hn, ht, mk.injEq, true_and]
    simp only at hm hd
    omega

end Date
end CronSchedule
