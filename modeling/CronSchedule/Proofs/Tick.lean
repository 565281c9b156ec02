/-
The next wall-clock minute, carried from field to field: from the minute
to the hour, the day, the month and the year. Nothing here counts days or
minutes; that the counts agree is what is proved.

* `Date.next?_eq`: the day after a date has the next day number.
* `Instant.tick?_eq`: the minute after an instant has the next number.
-/
import CronSchedule.Calendar.Instant

namespace CronSchedule
open Calendar

/-! ## Days -/

namespace Date

/-- The day after; none after the last day of the calendar. -/
def next? (d : Date) : Option Date :=
  if d.day < daysInMonth d.year d.month then of? d.year d.month (d.day + 1)
  else if d.month < 12 then of? d.year (d.month + 1) 1
  else of? (d.year + 1) 1 1

theorem le_daysInMonth (year : Nat) {month : Nat} (h1 : 1 ≤ month) (h2 : month ≤ 12) : 28 ≤ daysInMonth year month := by
  have hall : ∀ leap : Bool, ∀ m < 12, 28 ≤ (monthLengths leap).getD m 0 := by decide
  exact hall (isLeapYear year) (month - 1) (by omega)

theorem isDate_first {year month : Nat} (hy : 1 ≤ year ∧ year ≤ 9999) (hm : 1 ≤ month ∧ month ≤ 12) :
    IsDate year month 1 := by
  have := le_daysInMonth year hm.1 hm.2
  exact ⟨hy, hm, Nat.le_refl 1, by omega⟩

theorem of?_eq_some {year month day : Nat} (h : IsDate year month day) :
    of? year month day = some ⟨year, month, day, h⟩ := by
  simp only [of?, h, dite_true]

theorem eq_ofDayNumber {d : Date} {n : Nat} (h : n < dayCount) (hn : d.dayNumber = n) : d = ofDayNumber n h := by
  subst hn
  exact d.ofDayNumber_dayNumber.symm

theorem totalDays_take_month (year : Nat) {month : Nat} (h1 : 1 ≤ month) (h2 : month ≤ 12) :
    totalDays ((monthLengths (isLeapYear year)).take month) =
      totalDays ((monthLengths (isLeapYear year)).take (month - 1)) + daysInMonth year month := by
  obtain ⟨m, rfl⟩ : ∃ m, month = m + 1 := ⟨month - 1, by omega⟩
  exact totalDays_take_succ (show m < 12 by omega)

theorem dayNumber_succ_day {d e : Date} (hy : e.year = d.year) (hm : e.month = d.month) (hd : e.day = d.day + 1) :
    e.dayNumber = d.dayNumber + 1 := by
  have := d.isDate.2.2.1
  simp only [dayNumber, hy, hm, hd]
  omega

theorem dayNumber_succ_month {d e : Date} (hl : d.day = daysInMonth d.year d.month) (hy : e.year = d.year)
    (hm : e.month = d.month + 1) (hd : e.day = 1) : e.dayNumber = d.dayNumber + 1 := by
  obtain ⟨_, ⟨h1, h2⟩, h3, _⟩ := d.isDate
  simp only [dayNumber, hy, hm, hd, Nat.add_sub_cancel, totalDays_take_month d.year h1 h2]
  omega

theorem dayNumber_succ_of_last {d : Date} (hl : d.day = daysInMonth d.year d.month) (hm : d.month = 12) :
    d.dayNumber + 1 = daysBeforeYear (d.year + 1) := by
  obtain ⟨⟨hy, _⟩, _, h3, _⟩ := d.isDate
  have ht := totalDays_take_month d.year (show 1 ≤ 12 by decide) (by decide)
  have hall : (monthLengths (isLeapYear d.year)).take 12 = monthLengths (isLeapYear d.year) := rfl
  rw [hall] at ht
  rw [daysBeforeYear_succ hy, ht]
  simp only [dayNumber, hm] at hl ⊢
  omega

/-- **The day after a date has the next day number**, as far as the calendar goes. -/
theorem next?_eq (d : Date) :
    d.next? = if h : d.dayNumber + 1 < dayCount then some (ofDayNumber (d.dayNumber + 1) h) else none := by
  obtain ⟨hy, hm, hd1, hd2⟩ := d.isDate
  -- a date with the next number is the next date, and shows that there is one
  have found : ∀ {e : Date}, e.dayNumber = d.dayNumber + 1 →
      some e = if h : d.dayNumber + 1 < dayCount then some (ofDayNumber (d.dayNumber + 1) h) else none := by
    intro e he
    have hlt : d.dayNumber + 1 < dayCount := he ▸ e.dayNumber_lt
    rw [dif_pos hlt, eq_ofDayNumber hlt he]
  unfold next?
  by_cases hday : d.day < daysInMonth d.year d.month
  · rw [if_pos hday, of?_eq_some ⟨hy, hm, by omega, by omega⟩]
    exact found (dayNumber_succ_day rfl rfl rfl)
  · have hlast : d.day = daysInMonth d.year d.month := by omega
    rw [if_neg hday]
    by_cases hmonth : d.month < 12
    · rw [if_pos hmonth, of?_eq_some (isDate_first hy ⟨by omega, by omega⟩)]
      exact found (dayNumber_succ_month hlast rfl rfl rfl)
    · have hdec : d.month = 12 := by omega
      have hnum := dayNumber_succ_of_last hlast hdec
      rw [if_neg hmonth]
      by_cases hyear : d.year < 9999
      · rw [of?_eq_some (isDate_first ⟨by omega, by omega⟩ (by decide))]
        refine found ?_
        rw [hnum]
        simp [dayNumber]
      · have hend : d.year = 9999 := by omega
        have hcount : ¬ d.dayNumber + 1 < dayCount := by
          rw [hnum, hend]
          decide
        rw [dif_neg hcount, of?, dif_neg fun h => by have := h.1.2; omega]

end Date

/-! ## Minutes -/

namespace Instant

/-- The start of the wall-clock minute after the one the instant lies in; none past the end of the calendar. -/
def tick? (i : Instant) : Option Instant :=
  -- what the fields start over with
  let hour : Fin 24 := ⟨0, i.hour.pos⟩
  let minute : Fin 60 := ⟨0, i.minute.pos⟩
  let second : Fin 60 := ⟨0, i.second.pos⟩
  let microsecond : Fin 1000000 := ⟨0, i.microsecond.pos⟩
  if h : i.minute.val + 1 < 60 then some ⟨i.date, i.hour, ⟨i.minute + 1, h⟩, second, microsecond, i.offset⟩
  else if h : i.hour.val + 1 < 24 then some ⟨i.date, ⟨i.hour + 1, h⟩, minute, second, microsecond, i.offset⟩
  else i.date.next?.map fun date => ⟨date, hour, minute, second, microsecond, i.offset⟩

theorem ofMinute_toMinute {i : Instant} (hs : i.second = 0) (hm : i.microsecond = 0) :
    ofMinute i.toMinute i.offset = i := by
  obtain ⟨date, hour, minute, second, microsecond, offset⟩ := i
  simp only at hs hm
  subst hs hm
  have hh := hour.isLt
  have hm := minute.isLt
  have hdate : (date.dayNumber * minutesPerDay + hour * minutesPerHour + minute) / minutesPerDay = date.dayNumber := by
    simp only [minutesPerDay, minutesPerHour]; omega
  simp only [ofMinute, toMinute, Minute.date, hdate, Date.ofDayNumber_dayNumber, Minute.hour, Minute.ofDay,
    Minute.ofHour, mk.injEq, true_and, and_true, Fin.ext_iff]
  simp only [minutesPerDay, minutesPerHour]
  omega

/-- **The minute after an instant has the next number**, as far as the calendar goes. -/
theorem tick?_eq (i : Instant) :
    i.tick? = if h : i.toMinute.number + 1 < minuteCount then some (ofMinute ⟨i.toMinute.number + 1, h⟩ i.offset)
      else none := by
  -- the start of a minute with the next number is the next minute, and shows that there is one
  have found : ∀ {j : Instant}, j.second = 0 → j.microsecond = 0 → j.offset = i.offset →
      j.toMinute.number = i.toMinute.number + 1 →
      some j = if h : i.toMinute.number + 1 < minuteCount then some (ofMinute ⟨i.toMinute.number + 1, h⟩ i.offset)
        else none := by
    intro j hs hm ho hn
    have hlt : i.toMinute.number + 1 < minuteCount := hn ▸ j.toMinute.inCalendar
    have hj : j.toMinute = ⟨i.toMinute.number + 1, hlt⟩ := by
      rw [Minute.mk.injEq]
      exact hn
    rw [dif_pos hlt, ← hj, ← ho, ofMinute_toMinute hs hm]
  simp only [tick?]
  by_cases hminute : i.minute.val + 1 < 60
  · rw [dif_pos hminute]
    exact found rfl rfl rfl (by simp only [toMinute]; omega)
  · have hm := i.minute.isLt
    rw [dif_neg hminute]
    by_cases hhour : i.hour.val + 1 < 24
    · rw [dif_pos hhour]
      exact found rfl rfl rfl (by simp only [toMinute, minutesPerHour]; omega)
    · have hh := i.hour.isLt
      rw [dif_neg hhour, Date.next?_eq]
      have hnum : i.toMinute.number + 1 = (i.date.dayNumber + 1) * minutesPerDay := by
        simp only [toMinute, minutesPerDay, minutesPerHour]; omega
      by_cases hday : i.date.dayNumber + 1 < dayCount
      · rw [dif_pos hday]
        refine found rfl rfl rfl ?_
        rw [hnum]
        simp [toMinute, Date.dayNumber_ofDayNumber]
      · have hcount : ¬ i.toMinute.number + 1 < minuteCount := by
          rw [hnum, minuteCount]
          simp only [minutesPerDay]
          omega
        rw [dif_neg hday, dif_neg hcount]
        rfl

end Instant
end CronSchedule
