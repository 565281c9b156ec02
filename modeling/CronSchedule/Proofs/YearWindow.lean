/-
A window of 366 days, anywhere in the calendar: it holds every date of a
common year, and in every month a day of each weekday. A month may be cut
in two by the window, at its first day or within its first week; then the
days after that week serve.

* `Date.exists_in_window`: each month and day of a common year.
* `Date.exists_weekday_in_window`: each weekday in each month.
-/
import CronSchedule.Proofs.Tick

namespace CronSchedule
open Calendar

/-- The month has this day in every year. -/
def IsCommonDate (month day : Nat) : Prop :=
  (1 ≤ month ∧ month ≤ 12) ∧ 1 ≤ day ∧ day ≤ (monthLengths false).getD (month - 1) 0

theorem monthLengths_getD_mono (leap : Bool) {m : Nat} (h : m < 12) :
    (monthLengths false).getD m 0 ≤ (monthLengths leap).getD m 0 := by
  have hall : ∀ leap : Bool, ∀ m < 12, (monthLengths false).getD m 0 ≤ (monthLengths leap).getD m 0 := by decide
  exact hall leap m h

theorem totalDays_take_leap {m : Nat} (h : m < 12) (leap : Bool) :
    totalDays ((monthLengths false).take m) ≤ totalDays ((monthLengths leap).take m) ∧
      totalDays ((monthLengths leap).take m) ≤ totalDays ((monthLengths false).take m) + 1 := by
  have hall : ∀ leap : Bool, ∀ m < 12,
      totalDays ((monthLengths false).take m) ≤ totalDays ((monthLengths leap).take m) ∧
      totalDays ((monthLengths leap).take m) ≤ totalDays ((monthLengths false).take m) + 1 := by decide
  exact hall leap m h

theorem totalDays_take_le {m : Nat} (h : m < 12) (leap : Bool) : totalDays ((monthLengths leap).take m) ≤ 335 := by
  have hall : ∀ leap : Bool, ∀ m < 12, totalDays ((monthLengths leap).take m) ≤ 335 := by decide
  exact hall leap m h

theorem IsCommonDate.isDate {month day year : Nat} (h : IsCommonDate month day) (hy : 1 ≤ year ∧ year ≤ 9999) :
    IsDate year month day := by
  obtain ⟨hm, hd, hl⟩ := h
  exact ⟨hy, hm, hd, Nat.le_trans hl (monthLengths_getD_mono _ (by omega))⟩

theorem isCommonDate_of_le {month day : Nat} (hm : 1 ≤ month ∧ month ≤ 12) (hd : 1 ≤ day ∧ day ≤ 28) :
    IsCommonDate month day := by
  have hall : ∀ m < 12, 28 ≤ (monthLengths false).getD m 0 := by decide
  exact ⟨hm, hd.1, Nat.le_trans hd.2 (hall (month - 1) (by omega))⟩

theorem IsDate.day_le {month day year : Nat} (h : IsDate year month day) : day ≤ 31 := by
  have hall : ∀ leap : Bool, ∀ m < 12, (monthLengths leap).getD m 0 ≤ 31 := by decide
  obtain ⟨_, ⟨hm1, hm2⟩, _, hle⟩ := h
  exact Nat.le_trans hle (hall (isLeapYear year) (month - 1) (by omega))

theorem IsDate.isCommonDate {month day year : Nat} (h : IsDate year month day) (hl : isLeapYear year = false) :
    IsCommonDate month day := by
  obtain ⟨_, hm, hd, hle⟩ := h
  rw [daysInMonth, hl] at hle
  exact ⟨hm, hd, hle⟩

theorem IsDate.common_or_leapDay {month day year : Nat} (h : IsDate year month day) :
    IsCommonDate month day ∨ month = 2 ∧ day = 29 := by
  obtain ⟨_, ⟨hm1, hm2⟩, hd, hle⟩ := h
  have hall : ∀ leap : Bool, ∀ m < 12, (monthLengths leap).getD m 0 ≤ (monthLengths false).getD m 0 ∨
      m = 1 ∧ (monthLengths leap).getD m 0 ≤ 29 ∧ (monthLengths false).getD m 0 = 28 := by decide
  rcases hall (isLeapYear year) (month - 1) (by omega) with hc | ⟨hfeb, h29, h28⟩
  · exact .inl ⟨⟨hm1, hm2⟩, hd, Nat.le_trans hle hc⟩
  · by_cases hday : day ≤ 28
    · exact .inl ⟨⟨hm1, hm2⟩, hd, h28 ▸ hday⟩
    · exact .inr ⟨by omega, by have := Nat.le_trans hle h29; omega⟩

namespace Date

theorem year_length (year : Nat) (h : 1 ≤ year) :
    daysBeforeYear year + 365 ≤ daysBeforeYear (year + 1) ∧ daysBeforeYear (year + 1) ≤ daysBeforeYear year + 366 := by
  rw [daysBeforeYear_succ h, totalDays_monthLengths]
  split <;> omega

/-- Of two years in a row one is common. -/
theorem isLeapYear_succ {year : Nat} (h : isLeapYear year = true) : isLeapYear (year + 1) = false := by
  rw [isLeapYear_iff] at h
  refine Bool.eq_false_iff.mpr fun h' => ?_
  rw [isLeapYear_iff] at h'
  omega

theorem dayNumber_next_year {d e : Date} (hy : e.year = d.year + 1) (hm : e.month = d.month) (hd : e.day = d.day) :
    d.dayNumber + 365 ≤ e.dayNumber ∧ e.dayNumber ≤ d.dayNumber + 366 := by
  obtain ⟨⟨h1, _⟩, ⟨hm1, hm2⟩, _⟩ := d.isDate
  have hmonth : d.month - 1 < 12 := by omega
  have hsucc := daysBeforeYear_succ h1
  rw [totalDays_monthLengths] at hsucc
  simp only [dayNumber, hy, hm, hd, hsucc]
  cases hleap : isLeapYear d.year with
  | true =>
    have := totalDays_take_leap hmonth true
    simp only [isLeapYear_succ hleap, if_true]
    omega
  | false =>
    have := totalDays_take_leap hmonth (isLeapYear (d.year + 1))
    simp only [Bool.false_eq_true, if_false]
    omega

theorem exists_of_common {month day year : Nat} (h : IsCommonDate month day) (hy : 1 ≤ year ∧ year ≤ 9999) :
    ∃ d : Date, d.year = year ∧ d.month = month ∧ d.day = day :=
  ⟨⟨year, month, day, h.isDate hy⟩, rfl, rfl, rfl⟩

/-- **A window of 366 days holds every date of a common year.** -/
theorem exists_in_window {month day start : Nat} (h : IsCommonDate month day) (hs : start + 366 ≤ dayCount) :
    ∃ d : Date, d.month = month ∧ d.day = day ∧ start ≤ d.dayNumber ∧ d.dayNumber < start + 366 := by
  have hlt : start < dayCount := by omega
  obtain ⟨hlo, hhi⟩ := (ofDayNumber start hlt).dayNumber_bounds
  obtain ⟨hy, _⟩ := (ofDayNumber start hlt).isDate
  rw [dayNumber_ofDayNumber] at hlo hhi
  generalize (ofDayNumber start hlt).year = year at hlo hhi hy
  -- the date in the year of the first day, and if it is over by then the one in the next year
  obtain ⟨d, hdy, hdm, hdd⟩ := exists_of_common h hy
  have hd := d.dayNumber_bounds
  rw [hdy] at hd
  have hlen := year_length year hy.1
  by_cases hle : start ≤ d.dayNumber
  · exact ⟨d, hdm, hdd, hle, by omega⟩
  · have hnext : year < 9999 := by
      refine Decidable.byContradiction fun hn => ?_
      obtain rfl : year = 9999 := by omega
      have hcount : daysBeforeYear (9999 + 1) = dayCount := by decide
      omega
    obtain ⟨e, hey, hem, hed⟩ := exists_of_common h (show 1 ≤ year + 1 ∧ year + 1 ≤ 9999 by omega)
    have hyear := dayNumber_next_year (hey.trans (by rw [hdy])) (hem.trans hdm.symm) (hed.trans hdd.symm)
    have he := e.dayNumber_bounds
    rw [hey] at he
    exact ⟨e, hem, hed, by omega, by omega⟩

/-- Of seven days in a row within the first 28 of a month one is the weekday that is sought. -/
theorem exists_weekday {d : Date} (h : d.day + 6 ≤ 28) {w : Nat} (hw : w < 7) :
    ∃ e : Date, e.month = d.month ∧ e.weekday = w ∧ d.dayNumber ≤ e.dayNumber ∧ e.dayNumber ≤ d.dayNumber + 6 := by
  obtain ⟨hy, hm, hd, _⟩ := d.isDate
  obtain ⟨k, hk, hmod⟩ : ∃ k ≤ 6, (d.dayNumber + k + 1) % 7 = w :=
    ⟨(w + 7 - (d.dayNumber + 1) % 7) % 7, by omega, by omega⟩
  have hcommon : IsCommonDate d.month (d.day + k) := isCommonDate_of_le hm ⟨by omega, by omega⟩
  obtain ⟨e, hey, hem, hed⟩ := exists_of_common hcommon hy
  have he : e.dayNumber = d.dayNumber + k := by
    simp only [dayNumber, hey, hem, hed]
    omega
  exact ⟨e, hem, by rw [weekday, he]; exact hmod, by omega, by omega⟩

/-- **A window of 366 days holds a day of each weekday in each month.** -/
theorem exists_weekday_in_window {month w start : Nat} (hm : 1 ≤ month ∧ month ≤ 12) (hw : w < 7)
    (hs : start + 366 ≤ dayCount) :
    ∃ d : Date, d.month = month ∧ d.weekday = w ∧ start ≤ d.dayNumber ∧ d.dayNumber < start + 366 := by
  obtain ⟨first, hmonth, hday, hlo, hhi⟩ := exists_in_window (isCommonDate_of_le hm ⟨Nat.le_refl 1, by decide⟩) hs
  by_cases hweek : first.dayNumber + 6 < start + 366
  · obtain ⟨d, h1, h2, h3, h4⟩ := exists_weekday (show first.day + 6 ≤ 28 by omega) hw
    exact ⟨d, h1.trans hmonth, h2, by omega, by omega⟩
  · -- the month starts at the end of the window, so its second week a year before lies in it
    obtain ⟨⟨hy1, hy2⟩, _⟩ := first.isDate
    have hyear : 2 ≤ first.year := by
      refine Decidable.byContradiction fun hn => ?_
      have hone : first.year = 1 := by omega
      have hsum := totalDays_take_le (show first.month - 1 < 12 by omega) (isLeapYear first.year)
      have hnum : first.dayNumber = daysBeforeYear first.year +
          totalDays ((monthLengths (isLeapYear first.year)).take (first.month - 1)) + (first.day - 1) := rfl
      have hzero : daysBeforeYear first.year = 0 := by rw [hone, daysBeforeYear_one]
      omega
    have hbefore : 1 ≤ first.year - 1 ∧ first.year - 1 ≤ 9999 := by omega
    obtain ⟨c, hcy, hcm, hcd⟩ := exists_of_common (isCommonDate_of_le hm (show 1 ≤ 1 ∧ 1 ≤ 28 by decide)) hbefore
    obtain ⟨d, hdy, hdm, hdd⟩ := exists_of_common (isCommonDate_of_le hm (show 1 ≤ 7 ∧ 7 ≤ 28 by decide)) hbefore
    have hyearly := dayNumber_next_year (d := c) (e := first) (by omega) (hmonth.trans hcm.symm) (hday.trans hcd.symm)
    have hweekly : d.dayNumber = c.dayNumber + 6 := by simp only [dayNumber, hcy, hcm, hcd, hdy, hdm, hdd]
    obtain ⟨e, h1, h2, h3, h4⟩ := exists_weekday (show d.day + 6 ≤ 28 by omega) hw
    exact ⟨e, h1.trans hdm, h2, by omega, by omega⟩

end Date
end CronSchedule
