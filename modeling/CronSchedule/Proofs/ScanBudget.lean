/-
What a scan of a leap year of minutes can miss: nothing but leap days. A
schedule that restricts the weekday, or that has a month and a day which
some common year has, runs within any 366 days; what is left are schedules
that never run and those that run on the 29th of February alone.

* `exists_run_iff`: when a leap year of minutes holds a run.
* `nextRuns_leapYear`: so what it means when nothing is found in it.
-/
import CronSchedule.Settings.Basic
import CronSchedule.Proofs.DayRule
import CronSchedule.Proofs.Window
import CronSchedule.Proofs.YearWindow

namespace CronSchedule
open Calendar

/-! ## Times of the day -/

/-- A leap year of minutes, wherever it starts, holds every time of the day on 366 days in a row. -/
theorem exists_days_in_window {first : Nat} (h : first + leapYearMinutes ≤ minuteCount) (hour : Fin 24)
    (minute : Fin 60) (offset : Option Offset) :
    ∃ day, day + 366 ≤ dayCount ∧ ∀ d : Date, day ≤ d.dayNumber → d.dayNumber < day + 366 →
      first ≤ (Instant.mk d hour minute 0 0 offset).toMinute.number ∧
        (Instant.mk d hour minute 0 0 offset).toMinute.number < first + leapYearMinutes := by
  have hh := hour.isLt
  have hm := minute.isLt
  simp only [leapYearMinutes, minuteCount, minutesPerDay] at h
  -- the first day on which this time of the day is not before the first minute
  refine ⟨(first + 1439 - (hour * 60 + minute)) / 1440, by omega, ?_⟩
  intro d h1 h2
  simp only [Instant.toMinute, minutesPerDay, minutesPerHour, leapYearMinutes]
  omega

namespace Schedule

variable {s : Schedule} {offset : Option Offset}

theorem admits_iff {i : Instant} :
    s.admits i = true ↔ ((i.date.month : Int) ∈ s.months ∧ s.onDay i.date.day i.date.weekday = true) ∧
      (i.hour.val : Int) ∈ s.hours ∧ (i.minute.val : Int) ∈ s.minutes := by
  simp [admits, onDate, onHour, onMinute, and_assoc]

theorem mem_runsIn_of_start {first length : Nat} {i : Instant} (hs : i.second = 0) (hm : i.microsecond = 0)
    (h1 : first ≤ i.toMinute.number) (h2 : i.toMinute.number < first + length) (ha : s.admits i = true) :
    i ∈ s.runsIn i.offset first length :=
  mem_runsIn.mpr ⟨i.toMinute, h1, h2, (Instant.ofMinute_toMinute hs hm).symm, ha⟩

/-! ## What a schedule that was read holds -/

theorem Held.exists_fin {spec : FieldSpec} {vs : List Int} (h : spec.Held vs) (hl : 0 ≤ spec.low) :
    ∃ n : Nat, (n : Int) ∈ vs ∧ spec.low ≤ n ∧ (n : Int) ≤ spec.high := by
  obtain ⟨v, hv⟩ := List.exists_mem_of_ne_nil vs h.nonempty
  obtain ⟨h1, h2⟩ := h.inRange v hv
  obtain ⟨n, rfl⟩ := Int.eq_ofNat_of_zero_le (Int.le_trans hl h1)
  exact ⟨n, hv, h1, h2⟩

theorem WellFormed.exists_time (hw : s.WellFormed) :
    ∃ (hour : Fin 24) (minute : Fin 60), (hour.val : Int) ∈ s.hours ∧ (minute.val : Int) ∈ s.minutes := by
  obtain ⟨hour, hhour, _, h24⟩ := Held.exists_fin (hw .hour) (by decide)
  obtain ⟨minute, hminute, _, h60⟩ := Held.exists_fin (hw .minute) (by decide)
  have h24 : (hour : Int) ≤ 23 := h24
  have h60 : (minute : Int) ≤ 59 := h60
  exact ⟨⟨hour, by omega⟩, ⟨minute, by omega⟩, hhour, hminute⟩

/-! ## The window -/

/-- Some month and some day of the month in the schedule are a date of a common year. -/
def HasCommonDate (s : Schedule) : Prop :=
  ∃ year month day : Nat, (month : Int) ∈ s.months ∧ (day : Int) ∈ s.daysOfMonth ∧ IsDate year month day ∧
    isLeapYear year = false

/-- The 29th of February is in the schedule, and so is a minute of such a day among the `length` minutes from `first`
on. -/
def HasLeapDay (s : Schedule) (first length : Nat) : Prop :=
  (2 : Int) ∈ s.months ∧ (29 : Int) ∈ s.daysOfMonth ∧ ∃ m : Minute, first ≤ m.number ∧ m.number < first + length ∧
    m.date.month = 2 ∧ m.date.day = 29 ∧ (m.hour : Int) ∈ s.hours ∧ (m.ofHour : Int) ∈ s.minutes

theorem hasCommonDate_of {month day : Nat} (hm : (month : Int) ∈ s.months) (hd : (day : Int) ∈ s.daysOfMonth)
    (h : IsCommonDate month day) : s.HasCommonDate :=
  ⟨1, month, day, hm, hd, h.isDate (by decide), by decide⟩

theorem WellFormed.pair_of_admits (hw : s.WellFormed) (h : s.everyWeekday = true) {i : Instant}
    (ha : s.admits i = true) :
    s.HasCommonDate ∨ (2 : Int) ∈ s.months ∧ (29 : Int) ∈ s.daysOfMonth ∧ i.date.month = 2 ∧ i.date.day = 29 := by
  obtain ⟨⟨hmonth, hday⟩, _⟩ := admits_iff.mp ha
  have hdate := i.date.isDate
  have hle := hdate.day_le
  rw [hw.onDay_iff h ⟨by have := hdate.2.2.1; omega, by omega⟩] at hday
  rcases hdate.common_or_leapDay with hc | ⟨hfeb, h29⟩
  · exact .inl (hasCommonDate_of hmonth hday hc)
  · rw [hfeb] at hmonth
    rw [h29] at hday
    exact .inr ⟨hmonth, hday, hfeb, h29⟩

theorem WellFormed.exists_run_of_dates (hw : s.WellFormed) {first : Nat}
    (hf : first + leapYearMinutes ≤ minuteCount)
    (h : ∀ day, day + 366 ≤ dayCount → ∃ d : Date, day ≤ d.dayNumber ∧ d.dayNumber < day + 366 ∧
      (d.month : Int) ∈ s.months ∧ s.onDay d.day d.weekday = true) :
    ∃ i, i ∈ s.runsIn offset first leapYearMinutes := by
  obtain ⟨hour, minute, hhour, hminute⟩ := hw.exists_time
  obtain ⟨day, hday, hwindow⟩ := exists_days_in_window hf hour minute offset
  obtain ⟨d, h1, h2, hmonth, hrule⟩ := h day hday
  obtain ⟨hlo, hhi⟩ := hwindow d h1 h2
  have ha : s.admits ⟨d, hour, minute, 0, 0, offset⟩ = true := admits_iff.mpr ⟨⟨hmonth, hrule⟩, hhour, hminute⟩
  exact ⟨_, mem_runsIn_of_start rfl rfl hlo hhi ha⟩

/-- A schedule that restricts the weekday runs in every leap year of minutes. -/
theorem WellFormed.exists_run_of_weekday (hw : s.WellFormed) {first : Nat}
    (hf : first + leapYearMinutes ≤ minuteCount) (h : s.everyWeekday = false) :
    ∃ i, i ∈ s.runsIn offset first leapYearMinutes := by
  obtain ⟨month, hmonth, hm1, hm2⟩ := Held.exists_fin (hw .month) (by decide)
  obtain ⟨w, hweekday, _, hw6⟩ := Held.exists_fin (hw .dayOfWeek) (by decide)
  have hm1 : (1 : Int) ≤ month := hm1
  have hm2 : (month : Int) ≤ 12 := hm2
  have hw6 : (w : Int) ≤ 6 := hw6
  have hm : 1 ≤ month ∧ month ≤ 12 := ⟨by omega, by omega⟩
  have hw7 : w < 7 := by omega
  refine hw.exists_run_of_dates hf fun day hday => ?_
  obtain ⟨d, hdm, hdw, h1, h2⟩ := Date.exists_weekday_in_window hm hw7 hday
  exact ⟨d, h1, h2, by rw [hdm]; exact hmonth, onDay_of_weekday h (by rw [hdw]; exact hweekday)⟩

theorem WellFormed.exists_run_of_date (hw : s.WellFormed) {first : Nat}
    (hf : first + leapYearMinutes ≤ minuteCount) (h : s.everyWeekday = true) (hc : s.HasCommonDate) :
    ∃ i, i ∈ s.runsIn offset first leapYearMinutes := by
  obtain ⟨year, month, dom, hmonth, hdom, hdate, hleap⟩ := hc
  refine hw.exists_run_of_dates hf fun day hday => ?_
  obtain ⟨d, hdm, hdd, h1, h2⟩ := Date.exists_in_window (hdate.isCommonDate hleap) hday
  have hle := hdate.day_le
  refine ⟨d, h1, h2, by rw [hdm]; exact hmonth, ?_⟩
  rw [hdd, hw.onDay_iff h ⟨by have := hdate.2.2.1; omega, by omega⟩]
  exact hdom

theorem WellFormed.exists_run_of_leapDay (hw : s.WellFormed) {first length : Nat} (h : s.everyWeekday = true)
    (hl : s.HasLeapDay first length) : ∃ i, i ∈ s.runsIn offset first length := by
  obtain ⟨hfeb, h29, m, h1, h2, hmonth, hday, hhour, hminute⟩ := hl
  refine ⟨.ofMinute m offset, mem_runsIn.mpr ⟨m, h1, h2, rfl, admits_iff.mpr ⟨⟨?_, ?_⟩, hhour, hminute⟩⟩⟩
  · show (m.date.month : Int) ∈ s.months
    rw [hmonth]
    exact hfeb
  · show s.onDay m.date.day _ = true
    rw [hday, hw.onDay_iff h (by decide)]
    exact h29

theorem hasLeapDay_of_run {first length : Nat} {i : Instant} (hi : i ∈ s.runsIn offset first length)
    (hfeb : (2 : Int) ∈ s.months) (h29 : (29 : Int) ∈ s.daysOfMonth) (hmonth : i.date.month = 2)
    (hday : i.date.day = 29) : s.HasLeapDay first length := by
  obtain ⟨m, h1, h2, rfl, ha⟩ := mem_runsIn.mp hi
  obtain ⟨_, hhour, hminute⟩ := admits_iff.mp ha
  exact ⟨hfeb, h29, m, h1, h2, hmonth, hday, hhour, hminute⟩

/-- **A leap year of minutes holds a run** just if the weekday is restricted, some common year has a date of the
schedule, or a leap day of the schedule lies in it. -/
theorem WellFormed.exists_run_iff (hw : s.WellFormed) {first : Nat} (hf : first + leapYearMinutes ≤ minuteCount) :
    (∃ i, i ∈ s.runsIn offset first leapYearMinutes) ↔
      s.everyWeekday = false ∨ s.HasCommonDate ∨ s.HasLeapDay first leapYearMinutes := by
  cases hopen : s.everyWeekday with
  | false =>
    refine ⟨fun _ => .inl rfl, fun _ => hw.exists_run_of_weekday hf hopen⟩
  | true =>
    refine ⟨fun h => ?_, fun h => ?_⟩
    · obtain ⟨i, hi⟩ := h
      obtain ⟨_, _, _, _, ha⟩ := mem_runsIn.mp hi
      rcases hw.pair_of_admits hopen ha with hc | ⟨hfeb, h29, hmonth, hday⟩
      · exact .inr (.inl hc)
      · exact .inr (.inr (hasLeapDay_of_run hi hfeb h29 hmonth hday))
    · rcases h with h | hc | hl
      · cases h
      · exact hw.exists_run_of_date hf hopen hc
      · exact hw.exists_run_of_leapDay hopen hl

/-- What runs without restricting the weekday and without a common date runs on leap days alone. -/
theorem WellFormed.leapDay_of_admits (hw : s.WellFormed) (hopen : s.everyWeekday = true) (hc : ¬ s.HasCommonDate)
    {i : Instant} (ha : s.admits i = true) : i.date.month = 2 ∧ i.date.day = 29 := by
  rcases hw.pair_of_admits hopen ha with h | ⟨_, _, h⟩
  · exact absurd h hc
  · exact h

/-- **The usual scan misses nothing but leap days.** Where all its minutes exist, it finds a run just if the weekday is
restricted, some common year has a date of the schedule, or a minute of the schedule on a leap day is among those
scanned. So a schedule for which it finds nothing never runs, or runs on leap days alone. -/
theorem nextRuns_leapYear {t : Text} {e : Expression} (h : Expression.read t = .ok e) {start : Instant} {count : Int}
    (hcount : 1 ≤ count) (hstart : start.toMinute.number + leapYearMinutes < minuteCount) :
    ∃ runs, e.schedule.nextRuns start count leapYearMinutes = .ok runs ∧
      (runs ≠ [] ↔ e.schedule.everyWeekday = false ∨ e.schedule.HasCommonDate ∨
        e.schedule.HasLeapDay (start.toMinute.number + 1) leapYearMinutes) ∧
      (runs = [] → ∀ i, e.schedule.admits i = true → i.date.month = 2 ∧ i.date.day = 29) := by
  have hw := Expression.read_wellFormed h
  have hfits : start.toMinute.number + 1 + leapYearMinutes ≤ minuteCount := by omega
  have hfirst : start.toMinute.number + 1 < minuteCount := by
    have : 0 < leapYearMinutes := by decide
    omega
  have hfound : (e.schedule.runsIn start.offset (start.toMinute.number + 1) leapYearMinutes).take count.toNat ≠ [] ↔
      ∃ i, i ∈ e.schedule.runsIn start.offset (start.toMinute.number + 1) leapYearMinutes := by
    rw [ne_eq, List.take_eq_nil_iff, not_or]
    refine ⟨fun h => List.exists_mem_of_ne_nil _ h.2, fun h => ?_⟩
    obtain ⟨i, hi⟩ := h
    exact ⟨by omega, List.ne_nil_of_mem hi⟩
  rw [hw.exists_run_iff hfits] at hfound
  refine ⟨_, ?_, hfound, ?_⟩
  · exact nextRuns_eq_take hfirst hfits
  · intro hnone i ha
    have hopen : e.schedule.everyWeekday = true :=
      (Bool.not_eq_false _).mp fun hrestricts => hfound.mpr (.inl hrestricts) hnone
    have hnever : ¬ e.schedule.HasCommonDate := fun hc => hfound.mpr (.inr (.inl hc)) hnone
    exact hw.leapDay_of_admits hopen hnever ha

/-- The leap day may be the last minute that is scanned. -/
theorem nextRuns_leapYear_lastMinute :
    ∃ runs, Schedule.nextRuns ⟨[30], [2], [29], [2], [0, 1, 2, 3, 4, 5, 6]⟩
      ⟨⟨2023, 2, 28, by decide⟩, 2, 30, 0, 0, none⟩ 1 leapYearMinutes = .ok runs ∧ runs ≠ [] := by
  let fields : Fields := ⟨"30".toList, "2".toList, "29".toList, "feb".toList, "*".toList⟩
  let leapDay : Instant := ⟨⟨2024, 2, 29, by decide⟩, 2, 30, 0, 0, none⟩
  have hread : Expression.read "30 2 29 feb *".toList =
      .ok ⟨fields, ⟨[30], [2], [29], [2], [0, 1, 2, 3, 4, 5, 6]⟩⟩ := by rfl
  obtain ⟨runs, hruns, hsome, _⟩ := @nextRuns_leapYear _ _ hread ⟨⟨2023, 2, 28, by decide⟩, 2, 30, 0, 0, none⟩ 1
    (by decide) (by decide)
  refine ⟨runs, hruns, hsome.mpr (.inr (.inr ⟨by decide, by decide, leapDay.toMinute, ?_⟩))⟩
  exact ⟨by decide, by decide, by decide +kernel, by decide +kernel, by decide +kernel, by decide +kernel⟩

end Schedule
end CronSchedule
