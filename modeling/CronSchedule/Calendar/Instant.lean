/-
Wall-clock minutes and instants. A minute is its number, counted from the
start of the calendar; an instant is a date and a time of day with an
offset from universal time, if it has one. Moving in time changes the
wall-clock minute and keeps the offset.

* `Instant.toMinute_ofMinute`: the instant at a minute lies in that minute.
-/
import CronSchedule.Calendar.Date

namespace CronSchedule

def minutesPerDay : Nat := 1440

def minutesPerHour : Nat := 60

/-- How many minutes the calendar has. -/
def minuteCount : Nat := dayCount * minutesPerDay

/-- A wall-clock minute of the calendar, by its number. -/
structure Minute where
  number : Nat
  inCalendar : number < minuteCount
deriving DecidableEq, Repr

namespace Minute

/-- The minutes since midnight. -/
def ofDay (m : Minute) : Nat := m.number % minutesPerDay

/-- The minutes since the full hour. -/
def ofHour (m : Minute) : Nat := m.number % minutesPerHour

def hour (m : Minute) : Nat := m.ofDay / minutesPerHour

/-- The minutes up to the next midnight. -/
def toMidnight (m : Minute) : Nat := minutesPerDay - m.ofDay

/-- The minutes up to the next full hour. -/
def toFullHour (m : Minute) : Nat := minutesPerHour - m.ofHour

theorem toMidnight_pos (m : Minute) : 0 < m.toMidnight := Nat.sub_pos_of_lt (Nat.mod_lt _ (by decide))

theorem toFullHour_pos (m : Minute) : 0 < m.toFullHour := Nat.sub_pos_of_lt (Nat.mod_lt _ (by decide))

theorem day_lt (m : Minute) : m.number / minutesPerDay < dayCount :=
  Nat.div_lt_of_lt_mul (Nat.mul_comm .. ▸ m.inCalendar)

def date (m : Minute) : Date := Date.ofDayNumber (m.number / minutesPerDay) m.day_lt

theorem ofHour_lt (m : Minute) : m.ofHour < 60 := Nat.mod_lt _ (by decide)

theorem hour_lt (m : Minute) : m.hour < 24 := by
  have : m.ofDay < 1440 := Nat.mod_lt _ (by decide)
  simp only [hour, minutesPerHour]; omega

/-- The date does not change before midnight. -/
theorem date_eq {m n : Minute} (h1 : m.number ≤ n.number) (h2 : n.number < m.number + m.toMidnight) :
    n.date = m.date := by
  have : n.number / minutesPerDay = m.number / minutesPerDay := by
    simp only [Minute.toMidnight, Minute.ofDay, minutesPerDay] at *; omega
  simp only [Minute.date, this]

/-- The hour does not change before the full hour. -/
theorem hour_eq {m n : Minute} (h1 : m.number ≤ n.number) (h2 : n.number < m.number + m.toFullHour) :
    n.hour = m.hour := by
  simp only [Minute.toFullHour, Minute.ofHour, minutesPerHour, Minute.hour, Minute.ofDay, minutesPerDay] at *; omega

theorem toMidnight_le (m : Minute) : m.number + m.toMidnight ≤ minuteCount := by
  have := m.inCalendar
  simp only [Minute.toMidnight, Minute.ofDay, minutesPerDay, minuteCount, dayCount] at *; omega

theorem toFullHour_le (m : Minute) : m.number + m.toFullHour ≤ minuteCount := by
  have := m.inCalendar
  simp only [Minute.toFullHour, Minute.ofHour, minutesPerHour, minutesPerDay, minuteCount, dayCount] at *; omega

end Minute

/-- An offset from universal time, less than a day either way. -/
structure Offset where
  seconds : Int
  inRange : -86400 < seconds ∧ seconds < 86400
deriving DecidableEq, Repr

/-- A point of wall-clock time. -/
structure Instant where
  date : Date
  hour : Fin 24
  minute : Fin 60
  second : Fin 60
  microsecond : Fin 1000000
  offset : Option Offset
deriving DecidableEq, Repr

namespace Instant

/-- The instant with these fields and this offset in seconds; none if one of them is out of range. -/
def of? (year month day hour minute second microsecond : Nat) (offset : Option Int) : Option Instant := do
  let date ← Date.of? year month day
  let offset ← match offset with
    | none => some none
    | some s => if h : -86400 < s ∧ s < 86400 then some (some ⟨s, h⟩) else none
  if h : hour < 24 ∧ minute < 60 ∧ second < 60 ∧ microsecond < 1000000 then
    some ⟨date, ⟨hour, h.1⟩, ⟨minute, h.2.1⟩, ⟨second, h.2.2.1⟩, ⟨microsecond, h.2.2.2⟩, offset⟩
  else none

/-- The wall-clock minute an instant lies in. -/
def toMinute (i : Instant) : Minute :=
  ⟨i.date.dayNumber * minutesPerDay + i.hour * minutesPerHour + i.minute, by
    have hd := i.date.dayNumber_lt
    have hh := i.hour.isLt
    have hm := i.minute.isLt
    simp only [minuteCount, minutesPerDay, minutesPerHour]
    omega⟩

/-- The start of a wall-clock minute. -/
def ofMinute (m : Minute) (offset : Option Offset) : Instant :=
  ⟨m.date, ⟨m.hour, m.hour_lt⟩, ⟨m.ofHour, m.ofHour_lt⟩, 0, 0, offset⟩

theorem toMinute_ofMinute (m : Minute) (offset : Option Offset) : (ofMinute m offset).toMinute = m := by
  cases m with
  | mk number h =>
    simp only [toMinute, ofMinute, Minute.date, Date.dayNumber_ofDayNumber, Minute.hour, Minute.ofDay, Minute.ofHour,
      minutesPerDay, minutesPerHour, Minute.mk.injEq]
    omega

end Instant
end CronSchedule
