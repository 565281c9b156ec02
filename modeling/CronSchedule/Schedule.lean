/-
Schedules: the values of the five fields, and the rule that combines the
two day fields. A day field that holds as many values as it has does not
restrict anything. If both day fields restrict, a date needs only one of
them.
-/
import CronSchedule.Field.Spec

namespace CronSchedule

/-- The values of the five fields. -/
structure Schedule where
  minutes : List Int
  hours : List Int
  daysOfMonth : List Int
  months : List Int
  daysOfWeek : List Int
deriving DecidableEq, Repr

namespace Schedule

/-- The values of one field. -/
def values (s : Schedule) : FieldName → List Int
  | .minute => s.minutes
  | .hour => s.hours
  | .dayOfMonth => s.daysOfMonth
  | .month => s.months
  | .dayOfWeek => s.daysOfWeek

/-- The day of the month does not restrict the schedule. -/
def everyDay (s : Schedule) : Bool := s.daysOfMonth.length == FieldSpec.dayOfMonth.size

/-- The day of the week does not restrict the schedule. -/
def everyWeekday (s : Schedule) : Bool := s.daysOfWeek.length == FieldSpec.dayOfWeek.size

/-- The day rule, for a day of the month and a day of the week (Sunday is 0). -/
def onDay (s : Schedule) (day weekday : Int) : Bool :=
  match s.everyDay, s.everyWeekday with
  | true, true => true
  | true, false => s.daysOfWeek.contains weekday
  | false, true => s.daysOfMonth.contains day
  | false, false => s.daysOfMonth.contains day || s.daysOfWeek.contains weekday

end Schedule
end CronSchedule
