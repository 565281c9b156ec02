/-
The runs of a schedule after an instant. A cursor looks for them one at a
time. It examines wall-clock minutes from the minute after the start on,
as many as its budget allows, and passes over the rest of a day or of an
hour at once when no minute of it can match; what it passes over counts
against the budget. A minute past the end of the calendar cannot be
formed, and the first one is formed whatever the budget is.
-/
import CronSchedule.Schedule
import CronSchedule.Calendar.Instant

namespace CronSchedule

/-- A minute past the end of the calendar was asked for. -/
structure CalendarEnd where
deriving DecidableEq, Repr

def CalendarEnd.message (_ : CalendarEnd) : Text := "date value out of range".toList

namespace Schedule

/-- The month and the day rule hold on a date. -/
def onDate (s : Schedule) (d : Date) : Bool := s.months.contains d.month && s.onDay d.day d.weekday

def onHour (s : Schedule) (hour : Nat) : Bool := s.hours.contains hour

def onMinute (s : Schedule) (minute : Nat) : Bool := s.minutes.contains minute

/-- The schedule runs in the wall-clock minute of the instant. -/
def admits (s : Schedule) (i : Instant) : Bool := s.onDate i.date && s.onHour i.hour && s.onMinute i.minute

/-- The first minute from `next` on in which the schedule runs, and the budget left after it. -/
def search (s : Schedule) (next budget : Nat) : Except CalendarEnd (Option (Minute × Nat)) :=
  if budget = 0 then .ok none
  else if h : next < minuteCount then
    let m : Minute := ⟨next, h⟩
    if !s.onDate m.date then s.search (next + m.toMidnight) (budget - m.toMidnight)
    else if !s.onHour m.hour then s.search (next + m.toFullHour) (budget - m.toFullHour)
    else if s.onMinute m.ofHour then .ok (some (m, budget - 1))
    else s.search (next + 1) (budget - 1)
  else .error ⟨⟩
termination_by budget
decreasing_by
  · have := Minute.toMidnight_pos ⟨next, h⟩
    omega
  · have := Minute.toFullHour_pos ⟨next, h⟩
    omega
  · omega

end Schedule

/-- A lazy run list: not looked at yet, on its way, or at its end. -/
inductive Cursor where
  | fresh (schedule : Schedule) (start : Instant) (limit : Int)
  | running (schedule : Schedule) (offset : Option Offset) (next budget : Nat)
  | finished
deriving DecidableEq, Repr

namespace Cursor

/-- The next run from the minute `next` on, and the cursor after it. -/
def seek (s : Schedule) (offset : Option Offset) (next budget : Nat) :
    Except CalendarEnd (Option Instant) × Cursor :=
  match s.search next budget with
  | .ok (some (m, left)) => (.ok (some (.ofMinute m offset)), .running s offset (m.number + 1) left)
  | .ok none => (.ok none, .finished)
  | .error e => (.error e, .finished)

/-- The next run, none at the end, and the cursor after it. A cursor that has failed is at its end. -/
def pull : Cursor → Except CalendarEnd (Option Instant) × Cursor
  | .fresh s start limit =>
    let first := start.toMinute.number + 1
    if first < minuteCount then seek s start.offset first limit.toNat else (.error ⟨⟩, .finished)
  | .running s offset next budget => seek s offset next budget
  | .finished => (.ok none, .finished)

/-- The next `count` runs, fewer if the cursor comes to its end. -/
def runs : Nat → Cursor → Except CalendarEnd (List Instant)
  | 0, _ => .ok []
  | count + 1, c =>
    match c.pull with
    | (.ok (some run), rest) => (runs count rest).map (run :: ·)
    | (.ok none, _) => .ok []
    | (.error e, _) => .error e

end Cursor

/-- The first `count` runs after `start`, of those among the next `limit` minutes. -/
def Schedule.nextRuns (s : Schedule) (start : Instant) (count limit : Int) : Except CalendarEnd (List Instant) :=
  (Cursor.fresh s start limit).runs count.toNat

end CronSchedule
