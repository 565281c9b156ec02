/-
Levels of log records: the names a level may be given by, and the two
levels at which this library makes records.
-/
import CronSchedule.Text.Upper

namespace CronSchedule.Log

/-- The level names and their numbers. -/
def levelNames : List (Text × Nat) := [
  ("CRITICAL".toList, 50), ("FATAL".toList, 50), ("ERROR".toList, 40), ("WARNING".toList, 30), ("WARN".toList, 30),
  ("INFO".toList, 20), ("DEBUG".toList, 10), ("NOTSET".toList, 0)]

/-- The number of the level with this name, in any case of its letters. -/
def levelNumber? (name : Text) : Option Nat := levelNames.lookup (Text.upper name)

/-- The levels of the records made here. -/
inductive Severity where
  | debug
  | info
deriving DecidableEq, Repr

namespace Severity

def number : Severity → Nat
  | .debug => 10
  | .info => 20

def name : Severity → Text
  | .debug => "DEBUG".toList
  | .info => "INFO".toList

end Severity

/-- A log record. -/
structure Record where
  severity : Severity
  message : Text
deriving DecidableEq, Repr

/-- The logger that the records of an engine go to. -/
def loggerName : Text := "CronEngine".toList

end CronSchedule.Log
