/-
The classes of failure a caller can tell apart, and the wider classes each
belongs to: itself first, and in the end the class of any failure.
-/
import CronSchedule.Text.Basic

namespace CronSchedule

/-- A class of failures. -/
inductive FailureClass where
  | scheduling
  | fieldCount
  | field
  | preset
  | settings
  | badValue
  | badKey
  | lookup
  | any
deriving DecidableEq, Repr

namespace FailureClass

/-- The class and the classes it belongs to, the narrower ones first. -/
def lineage : FailureClass → List FailureClass
  | .scheduling => [.scheduling, .any]
  | .fieldCount => [.fieldCount, .scheduling, .badValue, .any]
  | .field => [.field, .scheduling, .badValue, .any]
  | .preset => [.preset, .scheduling, .badKey, .lookup, .any]
  | .settings => [.settings, .scheduling, .badValue, .any]
  | .badValue => [.badValue, .any]
  | .badKey => [.badKey, .lookup, .any]
  | .lookup => [.lookup, .any]
  | .any => [.any]

theorem head_lineage (c : FailureClass) : c.lineage.head? = some c := by cases c <;> rfl

theorem last_lineage (c : FailureClass) : c.lineage.getLast? = some .any := by cases c <;> rfl

/-- **A class belongs to all that its wider classes belong to**, in the same order. -/
theorem lineage_sublist {c d : FailureClass} (h : d ∈ c.lineage) : d.lineage.Sublist c.lineage := by
  revert h
  cases c <;> cases d <;> decide

end FailureClass

/-- What a failure shows of the texts it was made with: the first of them. -/
def shownFailure (texts : List Text) : Text := texts.headD []

end CronSchedule
