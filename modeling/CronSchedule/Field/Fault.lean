/-
What can be wrong with the text of a field, and the wording of each fault.
A field error names the field and shows its whole text; a numeral that is
too long to be read is an error of its own kind, with no field to it. So is
an integer that is too long to be shown: a fault is worded when it is
raised, and gives way to such an integer if its wording has one.
-/
import CronSchedule.Field.Spec
import CronSchedule.Text.Numeral

namespace CronSchedule

/-- A way for the text of a field to break the rules of the field. -/
inductive Fault where
  | emptyField
  | emptyItem
  | manySteps (item : Text)
  | notARange (base : Text)
  | reversedRange (base : Text)
  | missingValue
  | notAValue (atom : Text)
  | outOfRange (atom : Text) (low high : Int)
  | stepNotANumber (step : Text)
  | stepOutOfRange (step : Nat) (greatest : Int)
deriving DecidableEq, Repr

namespace Fault

/-- The wording of a fault. -/
def reason : Fault → Text
  | .emptyField => "field is empty".toList
  | .emptyItem => "empty list item".toList
  | .manySteps item => Text.quoted item ++ " has more than one step".toList
  | .notARange base => Text.quoted base ++ " is not a valid range".toList
  | .reversedRange base => "range ".toList ++ Text.quoted base ++ " is reversed".toList
  | .missingValue => "missing value".toList
  | .notAValue atom => Text.quoted atom ++ " is not a number".toList
  | .outOfRange atom low high =>
    Text.quoted atom ++ " is out of range ".toList ++ Numeral.ofInt low ++ "-".toList ++ Numeral.ofInt high
  | .stepNotANumber step => "step ".toList ++ Text.quoted step ++ " is not a number".toList
  | .stepOutOfRange step greatest =>
    "step ".toList ++ Numeral.ofNat step ++ " must be between 1 and ".toList ++ Numeral.ofInt greatest

/-- The integers in the wording of a fault. -/
def integers : Fault → List Int
  | .outOfRange _ low high => [low, high]
  | .stepOutOfRange step greatest => [step, greatest]
  | _ => []

/-- Every integer in the wording can be shown. -/
def showable (f : Fault) : Bool := f.integers.all Numeral.showable

end Fault

/-- Why an item of a field cannot be read. -/
inductive ItemError where
  | fault (fault : Fault)
  | tooLong (numeral : Numeral.TooLong)
deriving DecidableEq, Repr

/-- The error that a fault is raised as. -/
def Fault.raised (f : Fault) : ItemError := if f.showable then .fault f else .tooLong .toShow

theorem Fault.raised_of_showable {f : Fault} (h : f.showable = true) : f.raised = .fault f := if_pos h

theorem Fault.raised_of_not_showable {f : Fault} (h : f.showable = false) : f.raised = .tooLong .toShow :=
  if_neg (Bool.eq_false_iff.mp h)

theorem Fault.raised_ne_toRead {f : Fault} {digits : Nat} : f.raised ≠ .tooLong (.toRead digits) := by
  unfold raised
  split <;> exact fun h => (nomatch h)

/-- Why a field cannot be read. -/
inductive FieldError where
  | malformed (field : FieldName) (label raw : Text) (fault : Fault)
  | tooLong (numeral : Numeral.TooLong)
deriving DecidableEq, Repr

def FieldError.message : FieldError → Text
  | .malformed _ label raw f =>
    "Invalid ".toList ++ label ++ " field ".toList ++ Text.quoted raw ++ ": ".toList ++ f.reason
  | .tooLong e => e.message

/-- The error of an item, as the error of the field it stands in. -/
def ItemError.inField (spec : FieldSpec) (raw : Text) : ItemError → FieldError
  | .fault f => .malformed spec.name spec.label raw f
  | .tooLong e => .tooLong e

end CronSchedule
