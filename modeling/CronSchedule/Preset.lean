/-
Ready-made expressions under a label, and expressions composed from single
fields. A label is found in any case and with blanks around it. In a
composition a field that is not given is a star, and every field is read
on its own, so a blank in one of them is a fault of that field.
-/
import CronSchedule.Expression
import CronSchedule.FailureClass
import CronSchedule.Text.Fold

namespace CronSchedule

/-- An expression with a label. -/
structure Preset where
  expression : Text
  label : Text
deriving DecidableEq, Repr

/-- A label that no preset has. -/
structure UnknownPreset where
  label : Text
deriving DecidableEq, Repr

namespace Preset

/-- The presets in order. -/
def all : List Preset := [
  ⟨"* * * * *".toList, "Every minute".toList⟩,
  ⟨"*/5 * * * *".toList, "Every 5 minutes".toList⟩,
  ⟨"*/15 * * * *".toList, "Every 15 minutes".toList⟩,
  ⟨"*/30 * * * *".toList, "Every 30 minutes".toList⟩,
  ⟨"0 * * * *".toList, "Every hour".toList⟩,
  ⟨"0 */2 * * *".toList, "Every 2 hours".toList⟩,
  ⟨"0 0 * * *".toList, "Every day at midnight".toList⟩,
  ⟨"0 12 * * *".toList, "Every day at noon".toList⟩,
  ⟨"0 9 * * *".toList, "Every day at 9:00 AM".toList⟩,
  ⟨"0 9 * * 1".toList, "Every Monday at 9:00 AM".toList⟩,
  ⟨"0 9 * * 1-5".toList, "Every weekday at 9:00 AM".toList⟩,
  ⟨"0 0 * * 0".toList, "Every Sunday at midnight".toList⟩,
  ⟨"0 0 1 * *".toList, "First day of every month".toList⟩,
  ⟨"0 0 1 1 *".toList, "Every year on January 1st".toList⟩,
  ⟨"30 4 1,15 * *".toList, "1st and 15th of month at 4:30 AM".toList⟩]

/-- The preset with this label, in any case and with any blanks around it. -/
def find (label : Text) : Except UnknownPreset Preset :=
  let wanted := Text.fold (Text.trimmed label)
  match all.find? fun p => Text.fold p.label == wanted with
  | some p => .ok p
  | none => .error ⟨label⟩

end Preset

def UnknownPreset.message (e : UnknownPreset) : Text :=
  shownFailure ["Preset ".toList ++ Text.quoted e.label ++ " is not defined. Known presets: [".toList ++
    List.intercalate ", ".toList (Preset.all.map fun p => Text.quoted p.label) ++ "]".toList]

/-- Why an expression cannot be composed. -/
inductive CompositionError where
  | unknownField (key : Text)
  | field (error : FieldError)
deriving DecidableEq, Repr

def CompositionError.message : CompositionError → Text
  | .unknownField key => "build_expression() got an unexpected keyword argument '".toList ++ key ++ "'".toList
  | .field e => e.message

/-- The five fields from those given by their identifiers; a field that is not given is a star. -/
def Fields.ofGiven (given : List (Text × Text)) : Fields :=
  let field (name : FieldName) : Text := (given.lookup name.key).getD ['*']
  ⟨field .minute, field .hour, field .dayOfMonth, field .month, field .dayOfWeek⟩

/-- Composes an expression from fields given by their identifiers. -/
def Expression.compose (given : List (Text × Text)) : Except CompositionError Text :=
  match given.find? fun entry => (FieldName.ofKey? entry.1).isNone with
  | some (key, _) => .error (.unknownField key)
  | none =>
    let fields := Fields.ofGiven given
    match fields.schedule with
    | .ok _ => .ok fields.text
    | .error e => .error (.field e)

end CronSchedule
