/-
One field in words, such as `every 5 minutes`, `on Monday through Friday`
or `at hour 9`. The text is taken as it stands: it need not be a field
that can be read.
-/
import CronSchedule.Phrase.Names

namespace CronSchedule
namespace Phrase

/-- One of what the field counts. -/
def singular : FieldName → Text
  | .minute => "minute".toList
  | .hour => "hour".toList
  | .dayOfMonth => "day".toList
  | .month => "month".toList
  | .dayOfWeek => "day of the week".toList

/-- Several of what the field counts. -/
def plural : FieldName → Text
  | .minute => "minutes".toList
  | .hour => "hours".toList
  | .dayOfMonth => "days".toList
  | .month => "months".toList
  | .dayOfWeek => "days of the week".toList

/-- Every so many. -/
def every (name : FieldName) (step : Text) : Text :=
  if step = ['1'] then "every ".toList ++ singular name
  else "every ".toList ++ step ++ " ".toList ++ plural name

/-- The base and the step of a field that is one item with a step. -/
def stepped? (raw : Text) : Option (Text × Text) :=
  match Text.cut? '/' raw with
  | some (base, step) => if Numeral.isPlain step && !base.contains ',' then some (base, step) else none
  | none => none

/-- The field in names, with the word before them, for the two fields that have names. -/
def inNames? (spec : FieldSpec) (raw : Text) : Except PhraseError (Option Text) :=
  match spec.name with
  | .month => return (← named? spec monthNames raw).map ("in ".toList ++ listed ·)
  | .dayOfWeek => return (← named? spec weekdayNames raw).map ("on ".toList ++ listed ·)
  | _ => .ok none

/-- The field as its text, for a list, a span and anything else. -/
def verbatim (name : FieldName) (raw : Text) : Text :=
  if raw.contains ',' then plural name ++ " ".toList ++ List.intercalate ", ".toList (List.splitOn ',' raw)
  else
    match Text.cut? '-' raw with
    | some (first, last) => plural name ++ " ".toList ++ first ++ " through ".toList ++ last
    | none => "at ".toList ++ singular name ++ " ".toList ++ raw

end Phrase

open Phrase in
/-- A field text in words. -/
def FieldSpec.phrase (spec : FieldSpec) (raw : Text) : Except PhraseError Text :=
  if raw = ['*'] then .ok ("every ".toList ++ singular spec.name)
  else
    match stepped? raw with
    | some (base, step) =>
      .ok (if base = ['*'] then every spec.name step else every spec.name step ++ " from ".toList ++ base)
    | none => do
      match ← inNames? spec raw with
      | some phrase => .ok phrase
      | none => .ok (verbatim spec.name raw)

end CronSchedule
