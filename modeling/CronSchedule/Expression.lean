/-
Expressions: five field texts separated by blanks, and the schedule they
stand for. The fields are read in order, and the first that cannot be
read decides the error.
-/
import CronSchedule.Field.Values
import CronSchedule.Schedule

namespace CronSchedule

/-- The five field texts of an expression. -/
structure Fields where
  minute : Text
  hour : Text
  dayOfMonth : Text
  month : Text
  dayOfWeek : Text
deriving DecidableEq, Repr

namespace Fields

/-- The text of one field. -/
def get (f : Fields) : FieldName → Text
  | .minute => f.minute
  | .hour => f.hour
  | .dayOfMonth => f.dayOfMonth
  | .month => f.month
  | .dayOfWeek => f.dayOfWeek

def toList (f : Fields) : List Text := [f.minute, f.hour, f.dayOfMonth, f.month, f.dayOfWeek]

/-- Five texts as the five fields. -/
def ofList? : List Text → Option Fields
  | [minute, hour, dayOfMonth, month, dayOfWeek] => some ⟨minute, hour, dayOfMonth, month, dayOfWeek⟩
  | _ => none

/-- The fields with a single space between each two. -/
def text (f : Fields) : Text := List.intercalate [' '] f.toList

/-- The schedule the five fields stand for. -/
def schedule (f : Fields) : Except FieldError Schedule := do
  let minutes ← FieldSpec.minute.values f.minute
  let hours ← FieldSpec.hour.values f.hour
  let daysOfMonth ← FieldSpec.dayOfMonth.values f.dayOfMonth
  let months ← FieldSpec.month.values f.month
  let daysOfWeek ← FieldSpec.dayOfWeek.values f.dayOfWeek
  .ok ⟨minutes, hours, daysOfMonth, months, daysOfWeek⟩

end Fields

/-- Why an expression cannot be read. -/
inductive ExpressionError where
  | fieldCount
  | field (error : FieldError)
deriving DecidableEq, Repr

def ExpressionError.message : ExpressionError → Text
  | .fieldCount => "Cron expression must have exactly 5 fields (minute hour day month weekday)".toList
  | .field e => e.message

/-- An expression that has been read. -/
structure Expression where
  fields : Fields
  schedule : Schedule
deriving DecidableEq, Repr

namespace Expression

/-- The five fields of an expression, not read yet. -/
def split (expression : Text) : Except ExpressionError Fields :=
  match Fields.ofList? (Text.words expression) with
  | some fields => .ok fields
  | none => .error .fieldCount

/-- Reads an expression. -/
def read (expression : Text) : Except ExpressionError Expression := do
  let fields ← split expression
  match fields.schedule with
  | .ok schedule => .ok ⟨fields, schedule⟩
  | .error e => .error (.field e)

/-- Whether an expression can be read. A numeral that is too long is no verdict on the expression. -/
def isValid (expression : Text) : Except Numeral.TooLong Bool :=
  match read expression with
  | .ok _ => .ok true
  | .error (.field (.tooLong e)) => .error e
  | .error _ => .ok false

end Expression
end CronSchedule
