/-
The five fields of an expression and what each may hold: a label for
messages, the least and greatest value, and names for the values from the
least one on. A caller may use a spec of its own.
-/
import CronSchedule.Text.Upper
import CronSchedule.Text.Quoted

namespace CronSchedule

/-- The five fields, in the order an expression gives them. -/
inductive FieldName where
  | minute
  | hour
  | dayOfMonth
  | month
  | dayOfWeek
deriving DecidableEq, Repr

namespace FieldName

/-- The fields in positional order. -/
def all : List FieldName := [.minute, .hour, .dayOfMonth, .month, .dayOfWeek]

/-- The identifier of a field. -/
def key : FieldName → Text
  | .minute => "minute".toList
  | .hour => "hour".toList
  | .dayOfMonth => "day_of_month".toList
  | .month => "month".toList
  | .dayOfWeek => "day_of_week".toList

/-- The field with this identifier. -/
def ofKey? (key : Text) : Option FieldName := all.find? (·.key == key)

theorem ofKey?_key (name : FieldName) : ofKey? name.key = some name := by cases name <;> decide

end FieldName

/-- A text that is the identifier of no field. -/
structure UnknownField where
  key : Text
deriving DecidableEq, Repr

def UnknownField.message (e : UnknownField) : Text :=
  Text.quoted e.key ++ " is not a valid CronFieldEnum".toList

/-- What one field may hold. The first name stands for `low`, the next for `low + 1`, and so on. -/
structure FieldSpec where
  name : FieldName
  label : Text
  low : Int
  high : Int
  names : List Text := []
deriving DecidableEq, Repr

namespace FieldSpec

/-- How many values the field may hold. -/
def size (spec : FieldSpec) : Int := spec.high - spec.low + 1

/-- The value is one the field may hold. -/
def contains (spec : FieldSpec) (value : Int) : Bool := spec.low ≤ value && value ≤ spec.high

/-- The value that a name stands for, in any case of its letters. -/
def lookup? (spec : FieldSpec) (name : Text) : Option Int :=
  (spec.names.idxOf? (Text.upper name)).map (spec.low + ·)

def minute : FieldSpec := ⟨.minute, "minute".toList, 0, 59, []⟩

def hour : FieldSpec := ⟨.hour, "hour".toList, 0, 23, []⟩

def dayOfMonth : FieldSpec := ⟨.dayOfMonth, "day of month".toList, 1, 31, []⟩

def month : FieldSpec where
  name := .month
  label := "month".toList
  low := 1
  high := 12
  names := ["JAN".toList, "FEB".toList, "MAR".toList, "APR".toList, "MAY".toList, "JUN".toList, "JUL".toList,
    "AUG".toList, "SEP".toList, "OCT".toList, "NOV".toList, "DEC".toList]

def dayOfWeek : FieldSpec where
  name := .dayOfWeek
  label := "day of week".toList
  low := 0
  high := 6
  names := ["SUN".toList, "MON".toList, "TUE".toList, "WED".toList, "THU".toList, "FRI".toList, "SAT".toList]

theorem contains_iff {spec : FieldSpec} {value : Int} :
    spec.contains value = true ↔ spec.low ≤ value ∧ value ≤ spec.high := by
  simp [contains]

end FieldSpec

/-- The spec of a field in an expression. -/
def FieldName.spec : FieldName → FieldSpec
  | .minute => .minute
  | .hour => .hour
  | .dayOfMonth => .dayOfMonth
  | .month => .month
  | .dayOfWeek => .dayOfWeek

theorem FieldName.name_spec (name : FieldName) : name.spec.name = name := by cases name <;> rfl

end CronSchedule
