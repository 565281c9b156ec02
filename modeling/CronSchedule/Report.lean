/-
Reports: what an engine says of an expression. A report of an expression
that was rejected carries the error, one of an expression that was read
carries its fields, the words for it and its runs.
-/
import CronSchedule.Expression
import CronSchedule.Calendar.Iso

namespace CronSchedule

/-- What an engine says of an expression. -/
structure Report where
  expression : Text
  isValid : Bool
  fields : Option Fields := none
  description : Option Text := none
  fieldPhrases : List (Text × Text) := []
  runs : List Instant := []
  error : Option Text := none
deriving DecidableEq, Repr

/-- Plain data, as a report is handed on. -/
inductive Datum where
  | flag (value : Bool)
  | text (value : Text)
  | texts (values : List Text)
  | table (entries : List (Text × Text))
deriving DecidableEq, Repr

/-- The field texts under the identifiers of their fields. -/
def Fields.entries (f : Fields) : List (Text × Text) := FieldName.all.map fun name => (name.key, f.get name)

/-- The report as entries of plain data. What is absent has no entry. -/
def Report.entries (r : Report) : List (Text × Datum) :=
  [("expression".toList, .text r.expression), ("is_valid".toList, .flag r.isValid),
    ("field_descriptions".toList, .table r.fieldPhrases), ("next_runs".toList, .texts (r.runs.map Instant.text))] ++
  (r.fields.map fun f => ("fields".toList, .table f.entries)).toList ++
  (r.description.map fun t => ("description".toList, .text t)).toList ++
  (r.error.map fun t => ("error".toList, .text t)).toList

end CronSchedule
