/-
Months and days of the week by name. A field of single values, spans and
lists is put into words if every value in it has a name; a field with a
step or a star is not.
-/
import CronSchedule.Field.Spec
import CronSchedule.Text.Numeral

namespace CronSchedule

/-- Why a field cannot be put into words. -/
inductive PhraseError where
  | tooLong (numeral : Numeral.TooLong)
  | unnamed
deriving DecidableEq, Repr

def PhraseError.message : PhraseError → Text
  | .tooLong e => e.message
  | .unnamed => "tuple index out of range".toList

namespace Phrase

def monthNames : List Text :=
  ["January".toList, "February".toList, "March".toList, "April".toList, "May".toList, "June".toList, "July".toList,
    "August".toList, "September".toList, "October".toList, "November".toList, "December".toList]

def weekdayNames : List Text :=
  ["Sunday".toList, "Monday".toList, "Tuesday".toList, "Wednesday".toList, "Thursday".toList, "Friday".toList,
    "Saturday".toList]

/-- A value by its name, or the values from one name to another. -/
structure NameItem where
  first : Text
  last : Option Text
deriving DecidableEq, Repr

def NameItem.text : NameItem → Text
  | ⟨first, none⟩ => first
  | ⟨first, some last⟩ => first ++ " through ".toList ++ last

/-- Reads a plain numeral. -/
def number (t : Text) : Except PhraseError Nat :=
  match Numeral.read t with
  | .ok n => .ok n
  | .error e => .error (.tooLong e)

/-- The value of an atom, a plain numeral or a name of the field; none for anything else. -/
def atomValue? (spec : FieldSpec) (atom : Text) : Except PhraseError (Option Int) :=
  if Numeral.isPlain atom then return some (← number atom) else .ok (spec.lookup? atom)

/-- The name in the table for an atom; none if the atom is no value of the field. -/
def nameOf? (spec : FieldSpec) (table : List Text) (atom : Text) : Except PhraseError (Option Text) := do
  match ← atomValue? spec atom with
  | none => .ok none
  | some value =>
    if spec.contains value then
      match table[(value - spec.low).toNat]? with
      | some name => .ok (some name)
      | none => .error .unnamed
    else .ok none

/-- An item of a list: an atom, or two with a hyphen between. -/
def nameItem? (spec : FieldSpec) (table : List Text) (item : Text) : Except PhraseError (Option NameItem) :=
  match Text.cut? '-' item with
  | none => return (← nameOf? spec table item).map (⟨·, none⟩)
  | some (first, last) => do
    match ← nameOf? spec table first with
    | none => .ok none
    | some a => return (← nameOf? spec table last).map fun b => ⟨a, some b⟩

/-- The items of a list, read in order as far as they have names. -/
def nameItems? (spec : FieldSpec) (table : List Text) : List Text → Except PhraseError (Option (List NameItem))
  | [] => .ok (some [])
  | item :: rest => do
    match ← nameItem? spec table item with
    | none => .ok none
    | some named => return (← nameItems? spec table rest).map (named :: ·)

/-- The field in names; none if it cannot be said in names alone. -/
def named? (spec : FieldSpec) (table : List Text) (raw : Text) : Except PhraseError (Option (List NameItem)) :=
  if raw.isEmpty || raw.contains '/' || raw.contains '*' then .ok none
  else nameItems? spec table (List.splitOn ',' raw)

/-- The items with a comma between each two. -/
def listed (items : List NameItem) : Text := List.intercalate ", ".toList (items.map NameItem.text)

end Phrase
end CronSchedule
