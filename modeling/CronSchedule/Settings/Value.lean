/-
Values of no fixed type, as settings are given, and how messages show
them. A value with an integer in it that is too long cannot be shown.
-/
import CronSchedule.Text.Quoted
import CronSchedule.Text.Numeral

namespace CronSchedule

/-- A value of no fixed type. A fraction is kept as its text. -/
inductive Value where
  | null
  | flag (value : Bool)
  | int (value : Int)
  | fraction (text : Text)
  | text (value : Text)
  | list (items : List Value)
  | table (entries : List (Text × Value))
deriving Repr

namespace Value

mutual

/-- The value as messages show it. -/
def shown : Value → Text
  | .null => "None".toList
  | .flag true => "True".toList
  | .flag false => "False".toList
  | .int i => Numeral.ofInt i
  | .fraction t => t
  | .text t => Text.quoted t
  | .list items => '[' :: List.intercalate ", ".toList (shownItems items) ++ [']']
  | .table entries => '\x7b' :: List.intercalate ", ".toList (shownEntries entries) ++ ['\x7d']

def shownItems : List Value → List Text
  | [] => []
  | item :: rest => shown item :: shownItems rest

def shownEntries : List (Text × Value) → List Text
  | [] => []
  | (key, value) :: rest => (Text.quoted key ++ ": ".toList ++ shown value) :: shownEntries rest

end

mutual

/-- The integers in a value, in the order in which they are shown. -/
def integers : Value → List Int
  | .int i => [i]
  | .list items => integersOfItems items
  | .table entries => integersOfEntries entries
  | _ => []

def integersOfItems : List Value → List Int
  | [] => []
  | item :: rest => integers item ++ integersOfItems rest

def integersOfEntries : List (Text × Value) → List Int
  | [] => []
  | (_, value) :: rest => integers value ++ integersOfEntries rest

end

/-- Every integer in the value can be shown. -/
def showable (v : Value) : Bool := v.integers.all Numeral.showable

end Value
end CronSchedule
