/-
The root logger, its configuration, and which format texts are accepted:
those with at least one field, `%(name)` followed by optional flags,
width and precision and by a conversion letter.
-/
import CronSchedule.Log.Level
import CronSchedule.Text.Letter
import CronSchedule.Text.Number
import CronSchedule.Text.Quoted

namespace CronSchedule.Log

/-! ## Format texts -/

/-- A character of a field name. -/
def isNameChar (c : Char) : Bool := Text.isLetter c || Text.isNumber c || c == '_'

def isDigit (c : Char) : Bool := (Text.digitValue? c).isSome

/-- A conversion letter in either case, or the percent sign. A capital I with a dot counts as an i. -/
def isConversion (c : Char) : Bool :=
  c == '\u0130' || ("DIOUXEFGCRSA%".toList.map fun letter => [letter]).contains (Text.upper [c])

/-- What follows a width: a star, a run of digits, or nothing. -/
def afterWidth : Text → Text
  | '*' :: t => t
  | t => t.dropWhile isDigit

/-- What follows a precision, a point with a star or digits. A point alone is none. -/
def afterPrecision : Text → Text
  | '.' :: '*' :: t => t
  | '.' :: c :: t => if isDigit c then t.dropWhile isDigit else '.' :: c :: t
  | t => t

/-- A field stands at the start of the text. -/
def startsWithField : Text → Bool
  | '%' :: '(' :: t =>
    match t.span isNameChar with
    | (_ :: _, ')' :: rest) =>
      match afterPrecision (afterWidth (rest.dropWhile ("#0+ -".toList.contains ·))) with
      | c :: _ => isConversion c
      | [] => false
    | _ => false
  | _ => false

/-- A field stands somewhere in the text. -/
def hasField : Text → Bool
  | [] => false
  | c :: t => startsWithField (c :: t) || hasField t

/-- The format of a configuration that gives none. -/
def usualFormat : Text := "%(asctime)s %(levelname)s [%(name)s] %(message)s".toList

/-- The format of an empty format text. -/
def plainFormat : Text := "%(message)s".toList

/-! ## The root logger -/

/-- The root logger: its level, and the format of each handler that has one. -/
structure RootLogger where
  level : Int
  formats : List (Option Text)
deriving DecidableEq, Repr

/-- A level, by name or by number. -/
inductive LevelChoice where
  | name (name : Text)
  | number (number : Int)
deriving DecidableEq, Repr

/-- The level of a configuration that gives none, that of warnings. -/
def usualLevel : LevelChoice := .number 30

/-- Why a configuration is refused. -/
inductive ConfigurationError where
  | unknownLevel (name : Text)
  | badFormat (format : Text)
deriving DecidableEq, Repr

def ConfigurationError.message : ConfigurationError → Text
  | .unknownLevel name => Text.quoted name ++ " is not a valid logging level name".toList
  | .badFormat format => "Invalid format '".toList ++ format ++ "' for '%' style".toList

/-- The number of a chosen level. Every number is a level. -/
def LevelChoice.resolve : LevelChoice → Except ConfigurationError Int
  | .number i => .ok i
  | .name t =>
    match levelNumber? t with
    | some n => .ok n
    | none => .error (.unknownLevel t)

/-- The format a handler gets. -/
def resolveFormat (format : Text) : Except ConfigurationError Text :=
  if format.isEmpty then .ok plainFormat
  else if hasField format then .ok format
  else .error (.badFormat format)

/-- Sets the level, then replaces the handlers by one with this format. A format that is refused leaves the
handlers as they are, but the level is set by then. -/
def RootLogger.configure (root : RootLogger) (level : LevelChoice) (format : Text) :
    Except ConfigurationError Unit × RootLogger :=
  match level.resolve with
  | .error e => (.error e, root)
  | .ok number =>
    match resolveFormat format with
    | .error e => (.error e, { root with level := number })
    | .ok resolved => (.ok (), ⟨number, [some resolved]⟩)

end CronSchedule.Log
