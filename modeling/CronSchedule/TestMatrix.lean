/-
The test matrix: the test command is run once for every supported
interpreter version, whatever came of the versions before it, and the
versions that failed are reported at the end.
-/
import CronSchedule.Text.Numeral

namespace CronSchedule.TestMatrix

/-- The supported interpreter versions, in order. -/
def versions : List Text := ["3.10".toList, "3.11".toList, "3.12".toList, "3.13".toList]

/-- The arguments handed on: those given, or those of the process if none are given. -/
def arguments (given : Option (List Text)) (ofProcess : List Text) : List Text :=
  match given with
  | some (a :: rest) => a :: rest
  | _ => ofProcess

/-- The test command for a version. -/
def command (version : Text) (args : List Text) : List Text :=
  ["uv".toList, "run".toList, "--python".toList, version, "--group".toList, "test".toList, "pytest".toList] ++ args

/-- The line that announces a command. -/
def announcement (command : List Text) : Text :=
  "\n=== Running ".toList ++ List.intercalate [' '] command ++ " ===\n".toList

/-- What comes of running the matrix. -/
structure Outcome where
  commands : List (List Text)
  code : Nat
  out : Text
  err : Text
deriving DecidableEq, Repr

/-- The versions whose exit code is not zero, with their codes. -/
def failures (results : List (Text × Int)) : List (Text × Int) := results.filter fun r => r.2 ≠ 0

/-- A failed version and its exit code. -/
def failureText (failure : Text × Int) : Text :=
  failure.1 ++ " (exit ".toList ++ Numeral.ofInt failure.2 ++ ")".toList

/-- The exit code of the whole and its last lines, on standard output and on standard error, when the command for the
version at position `k` comes to the exit code `codes k`. -/
def verdict (codes : Nat → Int) : Nat × Text × Text :=
  match failures (versions.mapIdx fun k version => (version, codes k)) with
  | [] => (0, "\nAll supported Python versions passed.\n".toList, [])
  | failed =>
    (1, [], "\nTest suite encountered failures: ".toList ++ List.intercalate ", ".toList (failed.map failureText) ++
      "\n".toList)

/-- Runs the matrix, when the command for the version at position `k` comes to the exit code `codes k`. -/
def run (args : List Text) (codes : Nat → Int) : Outcome :=
  let commands := versions.map (command · args)
  let (code, out, err) := verdict codes
  ⟨commands, code, (commands.map announcement).flatten ++ out, err⟩

end CronSchedule.TestMatrix
