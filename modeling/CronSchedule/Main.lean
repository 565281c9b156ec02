/-
The command line of the test matrix. It announces the command for each
version and takes the exit code from standard input, one line for each;
whoever calls it runs the commands. It ends with the code of the whole.
-/
import CronSchedule.TestMatrix

namespace CronSchedule.TestMatrix

/-- Announces a command and takes its exit code; a line that is no integer counts as a failure. -/
def takeExitCode (command : List Text) : IO Int := do
  IO.print (String.ofList (announcement command))
  (← IO.getStdout).flush
  let line ← (← IO.getStdin).getLine
  return (Numeral.signed? line.toList).getD 1

/-- Takes the exit code of each command in order and says what came of them. -/
def takeExitCodes (args : List String) : IO UInt32 := do
  let arguments := arguments none (args.map String.toList)
  let codes ← versions.mapM fun version => takeExitCode (command version arguments)
  let (code, out, err) := verdict (codes.getD · 1)
  IO.print (String.ofList out)
  IO.eprint (String.ofList err)
  return code.toUInt32

end CronSchedule.TestMatrix

def main (args : List String) : IO UInt32 := CronSchedule.TestMatrix.takeExitCodes args
