import SaleSearch.CommandLine.Run
import Std.Time.DateTime.Timestamp

/-!
# The program

Reads the files that the arguments name and the time, and prints what comes of them.
-/

open SaleSearch

/-- The fault that a failed attempt to read a file comes down to. -/
def faultOf : IO.Error → Files.Fault
  | .noFileOrDirectory .. => .notFound
  | .inappropriateType _ 20 _ => .notADirectory
  | .inappropriateType .. => .isADirectory
  | _ => .notText

/-- The text of a file, or why it could not be read. -/
def readText (path : String) : IO (Except Files.Fault String) := do
  try
    return .ok (← IO.FS.readFile path)
  catch e =>
    return .error (faultOf e)

/-- Run the program on the files, the clock and the streams of the system. -/
def main (arguments : List String) : IO UInt32 := do
  let paths := (CommandLine.Ask.ofArguments arguments).paths
  let texts ← paths.mapM fun path => return (path, ← readText path)
  let now ← Std.Time.Timestamp.now
  let read : Files.Reader := fun path => (texts.lookup path).getD (.error .notFound)
  let outcome := CommandLine.run read now.toSecondsSinceUnixEpoch.val arguments
  IO.print outcome.out
  IO.eprint outcome.err
  return outcome.code.toUInt32
