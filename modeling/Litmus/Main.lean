import Litmus.Console.Basic

/-!
The command line: reads what the program needs from the machine, runs it, and prints what it
reports.
-/
namespace Litmus.Console

/-- The number of rounds of an iteration. -/
def roundsPerIteration : Nat := 100

/-- The memory that the program counts on, sixteen gibibytes. -/
def memoryBytes : Nat := 17179869184

/-- The content of a file, or the reason for which it cannot be read. -/
def readBytes (path : String) : IO (Except String ByteArray) := do
  try
    return .ok (← IO.FS.readBinFile path)
  catch e =>
    return .error (toString e)

/-- The text of the settings file, if it is there. Bytes that are no text stand for a file that is
not well formed. -/
def readSettings (path : String) : IO (Option String) := do
  match ← readBytes path with
  | .ok bytes => return some ((String.fromUTF8? bytes).getD "=")
  | .error _ => return none

/-- The variables of the environment. -/
def readVariables : IO (List (String × String)) := do
  let entries := (← readBytes "/proc/self/environ").toOption.getD ByteArray.empty
  let text := (String.fromUTF8? entries).getD ""
  return (text.splitOn "\x00").filterMap fun entry =>
    match entry.splitOn "=" with
    | name :: value => some (name, "=".intercalate value)
    | [] => none

/-- The number of processors in a description of them, at least one. -/
def countProcessors (description : Except String ByteArray) : Nat :=
  match description with
  | .error _ => 1
  | .ok bytes =>
      let lines := ((String.fromUTF8? bytes).getD "").splitOn "\n"
      Nat.max 1 (lines.countP fun line => line.startsWith "processor")

end Litmus.Console

open Litmus.Console in
/-- Prints the lines of the log that are shown, with what is said before and after them, and ends
with the exit code of the report. -/
def main (arguments : List String) : IO UInt32 := do
  let environment ← readVariables
  let path := settingsPath arguments environment
  let file ← readSettings path
  let processors ← readBytes "/proc/cpuinfo"
  let report := Litmus.Console.run roundsPerIteration
    { sources := { path := some path, file, environment }
      processors
      processorCount := countProcessors processors
      host := .swift memoryBytes }
  for line in report.complaints do
    IO.eprintln line
  for line in report.log do
    IO.eprintln line.render
  for line in report.errors do
    IO.eprintln line
  return report.exit
