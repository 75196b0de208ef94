import FormulaEditor.CommandLine.Run

/-! # The program

Reads the arguments, the environment and the standard input, runs, and prints. No service is in
reach of the program, so requests fail on their way.
-/

namespace FormulaEditor.CommandLine

def settingVariables : List String := [
  "FORMULABOX_SUGGESTION_BACKEND_URL", "FORMULABOX_SUGGESTION_TIMEOUT_MS",
  "FORMULABOX_LOG_LEVEL", "FORMULABOX_APP_TITLE", "FORMULABOX_APP_VERSION"]

def readEnvironment : IO (List (String × String)) :=
  settingVariables.filterMapM fun name => do
    return (← IO.getEnv name).map fun value => (name, value)

partial def readAll (stream : IO.FS.Stream) (before : String) : IO String := do
  let line ← stream.getLine
  if line.isEmpty then return before else readAll stream (before ++ line)

def readsInput : Command → Bool
  | .evaluate text _ _ _ => text.getD "" == ""
  | .suggest _ _ => false
  | .dialogue _ _ _ => true

/-- A thing printed, as lines; the cells of a table are separated by bars. -/
def linesOfPrinted : Printed → List String
  | .line s => [s]
  | .table title columns rows => title :: (columns :: rows).map (" | ".intercalate ·)

def Finish.exitCode : Finish → UInt32
  | .status code => UInt32.ofNat code
  | .crash _ => 1

/-- What is told about how the run ended. -/
def Finish.lines : Finish → List String
  | .status _ => []
  | .crash (.invalid issues) => issues.map fun issue => issue.kind.message
  | .crash c => [c.message]

end FormulaEditor.CommandLine

open FormulaEditor CommandLine in
def main (arguments : List String) : IO UInt32 := do
  let input ←
    match readArguments arguments with
    | .ok a => if readsInput a.command then readAll (← IO.getStdin) "" else pure ""
    | .error _ => pure ""
  let environment ← readEnvironment
  let result := run arguments
    ⟨environment, input, [.failure (.transport "ConnectError")], .all⟩
  for line in result.printed.flatMap linesOfPrinted do
    IO.println line
  IO.eprint result.errors
  for line in result.finish.lines do
    IO.eprintln line
  return result.finish.exitCode
