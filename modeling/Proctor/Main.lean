import Proctor.Operator.Startup

/-!
# The program

Reads the arguments, the environment and the configuration file, and ends as the startup says.
-/

namespace Proctor.Main

/-- The variables of the environment that stand for options, with their values, if they are set. -/
def readEnvironment : IO (List (String × String)) := do
  let found ← Setting.all.mapM fun s => do
    return (← IO.getEnv s.variableName).map (s.variableName, ·)
  return found.filterMap id

/-- The text of a file, if it can be read. -/
def readFile? (path : String) : IO (Option String) := do
  try
    return some (← IO.FS.readFile path)
  catch _ =>
    return none

/-- What is told about a command line that is refused. -/
def describe : CommandLineFault → String
  | .invalidValue => "a value is required for an option"
  | .valueValidation => "invalid value for an option"
  | .argumentConflict => "an option cannot be used multiple times"
  | .tooManyValues => "unexpected value for an option"
  | .unknownArgument => "unexpected argument found"
  | .displayHelp | .displayVersion => ""

/-- The options of the program. -/
def usage : String :=
  "Usage: " ++ controllerName ++ " [OPTIONS]\n\nOptions:\n      --crd\n" ++
    String.join (Setting.all.map fun s =>
      "      --" ++ s.flag ++ " <VALUE> [env: " ++ s.variableName ++ "=]\n") ++
    "  -h, --help\n  -V, --version\n"

end Proctor.Main

open Proctor in
/-- The program, up to the point where it would talk to a cluster. -/
def main (arguments : List String) : IO UInt32 := do
  let found ← Main.readEnvironment
  let environment (name : String) : Option String := found.lookup name
  let path := match CommandLine.read arguments environment with
    | .ok c => c.kubeconfig
    | .error _ => none
  let content ← match path with
    | some p => Main.readFile? p
    | none => pure none
  let startup := Startup.run arguments environment fun _ => content
  match startup with
  | .refused f => IO.eprintln ("error: " ++ Main.describe f)
  | .helped => IO.print Main.usage
  | .printed text => IO.print text
  | .noTelemetry _ => IO.eprintln (startup.failure?.getD "")
  | .noClient f => IO.eprintln (startup.failure?.getD "" ++ ": " ++ f.message)
  | .ready _ _ => IO.eprintln (startup.failure?.getD "" ++ ": no connection to the API server")
  return startup.exitCode.toUInt32
