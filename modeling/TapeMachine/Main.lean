import TapeMachine.Cli.Execution

/-!
# The program

Reads the arguments, the settings file and the environment, and prints the result. The log is shown
if the settings are verbose; a filter of levels that the environment may set for all logs is not
read.
-/

namespace TapeMachine.Cli

/-- How far runs are followed. No machine gets that far in the life of a computer. -/
def limit : Nat := Nat.pow 2 62

/-- What is found under a path. -/
def readSource (path : String) : IO Source := do
  try
    return .bytes (← IO.FS.readBinFile path)
  catch _ =>
    return .missing

/-- The settings file that the arguments name, read before anything else is done. -/
def namedSource (arguments : List String) : IO Source :=
  match Request.ofArguments arguments with
  | .ok { config := some path, .. } => readSource path
  | _ => return .missing

end TapeMachine.Cli

open TapeMachine

/-- Answers the arguments on standard output and, if the settings are verbose, prints the log on the
other one. The exit code is 2 for arguments that are not understood and 1 for every other
failure. -/
def main (arguments : List String) : IO UInt32 := do
  let source ← Cli.namedSource arguments
  let environment ← IO.getEnv Cli.Settings.variableName
  let printLog (log : List String) : IO Unit :=
    if Cli.isVerbose (fun _ => source) environment arguments then log.forM IO.eprintln else pure ()
  match Cli.respond Cli.limit (fun _ => source) environment arguments with
  | none =>
    IO.eprintln "Error: the machine did not halt"
    return 1
  | some (.ok text, log) =>
    printLog log
    IO.println text
    return 0
  | some (.error e, log) =>
    printLog log
    IO.eprintln ("Error: " ++ e.message)
    return match e with
      | .refused .usage => 2
      | .refused _ => 0
      | _ => 1
