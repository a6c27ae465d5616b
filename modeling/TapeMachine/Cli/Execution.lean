import TapeMachine.Cli.Arguments
import TapeMachine.Cli.Printer
import TapeMachine.Cli.Settings
import TapeMachine.Programs.AbcAcceptor
import TapeMachine.Programs.BusyBeaver
import TapeMachine.Programs.Chains
import TapeMachine.Programs.Increment

/-!
# Carrying out commands
-/

namespace TapeMachine.Cli

open Programs

/-- Why there is no result. -/
inductive Failure where
  | refused (reason : Refusal)
  | settings (error : SettingsError)
  | machine (error : MachineError)

namespace Failure

/-- The words for a failure. What is wrong with the arguments or with the file is not told in
detail. -/
def message : Failure → String
  | refused .usage => "invalid arguments"
  | refused .help => "help requested"
  | refused .version => "version requested"
  | settings .unreadable => "failed to read config"
  | settings .malformed => "invalid config"
  | machine e => "machine error: " ++ e.message

end Failure

/-- Prints the answer of a program. -/
def shown {α : Type} (print : α → String) (r : Option (Logged α)) : Option (Logged String) :=
  r.map fun l => ⟨l.answer.map print, l.log⟩

/-- Carries out a command and prints its result. -/
def Command.execute (fuel : Nat) (config : Config) (p : Printer) :
    Command → Option (Logged String)
  | .increment digits flipping =>
    let variant := if flipping then Increment.Variant.flipping else .plain
    shown p.report (run config (Increment.program fuel digits variant))
  | .beaver3 => shown p.report (run config (BusyBeaver.program fuel BusyBeaver.three))
  | .beaver4 => shown p.report (run config (BusyBeaver.program fuel BusyBeaver.four))
  | .accept input target head =>
    shown p.acceptance
      (PrefixAcceptor.accept fuel config head (Programs.sequence input) (cells target))
  | .sequence input first second =>
    shown p.acceptance
      (PrefixAcceptor.acceptBoth fuel config (Programs.sequence input) (cells first) (cells second))
  | .handwritten inputs =>
    shown p.verdicts
      (run { config with resetAfterExecution := false } (AbcAcceptor.program fuel inputs))
  | .countdown start => some ⟨.ok (p.countdown start (Countdown.countdown start)), []⟩

/-- The printer that a request asks for. -/
def Request.printer (r : Request) : Printer := ⟨r.json, !r.json && !r.noColor⟩

/-- The configuration that a request asks for. -/
def Request.settings (r : Request) (read : String → Source) (environment : Option String) :
    Except SettingsError Config :=
  Settings.resolve (r.config.map read) environment ⟨r.verbose, r.resetAfter⟩

/-- Whether the settings are verbose. Only then is the log shown, the closing words of a program
included. -/
def isVerbose (read : String → Source) (environment : Option String) (arguments : List String) :
    Bool :=
  match Request.ofArguments arguments with
  | .error _ => false
  | .ok request =>
    match request.settings read environment with
    | .error _ => false
    | .ok config => config.verbose

/-- Reads the arguments, finds the settings and carries out the command; also answers the log. -/
def respond (fuel : Nat) (read : String → Source) (environment : Option String)
    (arguments : List String) : Option (Except Failure String × List String) :=
  match Request.ofArguments arguments with
  | .error reason => some (.error (.refused reason), [])
  | .ok request =>
    match request.settings read environment with
    | .error e => some (.error (.settings e), [])
    | .ok config =>
      match request.command.execute fuel config request.printer with
      | none => none
      | some ⟨.error e, log⟩ => some (.error (.machine e), log)
      | some ⟨.ok text, log⟩ => some (.ok text, log)

end TapeMachine.Cli
