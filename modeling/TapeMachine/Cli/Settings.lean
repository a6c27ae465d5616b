import TapeMachine.Cli.Document
import TapeMachine.Config
import TapeMachine.Text.Blank

/-!
# Settings of a run

The configuration of a machine is put together from four sources, each stronger than those before
it: the defaults, a settings file, an environment variable and the flags of the command line. The
environment and the flags can only turn a setting on.
-/

namespace TapeMachine.Cli

/-- What is found where a settings file should be. -/
inductive Source where
  | missing
  | bytes (content : ByteArray)

inductive SettingsError where
  /-- There is no such file, or it holds no text. -/
  | unreadable
  /-- The text is no settings. -/
  | malformed
deriving DecidableEq, Repr

/-- What the flags turn on. -/
structure Overrides where
  verbose : Bool := false
  resetAfter : Bool := false

namespace Settings

/-- Reads the members of a settings object, each setting at most once; others are passed over. -/
def ofMembers? : List (Option String × Document) → Option (Option Bool × Option Bool)
  | [] => some (none, none)
  | (name, item) :: rest => do
    let name ← name
    let (verbose, reset) ← ofMembers? rest
    if name == "verbose" then
      match item, verbose with
      | .truth b, none => some (some b, reset)
      | _, _ => none
    else if name == "reset_after_execution" then
      match item, reset with
      | .truth b, none => some (verbose, some b)
      | _, _ => none
    else some (verbose, reset)

/-- The configuration that a document describes: an object with the settings as members, or a list
of them in their order. What is not said is off. -/
def ofDocument? : Document → Option Config
  | .members list =>
    (ofMembers? list).map fun (verbose, reset) => ⟨verbose.getD false, reset.getD false⟩
  | .list [] => some {}
  | .list [.truth verbose] => some { verbose := verbose }
  | .list [.truth verbose, .truth reset] => some ⟨verbose, reset⟩
  | _ => none

/-- Reads a settings file. -/
def load : Source → Except SettingsError Config
  | .missing => .error .unreadable
  | .bytes content =>
    match String.fromUTF8? content with
    | none => .error .unreadable
    | some text =>
      match (Document.ofText? text).bind ofDocument? with
      | none => .error .malformed
      | some config => .ok config

/-- The environment variable that can make a run verbose. -/
def variableName : String := "TAPEWORKS_VERBOSE"

/-- Whether the value of an environment variable turns a setting on: one of four words, in any case
of its letters and with blanks around it. -/
def isOn : Option String → Bool
  | none => false
  | some value =>
    let word := (Text.trimBlanks value.toList).map Char.toLower
    [['1'], "true".toList, "yes".toList, "on".toList].contains word

/-- The configuration from all sources. -/
def resolve (file : Option Source) (environment : Option String) (overrides : Overrides) :
    Except SettingsError Config := do
  let config ←
    match file with
    | some source => load source
    | none => .ok {}
  return {
    verbose := config.verbose || isOn environment || overrides.verbose
    resetAfterExecution := config.resetAfterExecution || overrides.resetAfter }

end Settings

end TapeMachine.Cli
