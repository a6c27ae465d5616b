/-!
# Commands

What can be asked for on the command line, as data.
-/

namespace TapeMachine.Cli

/-- A command with its arguments. -/
inductive Command where
  | increment (digits : String) (flipping : Bool)
  | beaver3
  | beaver4
  | accept (input target : String) (head : Nat)
  | sequence (input first second : String)
  | handwritten (inputs : List String)
  | countdown (start : UInt64)
deriving DecidableEq, Repr

/-- A command and the options that hold for all commands. -/
structure Request where
  command : Command
  /-- The path of the settings file. -/
  config : Option String := none
  verbose : Bool := false
  resetAfter : Bool := false
  json : Bool := false
  noColor : Bool := false
deriving Repr

end TapeMachine.Cli
