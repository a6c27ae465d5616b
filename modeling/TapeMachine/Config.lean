import TapeMachine.Text.Legible

/-!
# Configuration of a machine
-/

namespace TapeMachine

/-- How a machine behaves around a run; no setting changes what a run computes. -/
structure Config where
  /-- Log every operation and transition. -/
  verbose : Bool := false
  /-- Take every tape back to its snapshot after a run that halted. -/
  resetAfterExecution : Bool := false
deriving DecidableEq, Repr

/-- New values for some of the settings; `none` leaves a setting as it is. -/
structure Config.Update where
  verbose : Option Bool := none
  resetAfterExecution : Option Bool := none
deriving DecidableEq, Repr

namespace Config

def update (c : Config) (u : Update) : Config :=
  ⟨u.verbose.getD c.verbose, u.resetAfterExecution.getD c.resetAfterExecution⟩

def debug (c : Config) : String :=
  Text.debugRecord "MachineConfig"
    [("verbose", toString c.verbose), ("reset_after_execution", toString c.resetAfterExecution)]

end Config

end TapeMachine
