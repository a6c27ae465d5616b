import TapeMachine.Session.Basic

/-!
# Working on the tapes of a session

Every operation on a tape goes through `onInputs` or `onOutputs`: work on the bank, then record the
event. If the work fails, nothing has changed.
-/

namespace TapeMachine.Session

variable {I O W α : Type}

/-- Works on the input tapes and records what happened. -/
def onInputs (work : Bank I → Except MachineError (Bank.Traced I α × Bank I)) :
    Attempt (Session I O W) α := fun s =>
  match work s.machine.inputs with
  | .error e => (.error e, s)
  | .ok ((a, event), bank) =>
    let s := { s with machine.inputs := bank }
    (.ok a, match event with | some event => s.recordInput event | none => s)

/-- Works on the output tapes and records what happened. -/
def onOutputs (work : Bank O → Except MachineError (Bank.Traced O α × Bank O)) :
    Attempt (Session I O W) α := fun s =>
  match work s.machine.outputs with
  | .error e => (.error e, s)
  | .ok ((a, event), bank) =>
    let s := { s with machine.outputs := bank }
    (.ok a, match event with | some event => s.recordOutput event | none => s)

/-- The answer to a call as a bank gives it. -/
def inputAnswer {A : Type} : Bank.Reply I → Answer I O A
  | .done => .done
  | .index n => .index n
  | .symbol v => .input v

/-- The answer to a call as a bank gives it. -/
def outputAnswer {A : Type} : Bank.Reply O → Answer I O A
  | .done => .done
  | .index n => .index n
  | .symbol v => .output v

/-- Carries out a request to the input tapes. -/
def serveInput [BEq I] (request : Bank.Request I) : Attempt (Session I O W) (Bank.Reply I) :=
  onInputs (·.serve request)

/-- Carries out a request to the output tapes. -/
def serveOutput [BEq O] (request : Bank.Request O) : Attempt (Session I O W) (Bank.Reply O) :=
  onOutputs (·.serve request)

/-- Reads an input tape; without an index, the active one. -/
def readInput (tape : Option Nat) : Attempt (Session I O W) I :=
  onInputs fun b =>
    (b.tracedRead (b.indexOf tape)).map fun ((value, event), b) => ((value, some event), b)

/-- Takes every tape back to its snapshot. Bindings, rules and tables stay. -/
def reset : Attempt (Session I O W) Unit := .change fun s =>
  let s := s.note (.resettingTapes s.machine.inputs.tapes.len s.machine.outputs.tapes.len)
  { s with machine.inputs := s.machine.inputs.reset, machine.outputs := s.machine.outputs.reset }

end TapeMachine.Session
