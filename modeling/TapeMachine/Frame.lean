import TapeMachine.Bank.Render
import TapeMachine.Config
import TapeMachine.Registry
import TapeMachine.Rule
import TapeMachine.Table

/-!
# The parts of a machine

A `Frame` is all that a machine holds: its configuration, two banks of tapes, the bound states, the
declared rules, the compiled tables and its counters. What it stores as code is opaque here: actions
are of any type `A`, instructions of any type `P`. So every question about a machine is asked of a
frame, and `Frame.outline` is a machine as code can see it, with all stored code left out.
-/

namespace TapeMachine

open Text (Legible)

/-- Everything that a machine over input symbols `I` and output symbols `O` holds, with actions `A`
and instructions `P` stored in it. -/
structure Frame (I O A P : Type) where
  config : Config := {}
  inputs : Bank I := {}
  outputs : Bank O := {}
  registry : Registry A := {}
  rules : RuleSet I P := {}
  /-- The compiled tables, at most one for a state. -/
  tables : Stack (Table I A) := .empty
  counters : Counters := {}

/-- A machine without its code: the tapes, pointers and counters, which states are bound, and of
rules and tables what they say apart from their instructions. -/
abbrev Outline (I O : Type) := Frame I O Unit Unit

namespace Frame

variable {I O A P : Type}

instance : Inhabited (Frame I O A P) := ⟨{}⟩

/-- The frame without its code. -/
def outline (m : Frame I O A P) : Outline I O :=
  { config := m.config, inputs := m.inputs, outputs := m.outputs
    registry := m.registry.map fun _ => ()
    rules := m.rules.map fun _ => ()
    tables := m.tables.map (Table.map fun _ => ())
    counters := m.counters }

/-! ## Questions -/

/-- An input tape; without an index, the active one. -/
def inputTape (m : Frame I O A P) (index : Option Nat) : Except MachineError (Tape I) :=
  m.inputs.tape (m.inputs.indexOf index)

/-- An output tape; without an index, the active one. -/
def outputTape (m : Frame I O A P) (index : Option Nat) : Except MachineError (Tape O) :=
  m.outputs.tape (m.outputs.indexOf index)

def inputBlank (m : Frame I O A P) : Except MachineError I :=
  match m.inputs.blank with
  | some b => .ok b
  | none => .error (.uninitializedValue "input blank")

def outputBlank (m : Frame I O A P) : Except MachineError O :=
  match m.outputs.blank with
  | some b => .ok b
  | none => .error (.uninitializedValue "output blank")

/-- The compiled table of a state, if it was built. -/
def compiled (m : Frame I O A P) (state : Int) : Option (Table I A) :=
  m.tables.find (·.state == state)

/-- Why nothing is bound to a state: its rules wait to be built, or nobody knows it. -/
def missingState (m : Frame I O A P) (state : Int) : MachineError :=
  if m.rules.hasState state then .unbuiltState state else .unknownState state

/-- The action bound to a state. -/
def lookup (m : Frame I O A P) (state : Int) : Except MachineError A :=
  match m.registry.get? state with
  | some action => .ok action
  | none => .error (m.missingState state)

def statistics (m : Frame I O A P) : Statistics :=
  ⟨m.counters, m.inputs.statistics, m.outputs.statistics⟩

def renderInput [BEq I] [Legible I] (m : Frame I O A P) (index : Option Nat) :
    Except MachineError String :=
  m.inputs.render (m.inputs.indexOf index)

def renderOutput [BEq O] [Legible O] (m : Frame I O A P) (index : Option Nat) :
    Except MachineError String :=
  m.outputs.render (m.outputs.indexOf index)

/-- All parts of the machine; of rules and tables only how many there are. -/
def debug [Legible I] [Legible O] (m : Frame I O A P) : String :=
  Text.debugRecord "Machine"
    [("config", m.config.debug), ("inputs", m.inputs.debug), ("outputs", m.outputs.debug),
      ("states", m.registry.debug), ("rules", toString m.rules.len),
      ("compiled", toString m.tables.len)]

end Frame

end TapeMachine
