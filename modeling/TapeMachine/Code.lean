import TapeMachine.Bank.Request
import TapeMachine.Frame

/-!
# Code that works a machine

A state is bound to an action: code that works the machine through its calls and ends with a
transition. Code is data here. An `Action` is a tree: it makes a call and goes on according to the
answer, looks at the machine (at its `Outline`: never at the code stored in it), touches what lies
outside the machine, or ends. What an action does is defined by its evaluation in
`TapeMachine.Session.Execution`.

An `Op` is the smaller kind of code that rules are made of. `Call` lists the calls that change a
machine; it is over the types of the code it hands in, which is how a call can contain code and code
a call.

One way to work a machine is left out. Of the code that a machine stores, the calls hand out what is
bound to a state, but not what belongs to rules: no call takes a branch out of a table, or compiles
a table on the spot, to run, enter or bind the branch itself, and none declares a copy of a stored
rule. In a single run that makes no difference, since the branch or the rule can be written into the
code where it is used. Where two machines with different rules are compared it does, because there
one piece of code would stand for two.
-/

namespace TapeMachine

/-- How an action ends: another action is to be run, or none. -/
inductive Transition (A : Type) where
  | enter (next : A)
  | halt

/-- The goal of a transition. -/
inductive Target where
  /-- A state, or `none` to halt. -/
  | goTo (state : Option Int)
  /-- The current state once more. -/
  | current
  /-- The default state. -/
  | default
  /-- No state: halt. -/
  | stop
deriving DecidableEq, Repr

/-- Where a run starts. -/
inductive Start where
  | state (id : Int)
  | default
  | current
deriving DecidableEq, Repr

/-- The calls that change a machine, but for those that take branches or rules out of it. `A` is the
type of actions and `P` that of instructions. -/
inductive Call (I O A P : Type) where
  /-- Changes some of the settings. -/
  | configure (update : Config.Update)
  /-- Installs an observer, or removes it. -/
  | observe (on : Bool)
  | input (request : Bank.Request I)
  | output (request : Bank.Request O)
  | apply (op : P)
  | reset
  | bind (state : Int) (action : A)
  /-- Binds the action of one state to another one. -/
  | share (state : Int) (owner : Int)
  /-- Gets the action of a state as a transition to it, without entering the state. -/
  | find (state : Int)
  /-- Runs the action of a state here and gets its transition, without following it. -/
  | invoke (state : Int)
  | setDefault (state : Int)
  | erase
  | transition (target : Target)
  | declare (rule : Rule I P)
  | build
  | buildState (state : Int)
  | execute (start : Start)

/-- The answer to a call. -/
inductive Answer (I O A : Type) where
  | done
  | index (value : Nat)
  | input (symbol : I)
  | output (symbol : O)
  | transition (value : Transition A)
  /-- No action was there to be shared, found or run. -/
  | absent

namespace Transition

variable {A B : Type}

def map (f : A → B) : Transition A → Transition B
  | enter a => enter (f a)
  | halt => halt

/-- A transition in a trace. -/
def debug : Transition A → String
  | enter _ => "Enter(..)"
  | halt => "Halt"

end Transition

namespace Answer

variable {I O A : Type}

/-- The answer as code sees it: of a transition only whether it halts. -/
def shape : Answer I O A → Answer I O Unit
  | done => done
  | index n => index n
  | input v => input v
  | output v => output v
  | transition t => transition (t.map fun _ => ())
  | absent => absent

/-- The transition that came with the answer, if any. -/
def transitions : Answer I O A → List (Transition A)
  | transition t => [t]
  | _ => []

end Answer

/-- An instruction on one tape. Without an index it is for the active one. -/
inductive Instruction (S : Type) where
  | write (tape : Option Nat) (value : S)
  | move (tape : Option Nat) (direction : Direction)

def Instruction.request {S : Type} : Instruction S → Bank.Request S
  | write tape value => .write tape value
  | move tape direction => .move tape direction

mutual

/-- Code that ends with a transition. `W` is what lies outside the machine. While an action runs it
holds the transitions its calls were answered with, the latest first. -/
inductive Action (I O W : Type) where
  /-- Ends without a next action. -/
  | halt
  /-- Ends with a held transition; 0 is the latest. Halts if there is no such transition. -/
  | proceed (held : Nat)
  /-- Ends with an error. -/
  | fail (error : MachineError)
  /-- Ends with the given action as the next one. -/
  | enter (next : Action I O W)
  /-- Reads the active input tape and ends as the branch of the current state's table ends. -/
  | dispatch
  /-- Makes a call and goes on with its answer or its error. -/
  | call (request : Call I O (Action I O W) (Op I O W))
      (next : Except MachineError (Answer I O Unit) → Action I O W)
  /-- Looks at the machine. -/
  | inspect (next : Outline I O → Action I O W)
  /-- Changes what lies outside and looks at it. -/
  | outside (change : W → W) (next : W → Action I O W)

/-- Code that works the machine and has no transition. -/
inductive Op (I O W : Type) where
  | input (instruction : Instruction I)
  | output (instruction : Instruction O)
  | andThen (first second : Op I O W)
  /-- Any code; its transition is dropped. -/
  | custom (code : Action I O W)

end

/-- A machine whose actions and instructions are code. -/
abbrev Machine (I O W : Type) := Frame I O (Action I O W) (Op I O W)

/-- The calls of such a machine. -/
abbrev Machine.Call (I O W : Type) := TapeMachine.Call I O (Action I O W) (Op I O W)

variable {I O W : Type}

namespace Op

/-- Writes to the active input tape. -/
def writeInput (value : I) : Op I O W := .input (.write none value)

/-- Writes to the active output tape. -/
def writeOutput (value : O) : Op I O W := .output (.write none value)

/-- Moves the head of the active input tape. -/
def moveInput (direction : Direction) : Op I O W := .input (.move none direction)

end Op

namespace Action

/-- Makes a call, passes on its error, and goes on. -/
def andThen (request : Machine.Call I O W) (next : Action I O W) : Action I O W :=
  .call request fun
    | .error e => .fail e
    | .ok _ => next

/-- Makes a transition and ends with it. -/
def follow (target : Target) : Action I O W := andThen (.transition target) (.proceed 0)

/-- Reads the active input tape and goes on with the symbol. A read is answered with a symbol of the
input tape or with an error, so the other answers do not come. -/
def onInput (next : I → Action I O W) : Action I O W :=
  .call (.input (.read none)) fun
    | .error e => .fail e
    | .ok (.input symbol) => next symbol
    | .ok _ => .halt

/-- Performs an instruction, if there is one, and goes on. -/
def performing : Option (Op I O W) → Action I O W → Action I O W
  | none, next => next
  | some op, next => andThen (.apply op) next

end Action

namespace Rule

/-- Writes `value` on a match, unless it equals the symbol that the rule reads: then there is
nothing to write, and a write declared before is dropped. -/
def writeSymbol [BEq I] (r : Rule I (Op I O W)) (value : I) : Rule I (Op I O W) :=
  { r with write := if value == r.read then none else some (.writeInput value) }

/-- Moves the head of the active input tape on a match. -/
def moving (r : Rule I (Op I O W)) (direction : Direction) : Rule I (Op I O W) :=
  r.withMoves (.moveInput direction)

/-- What the rule does on a match: write, move, go on. -/
def onMatch (r : Rule I (Op I O W)) : Action I O W :=
  .performing r.write (.performing r.moves (.follow (.goTo r.next)))

/-- What the rule does on a miss: the fallback, then go on or halt. -/
def onMiss (r : Rule I (Op I O W)) : Action I O W :=
  .performing r.fallback <|
    match r.fallbackNext with
    | some state => .follow (.goTo (some state))
    | none => .follow .stop

/-- The prepared rule. -/
def entry (r : Rule I (Op I O W)) : TableEntry I (Action I O W) := ⟨r.read, r.onMatch, r.onMiss⟩

end Rule

/-- The table of a state, if rules are declared for it. -/
def RuleSet.compile (rs : RuleSet I (Op I O W)) (state : Int) : Option (Table I (Action I O W)) :=
  Table.ofEntries? state ((rs.rulesFor state).map Rule.entry)

end TapeMachine
