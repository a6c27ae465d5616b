import TapeMachine.Session.Execution

/-!
# What a program leaves behind

`Report` is the active input tape and the counters at the end of a program. A program is a `Run` of
a session; `Logged` is its answer together with the lines it logged.
-/

namespace TapeMachine.Programs

open Text (Legible)

/-- The active input tape and the counters of a machine. -/
structure Report (S : Type) where
  tape : List S
  head : Nat
  /-- The tape as a reader sees it. -/
  rendered : String
  statistics : Statistics

/-- The report on a machine. -/
def Report.capture {S O W : Type} [BEq S] [Legible S] (m : Machine S O W) :
    Except MachineError (Report S) := do
  let tape ← m.inputTape none
  let rendered ← m.renderInput none
  return ⟨tape.storage.toList, tape.head, rendered, m.statistics⟩

/-- An answer, and the lines that were logged on the way to it. -/
structure Logged (α : Type) where
  answer : Except MachineError α
  log : List String

/-- Runs a program on a fresh machine. -/
def run {I O α : Type} [Legible I] [Legible O] (config : Config)
    (program : Run (Session I O Unit) α) : Option (Logged α) :=
  match program { machine := { config := config }, world := () } with
  | none => none
  | some (answer, s) => some ⟨answer, s.log.toList.map LogEntry.line⟩

/-- A cell of the active output tape. -/
def outputCell {I O : Type} (index : Nat) : Attempt (Session I O Unit) O := .ask fun s => do
  let tape ← s.machine.outputTape none
  match tape.storage.get index with
  | .ok value => return value
  | .error e => throw (.store e)

/-- The head of the active input tape. -/
def inputHead {I O : Type} : Attempt (Session I O Unit) Nat := .ask fun s => do
  let tape ← s.machine.inputTape none
  return tape.head

/-- Declares rules in their order. -/
def declareAll {I O W : Type} : List (Rule I (Op I O W)) → Attempt (Session I O W) Unit
  | [] => pure ()
  | rule :: rest => do
    Session.declare rule
    declareAll rest

end TapeMachine.Programs
