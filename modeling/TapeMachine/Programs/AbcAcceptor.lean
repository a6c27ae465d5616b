import TapeMachine.Programs.Cells
import TapeMachine.Programs.Report

/-!
# An acceptor without rules

Accepts the texts that start with "abc". Its four states are bound to code, and the entry is the
default state. The machine is kept from one check to the next and reset after each one.
-/

namespace TapeMachine.Programs.AbcAcceptor

/-- The machine between two checks. -/
abbrev State := Session String Bool Unit

/-- The state after the "a". -/
def afterA : Int := 0

/-- The state after the "b". -/
def afterB : Int := 1

/-- The state after a symbol that does not fit. -/
def reject : Int := 2

/-- Reads a symbol and goes on by whether it is the expected one. -/
def expecting (symbol : String) (yes : Action String Bool Unit) : Action String Bool Unit :=
  .onInput fun read => if read == symbol then yes else .follow (.goTo (some reject))

/-- Steps to the next symbol and goes to a state. -/
def advance (state : Int) : Action String Bool Unit :=
  .andThen (.input (.move none .left)) (.follow (.goTo (some state)))

/-- Writes the verdict and halts. -/
def verdict (accepted : Bool) : Action String Bool Unit :=
  .andThen (.output (.write none accepted)) (.follow .stop)

/-- Binds the states and adds the tapes. -/
def setup : Attempt State Unit := do
  let _ ← Session.serveInput (.setBlank "")
  let _ ← Session.serveOutput (.setBlank false)
  Session.bindAction defaultState (expecting "a" (advance afterA))
  Session.bindAction afterA (expecting "b" (advance afterB))
  Session.bindAction afterB (expecting "c" (verdict true))
  Session.bindAction reject (verdict false)
  let _ ← Session.serveInput .add
  let _ ← Session.serveOutput .add
  let _ ← Session.serveOutput (.load none (.ofList [false]) none)
  let _ ← Session.serveOutput (.setSnapshot none (.ofList [false]))
  return ()

/-- The acceptor before its first check. It resets its machine itself, after it has read the
verdict, so the machine is told not to. -/
def start (config : Config) : Except MachineError Unit × State :=
  setup { machine := { config := { config with resetAfterExecution := false } }, world := () }

/-- Lays out a text. -/
def load (text : String) : Attempt State Unit := do
  let _ ← Session.serveInput (.load none (sequence text) (some 0))
  return ()

/-- Reads the verdict and resets the machine. -/
def finish (text : String) : Attempt State Bool := do
  let accepted ← outputCell 0
  .change (·.conclude (.conclusion "handwritten acceptor finished"
    [("input", Text.quoted text), ("accepted", toString accepted)]))
  Session.reset
  return accepted

/-- Whether the text starts with "abc". -/
def check (fuel : Nat) (text : String) : Run State Bool := do
  Run.ofAttempt (load text)
  Session.execute fuel .default
  Run.ofAttempt (finish text)

/-- Checks texts one after the other, up to the first failure. -/
def checkAll (fuel : Nat) : List String → Run State (List (String × Bool))
  | [] => pure []
  | text :: rest => do
    let accepted ← check fuel text
    let others ← checkAll fuel rest
    return (text, accepted) :: others

/-- A fresh acceptor and its checks. -/
def program (fuel : Nat) (texts : List String) : Run State (List (String × Bool)) := do
  Run.ofAttempt setup
  checkAll fuel texts

end TapeMachine.Programs.AbcAcceptor
