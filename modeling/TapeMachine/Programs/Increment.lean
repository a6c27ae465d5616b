import TapeMachine.Programs.Cells
import TapeMachine.Programs.Report

/-!
# Binary increment

The digits stand behind a blank, and the run starts on that blank. State 0 decides by the cell under
the head; state 1 walks toward the back to the blank behind the digits and halts on the last digit.
-/

namespace TapeMachine.Programs.Increment

/-- The blank cell. -/
def blank : String := " "

/-- Which rules state 1 has. -/
inductive Variant where
  /-- State 1 only moves. -/
  | plain
  /-- State 1 also flips each digit it passes. -/
  | flipping
deriving DecidableEq, Repr

/-- The rules of state 1 for the two digits. -/
def returning : Variant → List (Rule String (Op String Empty Unit))
  | .plain =>
    [ Rule.goingTo (.moving { state := 1, read := "0" } .left) 1,
      Rule.goingTo (.moving { state := 1, read := "1" } .left) 1 ]
  | .flipping =>
    [ Rule.goingTo (.moving (.writeSymbol { state := 1, read := "0" } "1") .left) 1,
      Rule.goingTo (.moving (.writeSymbol { state := 1, read := "1" } "0") .left) 1 ]

/-- The rules of a variant. -/
def rules (variant : Variant) : List (Rule String (Op String Empty Unit)) :=
  [ Rule.goingTo (.moving { state := 0, read := blank } .left) 1,
    Rule.goingTo (.moving (.writeSymbol { state := 0, read := "0" } "1") .right) 1,
    Rule.goingTo (.moving (.writeSymbol { state := 0, read := "1" } "0") .right) 0,
    Rule.moving { state := 1, read := blank } .right ] ++
  returning variant

/-- Lays the digits out behind a blank, with the head on it, and builds the rules. -/
def setup (digits : String) (variant : Variant) : Attempt (Session String Empty Unit) Unit := do
  let _ ← Session.serveInput (.setBlank blank)
  let _ ← Session.serveInput .add
  let _ ← Session.serveInput (.load none ((sequence digits).prepend blank) none)
  declareAll (rules variant)
  Session.build

/-- The program. -/
def program (fuel : Nat) (digits : String) (variant : Variant) :
    Run (Session String Empty Unit) (Report String) := do
  Run.ofAttempt (setup digits variant)
  Session.execute fuel (.state 0)
  Run.ofAttempt (.ask (Report.capture ·.machine))

end TapeMachine.Programs.Increment
