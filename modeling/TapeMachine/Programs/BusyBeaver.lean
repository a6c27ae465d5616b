import TapeMachine.Programs.Report

/-!
# Busy beavers

Two machines that start on one blank cell and write as many ones as they can before they halt. The
symbol 0 never comes up; each state still has a rule for it, which blanks the cell and starts over.
-/

namespace TapeMachine.Programs.BusyBeaver

/-- The blank cell. -/
def blank : Int := -1

/-- The rules of a beaver. -/
abbrev Rules := List (Rule Int (Op Int Empty Unit))

/-- A rule that writes, moves and goes on. -/
def step (state read write : Int) (direction : Direction) (next : Int) :
    Rule Int (Op Int Empty Unit) :=
  Rule.goingTo (.moving (.writeSymbol { state := state, read := read } write) direction) next

/-- The rule of a state for the symbol that never comes up. -/
def restart (state : Int) : Rule Int (Op Int Empty Unit) :=
  Rule.goingTo (.writeSymbol { state := state, read := 0 } blank) 0

/-- Three states: six ones after fourteen transitions. -/
def three : Rules :=
  [ step 0 blank 1 .left 1, restart 0, Rule.writeSymbol { state := 0, read := 1 } 1,
    step 1 blank blank .left 2, restart 1, step 1 1 1 .left 1,
    step 2 blank 1 .right 2, restart 2, step 2 1 1 .right 0 ]

/-- Four states: twelve ones after 107 transitions. -/
def four : Rules :=
  [ step 0 blank 1 .right 1, restart 0, step 0 1 1 .left 1,
    step 1 blank 1 .left 0, restart 1, step 1 1 blank .left 2,
    { state := 2, read := blank }, restart 2, step 2 1 1 .left 3,
    step 3 blank 1 .right 3, restart 3, step 3 1 blank .right 0 ]

/-- How many ones are on the tape of a report. -/
def ones (report : Report Int) : Nat := report.tape.countP (· == 1)

/-- A tape of one blank, and the rules built. -/
def setup (rules : Rules) : Attempt (Session Int Empty Unit) Unit := do
  let _ ← Session.serveInput (.setBlank blank)
  let _ ← Session.serveInput .add
  let _ ← Session.serveInput (.load none (.ofList [blank]) none)
  declareAll rules
  Session.build

/-- What a beaver says at its end. -/
def conclusion (report : Report Int) : LogEntry Int Empty :=
  .conclusion "busy beaver halted"
    [("ones", toString (ones report)),
      ("transitions", toString report.statistics.counters.transitions)]

/-- The program with the given rules. -/
def program (fuel : Nat) (rules : Rules) : Run (Session Int Empty Unit) (Report Int) := do
  Run.ofAttempt (setup rules)
  Session.execute fuel (.state 0)
  let report ← Run.ofAttempt (.ask (Report.capture ·.machine))
  Run.ofAttempt (.change (·.conclude (conclusion report)))
  return report

end TapeMachine.Programs.BusyBeaver
