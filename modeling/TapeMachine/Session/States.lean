import TapeMachine.Session.Basic

/-!
# States and transitions of a session
-/

namespace TapeMachine.Session

variable {I O W : Type}

/-- Binds an action to a state. -/
def bindAction (state : Int) (action : Action I O W) : Attempt (Session I O W) Unit :=
  .change fun s =>
    let s := s.note (.addingState state)
    { s with
      machine.registry := s.machine.registry.add state action
      machine.counters.states := s.machine.counters.states + 1 }

/-- Chooses the default state, which must be bound. -/
def setDefault (state : Int) : Attempt (Session I O W) Unit := do
  let _ ← .ask (·.machine.lookup state)
  .change fun s =>
    let s := s.note (.settingDefault state)
    { s with machine.registry := s.machine.registry.setDefault state }

/-- Drops every binding; both pointers go back to where they were at first. -/
def eraseStates : Attempt (Session I O W) Unit := .change fun s =>
  let s := s.note .erasingStates
  { s with machine.registry := s.machine.registry.erase }

/-- Makes a bound state the current one and gets its action. -/
def enterState (state : Int) : Attempt (Session I O W) (Action I O W) := do
  let action ← .ask (·.machine.lookup state)
  .change fun s => { s with machine.registry := s.machine.registry.setCurrent state }
  return action

/-- Makes a transition: the target becomes current, and the step is counted and recorded. A target
to which nothing is bound is refused before anything changes. -/
def transitionTo (target : Target) : Attempt (Session I O W) (Transition (Action I O W)) := do
  let source ← .ask (Except.ok ·.machine.registry.current)
  match target with
  | .goTo none | .stop =>
    .change (·.recordTransition source none)
    return .halt
  | .goTo (some state) =>
    let action ← enterState state
    .change (·.recordTransition source (some state))
    return .enter action
  | .current =>
    let action ← .ask (·.machine.lookup source)
    .change (·.recordTransition source (some source))
    return .enter action
  | .default =>
    let state ← .ask (Except.ok ·.machine.registry.default)
    let action ← enterState state
    .change (·.recordTransition source (some state))
    return .enter action

end TapeMachine.Session
