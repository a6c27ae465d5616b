import TapeMachine.Session.Rules
import TapeMachine.Trampoline

/-!
# Running code

An action may invoke the actions of other states, perform instructions that are code again, and
start runs inside its run; none of that need end. So the evaluation counts: `Action.eval` with fuel
`n` follows code that nests less than `n` deep and runs of at most `n` actions. Within one action it
goes along the tree; where it leaves the tree it goes on with one fuel less.

Each layer says one thing, over the meaning `invoke` of actions one level deeper:
1. `Op.perform`: what an instruction does.
2. `Session.drive` and `Session.executeWith`: what a run does, one action after the other.
3. `Session.serveWith`: what a call does.
4. `Action.evalWith`: what an action does.

`Action.eval` and `Session.serve` close the circle.
-/

namespace TapeMachine

variable {I O W : Type}

/-- The meaning of actions. -/
abbrev Invocation (I O W : Type) :=
  Action I O W → Run (Session I O W) (Transition (Action I O W))

/-! ## Instructions -/

/-- Performs an instruction. Of two instructions the second is performed only if the first
succeeded; of code the transition is dropped and the error passed on. -/
def Op.perform [BEq I] [BEq O] (invoke : Invocation I O W) : Op I O W → Run (Session I O W) Unit
  | .input i => do
    let _ ← Run.ofAttempt (Session.serveInput i.request)
    return ()
  | .output i => do
    let _ ← Run.ofAttempt (Session.serveOutput i.request)
    return ()
  | .andThen first second => do
    first.perform invoke
    second.perform invoke
  | .custom code => do
    let _ ← invoke code
    return ()

namespace Session

variable [BEq I] [BEq O]

/-! ## Runs -/

/-- One action as a link of a chain whose argument is the session: a halt leaves no further action,
and an error ends the chain. -/
def bounce (invoke : Invocation I O W) (action : Action I O W) (s : Session I O W) :
    Option (Bounce (Action I O W) (Session I O W) (MachineError × Session I O W)) :=
  match invoke action s with
  | none => none
  | some (.ok (.enter next), s') => some (.continue (some next) s')
  | some (.ok .halt, s') => some (.continue none s')
  | some (.error e, s') => some (.done (e, s'))

/-- Runs an action and those that follow it, at most `fuel` in all, until one halts or fails. -/
def drive (invoke : Invocation I O W) (fuel : Nat) (action : Action I O W) :
    Run (Session I O W) Unit := fun s =>
  match trampoline (bounce invoke) fuel (some action) s with
  | none => none
  | some (.argument s') => some (.ok (), s')
  | some (.value (e, s')) => some (.error e, s')

/-- The state that a run starts from. -/
def startState (start : Start) (s : Session I O W) : Int :=
  match start with
  | .state id => id
  | .default => s.machine.registry.default
  | .current => s.machine.registry.current

/-- Enters the state that a run starts from. -/
def beginRun (start : Start) : Attempt (Session I O W) (Action I O W) := do
  let state ← .ask (Except.ok <| startState start ·)
  let action ← enterState state
  .change (·.note (.executingState state))
  return action

/-- What is done when a run has halted: if the machine is so configured at that moment, the tapes go
back to their snapshots. A run that failed leaves its tapes as they are. -/
def endRun : Attempt (Session I O W) Unit := do
  let config ← .ask (Except.ok ·.machine.config)
  if config.resetAfterExecution then reset else pure ()

/-- Enters a state and runs until the program halts or fails. -/
def executeWith (invoke : Invocation I O W) (fuel : Nat) (start : Start) :
    Run (Session I O W) Unit := do
  let action ← Run.ofAttempt (beginRun start)
  drive invoke fuel action
  Run.ofAttempt endRun

/-! ## Calls -/

/-- A run whose answer carries nothing. -/
def silently (x : Run (Session I O W) Unit) : Run (Session I O W) (Answer I O (Action I O W)) := do
  x
  return .done

/-- The action of a state, if one is bound. -/
def actionOf (state : Int) : Attempt (Session I O W) (Option (Action I O W)) :=
  .ask (Except.ok <| ·.machine.registry.get? state)

/-- Carries out a call. -/
def serveWith (invoke : Invocation I O W) (fuel : Nat) :
    Machine.Call I O W → Run (Session I O W) (Answer I O (Action I O W))
  | .configure update => silently <| .ofAttempt <| .change fun s =>
    { s with machine.config := s.machine.config.update update }
  | .observe on => silently <| .ofAttempt <| .change fun s => { s with observed := on }
  | .input request => do
    let reply ← Run.ofAttempt (serveInput request)
    return inputAnswer reply
  | .output request => do
    let reply ← Run.ofAttempt (serveOutput request)
    return outputAnswer reply
  | .apply op => silently (op.perform invoke)
  | .reset => silently (.ofAttempt reset)
  | .bind state action => silently (.ofAttempt (bindAction state action))
  | .share state owner => do
    match ← Run.ofAttempt (actionOf owner) with
    | none => return .absent
    | some action => silently (.ofAttempt (bindAction state action))
  | .find state => do
    match ← Run.ofAttempt (actionOf state) with
    | none => return .absent
    | some action => return .transition (.enter action)
  | .invoke state => do
    match ← Run.ofAttempt (actionOf state) with
    | none => return .absent
    | some action =>
      let transition ← invoke action
      return .transition transition
  | .setDefault state => silently (.ofAttempt (setDefault state))
  | .erase => silently (.ofAttempt eraseStates)
  | .transition target => do
    let transition ← Run.ofAttempt (transitionTo target)
    return .transition transition
  | .declare rule => silently (.ofAttempt (declare rule))
  | .build => silently (.ofAttempt build)
  | .buildState state => silently (.ofAttempt (buildState state))
  | .execute start => silently (executeWith invoke fuel start)

end Session

/-! ## Actions -/

/-- Follows an action along its tree. `held` are the transitions that its calls were answered
with. -/
def Action.evalWith [BEq I]
    (serve : Machine.Call I O W → Run (Session I O W) (Answer I O (Action I O W)))
    (invoke : Invocation I O W) :
    Action I O W → List (Transition (Action I O W)) → Run (Session I O W)
    (Transition (Action I O W))
  | .halt, _, s => some (.ok .halt, s)
  | .proceed i, held, s => some (.ok (held[i]?.getD .halt), s)
  | .fail e, _, s => some (.error e, s)
  | .enter next, _, s => some (.ok (.enter next), s)
  | .dispatch, _, s =>
    match Session.selectBranch s with
    | (.ok branch, s') => invoke branch s'
    | (.error e, s') => some (.error e, s')
  | .call request next, held, s =>
    match serve request s with
    | none => none
    | some (.ok answer, s') =>
      (next (.ok answer.shape)).evalWith serve invoke (answer.transitions ++ held) s'
    | some (.error e, s') => (next (.error e)).evalWith serve invoke held s'
  | .inspect next, held, s => (next s.machine.outline).evalWith serve invoke held s
  | .outside change next, held, s =>
    let world := change s.world
    (next world).evalWith serve invoke held { s with world := world }

/-- What an action does, if `fuel` suffices to follow it. -/
def Action.eval [BEq I] [BEq O] : Nat → Invocation I O W
  | 0, _, _ => none
  | fuel + 1, action, s =>
    action.evalWith (Session.serveWith (Action.eval fuel) fuel) (Action.eval fuel) [] s

namespace Session

variable [BEq I] [BEq O]

/-- Carries out a call, if `fuel` suffices to follow it. -/
def serve (fuel : Nat) : Machine.Call I O W → Run (Session I O W) (Answer I O (Action I O W)) :=
  serveWith (Action.eval fuel) fuel

/-- Starts a run, if `fuel` suffices to follow it. -/
def execute (fuel : Nat) (start : Start) : Run (Session I O W) Unit :=
  executeWith (Action.eval fuel) fuel start

end Session

end TapeMachine
