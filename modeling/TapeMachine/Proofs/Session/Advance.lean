import TapeMachine.Session.Fuel

/-!
# A run, action by action

A run that need not end is told by where it stands after `n` actions, for every `n`:
`Session.advance` invokes at most so many actions and says whether the run goes on or how it ended.

Results:
1. `advance_of_enter`, `advance_of_halt`, `advance_of_error`: what the next action makes of a run.
2. `drive_eq_advance`, `executeWith_eq_advance`, `execute_eq_underway`: a run of at most `n` actions
   is answered exactly if it ended by then, and answers what it ended with.
3. `advance_within`: where a run stands does not depend on the fuel that its actions were followed
   with.
4. `advance_add`, `advance_of_ended`, `exists_going_of_le`: a run goes on from where it stands, and
   one that ended stays ended.
-/

namespace TapeMachine

/-- Where a run stands in a state `σ`: about to go on with an `A`, or ended. -/
inductive Standing (A σ : Type) where
  | going (next : A) (s : σ)
  | ended (result : Except MachineError Unit) (s : σ)

namespace Standing

variable {A B σ : Type}

def map (f : A → B) : Standing A σ → Standing B σ
  | going next s => going (f next) s
  | ended result s => ended result s

/-- How a run ended, if it did. -/
def outcome? : Standing A σ → Option (Except MachineError Unit × σ)
  | going _ _ => none
  | ended result s => some (result, s)

/-- What a run leaves behind, whether it ended or not. -/
def state : Standing A σ → σ
  | going _ s => s
  | ended _ s => s

/-- The same standing in what is seen of the state. -/
def mapState {τ : Type} (f : σ → τ) : Standing A σ → Standing A τ
  | going next s => going next (f s)
  | ended result s => ended result (f s)

theorem outcome?_eq_some_iff {x : Standing A σ} {result : Except MachineError Unit} {s : σ} :
    x.outcome? = some (result, s) ↔ x = .ended result s := by
  cases x with
  | going next s' => exact ⟨nofun, nofun⟩
  | ended result' s' =>
    constructor
    · intro h
      cases h
      rfl
    · intro h
      cases h
      rfl

@[simp] theorem outcome?_map (f : A → B) (x : Standing A σ) : (x.map f).outcome? = x.outcome? := by
  cases x <;> rfl

end Standing

namespace Session

variable {I O W : Type}

/-- Where a run stands after at most `n` actions. -/
def advance (invoke : Invocation I O W) :
    Nat → Action I O W → Session I O W → Option (Standing (Action I O W) (Session I O W))
  | 0, action, s => some (.going action s)
  | n + 1, action, s =>
    match bounce invoke action s with
    | none => none
    | some (.continue (some next) s') => advance invoke n next s'
    | some (.continue none s') => some (.ended (.ok ()) s')
    | some (.done (e, s')) => some (.ended (.error e) s')

/-- Where a run stands after at most `n` actions, from its start on. -/
def underway [BEq I] [BEq O] (fuel n : Nat) (start : Start) (s : Session I O W) :
    Option (Standing (Action I O W) (Session I O W)) :=
  match beginRun start s with
  | (.ok action, entered) => advance (Action.eval fuel) n action entered
  | (.error e, s') => some (.ended (.error e) s')

variable {invoke invoke' : Invocation I O W}

/-! ## The next action -/

section NextAction

variable {n : Nat} {action next : Action I O W} {s s' : Session I O W}

theorem advance_of_none (h : invoke action s = none) : advance invoke (n + 1) action s = none := by
  simp only [advance, bounce, h]

theorem advance_of_enter (h : invoke action s = some (.ok (.enter next), s')) :
    advance invoke (n + 1) action s = advance invoke n next s' := by
  simp only [advance, bounce, h]

theorem advance_of_halt (h : invoke action s = some (.ok .halt, s')) :
    advance invoke (n + 1) action s = some (.ended (.ok ()) s') := by
  simp only [advance, bounce, h]

theorem advance_of_error {e : MachineError} (h : invoke action s = some (.error e, s')) :
    advance invoke (n + 1) action s = some (.ended (.error e) s') := by
  simp only [advance, bounce, h]

end NextAction

/-! ## Bounded runs -/

theorem drive_eq_advance (n : Nat) (action : Action I O W) (s : Session I O W) :
    drive invoke n action s = (advance invoke n action s).bind Standing.outcome? := by
  induction n generalizing action s with
  | zero => rfl
  | succ n ih =>
    -- the trampoline and `advance` make the same first link and go on from it
    cases hb : bounce invoke action s with
    | none => simp only [drive, trampoline, advance, hb, Option.bind_none]
    | some bounced =>
      cases bounced with
      | done value => simp only [drive, trampoline, advance, hb]; rfl
      | «continue» next s' =>
        cases next with
        | none => simp only [drive, trampoline, trampoline_none, advance, hb]; rfl
        | some next =>
          have h := ih next s'
          simp only [drive] at h
          simp only [drive, trampoline, advance, hb]
          exact h

/-- How a run ends when it is over: after a halt the tapes may be reset. -/
def finish {A : Type} :
    Standing A (Session I O W) → Option (Except MachineError Unit × Session I O W)
  | .going _ _ => none
  | .ended (.ok ()) s => some (endRun s)
  | .ended (.error e) s => some (.error e, s)

theorem executeWith_eq_advance {start : Start} {s entered : Session I O W} {action : Action I O W}
    (h : beginRun start s = (.ok action, entered)) (n : Nat) :
    executeWith invoke n start s = (advance invoke n action entered).bind finish := by
  have hb : Run.ofAttempt (beginRun start) s = some (.ok action, entered) := by
    rw [Run.ofAttempt_apply, h]
  rw [executeWith, Run.bind_of_ok hb]
  have hd : drive invoke n action entered = _ := drive_eq_advance n action entered
  cases ha : advance invoke n action entered with
  | none =>
    rw [ha] at hd
    exact Run.bind_of_none hd
  | some standing =>
    rw [ha] at hd
    cases standing with
    | going next s' => exact Run.bind_of_none hd
    | ended result s' =>
      cases result with
      | ok _ => exact Run.bind_of_ok hd
      | error e => exact Run.bind_of_error hd

/-- A run is answered with where it stands when its fuel is used up, if that is an end. -/
theorem execute_eq_underway [BEq I] [BEq O] (fuel : Nat) (start : Start) (s : Session I O W) :
    execute fuel start s = (underway fuel fuel start s).bind finish := by
  rw [underway]
  cases hb : beginRun start s with
  | mk found entered =>
    cases found with
    | ok action => exact executeWith_eq_advance hb fuel
    | error e =>
      have refused : Run.ofAttempt (beginRun start) s = some (.error e, entered) := congrArg some hb
      exact Run.bind_of_error refused

/-- Without the reset, a run ends as it stands. -/
theorem finish_eq_outcome? {A : Type} {x : Standing A (Session I O W)}
    (h : x.state.machine.config.resetAfterExecution = false) : finish x = x.outcome? := by
  cases x with
  | going next s => rfl
  | ended result s =>
    cases result with
    | error e => rfl
    | ok _ =>
      have hr : s.machine.config.resetAfterExecution = false := h
      have he : (Attempt.ask (Except.ok ·.machine.config) : Attempt (Session I O W) Config) s =
          (.ok s.machine.config, s) := rfl
      rw [finish, endRun, Attempt.bind_of_ok he, hr]
      rfl

/-! ## Fuel and length -/

theorem advance_within (deeper : ∀ a, (invoke a).Within (invoke' a)) {n : Nat}
    {action : Action I O W} {s : Session I O W} {x : Standing (Action I O W) (Session I O W)}
    (h : advance invoke n action s = some x) : advance invoke' n action s = some x := by
  induction n generalizing action s with
  | zero => exact h
  | succ n ih =>
    cases hb : bounce invoke action s with
    | none => simp [advance, hb] at h
    | some bounced =>
      rw [advance, bounce_within deeper _ _ _ hb]
      rw [advance, hb] at h
      cases bounced with
      | done value => exact h
      | «continue» next s' =>
        cases next with
        | none => exact h
        | some next => exact ih h

theorem underway_within [BEq I] [BEq O] {fuel fuel' n : Nat} (le : fuel ≤ fuel') {start : Start}
    {s : Session I O W} {x : Standing (Action I O W) (Session I O W)}
    (h : underway fuel n start s = some x) :
    underway fuel' n start s = some x := by
  unfold underway at h ⊢
  split at h
  · exact advance_within (Action.eval_within le) h
  · exact h

/-- A run goes on from where it stands. -/
theorem advance_add (n k : Nat) (action : Action I O W) (s : Session I O W) :
    advance invoke (n + k) action s = (advance invoke n action s).bind fun
      | .going next s' => advance invoke k next s'
      | .ended result s' => some (.ended result s') := by
  induction n generalizing action s with
  | zero => rw [Nat.zero_add]; rfl
  | succ n ih =>
    rw [Nat.add_right_comm, advance, advance]
    cases hb : bounce invoke action s with
    | none => rfl
    | some bounced =>
      cases bounced with
      | done value => rfl
      | «continue» next s' =>
        cases next with
        | none => rfl
        | some next => exact ih next s'

/-- A run that ended within some number of actions is where it was after any more of them. -/
theorem advance_of_ended {n m : Nat} {action : Action I O W} {s s' : Session I O W}
    {result : Except MachineError Unit} (h : advance invoke n action s = some (.ended result s'))
    (le : n ≤ m) : advance invoke m action s = some (.ended result s') := by
  obtain ⟨k, rfl⟩ := Nat.exists_eq_add_of_le le
  rw [advance_add, h]
  rfl

/-- A run that goes on after some number of actions went on after every smaller number. -/
theorem exists_going_of_le {n m : Nat} {action next : Action I O W} {s s' : Session I O W}
    (h : advance invoke m action s = some (.going next s')) (le : n ≤ m) :
    ∃ next' t, advance invoke n action s = some (.going next' t) := by
  obtain ⟨k, rfl⟩ := Nat.exists_eq_add_of_le le
  rw [advance_add] at h
  obtain ⟨x, hx, hgo⟩ := Option.bind_eq_some_iff.1 h
  cases x with
  | going next' t => exact ⟨next', t, hx⟩
  | ended result t => cases hgo

end Session

end TapeMachine
