import TapeMachine.Session.Execution

/-!
# More fuel

Fuel bounds how far code is followed, and nothing else: whatever is answered with some fuel is
answered with every larger amount. So an answer of a run does not depend on the fuel it was followed
with, and two amounts that both suffice agree.

`Run.Within x y` says that every finished answer of `x` is one of `y`; each layer of the evaluation
keeps that relation.

Results:
1. `Action.eval_within`: what an action does with some fuel, it does with more.
2. `Session.serve_within` and `Session.execute_within`: the same for calls and for runs.
3. `Session.execute_unique`: two amounts of fuel that suffice give the same answer.
-/

namespace TapeMachine

variable {σ α β : Type}

/-! ## Finished answers that are kept -/

namespace Run

/-- Every finished answer of the first run is one of the second. -/
def Within (x y : Run σ α) : Prop := ∀ s r, x s = some r → y s = some r

theorem Within.refl (x : Run σ α) : x.Within x := fun _ _ h => h

theorem Within.bind {x y : Run σ α} {f g : α → Run σ β} (first : x.Within y)
    (next : ∀ a, (f a).Within (g a)) : (x >>= f).Within (y >>= g) := by
  intro s r h
  cases hx : x s with
  | none => rw [bind_of_none hx] at h; cases h
  | some p =>
    obtain ⟨e | a, s'⟩ := p
    · rw [bind_of_error hx] at h
      rw [bind_of_error (first _ _ hx), h]
    · rw [bind_of_ok hx] at h
      rw [bind_of_ok (first _ _ hx)]
      exact next a _ _ h

end Run

/-- A chain whose links are kept is kept. -/
theorem trampoline_within {F A T : Type} {invoke invoke' : F → A → Option (Bounce F A T)}
    (links : ∀ f a b, invoke f a = some b → invoke' f a = some b) {n : Nat} {action : Option F}
    {argument : A} {r : Outcome A T} (h : trampoline invoke n action argument = some r) :
    trampoline invoke' n action argument = some r := by
  induction n generalizing action argument with
  | zero =>
    cases action with
    | none => simpa using h
    | some f => simp [trampoline] at h
  | succ n ih =>
    cases action with
    | none => simpa using h
    | some f =>
      rw [trampoline] at h ⊢
      cases hi : invoke f argument with
      | none => simp [hi] at h
      | some b =>
        rw [links f argument b hi]
        rw [hi] at h
        cases b with
        | «continue» next a => exact ih h
        | done v => exact h

/-! ## The layers of the evaluation -/

variable {I O W : Type}

theorem Op.perform_within [BEq I] [BEq O] {invoke invoke' : Invocation I O W}
    (deeper : ∀ a, (invoke a).Within (invoke' a)) :
    ∀ op : Op I O W, (op.perform invoke).Within (op.perform invoke')
  | .input _ => Run.Within.refl _
  | .output _ => Run.Within.refl _
  | .andThen first second =>
    (first.perform_within deeper).bind fun _ => second.perform_within deeper
  | .custom code => (deeper code).bind fun _ => Run.Within.refl _

namespace Session

theorem bounce_within {invoke invoke' : Invocation I O W}
    (deeper : ∀ a, (invoke a).Within (invoke' a)) (action : Action I O W) (s : Session I O W)
    (b : Bounce (Action I O W) (Session I O W) (MachineError × Session I O W))
    (h : bounce invoke action s = some b) : bounce invoke' action s = some b := by
  unfold bounce at h ⊢
  cases hi : invoke action s with
  | none => simp [hi] at h
  | some p =>
    rw [deeper action _ _ hi]
    rw [hi] at h
    exact h

theorem drive_within {invoke invoke' : Invocation I O W}
    (deeper : ∀ a, (invoke a).Within (invoke' a)) {n m : Nat} (le : n ≤ m)
    (action : Action I O W) : (drive invoke n action).Within (drive invoke' m action) := by
  intro s r h
  unfold drive at h ⊢
  cases ht : trampoline (bounce invoke) n (some action) s with
  | none => simp [ht] at h
  | some o =>
    rw [trampoline_mono (trampoline_within (bounce_within deeper) ht) le]
    rw [ht] at h
    exact h

theorem executeWith_within {invoke invoke' : Invocation I O W}
    (deeper : ∀ a, (invoke a).Within (invoke' a)) {n m : Nat} (le : n ≤ m) (start : Start) :
    (executeWith invoke n start).Within (executeWith invoke' m start) :=
  (Run.Within.refl _).bind fun a =>
    (drive_within deeper le a).bind fun _ => Run.Within.refl _

theorem serveWith_within [BEq I] [BEq O] {invoke invoke' : Invocation I O W}
    (deeper : ∀ a, (invoke a).Within (invoke' a)) {n m : Nat} (le : n ≤ m)
    (call : Machine.Call I O W) :
    (serveWith invoke n call).Within (serveWith invoke' m call) := by
  cases call with
  | apply op => exact (op.perform_within deeper).bind fun _ => Run.Within.refl _
  | invoke state =>
    refine (Run.Within.refl _).bind fun found => ?_
    cases found with
    | none => exact Run.Within.refl _
    | some action => exact (deeper action).bind fun _ => Run.Within.refl _
  | execute start =>
    exact (executeWith_within deeper le start).bind fun _ => Run.Within.refl _
  | _ => exact Run.Within.refl _

end Session

theorem Action.evalWith_within [BEq I]
    {serve serve' : Machine.Call I O W → Run (Session I O W) (Answer I O (Action I O W))}
    {invoke invoke' : Invocation I O W} (calls : ∀ c, (serve c).Within (serve' c))
    (deeper : ∀ a, (invoke a).Within (invoke' a)) :
    ∀ (a : Action I O W) (held : List (Transition (Action I O W))),
      (a.evalWith serve invoke held).Within (a.evalWith serve' invoke' held)
  | .halt, _ => Run.Within.refl _
  | .proceed _, _ => Run.Within.refl _
  | .fail _, _ => Run.Within.refl _
  | .enter _, _ => Run.Within.refl _
  | .dispatch, held => by
    intro s r h
    simp only [Action.evalWith] at h ⊢
    split at h
    · exact deeper _ _ _ h
    · exact h
  | .call request next, held => by
    intro s r h
    simp only [Action.evalWith] at h ⊢
    cases hc : serve request s with
    | none => simp [hc] at h
    | some p =>
      rw [calls request _ _ hc]
      rw [hc] at h
      obtain ⟨e | answer, s'⟩ := p
      · exact (next (.error e)).evalWith_within calls deeper held _ _ h
      · exact (next (.ok answer.shape)).evalWith_within calls deeper _ _ _ h
  | .inspect next, held => fun s r h =>
    (next s.machine.outline).evalWith_within calls deeper held s r h
  | .outside change next, held => fun s r h =>
    (next (change s.world)).evalWith_within calls deeper held _ r h

/-! ## The evaluation -/

variable [BEq I] [BEq O]

/-- What an action does with some fuel, it does with more. -/
theorem Action.eval_within {n m : Nat} (le : n ≤ m) (a : Action I O W) :
    (Action.eval n a).Within (Action.eval m a) := by
  induction n generalizing m a with
  | zero => intro s r h; cases h
  | succ n ih =>
    obtain ⟨k, rfl⟩ : ∃ k, m = k + 1 := ⟨m - 1, by omega⟩
    have hk : n ≤ k := by omega
    exact Action.evalWith_within (fun c => Session.serveWith_within (ih hk) hk c) (ih hk) a []

namespace Session

/-- What a call does with some fuel, it does with more. -/
theorem serve_within {n m : Nat} (le : n ≤ m) (call : Machine.Call I O W) :
    (serve n call).Within (serve m call) :=
  serveWith_within (Action.eval_within le) le call

/-- What a run does with some fuel, it does with more. -/
theorem execute_within {n m : Nat} (le : n ≤ m) (start : Start) :
    (execute n start : Run (Session I O W) Unit).Within (execute m start) :=
  executeWith_within (Action.eval_within le) le start

/-- Two amounts of fuel that both suffice give the same answer. -/
theorem execute_unique {n m : Nat} {start : Start} {s : Session I O W}
    {r t : Except MachineError Unit × Session I O W} (hr : execute n start s = some r)
    (ht : execute m start s = some t) : r = t := by
  rcases Nat.le_total n m with le | le
  · exact Option.some.inj ((execute_within le start s r hr).symm.trans ht)
  · exact Option.some.inj (hr.symm.trans (execute_within le start s t ht))

end Session

end TapeMachine
