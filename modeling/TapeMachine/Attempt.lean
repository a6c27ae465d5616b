import TapeMachine.Error

/-!
# Steps that may fail, and runs that may not end

An `Attempt` changes a state and either answers or fails; what it did before it failed stays done. A
`Run` is the same with a bound on its length, and says so when the bound was too small: `none` is no
error of the machine, only a run that was not followed to its end.
-/

namespace TapeMachine

/-- A change of a state `σ` that answers an `α` or fails. -/
def Attempt (σ α : Type) : Type := σ → Except MachineError α × σ

/-- A change of a state `σ` that answers, fails or was not followed to its end. -/
def Run (σ α : Type) : Type := σ → Option (Except MachineError α × σ)

variable {σ α β γ : Type}

namespace Attempt

def fail (e : MachineError) : Attempt σ α := fun s => (.error e, s)

/-- Asks the state a question that may have no answer. -/
def ask (question : σ → Except MachineError α) : Attempt σ α := fun s => (question s, s)

/-- Changes the state. -/
def change (f : σ → σ) : Attempt σ Unit := fun s => (.ok (), f s)

instance : Monad (Attempt σ) where
  pure a := fun s => (.ok a, s)
  bind x f := fun s =>
    match x s with
    | (.ok a, s') => f a s'
    | (.error e, s') => (.error e, s')

@[simp] theorem pure_apply (a : α) (s : σ) : (pure a : Attempt σ α) s = (.ok a, s) := rfl

theorem ask_of_ok {question : σ → Except MachineError α} {s : σ} {a : α}
    (h : question s = .ok a) : ask question s = (.ok a, s) := by
  rw [ask, h]

theorem ask_of_error {question : σ → Except MachineError α} {s : σ} {e : MachineError}
    (h : question s = .error e) : ask question s = (.error e, s) := by
  rw [ask, h]

theorem bind_of_ok {x : Attempt σ α} {f : α → Attempt σ β} {s s' : σ} {a : α}
    (h : x s = (.ok a, s')) : (x >>= f) s = f a s' := by
  show (match x s with | (.ok a, s') => f a s' | (.error e, s') => (.error e, s')) = f a s'
  rw [h]

theorem bind_of_error {x : Attempt σ α} {f : α → Attempt σ β} {s s' : σ} {e : MachineError}
    (h : x s = (.error e, s')) : (x >>= f) s = (.error e, s') := by
  show (match x s with | (.ok a, s') => f a s' | (.error e, s') => (.error e, s')) = _
  rw [h]

end Attempt

namespace Run

/-- An attempt is a run of known length. -/
def ofAttempt (x : Attempt σ α) : Run σ α := fun s => some (x s)

instance : Monad (Run σ) where
  pure a := fun s => some (.ok a, s)
  bind x f := fun s =>
    match x s with
    | none => none
    | some (.ok a, s') => f a s'
    | some (.error e, s') => some (.error e, s')

@[simp] theorem pure_apply (a : α) (s : σ) : (pure a : Run σ α) s = some (.ok a, s) := rfl

@[simp] theorem ofAttempt_apply (x : Attempt σ α) (s : σ) : ofAttempt x s = some (x s) := rfl

theorem bind_of_none {x : Run σ α} {f : α → Run σ β} {s : σ} (h : x s = none) :
    (x >>= f) s = none := by
  show (match x s with
    | none => none
    | some (.ok a, s') => f a s'
    | some (.error e, s') => some (.error e, s')) = none
  rw [h]

theorem bind_of_ok {x : Run σ α} {f : α → Run σ β} {s s' : σ} {a : α}
    (h : x s = some (.ok a, s')) : (x >>= f) s = f a s' := by
  show (match x s with
    | none => none
    | some (.ok a, s') => f a s'
    | some (.error e, s') => some (.error e, s')) = f a s'
  rw [h]

theorem bind_of_error {x : Run σ α} {f : α → Run σ β} {s s' : σ} {e : MachineError}
    (h : x s = some (.error e, s')) : (x >>= f) s = some (.error e, s') := by
  show (match x s with
    | none => none
    | some (.ok a, s') => f a s'
    | some (.error e, s') => some (.error e, s')) = _
  rw [h]

/-- A run in two parts that answered had an answer to its first part. -/
theorem exists_of_bind_eq_ok {x : Run σ α} {f : α → Run σ β} {s s'' : σ} {b : β}
    (h : (x >>= f) s = some (.ok b, s'')) :
    ∃ a s', x s = some (.ok a, s') ∧ f a s' = some (.ok b, s'') := by
  cases hx : x s with
  | none =>
    rw [bind_of_none hx] at h
    cases h
  | some p =>
    obtain ⟨e | a, s'⟩ := p
    · rw [bind_of_error hx] at h
      cases h
    · rw [bind_of_ok hx] at h
      exact ⟨a, s', rfl, h⟩

theorem bind_assoc (x : Run σ α) (f : α → Run σ β) (g : β → Run σ γ) :
    x >>= f >>= g = x >>= fun a => f a >>= g := by
  funext s
  cases h : x s with
  | none => rw [bind_of_none (bind_of_none h), bind_of_none h]
  | some p =>
    obtain ⟨e | a, s'⟩ := p
    · rw [bind_of_error (bind_of_error h), bind_of_error h]
    · rw [bind_of_ok h]
      cases h' : f a s' with
      | none => rw [bind_of_none ((bind_of_ok h).trans h'), bind_of_none h']
      | some p =>
        obtain ⟨e | b, s''⟩ := p
        · rw [bind_of_error ((bind_of_ok h).trans h'), bind_of_error h']
        · rw [bind_of_ok ((bind_of_ok h).trans h'), bind_of_ok h']

end Run

end TapeMachine
