/-!
# Trampolines

A chain of actions where each one answers with the next one and its argument, or with a value, is
run in a loop: no action calls another one, so a chain of any length needs no depth. What "invoking"
an action means is given by a function; it may itself be unable to finish, which is `none`.
-/

namespace TapeMachine

/-- What an invocation answers. -/
inductive Bounce (F A T : Type) where
  /-- The next action, if any, and the argument for it. -/
  | continue (next : Option F) (argument : A)
  /-- The end, with a value. -/
  | done (value : T)
deriving DecidableEq, Repr

/-- How a chain ended: with no further action, or with a value. -/
inductive Outcome (A T : Type) where
  | argument (last : A)
  | value (result : T)
deriving DecidableEq, Repr

namespace Outcome

variable {A T : Type}

def value? : Outcome A T → Option T
  | value t => some t
  | argument _ => none

def isArgument : Outcome A T → Bool
  | argument _ => true
  | value _ => false

end Outcome

variable {F A T : Type}

/-- Runs a chain of at most `fuel` invocations; `none` if that was not enough. -/
def trampoline (invoke : F → A → Option (Bounce F A T)) : Nat → Option F → A → Option (Outcome A T)
  | _, none, argument => some (.argument argument)
  | 0, some _, _ => none
  | fuel + 1, some action, argument =>
    match invoke action argument with
    | none => none
    | some (.continue next argument) => trampoline invoke fuel next argument
    | some (.done value) => some (.value value)

/-- Without an action the argument comes back untouched. -/
@[simp] theorem trampoline_none (invoke : F → A → Option (Bounce F A T)) (fuel : Nat) (a : A) :
    trampoline invoke fuel none a = some (.argument a) := by
  cases fuel <;> rfl

/-- A chain that ends within some bound ends the same way within every larger one. -/
theorem trampoline_mono {invoke : F → A → Option (Bounce F A T)} {n m : Nat} {action : Option F}
    {argument : A} {r : Outcome A T} (h : trampoline invoke n action argument = some r)
    (le : n ≤ m) : trampoline invoke m action argument = some r := by
  induction n generalizing m action argument with
  | zero =>
    cases action with
    | none => rw [trampoline_none] at h ⊢; exact h
    | some f => simp [trampoline] at h
  | succ n ih =>
    cases action with
    | none => rw [trampoline_none] at h ⊢; exact h
    | some f =>
      obtain ⟨k, rfl⟩ : ∃ k, m = k + 1 := ⟨m - 1, by omega⟩
      simp only [trampoline] at h ⊢
      cases hi : invoke f argument with
      | none => simp [hi] at h
      | some b =>
        cases b with
        | «continue» next a => simp only [hi] at h ⊢; exact ih h (by omega)
        | done v => simpa [hi] using h

end TapeMachine
