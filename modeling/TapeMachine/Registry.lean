import TapeMachine.Text.Legible

/-!
# Bindings of states

Which action belongs to which state, over any type `A` of actions, and two pointers: the state last
entered and the state to start from. A state can be bound again; the latest binding counts, the
others stay on record.
-/

namespace TapeMachine

/-- The state that both pointers name at first. -/
def defaultState : Int := -1

/-- Bindings, the latest first, and the two pointers. -/
structure Registry (A : Type) where
  bindings : List (Int × A) := []
  current : Int := defaultState
  default : Int := defaultState

namespace Registry

variable {A B : Type}

def add (r : Registry A) (state : Int) (action : A) : Registry A :=
  { r with bindings := (state, action) :: r.bindings }

/-- The action bound to the state last. -/
def get? (r : Registry A) (state : Int) : Option A :=
  (r.bindings.find? fun binding => binding.1 == state).map Prod.snd

def contains (r : Registry A) (state : Int) : Bool := (r.get? state).isSome

def setCurrent (r : Registry A) (state : Int) : Registry A := { r with current := state }

def setDefault (r : Registry A) (state : Int) : Registry A := { r with default := state }

/-- Drops all bindings; the pointers go back to where they were at first. -/
def erase (_ : Registry A) : Registry A := {}

def len (r : Registry A) : Nat := r.bindings.length

def isEmpty (r : Registry A) : Bool := r.bindings.isEmpty

/-- The bound states in the order of their binding, with repetitions. -/
def states (r : Registry A) : List Int := (r.bindings.map Prod.fst).reverse

/-- The same bindings with other actions. -/
def map (f : A → B) (r : Registry A) : Registry B :=
  { bindings := r.bindings.map fun binding => (binding.1, f binding.2)
    current := r.current
    default := r.default }

def debug (r : Registry A) : String :=
  Text.debugRecord "StateRegistry"
    [("states", Text.debugList toString r.states), ("current", toString r.current),
      ("default", toString r.default)]

/-! ## Laws -/

/-- A state that is bound again gets the new action; all others keep theirs. -/
theorem get?_add (r : Registry A) (state other : Int) (action : A) :
    (r.add state action).get? other = if other = state then some action else r.get? other := by
  by_cases h : other = state
  · simp [get?, add, h]
  · simp [get?, add, h, Ne.symm h]

@[simp] theorem get?_setCurrent (r : Registry A) (state other : Int) :
    (r.setCurrent state).get? other = r.get? other := rfl

@[simp] theorem get?_setDefault (r : Registry A) (state other : Int) :
    (r.setDefault state).get? other = r.get? other := rfl

@[simp] theorem get?_erase (r : Registry A) (state : Int) : r.erase.get? state = none := rfl

@[simp] theorem get?_map (f : A → B) (r : Registry A) (state : Int) :
    (r.map f).get? state = (r.get? state).map f := by
  simp only [get?, map]
  induction r.bindings with
  | nil => rfl
  | cons binding rest ih =>
    by_cases h : binding.1 == state
    · simp [h]
    · simpa [h] using ih

end Registry

end TapeMachine
