import TapeMachine.Error
import TapeMachine.Text.Legible

/-!
# Stacks with positions

A last-in first-out store whose items can also be reached by their position, counted from the
bottom. Searches go from the bottom up.
-/

namespace TapeMachine

/-- The items from bottom to top. -/
structure Stack (α : Type) where
  items : List α
deriving BEq

namespace Stack

variable {α β : Type}

def empty : Stack α := ⟨[]⟩

instance : EmptyCollection (Stack α) := ⟨empty⟩

instance : Inhabited (Stack α) := ⟨empty⟩

def len (s : Stack α) : Nat := s.items.length

def isEmpty (s : Stack α) : Bool := s.items.isEmpty

/-- Puts an item on top and answers its position. -/
def push (s : Stack α) (item : α) : Nat × Stack α := (s.len, ⟨s.items ++ [item]⟩)

/-- Takes the top item off, if there is one. -/
def pop (s : Stack α) : Option (α × Stack α) :=
  s.items.getLast?.map fun item => (item, ⟨s.items.dropLast⟩)

def top (s : Stack α) : Option α := s.items.getLast?

/-- The refusal of a position that the stack does not have. -/
def refusal (s : Stack α) (index : Nat) : StoreError := .outOfRange index s.len

def get (s : Stack α) (index : Nat) : Except StoreError α :=
  match s.items[index]? with
  | some item => .ok item
  | none => .error (s.refusal index)

/-- Writes a position; also answers what was there. -/
def set (s : Stack α) (index : Nat) (item : α) : Except StoreError (α × Stack α) :=
  match s.items[index]? with
  | some old => .ok (old, ⟨s.items.set index item⟩)
  | none => .error (s.refusal index)

/-- The lowest item that passes the test. -/
def find (s : Stack α) (test : α → Bool) : Option α := s.items.find? test

/-- The position of the lowest item that passes the test. -/
def position (s : Stack α) (test : α → Bool) : Option Nat := s.items.findIdx? test

/-- Takes an item out; those above it come down by one. -/
def remove (s : Stack α) (index : Nat) : Except StoreError (α × Stack α) :=
  match s.items[index]? with
  | some item => .ok (item, ⟨s.items.eraseIdx index⟩)
  | none => .error (s.refusal index)

def containsIndex (s : Stack α) (index : Nat) : Bool := index < s.len

/-- Applies a function to every item. -/
def map (f : α → β) (s : Stack α) : Stack β := ⟨s.items.map f⟩

/-- The stack in a trace. -/
def debug [Text.Legible α] (s : Stack α) : String :=
  Text.debugRecord "Lifo" [("items", Text.debugList Text.debug s.items)]

/-! ## Laws -/

/-- A position below the length holds the item that the list has there. -/
theorem get_eq_ok_iff {s : Stack α} {index : Nat} {item : α} :
    s.get index = .ok item ↔ s.items[index]? = some item := by
  unfold get
  cases s.items[index]? <;> simp

/-- Exactly the positions from the length on are refused. -/
theorem get_eq_error_iff {s : Stack α} {index : Nat} {e : StoreError} :
    s.get index = .error e ↔ s.len ≤ index ∧ e = s.refusal index := by
  unfold get len
  cases h : s.items[index]? with
  | none => simp [List.getElem?_eq_none_iff.1 h, eq_comm]
  | some item =>
    obtain ⟨hi, _⟩ := List.getElem?_eq_some_iff.1 h
    simp
    omega

/-- What was pushed last is popped first, and what lies below is untouched. -/
theorem pop_push (s : Stack α) (item : α) : (s.push item).2.pop = some (item, s) := by
  simp [push, pop]

end Stack

end TapeMachine
