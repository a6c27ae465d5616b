import TapeMachine.Bank.Basic

/-!
# Requests to a bank

All that can be asked of a bank of tapes, as data. `Bank.serve` carries a request out; a failed
request leaves no bank behind, so whoever asked keeps the one he had.
-/

namespace TapeMachine

namespace Bank

/-- A request. Where it names a tape, `none` means the active one. -/
inductive Request (S : Type) where
  | add
  | select (index : Nat)
  | load (tape : Option Nat) (storage : Sequence S) (head : Option Nat)
  | setHead (tape : Option Nat) (head : Nat)
  | setSnapshot (tape : Option Nat) (snapshot : Sequence S)
  | setBlank (blank : S)
  | unsetBlank
  | read (tape : Option Nat)
  | write (tape : Option Nat) (value : S)
  | move (tape : Option Nat) (direction : Direction)

/-- What a request is answered with. -/
inductive Reply (S : Type) where
  | done
  | index (value : Nat)
  | symbol (value : S)

/-- An answer and, for operations on tapes, the event. -/
abbrev Traced (S α : Type) := α × Option (TapeEvent S)

variable {S : Type}

/-- Carries a request out. -/
def serve [BEq S] (b : Bank S) : Request S → Except MachineError (Traced S (Reply S) × Bank S)
  | .add =>
    let (index, b) := b.add
    .ok ((.index index, none), b)
  | .select index => (b.select index).map fun b => ((.done, none), b)
  | .load tape storage head =>
    (b.adjust (b.indexOf tape) (·.load storage head)).map fun b => ((.done, none), b)
  | .setHead tape head =>
    (b.adjust (b.indexOf tape) (·.setHead head)).map fun b => ((.done, none), b)
  | .setSnapshot tape snapshot =>
    (b.adjust (b.indexOf tape) (·.setSnapshot snapshot)).map fun b => ((.done, none), b)
  | .setBlank blank => .ok ((.done, none), b.setBlank blank)
  | .unsetBlank => .ok ((.done, none), b.unsetBlank)
  | .read tape =>
    (b.tracedRead (b.indexOf tape)).map fun ((value, event), b) => ((.symbol value, some event), b)
  | .write tape value =>
    (b.tracedWrite (b.indexOf tape) value).map fun (event, b) => ((.done, event), b)
  | .move tape direction =>
    (b.tracedMove (b.indexOf tape) direction).map fun (event, b) => ((.done, some event), b)

end Bank

/-! ## Laws -/

variable {α β ε : Type}

/-- An answer in other words comes from an answer. -/
theorem exists_of_map_eq_ok {x : Except ε α} {f : α → β} {b : β} (h : x.map f = .ok b) :
    ∃ a, x = .ok a ∧ f a = b := by
  cases x with
  | error e => cases h
  | ok a =>
    cases h
    exact ⟨a, rfl, rfl⟩

theorem eq_error_of_map_eq_error {x : Except ε α} {f : α → β} {e : ε} (h : x.map f = .error e) :
    x = .error e := by
  cases x with
  | error e' =>
    cases h
    rfl
  | ok a => cases h

end TapeMachine
