import TapeMachine.Event
import TapeMachine.Stack
import TapeMachine.Tape.Basic

/-!
# Banks of tapes

Tapes that share one blank, and the index of the active one. `Bank.read`, `Bank.write` and
`Bank.move` work on the tape at an index; the traced forms answer the event as well.
-/

namespace TapeMachine

/-- Tapes, the index of the active one, and the symbol that fills new cells. -/
structure Bank (S : Type) where
  tapes : Stack (Tape S) := .empty
  active : Nat := 0
  blank : Option S := none

namespace Bank

variable {S : Type}

instance : Inhabited (Bank S) := ⟨{}⟩

/-- Adds an empty tape, makes it the active one and answers its index. -/
def add (b : Bank S) : Nat × Bank S :=
  let (index, tapes) := b.tapes.push {}
  (index, { b with tapes := tapes, active := index })

/-- Makes the tape at an index the active one. -/
def select (b : Bank S) (index : Nat) : Except MachineError (Bank S) :=
  match b.tapes.get index with
  | .ok _ => .ok { b with active := index }
  | .error e => .error (.store e)

/-- The tape at an index. -/
def tape (b : Bank S) (index : Nat) : Except MachineError (Tape S) :=
  match b.tapes.get index with
  | .ok t => .ok t
  | .error e => .error (.store e)

/-- The index meant by an optional one: without it, the active tape. -/
def indexOf (b : Bank S) (index : Option Nat) : Nat := index.getD b.active

/-- Puts a tape in the place of another. -/
def put (b : Bank S) (index : Nat) (t : Tape S) : Bank S :=
  { b with tapes := ⟨b.tapes.items.set index t⟩ }

/-- Works on the tape at an index. If the work fails, the bank is as before. -/
def update {α : Type} (b : Bank S) (index : Nat)
    (work : Tape S → Except MachineError (α × Tape S)) : Except MachineError (α × Bank S) :=
  match b.tape index with
  | .error e => .error e
  | .ok t =>
    match work t with
    | .error e => .error e
    | .ok (a, t) => .ok (a, b.put index t)

/-- Changes the tape at an index by a change that cannot fail. -/
def adjust (b : Bank S) (index : Nat) (change : Tape S → Tape S) : Except MachineError (Bank S) :=
  match b.tape index with
  | .error e => .error e
  | .ok t => .ok (b.put index (change t))

def setBlank (b : Bank S) (blank : S) : Bank S := { b with blank := some blank }

def unsetBlank (b : Bank S) : Bank S := { b with blank := none }

def read (b : Bank S) (index : Nat) : Except MachineError (S × Bank S) := b.update index Tape.read

def write [BEq S] (b : Bank S) (index : Nat) (value : S) :
    Except MachineError (Option S × Bank S) :=
  b.update index (·.write value)

def move (b : Bank S) (index : Nat) (direction : Direction) :
    Except MachineError (Shift × Bank S) :=
  b.update index (·.move direction b.blank)

/-- Takes every tape back to its snapshot. -/
def reset (b : Bank S) : Bank S := { b with tapes := b.tapes.map Tape.reset }

def statistics (b : Bank S) : List TapeStatistics := b.tapes.items.map Tape.statistics

/-! ## Traced operations -/

/-- A read and its event. -/
def tracedRead (b : Bank S) (index : Nat) : Except MachineError ((S × TapeEvent S) × Bank S) :=
  b.update index fun t =>
    match t.read with
    | .error e => .error e
    | .ok (value, t') => .ok ((value, ⟨.read, index, t'.head, none, some value, false⟩), t')

/-- A write and its event; a write that changes nothing has none. -/
def tracedWrite [BEq S] (b : Bank S) (index : Nat) (value : S) :
    Except MachineError (Option (TapeEvent S) × Bank S) :=
  b.update index fun t =>
    match t.write value with
    | .error e => .error e
    | .ok (none, t') => .ok (none, t')
    | .ok (some old, t') =>
      .ok (some ⟨.write, index, t'.head, some old, some value, false⟩, t')

/-- A move and its event. -/
def tracedMove (b : Bank S) (index : Nat) (direction : Direction) :
    Except MachineError (TapeEvent S × Bank S) :=
  b.update index fun t =>
    match t.move direction b.blank with
    | .error e => .error e
    | .ok (shift, t') =>
      .ok (⟨direction.operation, index, t'.head, t.peek.toOption, t'.peek.toOption,
        shift == .extended⟩, t')

/-! ## Laws -/

theorem tape_eq_ok_iff {b : Bank S} {index : Nat} {t : Tape S} :
    b.tape index = .ok t ↔ b.tapes.items[index]? = some t := by
  rw [← Stack.get_eq_ok_iff, tape]
  cases b.tapes.get index <;> simp

/-- Work on a tape succeeds exactly if the tape is there and the work on it succeeds; then that tape
is the only part of the bank that it changed. -/
theorem update_eq_ok_iff {α : Type} {b b' : Bank S} {index : Nat} {a : α}
    {work : Tape S → Except MachineError (α × Tape S)} :
    b.update index work = .ok (a, b') ↔
      ∃ t t', b.tape index = .ok t ∧ work t = .ok (a, t') ∧ b' = b.put index t' := by
  constructor
  · intro h
    unfold update at h
    split at h
    · cases h
    · next t ht =>
      split at h
      · cases h
      · next a t' hw =>
        cases h
        exact ⟨t, t', ht, hw, rfl⟩
  · rintro ⟨t, t', ht, hw, rfl⟩
    simp [update, ht, hw]

/-- The tape that was put somewhere is found there. -/
theorem tape_put_self {b : Bank S} {index : Nat} (t : Tape S) (h : index < b.tapes.len) :
    (b.put index t).tape index = .ok t := by
  have : (b.tapes.items.set index t)[index]? = some t := List.getElem?_set_self h
  simp [tape, put, Stack.get, this]

/-- Putting a tape somewhere leaves all others alone. -/
theorem tape_put_of_ne {b : Bank S} {index other : Nat} (t : Tape S) (h : other ≠ index) :
    (b.put index t).tape other = b.tape other := by
  simp [tape, put, Stack.get, Stack.refusal, Stack.len, List.getElem?_set_ne (Ne.symm h)]

end Bank

end TapeMachine
