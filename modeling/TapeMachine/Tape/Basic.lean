import TapeMachine.Sequence.Basic
import TapeMachine.Statistics

/-!
# Tapes

A tape is a sequence of cells with a head. The head is a position that nobody checks until it is
used, so it can be stale: a read, a write or a move then fails and changes nothing.

The tape grows at both ends. *Left* walks toward the back of the storage and *right* toward its
front; programs depend on this, so the names stay as they are although they look reversed.
-/

namespace TapeMachine

/-- The two ways to move a head. -/
inductive Direction where
  /-- Toward the back of the storage. -/
  | left
  /-- Toward the front of the storage. -/
  | right
deriving DecidableEq, Repr

/-- How a move found its cell. -/
inductive Shift where
  /-- The cell was there. -/
  | stepped
  /-- A blank cell was added at the end of the tape. -/
  | extended
deriving DecidableEq, Repr

/-- Cells, a head, a snapshot to go back to, and what was done so far. -/
structure Tape (S : Type) where
  storage : Sequence S := .empty
  head : Nat := 0
  /-- The cells that `reset` restores. -/
  snapshot : Sequence S := .empty
  statistics : TapeStatistics := {}

namespace Tape

variable {S : Type}

instance : Inhabited (Tape S) := ⟨{}⟩

/-- A tape with the given cells and its head at the front. -/
def ofSequence (storage : Sequence S) : Tape S := { storage := storage }

/-- Replaces the cells; the head moves only if a position is given. -/
def load (t : Tape S) (storage : Sequence S) (head : Option Nat) : Tape S :=
  { t with storage := storage, head := head.getD t.head }

def setHead (t : Tape S) (head : Nat) : Tape S := { t with head := head }

def setSnapshot (t : Tape S) (snapshot : Sequence S) : Tape S := { t with snapshot := snapshot }

/-- Goes back to the snapshot with the head at the front. The counters go on. -/
def reset (t : Tape S) : Tape S := { t with storage := t.snapshot, head := 0 }

/-- The error of a head that is on no cell. -/
def stale (t : Tape S) : MachineError := .staleHead t.head t.storage.count

/-- The cell under the head, without counting a read. -/
def peek (t : Tape S) : Except MachineError S :=
  match t.storage.get t.head with
  | .ok value => .ok value
  | .error _ => .error t.stale

/-- The cell under the head. -/
def read (t : Tape S) : Except MachineError (S × Tape S) :=
  match t.storage.get t.head with
  | .ok value => .ok (value, { t with statistics.reads := t.statistics.reads + 1 })
  | .error _ => .error t.stale

/-- Writes the cell under the head and answers what was there. If the cell holds an equal symbol
already, it keeps the one it has: nothing is written, counted or answered. -/
def write [BEq S] (t : Tape S) (value : S) : Except MachineError (Option S × Tape S) :=
  match t.storage.get t.head with
  | .error _ => .error t.stale
  | .ok old =>
    if old == value then .ok (none, t)
    else
      match t.storage.set t.head value with
      | .error _ => .error t.stale
      | .ok (_, storage) =>
        .ok (some old,
          { t with storage := storage, statistics.writes := t.statistics.writes + 1 })

/-- A head beyond the last cell of a tape that has cells. An empty tape has no stale head: the next
move puts the head on its first cell. -/
def headIsStale (t : Tape S) : Bool := !t.storage.isEmpty && t.storage.count ≤ t.head

/-- The error of a move that needs a new cell and has no blank to fill it. -/
def noBlank : MachineError := .uninitializedValue "blank symbol"

/-- Moves the head one cell toward the front; before the first cell a blank one is added, and the
head stays at position 0. -/
def moveRight (t : Tape S) (blank : Option S) : Except MachineError (Shift × Tape S) :=
  let counted := { t.statistics with movesRight := t.statistics.movesRight + 1 }
  if t.headIsStale then .error t.stale
  else if t.storage.isEmpty || t.storage.isFirst t.head then
    match blank with
    | none => .error noBlank
    | some b =>
      .ok (.extended, { t with storage := t.storage.prepend b, head := 0, statistics := counted })
  else .ok (.stepped, { t with head := t.head - 1, statistics := counted })

/-- Moves the head one cell toward the back; behind the last cell a blank one is added. -/
def moveLeft (t : Tape S) (blank : Option S) : Except MachineError (Shift × Tape S) :=
  let counted := { t.statistics with movesLeft := t.statistics.movesLeft + 1 }
  if t.headIsStale then .error t.stale
  else if t.storage.isEmpty then
    match blank with
    | none => .error noBlank
    | some b =>
      .ok (.extended, { t with storage := t.storage.append b, head := 0, statistics := counted })
  else if t.storage.isLast t.head then
    match blank with
    | none => .error noBlank
    | some b =>
      .ok (.extended,
        { t with storage := t.storage.append b, head := t.head + 1, statistics := counted })
  else .ok (.stepped, { t with head := t.head + 1, statistics := counted })

/-- Moves the head one cell. -/
def move (t : Tape S) : Direction → Option S → Except MachineError (Shift × Tape S)
  | .left => t.moveLeft
  | .right => t.moveRight

end Tape

end TapeMachine
