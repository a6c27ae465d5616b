import TapeMachine.Error
import TapeMachine.Sequence.Links

/-!
# Sequences

A sequence is an arena whose links are well formed, so it is a list: `Sequence.toList` reads it from
front to back, and each operation has one law that says what it does to that list. The laws
are in `TapeMachine.Sequence.Lemmas`.
-/

namespace TapeMachine

/-- A list of cells that grows at both ends. -/
structure Sequence (α : Type) where
  arena : Arena α
  linked : arena.Linked

namespace Sequence

variable {α : Type}

/-! ## Operations -/

def empty : Sequence α := ⟨.empty, [], Arena.spells_empty⟩

instance : EmptyCollection (Sequence α) := ⟨empty⟩

instance : Inhabited (Sequence α) := ⟨empty⟩

/-- Puts a value in front. -/
def prepend (s : Sequence α) (value : α) : Sequence α :=
  ⟨s.arena.prepend value, let ⟨_, h⟩ := s.linked; ⟨_, h.prepend value⟩⟩

/-- Puts a value behind. -/
def append (s : Sequence α) (value : α) : Sequence α :=
  ⟨s.arena.append value, let ⟨_, h⟩ := s.linked; ⟨_, h.append value⟩⟩

/-- Puts the values behind, in their order. -/
def extend (s : Sequence α) (values : List α) : Sequence α := values.foldl append s

/-- The sequence of the values, in their order. -/
def ofList (values : List α) : Sequence α := (empty : Sequence α).extend values

/-- The values from front to back. -/
def toList (s : Sequence α) : List α :=
  s.arena.slots.filterMap fun slot => s.arena.nodes[slot]?.map Node.value

/-- How many values there are. -/
def count (s : Sequence α) : Nat := s.arena.nodes.size

def isEmpty (s : Sequence α) : Bool := s.count == 0

/-- The value at a position, if there is one. -/
def get? (s : Sequence α) (index : Nat) : Option α :=
  (s.arena.slotAt index).bind fun slot => s.arena.nodes[slot]?.map Node.value

/-- The value at a position. -/
def get (s : Sequence α) (index : Nat) : Except StoreError α :=
  match s.get? index with
  | some value => .ok value
  | none => .error (.outOfRange index s.count)

/-- Writes a position; also answers what was there. -/
def set (s : Sequence α) (index : Nat) (value : α) : Except StoreError (α × Sequence α) :=
  match s.arena.slotAt index, s.get? index with
  | some slot, some old =>
    .ok (old, ⟨s.arena.replace slot value, let ⟨_, h⟩ := s.linked; ⟨_, h.replace slot value⟩⟩)
  | _, _ => .error (.outOfRange index s.count)

/-- Changes the value at a position in place. -/
def modify (s : Sequence α) (index : Nat) (change : α → α) : Except StoreError (Sequence α) :=
  match s.get index with
  | .error e => .error e
  | .ok old =>
    match s.set index (change old) with
    | .error e => .error e
    | .ok (_, s) => .ok s

/-- Drops every cell. -/
def clear (_ : Sequence α) : Sequence α := empty

/-- Position 0 of a sequence that has one. -/
def isFirst (s : Sequence α) (index : Nat) : Bool := !s.isEmpty && index == 0

/-- The last position of a sequence that has one. -/
def isLast (s : Sequence α) (index : Nat) : Bool := index + 1 == s.count

def first? (s : Sequence α) : Option α :=
  s.arena.first.bind fun slot => s.arena.nodes[slot]?.map Node.value

def last? (s : Sequence α) : Option α :=
  s.arena.last.bind fun slot => s.arena.nodes[slot]?.map Node.value

/-- Two sequences are equal when they have equal values at equal positions, whatever the order in
which they were built. -/
instance [BEq α] : BEq (Sequence α) := ⟨fun s t => s.count == t.count && s.toList == t.toList⟩

end Sequence

end TapeMachine
