/-!
# Cells linked in an arena

A list kept as an array of nodes that name their neighbours by slot number. The array order is the
order of insertion; the order of the list is told by the links alone. So a cell is put in front as
cheaply as behind, and no cell ever changes its slot.

`Arena.Spells a order` says that the links of `a` spell the slots `order` from front to back, and
the same slots backwards from the other end. That every operation keeps this is shown in
`TapeMachine.Sequence.Links`.
-/

namespace TapeMachine

/-- A cell of an arena with the slots of its two neighbours; `none` at an end of the list. -/
structure Node (α : Type) where
  value : α
  prev : Option Nat
  next : Option Nat

/-- Nodes in the order of their insertion, and the slots of the two ends of the list. -/
structure Arena (α : Type) where
  nodes : Array (Node α)
  first : Option Nat
  last : Option Nat

namespace Arena

variable {α : Type}

/-! ## Operations -/

/-- The arena without cells. -/
def empty : Arena α := ⟨#[], none, none⟩

/-- Puts a cell before the first one. The old first cell learns its new neighbour; in an empty arena
the new cell is the last one too. -/
def prepend (a : Arena α) (value : α) : Arena α :=
  let slot := a.nodes.size
  match a.first with
  | some old =>
    { nodes := (a.nodes.modify old fun n => { n with prev := some slot }).push
        ⟨value, none, some old⟩
      first := some slot
      last := a.last }
  | none => { nodes := a.nodes.push ⟨value, none, none⟩, first := some slot, last := some slot }

/-- Puts a cell behind the last one. -/
def append (a : Arena α) (value : α) : Arena α :=
  let slot := a.nodes.size
  match a.last with
  | some old =>
    { nodes := (a.nodes.modify old fun n => { n with next := some slot }).push
        ⟨value, some old, none⟩
      first := a.first
      last := some slot }
  | none => { nodes := a.nodes.push ⟨value, none, none⟩, first := some slot, last := some slot }

/-- Changes the value in a slot and leaves the links alone. -/
def replace (a : Arena α) (slot : Nat) (value : α) : Arena α :=
  { a with nodes := a.nodes.modify slot fun n => { n with value := value } }

/-- The slot after `slot`, if there is one. -/
def next? (a : Arena α) (slot : Nat) : Option Nat := a.nodes[slot]?.bind Node.next

/-- The slot before `slot`, if there is one. -/
def prev? (a : Arena α) (slot : Nat) : Option Nat := a.nodes[slot]?.bind Node.prev

/-- The slots met by at most `n` steps forward from `start`. -/
def walk (a : Arena α) : Nat → Option Nat → List Nat
  | 0, _ => []
  | _ + 1, none => []
  | n + 1, some slot => slot :: a.walk n (a.next? slot)

/-- The slots from the front to the back. As many steps as there are nodes suffice, because the
links meet no slot twice. -/
def slots (a : Arena α) : List Nat := a.walk a.nodes.size a.first

/-- The slot reached by `n` steps forward from `start`. -/
def hop (a : Arena α) : Nat → Option Nat → Option Nat
  | 0, start => start
  | n + 1, start => a.hop n (start.bind a.next?)

/-- The slot at position `index`, counted from the front. -/
def slotAt (a : Arena α) (index : Nat) : Option Nat :=
  if index < a.nodes.size then a.hop index a.first else none

/-! ## Well-formed links -/

/-- The links of `a` spell `order` in both directions, and `order` lists every slot once. -/
structure Spells (a : Arena α) (order : List Nat) : Prop where
  nodup : order.Nodup
  length_eq : order.length = a.nodes.size
  lt_size : ∀ slot ∈ order, slot < a.nodes.size
  first_eq : a.first = order[0]?
  last_eq : a.last = order[order.length - 1]?
  next_eq : ∀ (k slot : Nat), order[k]? = some slot → a.next? slot = order[k + 1]?
  prev_zero : ∀ slot : Nat, order[0]? = some slot → a.prev? slot = none
  prev_succ : ∀ (k slot : Nat), order[k + 1]? = some slot → a.prev? slot = order[k]?

/-- Some order of all slots is spelled by the links. -/
def Linked (a : Arena α) : Prop := ∃ order, a.Spells order

end Arena

end TapeMachine
