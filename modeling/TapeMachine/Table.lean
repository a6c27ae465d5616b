import TapeMachine.Text.Legible

/-!
# Dispatch tables

The table of a state holds its rules with the work of each one prepared, over any type `A` of
prepared actions. `Table.select` is the one place where a branch is chosen.
-/

namespace TapeMachine

/-- A prepared rule: when it applies, and what to do if it does or if no entry of its table does. -/
structure TableEntry (I A : Type) where
  condition : I
  onMatch : A
  onMiss : A

/-- The prepared rules of one state, in the order of their declaration. -/
structure Table (I A : Type) where
  state : Int
  entries : List (TableEntry I A)

namespace Table

variable {I A B : Type}

/-- The table with the given entries; a state without entries has none. -/
def ofEntries? (state : Int) (entries : List (TableEntry I A)) : Option (Table I A) :=
  if entries.isEmpty then none else some ⟨state, entries⟩

def len (t : Table I A) : Nat := t.entries.length

def conditions (t : Table I A) : List I := t.entries.map TableEntry.condition

/-- The action for a symbol: that of the first entry whose condition equals it, or, if there is
none, what the first entry does on a miss. -/
def select [BEq I] (t : Table I A) (symbol : I) : Option A :=
  match t.entries.find? (·.condition == symbol) with
  | some entry => some entry.onMatch
  | none => t.entries.head?.map TableEntry.onMiss

/-- The same table over other actions. -/
def map (f : A → B) (t : Table I A) : Table I B :=
  ⟨t.state, t.entries.map fun e => ⟨e.condition, f e.onMatch, f e.onMiss⟩⟩

/-- The table in a trace; its actions are not looked into. -/
def debug [Text.Legible I] (t : Table I A) : String :=
  let entry := fun (e : TableEntry I A) =>
    Text.debugRecord "Entry"
      [("condition", Text.debug e.condition), ("on_match", "Action(..)"),
        ("on_miss", "Action(..)")]
  Text.debugRecord "CompiledExpression"
    [("state", toString t.state), ("entries", Text.debugList entry t.entries)]

end Table

end TapeMachine
