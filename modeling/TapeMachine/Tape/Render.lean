import TapeMachine.Tape.Basic

/-!
# Tapes as text

`Tape.render` is for readers: cells between commas, blank ones named, the cell under the head in
brackets. `Tape.debug` shows every part of the tape.
-/

namespace TapeMachine

open Text (Legible)

/-- A sequence in a trace. -/
def Sequence.debug {S : Type} [Legible S] (s : Sequence S) : String :=
  Text.debugList Text.debug s.toList

namespace Tape

variable {S : Type}

/-- A cell as it is shown: the word for blanks if it equals the blank. -/
def shownCell [BEq S] [Legible S] (blank : Option S) (value : S) : String :=
  match blank with
  | some b => if b == value then "blank" else Text.plain value
  | none => Text.plain value

/-- The shown cells from position `index` on, the one at the head in brackets. -/
def shownCells [BEq S] [Legible S] (blank : Option S) (head index : Nat) : List S → List String
  | [] => []
  | value :: rest =>
    let shown := shownCell blank value
    (if index = head then "[" ++ shown ++ "]" else shown) ::
      shownCells blank head (index + 1) rest

/-- The cells from front to back. -/
def render [BEq S] [Legible S] (t : Tape S) (blank : Option S) : String :=
  Text.joined ", " (shownCells blank t.head 0 t.storage.toList)

/-- All parts of the tape. -/
def debug [Legible S] (t : Tape S) : String :=
  Text.debugRecord "Tape"
    [("storage", t.storage.debug), ("head", toString t.head), ("default", t.snapshot.debug),
      ("statistics", t.statistics.debug)]

end Tape

end TapeMachine
