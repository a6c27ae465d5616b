import TapeMachine.Bank.Basic
import TapeMachine.Tape.Render

/-!
# Banks as text
-/

namespace TapeMachine.Bank

open Text (Legible)

variable {S : Type}

/-- The tape at an index as a reader sees it, the blanks of the bank named. -/
def render [BEq S] [Legible S] (b : Bank S) (index : Nat) : Except MachineError String :=
  match b.tape index with
  | .ok t => .ok (t.render b.blank)
  | .error e => .error e

/-- All parts of the bank. -/
def debug [Legible S] (b : Bank S) : String :=
  Text.debugRecord "TapeBank"
    [("tapes", Text.debugRecord "Lifo" [("items", Text.debugList Tape.debug b.tapes.items)]),
      ("active", toString b.active), ("blank", Text.debugOption Text.debug b.blank)]

end TapeMachine.Bank
