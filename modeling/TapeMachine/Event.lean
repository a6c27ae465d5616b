import TapeMachine.Tape.Basic

/-!
# Events

What an observer of a machine is told: every operation on a tape and every transition, as it
happens.
-/

namespace TapeMachine

/-- The observed operations on a tape. -/
inductive TapeOperation where
  | read
  | write
  | moveLeft
  | moveRight
deriving DecidableEq, Repr

namespace TapeOperation

def name : TapeOperation → String
  | read => "Read"
  | write => "Write"
  | moveLeft => "MoveLeft"
  | moveRight => "MoveRight"

end TapeOperation

/-- The operation that moves a head in a direction. -/
def Direction.operation : Direction → TapeOperation
  | .left => .moveLeft
  | .right => .moveRight

/-- One operation on the tape of a bank. A read tells the symbol it read as `after`; a write tells
the symbols before and after; a move tells the symbols under the head before and after, the first of
which is missing only if the tape was empty. -/
structure TapeEvent (S : Type) where
  operation : TapeOperation
  tape : Nat
  /-- Where the head stands afterwards. -/
  head : Nat
  before : Option S
  after : Option S
  /-- The move added a cell. -/
  extended : Bool
deriving DecidableEq, Repr

/-- What happens in a machine. -/
inductive Event (I O : Type) where
  | input (event : TapeEvent I)
  | output (event : TapeEvent O)
  /-- The current state goes from one to another, or the run halts. -/
  | transition (source : Int) (target : Option Int)
deriving DecidableEq, Repr

end TapeMachine
