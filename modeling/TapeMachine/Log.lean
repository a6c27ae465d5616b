import TapeMachine.Event
import TapeMachine.Text.Legible

/-!
# Log entries

What a verbose machine writes down, and what a program says at its end. An entry is data; its line
of text is `LogEntry.line`.
-/

namespace TapeMachine

open Text (Legible)

inductive LogEntry (I O : Type) where
  | clearingTables
  | buildingState (state : Int) (rules : Nat)
  | addingState (state : Int)
  | addingRule (state : Int) (read : I) (next fallback : Option Int)
  | executingState (state : Int)
  | input (event : TapeEvent I)
  | output (event : TapeEvent O)
  | transition (source : Int) (target : Option Int)
  | settingDefault (state : Int)
  | erasingStates
  | resettingTapes (inputs outputs : Nat)
  /-- The closing words of a program, with the values it names. -/
  | conclusion (text : String) (fields : List (String × String))

namespace LogEntry

variable {I O : Type}

/-- The fields of an event on a tape. -/
def tapeFields {S : Type} [Legible S] (e : TapeEvent S) : List (String × String) :=
  [("tape", toString e.tape), ("head", toString e.head), ("op", e.operation.name),
    ("before", Text.debugOption Text.debug e.before),
    ("after", Text.debugOption Text.debug e.after), ("extended", toString e.extended)]

/-- The message and the named values of an entry. -/
def parts [Legible I] [Legible O] : LogEntry I O → String × List (String × String)
  | clearingTables => ("clearing compiled expressions", [])
  | buildingState state rules =>
    ("building state", [("state", toString state), ("rules", toString rules)])
  | addingState state => ("adding state", [("state", toString state)])
  | addingRule state read next fallback =>
    ("adding rule",
      [("state", toString state), ("read", Text.debug read),
        ("next", Text.debugOption toString next), ("fallback", Text.debugOption toString fallback)])
  | executingState state => ("executing state", [("state", toString state)])
  | input event => ("input tape", tapeFields event)
  | output event => ("output tape", tapeFields event)
  | transition source (some target) =>
    ("transition", [("from", toString source), ("to", toString target)])
  | transition source none => ("transition to halt", [("from", toString source)])
  | settingDefault state => ("setting default state", [("state", toString state)])
  | erasingStates => ("erasing states", [])
  | resettingTapes inputs outputs =>
    ("resetting tapes", [("inputs", toString inputs), ("outputs", toString outputs)])
  | conclusion text fields => (text, fields)

/-- The line of an entry: its level, its message and its values. -/
def line [Legible I] [Legible O] (e : LogEntry I O) : String :=
  let (message, fields) := e.parts
  "DEBUG " ++ message ++ String.join (fields.map fun (key, value) => " " ++ key ++ "=" ++ value)

end LogEntry

end TapeMachine
