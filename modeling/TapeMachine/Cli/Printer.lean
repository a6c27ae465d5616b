import TapeMachine.Cli.Pretty
import TapeMachine.Programs.PrefixAcceptor

/-!
# Printing results

A result is printed as text, with colours if they are wanted, or as JSON.
-/

namespace TapeMachine.Cli

open Programs
open Programs.PrefixAcceptor (Acceptance)

structure Printer where
  json : Bool := false
  color : Bool := false

/-- Symbols that can stand in a result. -/
class Printable (S : Type) where
  json : S → Json

instance : Printable String := ⟨.text⟩

instance : Printable Int := ⟨.number⟩

namespace Printer

/-- Puts a text between the control sequences of a style, given by its codes. -/
def paint (p : Printer) (codes text : String) : String :=
  if p.color then "\x1b[" ++ codes ++ "m" ++ text ++ "\x1b[0m" else text

/-- A label is bold and cyan. -/
def label (p : Printer) (text : String) : String := p.paint "1;36" text

/-- A verdict is green or red. -/
def verdict (p : Printer) (accepted : Bool) : String :=
  if accepted then p.paint "32" "accepted" else p.paint "31" "rejected"

def tapeStatisticsJson (t : TapeStatistics) : Json :=
  .object [("reads", .number t.reads), ("writes", .number t.writes),
    ("moves_left", .number t.movesLeft), ("moves_right", .number t.movesRight)]

def statisticsJson (s : Statistics) : Json :=
  .object [("states", .number s.counters.states),
    ("rules_declared", .number s.counters.rulesDeclared),
    ("rules_built", .number s.counters.rulesBuilt),
    ("transitions", .number s.counters.transitions),
    ("input_tapes", .list (s.inputTapes.map tapeStatisticsJson)),
    ("output_tapes", .list (s.outputTapes.map tapeStatisticsJson))]

/-- A report: the tape, the head and the counters. -/
def report {S : Type} [Printable S] (p : Printer) (r : Report S) : String :=
  if p.json then
    Json.pretty 0 <| .object [("tape", .list (r.tape.map Printable.json)),
      ("head", .number r.head), ("rendered", .text r.rendered),
      ("statistics", statisticsJson r.statistics)]
  else
    Text.joined "\n" <|
      (p.label "tape:" ++ " " ++ r.rendered) :: (p.label "head:" ++ " " ++ toString r.head) ::
        r.statistics.lines

/-- The verdict of an acceptor, and where it stopped. -/
def acceptance (p : Printer) (a : Acceptance) : String :=
  if p.json then
    Json.pretty 0 <| .object [("head", .number a.head), ("accepted", .truth a.accepted)]
  else p.verdict a.accepted ++ "\n" ++ p.label "head:" ++ " " ++ toString a.head

/-- One verdict for each text. -/
def verdicts (p : Printer) (results : List (String × Bool)) : String :=
  if p.json then
    Json.pretty 0 <| .list <| results.map fun (input, accepted) =>
      .object [("accepted", .truth accepted), ("input", .text input)]
  else
    Text.joined "\n" <| results.map fun (input, accepted) =>
      Text.quoted input ++ ": " ++ p.verdict accepted

/-- How many turns a countdown took. -/
def countdown (p : Printer) (start turns : UInt64) : String :=
  if p.json then
    Json.pretty 0 <| .object [("invocations", .number turns.toNat), ("start", .number start.toNat)]
  else p.label "invocations:" ++ " " ++ toString turns.toNat

end Printer

end TapeMachine.Cli
