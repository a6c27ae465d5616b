import TapeMachine.Text.Legible

/-!
# Counters

What a tape and a machine have done so far. A run goes by them only where its code asks for them.

The counters are 64-bit words that stand here for numbers. A word that counts along holds the number
as long as that is below 2 ^ 64: `Tape.toNat_foldl_wordCount` says how long that is for a tape, and
`Recorded.Arises.toNat_counters` for a machine.
-/

namespace TapeMachine

/-- A word counts on unless it is the largest. -/
theorem toNat_next {n : UInt64} (fits : n.toNat + 1 < UInt64.size) :
    (n + 1).toNat = n.toNat + 1 := by
  rw [UInt64.toNat_add, UInt64.toNat_one, Nat.mod_eq_of_lt fits]

/-- What one tape has done. A write counts only if it changed the cell, a move only if it
happened. -/
structure TapeStatistics where
  reads : Nat := 0
  writes : Nat := 0
  movesLeft : Nat := 0
  movesRight : Nat := 0
deriving DecidableEq, Repr

namespace TapeStatistics

/-- Counter by counter. -/
def add (a b : TapeStatistics) : TapeStatistics :=
  ⟨a.reads + b.reads, a.writes + b.writes, a.movesLeft + b.movesLeft, a.movesRight + b.movesRight⟩

/-- The sum over several tapes. -/
def total (tapes : List TapeStatistics) : TapeStatistics := tapes.foldl add {}

def debug (t : TapeStatistics) : String :=
  Text.debugRecord "TapeStatistics"
    [("reads", toString t.reads), ("writes", toString t.writes),
      ("moves_left", toString t.movesLeft), ("moves_right", toString t.movesRight)]

end TapeStatistics

/-- What a machine itself counts. -/
structure Counters where
  /-- Actions bound to states, those of built states among them. -/
  states : Nat := 0
  /-- Rules declared. -/
  rulesDeclared : Nat := 0
  /-- Rules compiled into tables, once per compilation. -/
  rulesBuilt : Nat := 0
  /-- Transitions taken, halting ones among them. -/
  transitions : Nat := 0
deriving DecidableEq, Repr

/-- Every counter of a machine at one moment. -/
structure Statistics where
  counters : Counters
  inputTapes : List TapeStatistics
  outputTapes : List TapeStatistics
deriving DecidableEq, Repr

namespace Statistics

def inputTotals (s : Statistics) : TapeStatistics := .total s.inputTapes

def outputTotals (s : Statistics) : TapeStatistics := .total s.outputTapes

/-- The lines of the report on the tapes of one bank, numbered from 0. -/
def tapeLines (label : String) (index : Nat) : List TapeStatistics → List String
  | [] => []
  | t :: rest =>
    let start := s!"    {label} tape {index} "
    (start ++ s!"reads: {t.reads}") :: (start ++ s!"writes: {t.writes}") ::
      (start ++ s!"moves (left): {t.movesLeft}") :: (start ++ s!"moves (right): {t.movesRight}") ::
      tapeLines label (index + 1) rest

/-- The lines of the report. -/
def lines (s : Statistics) : List String :=
  ["Statistics:",
    s!"    states: {s.counters.states}",
    s!"    rules declared: {s.counters.rulesDeclared}",
    s!"    rules built: {s.counters.rulesBuilt}",
    s!"    total state transitions: {s.counters.transitions}"] ++
    tapeLines "input" 0 s.inputTapes ++ tapeLines "output" 0 s.outputTapes

/-- The report, each line ended by a line break. -/
def render (s : Statistics) : String := String.join (s.lines.map (· ++ "\n"))

end Statistics

end TapeMachine
