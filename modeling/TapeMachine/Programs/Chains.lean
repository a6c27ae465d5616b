import TapeMachine.Trampoline

/-!
# Chains without a machine

Two programs that are nothing but a trampoline: a countdown that two actions hand back and forth,
and a chain of three steps over a list.
-/

namespace TapeMachine.Programs

namespace Countdown

/-- Whose turn it is. -/
inductive Turn where
  | ping
  | pong
deriving DecidableEq, Repr

def Turn.other : Turn → Turn
  | ping => pong
  | pong => ping

/-- One turn on what remains and the turns taken so far: count this one, and hand over unless
nothing remains. -/
def turn (who : Turn) : UInt64 × UInt64 → Bounce Turn (UInt64 × UInt64) Empty
  | (remaining, turns) =>
    if remaining = 0 then .continue none (0, turns + 1)
    else .continue (some who.other) (remaining - 1, turns + 1)

/-- Counts from `start` down to zero and answers how many turns that took. One turn for each number
down to zero is enough to follow the chain to its end. -/
def countdown (start : UInt64) : UInt64 :=
  match trampoline (fun who a => some (turn who a)) (start.toNat + 1) (some .ping) (start, 0) with
  | some (.argument (_, turns)) => turns
  | some (.value v) => nomatch v
  | none => 0

end Countdown

namespace Chain

/-- The three steps. -/
inductive Step where
  | first
  | middle
  | last
deriving DecidableEq, Repr

/-- The list with one more than its last number at its end. -/
def counted (seen : List Int64) : List Int64 :=
  seen ++ [match seen.getLast? with | some n => n + 1 | none => 0]

/-- The first step hands the list on, the second counts, the third counts and ends the chain. -/
def step : Step → List Int64 → Bounce Step (List Int64) (List Int64)
  | .first, seen => .continue (some .middle) seen
  | .middle, seen => .continue (some .last) (counted seen)
  | .last, seen => .done (counted seen)

/-- The chain from a single number. -/
def chain (start : Int64) : List Int64 :=
  match trampoline (fun s a => some (step s a)) 3 (some .first) [start] with
  | some (.argument seen) => seen
  | some (.value seen) => seen
  | none => []

example (n : Int64) : chain n = [n, n + 1, n + 1 + 1] := rfl

end Chain

end TapeMachine.Programs
