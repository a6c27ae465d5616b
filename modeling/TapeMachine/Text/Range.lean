/-!
# Classes of characters

Tables of code points as closed ranges in increasing order, and the search in them. The tables hold
properties as Unicode 17.0 gives them.
-/

namespace TapeMachine.Text

/-- The code point lies in one of the ranges. The search halves the table; a table of `n` ranges
needs at most `n` halvings, which bounds the recursion. -/
def inRanges (table : Array (Nat × Nat)) (code : Nat) : Bool :=
  search table.size 0 table.size
where
  search : Nat → Nat → Nat → Bool
    | 0, _, _ => false
    | n + 1, low, high =>
      if low < high then
        let middle := (low + high) / 2
        match table[middle]? with
        | none => false
        | some (first, last) =>
          if code < first then search n low middle
          else if last < code then search n (middle + 1) high
          else true
      else false

/-- Each range has its ends in order, and a gap lies between two neighbours. -/
def areAscending : List (Nat × Nat) → Bool
  | [] => true
  | [(first, last)] => first ≤ last
  | (first, last) :: (first', last') :: rest =>
    first ≤ last && last + 1 < first' && areAscending ((first', last') :: rest)

/-- How many code points the ranges hold. -/
def rangesSize (table : Array (Nat × Nat)) : Nat :=
  table.toList.foldl (fun n (first, last) => n + (last + 1 - first)) 0

end TapeMachine.Text
