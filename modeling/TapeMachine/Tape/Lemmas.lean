import TapeMachine.Sequence.Lemmas
import TapeMachine.Tape.Basic

/-!
# A tape whose head is on a cell

On such a tape every operation that has a blank at hand succeeds, and what it does is told by the
list of the cells.

Results:
1. `read_of_cell`, `write_of_equal`, `write_of_unequal`: reading and writing the cell under the
   head.
2. `moveLeft_of_live`, `moveRight_of_live`: moves, which add a cell exactly at the ends.
-/

namespace TapeMachine.Tape

variable {S : Type} {t : Tape S}

/-- The head is on a cell, so there is one. -/
def Live (t : Tape S) : Prop := t.head < t.storage.count

theorem Live.isEmpty_eq_false (h : t.Live) : t.storage.isEmpty = false := by
  have : t.storage.count ≠ 0 := Nat.ne_zero_of_lt h
  simpa [Sequence.isEmpty] using this

theorem Live.headIsStale_eq_false (h : t.Live) : t.headIsStale = false := by
  simp only [headIsStale, decide_eq_false (Nat.not_le_of_lt h), Bool.and_false]

/-! ## The cell under the head -/

theorem read_of_cell {v : S} (h : t.storage.toList[t.head]? = some v) :
    t.read = .ok (v, { t with statistics.reads := t.statistics.reads + 1 }) := by
  rw [read, t.storage.get_eq_ok_iff.2 h]

theorem write_of_equal [BEq S] {old v : S} (h : t.storage.toList[t.head]? = some old)
    (e : (old == v) = true) : t.write v = .ok (none, t) := by
  simp only [write, t.storage.get_eq_ok_iff.2 h, e, ↓reduceIte]

theorem write_of_unequal [BEq S] {old v : S} (h : t.storage.toList[t.head]? = some old)
    (e : (old == v) = false) :
    ∃ storage, t.write v = .ok (some old,
        { t with storage := storage, statistics.writes := t.statistics.writes + 1 }) ∧
      storage.toList = t.storage.toList.set t.head v := by
  obtain ⟨hl, -⟩ := List.getElem?_eq_some_iff.1 h
  obtain ⟨storage, hs, hlist⟩ := t.storage.set_of_lt v hl
  refine ⟨storage, ?_, hlist⟩
  simp only [write, t.storage.get_eq_ok_iff.2 h, e, hs, Bool.false_eq_true, ↓reduceIte]

/-! ## Moves -/

theorem moveRight_of_live (h : t.Live) (b : S) :
    t.moveRight (some b) =
      let counted := { t.statistics with movesRight := t.statistics.movesRight + 1 }
      if t.head = 0 then
        .ok (.extended, { t with storage := t.storage.prepend b, head := 0, statistics := counted })
      else .ok (.stepped, { t with head := t.head - 1, statistics := counted }) := by
  by_cases h0 : t.head = 0
  · simp [moveRight, h.headIsStale_eq_false, h.isEmpty_eq_false, Sequence.isFirst, h0]
  · simp [moveRight, h.headIsStale_eq_false, h.isEmpty_eq_false, Sequence.isFirst, h0]

theorem moveLeft_of_live (h : t.Live) (b : S) :
    t.moveLeft (some b) =
      let counted := { t.statistics with movesLeft := t.statistics.movesLeft + 1 }
      if t.head + 1 = t.storage.count then
        .ok (.extended,
          { t with storage := t.storage.append b, head := t.head + 1, statistics := counted })
      else .ok (.stepped, { t with head := t.head + 1, statistics := counted }) := by
  by_cases hl : t.head + 1 = t.storage.count
  · simp [moveLeft, h.headIsStale_eq_false, h.isEmpty_eq_false, Sequence.isLast, hl]
  · simp [moveLeft, h.headIsStale_eq_false, h.isEmpty_eq_false, Sequence.isLast, hl]

end TapeMachine.Tape
