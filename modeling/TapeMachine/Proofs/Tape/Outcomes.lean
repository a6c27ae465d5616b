import TapeMachine.Bank.Request
import TapeMachine.Proofs.Tape.Line

/-!
# Which requests a tape refuses

A tape may stand anywhere: its head is a number that nobody checked, and its cells may be none at
all. Reading and writing ask one question, whether there is a cell under the head. A move asks two,
in this order: whether the head is beyond the cells of a tape that has some, and whether there is a
blank for the cell that it needs.

Results:
1. `read_eq_error_iff`, `write_eq_error_iff`, `move_eq_error_iff`: when a tape refuses, and with
   which error.
2. `exists_held`, `exists_moved`: what it does otherwise; of a move that is `Moved`.
3. `serve_of_overrun`: beyond the cells of a tape that has some, nothing succeeds.
4. `needsCell_iff_words`, `Moved.toNat_landing`: a head and a count in 64-bit words give the same.
5. `count_of_serve`, `toNat_foldl_wordCount`: what an answer adds to the counters, and counters in
   64-bit words.
-/

namespace TapeMachine

variable {S : Type}

/-- The counter of an operation. -/
def TapeStatistics.count (t : TapeStatistics) : TapeOperation → Nat
  | .read => t.reads
  | .write => t.writes
  | .moveLeft => t.movesLeft
  | .moveRight => t.movesRight

namespace Tape

variable {t t' : Tape S}

/-! ## The cell under the head -/

theorem peek_eq_ok_iff {v : S} : t.peek = .ok v ↔ t.storage.toList[t.head]? = some v := by
  rw [← t.storage.get_eq_ok_iff, peek]
  cases t.storage.get t.head <;> simp

theorem peek_eq_error_iff {e : MachineError} :
    t.peek = .error e ↔ t.storage.count ≤ t.head ∧ e = t.stale := by
  unfold peek
  cases h : t.storage.get t.head with
  | ok v =>
    have : ¬ t.storage.count ≤ t.head := fun hle => by
      rw [t.storage.get_eq_error_iff.2 ⟨hle, rfl⟩] at h
      cases h
    simp [this]
  | error e' =>
    have := (t.storage.get_eq_error_iff.1 h).1
    simp [this, eq_comm]

theorem read_eq_error_iff {e : MachineError} :
    t.read = .error e ↔ t.storage.count ≤ t.head ∧ e = t.stale := by
  rw [← peek_eq_error_iff, read, peek]
  cases t.storage.get t.head <;> simp

theorem read_eq_ok_iff {v : S} :
    t.read = .ok (v, t') ↔
      t.storage.toList[t.head]? = some v ∧
      t' = { t with statistics.reads := t.statistics.reads + 1 } := by
  rw [← peek_eq_ok_iff, read, peek]
  cases t.storage.get t.head <;> simp [eq_comm]

theorem write_eq_error_iff [BEq S] {value : S} {e : MachineError} :
    t.write value = .error e ↔ t.storage.count ≤ t.head ∧ e = t.stale := by
  cases h : t.storage.toList[t.head]? with
  | none =>
    have hle : t.storage.count ≤ t.head := by
      rw [← t.storage.length_toList]
      exact List.getElem?_eq_none_iff.1 h
    simp [write, t.storage.get_eq_error_iff.2 ⟨hle, rfl⟩, hle, eq_comm]
  | some held =>
    have hlt : ¬ t.storage.count ≤ t.head := by
      rw [← t.storage.length_toList]
      exact Nat.not_le_of_lt (List.getElem?_eq_some_iff.1 h).1
    cases e : held == value with
    | true => simp [write_of_equal h e, hlt]
    | false =>
      obtain ⟨storage, hw, -⟩ := write_of_unequal h e
      simp [hw, hlt]

/-- A write that succeeds found an equal symbol and did nothing, or it replaced and counted. -/
theorem write_cases [BEq S] {value : S} {old : Option S} (h : t.write value = .ok (old, t')) :
    ∃ held, t.storage.toList[t.head]? = some held ∧
      (((held == value) = true ∧ old = none ∧ t' = t) ∨
        ((held == value) = false ∧ old = some held ∧
          t'.storage.toList = t.storage.toList.set t.head value ∧
          t' = { t with
            storage := t'.storage
            statistics.writes := t.statistics.writes + 1 })) := by
  cases hc : t.storage.toList[t.head]? with
  | none =>
    have hle : t.storage.count ≤ t.head := by
      rw [← t.storage.length_toList]
      exact List.getElem?_eq_none_iff.1 hc
    rw [write_eq_error_iff.2 ⟨hle, rfl⟩] at h
    cases h
  | some held =>
    refine ⟨held, rfl, ?_⟩
    cases e : held == value with
    | true =>
      rw [write_of_equal hc e] at h
      cases h
      exact .inl ⟨rfl, rfl, rfl⟩
    | false =>
      obtain ⟨storage, hw, hlist⟩ := write_of_unequal hc e
      rw [hw] at h
      cases h
      exact .inr ⟨rfl, rfl, hlist, rfl⟩

/-- With a cell under the head, looking, reading and writing succeed. -/
theorem exists_held [BEq S] (h : t.head < t.storage.count) :
    ∃ held, t.storage.toList[t.head]? = some held ∧ t.peek = .ok held ∧
      t.read = .ok (held, { t with statistics.reads := t.statistics.reads + 1 }) ∧
      ∀ value, ∃ old t', t.write value = .ok (old, t') ∧
        if held == value then old = none ∧ t' = t
        else old = some held ∧ t'.storage.toList = t.storage.toList.set t.head value ∧
          t' = { t with storage := t'.storage, statistics.writes := t.statistics.writes + 1 } := by
  rw [← t.storage.length_toList] at h
  have hc := List.getElem?_eq_getElem h
  refine ⟨_, hc, peek_eq_ok_iff.2 hc, read_of_cell hc, fun value => ?_⟩
  cases hw : t.write value with
  | error e =>
    obtain ⟨hle, -⟩ := write_eq_error_iff.1 hw
    rw [← t.storage.length_toList] at hle
    exact absurd h (Nat.not_lt_of_le hle)
  | ok p =>
    obtain ⟨old, t'⟩ := p
    refine ⟨old, t', rfl, ?_⟩
    obtain ⟨held, hh, same | ⟨differs, replaced⟩⟩ := write_cases hw
    · obtain rfl := Option.some.inj (hc.symm.trans hh)
      rw [if_pos same.1]
      exact same.2
    · obtain rfl := Option.some.inj (hc.symm.trans hh)
      rw [if_neg (by simp [differs])]
      exact replaced

/-! ## Moves -/

/-- The head is beyond the cells of a tape that has some. -/
def Overrun (t : Tape S) : Prop := 0 < t.storage.count ∧ t.storage.count ≤ t.head

/-- A move in the direction has no cell to go to: the tape is empty, or the head is at its end. -/
def NeedsCell (t : Tape S) : Direction → Prop
  | .left => t.storage.count = 0 ∨ t.head + 1 = t.storage.count
  | .right => t.storage.count = 0 ∨ t.head = 0

/-- Where a move puts the head. -/
def landing (t : Tape S) : Direction → Nat
  | .left => if t.storage.count = 0 then 0 else t.head + 1
  | .right => if t.storage.count = 0 ∨ t.head = 0 then 0 else t.head - 1

/-- The cells with one more at the end that a direction leads to. -/
def grown (t : Tape S) (b : S) : Direction → List S
  | .left => t.storage.toList ++ [b]
  | .right => b :: t.storage.toList

theorem headIsStale_iff : t.headIsStale = true ↔ t.Overrun := by
  simp only [headIsStale, Sequence.isEmpty, Overrun, Bool.and_eq_true, Bool.not_eq_true',
    beq_eq_false_iff_ne, decide_eq_true_eq, Nat.pos_iff_ne_zero]

theorem isEmpty_iff : t.storage.isEmpty = true ↔ t.storage.count = 0 := by
  simp only [Sequence.isEmpty, beq_iff_eq]

theorem atFront_iff :
    (t.storage.isEmpty || t.storage.isFirst t.head) = true ↔ t.NeedsCell .right := by
  rw [Bool.or_eq_true, isEmpty_iff, t.storage.isFirst_iff, NeedsCell]
  omega

/-- What a move that succeeds does to the tape. -/
structure Moved (t : Tape S) (d : Direction) (blank : Option S) (shift : Shift) (t' : Tape S) :
    Prop where
  extended_iff : shift = .extended ↔ t.NeedsCell d
  /-- A cell that was needed is at its end of the tape and holds the blank; no other cell
  changes. -/
  cells : (shift = .stepped ∧ t'.storage = t.storage) ∨
    (shift = .extended ∧ ∃ b, blank = some b ∧ t'.storage.toList = t.grown b d)
  count_eq : t'.storage.count = t.storage.count + if shift = .extended then 1 else 0
  head_eq : t'.head = t.landing d
  head_lt : t'.head < t'.storage.count
  snapshot_eq : t'.snapshot = t.snapshot
  counted : ∀ op, t'.statistics.count op = t.statistics.count op + if d.operation = op then 1 else 0

/-- A move is refused for its head, and if not for that, then for a blank. -/
theorem move_eq_error_iff {d : Direction} {blank : Option S} {e : MachineError} :
    t.move d blank = .error e ↔
      (t.Overrun ∧ e = t.stale) ∨ (¬ t.Overrun ∧ t.NeedsCell d ∧ blank = none ∧ e = noBlank) := by
  by_cases stale : t.Overrun
  · have hs := headIsStale_iff.2 stale
    cases d <;> simp [move, moveLeft, moveRight, hs, stale, eq_comm]
  · have hs : t.headIsStale = false := by simpa using mt headIsStale_iff.1 stale
    cases d with
    | left =>
      by_cases empty : t.storage.count = 0
      · cases blank <;>
          simp [move, moveLeft, hs, stale, isEmpty_iff.2 empty, NeedsCell, empty, eq_comm]
      · have he : t.storage.isEmpty = false := by simpa using mt isEmpty_iff.1 empty
        by_cases last : t.head + 1 = t.storage.count
        · cases blank <;>
            simp [move, moveLeft, hs, stale, he, t.storage.isLast_iff.2 last, NeedsCell,
              last, eq_comm]
        · have hl : t.storage.isLast t.head = false := by simpa using mt t.storage.isLast_iff.1 last
          simp [move, moveLeft, hs, stale, he, hl, NeedsCell, empty, last]
    | right =>
      by_cases needs : t.NeedsCell .right
      · cases blank <;> simp [move, moveRight, hs, stale, atFront_iff.2 needs, needs, eq_comm]
      · have hf := mt atFront_iff.1 needs
        rw [Bool.not_eq_true] at hf
        simp [move, moveRight, hs, stale, hf, needs]

/-- A tape whose head is not overrun has its head on a cell, or has no cells. -/
theorem lt_count_of_not_overrun (h : ¬ t.Overrun) (filled : t.storage.count ≠ 0) :
    t.head < t.storage.count := by
  unfold Overrun at h
  omega

/-- A head that is overrun does not move. -/
theorem not_overrun_of_move {d : Direction} {blank : Option S} {shift : Shift}
    (h : t.move d blank = .ok (shift, t')) : ¬ t.Overrun := fun stale => by
  rw [move_eq_error_iff.2 (.inl ⟨stale, rfl⟩)] at h
  cases h

theorem Moved.of_move {d : Direction} {blank : Option S} {shift : Shift}
    (h : t.move d blank = .ok (shift, t')) : t.Moved d blank shift t' := by
  have placed := not_overrun_of_move h
  have hs : t.headIsStale = false := by simpa using mt headIsStale_iff.1 placed
  cases d with
  | left =>
    simp only [move, moveLeft, hs, Bool.false_eq_true, ↓reduceIte] at h
    split at h
    · next empty =>
      have empty := isEmpty_iff.1 empty
      cases blank with
      | none => cases h
      | some b =>
        cases h
        refine ⟨by simp [NeedsCell, empty], .inr ⟨rfl, b, rfl, t.storage.toList_append b⟩,
          t.storage.count_append b, by simp [landing, empty], ?_, rfl,
          fun op => by cases op <;> rfl⟩
        rw [t.storage.count_append]
        exact Nat.succ_pos _
    · next filled =>
      have filled := mt isEmpty_iff.2 filled
      have inside := lt_count_of_not_overrun placed filled
      split at h
      · next last =>
        have last := t.storage.isLast_iff.1 last
        cases blank with
        | none => cases h
        | some b =>
          cases h
          refine ⟨by simp [NeedsCell, last], .inr ⟨rfl, b, rfl, t.storage.toList_append b⟩,
            t.storage.count_append b, by simp [landing, filled], ?_, rfl,
            fun op => by cases op <;> rfl⟩
          rw [t.storage.count_append]
          exact Nat.succ_lt_succ inside
      · next inner =>
        have inner : t.head + 1 ≠ t.storage.count := fun e => inner (t.storage.isLast_iff.2 e)
        cases h
        exact ⟨by simp [NeedsCell, filled, inner], .inl ⟨rfl, rfl⟩, rfl, by simp [landing, filled],
          by show t.head + 1 < t.storage.count; omega, rfl, fun op => by cases op <;> rfl⟩
  | right =>
    simp only [move, moveRight, hs, Bool.false_eq_true, ↓reduceIte] at h
    split at h
    · next front =>
      have front := atFront_iff.1 front
      cases blank with
      | none => cases h
      | some b =>
        cases h
        refine ⟨by simp [front], .inr ⟨rfl, b, rfl, t.storage.toList_prepend b⟩,
          t.storage.count_prepend b, (if_pos front).symm, ?_, rfl, fun op => by cases op <;> rfl⟩
        rw [t.storage.count_prepend]
        exact Nat.succ_pos _
    · next inner =>
      have inner := mt atFront_iff.2 inner
      cases h
      refine ⟨by simp [inner], .inl ⟨rfl, rfl⟩, rfl, (if_neg inner).symm, ?_, rfl,
        fun op => by cases op <;> rfl⟩
      obtain ⟨filled, -⟩ := not_or.1 inner
      exact Nat.lt_of_le_of_lt (Nat.sub_le _ _) (lt_count_of_not_overrun placed filled)

/-- A move that nothing refuses succeeds. -/
theorem exists_moved {d : Direction} {blank : Option S} (placed : ¬ t.Overrun)
    (filled : t.NeedsCell d → blank ≠ none) :
    ∃ shift t', t.move d blank = .ok (shift, t') ∧ t.Moved d blank shift t' := by
  cases hm : t.move d blank with
  | error e =>
    rcases move_eq_error_iff.1 hm with ⟨stale, -⟩ | ⟨-, needs, none, -⟩
    · exact absurd stale placed
    · exact absurd none (filled needs)
  | ok p => exact ⟨p.1, p.2, rfl, Moved.of_move hm⟩

/-- Beyond the cells of a tape that has some, no request succeeds. -/
theorem serve_of_overrun [BEq S] (h : t.Overrun) (blank : Option S) (request : Request S) :
    t.serve blank request = .error t.stale := by
  cases request with
  | read => rw [serve, read_eq_error_iff.2 ⟨h.2, rfl⟩]; rfl
  | write value => rw [serve, write_eq_error_iff.2 ⟨h.2, rfl⟩]; rfl
  | move d => rw [serve, move_eq_error_iff.2 (.inl ⟨h, rfl⟩)]; rfl

/-! ## Heads in 64-bit words -/

/-- Where a move puts the head, computed in words that wrap around. -/
def wordLanding (count head : UInt64) : Direction → UInt64
  | .left => if count = 0 then 0 else head + 1
  | .right => if count = 0 ∨ head = 0 then 0 else head - 1

/-- The ends of the tape are told in words without an addition, so the largest head is at no end by
wrapping. -/
theorem needsCell_iff_words {head count : UInt64} (hh : head.toNat = t.head)
    (hc : count.toNat = t.storage.count) :
    (t.NeedsCell .left ↔ count = 0 ∨ count - 1 = head) ∧
      (t.NeedsCell .right ↔ count = 0 ∨ head = 0) := by
  simp only [NeedsCell, ← hh, ← hc, ← UInt64.toNat_inj, UInt64.toNat_zero, and_true]
  by_cases empty : count.toNat = 0
  · simp [empty]
  · have : (count - 1).toNat = count.toNat - 1 :=
      UInt64.toNat_sub_of_le _ _ (UInt64.le_iff_toNat_le.2 (Nat.pos_of_ne_zero empty))
    rw [this]
    omega

theorem Moved.toNat_landing {d : Direction} {blank : Option S} {shift : Shift}
    (h : t.Moved d blank shift t') (placed : ¬ t.Overrun) {head count : UInt64}
    (hh : head.toNat = t.head) (hc : count.toNat = t.storage.count) :
    (wordLanding count head d).toNat = t'.head := by
  have empty_iff : count = 0 ↔ t.storage.count = 0 := by
    rw [← UInt64.toNat_inj, hc, UInt64.toNat_zero]
  have front_iff : head = 0 ↔ t.head = 0 := by rw [← UInt64.toNat_inj, hh, UInt64.toNat_zero]
  rw [h.head_eq]
  cases d with
  | left =>
    simp only [wordLanding, landing, empty_iff]
    split
    · rfl
    · next filled =>
      -- the head is on a cell, and the number of cells is a word
      have inside := lt_count_of_not_overrun placed filled
      have bound := count.toNat_lt
      rw [UInt64.toNat_add, hh, UInt64.toNat_one, Nat.mod_eq_of_lt (by omega)]
  | right =>
    simp only [wordLanding, landing, empty_iff, front_iff]
    split
    · rfl
    · next inner =>
      rw [UInt64.toNat_sub_of_le _ _
        (UInt64.le_iff_toNat_le.2 (by rw [hh, UInt64.toNat_one]; omega)), hh, UInt64.toNat_one]

/-! ## Counters in 64-bit words -/

/-- The counter that an answered request adds one to, if it adds to any. -/
def Request.counted : Request S → Reply S → Option TapeOperation
  | .read, _ => some .read
  | .write _, .replaced (some _) => some .write
  | .write _, _ => none
  | .move d, _ => some d.operation

/-- A request adds one to the counter that its answer tells of, and leaves the others alone. -/
theorem count_of_serve [BEq S] {blank : Option S} {request : Request S} {reply : Reply S}
    (h : t.serve blank request = .ok (reply, t')) (op : TapeOperation) :
    t'.statistics.count op =
      t.statistics.count op + if request.counted reply = some op then 1 else 0 := by
  cases request with
  | read =>
    obtain ⟨⟨v, t''⟩, hr, he⟩ := exists_of_map_eq_ok h
    cases he
    obtain ⟨-, rfl⟩ := read_eq_ok_iff.1 hr
    cases op <;> rfl
  | write value =>
    obtain ⟨⟨old, t''⟩, hw, he⟩ := exists_of_map_eq_ok h
    cases he
    obtain ⟨held, -, ⟨-, rfl, rfl⟩ | ⟨-, rfl, -, replaced⟩⟩ := write_cases hw
    · cases op <;> rfl
    · rw [replaced]
      cases op <;> rfl
  | move d =>
    obtain ⟨⟨shift, t''⟩, hm, he⟩ := exists_of_map_eq_ok h
    cases he
    rw [(Moved.of_move hm).counted op, Request.counted]
    simp only [Option.some.injEq]

/-- A counter kept in a word that wraps around, after one more request and its answer. -/
def wordCount (op : TapeOperation) (word : UInt64) : Request S × Reply S → UInt64
  | (request, reply) => if request.counted reply = some op then word + 1 else word

/-- A counter kept in a word counts along with the tape, as long as the requests to come can still
be counted. -/
theorem toNat_foldl_wordCount [BEq S] {blank : Option S} {requests : List (Request S)}
    {replies : List (Reply S)} (h : t.serveAll blank requests = .ok (replies, t'))
    {op : TapeOperation} {word : UInt64} (counts : word.toNat = t.statistics.count op)
    (fits : t.statistics.count op + requests.length < UInt64.size) :
    ((requests.zip replies).foldl (wordCount op) word).toNat = t'.statistics.count op := by
  induction requests generalizing t replies word with
  | nil =>
    cases h
    exact counts
  | cons request rest ih =>
    unfold serveAll at h
    split at h
    · cases h
    · next reply t₁ hone =>
      split at h
      · cases h
      · next replies t₂ hrest =>
        cases h
        have one := count_of_serve hone op
        rw [List.length_cons] at fits
        rw [List.zip_cons_cons, List.foldl_cons]
        refine ih hrest ?_ ?_
        · rw [one, wordCount]
          split
          · rw [toNat_next (by omega), counts]
          · exact counts
        · split at one <;> omega

end Tape

end TapeMachine
