import TapeMachine.Proofs.Tape.Outcomes

/-!
# A tape as its events tell it

An observer who knows the cells and the head of a tape can follow it from its events alone: `Strip`
is what he knows, `Strip.replay` what he makes of an event, and `Strip.Tells` says that an event
agrees with what he knows.

Results:
1. `read_performs`, `write_performs`, `move_performs`: the event that comes with an operation agrees
   with the tape, replaying it gives the tape afterwards, and the counter of the operation grows by
   one.
2. `Bank.serve_becomes`: the same for the requests that read, write or move, whichever tape they
   name.
-/

namespace TapeMachine

variable {S : Type}

/-! ## Replaying events -/

/-- The cells of a tape and its head. -/
structure Strip (S : Type) where
  cells : List S
  head : Nat

namespace Strip

/-- The symbol under the head, if the head is on a cell. -/
def under (p : Strip S) : Option S := p.cells[p.head]?

/-- The strip after an event. A read changes nothing, a write puts the new symbol under the head, a
move puts the head where the event says and adds the symbol it found if it had to extend the
tape. -/
def replay (p : Strip S) (e : TapeEvent S) : Strip S :=
  match e.operation with
  | .read => p
  | .write => { p with cells := e.after.elim p.cells (p.cells.set p.head) }
  | .moveLeft => ⟨if e.extended then p.cells ++ e.after.toList else p.cells, e.head⟩
  | .moveRight => ⟨if e.extended then e.after.toList ++ p.cells else p.cells, e.head⟩

/-- What the event says is so: a read tells the symbol under the head, a write the one that it
replaces, a move those under the head before and after it; the first is missing exactly if the tape
is empty. -/
def Tells (p : Strip S) (e : TapeEvent S) : Prop :=
  match e.operation with
  | .read => e.after = p.under ∧ e.after ≠ none
  | .write => e.before = p.under ∧ e.before ≠ none ∧ e.after ≠ none
  | .moveLeft | .moveRight =>
    e.before = p.under ∧ e.after = (p.replay e).under ∧ e.after ≠ none ∧
      (e.before = none ↔ p.cells = [])

end Strip

namespace Tape

variable {t t' : Tape S}

def strip (t : Tape S) : Strip S := ⟨t.storage.toList, t.head⟩

/-- The event agrees with the tape before it, replaying it gives the tape after it, and its
operation is counted once and no other. -/
structure Performs (t : Tape S) (e : TapeEvent S) (t' : Tape S) : Prop where
  truthful : t.strip.Tells e
  replayed : t'.strip = t.strip.replay e
  counted : ∀ op, t'.statistics.count op = t.statistics.count op + if e.operation = op then 1 else 0

theorem toOption_peek (t : Tape S) : t.peek.toOption = t.strip.under := by
  cases h : t.peek with
  | ok v => exact (peek_eq_ok_iff.1 h).symm
  | error e =>
    obtain ⟨hle, -⟩ := peek_eq_error_iff.1 h
    rw [← t.storage.length_toList] at hle
    exact (List.getElem?_eq_none hle).symm

theorem read_performs {v : S} (h : t.read = .ok (v, t')) (index : Nat) :
    t.Performs ⟨.read, index, t'.head, none, some v, false⟩ t' := by
  obtain ⟨held, rfl⟩ := read_eq_ok_iff.1 h
  exact ⟨⟨held.symm, nofun⟩, rfl, fun op => by cases op <;> rfl⟩

theorem write_performs [BEq S] {v old : S} (h : t.write v = .ok (some old, t')) (index : Nat) :
    t.Performs ⟨.write, index, t'.head, some old, some v, false⟩ t' := by
  obtain ⟨held, hh, ⟨-, none_old, -⟩ | ⟨-, held_old, hlist, ht⟩⟩ := write_cases h
  · cases none_old
  · cases held_old
    have hhead : t'.head = t.head := by rw [ht]
    have hst : t'.statistics = { t.statistics with writes := t.statistics.writes + 1 } := by rw [ht]
    refine ⟨⟨hh.symm, nofun, nofun⟩, ?_, fun op => ?_⟩
    · simp only [strip, Strip.replay, Option.elim_some, hlist, hhead]
    · rw [hst]
      cases op <;> rfl

/-- A write that has no event changes nothing. -/
theorem eq_of_write_none [BEq S] {v : S} (h : t.write v = .ok (none, t')) : t' = t := by
  obtain ⟨held, -, ⟨-, -, same⟩ | ⟨-, replaced, -⟩⟩ := write_cases h
  · exact same
  · cases replaced

/-- A move either adds a cell, and the head is on it, or goes to a cell that was there. -/
theorem move_cases {direction : Direction} {blank : Option S} {shift : Shift}
    (h : t.move direction blank = .ok (shift, t')) :
    t.headIsStale = false ∧
    (∀ op, t'.statistics.count op =
      t.statistics.count op + if direction.operation = op then 1 else 0) ∧
    ((shift = .extended ∧ ∃ b, match direction with
        | .left => t'.storage.toList = t.storage.toList ++ [b] ∧ t'.head = t.storage.toList.length
        | .right => t'.storage.toList = b :: t.storage.toList ∧ t'.head = 0) ∨
      (shift = .stepped ∧ t'.storage = t.storage ∧ t'.head < t.storage.toList.length)) := by
  have moved := Moved.of_move h
  have placed : ¬ t.Overrun := not_overrun_of_move h
  refine ⟨by simpa using mt headIsStale_iff.1 placed, moved.counted, ?_⟩
  rw [Sequence.length_toList]
  rcases moved.cells with ⟨rfl, same⟩ | ⟨rfl, b, -, hlist⟩
  · have := moved.head_lt
    rw [same] at this
    exact .inr ⟨rfl, same, this⟩
  · have needs := moved.extended_iff.1 rfl
    have landed := moved.head_eq
    refine .inl ⟨rfl, b, ?_⟩
    cases direction with
    | left =>
      refine ⟨hlist, landed.trans ?_⟩
      rcases needs with empty | last
      · rw [landing, if_pos empty, empty]
      · rw [landing, if_neg (by omega), last]
    | right => exact ⟨hlist, landed.trans (if_pos needs)⟩

/-- Nothing is under the head of a tape whose head is not stale only if the tape is empty. -/
theorem under_eq_none_iff (h : t.headIsStale = false) :
    t.strip.under = none ↔ t.strip.cells = [] := by
  have hlen := t.storage.length_toList
  rw [Strip.under, List.getElem?_eq_none_iff]
  simp only [strip]
  cases he : t.storage.isEmpty with
  | true =>
    have : t.storage.count = 0 := by simpa [Sequence.isEmpty] using he
    have hnil : t.storage.toList = [] := List.length_eq_zero_iff.1 (by omega)
    simp [hnil]
  | false =>
    have hne : t.storage.count ≠ 0 := by simpa [Sequence.isEmpty] using he
    have inside : t.head < t.storage.count := by simpa [headIsStale, he] using h
    constructor
    · omega
    · intro hnil
      rw [hnil, List.length_nil] at hlen
      omega

theorem move_performs {direction : Direction} {blank : Option S} {shift : Shift}
    (h : t.move direction blank = .ok (shift, t')) (index : Nat) :
    t.Performs ⟨direction.operation, index, t'.head, t.peek.toOption, t'.peek.toOption,
      shift == .extended⟩ t' := by
  obtain ⟨live, counted, moved⟩ := move_cases h
  rw [toOption_peek, toOption_peek]
  -- what is under the head afterwards is the cell that was added, or one that was there
  have replayed : t'.strip = t.strip.replay
        ⟨direction.operation, index, t'.head, t.strip.under, t'.strip.under, shift == .extended⟩ ∧
      t'.strip.under ≠ none := by
    rcases moved with ⟨rfl, b, hb⟩ | ⟨rfl, hs, hlt⟩
    · cases direction with
      | left =>
        obtain ⟨hlist, hhead⟩ := hb
        have hunder : t'.strip.under = some b := by
          simp [Strip.under, strip, hlist, hhead]
        rw [hunder]
        exact ⟨by simp [Strip.replay, strip, Direction.operation, hlist], nofun⟩
      | right =>
        obtain ⟨hlist, hhead⟩ := hb
        have hunder : t'.strip.under = some b := by
          simp [Strip.under, strip, hlist, hhead]
        rw [hunder]
        exact ⟨by simp [Strip.replay, strip, Direction.operation, hlist], nofun⟩
    · have hunder : t'.strip.under ≠ none := by
        simpa [Strip.under, strip, hs] using hlt
      refine ⟨?_, hunder⟩
      cases direction <;> simp [Strip.replay, strip, Direction.operation, hs]
  refine ⟨?_, replayed.1, counted⟩
  cases direction <;>
    exact ⟨rfl, congrArg Strip.under replayed.1, replayed.2, under_eq_none_iff live⟩

end Tape

/-! ## Requests to a bank -/

namespace Bank

variable {b b' : Bank S}

/-- The event is performed on the tape that it names, and the rest of the bank stays. -/
def Performs (b : Bank S) (e : TapeEvent S) (b' : Bank S) : Prop :=
  ∃ t t', b.tape e.tape = .ok t ∧ t.Performs e t' ∧ b' = b.put e.tape t'

/-- The bank after an event, or after none. -/
def Becomes (b : Bank S) : Option (TapeEvent S) → Bank S → Prop
  | some e, b' => b.Performs e b'
  | none, b' => b' = b

/-- Putting a tape where it was changes nothing. -/
theorem put_self {index : Nat} {t : Tape S} (h : b.tape index = .ok t) : b.put index t = b := by
  unfold tape at h
  split at h
  · next ht =>
    cases h
    obtain ⟨hi, rfl⟩ := List.getElem?_eq_some_iff.1 (Stack.get_eq_ok_iff.1 ht)
    rw [put, List.set_getElem_self]
  · cases h

theorem tracedRead_performs {index : Nat} {v : S} {e : TapeEvent S}
    (h : b.tracedRead index = .ok ((v, e), b')) : b.Performs e b' := by
  obtain ⟨t, t', ht, hw, rfl⟩ := update_eq_ok_iff.1 h
  split at hw
  · cases hw
  · next hr =>
    cases hw
    exact ⟨t, _, ht, Tape.read_performs hr index, rfl⟩

theorem tracedWrite_becomes [BEq S] {index : Nat} {v : S} {event : Option (TapeEvent S)}
    (h : b.tracedWrite index v = .ok (event, b')) : b.Becomes event b' := by
  obtain ⟨t, t', ht, hw, rfl⟩ := update_eq_ok_iff.1 h
  split at hw
  · cases hw
  · next hr =>
    cases hw
    show b.put index t' = b
    rw [Tape.eq_of_write_none hr, put_self ht]
  · next hr =>
    cases hw
    exact ⟨t, _, ht, Tape.write_performs hr index, rfl⟩

theorem tracedMove_performs {index : Nat} {direction : Direction} {e : TapeEvent S}
    (h : b.tracedMove index direction = .ok (e, b')) : b.Performs e b' := by
  obtain ⟨t, t', ht, hw, rfl⟩ := update_eq_ok_iff.1 h
  split at hw
  · cases hw
  · next hr =>
    cases hw
    exact ⟨t, _, ht, Tape.move_performs hr index, rfl⟩

/-- The requests that work on the cell under a head. -/
def Request.atHead : Request S → Bool
  | .read _ | .write _ _ | .move _ _ => true
  | _ => false

/-- Work on the cell under a head performs the event that comes with it; without an event nothing
has changed. -/
theorem serve_becomes [BEq S] {request : Request S} (at_head : request.atHead = true)
    {reply : Reply S} {event : Option (TapeEvent S)}
    (h : b.serve request = .ok ((reply, event), b')) :
    b.Becomes event b' := by
  cases request with
  | read tape =>
    obtain ⟨⟨⟨v, e⟩, b''⟩, hr, he⟩ := exists_of_map_eq_ok h
    cases he
    exact tracedRead_performs hr
  | write tape value =>
    obtain ⟨⟨e, b''⟩, hr, he⟩ := exists_of_map_eq_ok h
    cases he
    exact tracedWrite_becomes hr
  | move tape direction =>
    obtain ⟨⟨e, b''⟩, hr, he⟩ := exists_of_map_eq_ok h
    cases he
    exact tracedMove_performs hr
  | _ => cases at_head

end Bank

end TapeMachine
