import TapeMachine.Proofs.Rules.TapeOps
import TapeMachine.Proofs.Tape.Line

/-!
# The active input tape of a session

A session is on a line if its active input tape shows a window of that line and the bank has the
blank of the line. Reading, writing and moving through the session then are the same operations on
the line.

Results:
1. `OnLine.readInput_eq`: a read answers the symbol of the line and is counted.
2. `OnLine.perform_writeInput`, `OnLine.perform_moveInput`: the instructions on the active tape
   succeed, and the session is on the changed line.
-/

namespace TapeMachine

namespace Bank

variable {S α : Type} {b : Bank S} {t t' : Tape S}

theorem lt_of_tape_eq_ok {index : Nat} (h : b.tape index = .ok t) : index < b.tapes.len := by
  unfold tape at h
  split at h
  · rename_i hg
    obtain ⟨hi, -⟩ := List.getElem?_eq_some_iff.1 (Stack.get_eq_ok_iff.1 hg)
    exact hi
  · cases h

theorem update_active {work : Tape S → Except MachineError (α × Tape S)} {a : α}
    (h : b.tape b.active = .ok t) (hw : work t = .ok (a, t')) :
    b.update (b.indexOf none) work = .ok (a, b.put b.active t') :=
  update_eq_ok_iff.2 ⟨t, t', h, hw, rfl⟩

theorem tracedRead_active {v : S} (h : b.tape b.active = .ok t) (hr : t.read = .ok (v, t')) :
    ∃ event, b.tracedRead (b.indexOf none) = .ok ((v, event), b.put b.active t') :=
  ⟨_, update_active h (by simp only [hr]; rfl)⟩

theorem tracedWrite_active [BEq S] {v : S} {old : Option S} (h : b.tape b.active = .ok t)
    (hw : t.write v = .ok (old, t')) :
    ∃ event, b.tracedWrite (b.indexOf none) v = .ok (event, b.put b.active t') := by
  cases old with
  | none => exact ⟨none, update_active h (by simp only [hw])⟩
  | some old => exact ⟨some _, update_active h (by simp only [hw]; rfl)⟩

theorem tracedMove_active {d : Direction} {shift : Shift} (h : b.tape b.active = .ok t)
    (hm : t.move d b.blank = .ok (shift, t')) :
    ∃ event, b.tracedMove (b.indexOf none) d = .ok (event, b.put b.active t') :=
  ⟨_, update_active h (by simp only [hm]; rfl)⟩

end Bank

namespace Session

variable {I O W : Type}

/-- The active input tape is `t` and shows a window of the line, whose blank the bank has. -/
structure OnLine (s : Session I O W) (b : I) (l : Line I) (t : Tape I) : Prop where
  tape_eq : s.machine.inputTape none = .ok t
  blank_eq : s.machine.inputs.blank = some b
  shows : ∃ k, t.Shows b l k

variable {s : Session I O W} {b : I} {l l' : Line I} {t t' : Tape I}

/-- Work on the input tapes that succeeds changes the machine in them alone. -/
theorem onInputs_eq_ok {α : Type} (work : Bank I → Except MachineError (Bank.Traced I α × Bank I))
    {a : α} {event : Option (TapeEvent I)} {bank : Bank I}
    (h : work s.machine.inputs = .ok ((a, event), bank)) :
    ∃ s', onInputs work s = (.ok a, s') ∧ s'.machine = { s.machine with inputs := bank } := by
  rw [onInputs, h]
  cases event with
  | none => exact ⟨_, rfl, rfl⟩
  | some event => exact ⟨_, rfl, machine_recordInput _ _⟩

theorem onOutputs_eq_ok {α : Type}
    (work : Bank O → Except MachineError (Bank.Traced O α × Bank O)) {a : α}
    {event : Option (TapeEvent O)} {bank : Bank O}
    (h : work s.machine.outputs = .ok ((a, event), bank)) :
    ∃ s', onOutputs work s = (.ok a, s') ∧ s'.machine = { s.machine with outputs := bank } := by
  rw [onOutputs, h]
  cases event with
  | none => exact ⟨_, rfl, rfl⟩
  | some event => exact ⟨_, rfl, machine_recordOutput _ _⟩

/-- The session is on a line again once its active tape has been replaced by one that shows it. -/
theorem OnLine.put (h : s.OnLine b l t) {s' : Session I O W} (shows : ∃ k, t'.Shows b l' k)
    (hm : s'.machine =
      { s.machine with inputs := s.machine.inputs.put s.machine.inputs.active t' }) :
    s'.OnLine b l' t' where
  tape_eq := by
    rw [hm]
    exact Bank.tape_put_self t' (Bank.lt_of_tape_eq_ok h.tape_eq)
  blank_eq := by
    rw [hm]
    exact h.blank_eq
  shows := shows

/-- What a session is on depends on the input tapes alone. -/
theorem OnLine.congr (h : s.OnLine b l t) {s' : Session I O W}
    (hi : s'.machine.inputs = s.machine.inputs) : s'.OnLine b l t where
  tape_eq := by
    have := h.tape_eq
    rwa [Frame.inputTape, ← hi] at this
  blank_eq := by rw [hi]; exact h.blank_eq
  shows := h.shows

theorem OnLine.readInput_eq (h : s.OnLine b l t) :
    ∃ s' t', readInput none s = (.ok l.read, s') ∧ s'.OnLine b l t' ∧
      t'.statistics.reads = t.statistics.reads + 1 := by
  obtain ⟨k, hk⟩ := h.shows
  obtain ⟨t', hr, hs, hst⟩ := hk.read_eq
  obtain ⟨event, he⟩ := Bank.tracedRead_active h.tape_eq hr
  have hread : ∃ s', readInput none s = (.ok l.read, s') ∧
      s'.machine = { s.machine with inputs := s.machine.inputs.put s.machine.inputs.active t' } :=
    onInputs_eq_ok _ (by simp only [he]; rfl)
  obtain ⟨s', hs', hm⟩ := hread
  exact ⟨s', t', hs', h.put ⟨k, hs⟩ hm, by rw [hst]⟩

variable [BEq I] [BEq O]

theorem OnLine.perform_writeInput (h : s.OnLine b l t) (invoke : Invocation I O W) (v : I) :
    ∃ s' t', (Op.writeInput v).perform invoke s = some (.ok (), s') ∧ s'.OnLine b (l.write v).2 t' ∧
      t'.statistics.reads = t.statistics.reads := by
  obtain ⟨k, hk⟩ := h.shows
  obtain ⟨t', hw, hs, -, -, hreads, -, -⟩ := hk.write_eq v
  obtain ⟨event, he⟩ := Bank.tracedWrite_active h.tape_eq hw
  obtain ⟨s', hs', hm⟩ := onInputs_eq_ok (s := s) (·.serve (.write none v))
    (by simp only [Bank.serve, he]; rfl)
  have hperform : Run.ofAttempt (serveInput (.write none v)) s = some (_, s') := congrArg some hs'
  exact ⟨s', t', (Run.bind_of_ok hperform).trans rfl, h.put ⟨k, hs⟩ hm, hreads⟩

theorem OnLine.perform_moveInput (h : s.OnLine b l t) (invoke : Invocation I O W) (d : Direction) :
    ∃ s' t', (Op.moveInput d).perform invoke s = some (.ok (), s') ∧ s'.OnLine b (l.move d) t' ∧
      t'.statistics.reads = t.statistics.reads := by
  obtain ⟨k, hk⟩ := h.shows
  obtain ⟨shift, t', k', hmove, hs, -, -, -, hst⟩ := hk.move_eq d
  rw [← h.blank_eq] at hmove
  obtain ⟨event, he⟩ := Bank.tracedMove_active h.tape_eq hmove
  obtain ⟨s', hs', hm⟩ := onInputs_eq_ok (s := s) (·.serve (.move none d))
    (by simp only [Bank.serve, he]; rfl)
  have hperform : Run.ofAttempt (serveInput (.move none d)) s = some (_, s') := congrArg some hs'
  exact ⟨s', t', (Run.bind_of_ok hperform).trans rfl, h.put ⟨k', hs⟩ hm, by rw [hst]⟩

end Session

end TapeMachine
