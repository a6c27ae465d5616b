import TapeMachine.Proofs.Session.ActiveTape
import TapeMachine.Proofs.Tape.Outcomes

/-!
# Requests to the tapes of a machine

A machine that is asked to read, to write or to move finds the bank and in it the tape, hands the
request to that tape, puts in its place what the tape becomes, and records the event. So what the
tape says to a request, the machine says.

Results:
1. `Bank.serve_on`: a request to a bank is a request to one of its tapes.
2. `Session.serveInput_on`, `Session.serveOutput_on`: the same for a machine; a refusal leaves all
   as it was.
3. `Tape.every_request_outcome`: which requests to a tape are refused and what the others do, for
   every tape and every blank.
-/

namespace TapeMachine

variable {S : Type}

namespace Tape

variable {t t' : Tape S}

/-- The same request to a bank, for one of its tapes. -/
def Request.on (tape : Option Nat) : Request S → Bank.Request S
  | .read => .read tape
  | .write value => .write tape value
  | .move direction => .move tape direction

/-- The reply as a bank passes it on: of a write and a move only that they are done. -/
def Reply.passed : Reply S → Bank.Reply S
  | .symbol value => .symbol value
  | .replaced _ | .moved _ => .done

/-- The event that tells of a request to the tape at an index, the tape being `t` before and `t'`
after it. A write that replaces nothing has none. -/
def event (index : Nat) (t t' : Tape S) : Request S → Reply S → Option (TapeEvent S)
  | .read, .symbol value => some ⟨.read, index, t'.head, none, some value, false⟩
  | .write value, .replaced (some old) => some ⟨.write, index, t'.head, some old, some value, false⟩
  | .move direction, .moved shift =>
    some ⟨direction.operation, index, t'.head, t.peek.toOption, t'.peek.toOption,
      shift == .extended⟩
  | _, _ => none

/-- Carries out a request for a bank that holds the tape at an index. -/
def work [BEq S] (t : Tape S) (index : Nat) (blank : Option S) (request : Request S) :
    Except MachineError (Bank.Traced S (Bank.Reply S) × Tape S) :=
  (t.serve blank request).map fun (reply, t') =>
    ((reply.passed, event index t t' request reply), t')

theorem work_of_ok [BEq S] {index : Nat} {blank : Option S} {request : Request S} {reply : Reply S}
    (h : t.serve blank request = .ok (reply, t')) :
    t.work index blank request = .ok ((reply.passed, event index t t' request reply), t') := by
  rw [work, h]
  rfl

end Tape

/-- A bank hands a request for one of its tapes to that tape, and puts in its place what it
becomes. -/
theorem Bank.serve_on [BEq S] (b : Bank S) (tape : Option Nat) (request : Tape.Request S) :
    b.serve (request.on tape) =
      b.update (b.indexOf tape) (·.work (b.indexOf tape) b.blank request) := by
  cases request with
  | read =>
    simp only [Tape.Request.on, serve, tracedRead, update]
    cases b.tape (b.indexOf tape) with
    | error e => rfl
    | ok t =>
      simp only [Tape.work, Tape.serve]
      cases t.read <;> rfl
  | write value =>
    simp only [Tape.Request.on, serve, tracedWrite, update]
    cases b.tape (b.indexOf tape) with
    | error e => rfl
    | ok t =>
      simp only [Tape.work, Tape.serve]
      cases t.write value with
      | error e => rfl
      | ok p => obtain ⟨_ | old, t'⟩ := p <;> rfl
  | move direction =>
    simp only [Tape.Request.on, serve, tracedMove, update]
    cases b.tape (b.indexOf tape) with
    | error e => rfl
    | ok t =>
      simp only [Tape.work, Tape.serve]
      cases t.move direction b.blank <;> rfl

namespace Session

variable {I O W : Type} {s : Session I O W} {tape : Option Nat}

/-- Work on an input tape: refused as the tape refuses it, and then nothing has changed; otherwise
the tape is all of the machine that changes. -/
theorem serveInput_on [BEq I] {t : Tape I} (ht : s.machine.inputTape tape = .ok t)
    (request : Tape.Request I) :
    (∀ e, t.serve s.machine.inputs.blank request = .error e →
      serveInput (request.on tape) s = (.error e, s)) ∧
    ∀ reply t', t.serve s.machine.inputs.blank request = .ok (reply, t') →
      ∃ s', serveInput (request.on tape) s = (.ok reply.passed, s') ∧
        s'.machine = { s.machine with
          inputs := s.machine.inputs.put (s.machine.inputs.indexOf tape) t' } := by
  have ht : s.machine.inputs.tape (s.machine.inputs.indexOf tape) = .ok t := ht
  refine ⟨fun e he => ?_, fun reply t' hr => ?_⟩
  · simp only [serveInput, onInputs, Bank.serve_on, Bank.update, ht, Tape.work, he]
    rfl
  · exact onInputs_eq_ok (·.serve (request.on tape))
      ((Bank.serve_on _ tape request).trans
        (Bank.update_eq_ok_iff.2 ⟨t, t', ht, Tape.work_of_ok hr, rfl⟩))

/-- Work on an output tape, likewise. -/
theorem serveOutput_on [BEq O] {t : Tape O} (ht : s.machine.outputTape tape = .ok t)
    (request : Tape.Request O) :
    (∀ e, t.serve s.machine.outputs.blank request = .error e →
      serveOutput (request.on tape) s = (.error e, s)) ∧
    ∀ reply t', t.serve s.machine.outputs.blank request = .ok (reply, t') →
      ∃ s', serveOutput (request.on tape) s = (.ok reply.passed, s') ∧
        s'.machine = { s.machine with
          outputs := s.machine.outputs.put (s.machine.outputs.indexOf tape) t' } := by
  have ht : s.machine.outputs.tape (s.machine.outputs.indexOf tape) = .ok t := ht
  refine ⟨fun e he => ?_, fun reply t' hr => ?_⟩
  · simp only [serveOutput, onOutputs, Bank.serve_on, Bank.update, ht, Tape.work, he]
    rfl
  · exact onOutputs_eq_ok (·.serve (request.on tape))
      ((Bank.serve_on _ tape request).trans
        (Bank.update_eq_ok_iff.2 ⟨t, t', ht, Tape.work_of_ok hr, rfl⟩))

end Session

/-! ## Every request -/

/-- What every request to a tape is answered with, whatever its cells, its counters and its head are
and whether there is a blank.
1. Looking, reading and writing are refused exactly if the head is on no cell. Otherwise a read
   counts and changes nothing else, and a write replaces the cell and counts, or finds an equal
   symbol and does neither.
2. A move is refused for its head exactly if the head is beyond the cells of a tape that has some,
   whatever the blank is; if not, exactly if it needs a cell and there is no blank. Otherwise it
   adds a cell exactly if it needs one, lands on a cell of the tape and counts once, and nothing
   else changes.
3. With head and count in 64-bit words nothing wraps: the words tell the ends of the tape and give
   the new head.
4. Once the head is beyond the cells of a tape that has some, no request succeeds.
5. In a machine a refused request leaves everything as it was, and one that succeeds changes this
   tape alone. -/
theorem Tape.every_request_outcome [BEq S] (t : Tape S) (blank : Option S) :
    (∀ e, t.peek = .error e ↔ t.storage.count ≤ t.head ∧ e = .staleHead t.head t.storage.count) ∧
    (∀ e, t.read = .error e ↔ t.storage.count ≤ t.head ∧ e = .staleHead t.head t.storage.count) ∧
    (∀ value e, t.write value = .error e ↔
      t.storage.count ≤ t.head ∧ e = .staleHead t.head t.storage.count) ∧
    (t.head < t.storage.count →
      ∃ held, t.storage.toList[t.head]? = some held ∧ t.peek = .ok held ∧
        t.read = .ok (held, { t with statistics.reads := t.statistics.reads + 1 }) ∧
        ∀ value, ∃ old t', t.write value = .ok (old, t') ∧
          if held == value then old = none ∧ t' = t
          else old = some held ∧ t'.storage.toList = t.storage.toList.set t.head value ∧
            t' = { t with storage := t'.storage, statistics.writes := t.statistics.writes + 1 }) ∧
    (∀ d e, t.move d blank = .error e ↔
      (t.Overrun ∧ e = .staleHead t.head t.storage.count) ∨
        (¬ t.Overrun ∧ t.NeedsCell d ∧ blank = none ∧ e = .uninitializedValue "blank symbol")) ∧
    (∀ d, ¬ t.Overrun → (t.NeedsCell d → blank ≠ none) →
      ∃ shift t', t.move d blank = .ok (shift, t') ∧ t.Moved d blank shift t' ∧
        ∀ head count : UInt64, head.toNat = t.head → count.toNat = t.storage.count →
          (wordLanding count head d).toNat = t'.head) ∧
    (∀ head count : UInt64, head.toNat = t.head → count.toNat = t.storage.count →
      (t.NeedsCell .left ↔ count = 0 ∨ count - 1 = head) ∧
        (t.NeedsCell .right ↔ count = 0 ∨ head = 0)) ∧
    (t.Overrun → ∀ request, t.serve blank request = .error (.staleHead t.head t.storage.count)) ∧
    (∀ (O W : Type) (s : Session S O W) (tape : Option Nat),
      s.machine.inputTape tape = .ok t → ∀ request : Request S,
        (∀ e, t.serve s.machine.inputs.blank request = .error e →
          Session.serveInput (request.on tape) s = (.error e, s)) ∧
        ∀ reply t', t.serve s.machine.inputs.blank request = .ok (reply, t') →
          ∃ s', Session.serveInput (request.on tape) s = (.ok reply.passed, s') ∧
            s'.machine = { s.machine with
              inputs := s.machine.inputs.put (s.machine.inputs.indexOf tape) t' }) ∧
    ∀ (I W : Type) (s : Session I S W) (tape : Option Nat),
      s.machine.outputTape tape = .ok t → ∀ request : Request S,
        (∀ e, t.serve s.machine.outputs.blank request = .error e →
          Session.serveOutput (request.on tape) s = (.error e, s)) ∧
        ∀ reply t', t.serve s.machine.outputs.blank request = .ok (reply, t') →
          ∃ s', Session.serveOutput (request.on tape) s = (.ok reply.passed, s') ∧
            s'.machine = { s.machine with
              outputs := s.machine.outputs.put (s.machine.outputs.indexOf tape) t' } := by
  refine ⟨fun _ => peek_eq_error_iff, fun _ => read_eq_error_iff, fun _ _ => write_eq_error_iff,
    exists_held, fun _ _ => move_eq_error_iff, fun d placed filled => ?_,
    fun _ _ => needsCell_iff_words, fun stale => serve_of_overrun stale blank,
    fun _ _ _ _ => Session.serveInput_on, fun _ _ _ _ => Session.serveOutput_on⟩
  obtain ⟨shift, t', hm, moved⟩ := exists_moved placed filled
  exact ⟨shift, t', hm, moved, fun _ _ => moved.toNat_landing placed⟩

end TapeMachine
