import TapeMachine.Proofs.Session.TapeRequests

/-!
# Work on two tapes in either order

Reading, writing and moving reach one tape each: one index of one bank. So such work succeeds or
fails by what that tape is, it puts one tape in the place of another, and work on another tape
neither sees that nor undoes it. That holds for tapes that do not exist as well: to put a tape
somewhere adds no tape.

Results:
1. `HeadWork.perform_cases`: work at a head is refused, or it puts one tape at its own address.
2. `HeadWork.perform_place`: work at another address does the same after a tape has been put
   somewhere.
3. `Session.serve_headWork_comm`: in either order two pieces of work are answered alike and leave
   the same machine, and what is told of them is told in the order of the work.
-/

namespace TapeMachine

variable {I O W S : Type}

/-! ## Banks -/

namespace Bank

variable {b : Bank S} {i j : Nat}

theorem put_comm (h : i ≠ j) (t u : Tape S) : (b.put i t).put j u = (b.put j u).put i t := by
  simp only [put, List.set_comm _ _ h]

/-- Work on one tape does the same wherever another tape has been put. -/
theorem update_put {α : Type} (h : i ≠ j) (t : Tape S)
    (work : Tape S → Except MachineError (α × Tape S)) :
    (b.put i t).update j work = (b.update j work).map fun (a, b') => (a, b'.put i t) := by
  unfold update
  rw [tape_put_of_ne t h.symm]
  cases b.tape j with
  | error e => rfl
  | ok u =>
    simp only
    cases work u with
    | error e => rfl
    | ok p => simp only [Except.map, put_comm h]

end Bank

/-! ## Work at a head -/

/-- Work on the cell under the head of one tape; without an index, of the active one. -/
inductive HeadWork (I O : Type) where
  | input (tape : Option Nat) (request : Tape.Request I)
  | output (tape : Option Nat) (request : Tape.Request O)

/-- A tape and the place where it is put. -/
inductive Placement (I O : Type) where
  | input (index : Nat) (t : Tape I)
  | output (index : Nat) (t : Tape O)

/-- The bank, left for the inputs and right for the outputs, and the index in it. -/
def Placement.address : Placement I O → Nat ⊕ Nat
  | .input index _ => .inl index
  | .output index _ => .inr index

/-- The machine with a tape put in the place of another. -/
def Machine.place (m : Machine I O W) : Placement I O → Machine I O W
  | .input index t => { m with inputs := m.inputs.put index t }
  | .output index t => { m with outputs := m.outputs.put index t }

theorem Machine.place_comm {p q : Placement I O} (h : p.address ≠ q.address) (m : Machine I O W) :
    (m.place p).place q = (m.place q).place p := by
  cases p with
  | input i t =>
    cases q with
    | input j u => simp only [place, Bank.put_comm fun e : i = j => h (congrArg Sum.inl e)]
    | output j u => rfl
  | output i t =>
    cases q with
    | input j u => rfl
    | output j u => simp only [place, Bank.put_comm fun e : i = j => h (congrArg Sum.inr e)]

@[simp] theorem Machine.config_place (m : Machine I O W) (p : Placement I O) :
    (m.place p).config = m.config := by
  cases p <;> rfl

namespace HeadWork

/-- The call that has the work done. -/
def call : HeadWork I O → Machine.Call I O W
  | .input tape request => .input (request.on tape)
  | .output tape request => .output (request.on tape)

/-- The address of the tape that the work is for, whether or not there is one. -/
def address (m : Machine I O W) : HeadWork I O → Nat ⊕ Nat
  | .input tape _ => .inl (m.inputs.indexOf tape)
  | .output tape _ => .inr (m.outputs.indexOf tape)

@[simp] theorem address_place (m : Machine I O W) (p : Placement I O) (w : HeadWork I O) :
    w.address (m.place p) = w.address m := by
  cases p <;> cases w <;> rfl

variable [BEq I] [BEq O]

/-- What the work does to a machine: an answer and an event, or an error. -/
def perform (m : Machine I O W) :
    HeadWork I O →
    Except MachineError ((Answer I O (Action I O W) × Option (Event I O)) × Machine I O W)
  | .input tape request => (m.inputs.serve (request.on tape)).map fun ((reply, event), bank) =>
    ((Session.inputAnswer reply, event.map .input), { m with inputs := bank })
  | .output tape request => (m.outputs.serve (request.on tape)).map fun ((reply, event), bank) =>
    ((Session.outputAnswer reply, event.map .output), { m with outputs := bank })

/-- Work at a head is refused, or it puts one tape at its own address. -/
theorem perform_cases (m : Machine I O W) (w : HeadWork I O) :
    (∃ e, w.perform m = .error e) ∨
      ∃ told p, w.perform m = .ok (told, m.place p) ∧ p.address = w.address m := by
  cases w with
  | input tape request =>
    simp only [perform, Bank.serve_on]
    cases h : m.inputs.update (m.inputs.indexOf tape)
        (·.work (m.inputs.indexOf tape) m.inputs.blank request) with
    | error e => exact .inl ⟨e, rfl⟩
    | ok r =>
      obtain ⟨answer, bank⟩ := r
      obtain ⟨-, t', -, -, rfl⟩ := Bank.update_eq_ok_iff.1 h
      exact .inr ⟨_, .input _ t', rfl, rfl⟩
  | output tape request =>
    simp only [perform, Bank.serve_on]
    cases h : m.outputs.update (m.outputs.indexOf tape)
        (·.work (m.outputs.indexOf tape) m.outputs.blank request) with
    | error e => exact .inl ⟨e, rfl⟩
    | ok r =>
      obtain ⟨answer, bank⟩ := r
      obtain ⟨-, t', -, -, rfl⟩ := Bank.update_eq_ok_iff.1 h
      exact .inr ⟨_, .output _ t', rfl, rfl⟩

/-- Work at another address is answered alike after a tape has been put somewhere, and leaves it
there. -/
theorem perform_place {m : Machine I O W} {p : Placement I O} {w : HeadWork I O}
    (h : p.address ≠ w.address m) :
    w.perform (m.place p) = (w.perform m).map fun (told, m') => (told, m'.place p) := by
  cases w with
  | input tape request =>
    cases p with
    | input i t =>
      have apart : i ≠ m.inputs.indexOf tape := fun e => h (congrArg Sum.inl e)
      have update :=
        m.inputs.update_put apart t (·.work (m.inputs.indexOf tape) m.inputs.blank request)
      simp only [perform, Bank.serve_on, Machine.place]
      rw [show (m.inputs.put i t).indexOf tape = m.inputs.indexOf tape from rfl,
        show (m.inputs.put i t).blank = m.inputs.blank from rfl, update]
      cases m.inputs.update (m.inputs.indexOf tape) _ <;> rfl
    | output i t =>
      simp only [perform, Machine.place]
      cases m.inputs.serve (request.on tape) <;> rfl
  | output tape request =>
    cases p with
    | input i t =>
      simp only [perform, Machine.place]
      cases m.outputs.serve (request.on tape) <;> rfl
    | output i t =>
      have apart : i ≠ m.outputs.indexOf tape := fun e => h (congrArg Sum.inr e)
      have update :=
        m.outputs.update_put apart t (·.work (m.outputs.indexOf tape) m.outputs.blank request)
      simp only [perform, Bank.serve_on, Machine.place]
      rw [show (m.outputs.put i t).indexOf tape = m.outputs.indexOf tape from rfl,
        show (m.outputs.put i t).blank = m.outputs.blank from rfl, update]
      cases m.outputs.update (m.outputs.indexOf tape) _ <;> rfl

/-- What the work is answered with. -/
def result (m : Machine I O W) (w : HeadWork I O) :
    Except MachineError (Answer I O (Action I O W)) :=
  (w.perform m).map (·.1.1)

/-- The event of the work, if it has one. -/
def event? (m : Machine I O W) (w : HeadWork I O) : Option (Event I O) :=
  match w.perform m with
  | .ok ((_, event), _) => event
  | .error _ => none

/-- The machine after the work; if the work is refused, the one before it. -/
def after (m : Machine I O W) (w : HeadWork I O) : Machine I O W :=
  match w.perform m with
  | .ok (_, m') => m'
  | .error _ => m

/-- The machine after work is the one before it, but for one tape at the most. -/
theorem after_cases (m : Machine I O W) (w : HeadWork I O) :
    w.after m = m ∨ ∃ p : Placement I O, p.address = w.address m ∧ w.after m = m.place p := by
  unfold after
  rcases w.perform_cases m with ⟨e, h⟩ | ⟨told, p, h, hp⟩
  · rw [h]
    exact .inl rfl
  · rw [h]
    exact .inr ⟨p, hp, rfl⟩

@[simp] theorem config_after (m : Machine I O W) (w : HeadWork I O) :
    (w.after m).config = m.config := by
  rcases w.after_cases m with h | ⟨p, -, h⟩
  · rw [h]
  · rw [h, Machine.config_place]

section Apart

variable {m : Machine I O W} {w : HeadWork I O}

/-- A tape put somewhere else is nothing to the work: it is answered alike, tells the same, and
leaves that tape where it was put. -/
theorem outcome_place {p : Placement I O} (h : p.address ≠ w.address m) :
    w.result (m.place p) = w.result m ∧ w.event? (m.place p) = w.event? m ∧
      w.after (m.place p) = (w.after m).place p := by
  unfold result event? after
  rw [perform_place h]
  cases w.perform m <;> exact ⟨rfl, rfl, rfl⟩

/-- Nor is work at another address. -/
theorem outcome_after {other : HeadWork I O} (h : other.address m ≠ w.address m) :
    w.result (other.after m) = w.result m ∧ w.event? (other.after m) = w.event? m := by
  rcases other.after_cases m with same | ⟨p, hp, placed⟩
  · rw [same]
    exact ⟨rfl, rfl⟩
  · rw [placed]
    obtain ⟨result, event, -⟩ := outcome_place (hp ▸ h)
    exact ⟨result, event⟩

theorem after_comm {other : HeadWork I O} (h : other.address m ≠ w.address m) :
    w.after (other.after m) = other.after (w.after m) := by
  rcases other.after_cases m with same | ⟨p, hp, placed⟩
  · rw [same]
    rcases w.after_cases m with same' | ⟨q, hq, placed'⟩
    · rw [same', same]
    · rw [placed', (outcome_place (hq ▸ h.symm)).2.2, same]
  · rw [placed, (outcome_place (hp ▸ h)).2.2]
    rcases w.after_cases m with same' | ⟨q, hq, placed'⟩
    · rw [same', placed]
    · rw [placed', (outcome_place (hq ▸ h.symm)).2.2, placed]
      exact Machine.place_comm (by rw [hp, hq]; exact h.symm) m

end Apart

end HeadWork

/-! ## What is written down and told -/

/-- The entry that the log has for an event. -/
def Event.entry : Event I O → LogEntry I O
  | .input e => .input e
  | .output e => .output e
  | .transition source target => .transition source target

namespace Session

/-- What an event adds where it is recorded, if it is recorded there. -/
def added {α : Type} (on : Bool) (event : Option α) : List α := if on then event.toList else []

/-- The session after work that had an event, or none, and made its machine `m`. -/
def worked (s : Session I O W) (m : Machine I O W) : Option (Event I O) → Session I O W
  | none => { s with machine := m }
  | some event => ({ s with machine := m }.note event.entry).tell event

section Worked

variable (s : Session I O W) (m : Machine I O W) (event : Option (Event I O))

theorem worked_eq : s.worked m event = { s with
    machine := m
    events := s.events ++ (added s.observed event).toArray
    log := s.log ++ (added m.config.verbose (event.map Event.entry)).toArray } := by
  cases event with
  | none => simp [worked, added]
  | some event =>
    simp only [worked, note, tell, added, Option.map_some, Option.toList_some]
    split <;> split <;> simp_all

@[simp] theorem machine_worked : (s.worked m event).machine = m := by rw [worked_eq]

@[simp] theorem observed_worked : (s.worked m event).observed = s.observed := by rw [worked_eq]

@[simp] theorem world_worked : (s.worked m event).world = s.world := by rw [worked_eq]

@[simp] theorem events_worked :
    (s.worked m event).events.toList = s.events.toList ++ added s.observed event := by
  rw [worked_eq, Array.toList_append]

@[simp] theorem log_worked : (s.worked m event).log.toList =
    s.log.toList ++ added m.config.verbose (event.map Event.entry) := by
  rw [worked_eq, Array.toList_append]

end Worked

variable [BEq I] [BEq O]

/-- A call for work at a head has the work done and records it, whatever the fuel is. -/
theorem serve_headWork (fuel : Nat) (w : HeadWork I O) (s : Session I O W) :
    serve fuel w.call s =
      some (w.result s.machine, s.worked (w.after s.machine) (w.event? s.machine)) := by
  unfold HeadWork.result HeadWork.after HeadWork.event?
  cases w with
  | input tape request =>
    have hs : Run.ofAttempt (serveInput (request.on tape)) s =
        some (serveInput (request.on tape) s) := rfl
    simp only [serveInput, onInputs] at hs
    simp only [HeadWork.perform]
    cases h : s.machine.inputs.serve (request.on tape) with
    | error e =>
      rw [h] at hs
      exact Run.bind_of_error hs
    | ok r =>
      obtain ⟨⟨reply, event⟩, bank⟩ := r
      rw [h] at hs
      refine (Run.bind_of_ok hs).trans ?_
      cases event <;> rfl
  | output tape request =>
    have hs : Run.ofAttempt (serveOutput (request.on tape)) s =
        some (serveOutput (request.on tape) s) := rfl
    simp only [serveOutput, onOutputs] at hs
    simp only [HeadWork.perform]
    cases h : s.machine.outputs.serve (request.on tape) with
    | error e =>
      rw [h] at hs
      exact Run.bind_of_error hs
    | ok r =>
      obtain ⟨⟨reply, event⟩, bank⟩ := r
      rw [h] at hs
      refine (Run.bind_of_ok hs).trans ?_
      cases event <;> rfl

/-- Refused work leaves no trace. -/
theorem worked_of_result_error {s : Session I O W} {w : HeadWork I O} {e : MachineError}
    (h : w.result s.machine = .error e) :
    s.worked (w.after s.machine) (w.event? s.machine) = s := by
  unfold HeadWork.result at h
  unfold HeadWork.after HeadWork.event?
  rw [eq_error_of_map_eq_error h]
  rfl

/-! ## Either order -/

/-- After work at another address a call is answered and told as before it. -/
theorem serve_headWork_after {s : Session I O W} {w other : HeadWork I O}
    (h : other.address s.machine ≠ w.address s.machine) (event : Option (Event I O)) (fuel : Nat) :
    serve fuel w.call (s.worked (other.after s.machine) event) =
      some (w.result s.machine,
        (s.worked (other.after s.machine) event).worked (w.after (other.after s.machine))
          (w.event? s.machine)) := by
  obtain ⟨result, told⟩ := HeadWork.outcome_after h
  rw [serve_headWork, machine_worked, result, told]

/-- Two pieces of work on the cells under the heads of two tapes, which may be tapes of one bank or
of both and need not exist, whatever session they are done in. In either order each is answered with
the same answer or error, and the machines, the observers and the surroundings afterwards are the
same. What is told of one alone is told of it in both orders, and so is what is logged: first of the
work done first. Work that is refused leaves the session as it was, so all there is then is the
other work. -/
theorem serve_headWork_comm (s : Session I O W) (first second : HeadWork I O)
    (apart : first.address s.machine ≠ second.address s.machine) (fuel : Nat) :
    ∃ r₁ r₂ s₁ s₂ s₁₂ s₂₁ e₁ e₂ l₁ l₂,
      (serve fuel first.call s = some (r₁, s₁) ∧ serve fuel second.call s₁ = some (r₂, s₁₂)) ∧
      (serve fuel second.call s = some (r₂, s₂) ∧ serve fuel first.call s₂ = some (r₁, s₂₁)) ∧
      (s₁₂.machine = s₂₁.machine ∧ s₁₂.observed = s₂₁.observed ∧ s₁₂.world = s₂₁.world) ∧
      (s₁.events.toList = s.events.toList ++ e₁ ∧ s₂.events.toList = s.events.toList ++ e₂ ∧
        s₁₂.events.toList = s.events.toList ++ e₁ ++ e₂ ∧
        s₂₁.events.toList = s.events.toList ++ e₂ ++ e₁) ∧
      (s₁.log.toList = s.log.toList ++ l₁ ∧ s₂.log.toList = s.log.toList ++ l₂ ∧
        s₁₂.log.toList = s.log.toList ++ l₁ ++ l₂ ∧ s₂₁.log.toList = s.log.toList ++ l₂ ++ l₁) ∧
      (∀ e, r₁ = .error e → s₁ = s) ∧ ∀ e, r₂ = .error e → s₂ = s := by
  refine ⟨first.result s.machine, second.result s.machine, _, _, _, _,
    added s.observed (first.event? s.machine), added s.observed (second.event? s.machine),
    added s.machine.config.verbose ((first.event? s.machine).map Event.entry),
    added s.machine.config.verbose ((second.event? s.machine).map Event.entry),
    ⟨serve_headWork fuel first s, serve_headWork_after apart _ fuel⟩,
    ⟨serve_headWork fuel second s, serve_headWork_after apart.symm _ fuel⟩, ?_, ?_, ?_,
    fun _ => worked_of_result_error, fun _ => worked_of_result_error⟩
  · simp only [machine_worked, observed_worked, world_worked, and_true]
    exact HeadWork.after_comm apart
  · simp only [events_worked, observed_worked, and_self]
  · simp only [log_worked, HeadWork.config_after, and_self]

/-- An observed machine with a cell on its first input tape and none on its second, which is the
active one: the second tape is moved, which gives it a cell, and the cell of the first is
written. -/
theorem serve_headWork_comm_two_inputs :
    ∃ (s : Session Bool Bool Unit) (first second : HeadWork Bool Bool),
      first.address s.machine ≠ second.address s.machine ∧
      ∃ r₁ r₂ s₁ s₂ s₁₂ s₂₁ e₁ e₂,
        (serve 0 first.call s = some (r₁, s₁) ∧ serve 0 second.call s₁ = some (r₂, s₁₂)) ∧
        (serve 0 second.call s = some (r₂, s₂) ∧ serve 0 first.call s₂ = some (r₁, s₂₁)) ∧
        s₁₂.machine = s₂₁.machine ∧ e₁ ≠ e₂ ∧
        s₁₂.events.toList = [e₁, e₂] ∧ s₂₁.events.toList = [e₂, e₁] := by
  let s : Session Bool Bool Unit :=
    { observed := true
      world := ()
      machine :=
        { inputs :=
            { tapes := ⟨[{ storage := .ofList [true] }, {}]⟩, active := 1, blank := some false } } }
  let first : HeadWork Bool Bool := .input none (.move .left)
  let second : HeadWork Bool Bool := .input (some 0) (.write false)
  have apart : first.address s.machine ≠ second.address s.machine := by decide
  obtain ⟨r₁, r₂, s₁, s₂, s₁₂, s₂₁, e₁, e₂, _, _, one, other, same, told, -, -⟩ :=
    serve_headWork_comm s first second apart 0
  obtain ⟨told₁, told₂, told₁₂, told₂₁⟩ := told
  have moved : (serve 0 first.call s).map (·.2.events.toList) =
      some [.input ⟨.moveLeft, 1, 0, none, some false, true⟩] := by decide +kernel
  have written : (serve 0 second.call s).map (·.2.events.toList) =
      some [.input ⟨.write, 0, 0, some true, some false, false⟩] := by decide +kernel
  rw [one.1] at moved
  rw [other.1] at written
  obtain rfl : e₁ = _ := told₁.symm.trans (Option.some.inj moved)
  obtain rfl : e₂ = _ := told₂.symm.trans (Option.some.inj written)
  exact ⟨s, first, second, apart, r₁, r₂, s₁, s₂, s₁₂, s₂₁, _, _, one, other, same.1, by decide,
    told₁₂, told₂₁⟩

end Session

end TapeMachine
