import TapeMachine.Proofs.Rules.Execution
import TapeMachine.Proofs.Session.ActiveTape
import TapeMachine.Proofs.Session.Calls

/-!
# Machines with one input tape and one output tape

Many programs work a machine with a single tape on either side: they read the input from the front
toward the back and write a verdict on the only cell of the output. Here is what each of their steps
does to such a machine, once for all of them.

Results:
1. `Tape.Reaches.read_eq`, `Tape.Reaches.moveLeft_eq`: a head that goes left reads the given cells
   and then blanks.
2. `Session.Scans`: such a machine at a state and a position, and what reading, moving, writing the
   verdict, going to a state and dispatching make of it. None of these steps touches code,
   configuration or snapshots.
3. `Session.execute_of_ended`: a run that ended within the fuel is answered with its end.
-/

namespace TapeMachine

variable {I O W S : Type}

/-! ## Tapes -/

namespace Tape

/-- The tape with the given cells once its head went left to a position, over blanks where the cells
end. -/
structure Reaches (t : Tape S) (b : S) (cells : List S) (position : Nat) : Prop where
  toList_eq : t.storage.toList = cells ++ List.replicate (position + 1 - cells.length) b
  head_eq : t.head = position

namespace Reaches

variable {t : Tape S} {b : S} {cells : List S} {position : Nat}

theorem start (toList_eq : t.storage.toList = cells) (head_eq : t.head = position)
    (inside : position < cells.length) : t.Reaches b cells position where
  toList_eq := by
    rw [Nat.sub_eq_zero_of_le inside, List.replicate_zero, List.append_nil]
    exact toList_eq
  head_eq := head_eq

variable (r : t.Reaches b cells position)
include r

theorem count_eq : t.storage.count = max cells.length (position + 1) := by
  rw [← Sequence.length_toList, r.toList_eq, List.length_append, List.length_replicate]
  omega

theorem cell_eq : t.storage.toList[t.head]? = some (cells[position]?.getD b) := by
  rw [r.toList_eq, r.head_eq]
  rcases Nat.lt_or_ge position cells.length with inside | beyond
  · rw [List.getElem?_append_left inside, List.getElem?_eq_getElem inside, Option.getD_some]
  · have last : position - cells.length < position + 1 - cells.length := by omega
    rw [List.getElem?_append_right beyond, List.getElem?_replicate_of_lt last,
      List.getElem?_eq_none beyond, Option.getD_none]

theorem live : t.Live := by
  rw [Live, r.count_eq, r.head_eq]
  omega

theorem read_eq : ∃ t', t.read = .ok (cells[position]?.getD b, t') ∧ t'.Reaches b cells position ∧
    t'.snapshot = t.snapshot :=
  ⟨_, read_of_cell r.cell_eq, ⟨r.toList_eq, r.head_eq⟩, rfl⟩

theorem moveLeft_eq : ∃ shift t', t.move .left (some b) = .ok (shift, t') ∧
    t'.Reaches b cells (position + 1) ∧ t'.snapshot = t.snapshot := by
  have hm : t.move .left (some b) = _ := moveLeft_of_live r.live b
  rw [r.count_eq] at hm
  by_cases hlast : t.head + 1 = max cells.length (position + 1)
  · -- the head leaves the last cell, so a blank one comes behind it
    rw [if_pos hlast] at hm
    refine ⟨_, _, hm, ⟨?_, by rw [r.head_eq]⟩, rfl⟩
    have hgrow : position + 1 + 1 - cells.length = (position + 1 - cells.length) + 1 := by
      have := r.head_eq
      omega
    rw [Sequence.toList_append, r.toList_eq, hgrow, List.replicate_succ', List.append_assoc]
  · rw [if_neg hlast] at hm
    refine ⟨_, _, hm, ⟨?_, by rw [r.head_eq]⟩, rfl⟩
    have hsame : position + 1 + 1 - cells.length = position + 1 - cells.length := by
      have := r.head_eq
      omega
    rw [hsame]
    exact r.toList_eq

end Reaches

/-- A head beyond the cells cannot read. -/
theorem read_of_le {t : Tape S} (h : t.storage.count ≤ t.head) : t.read = .error t.stale := by
  rw [read, (Sequence.get_eq_error_iff t.storage).2 ⟨h, rfl⟩]

/-- The tape has one cell, and its head is there. -/
structure IsCell (t : Tape S) (v : S) : Prop where
  toList_eq : t.storage.toList = [v]
  head_eq : t.head = 0

theorem IsCell.write_eq [BEq S] [LawfulBEq S] {t : Tape S} {old : S} (h : t.IsCell old) (v : S) :
    ∃ replaced t', t.write v = .ok (replaced, t') ∧ t'.IsCell v ∧ t'.snapshot = t.snapshot := by
  have hcell : t.storage.toList[t.head]? = some old := by rw [h.toList_eq, h.head_eq]; rfl
  cases he : old == v with
  | true =>
    cases eq_of_beq he
    exact ⟨none, t, write_of_equal hcell he, h, rfl⟩
  | false =>
    obtain ⟨storage, hw, hlist⟩ := write_of_unequal hcell he
    refine ⟨_, _, hw, ⟨?_, h.head_eq⟩, rfl⟩
    rw [hlist, h.toList_eq, h.head_eq]
    rfl

end Tape

/-! ## Banks -/

/-- One tape, and a blank. -/
def Bank.single (t : Tape S) (b : S) : Bank S := { tapes := ⟨[t]⟩, blank := some b }

namespace Bank

variable {t t' : Tape S} {b : S}

theorem tape_single (t : Tape S) (b : S) : (single t b).tape (single t b).active = .ok t := rfl

theorem serve_read_single [BEq S] {v : S} (h : t.read = .ok (v, t')) :
    ∃ event, (single t b).serve (.read none) = .ok ((.symbol v, event), single t' b) := by
  obtain ⟨event, he⟩ := tracedRead_active (tape_single t b) h
  exact ⟨some event, by rw [Bank.serve, he]; rfl⟩

theorem serve_write_single [BEq S] {v : S} {replaced : Option S}
    (h : t.write v = .ok (replaced, t')) :
    ∃ event, (single t b).serve (.write none v) = .ok ((.done, event), single t' b) := by
  obtain ⟨event, he⟩ := tracedWrite_active (tape_single t b) h
  exact ⟨event, by rw [Bank.serve, he]; rfl⟩

theorem serve_move_single [BEq S] {d : Direction} {shift : Shift}
    (h : t.move d (some b) = .ok (shift, t')) :
    ∃ event, (single t b).serve (.move none d) = .ok ((.done, event), single t' b) := by
  obtain ⟨event, he⟩ := tracedMove_active (tape_single t b) h
  exact ⟨some event, by rw [Bank.serve, he]; rfl⟩

end Bank

/-! ## Sessions -/

/-- What a program leaves alone: the code and the configuration of a machine, the blank on either
side, and the cells that a reset restores. -/
structure Layout (I O W : Type) where
  machine : Machine I O W
  inputBlank : I
  outputBlank : O
  inputSnapshot : Sequence I := .empty
  outputSnapshot : Sequence O := .empty

namespace Session

/-- The session is laid out as said, with a current state and one tape on either side. -/
structure LaidOut (L : Layout I O W) (state : Int) (t : Tape I) (o : Tape O) (s : Session I O W) :
    Prop where
  code : L.machine.SameCode s.machine
  config_eq : s.machine.config = L.machine.config
  default_eq : s.machine.registry.default = L.machine.registry.default
  current_eq : s.machine.registry.current = state
  inputs_eq : s.machine.inputs = .single t L.inputBlank
  outputs_eq : s.machine.outputs = .single o L.outputBlank
  inputSnapshot_eq : t.snapshot = L.inputSnapshot
  outputSnapshot_eq : o.snapshot = L.outputSnapshot

/-- A machine that is given its two tapes is laid out. -/
theorem LaidOut.of_machine_eq {m : Machine I O W} {b : I} {c : O} {t : Tape I} {o : Tape O}
    {s : Session I O W}
    (hm : s.machine = { m with inputs := .single t b, outputs := .single o c }) :
    s.LaidOut ⟨m, b, c, t.snapshot, o.snapshot⟩ m.registry.current t o where
  code := ⟨by rw [hm], fun _ => by rw [hm]; rfl, fun _ => by rw [hm]⟩
  config_eq := by rw [hm]
  default_eq := by rw [hm]
  current_eq := by rw [hm]
  inputs_eq := by rw [hm]
  outputs_eq := by rw [hm]
  inputSnapshot_eq := rfl
  outputSnapshot_eq := rfl

namespace LaidOut

variable {L : Layout I O W} {state : Int} {t t' : Tape I} {o o' : Tape O} {s s' : Session I O W}
  (h : s.LaidOut L state t o)
include h

theorem withInput (hm : s'.machine = { s.machine with inputs := .single t' L.inputBlank })
    (snapshot : t'.snapshot = t.snapshot) : s'.LaidOut L state t' o where
  code := h.code.trans ⟨by rw [hm], fun _ => by rw [hm]; rfl, fun _ => by rw [hm]⟩
  config_eq := by rw [hm]; exact h.config_eq
  default_eq := by rw [hm]; exact h.default_eq
  current_eq := by rw [hm]; exact h.current_eq
  inputs_eq := by rw [hm]
  outputs_eq := by rw [hm]; exact h.outputs_eq
  inputSnapshot_eq := snapshot.trans h.inputSnapshot_eq
  outputSnapshot_eq := h.outputSnapshot_eq

theorem withOutput (hm : s'.machine = { s.machine with outputs := .single o' L.outputBlank })
    (snapshot : o'.snapshot = o.snapshot) : s'.LaidOut L state t o' where
  code := h.code.trans ⟨by rw [hm], fun _ => by rw [hm]; rfl, fun _ => by rw [hm]⟩
  config_eq := by rw [hm]; exact h.config_eq
  default_eq := by rw [hm]; exact h.default_eq
  current_eq := by rw [hm]; exact h.current_eq
  inputs_eq := by rw [hm]; exact h.inputs_eq
  outputs_eq := by rw [hm]
  inputSnapshot_eq := h.inputSnapshot_eq
  outputSnapshot_eq := snapshot.trans h.outputSnapshot_eq

theorem withCurrent {other : Int} {counters : Counters}
    (hm : s'.machine =
      { s.machine with registry := s.machine.registry.setCurrent other, counters := counters }) :
    s'.LaidOut L other t o where
  code := h.code.trans ⟨by rw [hm], fun _ => by rw [hm]; rfl, fun _ => by rw [hm]; rfl⟩
  config_eq := by rw [hm]; exact h.config_eq
  default_eq := by rw [hm]; exact h.default_eq
  current_eq := by rw [hm]; rfl
  inputs_eq := by rw [hm]; exact h.inputs_eq
  outputs_eq := by rw [hm]; exact h.outputs_eq
  inputSnapshot_eq := h.inputSnapshot_eq
  outputSnapshot_eq := h.outputSnapshot_eq

theorem enterState_eq {other : Int} {action : Action I O W}
    (bound : L.machine.registry.get? other = some action) :
    enterState other s =
      (.ok action, { s with machine.registry := s.machine.registry.setCurrent other }) :=
  Attempt.bind_of_ok
    (Attempt.ask_of_ok (Frame.lookup_eq_ok_iff.2 ((h.code.get?_eq other).trans bound)))

theorem beginRun (start : Start) {other : Int} {action : Action I O W}
    (starts : startState start s = other) (bound : L.machine.registry.get? other = some action) :
    ∃ s', Session.beginRun start s = (.ok action, s') ∧ s'.LaidOut L other t o := by
  subst starts
  refine ⟨entering _ s, (Attempt.bind_of_ok rfl).trans (Attempt.bind_of_ok (h.enterState_eq bound)),
    ?_⟩
  exact h.withCurrent (machine_entering _ s)

theorem tracedRead_of_error {e : MachineError} (hr : t.read = .error e) :
    s.machine.inputs.tracedRead (s.machine.inputs.indexOf none) = .error e := by
  rw [h.inputs_eq]
  simp only [Bank.tracedRead, Bank.update, Bank.indexOf, Option.getD_none, Bank.tape_single, hr]

theorem readInput_of_error {e : MachineError} (hr : t.read = .error e) :
    readInput none s = (.error e, s) := by
  simp only [readInput, onInputs, h.tracedRead_of_error hr, Except.map]

/-- Code that reads passes the error of the tape on. -/
theorem eval_onInput_of_error [BEq I] [BEq O] (f : Nat) (next : I → Action I O W) {e : MachineError}
    (hr : t.read = .error e) : Action.eval (f + 1) (.onInput next) s = some (.error e, s) := by
  have hs : serveInput (.read none) s = (.error e, s) := by
    simp only [serveInput, onInputs, Bank.serve, h.tracedRead_of_error hr, Except.map]
  have hserve : serveWith (Action.eval f) f (.input (.read none)) s = some (.error e, s) :=
    Run.bind_of_error (congrArg some hs)
  simp only [Action.eval, Action.onInput, Action.evalWith, hserve]

theorem loadInput [BEq I] (storage : Sequence I) (head : Nat) :
    ∃ s', serveInput (.load none storage (some head)) s = (.ok .done, s') ∧
      s'.LaidOut L state (t.load storage (some head)) o := by
  have hw : s.machine.inputs.serve (.load none storage (some head)) =
      .ok ((.done, none), .single (t.load storage (some head)) L.inputBlank) := by
    rw [h.inputs_eq]
    rfl
  obtain ⟨s', hs, hm⟩ := onInputs_eq_ok (s := s) (·.serve (.load none storage (some head))) hw
  exact ⟨s', hs, h.withInput hm rfl⟩

theorem reset : ∃ s', Session.reset s = (.ok (), s') ∧ s'.LaidOut L state t.reset o.reset := by
  have hm : (Session.reset s).2.machine =
      { s.machine with
        inputs := .single t.reset L.inputBlank
        outputs := .single o.reset L.outputBlank } := by
    rw [machine_reset, Machine.wound, h.inputs_eq, h.outputs_eq]
    rfl
  have hi : { s with machine.inputs := .single t.reset L.inputBlank }.LaidOut L state t.reset o :=
    h.withInput rfl rfl
  exact ⟨(Session.reset s).2, rfl, hi.withOutput hm rfl⟩

/-- What is written down changes no layout. -/
theorem conclude (entry : LogEntry I O) : (s.conclude entry).LaidOut L state t o :=
  ⟨h.code, h.config_eq, h.default_eq, h.current_eq, h.inputs_eq, h.outputs_eq, h.inputSnapshot_eq,
    h.outputSnapshot_eq⟩

end LaidOut

/-- The session is laid out as said, its head went to a position of the given cells, and its output
is one cell. -/
def Scans (L : Layout I O W) (cells : List I) (state : Int) (position : Nat) (output : O)
    (s : Session I O W) : Prop :=
  ∃ t o, s.LaidOut L state t o ∧ t.Reaches L.inputBlank cells position ∧ o.IsCell output

namespace Scans

variable {L : Layout I O W} {cells : List I} {state : Int} {position : Nat} {output : O}
  {s : Session I O W} (h : s.Scans L cells state position output)
include h

/-! ### Steps -/

theorem readInput_eq : ∃ s', readInput none s = (.ok (cells[position]?.getD L.inputBlank), s') ∧
    s'.Scans L cells state position output := by
  obtain ⟨t, o, hl, hr, ho⟩ := h
  obtain ⟨t', hread, hr', hsnap⟩ := hr.read_eq
  obtain ⟨event, he⟩ := Bank.tracedRead_active (Bank.tape_single t L.inputBlank) hread
  have hwork : ∃ s', readInput none s = (.ok (cells[position]?.getD L.inputBlank), s') ∧
      s'.machine = { s.machine with inputs := .single t' L.inputBlank } :=
    onInputs_eq_ok _ (by rw [hl.inputs_eq, he]; rfl)
  obtain ⟨s', hs, hm⟩ := hwork
  exact ⟨s', hs, t', o, hl.withInput hm hsnap, hr', ho⟩

theorem serveInput_read [BEq I] :
    ∃ s', serveInput (.read none) s = (.ok (.symbol (cells[position]?.getD L.inputBlank)), s') ∧
      s'.Scans L cells state position output := by
  obtain ⟨t, o, hl, hr, ho⟩ := h
  obtain ⟨t', hread, hr', hsnap⟩ := hr.read_eq
  obtain ⟨event, he⟩ := Bank.serve_read_single hread
  obtain ⟨s', hs, hm⟩ :=
    onInputs_eq_ok (s := s) (·.serve (.read none)) (by rw [hl.inputs_eq]; exact he)
  exact ⟨s', hs, t', o, hl.withInput hm hsnap, hr', ho⟩

theorem serveInput_moveLeft [BEq I] :
    ∃ s', serveInput (.move none .left) s = (.ok .done, s') ∧
      s'.Scans L cells state (position + 1) output := by
  obtain ⟨t, o, hl, hr, ho⟩ := h
  obtain ⟨shift, t', hmove, hr', hsnap⟩ := hr.moveLeft_eq
  obtain ⟨event, he⟩ := Bank.serve_move_single hmove
  obtain ⟨s', hs, hm⟩ :=
    onInputs_eq_ok (s := s) (·.serve (.move none .left)) (by rw [hl.inputs_eq]; exact he)
  exact ⟨s', hs, t', o, hl.withInput hm hsnap, hr', ho⟩

theorem serveOutput_write [BEq O] [LawfulBEq O] (v : O) :
    ∃ s', serveOutput (.write none v) s = (.ok .done, s') ∧ s'.Scans L cells state position v := by
  obtain ⟨t, o, hl, hr, ho⟩ := h
  obtain ⟨replaced, o', hwrite, ho', hsnap⟩ := ho.write_eq v
  obtain ⟨event, he⟩ := Bank.serve_write_single hwrite
  obtain ⟨s', hs, hm⟩ :=
    onOutputs_eq_ok (s := s) (·.serve (.write none v)) (by rw [hl.outputs_eq]; exact he)
  exact ⟨s', hs, t, o', hl.withOutput hm hsnap, hr, ho'⟩

theorem enter {other : Int} {action : Action I O W}
    (bound : L.machine.registry.get? other = some action) :
    ∃ s', transitionTo (.goTo (some other)) s = (.ok (.enter action), s') ∧
      s'.Scans L cells other position output := by
  obtain ⟨t, o, hl, hr, ho⟩ := h
  refine ⟨_, (Attempt.bind_of_ok rfl).trans (Attempt.bind_of_ok (hl.enterState_eq bound)), t,
    o, ?_, hr, ho⟩
  exact hl.withCurrent (machine_recordTransition _ _ _)

theorem stop :
    ∃ s', transitionTo .stop s = (.ok .halt, s') ∧ s'.Scans L cells state position output := by
  obtain ⟨t, o, hl, hr, ho⟩ := h
  refine ⟨s.recordTransition s.machine.registry.current none, rfl, t, o, ?_, hr, ho⟩
  have stays := hl.withCurrent (machine_recordTransition s s.machine.registry.current none)
  rw [hl.current_eq] at stays ⊢
  exact stays

/-- A dispatch chooses the branch that the table of the state has for the cell under the head. -/
theorem selectBranch_eq [BEq I] {table : Table I (Action I O W)} {branch : Action I O W}
    (compiled : L.machine.compiled state = some table)
    (selects : table.select (cells[position]?.getD L.inputBlank) = some branch) :
    ∃ s', selectBranch s = (.ok branch, s') ∧ s'.Scans L cells state position output := by
  obtain ⟨s', hread, hs'⟩ := h.readInput_eq
  refine ⟨s', selectBranch_of_read hread ?_ selects, hs'⟩
  obtain ⟨t, o, hl, -, -⟩ := hs'
  rw [hl.current_eq, hl.code.compiled_eq, compiled]

/-! ### Code -/

section Code

variable [BEq I] [BEq O] (f : Nat)

theorem perform_moveLeft :
    ∃ s', (Op.moveInput .left).perform (Action.eval f) s = some (.ok (), s') ∧
    s'.Scans L cells state (position + 1) output := by
  obtain ⟨s', hs, hs'⟩ := h.serveInput_moveLeft
  have hmove : Run.ofAttempt (serveInput (.move none .left)) s = some (_, s') := congrArg some hs
  exact ⟨s', (Run.bind_of_ok hmove).trans rfl, hs'⟩

theorem eval_onInput (next : I → Action I O W) :
    ∃ s', Action.eval (f + 1) (.onInput next) s =
        Action.eval (f + 1) (next (cells[position]?.getD L.inputBlank)) s' ∧
      s'.Scans L cells state position output := by
  obtain ⟨s', hs, hs'⟩ := h.serveInput_read
  have hread : Run.ofAttempt (serveInput (.read none)) s = some (_, s') := congrArg some hs
  have hserve : serveWith (Action.eval f) f (.input (.read none)) s = some (.ok (.input _), s') :=
    (Run.bind_of_ok hread).trans rfl
  refine ⟨s', ?_, hs'⟩
  simp only [Action.eval, Action.onInput, Action.evalWith, hserve]
  rfl

theorem eval_moveLeft (next : Action I O W) :
    ∃ s', Action.eval (f + 1) (.andThen (.input (.move none .left)) next) s =
        Action.eval (f + 1) next s' ∧ s'.Scans L cells state (position + 1) output := by
  obtain ⟨s', hs, hs'⟩ := h.serveInput_moveLeft
  have hmove : Run.ofAttempt (serveInput (.move none .left)) s = some (_, s') := congrArg some hs
  have hserve : serveWith (Action.eval f) f (.input (.move none .left)) s = some (.ok .done, s') :=
    (Run.bind_of_ok hmove).trans rfl
  refine ⟨s', ?_, hs'⟩
  simp only [Action.eval, Action.andThen, Action.evalWith, hserve]
  rfl

/-- Going to a state ends the action with what is bound to it. -/
theorem eval_goTo {other : Int} {action : Action I O W}
    (bound : L.machine.registry.get? other = some action) :
    ∃ s', Action.eval (f + 1) (.follow (.goTo (some other))) s = some (.ok (.enter action), s') ∧
      s'.Scans L cells other position output := by
  obtain ⟨s', hs, hs'⟩ := h.enter bound
  exact ⟨s', by rw [Action.eval, Session.evalWith_follow, Run.ofAttempt_apply, hs], hs'⟩

/-- Writing a verdict and halting. -/
theorem eval_verdict [LawfulBEq O] (v : O) :
    ∃ s', Action.eval (f + 1) (.andThen (.output (.write none v)) (.follow .stop)) s =
        some (.ok .halt, s') ∧ s'.Scans L cells state position v := by
  obtain ⟨s₁, hw, hs₁⟩ := h.serveOutput_write v
  have hwrite : Run.ofAttempt (serveOutput (.write none v)) s = some (_, s₁) := congrArg some hw
  have hserve : serveWith (Action.eval f) f (.output (.write none v)) s = some (.ok .done, s₁) :=
    (Run.bind_of_ok hwrite).trans rfl
  obtain ⟨s', hs, hs'⟩ := hs₁.stop
  refine ⟨s', ?_, hs'⟩
  rw [Action.andThen, Action.eval, Action.evalWith, hserve]
  show (Action.follow .stop).evalWith _ _ _ s₁ = _
  rw [Session.evalWith_follow, Run.ofAttempt_apply, hs]

end Code

end Scans

/-! ## Runs -/

variable {action : Action I O W} {s s' : Session I O W}

/-- A run that ended within the fuel is answered with its end, if the tapes are not to be reset. -/
theorem execute_of_ended [BEq I] [BEq O] {fuel : Nat} {start : Start} {entered : Session I O W}
    {result : Except MachineError Unit} (begun : Session.beginRun start s = (.ok action, entered))
    (ended : advance (Action.eval fuel) fuel action entered = some (.ended result s'))
    (unreset : s'.machine.config.resetAfterExecution = false) :
    execute fuel start s = some (result, s') := by
  have hx : execute fuel start s = _ := executeWith_eq_advance begun fuel
  have unreset :
      (Standing.ended (A := Action I O W) result s').state.machine.config.resetAfterExecution =
      false := unreset
  rw [hx, ended, Option.bind_some, finish_eq_outcome? unreset]
  rfl

end Session

/-! ## Parts of programs -/

/-- The answer of a program on a fresh machine is logged. -/
theorem Programs.exists_run {α : Type} [Text.Legible I] [Text.Legible O] {config : Config}
    {program : Run (Session I O Unit) α} {answer : Except MachineError α} {s : Session I O Unit}
    (h : program (Session.fresh config ()) = some (answer, s)) :
    ∃ log, run config program = some ⟨answer, log⟩ := by
  unfold Session.fresh at h
  exact ⟨_, by rw [run, h]⟩

theorem Programs.outputCell_eq {L : Layout I O Unit} {state : Int} {t : Tape I} {o : Tape O} {v : O}
    {s : Session I O Unit} (h : s.LaidOut L state t o) (ho : o.IsCell v) :
    outputCell 0 s = (.ok v, s) := by
  have hget : o.storage.get 0 = .ok v :=
    (Sequence.get_eq_ok_iff o.storage).2 (by rw [ho.toList_eq]; rfl)
  have htape : s.machine.outputTape none = .ok o := by rw [Frame.outputTape, h.outputs_eq]; rfl
  exact Attempt.ask_of_ok (by simp only [htape, bind, Except.bind, hget, pure, Except.pure])

theorem Programs.inputHead_eq {L : Layout I O Unit} {state : Int} {t : Tape I} {o : Tape O}
    {s : Session I O Unit} (h : s.LaidOut L state t o) : inputHead s = (.ok t.head, s) := by
  refine Attempt.ask_of_ok ?_
  rw [Frame.inputTape, h.inputs_eq]
  rfl

end TapeMachine
