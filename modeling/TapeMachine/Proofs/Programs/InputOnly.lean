import TapeMachine.Proofs.Programs.OneTape
import TapeMachine.Proofs.Rules.Footprint

/-!
# Rules at work on one input tape

A machine that has one input tape and is worked by its rules alone is told by three things: the
state it is in, its tape, and how many transitions it has made. What the rules do to these can be
told without the machine, as a walk of the tape. All else of the machine stays as it was before the
run, so the walk is the same for every configuration; the setting to reset after a run is asked for
when the walk is over.

Results:
1. `Tape.Stands`: a tape seen from its head, with what was done to it so far, and what reading,
   writing and moving make of it.
2. `Tape.step`, `Tape.walk`: what rules make of a tape, up to their halt.
3. `Session.exists_eval_dispatch`, `Session.exists_advance`: a dispatch is a step, and a run is a
   walk.
4. `Programs.exists_execute`, `Programs.exists_reporting`: a program that lays out one tape and its
   rules reports where the walk leads, under every configuration.
-/

namespace TapeMachine

variable {I O W S : Type}

/-! ## Tapes -/

namespace Tape

/-- The cells before the head, those from the head on, and what was done to the tape so far. -/
structure Stands (t : Tape S) (before ahead : List S) (done : TapeStatistics) : Prop where
  toList_eq : t.storage.toList = before ++ ahead
  head_eq : t.head = before.length
  statistics_eq : t.statistics = done

/-- What a head comes upon behind the cell that it leaves: the cells there, or a blank one. -/
def orBlank (b : S) : List S → List S
  | [] => [b]
  | cell :: rest => cell :: rest

namespace Stands

variable {t : Tape S} {before ahead after : List S} {cell last : S} {done : TapeStatistics}

section Cell

variable (h : t.Stands before (cell :: after) done)
include h

theorem cell_eq : t.storage.toList[t.head]? = some cell := by
  rw [h.toList_eq, h.head_eq, List.getElem?_append_right (Nat.le_refl _), Nat.sub_self]
  rfl

theorem count_eq : t.storage.count = before.length + (after.length + 1) := by
  rw [← Sequence.length_toList, h.toList_eq, List.length_append, List.length_cons]

theorem live : t.Live := by
  rw [Live, h.count_eq, h.head_eq]
  omega

theorem read_eq : ∃ t', t.read = .ok (cell, t') ∧
    t'.Stands before (cell :: after) { done with reads := done.reads + 1 } :=
  ⟨_, read_of_cell h.cell_eq, h.toList_eq, h.head_eq, by rw [← h.statistics_eq]⟩

theorem write_eq [BEq S] {v : S} (ne : (cell == v) = false) : ∃ old t', t.write v = .ok (old, t') ∧
    t'.Stands before (v :: after) { done with writes := done.writes + 1 } := by
  obtain ⟨storage, hw, hlist⟩ := write_of_unequal h.cell_eq ne
  refine ⟨_, _, hw, ?_, h.head_eq, by rw [← h.statistics_eq]⟩
  rw [hlist, h.toList_eq, h.head_eq, List.set_append_right _ _ (Nat.le_refl _), Nat.sub_self,
    List.set_cons_zero]

theorem moveLeft_eq (b : S) : ∃ shift t', t.move .left (some b) = .ok (shift, t') ∧
    t'.Stands (before ++ [cell]) (orBlank b after)
    { done with movesLeft := done.movesLeft + 1 } := by
  have hm : t.move .left (some b) = _ := moveLeft_of_live h.live b
  have head : t.head + 1 = (before ++ [cell]).length := by rw [h.head_eq, List.length_append]; rfl
  have cells : t.storage.toList = (before ++ [cell]) ++ after := by
    rw [h.toList_eq, List.append_assoc]; rfl
  rw [h.count_eq, h.head_eq] at hm
  cases after with
  | nil =>
    -- the head leaves the last cell, so a blank one comes behind it
    rw [List.length_nil, Nat.zero_add, if_pos rfl] at hm
    refine ⟨_, _, hm, ?_, by rw [← head, h.head_eq], by rw [← h.statistics_eq]⟩
    rw [Sequence.toList_append, cells, List.append_nil]
    rfl
  | cons next rest =>
    rw [if_neg (by rw [List.length_cons]; omega)] at hm
    exact ⟨_, _, hm, cells, by rw [← head, h.head_eq], by rw [← h.statistics_eq]⟩

end Cell

theorem moveRight_eq (h : t.Stands (before ++ [last]) ahead done) (ne : ahead ≠ []) (b : S) :
    ∃ shift t', t.move .right (some b) = .ok (shift, t') ∧
      t'.Stands before (last :: ahead) { done with movesRight := done.movesRight + 1 } := by
  obtain ⟨cell, after, rfl⟩ := List.exists_cons_of_ne_nil ne
  have hm : t.move .right (some b) = _ := moveRight_of_live h.live b
  have head : t.head = before.length + 1 := by rw [h.head_eq, List.length_append]; rfl
  rw [head, if_neg (Nat.succ_ne_zero _)] at hm
  refine ⟨_, _, hm, ?_, Nat.add_sub_cancel _ _, by rw [← h.statistics_eq]⟩
  rw [h.toList_eq, List.append_assoc]
  rfl

end Stands

/-! ## Walks -/

section Walk

theorem toOption_eq_some_iff {ε α : Type} {x : Except ε α} {a : α} :
    x.toOption = some a ↔ x = .ok a := by
  cases x with
  | error e => exact ⟨nofun, nofun⟩
  | ok a' =>
    exact ⟨fun h => congrArg Except.ok (Option.some.inj h), fun h =>
      congrArg some (Except.ok.inj h)⟩

variable [BEq I] {rules : List (Rule I (Op I O W))} {b : I} {ops : List (Op I O W)}
  {state final : Int} {next : Option Int} {fuel n : Nat} {t t' t₁ t₂ : Tape I}

/-- What an instruction makes of a tape over a blank. There is nothing if it fails or is not for
this tape alone. -/
def perform (b : I) (t : Tape I) : Op I O W → Option (Tape I)
  | .input (.write none v) => (t.write v).toOption.map Prod.snd
  | .input (.move none d) => (t.move d (some b)).toOption.map Prod.snd
  | _ => none

theorem perform_eq_some_iff {op : Op I O W} : perform b t op = some t' ↔
    (∃ v old, op = .writeInput v ∧ t.write v = .ok (old, t')) ∨
      ∃ d shift, op = .moveInput d ∧ t.move d (some b) = .ok (shift, t') := by
  constructor
  · intro h
    unfold perform at h
    split at h
    · next v =>
      obtain ⟨⟨old, t₁⟩, hw, rfl⟩ := Option.map_eq_some_iff.1 h
      exact .inl ⟨v, old, rfl, toOption_eq_some_iff.1 hw⟩
    · next d =>
      obtain ⟨⟨shift, t₁⟩, hm, rfl⟩ := Option.map_eq_some_iff.1 h
      exact .inr ⟨d, shift, rfl, toOption_eq_some_iff.1 hm⟩
    · cases h
  · rintro (⟨v, old, rfl, hw⟩ | ⟨d, shift, rfl, hm⟩)
    · rw [Op.writeInput, perform, hw]
      rfl
    · rw [Op.moveInput, perform, hm]
      rfl

theorem foldlM_write {v : I} {old : Option I} (h : t.write v = .ok (old, t₁)) :
    (.writeInput v :: ops).foldlM (perform b) t = ops.foldlM (perform b) t₁ := by
  rw [List.foldlM_cons, perform_eq_some_iff.2 (.inl ⟨v, old, rfl, h⟩)]
  rfl

theorem foldlM_move {d : Direction} {shift : Shift} (h : t.move d (some b) = .ok (shift, t₁)) :
    (.moveInput d :: ops).foldlM (perform b) t = ops.foldlM (perform b) t₁ := by
  rw [List.foldlM_cons, perform_eq_some_iff.2 (.inr ⟨d, shift, rfl, h⟩)]
  rfl

/-- A read, and what the branch for the symbol makes of the tape. The state to go to is declared. -/
def step (rules : List (Rule I (Op I O W))) (b : I) (state : Int) (t : Tape I) :
    Option (Option Int × Tape I) := do
  let (symbol, t) ← t.read.toOption
  let branch ← branchFor rules state symbol
  let t ← branch.ops.foldlM (perform b) t
  if branch.next.all (RuleSet.hasState ⟨rules⟩) then some (branch.next, t) else none

/-- Where the rules halt after at most so many steps: how many it took, the state and the tape. -/
def walk (rules : List (Rule I (Op I O W))) (b : I) :
    Nat → Int → Tape I → Option (Nat × Int × Tape I)
  | 0, _, _ => none
  | fuel + 1, state, t => do
    match ← step rules b state t with
    | (none, t) => return (1, state, t)
    | (some next, t) =>
      let (n, final, t) ← walk rules b fuel next t
      return (n + 1, final, t)

theorem step_eq_some_iff : step rules b state t = some (next, t') ↔
    ∃ symbol t₁ branch, t.read = .ok (symbol, t₁) ∧ branchFor rules state symbol = some branch ∧
      branch.ops.foldlM (perform b) t₁ = some t' ∧ branch.next = next ∧
      branch.next.all (RuleSet.hasState ⟨rules⟩) = true := by
  constructor
  · intro h
    obtain ⟨⟨symbol, t₁⟩, hr, h⟩ := Option.bind_eq_some_iff.1 h
    obtain ⟨branch, chosen, h⟩ := Option.bind_eq_some_iff.1 h
    obtain ⟨t₂, work, h⟩ := Option.bind_eq_some_iff.1 h
    split at h
    · next known =>
      cases h
      exact ⟨symbol, t₁, branch, toOption_eq_some_iff.1 hr, chosen, work, rfl, known⟩
    · cases h
  · rintro ⟨symbol, t₁, branch, hr, chosen, work, rfl, known⟩
    simp only [step, hr, Except.toOption, chosen, work, known, bind, Option.bind_some, ↓reduceIte]

theorem walk_of_halt (h : step rules b state t = some (none, t')) :
    walk rules b (fuel + 1) state t = some (1, state, t') := by
  simp only [walk, h, bind, Option.bind_some]
  rfl

theorem walk_of_goTo {other : Int} (h : step rules b state t = some (some other, t₁))
    (rest : walk rules b fuel other t₁ = some (n, final, t')) :
    walk rules b (fuel + 1) state t = some (n + 1, final, t') := by
  simp only [walk, h, rest, bind, Option.bind_some]
  rfl

/-- A walk has a first step, and a walk after it unless that one halts. -/
theorem exists_step_of_walk (h : walk rules b fuel state t = some (n, final, t')) :
    ∃ left, fuel = left + 1 ∧ ((step rules b state t = some (none, t') ∧ n = 1 ∧ final = state) ∨
      ∃ other t₁ taken, step rules b state t = some (some other, t₁) ∧
        walk rules b left other t₁ = some (taken, final, t') ∧ n = taken + 1) := by
  cases fuel with
  | zero => cases h
  | succ left =>
    refine ⟨left, rfl, ?_⟩
    obtain ⟨⟨next, t₁⟩, hstep, h⟩ := Option.bind_eq_some_iff.1 h
    cases next with
    | none =>
      cases h
      exact .inl ⟨hstep, rfl, rfl⟩
    | some other =>
      obtain ⟨⟨taken, last, t₂⟩, hrest, h⟩ := Option.bind_eq_some_iff.1 h
      cases h
      exact .inr ⟨other, t₁, taken, hstep, hrest, rfl⟩

theorem snapshot_of_perform {op : Op I O W} (h : perform b t op = some t') :
    t'.snapshot = t.snapshot := by
  rcases perform_eq_some_iff.1 h with ⟨v, old, -, hw⟩ | ⟨d, shift, -, hm⟩
  · exact (grows_of_write hw).snapshot_eq
  · exact (grows_of_move hm).snapshot_eq

theorem snapshot_of_foldlM (h : ops.foldlM (perform b) t = some t') : t'.snapshot = t.snapshot := by
  induction ops generalizing t with
  | nil =>
    cases h
    rfl
  | cons op rest ih =>
    obtain ⟨t₁, hop, hrest⟩ := Option.bind_eq_some_iff.1 h
    exact (ih hrest).trans (snapshot_of_perform hop)

theorem hasState_of_step {other : Int} (h : step rules b state t = some (some other, t')) :
    RuleSet.hasState ⟨rules⟩ other = true := by
  obtain ⟨symbol, t₁, branch, -, -, -, hnext, known⟩ := step_eq_some_iff.1 h
  rw [hnext] at known
  exact known

theorem snapshot_of_step (h : step rules b state t = some (next, t')) :
    t'.snapshot = t.snapshot := by
  obtain ⟨symbol, t₁, branch, hr, -, work, -, -⟩ := step_eq_some_iff.1 h
  exact (snapshot_of_foldlM work).trans (grows_of_read hr).snapshot_eq

/-- A walk leaves the cells that a reset restores. -/
theorem snapshot_of_walk (h : walk rules b fuel state t = some (n, final, t')) :
    t'.snapshot = t.snapshot := by
  induction fuel generalizing state t n with
  | zero => cases h
  | succ fuel ih =>
    obtain ⟨left, hleft, ⟨hstep, -, -⟩ | ⟨other, t₁, taken, hstep, hrest, -⟩⟩ :=
      exists_step_of_walk h
    · exact snapshot_of_step hstep
    · cases hleft
      exact (ih hrest).trans (snapshot_of_step hstep)

end Walk

end Tape

/-! ## Machines -/

/-- The machine in the midst of a run: in a state, with its input tape and so many transitions
made. -/
def Machine.amid (m : Machine I O W) (b : I) (state : Int) (t : Tape I) (transitions : Nat) :
    Machine I O W :=
  { m with
    inputs := .single t b
    registry := m.registry.setCurrent state
    counters := { m.counters with transitions := transitions } }

theorem Machine.sameCode_amid (m : Machine I O W) (b : I) (state : Int) (t : Tape I)
    (transitions : Nat) :
    m.SameCode (m.amid b state t transitions) :=
  ⟨rfl, fun _ => rfl, fun _ => rfl⟩

namespace Session

variable {m : Machine I O W} {rules : List (Rule I (Op I O W))} {b symbol : I} {state : Int}
  {next : Option Int} {t t' : Tape I} {n : Nat} {s : Session I O W}

theorem exists_readInput (hs : s.machine = m.amid b state t n) (hr : t.read = .ok (symbol, t')) :
    ∃ s', readInput none s = (.ok symbol, s') ∧ s'.machine = m.amid b state t' n := by
  obtain ⟨event, he⟩ := Bank.tracedRead_active (Bank.tape_single t b) hr
  have work : ∃ s', readInput none s = (.ok symbol, s') ∧
      s'.machine = { s.machine with inputs := .single t' b } :=
    onInputs_eq_ok _ (by rw [hs, Machine.amid, he]; rfl)
  obtain ⟨s', hs', hm⟩ := work
  exact ⟨s', hs', by rw [hm, hs]; rfl⟩

/-- To go where the rules lead, or to halt, is one more transition. -/
theorem exists_transitionTo (enforces : m.Enforces ⟨rules⟩) (hs : s.machine = m.amid b state t n)
    (known : ∀ other, next = some other → RuleSet.hasState ⟨rules⟩ other = true) :
    ∃ s', transitionTo (.goTo next) s = (.ok (onward next.isSome), s') ∧
      s'.machine = m.amid b (next.getD state) t (n + 1) := by
  cases next with
  | none =>
    refine ⟨s.recordTransition s.machine.registry.current none, rfl, ?_⟩
    rw [machine_recordTransition, hs]
    rfl
  | some other =>
    have bound : s.machine.Enforces ⟨rules⟩ := by
      rw [hs]
      exact enforces.of_sameCode (m.sameCode_amid b state t n)
    refine ⟨_,
      (Attempt.bind_of_ok rfl).trans
        (Attempt.bind_of_ok (enterState_of_enforces bound (known other rfl))), ?_⟩
    rw [machine_recordTransition]
    simp only [hs]
    rfl

variable [BEq I] [BEq O]

theorem exists_perform (invoke : Invocation I O W) {op : Op I O W}
    (h : Tape.perform b t op = some t') (hs : s.machine = m.amid b state t n) :
    ∃ s', op.perform invoke s = some (.ok (), s') ∧ s'.machine = m.amid b state t' n := by
  -- it is enough that the bank of one tape serves the instruction
  have of_serve {i : Instruction I} {event : Option (TapeEvent I)}
      (he : (Bank.single t b).serve i.request = .ok ((.done, event), .single t' b)) :
      ∃ s', (Op.input i : Op I O W).perform invoke s = some (.ok (), s') ∧
          s'.machine = m.amid b state t' n := by
    obtain ⟨s', hi, hm⟩ := onInputs_eq_ok (s := s) (·.serve i.request) (by rw [hs]; exact he)
    exact ⟨s', (Run.bind_of_ok (congrArg some hi)).trans rfl, hm.trans (by rw [hs]; rfl)⟩
  rcases Tape.perform_eq_some_iff.1 h with ⟨v, old, rfl, hw⟩ | ⟨d, shift, rfl, hm⟩
  · obtain ⟨event, he⟩ := Bank.serve_write_single (b := b) hw
    exact of_serve (i := .write none v) he
  · obtain ⟨event, he⟩ := Bank.serve_move_single (b := b) hm
    exact of_serve (i := .move none d) he

theorem exists_performAll (invoke : Invocation I O W) {ops : List (Op I O W)}
    (h : ops.foldlM (Tape.perform b) t = some t') (hs : s.machine = m.amid b state t n) :
    ∃ s', performAll (Op.perform invoke) ops s = some (.ok (), s') ∧
      s'.machine = m.amid b state t' n := by
  induction ops generalizing t s with
  | nil =>
    cases h
    exact ⟨s, rfl, hs⟩
  | cons op rest ih =>
    obtain ⟨t₁, hop, hrest⟩ := Option.bind_eq_some_iff.1 h
    obtain ⟨s₁, hs₁, hm₁⟩ := exists_perform invoke hop hs
    obtain ⟨s', hs', hm'⟩ := ih hrest hm₁
    exact ⟨s', (Run.bind_of_ok hs₁).trans hs', hm'⟩

/-- A dispatch makes a step of the tape, and goes to the next state or halts. -/
theorem exists_eval_dispatch (f : Nat) (enforces : m.Enforces ⟨rules⟩)
    (declared : RuleSet.hasState ⟨rules⟩ state = true) (hs : s.machine = m.amid b state t n)
    (h : Tape.step rules b state t = some (next, t')) :
    ∃ s', Action.eval (f + 2) .dispatch s = some (.ok (onward next.isSome), s') ∧
      s'.machine = m.amid b (next.getD state) t' (n + 1) := by
  obtain ⟨symbol, t₁, branch, hr, chosen, work, rfl, known⟩ := Tape.step_eq_some_iff.1 h
  obtain ⟨s₁, hread, hs₁⟩ := exists_readInput hs hr
  obtain ⟨branch', action, hbranch, hselect, heval⟩ := exists_select declared symbol
  cases chosen.symm.trans hbranch
  have compiled : s₁.machine.compiled s₁.machine.registry.current =
      some (RuleSet.tableOf ⟨rules⟩ state) := by
    rw [hs₁]
    exact enforces.compiled state declared
  obtain ⟨s₂, hops, hs₂⟩ := exists_performAll (Action.eval f) work hs₁
  obtain ⟨s', hgo, hs'⟩ := exists_transitionTo enforces hs₂ ((Option.all_eq_true _ _).1 known)
  refine ⟨s', ?_, hs'⟩
  rw [eval_dispatch_of_ok (selectBranch_of_read hread compiled hselect), heval]
  exact (Run.bind_of_ok hops).trans (congrArg some hgo)

/-- A run of dispatches is a walk of the tape. -/
theorem exists_advance {f fuel taken : Nat} {final : Int} (enforces : m.Enforces ⟨rules⟩)
    (declared : RuleSet.hasState ⟨rules⟩ state = true) (hs : s.machine = m.amid b state t n)
    (h : Tape.walk rules b fuel state t = some (taken, final, t')) :
    ∃ s', advance (Action.eval (f + 2)) fuel .dispatch s = some (.ended (.ok ()) s') ∧
      s'.machine = m.amid b final t' (n + taken) := by
  induction fuel generalizing state t n s taken with
  | zero => cases h
  | succ fuel ih =>
    obtain ⟨left, hleft, ⟨hstep, rfl, rfl⟩ | ⟨other, t₁, taken, hstep, hrest, rfl⟩⟩ :=
      Tape.exists_step_of_walk h
    · obtain ⟨s', heval, hs'⟩ := exists_eval_dispatch f enforces declared hs hstep
      exact ⟨s', advance_of_halt heval, hs'⟩
    · cases hleft
      obtain ⟨s₁, heval, hs₁⟩ := exists_eval_dispatch f enforces declared hs hstep
      obtain ⟨s', hrun, hs'⟩ := ih (Tape.hasState_of_step hstep) hs₁ hrest
      refine ⟨s', (advance_of_enter heval).trans hrun, ?_⟩
      rw [hs', Nat.add_right_comm, Nat.add_assoc]

end Session

/-! ## Programs -/

namespace Programs

/-- What a program lays out before it builds: an input tape with its cells over a blank, and its
rules. -/
def loaded (config : Config) (blank : I) (cells : Sequence I) (rules : List (Rule I (Op I O W))) :
    Machine I O W where
  config := config
  inputs := .single { storage := cells } blank
  rules := ⟨rules⟩
  counters := { rulesDeclared := rules.length }

variable {config : Config} {blank : I} {cells : Sequence I} {rules : List (Rule I (Op I O W))}

theorem built_loaded (config : Config) (blank : I) (cells : Sequence I)
    (rules : List (Rule I (Op I O W))) :
    (loaded config blank cells rules).built.inputs = .single { storage := cells } blank ∧
      (loaded config blank cells rules).built.config = config ∧
      (loaded config blank cells rules).built.counters.transitions = 0 := by
  rw [Machine.built_eq]
  exact ⟨rfl, rfl, rfl⟩

/-- Lays out a tape and rules on a fresh machine. -/
def layOut [BEq I] (blank : I) (cells : Sequence I) (rules : List (Rule I (Op I O Unit))) :
    Attempt (Session I O Unit) Unit := do
  let _ ← Session.serveInput (.setBlank blank)
  let _ ← Session.serveInput .add
  let _ ← Session.serveInput (.load none cells none)
  declareAll rules
  Session.build

theorem exists_layOut [BEq I] (config : Config) (blank : I) (cells : Sequence I)
    {rules : List (Rule I (Op I O Unit))} (ne : rules ≠ []) :
    ∃ s, layOut blank cells rules (Session.fresh config ()) = (.ok (), s) ∧
      s.machine = (loaded config blank cells rules).built := by
  let laid : Session I O Unit :=
    { machine := { config := config, inputs := .single { storage := cells } blank }, world := () }
  obtain ⟨s, hs, hm⟩ := Session.exists_declareAll rules laid
  have loaded_eq : s.machine = loaded config blank cells rules := by
    rw [hm, loaded, List.nil_append, Nat.zero_add]
  obtain ⟨log, hb⟩ := Session.build_of_ne_nil (s := s) (by rw [loaded_eq]; exact ne)
  refine ⟨_, (Attempt.bind_of_ok rfl).trans <| (Attempt.bind_of_ok rfl).trans <|
    (Attempt.bind_of_ok rfl).trans <| (Attempt.bind_of_ok hs).trans hb,
    congrArg Machine.built loaded_eq⟩

/-- A run from a declared state starts with a dispatch, on the tape as it was laid out. -/
theorem exists_beginRun {s : Session I O W}
    (hs : s.machine = (loaded config blank cells rules).built) {state : Int}
    (declared : RuleSet.hasState ⟨rules⟩ state = true) :
    ∃ s', Session.beginRun (.state state) s = (.ok .dispatch, s') ∧
      s'.machine =
        (loaded config blank cells rules).built.amid blank state { storage := cells } 0 := by
  have enforces : s.machine.Enforces ⟨rules⟩ := by
    rw [hs]
    exact Machine.enforces_built (loaded config blank cells rules)
  refine ⟨_, Session.beginRun_of_enforces enforces declared, ?_⟩
  obtain ⟨inputs_eq, -, fresh⟩ := built_loaded config blank cells rules
  rw [Session.machine_entering, hs, Machine.amid, ← inputs_eq, ← fresh]

/-- The report under a configuration: with the reset after a run, the tape is empty. -/
def Report.under (config : Config) (report : Report I) : Report I :=
  if config.resetAfterExecution then { report with tape := [], head := 0, rendered := "" }
    else report

/-- The report on a walk from the tape that was laid out. -/
def walked [BEq I] [Text.Legible I] (blank : I) (cells : Sequence I)
    (rules : List (Rule I (Op I O W))) (taken : Nat) (t : Tape I) : Report I where
  tape := t.storage.toList
  head := t.head
  rendered := t.render (some blank)
  statistics :=
    ⟨{ (loaded {} blank cells rules).built.counters with transitions := taken }, [t.statistics], []⟩

variable [BEq I] [BEq O] [Text.Legible I]

omit [BEq O] in
/-- The machine in the midst of a run, before its tapes are reset and after that. -/
theorem capture_amid (config : Config) (cells : Sequence I) (rules : List (Rule I (Op I O W)))
    {t : Tape I} (fresh : t.snapshot = .empty) (state : Int) (n : Nat) :
    Report.capture ((loaded config blank cells rules).built.amid blank state t n) =
      .ok (walked blank cells rules n t) ∧
      Report.capture ((loaded config blank cells rules).built.amid blank state t n).wound =
        .ok { walked blank cells rules n t with tape := [], head := 0, rendered := "" } := by
  rw [walked, Machine.built_eq, Machine.built_eq]
  refine ⟨rfl, ?_⟩
  have wound : t.reset.storage.toList = [] ∧ t.reset.render (some blank) = "" := by
    rw [Tape.reset, Tape.render, fresh]
    exact ⟨rfl, rfl⟩
  rw [← wound.1, ← wound.2]
  rfl

/-- A run halts where the walk of its tape leads, and the report on it differs by the reset at its
end at most. -/
theorem exists_execute {s : Session I O W}
    (hs : s.machine = (loaded config blank cells rules).built) {state final : Int}
    (declared : RuleSet.hasState ⟨rules⟩ state = true) {n taken fuel : Nat} {t : Tape I}
    (h : Tape.walk rules blank n state { storage := cells } = some (taken, final, t))
    (enough : n + 1 ≤ fuel) :
    ∃ s', Session.execute fuel (.state state) s = some (.ok (), s') ∧
      Report.capture s'.machine = .ok ((walked blank cells rules taken t).under config) := by
  obtain ⟨left, rfl, -⟩ := Tape.exists_step_of_walk h
  obtain ⟨f, rfl⟩ := Nat.exists_eq_add_of_le' (Nat.le_trans (Nat.le_add_left 2 left) enough)
  obtain ⟨s₀, begun, hs₀⟩ := exists_beginRun hs declared
  have enforces : (loaded config blank cells rules).built.Enforces ⟨rules⟩ :=
    Machine.enforces_built _
  obtain ⟨s₁, hrun, hs₁⟩ := Session.exists_advance (f := f) enforces declared hs₀ h
  have ended := Session.advance_of_ended hrun (Nat.le_of_succ_le enough)
  have executed : Session.execute (f + 2) (.state state) s = some (Session.endRun s₁) := by
    have he : Session.execute (f + 2) (.state state) s = _ := Session.executeWith_eq_advance begun _
    rw [he, ended]
    rfl
  have config_eq : s₁.machine.config = config := by
    rw [hs₁]
    exact (built_loaded config blank cells rules).2.1
  obtain ⟨captured, captured_wound⟩ :=
    capture_amid config cells rules (Tape.snapshot_of_walk h) final (0 + taken)
  rw [Nat.zero_add] at hs₁ captured captured_wound
  rw [Session.endRun_eq, config_eq] at executed
  unfold Report.under
  cases hresets : config.resetAfterExecution with
  | false =>
    rw [hresets] at executed
    exact ⟨s₁, executed, by rw [hs₁]; exact captured⟩
  | true =>
    rw [hresets] at executed
    exact ⟨(Session.reset s₁).2, executed, by rw [Session.machine_reset, hs₁]; exact captured_wound⟩

/-- Lays out a tape and rules, runs them from a state and reports. -/
def reporting (fuel : Nat) (state : Int) (blank : I) (cells : Sequence I)
    (rules : List (Rule I (Op I O Unit))) :
    Run (Session I O Unit) (Report I) := do
  Run.ofAttempt (layOut blank cells rules)
  Session.execute fuel (.state state)
  Run.ofAttempt (.ask (Report.capture ·.machine))

/-- Under every configuration, a program of this kind reports where the walk of its tape leads. -/
theorem exists_reporting (config : Config) {rules : List (Rule I (Op I O Unit))} {state final : Int}
    (declared : RuleSet.hasState ⟨rules⟩ state = true) {n taken fuel : Nat} {t : Tape I}
    (h : Tape.walk rules blank n state { storage := cells } = some (taken, final, t))
    (enough : n + 1 ≤ fuel) :
    ∃ s, reporting fuel state blank cells rules (Session.fresh config ()) =
      some (.ok ((walked blank cells rules taken t).under config), s) := by
  have ne : rules ≠ [] := by
    rintro rfl
    cases declared
  obtain ⟨s₀, hlaid, hs₀⟩ := exists_layOut config blank cells ne
  obtain ⟨s, hexecute, captured⟩ := exists_execute hs₀ declared h enough
  exact ⟨s, (Run.bind_of_ok (congrArg some hlaid)).trans <| (Run.bind_of_ok hexecute).trans <|
    congrArg some (Attempt.ask_of_ok captured)⟩

end Programs

end TapeMachine
