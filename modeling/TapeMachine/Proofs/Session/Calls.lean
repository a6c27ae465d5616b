import TapeMachine.Programs.Report
import TapeMachine.Proofs.Rules.Interpreter
import TapeMachine.Proofs.Session.Record

/-!
# What a call does to the machine

Each statement says once all that a call can do to the machine: how it is refused, and otherwise
what the machine is afterwards. Log and events are left out.

Results:
1. `effect_of_serveAlone`: what a call that runs no code does, by its kind (`Machine.Effect`).
2. `transitionTo_cases`, `beginRun_cases`: a state is entered only if an action is bound to it.
3. `selectBranch_cases`: a branch comes from the table of the current state.
-/

namespace TapeMachine

variable {I O W α β : Type}

/-- An attempt whose answer is put in other words. -/
theorem Run.of_answer {σ : Type} {x : Attempt σ α} {f : α → β} {s s' : σ}
    {result : Except MachineError β}
    (h : (Run.ofAttempt x >>= fun a => pure (f a)) s = some (result, s')) :
    ∃ r, x s = (r, s') ∧ result = r.map f := by
  cases hx : x s with
  | mk r t =>
    have hr : Run.ofAttempt x s = some (r, t) := by rw [Run.ofAttempt_apply, hx]
    cases r with
    | error e =>
      rw [Run.bind_of_error hr] at h
      cases h
      exact ⟨_, rfl, rfl⟩
    | ok a =>
      rw [Run.bind_of_ok hr] at h
      cases h
      exact ⟨_, rfl, rfl⟩

theorem Session.silently_eq_ok {x : Run (Session I O W) Unit} {s s' : Session I O W}
    {answer : Answer I O (Action I O W)} (h : silently x s = some (.ok answer, s')) :
    answer = .done := by
  obtain ⟨_, t, -, hp⟩ := Run.exists_of_bind_eq_ok h
  cases hp
  rfl

/-- The state that a transition is for, if it is for one. -/
def Target.stateIn {A : Type} (r : Registry A) : Target → Option Int
  | .goTo target => target
  | .current => some r.current
  | .default => some r.default
  | .stop => none

theorem Frame.lookup_eq_ok_iff {m : Machine I O W} {state : Int} {action : Action I O W} :
    m.lookup state = .ok action ↔ m.registry.get? state = some action := by
  unfold Frame.lookup
  cases m.registry.get? state <;> simp

theorem Registry.mem_of_get? {A : Type} {r : Registry A} {state : Int} {action : A}
    (h : r.get? state = some action) : (state, action) ∈ r.bindings := by
  obtain ⟨binding, hf, rfl⟩ := Option.map_eq_some_iff.1 h
  have hs : binding.1 = state := by simpa using List.find?_some hf
  rw [← hs]
  exact List.mem_of_find?_eq_some hf

/-- The machine with an action bound. -/
def Machine.bound (m : Machine I O W) (state : Int) (action : Action I O W) : Machine I O W :=
  { m with
    registry := m.registry.add state action
    counters.states := m.counters.states + 1 }

/-- The machine after a transition, its current state being that of the registry. -/
def Machine.moved (m : Machine I O W) (registry : Registry (Action I O W)) : Machine I O W :=
  { m with
    registry := registry
    counters.transitions := m.counters.transitions + 1 }

/-- The machine with one more rule. -/
def Machine.declared (m : Machine I O W) (rule : Rule I (Op I O W)) : Machine I O W :=
  { m with
    rules := m.rules.add rule
    counters.rulesDeclared := m.counters.rulesDeclared + 1 }

/-- The machine with all its tapes back at their snapshots. -/
def Machine.wound (m : Machine I O W) : Machine I O W :=
  { m with inputs := m.inputs.reset, outputs := m.outputs.reset }

namespace Session

variable {s s' : Session I O W}

/-! ## States -/

theorem enterState_cases {state : Int} {result : Except MachineError (Action I O W)}
    (h : enterState state s = (result, s')) :
    (∃ e, s.machine.lookup state = .error e ∧ result = .error e ∧ s' = s) ∨
    (∃ action, s.machine.registry.get? state = some action ∧ result = .ok action ∧
      s' = { s with machine.registry := s.machine.registry.setCurrent state }) := by
  cases hl : s.machine.lookup state with
  | error e =>
    have hask : Attempt.ask (·.machine.lookup state) s = (.error e, s) := Attempt.ask_of_error hl
    rw [show enterState state s = (.error e, s) from Attempt.bind_of_error hask] at h
    cases h
    exact .inl ⟨e, rfl, rfl, rfl⟩
  | ok action =>
    have hask : Attempt.ask (·.machine.lookup state) s = (.ok action, s) := Attempt.ask_of_ok hl
    rw [enterState, Attempt.bind_of_ok hask] at h
    cases h
    exact .inr ⟨action, Frame.lookup_eq_ok_iff.1 hl, rfl, rfl⟩

theorem setDefault_cases {state : Int} {result : Except MachineError Unit}
    (h : setDefault state s = (result, s')) :
    (∃ e, s.machine.lookup state = .error e ∧ result = .error e ∧ s' = s) ∨
    (∃ action, s.machine.registry.get? state = some action ∧ result = .ok () ∧
      s'.machine = { s.machine with registry := s.machine.registry.setDefault state }) := by
  cases hl : s.machine.lookup state with
  | error e =>
    have hask : Attempt.ask (·.machine.lookup state) s = (.error e, s) := Attempt.ask_of_error hl
    rw [show setDefault state s = (.error e, s) from Attempt.bind_of_error hask] at h
    cases h
    exact .inl ⟨e, rfl, rfl, rfl⟩
  | ok action =>
    have hask : Attempt.ask (·.machine.lookup state) s = (.ok action, s) := Attempt.ask_of_ok hl
    rw [setDefault, Attempt.bind_of_ok hask] at h
    cases h
    refine .inr ⟨action, Frame.lookup_eq_ok_iff.1 hl, rfl, ?_⟩
    simp only [machine_note]

/-- Entering a state for good: it is counted and recorded, and the transition leads to its
action. -/
theorem enterAndRecord_cases {source state : Int}
    {result : Except MachineError (Transition (Action I O W))}
    (h : (do
      let action ← enterState state
      .change (·.recordTransition source (some state))
      return .enter action : Attempt (Session I O W) _) s = (result, s')) :
    (∃ e, s.machine.lookup state = .error e ∧ result = .error e ∧ s' = s) ∨
    (∃ action, s.machine.registry.get? state = some action ∧ result = .ok (.enter action) ∧
      s' = { s with machine.registry := s.machine.registry.setCurrent state }.recordTransition
        source (some state)) := by
  cases he : enterState state s with
  | mk found entered =>
    rcases enterState_cases he with ⟨e, hl, rfl, rfl⟩ | ⟨action, hg, rfl, rfl⟩
    · rw [Attempt.bind_of_error he] at h
      cases h
      exact .inl ⟨e, hl, rfl, rfl⟩
    · rw [Attempt.bind_of_ok he] at h
      cases h
      exact .inr ⟨action, hg, rfl, rfl⟩

/-- A transition is refused, halts, or enters the action of its state, which is then the current
one. -/
theorem transitionTo_cases {target : Target}
    {result : Except MachineError (Transition (Action I O W))}
    (h : transitionTo target s = (result, s')) :
    (∃ e state, target.stateIn s.machine.registry = some state ∧ s.machine.lookup state = .error e ∧
      result = .error e ∧ s' = s) ∨
    (target.stateIn s.machine.registry = none ∧ result = .ok .halt ∧
      s' = s.recordTransition s.machine.registry.current none) ∨
    (∃ state action, target.stateIn s.machine.registry = some state ∧
      s.machine.registry.get? state = some action ∧ result = .ok (.enter action) ∧
      s' = { s with machine.registry := s.machine.registry.setCurrent state }.recordTransition
        s.machine.registry.current (some state)) := by
  cases target with
  | goTo target =>
    cases target with
    | none =>
      cases h
      exact .inr (.inl ⟨rfl, rfl, rfl⟩)
    | some state =>
      rcases enterAndRecord_cases h with ⟨e, hl, hr, hs⟩ | ⟨action, hg, hr, hs⟩
      · exact .inl ⟨e, state, rfl, hl, hr, hs⟩
      · exact .inr (.inr ⟨state, action, rfl, hg, hr, hs⟩)
  | current =>
    cases hl : s.machine.lookup s.machine.registry.current with
    | error e =>
      have hask : Attempt.ask (·.machine.lookup s.machine.registry.current) s = (.error e, s) :=
        Attempt.ask_of_error hl
      rw [show transitionTo .current s = (.error e, s) from
        (Attempt.bind_of_ok rfl).trans (Attempt.bind_of_error hask)] at h
      cases h
      exact .inl ⟨e, _, rfl, hl, rfl, rfl⟩
    | ok action =>
      have hask : Attempt.ask (·.machine.lookup s.machine.registry.current) s = (.ok action, s) :=
        Attempt.ask_of_ok hl
      rw [show transitionTo .current s = _ from
        (Attempt.bind_of_ok rfl).trans (Attempt.bind_of_ok hask)] at h
      cases h
      exact .inr (.inr ⟨_, action, rfl, Frame.lookup_eq_ok_iff.1 hl, rfl, rfl⟩)
  | default =>
    rcases enterAndRecord_cases h with ⟨e, hl, hr, hs⟩ | ⟨action, hg, hr, hs⟩
    · exact .inl ⟨e, _, rfl, hl, hr, hs⟩
    · exact .inr (.inr ⟨_, action, rfl, hg, hr, hs⟩)
  | stop =>
    cases h
    exact .inr (.inl ⟨rfl, rfl, rfl⟩)

@[simp] theorem machine_entering (state : Int) (s : Session I O W) :
    (entering state s).machine =
      { s.machine with registry := s.machine.registry.setCurrent state } := by
  rw [entering, machine_note]

/-- A run begins in the state it starts from, if an action is bound to it. -/
theorem beginRun_cases {start : Start} {result : Except MachineError (Action I O W)}
    (h : beginRun start s = (result, s')) :
    (∃ e, s.machine.lookup (startState start s) = .error e ∧ result = .error e ∧ s' = s) ∨
    (∃ action, s.machine.registry.get? (startState start s) = some action ∧ result = .ok action ∧
      s' = entering (startState start s) s) := by
  cases he : enterState (startState start s) s with
  | mk found entered =>
    rcases enterState_cases he with ⟨e, hl, rfl, hs⟩ | ⟨action, hg, rfl, rfl⟩
    · rw [show beginRun start s = (.error e, entered) from
        (Attempt.bind_of_ok rfl).trans (Attempt.bind_of_error he)] at h
      cases h
      exact .inl ⟨e, hl, rfl, hs⟩
    · rw [show beginRun start s = _ from
        (Attempt.bind_of_ok rfl).trans (Attempt.bind_of_ok he)] at h
      cases h
      exact .inr ⟨action, hg, rfl, rfl⟩

theorem endRun_eq (s : Session I O W) :
    endRun s = if s.machine.config.resetAfterExecution then reset s else (.ok (), s) := by
  have he : (Attempt.ask (Except.ok ·.machine.config) : Attempt (Session I O W) Config) s =
      (.ok s.machine.config, s) := rfl
  rw [endRun, Attempt.bind_of_ok he]
  split <;> rfl

/-- When a run ends, the tapes go back to their snapshots or nothing changes. -/
theorem endRun_cases (s : Session I O W) : endRun s = (.ok (), s) ∨ endRun s = reset s := by
  rw [endRun_eq]
  split
  · exact .inr rfl
  · exact .inl rfl

/-- A run that has halted cannot fail any more. -/
theorem fst_endRun (s : Session I O W) : (endRun s).1 = .ok () := by
  rcases endRun_cases s with hs | hs <;> rw [hs]
  rfl

@[simp] theorem machine_reset (s : Session I O W) :
    (reset s).2.machine = s.machine.wound := by
  simp only [reset, Attempt.change, machine_note, Machine.wound]

@[simp] theorem machine_bindAction (state : Int) (action : Action I O W) (s : Session I O W) :
    (bindAction state action s).2.machine = s.machine.bound state action := by
  simp only [bindAction, Attempt.change, machine_note, Machine.bound]

@[simp] theorem machine_eraseStates (s : Session I O W) :
    (eraseStates s).2.machine = { s.machine with registry := s.machine.registry.erase } := by
  simp only [eraseStates, Attempt.change, machine_note]

/-! ## Rules -/

@[simp] theorem machine_declare (rule : Rule I (Op I O W)) (s : Session I O W) :
    (declare rule s).2.machine = s.machine.declared rule := by
  simp only [declare, Attempt.change, machine_note, Machine.declared]

theorem declare_eq (rule : Rule I (Op I O W)) (s : Session I O W) :
    ∃ log, declare rule s =
      (.ok (), { s with machine := s.machine.declared rule, log := log }) := by
  obtain ⟨log, hn⟩ := s.exists_note (.addingRule rule.state rule.read rule.next rule.fallbackNext)
  exact ⟨log, by simp only [declare, Attempt.change, hn, Machine.declared]⟩

/-- Declaring rules adds them, in their order, and touches nothing else of the machine but their
counter. -/
theorem declareAll_eq (rules : List (Rule I (Op I O W))) (s : Session I O W) :
    ∃ log, Programs.declareAll rules s =
      (.ok (),
        { s with
          machine :=
            { s.machine with
              rules := ⟨s.machine.rules.rules ++ rules⟩
              counters.rulesDeclared := s.machine.counters.rulesDeclared + rules.length }
          log := log }) := by
  induction rules generalizing s with
  | nil => exact ⟨s.log, by rw [List.append_nil]; rfl⟩
  | cons rule rest ih =>
    obtain ⟨l, one⟩ := declare_eq rule s
    obtain ⟨l', hs⟩ := ih { s with machine := s.machine.declared rule, log := l }
    refine ⟨l', (Attempt.bind_of_ok one).trans (hs.trans ?_)⟩
    simp only [Machine.declared, RuleSet.add, List.append_assoc, List.singleton_append,
      List.length_cons, Nat.add_assoc, Nat.add_comm 1]

theorem exists_declareAll (rules : List (Rule I (Op I O W))) (s : Session I O W) :
    ∃ s', Programs.declareAll rules s = (.ok (), s') ∧
      s'.machine =
        { s.machine with
          rules := ⟨s.machine.rules.rules ++ rules⟩
          counters.rulesDeclared := s.machine.counters.rulesDeclared + rules.length } := by
  obtain ⟨log, hs⟩ := declareAll_eq rules s
  exact ⟨_, hs, rfl⟩

/-- Building is refused only if there is no rule; then the tables are gone all the same. -/
theorem build_cases {result : Except MachineError Unit} (h : build s = (result, s')) :
    (s.machine.rules.rules = [] ∧ result = .error .emptyRuleSet ∧
      s'.machine = { s.machine with tables := .empty }) ∨
    (s.machine.rules.rules ≠ [] ∧ result = .ok () ∧ s'.machine = s.machine.built) := by
  by_cases hr : s.machine.rules.rules = []
  · obtain ⟨log, hb⟩ := build_of_nil hr
    rw [hb] at h
    cases h
    exact .inl ⟨hr, rfl, rfl⟩
  · obtain ⟨log, hb⟩ := build_of_ne_nil hr
    rw [hb] at h
    cases h
    exact .inr ⟨hr, rfl, rfl⟩

/-- A state is built if it has rules; otherwise the session stays as it was. -/
theorem buildState_cases {state : Int} {result : Except MachineError Unit}
    (h : buildState state s = (result, s')) :
    (s.machine.rules.hasState state = false ∧
      (∃ e, (e = .emptyRuleSet ∨ e = .noRulesForState state) ∧
      result = .error e) ∧ s' = s) ∨
    (s.machine.rules.hasState state = true ∧ result = .ok () ∧
      s'.machine = (s.machine.dropped state).installed state) := by
  have hb : buildState state s = (if s.machine.rules.isEmpty then .fail .emptyRuleSet
      else install state : Attempt (Session I O W) Unit) s := Attempt.bind_of_ok rfl
  rw [hb] at h
  cases hs : s.machine.rules.hasState state with
  | false =>
    split at h
    · cases h
      exact .inl ⟨rfl, ⟨_, .inl rfl, rfl⟩, rfl⟩
    · rw [install_of_not_hasState hs] at h
      cases h
      exact .inl ⟨rfl, ⟨_, .inr rfl, rfl⟩, rfl⟩
  | true =>
    have hne : s.machine.rules.isEmpty = false := by
      obtain ⟨rule, hr, -⟩ := RuleSet.hasState_iff_exists_mem.1 hs
      simpa [RuleSet.isEmpty] using List.ne_nil_of_mem hr
    obtain ⟨log, hi⟩ := install_of_hasState hs
    rw [hne, if_neg Bool.false_ne_true, hi] at h
    cases h
    exact .inr ⟨rfl, rfl, rfl⟩

/-! ## Tapes -/

theorem onInputs_cases {work : Bank I → Except MachineError (Bank.Traced I α × Bank I)}
    {result : Except MachineError α} (h : onInputs work s = (result, s')) :
    (∃ e, work s.machine.inputs = .error e ∧ result = .error e ∧ s' = s) ∨
    (∃ a event bank, work s.machine.inputs = .ok ((a, event), bank) ∧ result = .ok a ∧
      s'.machine = { s.machine with inputs := bank } ∧
      s' = match event with
        | some event => { s with machine.inputs := bank }.recordInput event
        | none => { s with machine.inputs := bank }) := by
  unfold onInputs at h
  cases hw : work s.machine.inputs with
  | error e =>
    rw [hw] at h
    cases h
    exact .inl ⟨e, rfl, rfl, rfl⟩
  | ok p =>
    obtain ⟨⟨a, event⟩, bank⟩ := p
    rw [hw] at h
    cases h
    refine .inr ⟨a, event, bank, rfl, rfl, ?_, rfl⟩
    cases event with
    | none => rfl
    | some event => exact machine_recordInput _ _

theorem onOutputs_cases {work : Bank O → Except MachineError (Bank.Traced O α × Bank O)}
    {result : Except MachineError α} (h : onOutputs work s = (result, s')) :
    (∃ e, work s.machine.outputs = .error e ∧ result = .error e ∧ s' = s) ∨
    (∃ a event bank, work s.machine.outputs = .ok ((a, event), bank) ∧ result = .ok a ∧
      s'.machine = { s.machine with outputs := bank } ∧
      s' = match event with
        | some event => { s with machine.outputs := bank }.recordOutput event
        | none => { s with machine.outputs := bank }) := by
  unfold onOutputs at h
  cases hw : work s.machine.outputs with
  | error e =>
    rw [hw] at h
    cases h
    exact .inl ⟨e, rfl, rfl, rfl⟩
  | ok p =>
    obtain ⟨⟨a, event⟩, bank⟩ := p
    rw [hw] at h
    cases h
    refine .inr ⟨a, event, bank, rfl, rfl, ?_, rfl⟩
    cases event with
    | none => rfl
    | some event => exact machine_recordOutput _ _

/-- A branch is chosen by the table of the current state, once the active tape has been read. -/
theorem selectBranch_cases [BEq I] {result : Except MachineError (Action I O W)}
    (h : selectBranch s = (result, s')) :
    ∃ read, readInput none s = (read, s') ∧
      ((∃ e, read = .error e ∧ result = .error e) ∨
      ∃ symbol, read = .ok symbol ∧
        result = match (s'.machine.compiled s'.machine.registry.current).bind (·.select symbol) with
          | some branch => .ok branch
          | none => .error (.noCompiledExpression s'.machine.registry.current)) := by
  cases hr : readInput none s with
  | mk read t =>
    cases read with
    | error e =>
      rw [show selectBranch s = (.error e, t) from Attempt.bind_of_error hr] at h
      cases h
      exact ⟨_, rfl, .inl ⟨e, rfl, rfl⟩⟩
    | ok symbol =>
      rw [show selectBranch s = _ from Attempt.bind_of_ok hr] at h
      cases h
      exact ⟨_, rfl, .inr ⟨symbol, rfl, rfl⟩⟩

/-- A branch that is chosen is that of an entry. -/
theorem exists_entry_of_selectBranch [BEq I] {branch : Action I O W}
    (h : selectBranch s = (.ok branch, s')) :
    ∃ table ∈ s'.machine.tables.items, ∃ entry ∈ table.entries,
      branch = entry.onMatch ∨ branch = entry.onMiss := by
  obtain ⟨read, -, ⟨e, -, he⟩ | ⟨symbol, -, he⟩⟩ := selectBranch_cases h
  · cases he
  · split at he
    · next chosen hb =>
      cases he
      obtain ⟨table, hc, hselect⟩ := Option.bind_eq_some_iff.1 hb
      exact ⟨table, List.mem_of_find?_eq_some hc, Table.exists_of_select hselect⟩
    · cases he

/-- To choose a branch, nothing but a tape is touched. -/
theorem exists_inputs_of_selectBranch [BEq I] {result : Except MachineError (Action I O W)}
    (h : selectBranch s = (result, s')) :
    ∃ bank, s'.machine = { s.machine with inputs := bank } := by
  obtain ⟨read, hr, -⟩ := selectBranch_cases h
  rcases onInputs_cases hr with ⟨e, -, -, rfl⟩ | ⟨symbol, event, bank, -, -, hm, -⟩
  · exact ⟨_, rfl⟩
  · exact ⟨bank, hm⟩

/-! ## What a run itself leaves alone -/

theorem unaltered_of_beginRun {start : Start} {result : Except MachineError (Action I O W)}
    (h : beginRun start s = (result, s')) : s.machine.Unaltered s'.machine := by
  rcases beginRun_cases h with ⟨e, -, -, rfl⟩ | ⟨action, -, -, rfl⟩
  · exact .refl _
  · rw [machine_entering]
    exact ⟨fun _ => rfl, rfl, rfl⟩

theorem unaltered_of_endRun {result : Except MachineError Unit} (h : endRun s = (result, s')) :
    s.machine.Unaltered s'.machine := by
  rcases endRun_cases s with hs | hs
  · cases hs.symm.trans h
    exact .refl _
  · have hm : s'.machine = s.machine.wound := by rw [← machine_reset, ← hs, h]
    rw [hm]
    exact ⟨fun _ => rfl, rfl, rfl⟩

theorem unaltered_of_selectBranch [BEq I] {result : Except MachineError (Action I O W)}
    (h : selectBranch s = (result, s')) : s.machine.Unaltered s'.machine := by
  obtain ⟨bank, hm⟩ := exists_inputs_of_selectBranch h
  rw [hm]
  exact ⟨fun _ => rfl, rfl, rfl⟩

end Session

/-- What tells of the record and the code in the machine is kept if notes keep it and the calls that
run no code do: to begin a run, to end it and to choose a branch alters no code. -/
theorem Recorded.Kept.of_unaltered [BEq I] [BEq O] {P : Recorded I O W → Prop}
    (become : ∀ {r : Recorded I O W} {s}, r.session.machine.Unaltered s.machine → P r →
      P (r.become s))
    (made : ∀ {r call}, P r → P (r.note (.made call)))
    (answered : ∀ {r call result}, call.runsCode = true → P r → P (r.note (.answered call result)))
    (invoked : ∀ {r action}, P r → P (r.note (.invoked action)))
    (served : ∀ {r call result s'}, call.runsCode = false → P r →
      Session.serveAlone call r.session = some (result, s') →
      P (((r.note (.made call)).become s').note (.answered call (result.map fun _ => ())))) :
    Kept P where
  made := made
  answered := answered
  invoked := invoked
  served := served
  begun {r start} h :=
    become (r := r.note (.made (.execute start))) (Session.unaltered_of_beginRun rfl) (made h)
  finished h := become (Session.unaltered_of_endRun rfl) h
  selected h := become (Session.unaltered_of_selectBranch rfl) h
  touched h := become (.refl _) h

/-! ## All calls that run no code -/

/-- What a call that runs no code is answered with, and the machine it leaves. -/
inductive Machine.Effect [BEq I] [BEq O] (m : Machine I O W) :
    Machine.Call I O W → Except MachineError (Answer I O (Action I O W)) → Machine I O W → Prop
  | configured (update : Config.Update) :
      Effect m (.configure update) (.ok .done) { m with config := m.config.update update }
  | observed (on : Bool) : Effect m (.observe on) (.ok .done) m
  | inputRefused {request : Bank.Request I} {e : MachineError}
      (h : m.inputs.serve request = .error e) : Effect m (.input request) (.error e) m
  | inputServed {request : Bank.Request I} {reply : Bank.Reply I} {event : Option (TapeEvent I)}
      {bank : Bank I} (h : m.inputs.serve request = .ok ((reply, event), bank)) :
      Effect m (.input request) (.ok (Session.inputAnswer reply)) { m with inputs := bank }
  | outputRefused {request : Bank.Request O} {e : MachineError}
      (h : m.outputs.serve request = .error e) : Effect m (.output request) (.error e) m
  | outputServed {request : Bank.Request O} {reply : Bank.Reply O} {event : Option (TapeEvent O)}
      {bank : Bank O} (h : m.outputs.serve request = .ok ((reply, event), bank)) :
      Effect m (.output request) (.ok (Session.outputAnswer reply)) { m with outputs := bank }
  | reset :
      Effect m .reset (.ok .done) m.wound
  | bound (state : Int) (action : Action I O W) :
      Effect m (.bind state action) (.ok .done) (m.bound state action)
  | shareAbsent {state owner : Int} (h : m.registry.get? owner = none) :
      Effect m (.share state owner) (.ok .absent) m
  | shared {state owner : Int} {action : Action I O W} (h : m.registry.get? owner = some action) :
      Effect m (.share state owner) (.ok .done) (m.bound state action)
  | findAbsent {state : Int} (h : m.registry.get? state = none) :
      Effect m (.find state) (.ok .absent) m
  | found {state : Int} {action : Action I O W} (h : m.registry.get? state = some action) :
      Effect m (.find state) (.ok (.transition (.enter action))) m
  | defaultRefused {state : Int} {e : MachineError} (h : m.lookup state = .error e) :
      Effect m (.setDefault state) (.error e) m
  | defaulted {state : Int} {action : Action I O W} (h : m.registry.get? state = some action) :
      Effect m (.setDefault state) (.ok .done) { m with registry := m.registry.setDefault state }
  | erased : Effect m .erase (.ok .done) { m with registry := m.registry.erase }
  | transitionRefused {target : Target} {state : Int} {e : MachineError}
      (hs : target.stateIn m.registry = some state) (h : m.lookup state = .error e) :
      Effect m (.transition target) (.error e) m
  | halted {target : Target} (hs : target.stateIn m.registry = none) :
      Effect m (.transition target) (.ok (.transition .halt)) (m.moved m.registry)
  | entered {target : Target} {state : Int} {action : Action I O W}
      (hs : target.stateIn m.registry = some state) (h : m.registry.get? state = some action) :
      Effect m (.transition target) (.ok (.transition (.enter action)))
        (m.moved (m.registry.setCurrent state))
  | declared (rule : Rule I (Op I O W)) :
      Effect m (.declare rule) (.ok .done) (m.declared rule)
  | buildRefused (h : m.rules.rules = []) :
      Effect m .build (.error .emptyRuleSet) { m with tables := .empty }
  | built (h : m.rules.rules ≠ []) : Effect m .build (.ok .done) m.built
  | stateRefused {state : Int} {e : MachineError} (h : m.rules.hasState state = false)
      (he : e = .emptyRuleSet ∨ e = .noRulesForState state) :
          Effect m (.buildState state) (.error e) m
  | stateBuilt {state : Int} (h : m.rules.hasState state = true) :
      Effect m (.buildState state) (.ok .done) ((m.dropped state).installed state)

/-- A call that runs no code has its effect and no other. -/
theorem Session.effect_of_serveAlone [BEq I] [BEq O] {call : Machine.Call I O W}
    (alone : call.runsCode = false) {s s' : Session I O W}
    {result : Except MachineError (Answer I O (Action I O W))}
    (h : serveAlone call s = some (result, s')) : s.machine.Effect call result s'.machine := by
  cases call with
  | apply op => cases alone
  | invoke state => cases alone
  | execute start => cases alone
  | configure update =>
    cases h
    exact .configured update
  | observe on =>
    cases h
    exact .observed on
  | input request =>
    obtain ⟨r, hx, rfl⟩ := Run.of_answer (x := serveInput request) (f := inputAnswer) h
    rcases onInputs_cases hx with ⟨e, he, rfl, rfl⟩ | ⟨a, event, bank, hb, rfl, hm, -⟩
    · exact .inputRefused he
    · rw [hm]
      exact .inputServed hb
  | output request =>
    obtain ⟨r, hx, rfl⟩ := Run.of_answer (x := serveOutput request) (f := outputAnswer) h
    rcases onOutputs_cases hx with ⟨e, he, rfl, rfl⟩ | ⟨a, event, bank, hb, rfl, hm, -⟩
    · exact .outputRefused he
    · rw [hm]
      exact .outputServed hb
  | reset =>
    cases h
    show Machine.Effect _ _ _ (Session.reset s).2.machine
    rw [machine_reset]
    exact .reset
  | bind state action =>
    cases h
    show Machine.Effect _ _ _ (bindAction state action s).2.machine
    rw [machine_bindAction]
    exact .bound state action
  | share state owner =>
    have ho : Run.ofAttempt (actionOf owner) s =
        some (.ok (s.machine.registry.get? owner), s) := rfl
    rw [show serveAlone (.share state owner) s = _ from Run.bind_of_ok ho] at h
    cases hg : s.machine.registry.get? owner with
    | none =>
      rw [hg] at h
      cases h
      exact .shareAbsent hg
    | some action =>
      rw [hg] at h
      cases h
      show Machine.Effect _ _ _ (bindAction state action s).2.machine
      rw [machine_bindAction]
      exact .shared hg
  | find state =>
    have ho : Run.ofAttempt (actionOf state) s =
        some (.ok (s.machine.registry.get? state), s) := rfl
    rw [show serveAlone (.find state) s = _ from Run.bind_of_ok ho] at h
    cases hg : s.machine.registry.get? state with
    | none =>
      rw [hg] at h
      cases h
      exact .findAbsent hg
    | some action =>
      rw [hg] at h
      cases h
      exact .found hg
  | setDefault state =>
    obtain ⟨r, hx, rfl⟩ := Run.of_answer (x := setDefault state) (f := fun _ => Answer.done) h
    rcases setDefault_cases hx with ⟨e, hl, rfl, rfl⟩ | ⟨action, hg, rfl, hm⟩
    · exact .defaultRefused hl
    · rw [hm]
      exact .defaulted hg
  | erase =>
    cases h
    show Machine.Effect _ _ _ (eraseStates s).2.machine
    rw [machine_eraseStates]
    exact .erased
  | transition target =>
    obtain ⟨r, hx, rfl⟩ := Run.of_answer (x := transitionTo target) (f := Answer.transition) h
    rcases transitionTo_cases hx with
      ⟨e, state, ht, hl, rfl, rfl⟩ | ⟨ht, rfl, rfl⟩ | ⟨state, action, ht, hg, rfl, rfl⟩
    · exact .transitionRefused ht hl
    · rw [machine_recordTransition]
      exact .halted ht
    · rw [machine_recordTransition]
      exact .entered ht hg
  | declare rule =>
    cases h
    show Machine.Effect _ _ _ (Session.declare rule s).2.machine
    rw [machine_declare]
    exact .declared rule
  | build =>
    obtain ⟨r, hx, rfl⟩ := Run.of_answer (x := Session.build) (f := fun _ => Answer.done) h
    rcases build_cases hx with ⟨hn, rfl, hm⟩ | ⟨hn, rfl, hm⟩
    · rw [hm]
      exact .buildRefused hn
    · rw [hm]
      exact .built hn
  | buildState state =>
    obtain ⟨r, hx, rfl⟩ := Run.of_answer (x := buildState state) (f := fun _ => Answer.done) h
    rcases buildState_cases hx with ⟨hn, ⟨e, he, rfl⟩, rfl⟩ | ⟨hd, rfl, hm⟩
    · exact .stateRefused hn he
    · rw [hm]
      exact .stateBuilt hd

theorem Session.effect_of_serve [BEq I] [BEq O] {call : Machine.Call I O W}
    (alone : call.runsCode = false) {fuel : Nat} {s s' : Session I O W}
    {result : Except MachineError (Answer I O (Action I O W))}
    (h : serve fuel call s = some (result, s')) : s.machine.Effect call result s'.machine := by
  rw [serve, serveWith_eq_serveAlone alone] at h
  exact effect_of_serveAlone alone h

end TapeMachine
