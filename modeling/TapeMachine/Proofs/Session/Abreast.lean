import Mathlib.Data.List.Forall2
import TapeMachine.Proofs.Session.Advance
import TapeMachine.Proofs.Session.Calls
import TapeMachine.Proofs.Session.View

/-!
# Two sessions abreast

Two machines that differ in what their code does not look at go on abreast: whatever is done to both
is answered alike, runs to its end in one exactly if it does in the other, and tells observers the
same. What the two differ in is a relation between machines, and what has to be shown of the
relation is said once, by `Machine.Compatible`: how the two answer questions, and that it survives
each of the changes that calls make. The evaluation is then followed layer by layer. Only where it
dispatches do the tables matter. If both choose the same branch the relation is a
`Machine.Congruence`; where branches differ, that they do the same has to be shown
(`Machine.DispatchesAlike`).

The logs may differ: nothing reads them.

Results:
1. `Alike.bind`, `Alike.bindAttempt`: what goes on alike step by step goes on alike.
2. `Compatible.serve`: calls made in sessions abreast are answered alike and leave them abreast.
3. `Compatible.underway`: runs started in sessions abreast stand alike after every number of
   actions.
4. `Congruence.transcript`: calls one after the other are answered alike.
-/

namespace TapeMachine

variable {I O W σ α β : Type}

/-! ## Outcomes -/

/-- The outcomes are the same answer or the same error, or both are missing; the answer is good, and
the states afterwards are related. -/
inductive Alike (R : σ → σ → Prop) (good : α → Prop) :
    Option (Except MachineError α × σ) → Option (Except MachineError α × σ) → Prop
  | unfinished : Alike R good none none
  | answered {a : α} {s t : σ} (ha : good a) (h : R s t) :
      Alike R good (some (.ok a, s)) (some (.ok a, t))
  | refused {e : MachineError} {s t : σ} (h : R s t) :
      Alike R good (some (.error e, s)) (some (.error e, t))

namespace Alike

variable {R : σ → σ → Prop} {good : α → Prop} {good' : β → Prop} {s t : σ}

theorem bind {x : Run σ α} {f : α → Run σ β} (first : Alike R good (x s) (x t))
    (next : ∀ a s' t', good a → R s' t' → Alike R good' (f a s') (f a t')) :
    Alike R good' ((x >>= f) s) ((x >>= f) t) := by
  generalize hs : x s = p at first
  generalize ht : x t = q at first
  cases first with
  | unfinished =>
    rw [Run.bind_of_none hs, Run.bind_of_none ht]
    exact .unfinished
  | answered ha h =>
    rw [Run.bind_of_ok hs, Run.bind_of_ok ht]
    exact next _ _ _ ha h
  | refused h =>
    rw [Run.bind_of_error hs, Run.bind_of_error ht]
    exact .refused h

/-- The same for attempts. -/
theorem bindAttempt {x : Attempt σ α} {f : α → Attempt σ β}
    (first : Alike R good (some (x s)) (some (x t)))
    (next : ∀ a s' t', good a → R s' t' → Alike R good' (some (f a s')) (some (f a t'))) :
    Alike R good' (some ((x >>= f) s)) (some ((x >>= f) t)) := by
  generalize hs : x s = p at first
  generalize ht : x t = q at first
  cases first with
  | answered ha h =>
    rw [Attempt.bind_of_ok hs, Attempt.bind_of_ok ht]
    exact next _ _ _ ha h
  | refused h =>
    rw [Attempt.bind_of_error hs, Attempt.bind_of_error ht]
    exact .refused h

/-- A question that has the same answer in both states. -/
theorem ask {question : σ → Except MachineError α} (h : R s t) (same : question t = question s)
    (ha : ∀ a, question s = .ok a → good a) :
    Alike R good (some (Attempt.ask question s)) (some (Attempt.ask question t)) := by
  rw [Attempt.ask, Attempt.ask, same]
  cases hq : question s with
  | error e => exact .refused h
  | ok a => exact .answered (ha a hq) h

/-- Answers in other words are alike if the answers are. -/
theorem answer {x : Run σ α} {f : α → β} (h : Alike R good (x s) (x t))
    (hf : ∀ a, good a → good' (f a)) :
    Alike R good' ((x >>= fun a => pure (f a)) s) ((x >>= fun a => pure (f a)) t) :=
  h.bind fun _ _ _ ha h => .answered (hf _ ha) h

theorem mono {good good' : α → Prop} (hg : ∀ a, good a → good' a)
    {x y : Option (Except MachineError α × σ)} (h : Alike R good x y) : Alike R good' x y := by
  cases h with
  | unfinished => exact .unfinished
  | answered ha h => exact .answered (hg _ ha) h
  | refused h => exact .refused h

end Alike

/-! ## Machines that are not told apart -/

/-- A relation between machines that hold the same as far as a view goes, but for what their tables
choose: what is asked of the two has one answer, and what is done to both keeps them related. -/
structure Machine.Compatible (v : View I O) (M : Machine I O W → Machine I O W → Prop) : Prop where
  seen : ∀ {m n}, M m n → v.same m.outline n.outline
  inputs_eq : ∀ {m n}, M m n → n.inputs = m.inputs
  outputs_eq : ∀ {m n}, M m n → n.outputs = m.outputs
  get?_eq : ∀ {m n}, M m n → ∀ state, n.registry.get? state = m.registry.get? state
  current_eq : ∀ {m n}, M m n → n.registry.current = m.registry.current
  default_eq : ∀ {m n}, M m n → n.registry.default = m.registry.default
  hasState_eq : ∀ {m n}, M m n → ∀ state, n.rules.hasState state = m.rules.hasState state
  /-- Where code starts runs inside a run, they also end alike. -/
  ends_eq : ∀ {m n}, M m n → v.executes → n.config.resetAfterExecution =
    m.config.resetAfterExecution
  configured : ∀ {m n}, M m n → v.configures → ∀ update,
    M { m with config := m.config.update update } { n with config := n.config.update update }
  inputs : ∀ {m n}, M m n → ∀ b, M { m with inputs := b } { n with inputs := b }
  outputs : ∀ {m n}, M m n → ∀ b, M { m with outputs := b } { n with outputs := b }
  bound : ∀ {m n}, M m n → ∀ state action, M (m.bound state action) (n.bound state action)
  current : ∀ {m n}, M m n → ∀ state,
    M { m with registry := m.registry.setCurrent state }
      { n with registry := n.registry.setCurrent state }
  default : ∀ {m n}, M m n → ∀ state,
    M { m with registry := m.registry.setDefault state }
      { n with registry := n.registry.setDefault state }
  erased : ∀ {m n}, M m n →
    M { m with registry := m.registry.erase } { n with registry := n.registry.erase }
  counted : ∀ {m n}, M m n → M (m.moved m.registry) (n.moved n.registry)
  declared : ∀ {m n}, M m n → ∀ rule, M (m.declared rule) (n.declared rule)
  cleared : ∀ {m n}, M m n → M { m with tables := .empty } { n with tables := .empty }
  built : ∀ {m n}, M m n → M m.built n.built
  installed : ∀ {m n}, M m n → ∀ state, m.rules.hasState state = true →
    M ((m.dropped state).installed state) ((n.dropped state).installed state)

/-- Such a relation between machines whose tables choose the same. -/
structure Machine.Congruence [BEq I] (v : View I O) (M : Machine I O W → Machine I O W → Prop) :
    Prop extends Machine.Compatible v M where
  branch_eq : ∀ {m n}, M m n → ∀ state symbol,
    (n.compiled state).bind (·.select symbol) = (m.compiled state).bind (·.select symbol)

/-- Two sessions with related machines and the same surroundings, all of whose code respects the
view. What their observers were told is the same where that is to be `heard`. -/
structure Session.Abreast (v : View I O) (M : Machine I O W → Machine I O W → Prop) (heard : Prop)
    (s t : Session I O W) : Prop where
  machine : M s.machine t.machine
  code : s.machine.Respects v
  world_eq : t.world = s.world
  observed_eq : heard → t.observed = s.observed
  events_eq : heard → t.events = s.events

namespace Session

variable {v : View I O} {M : Machine I O W → Machine I O W → Prop} {heard : Prop}
  {s t : Session I O W}

namespace Abreast

/-- The machines change and remain related. -/
theorem become (h : s.Abreast v M heard t) {m n : Machine I O W} (machine : M m n)
    (code : m.Respects v) (l l' : Array (LogEntry I O)) :
    Abreast v M heard { s with machine := m, log := l } { t with machine := n, log := l' } :=
  { h with machine := machine, code := code }

theorem note (h : s.Abreast v M heard t) (entry entry' : LogEntry I O) :
    Abreast v M heard (s.note entry) (t.note entry') := by
  obtain ⟨l, hs⟩ := s.exists_note entry
  obtain ⟨l', ht⟩ := t.exists_note entry'
  rw [hs, ht]
  exact h.become h.machine h.code l l'

theorem tell (h : s.Abreast v M heard t) (event : Event I O) :
    Abreast v M heard (s.tell event) (t.tell event) where
  machine := by rw [machine_tell, machine_tell]; exact h.machine
  code := by rw [machine_tell]; exact h.code
  world_eq := by unfold Session.tell; split <;> split <;> exact h.world_eq
  observed_eq := by unfold Session.tell; split <;> split <;> exact h.observed_eq
  events_eq hh := by
    unfold Session.tell
    rw [h.observed_eq hh]
    split
    · exact congrArg (·.push event) (h.events_eq hh)
    · exact h.events_eq hh

theorem recordInput (h : s.Abreast v M heard t) (event : TapeEvent I) :
    Abreast v M heard (s.recordInput event) (t.recordInput event) :=
  (h.note _ _).tell _

theorem recordOutput (h : s.Abreast v M heard t) (event : TapeEvent O) :
    Abreast v M heard (s.recordOutput event) (t.recordOutput event) :=
  (h.note _ _).tell _

theorem recordTransition (c : Machine.Compatible v M) (h : s.Abreast v M heard t) (source : Int)
    (target : Option Int) :
    Abreast v M heard (s.recordTransition source target) (t.recordTransition source target) := by
  have counted := h.become (c.counted h.machine)
    (h.code.of_sameCode (fun _ => rfl) rfl rfl) s.log t.log
  exact (counted.note _ _).tell _

/-- Writing down and then changing the machine. -/
theorem change (h : s.Abreast v M heard t) {f : Machine I O W → Machine I O W}
    (machine : M (f s.machine) (f t.machine)) (code : (f s.machine).Respects v)
    (entry : Session I O W → LogEntry I O) :
    Alike (Abreast v M heard) (fun _ => True)
      (some (Attempt.change
        (fun s => { s.note (entry s) with machine := f (s.note (entry s)).machine }) s))
      (some (Attempt.change
        (fun s => { s.note (entry s) with machine := f (s.note (entry s)).machine }) t)) := by
  obtain ⟨l, hs⟩ := s.exists_note (entry s)
  obtain ⟨l', ht⟩ := t.exists_note (entry t)
  simp only [Attempt.change, hs, ht]
  exact .answered trivial (h.become machine code l l')

end Abreast

end Session

/-! ## Calls that run no code -/

theorem RuleSet.rules_eq_nil_iff {P : Type} {rs : RuleSet I P} :
    rs.rules = [] ↔ ∀ state, rs.hasState state = false := by
  constructor
  · intro h state
    rw [hasState, h]
    rfl
  · intro h
    refine List.eq_nil_iff_forall_not_mem.2 fun rule hr => ?_
    have := hasState_iff_exists_mem.2 ⟨rule, hr, rfl⟩
    rw [h] at this
    cases this

namespace Machine.Compatible

open Session (Abreast)

variable {v : View I O} {M : Machine I O W → Machine I O W → Prop} (c : Compatible v M)
  {heard : Prop} {m n : Machine I O W} {s t : Session I O W}
include c

theorem lookup_eq (h : M m n) (state : Int) : n.lookup state = m.lookup state := by
  unfold Frame.lookup Frame.missingState
  rw [c.get?_eq h, c.hasState_eq h]

theorem rules_eq_nil_iff (h : M m n) : n.rules.rules = [] ↔ m.rules.rules = [] := by
  rw [RuleSet.rules_eq_nil_iff, RuleSet.rules_eq_nil_iff]
  exact forall_congr' fun state => by rw [c.hasState_eq h]

theorem isEmpty_eq (h : M m n) : n.rules.isEmpty = m.rules.isEmpty := by
  rw [Bool.eq_iff_iff, RuleSet.isEmpty, RuleSet.isEmpty, List.isEmpty_iff, List.isEmpty_iff]
  exact c.rules_eq_nil_iff h

theorem onInputs (h : s.Abreast v M heard t)
    (work : Bank I → Except MachineError (Bank.Traced I α × Bank I)) :
    Alike (Abreast v M heard) (fun _ => True) (some (Session.onInputs work s))
      (some (Session.onInputs work t)) := by
  unfold Session.onInputs
  rw [c.inputs_eq h.machine]
  cases work s.machine.inputs with
  | error e => exact .refused h
  | ok p =>
    obtain ⟨⟨a, event⟩, bank⟩ := p
    have worked := h.become (c.inputs h.machine bank)
      (h.code.of_sameCode (fun _ => rfl) rfl rfl) s.log t.log
    cases event with
    | none => exact .answered trivial worked
    | some event => exact .answered trivial (worked.recordInput event)

theorem onOutputs (h : s.Abreast v M heard t)
    (work : Bank O → Except MachineError (Bank.Traced O α × Bank O)) :
    Alike (Abreast v M heard) (fun _ => True) (some (Session.onOutputs work s))
      (some (Session.onOutputs work t)) := by
  unfold Session.onOutputs
  rw [c.outputs_eq h.machine]
  cases work s.machine.outputs with
  | error e => exact .refused h
  | ok p =>
    obtain ⟨⟨a, event⟩, bank⟩ := p
    have worked := h.become (c.outputs h.machine bank)
      (h.code.of_sameCode (fun _ => rfl) rfl rfl) s.log t.log
    cases event with
    | none => exact .answered trivial worked
    | some event => exact .answered trivial (worked.recordOutput event)

theorem reset (h : s.Abreast v M heard t) :
    Alike (Abreast v M heard) (fun _ => True) (some (Session.reset s))
      (some (Session.reset t)) := by
  have wound : M s.machine.wound t.machine.wound := by
    have := c.outputs (c.inputs h.machine s.machine.inputs.reset) s.machine.outputs.reset
    rw [Machine.wound, Machine.wound, c.inputs_eq h.machine, c.outputs_eq h.machine]
    exact this
  exact h.change (f := Machine.wound) wound (h.code.of_sameCode (fun _ => rfl) rfl rfl) _

theorem bindAction (h : s.Abreast v M heard t) (state : Int) {action : Action I O W}
    (ha : action.Respects v) :
    Alike (Abreast v M heard) (fun _ => True) (some (Session.bindAction state action s))
      (some (Session.bindAction state action t)) :=
  h.change (f := (·.bound state action)) (c.bound h.machine state action) (h.code.add ha _) _

theorem actionOf (h : s.Abreast v M heard t) (state : Int) :
    Alike (Abreast v M heard) (fun found => ∀ action, found = some action → action.Respects v)
      (some (Session.actionOf state s)) (some (Session.actionOf state t)) := by
  refine .ask h (by rw [c.get?_eq h.machine]) fun found hf => ?_
  cases hf
  exact h.code.bound state

theorem lookup (h : s.Abreast v M heard t) (state : Int) :
    Alike (Abreast v M heard) (Action.Respects v) (some (Attempt.ask (·.machine.lookup state) s))
      (some (Attempt.ask (·.machine.lookup state) t)) :=
  .ask h (c.lookup_eq h.machine state) fun _ hl =>
    h.code.bound state _ (Frame.lookup_eq_ok_iff.1 hl)

theorem setDefault (h : s.Abreast v M heard t) (state : Int) :
    Alike (Abreast v M heard) (fun _ => True) (some (Session.setDefault state s))
      (some (Session.setDefault state t)) :=
  (c.lookup h state).bindAttempt fun _ _ _ _ h =>
    h.change (f := fun m => { m with registry := m.registry.setDefault state })
      (c.default h.machine state) (h.code.of_sameCode (fun _ => rfl) rfl rfl) _

theorem eraseStates (h : s.Abreast v M heard t) :
    Alike (Abreast v M heard) (fun _ => True) (some (Session.eraseStates s))
      (some (Session.eraseStates t)) :=
  h.change (f := fun m => { m with registry := m.registry.erase })
    (c.erased h.machine) h.code.erase _

theorem enterState (h : s.Abreast v M heard t) (state : Int) :
    Alike (Abreast v M heard) (Action.Respects v) (some (Session.enterState state s))
      (some (Session.enterState state t)) :=
  (c.lookup h state).bindAttempt fun _ _ _ ha h => .answered ha <|
    h.become (c.current h.machine state) (h.code.of_sameCode (fun _ => rfl) rfl rfl) _ _

theorem enterAndRecord (h : s.Abreast v M heard t) (source state : Int) :
    Alike (Abreast v M heard) (Transition.Respects v)
      (some ((do
        let action ← Session.enterState state
        .change (·.recordTransition source (some state))
        return .enter action : Attempt (Session I O W) _) s))
      (some ((do
        let action ← Session.enterState state
        .change (·.recordTransition source (some state))
        return .enter action : Attempt (Session I O W) _) t)) :=
  (c.enterState h state).bindAttempt fun _ _ _ ha h =>
    .answered (Transition.respects_enter ha) (h.recordTransition c _ _)

theorem transitionTo (h : s.Abreast v M heard t) (target : Target) :
    Alike (Abreast v M heard) (Transition.Respects v) (some (Session.transitionTo target s))
      (some (Session.transitionTo target t)) := by
  have source : Alike (Abreast v M heard) (fun _ => True)
      (some (Attempt.ask (Except.ok ·.machine.registry.current) s))
      (some (Attempt.ask (Except.ok ·.machine.registry.current) t)) :=
    .ask h (by rw [c.current_eq h.machine]) fun _ _ => trivial
  refine source.bindAttempt fun source s' t' _ h => ?_
  cases target with
  | goTo target =>
    cases target with
    | none => exact .answered Transition.respects_halt (h.recordTransition c _ _)
    | some state => exact c.enterAndRecord h source state
  | current =>
    exact (c.lookup h source).bindAttempt fun _ _ _ ha h =>
      .answered (Transition.respects_enter ha) (h.recordTransition c _ _)
  | default =>
    have state : Alike (Abreast v M heard) (fun _ => True)
        (some (Attempt.ask (Except.ok ·.machine.registry.default) s'))
        (some (Attempt.ask (Except.ok ·.machine.registry.default) t')) :=
      .ask h (by rw [c.default_eq h.machine]) fun _ _ => trivial
    exact state.bindAttempt fun state _ _ _ h => c.enterAndRecord h source state
  | stop => exact .answered Transition.respects_halt (h.recordTransition c _ _)

theorem declare (h : s.Abreast v M heard t) {rule : Rule I (Op I O W)} (hr : rule.Respects v) :
    Alike (Abreast v M heard) (fun _ => True) (some (Session.declare rule s))
      (some (Session.declare rule t)) :=
  h.change (f := (·.declared rule)) (c.declared h.machine rule) (h.code.declare hr _) _

theorem install (h : s.Abreast v M heard t) (state : Int) :
    Alike (Abreast v M heard) (fun _ => True) (some (Session.install state s))
      (some (Session.install state t)) := by
  have declared := c.hasState_eq h.machine state
  cases hs : s.machine.rules.hasState state with
  | true =>
    obtain ⟨l, hl⟩ := Session.install_of_hasState hs
    obtain ⟨l', hl'⟩ := Session.install_of_hasState (declared.trans hs)
    rw [hl, hl']
    exact .answered trivial
      (h.become (c.installed h.machine state hs) (h.code.installed state) l l')
  | false =>
    rw [Session.install_of_not_hasState hs, Session.install_of_not_hasState (declared.trans hs)]
    exact .refused h

theorem build (h : s.Abreast v M heard t) :
    Alike (Abreast v M heard) (fun _ => True) (some (Session.build s))
      (some (Session.build t)) := by
  by_cases hr : s.machine.rules.rules = []
  · obtain ⟨l, hl⟩ := Session.build_of_nil hr
    obtain ⟨l', hl'⟩ := Session.build_of_nil ((c.rules_eq_nil_iff h.machine).2 hr)
    rw [hl, hl']
    exact .refused (h.become (c.cleared h.machine) h.code.cleared l l')
  · obtain ⟨l, hl⟩ := Session.build_of_ne_nil hr
    obtain ⟨l', hl'⟩ := Session.build_of_ne_nil (mt (c.rules_eq_nil_iff h.machine).1 hr)
    rw [hl, hl']
    exact .answered trivial (h.become (c.built h.machine) h.code.built l l')

theorem buildState (h : s.Abreast v M heard t) (state : Int) :
    Alike (Abreast v M heard) (fun _ => True) (some (Session.buildState state s))
      (some (Session.buildState state t)) := by
  rw [Session.buildState_eq, Session.buildState_eq, c.isEmpty_eq h.machine]
  split
  · exact .refused h
  · exact c.install h state

theorem beginRun (h : s.Abreast v M heard t) (start : Start) :
    Alike (Abreast v M heard) (Action.Respects v) (some (Session.beginRun start s))
      (some (Session.beginRun start t)) := by
  have state : Alike (Abreast v M heard) (fun _ => True)
      (some (Attempt.ask (Except.ok <| Session.startState start ·) s))
      (some (Attempt.ask (Except.ok <| Session.startState start ·) t)) := by
    refine .ask h ?_ fun _ _ => trivial
    cases start with
    | state id => rfl
    | default => exact congrArg Except.ok (c.default_eq h.machine)
    | current => exact congrArg Except.ok (c.current_eq h.machine)
  exact state.bindAttempt fun state _ _ _ h =>
    (c.enterState h state).bindAttempt fun _ _ _ ha h => .answered ha (h.note _ _)

theorem endRun (h : s.Abreast v M heard t) (executes : v.executes) :
    Alike (Abreast v M heard) (fun _ => True) (some (Session.endRun s))
      (some (Session.endRun t)) := by
  rw [Session.endRun_eq, Session.endRun_eq, c.ends_eq h.machine executes]
  split
  · exact c.reset h
  · exact .answered trivial h

end Machine.Compatible

/-! ## The evaluation -/

/-- In sessions abreast, code that respects the view has the same meaning. -/
def Invocation.Agrees (v : View I O) (M : Machine I O W → Machine I O W → Prop) (heard : Prop)
    (invoke : Invocation I O W) : Prop :=
  ∀ {action s t}, action.Respects v → Session.Abreast v M heard s t →
    Alike (Session.Abreast v M heard) (Transition.Respects v) (invoke action s) (invoke action t)

/-- In sessions abreast, dispatching has the same meaning if code one level deeper has. -/
def Machine.DispatchesAlike [BEq I] [BEq O] (v : View I O)
    (M : Machine I O W → Machine I O W → Prop) (heard : Prop) : Prop :=
  ∀ {fuel : Nat}, Invocation.Agrees v M heard (Action.eval fuel) →
    ∀ {s t : Session I O W}, s.Abreast v M heard t →
      Alike (Session.Abreast v M heard) (Transition.Respects v) (Action.eval (fuel + 1) .dispatch s)
        (Action.eval (fuel + 1) .dispatch t)

namespace Machine.Compatible

open Session (Abreast)

variable [BEq I] [BEq O] {v : View I O} {M : Machine I O W → Machine I O W → Prop}
  (c : Compatible v M) {heard : Prop} {invoke : Invocation I O W} {s t : Session I O W}
include c

theorem perform (deeper : invoke.Agrees v M heard) : ∀ {op : Op I O W}, op.Respects v →
    ∀ {s t}, s.Abreast v M heard t →
      Alike (Abreast v M heard) (fun _ => True) (op.perform invoke s) (op.perform invoke t)
  | .input i, _, _, _, h =>
    Alike.bind (c.onInputs h (·.serve i.request)) fun _ _ _ _ h => .answered trivial h
  | .output i, _, _, _, h =>
    Alike.bind (c.onOutputs h (·.serve i.request)) fun _ _ _ _ h => .answered trivial h
  | .andThen _ _, .andThen hf hs, _, _, h =>
    (perform deeper hf h).bind fun _ _ _ _ h => perform deeper hs h
  | .custom _, .custom hc, _, _, h => (deeper hc h).bind fun _ _ _ _ h => .answered trivial h

omit [BEq I] [BEq O] c in
theorem drive (deeper : invoke.Agrees v M heard) (n : Nat) {action : Action I O W}
    (ha : action.Respects v) (h : s.Abreast v M heard t) :
    Alike (Abreast v M heard) (fun _ => True) (Session.drive invoke n action s)
      (Session.drive invoke n action t) := by
  induction n generalizing action s t with
  | zero => exact .unfinished
  | succ n ih =>
    have now := deeper ha h
    generalize hs : invoke action s = p at now
    generalize ht : invoke action t = q at now
    cases now with
    | unfinished =>
      simp only [Session.drive, trampoline, Session.bounce, hs, ht]
      exact .unfinished
    | @answered transition s' t' hn h =>
      cases transition with
      | halt =>
        simp only [Session.drive, trampoline, Session.bounce, hs, ht, trampoline_none]
        exact .answered trivial h
      | enter next =>
        have later := ih (hn next rfl) h
        simp only [Session.drive] at later
        simp only [Session.drive, trampoline, Session.bounce, hs, ht]
        exact later
    | refused h =>
      simp only [Session.drive, trampoline, Session.bounce, hs, ht]
      exact .refused h

omit [BEq I] [BEq O] in
theorem executeWith (deeper : invoke.Agrees v M heard) (executes : v.executes) (fuel : Nat)
    (start : Start) (h : s.Abreast v M heard t) :
    Alike (Abreast v M heard) (fun _ => True) (Session.executeWith invoke fuel start s)
      (Session.executeWith invoke fuel start t) :=
  Alike.bind (x := Run.ofAttempt (Session.beginRun start)) (c.beginRun h start) fun _ _ _ ha h =>
    (drive deeper fuel ha h).bind fun _ _ _ _ h => c.endRun h executes

theorem serveWith (deeper : invoke.Agrees v M heard) (fuel : Nat) {call : Machine.Call I O W}
    (allowed : v.Allows call) (respects : call.Respects v) (h : s.Abreast v M heard t) :
    Alike (Abreast v M heard) (Answer.Respects v) (Session.serveWith invoke fuel call s)
      (Session.serveWith invoke fuel call t) := by
  -- an answer without a transition brings in no code
  have done : (Answer.done : Answer I O (Action I O W)).Respects v := nofun
  have silently {x : Run (Session I O W) Unit} {s t : Session I O W}
      (hx : Alike (Abreast v M heard) (fun _ => True) (x s) (x t)) :
      Alike (Abreast v M heard) (Answer.Respects v) (Session.silently x s) (Session.silently x t) :=
    hx.answer fun _ _ => done
  cases call with
  | configure update =>
    exact silently (x := .ofAttempt _) (.answered trivial <|
      h.become (c.configured h.machine allowed update)
      (h.code.of_sameCode (fun _ => rfl) rfl rfl) _ _)
  | observe on =>
    exact silently (x := .ofAttempt _) (.answered trivial { h with observed_eq := fun _ => rfl })
  | input request =>
    refine Alike.answer (x := Run.ofAttempt _) (c.onInputs h (·.serve request)) fun reply _ => ?_
    cases reply <;> exact nofun
  | output request =>
    refine Alike.answer (x := Run.ofAttempt _) (c.onOutputs h (·.serve request)) fun reply _ => ?_
    cases reply <;> exact nofun
  | apply op =>
    cases respects with
    | plain hp => cases hp
    | apply ho => exact silently (c.perform deeper ho h)
  | reset => exact silently (x := .ofAttempt _) (c.reset h)
  | bind state action =>
    cases respects with
    | plain hp => cases hp
    | bind _ ha => exact silently (x := .ofAttempt _) (c.bindAction h state ha)
  | share state owner =>
    refine Alike.bind (x := .ofAttempt _) (c.actionOf h owner) fun found _ _ hf h => ?_
    cases found with
    | none => exact .answered nofun h
    | some action => exact silently (x := .ofAttempt _) (c.bindAction h state (hf action rfl))
  | find state =>
    refine Alike.bind (x := .ofAttempt _) (c.actionOf h state) fun found _ _ hf h => ?_
    cases found with
    | none => exact .answered nofun h
    | some action =>
      refine .answered (fun t ht => ?_) h
      rw [List.mem_singleton.1 ht]
      exact Transition.respects_enter (hf action rfl)
  | invoke state =>
    refine Alike.bind (x := .ofAttempt _) (c.actionOf h state) fun found _ _ hf h => ?_
    cases found with
    | none => exact .answered nofun h
    | some action =>
      refine (deeper (hf action rfl) h).answer fun t hr u hu => ?_
      rw [List.mem_singleton.1 hu]
      exact hr
  | setDefault state => exact silently (x := .ofAttempt _) (c.setDefault h state)
  | erase => exact silently (x := .ofAttempt _) (c.eraseStates h)
  | transition target =>
    refine Alike.answer (x := .ofAttempt _) (c.transitionTo h target) fun t hr u hu => ?_
    rw [List.mem_singleton.1 hu]
    exact hr
  | declare rule =>
    cases respects with
    | plain hp => cases hp
    | declare hr => exact silently (x := .ofAttempt _) (c.declare h hr)
  | build => exact silently (x := .ofAttempt _) (c.build h)
  | buildState state => exact silently (x := .ofAttempt _) (c.buildState h state)
  | execute start => exact silently (c.executeWith deeper allowed fuel start h)

theorem evalWith {fuel : Nat} (deeper : Invocation.Agrees v M heard (Action.eval fuel))
    (dispatches : DispatchesAlike v M heard) {action : Action I O W}
    {held : List (Transition (Action I O W))} (respects : action.Respects v)
    (hh : ∀ t ∈ held, t.Respects v) {s t : Session I O W} (h : s.Abreast v M heard t) :
    Alike (Abreast v M heard) (Transition.Respects v)
      (action.evalWith (Session.serveWith (Action.eval fuel) fuel) (Action.eval fuel) held s)
      (action.evalWith (Session.serveWith (Action.eval fuel) fuel) (Action.eval fuel) held t) := by
  match action, respects with
  | .halt, .halt => exact .answered Transition.respects_halt h
  | .proceed i, .proceed _ => exact .answered (Transition.respects_getD hh i) h
  | .fail _, .fail _ => exact .refused h
  | .enter _, .enter hn => exact .answered (Transition.respects_enter hn) h
  | .dispatch, .dispatch => exact dispatches deeper h
  | .call request next, .call allowed hr hn =>
    have served := c.serveWith deeper fuel allowed hr h
    simp only [Action.evalWith]
    generalize Session.serveWith (Action.eval fuel) fuel request s = p at served
    generalize Session.serveWith (Action.eval fuel) fuel request t = q at served
    cases served with
    | unfinished => exact .unfinished
    | answered ha h =>
      exact evalWith deeper dispatches (hn _)
        (fun t ht => (List.mem_append.1 ht).elim (ha t) (hh t)) h
    | refused h => exact evalWith deeper dispatches (hn _) hh h
  | .inspect next, .inspect blind hn =>
    simp only [Action.evalWith]
    rw [← blind _ _ (c.seen h.machine)]
    exact evalWith deeper dispatches (hn _) hh h
  | .outside change next, .outside _ hn =>
    simp only [Action.evalWith]
    rw [h.world_eq]
    exact evalWith deeper dispatches (hn _) hh { h with world_eq := rfl }
termination_by structural action

theorem eval (dispatches : DispatchesAlike v M heard) (fuel : Nat) :
    Invocation.Agrees v M heard (Action.eval fuel) := by
  induction fuel with
  | zero => exact fun _ _ => .unfinished
  | succ fuel ih => exact fun ha h => c.evalWith ih dispatches ha (List.forall_mem_nil _) h

/-- A call made in sessions abreast is answered alike and leaves them abreast. -/
theorem serve (dispatches : DispatchesAlike v M heard) (fuel : Nat) {call : Machine.Call I O W}
    (allowed : v.Allows call) (respects : call.Respects v) (h : s.Abreast v M heard t) :
    Alike (Abreast v M heard) (Answer.Respects v) (Session.serve fuel call s)
      (Session.serve fuel call t) :=
  c.serveWith (c.eval dispatches fuel) fuel allowed respects h

end Machine.Compatible

namespace Machine.Congruence

open Session (Abreast)

variable [BEq I] {v : View I O} {M : Machine I O W → Machine I O W → Prop} (c : Congruence v M)
  {heard : Prop} {s t : Session I O W}
include c

theorem selectBranch (h : s.Abreast v M heard t) :
    Alike (Abreast v M heard) (Action.Respects v) (some (Session.selectBranch s))
      (some (Session.selectBranch t)) := by
  refine (c.onInputs h _).bindAttempt fun symbol s' t' _ h => .ask h ?_ fun branch hb => ?_
  · simp only [c.current_eq h.machine, c.branch_eq h.machine]
  · dsimp only at hb
    split at hb
    · next found hf =>
      cases hb
      exact h.code.branch hf
    · cases hb

variable [BEq O]

theorem dispatchesAlike : DispatchesAlike v M heard := by
  intro fuel deeper s t h
  have chosen := c.selectBranch h
  simp only [Action.eval, Action.evalWith]
  generalize Session.selectBranch s = p at chosen
  generalize Session.selectBranch t = q at chosen
  cases chosen with
  | answered hb h => exact deeper hb h
  | refused h => exact .refused h

theorem eval (fuel : Nat) : Invocation.Agrees v M heard (Action.eval fuel) :=
  c.toCompatible.eval c.dispatchesAlike fuel

/-- A call made in sessions abreast is answered alike and leaves them abreast. -/
theorem serve (fuel : Nat) {call : Machine.Call I O W} (allowed : v.Allows call)
    (respects : call.Respects v) (h : s.Abreast v M heard t) :
    Alike (Abreast v M heard) (Answer.Respects v) (Session.serve fuel call s)
      (Session.serve fuel call t) :=
  c.toCompatible.serve c.dispatchesAlike fuel allowed respects h

end Machine.Congruence

/-! ## Runs as they go on -/

/-- Two runs stand alike: both go on with the same, or both have ended with the same result, and the
states are related; or for both it is not known. -/
inductive Standing.Alike {A : Type} (R : σ → σ → Prop) :
    Option (Standing A σ) → Option (Standing A σ) → Prop
  | unknown : Alike R none none
  | going (next : A) {s t : σ} (h : R s t) : Alike R (some (.going next s)) (some (.going next t))
  | ended (result : Except MachineError Unit) {s t : σ} (h : R s t) :
      Alike R (some (.ended result s)) (some (.ended result t))

theorem Session.Abreast.advance [BEq I] [BEq O] {v : View I O}
    {M : Machine I O W → Machine I O W → Prop} {heard : Prop} {invoke : Invocation I O W}
    (deeper : invoke.Agrees v M heard) (n : Nat) {action : Action I O W} (ha : action.Respects v)
    {s t : Session I O W} (h : s.Abreast v M heard t) :
    Standing.Alike (Abreast v M heard) (Session.advance invoke n action s)
      (Session.advance invoke n action t) := by
  induction n generalizing action s t with
  | zero => exact .going action h
  | succ n ih =>
    have now := deeper ha h
    generalize hs : invoke action s = p at now
    generalize ht : invoke action t = q at now
    cases now with
    | unfinished =>
      rw [advance_of_none hs, advance_of_none ht]
      exact .unknown
    | @answered transition s' t' hn h =>
      cases transition with
      | halt =>
        rw [advance_of_halt hs, advance_of_halt ht]
        exact .ended _ h
      | enter next =>
        rw [advance_of_enter hs, advance_of_enter ht]
        exact ih (hn next rfl) h
    | refused h =>
      rw [advance_of_error hs, advance_of_error ht]
      exact .ended _ h

/-- Runs started in sessions abreast stand alike after every number of actions. -/
theorem Machine.Compatible.underway [BEq I] [BEq O] {v : View I O}
    {M : Machine I O W → Machine I O W → Prop} (c : Compatible v M) {heard : Prop}
    (dispatches : DispatchesAlike v M heard) (fuel n : Nat) (start : Start) {s t : Session I O W}
    (h : s.Abreast v M heard t) :
    Standing.Alike (Session.Abreast v M heard) (Session.underway fuel n start s)
      (Session.underway fuel n start t) := by
  have begun := c.beginRun h start
  unfold Session.underway
  generalize Session.beginRun start s = p at begun
  generalize Session.beginRun start t = q at begun
  cases begun with
  | answered ha h => exact h.advance (c.eval dispatches fuel) n ha
  | refused h => exact .ended _ h

/-! ## Calls one after the other -/

/-- Makes calls one after the other, up to the first that is not answered: what each was answered,
and the session afterwards. -/
def Session.transcript [BEq I] [BEq O] (fuel : Nat) : List (Machine.Call I O W) → Session I O W →
    List (Except MachineError (Answer I O (Action I O W)) × Session I O W)
  | [], _ => []
  | call :: rest, s =>
    match serve fuel call s with
    | none => []
    | some answered => answered :: transcript fuel rest answered.2

/-- Transcripts of the same answers, with the sessions abreast after each call. -/
def Session.SameTranscript (v : View I O) (M : Machine I O W → Machine I O W → Prop)
    (heard : Prop) :
    List (Except MachineError (Answer I O (Action I O W)) × Session I O W) →
    List (Except MachineError (Answer I O (Action I O W)) × Session I O W) → Prop :=
  List.Forall₂ fun x y => y.1 = x.1 ∧ x.2.Abreast v M heard y.2

/-- Calls that are answered alike, one by one, give the same transcript: it ends with the same
call. -/
theorem Session.sameTranscript_of_alike [BEq I] [BEq O] {v : View I O}
    {M : Machine I O W → Machine I O W → Prop} {heard : Prop} {fuel : Nat}
    {alike : Machine.Call I O W → Machine.Call I O W → Prop}
    (one : ∀ {call call' s t}, alike call call' → s.Abreast v M heard t →
      Alike (Abreast v M heard) (fun _ => True) (serve fuel call s) (serve fuel call' t))
    {calls calls' : List (Machine.Call I O W)} (all : List.Forall₂ alike calls calls')
    {s t : Session I O W} (h : s.Abreast v M heard t) :
    SameTranscript v M heard (transcript fuel calls s) (transcript fuel calls' t) := by
  induction all generalizing s t with
  | nil => exact .nil
  | @cons call call' rest rest' hc _ ih =>
    have now := one hc h
    unfold transcript
    generalize serve fuel call s = p at now
    generalize serve fuel call' t = q at now
    cases now with
    | unfinished => exact .nil
    | answered _ h => exact .cons ⟨rfl, h⟩ (ih h)
    | refused h => exact .cons ⟨rfl, h⟩ (ih h)

/-- The same calls made in sessions abreast have the same transcript. -/
theorem Machine.Congruence.transcript [BEq I] [BEq O] {v : View I O}
    {M : Machine I O W → Machine I O W → Prop} (c : Congruence v M) {heard : Prop} (fuel : Nat)
    {calls : List (Machine.Call I O W)} (allowed : ∀ call ∈ calls, v.Allows call ∧ call.Respects v)
    {s t : Session I O W} (h : s.Abreast v M heard t) :
    Session.SameTranscript v M heard (Session.transcript fuel calls s)
      (Session.transcript fuel calls t) := by
  have pairs :
      List.Forall₂ (fun call call' => call' = call ∧ v.Allows call ∧ call.Respects v) calls calls :=
    List.forall₂_same.2 fun call hc => ⟨rfl, allowed call hc⟩
  refine Session.sameTranscript_of_alike (fun alike h => ?_) pairs h
  obtain ⟨rfl, ha, hr⟩ := alike
  exact (c.serve fuel ha hr h).mono fun _ _ => trivial

end TapeMachine
