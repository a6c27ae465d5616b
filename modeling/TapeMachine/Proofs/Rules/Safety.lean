import TapeMachine.Proofs.Rules.Execution
import TapeMachine.Proofs.Session.ActiveTape
import TapeMachine.Proofs.Session.Representation
import TapeMachine.Proofs.Tape.Replay

/-!
# Well-formed rules never fail

Rules are well-formed for a machine if their instructions work on tapes that it has, one after the
other and without code of their own, and if every state they name has a rule. From a state of such
rules a run goes on or halts; it never ends with an error, however long it is.

Whether the machine still runs the rules it was built with is told by the past, as in
`TapeMachine.Proofs.Session.Representation`: `rulesInForce` reads it off the record.

Results:
1. `Bank.Stocked.serve`: an instruction that fits a bank succeeds, and every head stays on a cell.
2. `Effect.enforces`, `Recorded.kept_enforced`: rules that are in force are enforced by the machine.
3. `Able.dispatch`: a step of an able machine halts or leads to an able machine.
4. `Recorded.Reached.never_fails`: so does every number of steps, wherever calls have led before.
-/

namespace TapeMachine

variable {I O W S α : Type}

/-! ## Tapes -/

namespace Tape

variable {t t' : Tape S}

instance (t : Tape S) : Decidable t.Live := inferInstanceAs (Decidable (_ < _))

theorem Live.exists_cell (h : t.Live) : ∃ v, t.storage.toList[t.head]? = some v := by
  rw [Live, ← Sequence.length_toList] at h
  exact ⟨_, List.getElem?_eq_getElem h⟩

theorem Live.exists_read (h : t.Live) : ∃ v t', t.read = .ok (v, t') ∧ t'.Live := by
  obtain ⟨v, hv⟩ := h.exists_cell
  exact ⟨v, _, read_of_cell hv, h⟩

theorem Live.exists_write [BEq S] (h : t.Live) (v : S) :
    ∃ old t', t.write v = .ok (old, t') ∧ t'.Live := by
  obtain ⟨old, hold⟩ := h.exists_cell
  cases he : old == v with
  | true => exact ⟨none, t, write_of_equal hold he, h⟩
  | false =>
    obtain ⟨storage, hw, hlist⟩ := write_of_unequal hold he
    refine ⟨some old, _, hw, ?_⟩
    show t.head < storage.count
    rwa [← Sequence.length_toList, hlist, List.length_set, Sequence.length_toList]

theorem Live.exists_move (h : t.Live) (direction : Direction) (b : S) :
    ∃ shift t', t.move direction (some b) = .ok (shift, t') ∧ t'.Live := by
  have placed : ¬ t.Overrun := fun stale => Nat.not_lt_of_le stale.2 h
  obtain ⟨shift, t', hm, moved⟩ :=
    exists_moved placed fun (_ : t.NeedsCell direction) => Option.some_ne_none b
  exact ⟨shift, t', hm, moved.head_lt⟩

end Tape

/-! ## Banks -/

/-- The tape that the instruction names, if it names one. -/
def Instruction.tape? : Instruction S → Option Nat
  | .write tape _ | .move tape _ => tape

/-- A bank of `n` tapes has the tape that the instruction is for. -/
def Instruction.fits (n : Nat) (i : Instruction S) : Bool :=
  decide (0 < n) && i.tape?.all fun index => decide (index < n)

namespace Bank

/-- The bank has `n` tapes and a blank, every head is on a cell, and the active tape is one of
them. -/
structure Stocked (n : Nat) (b : Bank S) : Prop where
  len_eq : b.tapes.len = n
  active : 0 < n → b.active < n
  blank : b.blank.isSome = true
  live : ∀ t ∈ b.tapes.items, t.Live

namespace Stocked

variable {n : Nat} {b : Bank S} (h : b.Stocked n)
include h

theorem lt_indexOf {tape : Option Nat} (some_tape : 0 < n) (there : ∀ index ∈ tape, index < n) :
    b.indexOf tape < n := by
  cases tape with
  | none => exact h.active some_tape
  | some index => exact there index rfl

theorem put (index : Nat) {t : Tape S} (live : t.Live) : (b.put index t).Stocked n where
  len_eq := by simpa [Bank.put, Stack.len] using h.len_eq
  active := h.active
  blank := h.blank
  live t' ht' := by
    rcases List.mem_or_eq_of_mem_set ht' with ht' | rfl
    · exact h.live t' ht'
    · exact live

/-- Work that a tape with its head on a cell can bear succeeds. -/
theorem update {index : Nat} (there : index < n) {work : Tape S → Except MachineError (α × Tape S)}
    (works : ∀ t : Tape S, t.Live → ∃ a t', work t = .ok (a, t') ∧ t'.Live) :
    ∃ a b', b.update index work = .ok (a, b') ∧ b'.Stocked n := by
  have hlt : index < b.tapes.items.length := by rw [← h.len_eq] at there; exact there
  have ht : b.tape index = .ok b.tapes.items[index] := by
    rw [tape, Stack.get_eq_ok_iff.2 (List.getElem?_eq_getElem hlt)]
  obtain ⟨a, t', hw, live⟩ := works _ (h.live _ (List.getElem_mem hlt))
  exact ⟨a, _, update_eq_ok_iff.2 ⟨_, t', ht, hw, rfl⟩, h.put index live⟩

theorem tracedRead {index : Nat} (there : index < n) :
    ∃ a b', b.tracedRead index = .ok (a, b') ∧ b'.Stocked n :=
  h.update there fun t live => by
    obtain ⟨v, t', hr, live'⟩ := live.exists_read
    exact ⟨_, t', by simp only [hr]; rfl, live'⟩

theorem tracedWrite [BEq S] {index : Nat} (there : index < n) (v : S) :
    ∃ a b', b.tracedWrite index v = .ok (a, b') ∧ b'.Stocked n :=
  h.update there fun t live => by
    obtain ⟨old, t', hw, live'⟩ := live.exists_write v
    cases old with
    | none => exact ⟨none, t', by simp only [hw], live'⟩
    | some old => exact ⟨some _, t', by simp only [hw]; rfl, live'⟩

theorem tracedMove {index : Nat} (there : index < n) (direction : Direction) :
    ∃ a b', b.tracedMove index direction = .ok (a, b') ∧ b'.Stocked n :=
  h.update there fun t live => by
    obtain ⟨blank, hb⟩ := Option.isSome_iff_exists.1 h.blank
    obtain ⟨shift, t', hm, live'⟩ := live.exists_move direction blank
    exact ⟨_, t', by simp only [hb, hm]; rfl, live'⟩

/-- An instruction that fits the bank succeeds, and every head stays on a cell. -/
theorem serve [BEq S] {i : Instruction S} (fits : i.fits n = true) :
    ∃ answer b', b.serve i.request = .ok (answer, b') ∧ b'.Stocked n := by
  simp only [Instruction.fits, Bool.and_eq_true, decide_eq_true_eq, Option.all_eq_true] at fits
  obtain ⟨some_tape, there⟩ := fits
  cases i with
  | write tape value =>
    have ht : b.indexOf tape < n := h.lt_indexOf some_tape there
    obtain ⟨event, b', hw, hb'⟩ := h.tracedWrite ht value
    exact ⟨_, b', by simp only [Instruction.request, Bank.serve, hw]; rfl, hb'⟩
  | move tape direction =>
    have ht : b.indexOf tape < n := h.lt_indexOf some_tape there
    obtain ⟨event, b', hm, hb'⟩ := h.tracedMove ht direction
    exact ⟨_, b', by simp only [Instruction.request, Bank.serve, hm]; rfl, hb'⟩

end Stocked

end Bank

/-- Both banks of the machine are stocked. -/
structure Machine.Stocked (inputs outputs : Nat) (m : Machine I O W) : Prop where
  inputs : m.inputs.Stocked inputs
  outputs : m.outputs.Stocked outputs

/-! ## Instructions and rules that fit -/

/-- The instruction works on tapes that exist among so many input and output tapes. Code may do
anything, so it does not fit. -/
def Op.fits (inputs outputs : Nat) : Op I O W → Bool
  | .input i => i.fits inputs
  | .output i => i.fits outputs
  | .andThen first second => first.fits inputs outputs && second.fits inputs outputs
  | .custom _ => false

/-- All instructions of the rule fit. -/
def Rule.fits (inputs outputs : Nat) (r : Rule I (Op I O W)) : Bool :=
  r.write.all (·.fits inputs outputs) && r.moves.all (·.fits inputs outputs) &&
    r.fallback.all (·.fits inputs outputs)

/-- Every state that a rule leads to has a rule. -/
def RuleSet.closed {P : Type} (rs : RuleSet I P) : Bool :=
  rs.rules.all fun r => r.next.all rs.hasState && r.fallbackNext.all rs.hasState

theorem RuleSet.ne_of_hasState {P : Type} {rs : RuleSet I P} {state other : Int}
    (declared : rs.hasState state = true) (undeclared : rs.hasState other = false) :
    state ≠ other := by
  rintro rfl
  rw [declared] at undeclared
  cases undeclared

namespace Session

variable [BEq I]

/-- The instructions of a branch fit if those of the rules do. -/
theorem fits_of_branchFor {rules : List (Rule I (Op I O W))} {inputs outputs : Nat}
    (fits : ∀ r ∈ rules, r.fits inputs outputs = true) {state : Int} {symbol : I}
    {branch : Branch (Op I O W)} (h : branchFor rules state symbol = some branch) :
    ∀ op ∈ branch.ops, op.fits inputs outputs = true := by
  intro op hop
  obtain ⟨r, hr, from_rule⟩ := mem_of_branchFor h hop
  have hfits := fits r hr
  simp only [Rule.fits, Bool.and_eq_true, Option.all_eq_true] at hfits
  obtain ⟨⟨write, moves⟩, fallback⟩ := hfits
  rcases from_rule with hw | hm | hf
  · exact write op hw
  · exact moves op hm
  · exact fallback op hf

/-- A branch of closed rules leads to a state that has a rule, or halts. -/
theorem hasState_of_branchFor {rules : RuleSet I (Op I O W)} (closed : rules.closed = true)
    {state : Int} {symbol : I} {branch : Branch (Op I O W)}
    (h : branchFor rules.rules state symbol = some branch) :
    ∀ next ∈ branch.next, rules.hasState next = true := by
  simp only [RuleSet.closed, List.all_eq_true, Bool.and_eq_true, Option.all_eq_true] at closed
  unfold branchFor at h
  split at h
  · next r hr =>
    cases h
    exact (closed r (List.mem_of_find?_eq_some hr)).1
  · obtain ⟨r, hr, rfl⟩ := Option.map_eq_some_iff.1 h
    exact (closed r (List.mem_of_find?_eq_some hr)).2

variable [BEq O] {inputs outputs : Nat} {s : Session I O W}

/-- A stocked machine performs every instruction that fits, and is stocked again. -/
theorem perform_of_fits (invoke : Invocation I O W) : ∀ {op : Op I O W} {s : Session I O W},
    op.fits inputs outputs = true → s.machine.Stocked inputs outputs →
      ∃ s', op.perform invoke s = some (.ok (), s') ∧ s.SameButTapes s' ∧
        s'.machine.Stocked inputs outputs
  | .input i, s, fits, stocked => by
    obtain ⟨⟨reply, event⟩, bank, hb, hs⟩ := stocked.inputs.serve fits
    obtain ⟨s', hs', hm⟩ := onInputs_eq_ok (s := s) (·.serve i.request) hb
    have same := onInputs_sameButTapes (·.serve i.request) s
    rw [hs'] at same
    have served : Run.ofAttempt (serveInput i.request) s = some (.ok reply, s') := congrArg some hs'
    exact ⟨s', Run.bind_of_ok served, same, by rw [hm]; exact ⟨hs, stocked.outputs⟩⟩
  | .output i, s, fits, stocked => by
    obtain ⟨⟨reply, event⟩, bank, hb, hs⟩ := stocked.outputs.serve fits
    obtain ⟨s', hs', hm⟩ := onOutputs_eq_ok (s := s) (·.serve i.request) hb
    have same := onOutputs_sameButTapes (·.serve i.request) s
    rw [hs'] at same
    have served : Run.ofAttempt (serveOutput i.request) s = some (.ok reply, s') :=
      congrArg some hs'
    exact ⟨s', Run.bind_of_ok served, same, by rw [hm]; exact ⟨stocked.inputs, hs⟩⟩
  | .andThen first second, s, fits, stocked => by
    obtain ⟨hfirst, hsecond⟩ := Bool.and_eq_true_iff.1 fits
    obtain ⟨t, ht, same, stocked⟩ := perform_of_fits invoke hfirst stocked
    obtain ⟨u, hu, same', stocked⟩ := perform_of_fits invoke hsecond stocked
    exact ⟨u, (Run.bind_of_ok ht).trans hu, same.trans same', stocked⟩
  | .custom _, _, fits, _ => nomatch fits

theorem performAll_of_fits (invoke : Invocation I O W) {ops : List (Op I O W)}
    (fits : ∀ op ∈ ops, op.fits inputs outputs = true)
    (stocked : s.machine.Stocked inputs outputs) :
    ∃ s', performAll (Op.perform invoke) ops s = some (.ok (), s') ∧ s.SameButTapes s' ∧
      s'.machine.Stocked inputs outputs := by
  induction ops generalizing s with
  | nil => exact ⟨s, rfl, .refl _, stocked⟩
  | cons op rest ih =>
    obtain ⟨hop, hrest⟩ := List.forall_mem_cons.1 fits
    obtain ⟨t, ht, same, stocked⟩ := perform_of_fits invoke hop stocked
    obtain ⟨u, hu, same', stocked⟩ := ih hrest stocked
    exact ⟨u, (Run.bind_of_ok ht).trans hu, same.trans same', stocked⟩

end Session

/-! ## Rules in force -/

/-- The call takes a state of the rules from them: it binds the state, or drops all bindings.
Building binds states, too. -/
def Call.rebinds (rules : RuleSet I (Op I O W)) (m : Machine I O W) : Machine.Call I O W → Bool
  | .bind state _ | .buildState state => rules.hasState state
  | .share state owner => rules.hasState state && m.registry.contains owner
  | .erase | .build => true
  | _ => false

/-- All declared states have just been built. -/
def Happening.buildsAll : Happening I O W → Bool
  | .answered .build (.ok _) => true
  | _ => false

def Moment.rebinds (rules : RuleSet I (Op I O W)) (m : Moment I O W) : Bool :=
  match m.what with
  | .made call => call.rebinds rules m.session.machine
  | _ => false

/-- The rules that were built together last, unless one of their states has been rebound since.
Later rules that wait to be built, and states without rules, do not count. -/
def rulesInForce : List (Moment I O W) → Option (RuleSet I (Op I O W))
  | [] => none
  | m :: earlier =>
    if m.what.buildsAll then some m.session.machine.rules
    else (rulesInForce earlier).filter fun rules => !m.rebinds rules

namespace Machine

variable {m m' : Machine I O W} {rules : RuleSet I (Op I O W)}

/-- Binding a state that has none of the rules takes nothing from them. -/
theorem Enforces.bind (h : m.Enforces rules) {state : Int} (action : Action I O W)
    (other : rules.hasState state = false) : (m.bound state action).Enforces rules where
  bound q hq := by
    show (m.registry.add state action).get? q = _
    rw [Registry.get?_add, if_neg (RuleSet.ne_of_hasState hq other)]
    exact h.bound q hq
  compiled := h.compiled

theorem Enforces.buildState (h : m.Enforces rules) (wf : m.WellFormed) {state : Int}
    (other : rules.hasState state = false) :
    ((m.dropped state).installed state).Enforces rules where
  bound q hq := (h.bind .dispatch other).bound q hq
  compiled q hq := by
    rw [compiled_installed wf.single, if_neg (RuleSet.ne_of_hasState hq other)]
    exact h.compiled q hq

end Machine

variable [BEq I] [BEq O] {rules : RuleSet I (Op I O W)}

/-- A call that rebinds none of their states leaves the rules enforced. -/
theorem Machine.Effect.enforces {m m' : Machine I O W} {call : Machine.Call I O W}
    {result : Except MachineError (Answer I O (Action I O W))} (e : m.Effect call result m')
    (wf : m.WellFormed) (h : m.Enforces rules) (leaves : call.rebinds rules m = false) :
    m'.Enforces rules := by
  cases e with
  | bound state action => exact h.bind action leaves
  | @shared state owner action hg =>
    have owned : m.registry.contains owner = true := Registry.contains_of_get? hg
    have other : rules.hasState state = false := by simpa [Call.rebinds, owned] using leaves
    exact h.bind action other
  | erased => cases leaves
  | buildRefused => cases leaves
  | built => cases leaves
  | stateBuilt => exact h.buildState wf leaves
  | _ => exact ⟨h.bound, h.compiled⟩

/-- A machine that has just been built enforces its rules. -/
theorem Machine.Effect.enforces_of_build {m m' : Machine I O W} {call : Machine.Call I O W}
    {result : Except MachineError (Answer I O (Action I O W))} (e : m.Effect call result m')
    (building : (Happening.answered call (result.map fun _ => ())).buildsAll = true) :
    m'.Enforces m'.rules := by
  cases e with
  | built =>
    have hr : m.built.rules = m.rules := by rw [built_eq]
    rw [hr]
    exact m.enforces_built
  | _ => cases building

namespace Recorded

/-- The machine of the session enforces the rules that are in force. -/
def Enforced (r : Recorded I O W) : Prop :=
  ∀ rules, rulesInForce r.record = some rules → r.session.machine.Enforces rules

namespace Enforced

variable {r : Recorded I O W} (h : r.Enforced)
include h

omit [BEq I] [BEq O] in
theorem note {what : Happening I O W} (no_build : what.buildsAll = false) :
    (r.note what).Enforced := by
  intro rules hr
  rw [Recorded.note, rulesInForce, if_neg (by simp [no_build])] at hr
  exact h rules (Option.filter_eq_some_iff.1 hr).1

omit [BEq I] [BEq O] in
theorem become {s : Session I O W} (same : r.session.machine.SameCode s.machine) :
    (r.become s).Enforced :=
  fun rules hr => (h rules hr).of_sameCode same

theorem answered (wf : r.session.machine.WellFormed) {call : Machine.Call I O W}
    {s' : Session I O W} {result : Except MachineError (Answer I O (Action I O W))}
    (e : r.session.machine.Effect call result s'.machine) :
    (((r.note (.made call)).become s').note
      (.answered call (result.map fun _ => ()))).Enforced := by
  intro rules hr
  rw [Recorded.note, rulesInForce] at hr
  split at hr
  · next building =>
    cases hr
    exact e.enforces_of_build building
  · have made : (rulesInForce r.record).filter (fun rules =>
        !Moment.rebinds rules ⟨.made call, r.session⟩) = some rules :=
      (Option.filter_eq_some_iff.1 hr).1
    obtain ⟨before, leaves⟩ := Option.filter_eq_some_iff.1 made
    exact e.enforces wf (h rules before) (by simpa [Moment.rebinds] using leaves)

end Enforced

/-- Every happening leaves the rules in force enforced. -/
theorem kept_enforced :
    Kept fun r : Recorded I O W => r.Represented ∧ r.Enforced where
  made h := ⟨kept_represented.made h.1, h.2.note rfl⟩
  answered {r call result} runs h := by
    refine ⟨kept_represented.answered runs h.1, h.2.note ?_⟩
    cases call with
    | build => cases runs
    | _ => rfl
  invoked h := ⟨kept_represented.invoked h.1, h.2.note rfl⟩
  served alone h hs :=
    ⟨kept_represented.served alone h.1 hs,
      h.2.answered h.1.wellFormed (Session.effect_of_serveAlone alone hs)⟩
  begun h :=
    ⟨kept_represented.begun h.1, (h.2.note rfl).become (Session.unaltered_of_beginRun rfl).sameCode⟩
  finished h :=
    ⟨kept_represented.finished h.1, h.2.become (Session.unaltered_of_endRun rfl).sameCode⟩
  selected h :=
    ⟨kept_represented.selected h.1, h.2.become (Session.unaltered_of_selectBranch rfl).sameCode⟩
  touched h := ⟨kept_represented.touched h.1, h.2.become (.refl _)⟩

end Recorded

/-! ## Steps -/

/-- The machine enforces the rules and is in one of their states, and its banks are stocked. -/
structure Machine.Able (rules : RuleSet I (Op I O W)) (inputs outputs : Nat) (m : Machine I O W) :
    Prop where
  enforces : m.Enforces rules
  stocked : m.Stocked inputs outputs
  declared : rules.hasState m.registry.current = true

variable {inputs outputs : Nat} {s : Session I O W}

omit [BEq I] [BEq O] in
/-- A machine that goes to a state of its rules is able to go on from there. -/
theorem Machine.able_moved {m : Machine I O W} (enforces : m.Enforces rules)
    (stocked : m.Stocked inputs outputs) {state : Int} (declared : rules.hasState state = true)
    (counters : Counters) :
    Machine.Able rules inputs outputs
      { m with registry := m.registry.setCurrent state, counters := counters } where
  enforces := ⟨enforces.bound, enforces.compiled⟩
  stocked := ⟨stocked.inputs, stocked.outputs⟩
  declared := declared

namespace Machine.Able

omit [BEq I] [BEq O] in
/-- What changes the tapes alone leaves a machine able if it leaves the banks stocked. -/
theorem of_sameButTapes (able : s.machine.Able rules inputs outputs) {s' : Session I O W}
    (same : s.SameButTapes s') (stocked : s'.machine.Stocked inputs outputs) :
    s'.machine.Able rules inputs outputs where
  enforces := able.enforces.of_sameCode (Session.KeepsCode.of_sameButTapes same).code
  stocked := stocked
  declared := by rw [same.registry_eq]; exact able.declared

omit [BEq I] [BEq O] in
/-- A transition to a state that has a rule, or a halt, is made. -/
theorem transitionTo (able : s.machine.Able rules inputs outputs) {target : Option Int}
    (known : ∀ state ∈ target, rules.hasState state = true) :
    ∃ s', Session.transitionTo (.goTo target) s = (.ok (Session.onward target.isSome), s') ∧
      s'.machine.Able rules inputs outputs := by
  cases ht : Session.transitionTo (.goTo target) s with
  | mk result s' =>
    rcases Session.transitionTo_cases ht with
      ⟨e, state, hstate, hl, -, -⟩ | ⟨hnone, rfl, rfl⟩ | ⟨state, action, hstate, hg, rfl, rfl⟩
    · have hbound := able.enforces.bound state (known state hstate)
      rw [Frame.lookup_eq_ok_iff.2 hbound] at hl
      cases hl
    · cases target with
      | some state => cases hnone
      | none =>
        refine ⟨_, rfl, ?_⟩
        rw [Session.machine_recordTransition]
        exact able_moved able.enforces able.stocked able.declared _
    · cases hstate
      have hs := known state rfl
      rw [able.enforces.bound state hs] at hg
      cases hg
      refine ⟨_, rfl, ?_⟩
      rw [Session.machine_recordTransition]
      exact able_moved able.enforces able.stocked hs _

/-- A branch whose instructions fit is taken to its end. -/
theorem runBranch (able : s.machine.Able rules inputs outputs) (invoke : Invocation I O W)
    {branch : Branch (Op I O W)} (fits : ∀ op ∈ branch.ops, op.fits inputs outputs = true)
    (known : ∀ state ∈ branch.next, rules.hasState state = true) :
    ∃ more s', Session.runBranch (Op.perform invoke) branch s =
        some (.ok (Session.onward more), s') ∧
      s'.machine.Able rules inputs outputs := by
  obtain ⟨t, ht, same, stocked⟩ := Session.performAll_of_fits invoke fits able.stocked
  obtain ⟨s', hs', able'⟩ := (able.of_sameButTapes same stocked).transitionTo known
  exact ⟨_, s', (Run.bind_of_ok ht).trans (congrArg some hs'), able'⟩

omit [BEq I] [BEq O] in
/-- The active input tape can be read. -/
theorem readInput (able : s.machine.Able rules inputs outputs) (some_tape : 0 < inputs) :
    ∃ symbol s', Session.readInput none s = (.ok symbol, s') ∧
      s'.machine.Able rules inputs outputs := by
  have active := able.stocked.inputs.active some_tape
  obtain ⟨⟨symbol, event⟩, bank, hb, stocked⟩ := able.stocked.inputs.tracedRead active
  have hread : ∃ s', Session.readInput none s = (.ok symbol, s') ∧
      s'.machine = { s.machine with inputs := bank } :=
    Session.onInputs_eq_ok _ (by simp only [Bank.indexOf, Option.getD_none, hb]; rfl)
  obtain ⟨s', hs', hm⟩ := hread
  have same := Session.readInput_sameButTapes none s
  rw [hs'] at same
  have stocked' : s'.machine.Stocked inputs outputs := by
    rw [hm]
    exact ⟨stocked, able.stocked.outputs⟩
  exact ⟨symbol, s', hs', able.of_sameButTapes same stocked'⟩

/-- A dispatch halts or leads to a dispatch, and the machine stays able. -/
theorem dispatch (able : s.machine.Able rules inputs outputs) (some_tape : 0 < inputs)
    (closed : rules.closed = true) (fits : ∀ r ∈ rules.rules, r.fits inputs outputs = true)
    (f : Nat) :
    ∃ more s', Action.eval (f + 2) .dispatch s = some (.ok (Session.onward more), s') ∧
      s'.machine.Able rules inputs outputs := by
  obtain ⟨symbol, t, hr, able'⟩ := able.readInput some_tape
  obtain ⟨branch, action, hbranch, hselect, heval⟩ :=
    Session.exists_select able'.declared symbol
  have hs := Session.selectBranch_of_read hr (able'.enforces.compiled _ able'.declared) hselect
  obtain ⟨more, s', hrun, able''⟩ := able'.runBranch (Action.eval f)
    (Session.fits_of_branchFor fits hbranch) (Session.hasState_of_branchFor closed hbranch)
  refine ⟨more, s', ?_, able''⟩
  rw [Session.eval_dispatch_of_ok hs, heval]
  exact hrun

/-- However many steps a run makes, it has halted or goes on to dispatch. -/
theorem advance (able : s.machine.Able rules inputs outputs) (some_tape : 0 < inputs)
    (closed : rules.closed = true) (fits : ∀ r ∈ rules.rules, r.fits inputs outputs = true)
    (f n : Nat) :
    ∃ s' : Session I O W, s'.machine.Able rules inputs outputs ∧
      (Session.advance (Action.eval (f + 2)) n .dispatch s = some (.going .dispatch s') ∨
        Session.advance (Action.eval (f + 2)) n .dispatch s = some (.ended (.ok ()) s')) := by
  -- induction on the number of steps; the first one leads to an able machine again
  induction n generalizing s with
  | zero => exact ⟨s, able, .inl rfl⟩
  | succ n ih =>
    obtain ⟨more, t, ht, able'⟩ := able.dispatch some_tape closed fits f
    cases more with
    | false => exact ⟨t, able', .inr (Session.advance_of_halt ht)⟩
    | true =>
      obtain ⟨s', hs', stands⟩ := ih able'
      refine ⟨s', hs', ?_⟩
      rwa [Session.advance_of_enter ht]

end Machine.Able

/-! ## Wherever calls lead -/

omit [BEq I] [BEq O] in
theorem Bank.Steady.stocked {b : Bank S} (h : b.Steady) (blank : b.blank.isSome = true)
    (live : ∀ t ∈ b.tapes.items, t.Live) : b.Stocked b.tapes.len :=
  ⟨rfl, fun some_tape => h.lt (Nat.ne_of_gt some_tape), blank, live⟩

omit [BEq I] [BEq O] in
/-- Only a run that failed on the way ends with an error. -/
theorem Session.eq_ok_of_finish {A : Type} {x : Standing A (Session I O W)}
    (sound : ∀ e s, x ≠ .ended (.error e) s) {result : Except MachineError Unit}
    {final : Session I O W} (h : finish x = some (result, final)) : result = .ok () := by
  cases x with
  | going next s => cases h
  | ended found s =>
    cases found with
    | error e => exact absurd rfl (sound e s)
    | ok _ =>
      have hend : endRun s = (result, final) := Option.some.inj h
      rcases endRun_cases s with he | he
      · rw [he] at hend
        cases hend
        rfl
      · rw [he] at hend
        cases hend
        rfl

/-- Suppose calls of any kind have led to a machine, the rules that were built together last have
not been rebound since, every state they lead to is one of theirs, and their instructions fit the
tapes that there are. If there is an input tape, both blanks are set and every head is on a cell, a
run from any of their states goes on or halts: after every number of steps it stands before another
dispatch or has halted, with no tape lost and every head on a cell. So no run ends with an error. -/
theorem Recorded.Reached.never_fails {config : Config} {world : W} {later : Session I O W}
    {record : List (Moment I O W)} {start : Int}
    (reached : Recorded.Reached (fun _ => True) (Session.fresh config world) ⟨later, record⟩)
    (in_force : rulesInForce record = some rules) (closed : rules.closed = true)
    (fits : ∀ r ∈ rules.rules,
      r.fits later.machine.inputs.tapes.len later.machine.outputs.tapes.len = true)
    (some_tape : 0 < later.machine.inputs.tapes.len)
    (input_blank : later.machine.inputs.blank.isSome = true)
    (output_blank : later.machine.outputs.blank.isSome = true)
    (inputs_live : ∀ t ∈ later.machine.inputs.tapes.items, t.Live)
    (outputs_live : ∀ t ∈ later.machine.outputs.tapes.items, t.Live)
    (declared : rules.hasState start = true) :
    Session.beginRun (.state start) later = (.ok .dispatch, Session.entering start later) ∧
    (∀ f n, ∃ s' : Session I O W,
      s'.machine.Stocked later.machine.inputs.tapes.len later.machine.outputs.tapes.len ∧
      (Session.advance (Action.eval (f + 2)) n .dispatch (Session.entering start later) =
          some (.going .dispatch s') ∨
        Session.advance (Action.eval (f + 2)) n .dispatch (Session.entering start later) =
          some (.ended (.ok ()) s'))) ∧
    ∀ fuel result final, Session.execute fuel (.state start) later = some (result, final) →
      result = .ok () := by
  have fresh : Represented (⟨Session.fresh config world, []⟩ : Recorded I O W) ∧
      Enforced (⟨Session.fresh config world, []⟩ : Recorded I O W) :=
    ⟨represented_fresh config world, fun _ h => nomatch h⟩
  obtain ⟨represented, enforced⟩ := kept_enforced.reached fresh reached
  have wf := represented.wellFormed
  have stocked :
      later.machine.Stocked later.machine.inputs.tapes.len later.machine.outputs.tapes.len :=
    ⟨wf.inputs.stocked input_blank inputs_live, wf.outputs.stocked output_blank outputs_live⟩
  have hbegin := Session.beginRun_of_enforces (enforced rules in_force) declared
  have able : (Session.entering start later).machine.Able rules later.machine.inputs.tapes.len
      later.machine.outputs.tapes.len := by
    rw [Session.machine_entering]
    exact Machine.able_moved (enforced rules in_force) stocked declared _
  have stands := able.advance some_tape closed fits
  refine ⟨hbegin, fun f n => ?_, fun fuel result final hrun => ?_⟩
  · obtain ⟨s', able', hs'⟩ := stands f n
    exact ⟨s', able'.stocked, hs'⟩
  · have hrun' := Session.execute_within (Nat.le_add_right fuel 2) (.state start) _ _ hrun
    have hadvance : Session.execute (fuel + 2) (.state start) later = _ :=
      Session.executeWith_eq_advance hbegin (fuel + 2)
    rw [hadvance] at hrun'
    obtain ⟨x, hx, hend⟩ := Option.bind_eq_some_iff.1 hrun'
    refine Session.eq_ok_of_finish (fun e t he => ?_) hend
    obtain ⟨s', -, hs' | hs'⟩ := stands fuel (fuel + 2)
    · cases (he ▸ hx).symm.trans hs'
    · cases (he ▸ hx).symm.trans hs'

/-- Two states are built, a rule is declared for a third one that is not, and a state without rules
is bound. From the first state the run misses, moves the head of the second tape and comes back,
again and again: the tape grows without end, and no step fails. -/
theorem Recorded.Reached.never_fails_growing :
    ∃ (r : Recorded Bool Bool Unit) (rules : RuleSet Bool (Op Bool Bool Unit)),
      Recorded.Reached (fun _ => True) (Session.fresh {} ()) r ∧
      rulesInForce r.record = some rules ∧
      rules.states = [0, 1] ∧ r.session.machine.rules.states = [0, 1, 2] ∧
      r.session.machine.registry.contains 7 = true ∧
      ∀ n, ∃ s' : Session Bool Bool Unit, s'.machine.Stocked 2 1 ∧
        (Session.advance (Action.eval 2) n .dispatch (Session.entering 0 r.session) =
            some (.going .dispatch s') ∨
          Session.advance (Action.eval 2) n .dispatch (Session.entering 0 r.session) =
            some (.ended (.ok ()) s')) := by
  let first : Rule Bool (Op Bool Bool Unit) :=
    { state := 0, read := true
      write := some (.andThen (.input (.move (some 0) .left)) (.writeOutput false))
      moves := some (.output (.move (some 0) .right)), next := some 1
      fallback := some (.moveInput .right), fallbackNext := some 0 }
  let second : Rule Bool (Op Bool Bool Unit) :=
    { state := 1, read := false, fallbackNext := some 0 }
  let third : Rule Bool (Op Bool Bool Unit) := { state := 2, read := true, next := some 9 }
  let calls : List (Machine.Call Bool Bool Unit) :=
    [.input .add, .input .add, .output .add, .input (.setBlank false), .output (.setBlank false),
      .input (.load (some 0) (.ofList [true]) none), .input (.load none (.ofList [false]) none),
      .output (.load none (.ofList [true]) none), .declare first, .declare second, .build,
      .declare third, .bind 7 .halt, .execute (.state 1)]
  have run : (Recorded.serveAll 4 calls ⟨Session.fresh {} (), []⟩).any (fun r =>
      let m := r.session.machine
      (rulesInForce r.record).any (fun rules => rules.states == [0, 1] && rules.closed &&
        rules.rules.all (·.fits 2 1) && rules.hasState 0) &&
      m.rules.states == [0, 1, 2] && m.registry.contains 7 && m.inputs.tapes.len == 2 &&
      m.outputs.tapes.len == 1 && m.inputs.blank.isSome && m.outputs.blank.isSome &&
      decide (∀ t ∈ m.inputs.tapes.items, t.Live) && decide (∀ t ∈ m.outputs.tapes.items, t.Live)) =
      true := by
    decide +kernel
  simp only [Option.any_eq_true, Bool.and_eq_true, beq_iff_eq, decide_eq_true_eq, and_assoc] at run
  obtain ⟨r, hr, ⟨rules, in_force, states, closed, fits, declared⟩, all, bound, inputs, outputs,
    input_blank, output_blank, inputs_live, outputs_live⟩ := run
  have reached : r.Reached (fun _ => True) (Session.fresh {} ()) :=
    Recorded.Reached.start.serveAll (fun _ _ => trivial) hr
  have safe := Recorded.Reached.never_fails reached in_force closed
    (by rw [inputs, outputs]; exact List.all_eq_true.1 fits) (by rw [inputs]; exact Nat.zero_lt_two)
    input_blank output_blank inputs_live outputs_live declared
  rw [inputs, outputs] at safe
  exact ⟨r, rules, reached, in_force, states, all, bound, safe.2.1 0⟩

end TapeMachine
