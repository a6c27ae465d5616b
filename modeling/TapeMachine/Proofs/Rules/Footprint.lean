import TapeMachine.Proofs.Rules.Safety

/-!
# What a run of rules leaves alone

A run whose code is all from rules, with instructions that read, write and move on single tapes,
works a machine through its tapes, its current state and its counter of transitions. What it runs,
it does not alter. And it touches no tape but the two active ones and those that an instruction
names, and these grow at most.

The argument goes by the tree of an instruction, for one step of the run, and then by the number of
steps. That a run finds nothing but such code is told by where the tables of a machine come from,
wherever calls have led before.

Results:
1. `Bank.framed_of_serve`: what an instruction on one tape changes in a bank.
2. `Op.Within.perform`, `Machine.Ruled.dispatch`: an instruction and a step change nothing else.
3. `Recorded.kept_tablesFromRules`: a table is always made from the first rules of its state.
4. `Recorded.Arises.framed`: what a run of rules leaves alone, wherever calls have led before.
-/

namespace TapeMachine

variable {I O W S α : Type}

/-! ## Tapes -/

namespace Tape

variable {t t' : Tape S}

/-- The snapshot is the same and no cell is lost. -/
structure Grows (t t' : Tape S) : Prop where
  snapshot_eq : t'.snapshot = t.snapshot
  count_le : t.storage.count ≤ t'.storage.count

theorem Grows.refl (t : Tape S) : t.Grows t := ⟨rfl, Nat.le_refl _⟩

theorem Grows.trans {t₁ t₂ t₃ : Tape S} (h : t₁.Grows t₂) (h' : t₂.Grows t₃) : t₁.Grows t₃ :=
  ⟨h'.snapshot_eq.trans h.snapshot_eq, Nat.le_trans h.count_le h'.count_le⟩

theorem grows_of_read {v : S} (h : t.read = .ok (v, t')) : t.Grows t' := by
  unfold read at h
  split at h
  · cases h
    exact ⟨rfl, Nat.le_refl _⟩
  · cases h

theorem grows_of_write [BEq S] {v : S} {old : Option S} (h : t.write v = .ok (old, t')) :
    t.Grows t' := by
  unfold write at h
  split at h
  · cases h
  · split at h
    · cases h
      exact .refl t
    · split at h
      · cases h
      · next storage hs =>
        cases h
        obtain ⟨-, hlist⟩ := t.storage.toList_set hs
        refine ⟨rfl, Nat.le_of_eq ?_⟩
        rw [← Sequence.length_toList, ← Sequence.length_toList, hlist, List.length_set]

/-- A move adds a cell at most. -/
theorem grows_of_move {direction : Direction} {blank : Option S} {shift : Shift}
    (h : t.move direction blank = .ok (shift, t')) : t.Grows t' := by
  cases direction with
  | left =>
    simp only [move, moveLeft] at h
    split at h
    · cases h
    · split at h
      · split at h
        · cases h
        · cases h
          exact ⟨rfl, by simp⟩
      · split at h
        · split at h
          · cases h
          · cases h
            exact ⟨rfl, by simp⟩
        · cases h
          exact ⟨rfl, Nat.le_refl _⟩
  | right =>
    simp only [move, moveRight] at h
    split at h
    · cases h
    · split at h
      · split at h
        · cases h
        · cases h
          exact ⟨rfl, by simp⟩
      · cases h
        exact ⟨rfl, Nat.le_refl _⟩

end Tape

/-! ## Banks -/

/-- Which tape is active, the blank, how many tapes there are and their snapshots are the same, and
no tape has lost a cell. Only the active tape and those that are pinned may have changed at all. -/
structure Bank.Framed (pins : List Nat) (b b' : Bank S) : Prop where
  active_eq : b'.active = b.active
  blank_eq : b'.blank = b.blank
  len_eq : b'.tapes.len = b.tapes.len
  grows : ∀ {i : Nat} {t t' : Tape S}, b.tapes.items[i]? = some t → b'.tapes.items[i]? =
    some t' → t.Grows t'
  spared : ∀ {i : Nat}, i ≠ b.active → i ∉ pins → b'.tapes.items[i]? = b.tapes.items[i]?

namespace Bank

variable {pins : List Nat} {b b' b'' : Bank S}

theorem Framed.refl (pins : List Nat) (b : Bank S) : b.Framed pins b where
  active_eq := rfl
  blank_eq := rfl
  len_eq := rfl
  grows ht ht' := Option.some.inj (ht.symm.trans ht') ▸ .refl _
  spared _ _ := rfl

theorem Framed.trans (h : b.Framed pins b') (h' : b'.Framed pins b'') : b.Framed pins b'' where
  active_eq := h'.active_eq.trans h.active_eq
  blank_eq := h'.blank_eq.trans h.blank_eq
  len_eq := h'.len_eq.trans h.len_eq
  grows {i t t''} ht ht'' := by
    have lt : i < b'.tapes.items.length :=
      Nat.lt_of_lt_of_eq (List.getElem?_eq_some_iff.1 ht).1 h.len_eq.symm
    have ht' := List.getElem?_eq_getElem lt
    exact (h.grows ht ht').trans (h'.grows ht' ht'')
  spared ne free := (h'.spared (h.active_eq ▸ ne) free).trans (h.spared ne free)

/-- Work on the active tape or a pinned one, on which it loses nothing. -/
theorem framed_of_update {tape : Option Nat} (pinned : ∀ index ∈ tape, index ∈ pins) {a : α}
    {work : Tape S → Except MachineError (α × Tape S)}
    (grows : ∀ {t a t'}, work t = .ok (a, t') → t.Grows t')
    (h : b.update (b.indexOf tape) work = .ok (a, b')) : b.Framed pins b' := by
  obtain ⟨t, t', ht, hw, rfl⟩ := update_eq_ok_iff.1 h
  have there : b.tapes.items[b.indexOf tape]? = some t := tape_eq_ok_iff.1 ht
  refine ⟨rfl, rfl, List.length_set, fun {i u u'} hu hu' => ?_, fun {i} ne free => ?_⟩
  · by_cases hi : b.indexOf tape = i
    · subst hi
      cases there.symm.trans hu
      cases (List.getElem?_set_self (List.getElem?_eq_some_iff.1 there).1).symm.trans hu'
      exact grows hw
    · rw [show (b.put (b.indexOf tape) t').tapes.items[i]? = _ from List.getElem?_set_ne hi] at hu'
      cases hu.symm.trans hu'
      exact .refl u
  · refine List.getElem?_set_ne fun hi => ?_
    cases tape with
    | none => exact ne hi.symm
    | some index => exact free (hi ▸ pinned index rfl)

theorem framed_of_tracedRead {event : S × TapeEvent S}
    (h : b.tracedRead (b.indexOf none) = .ok (event, b')) :
    b.Framed pins b' := by
  have pinned : ∀ index ∈ (none : Option Nat), index ∈ pins := nofun
  refine framed_of_update pinned (fun {t a t'} hw => ?_) h
  split at hw
  · cases hw
  · next hr =>
    cases hw
    exact Tape.grows_of_read hr

/-- An instruction on one tape touches no other one. -/
theorem framed_of_serve [BEq S] {instruction : Instruction S}
    (pinned : ∀ index ∈ instruction.tape?, index ∈ pins) {reply : Traced S (Reply S)}
    (h : b.serve instruction.request = .ok (reply, b')) : b.Framed pins b' := by
  cases instruction with
  | write tape value =>
    obtain ⟨⟨event, bank⟩, hw, he⟩ := exists_of_map_eq_ok h
    cases he
    refine framed_of_update pinned (fun {t a t'} hw => ?_) hw
    split at hw
    · cases hw
    · next hr =>
      cases hw
      exact Tape.grows_of_write hr
    · next hr =>
      cases hw
      exact Tape.grows_of_write hr
  | move tape direction =>
    obtain ⟨⟨event, bank⟩, hm, he⟩ := exists_of_map_eq_ok h
    cases he
    refine framed_of_update pinned (fun {t a t'} hm => ?_) hm
    split at hm
    · cases hm
    · next hr =>
      cases hm
      exact Tape.grows_of_move hr

end Bank

/-! ## Instructions of single tapes -/

namespace Op

/-- The instruction is made of instructions on single tapes; there is no code in it. -/
def plain : Op I O W → Bool
  | .input _ | .output _ => true
  | .andThen first second => first.plain && second.plain
  | .custom _ => false

/-- The input tapes that the instruction names. -/
def inputPins : Op I O W → List Nat
  | .input i => i.tape?.toList
  | .andThen first second => first.inputPins ++ second.inputPins
  | .output _ | .custom _ => []

/-- The output tapes that the instruction names. -/
def outputPins : Op I O W → List Nat
  | .output i => i.tape?.toList
  | .andThen first second => first.outputPins ++ second.outputPins
  | .input _ | .custom _ => []

/-- The instruction is plain and names no other tapes than these. -/
structure Within (inputs outputs : List Nat) (op : Op I O W) : Prop where
  plain : op.plain = true
  inputs : ∀ i ∈ op.inputPins, i ∈ inputs
  outputs : ∀ i ∈ op.outputPins, i ∈ outputs

end Op

namespace Rule

def ops {P : Type} (r : Rule I P) : List P := r.write.toList ++ r.moves.toList ++ r.fallback.toList

/-- All instructions of the rule are plain. -/
def plain (r : Rule I (Op I O W)) : Bool := r.ops.all Op.plain

def inputPins (r : Rule I (Op I O W)) : List Nat := r.ops.flatMap Op.inputPins

def outputPins (r : Rule I (Op I O W)) : List Nat := r.ops.flatMap Op.outputPins

end Rule

/-! ## What a run does not alter -/

/-- Configuration, rules, tables, bindings, the default state and the numbers of bindings made and
of rules declared and built are the same; so are the banks, but for what may happen on active and
pinned tapes. -/
structure Machine.Framed (inputs outputs : List Nat) (m m' : Machine I O W) : Prop where
  config_eq : m'.config = m.config
  rules_eq : m'.rules = m.rules
  tables_eq : m'.tables = m.tables
  bindings_eq : m'.registry.bindings = m.registry.bindings
  default_eq : m'.registry.default = m.registry.default
  states_eq : m'.counters.states = m.counters.states
  declared_eq : m'.counters.rulesDeclared = m.counters.rulesDeclared
  built_eq : m'.counters.rulesBuilt = m.counters.rulesBuilt
  inputs : m.inputs.Framed inputs m'.inputs
  outputs : m.outputs.Framed outputs m'.outputs

namespace Machine.Framed

variable {inputs outputs : List Nat}

theorem refl (m : Machine I O W) : m.Framed inputs outputs m :=
  ⟨rfl, rfl, rfl, rfl, rfl, rfl, rfl, rfl, .refl _ _, .refl _ _⟩

theorem trans {m₁ m₂ m₃ : Machine I O W} (h : m₁.Framed inputs outputs m₂)
    (h' : m₂.Framed inputs outputs m₃) :
    m₁.Framed inputs outputs m₃ where
  config_eq := h'.config_eq.trans h.config_eq
  rules_eq := h'.rules_eq.trans h.rules_eq
  tables_eq := h'.tables_eq.trans h.tables_eq
  bindings_eq := h'.bindings_eq.trans h.bindings_eq
  default_eq := h'.default_eq.trans h.default_eq
  states_eq := h'.states_eq.trans h.states_eq
  declared_eq := h'.declared_eq.trans h.declared_eq
  built_eq := h'.built_eq.trans h.built_eq
  inputs := h.inputs.trans h'.inputs
  outputs := h.outputs.trans h'.outputs

theorem withInputs {m : Machine I O W} {bank : Bank I} (h : m.inputs.Framed inputs bank) :
    m.Framed inputs outputs { m with inputs := bank } :=
  ⟨rfl, rfl, rfl, rfl, rfl, rfl, rfl, rfl, h, .refl _ _⟩

theorem withOutputs {m : Machine I O W} {bank : Bank O} (h : m.outputs.Framed outputs bank) :
    m.Framed inputs outputs { m with outputs := bank } :=
  ⟨rfl, rfl, rfl, rfl, rfl, rfl, rfl, rfl, .refl _ _, h⟩

/-- To be in another state and to count a transition alters nothing. -/
theorem moved (m : Machine I O W) (state : Int) (transitions : Nat) :
    m.Framed inputs outputs
      { m with registry := m.registry.setCurrent state, counters.transitions := transitions } :=
  ⟨rfl, rfl, rfl, rfl, rfl, rfl, rfl, rfl, .refl _ _, .refl _ _⟩

end Machine.Framed

/-! ## Instructions -/

namespace Session

variable {inputs outputs : List Nat} {s s' : Session I O W}

theorem framed_of_onInputs {work : Bank I → Except MachineError (Bank.Traced I α × Bank I)}
    (framed : ∀ {a bank}, work s.machine.inputs = .ok (a, bank) →
      s.machine.inputs.Framed inputs bank)
    {result : Except MachineError α} (h : onInputs work s = (result, s')) :
    s.machine.Framed inputs outputs s'.machine := by
  rcases onInputs_cases h with ⟨e, -, -, rfl⟩ | ⟨a, event, bank, hb, -, hm, -⟩
  · exact .refl _
  · rw [hm]
    exact .withInputs (framed hb)

theorem framed_of_onOutputs {work : Bank O → Except MachineError (Bank.Traced O α × Bank O)}
    (framed : ∀ {a bank}, work s.machine.outputs = .ok (a, bank) →
      s.machine.outputs.Framed outputs bank)
    {result : Except MachineError α} (h : onOutputs work s = (result, s')) :
    s.machine.Framed inputs outputs s'.machine := by
  rcases onOutputs_cases h with ⟨e, -, -, rfl⟩ | ⟨a, event, bank, hb, -, hm, -⟩
  · exact .refl _
  · rw [hm]
    exact .withOutputs (framed hb)

theorem framed_of_readInput {result : Except MachineError I} (h : readInput none s = (result, s')) :
    s.machine.Framed inputs outputs s'.machine := by
  refine framed_of_onInputs (fun hb => ?_) h
  obtain ⟨⟨⟨value, event⟩, bank⟩, hr, he⟩ := exists_of_map_eq_ok hb
  cases he
  exact Bank.framed_of_tracedRead hr

theorem framed_of_transitionTo {target : Option Int}
    {result : Except MachineError (Transition (Action I O W))}
    (h : transitionTo (.goTo target) s = (result, s')) :
    s.machine.Framed inputs outputs s'.machine := by
  rcases transitionTo_cases h with
    ⟨e, state, -, -, -, rfl⟩ | ⟨-, -, rfl⟩ | ⟨state, action, -, -, -, rfl⟩
  · exact .refl _
  · rw [machine_recordTransition]
    exact .moved s.machine s.machine.registry.current _
  · rw [machine_recordTransition]
    exact .moved s.machine state _

end Session

/-- An execution that has a result, whatever it is, and leaves all but the tapes it may touch. -/
def Run.Frames (inputs outputs : List Nat) (x : Run (Session I O W) α) : Prop :=
  ∀ s, ∃ result s', x s = some (result, s') ∧ s.machine.Framed inputs outputs s'.machine

namespace Run.Frames

variable {β : Type} {inputs outputs : List Nat}

theorem ofAttempt {x : Attempt (Session I O W) α}
    (h : ∀ {s result s'}, x s = (result, s') → s.machine.Framed inputs outputs s'.machine) :
    Frames inputs outputs (Run.ofAttempt x) :=
  fun s => ⟨(x s).1, (x s).2, rfl, h rfl⟩

theorem bind {x : Run (Session I O W) α} {f : α → Run (Session I O W) β}
    (first : Frames inputs outputs x) (next : ∀ a, Frames inputs outputs (f a)) :
    Frames inputs outputs (x >>= f) := by
  intro s
  obtain ⟨result, t, ht, framed⟩ := first s
  cases result with
  | error e => exact ⟨_, t, Run.bind_of_error ht, framed⟩
  | ok a =>
    obtain ⟨result, u, hu, framed'⟩ := next a t
    exact ⟨result, u, (Run.bind_of_ok ht).trans hu, framed.trans framed'⟩

theorem pure (a : α) : Frames inputs outputs (Pure.pure a : Run (Session I O W) α) :=
  fun s => ⟨_, s, rfl, .refl _⟩

end Run.Frames

section Evaluation

variable [BEq I] [BEq O] {inputs outputs : List Nat}

/-- A plain instruction has a result and touches no other tapes than the active ones and those it
names. -/
theorem Op.Within.perform (invoke : Invocation I O W) :
    ∀ {op : Op I O W}, op.Within inputs outputs → Run.Frames inputs outputs (op.perform invoke)
  | .input i, within =>
    (Run.Frames.ofAttempt fun h => Session.framed_of_onInputs (fun hb =>
      Bank.framed_of_serve (fun index hi => within.inputs index (Option.mem_toList.2 hi)) hb)
      h).bind fun _ => .pure ()
  | .output i, within =>
    (Run.Frames.ofAttempt fun h => Session.framed_of_onOutputs (fun hb =>
      Bank.framed_of_serve (fun index hi => within.outputs index (Option.mem_toList.2 hi)) hb)
      h).bind fun _ => .pure ()
  | .andThen first second, within => by
    obtain ⟨plain, plain'⟩ := Bool.and_eq_true_iff.1 within.plain
    have hf : first.Within inputs outputs :=
      ⟨plain, fun i hi => within.inputs i (List.mem_append_left _ hi),
        fun i hi => within.outputs i (List.mem_append_left _ hi)⟩
    have hs : second.Within inputs outputs :=
      ⟨plain', fun i hi => within.inputs i (List.mem_append_right _ hi),
        fun i hi => within.outputs i (List.mem_append_right _ hi)⟩
    exact (hf.perform invoke).bind fun _ => hs.perform invoke
  | .custom _, within => nomatch within.plain

theorem Session.performAll_frames (invoke : Invocation I O W) {ops : List (Op I O W)}
    (within : ∀ op ∈ ops, op.Within inputs outputs) :
    Run.Frames inputs outputs (performAll (Op.perform invoke) ops) := by
  induction ops with
  | nil => exact .pure ()
  | cons op rest ih =>
    obtain ⟨hop, hrest⟩ := List.forall_mem_cons.1 within
    exact (hop.perform invoke).bind fun _ => ih hrest

end Evaluation

/-! ## Steps -/

/-- Every bound action dispatches, and every table is made of rules whose instructions are plain and
name no other tapes than these. -/
structure Machine.Ruled (inputs outputs : List Nat) (m : Machine I O W) : Prop where
  bound : ∀ {state action}, m.registry.get? state = some action → action = .dispatch
  tables : ∀ t ∈ m.tables.items, ∀ e ∈ t.entries, ∃ r : Rule I (Op I O W), e = r.entry ∧
    ∀ op ∈ r.ops, op.Within inputs outputs

variable {inputs outputs : List Nat} {s : Session I O W}

namespace Machine.Ruled

theorem of_framed {m m' : Machine I O W} (ruled : m.Ruled inputs outputs)
    (h : m.Framed inputs outputs m') :
    m'.Ruled inputs outputs where
  bound {state action} hg := by
    have before : m.registry.get? state = some action := by
      rw [← hg, Registry.get?, Registry.get?, h.bindings_eq]
    exact ruled.bound before
  tables t ht := ruled.tables t (h.tables_eq ▸ ht)

/-- Where a transition of a rule leads, the machine dispatches or halts. -/
theorem onward_of_transitionTo (ruled : s.machine.Ruled inputs outputs) {target : Option Int}
    {transition : Transition (Action I O W)} {s' : Session I O W}
    (h : Session.transitionTo (.goTo target) s = (.ok transition, s')) :
    ∃ more, transition = Session.onward more := by
  rcases Session.transitionTo_cases h with
    ⟨e, state, -, -, he, -⟩ | ⟨-, he, -⟩ | ⟨state, action, -, hg, he, -⟩
  · cases he
  · cases he
    exact ⟨false, rfl⟩
  · cases he
    cases ruled.bound hg
    exact ⟨true, rfl⟩

variable [BEq I] [BEq O]

theorem runBranch (ruled : s.machine.Ruled inputs outputs) (invoke : Invocation I O W)
    {branch : Branch (Op I O W)} (within : ∀ op ∈ branch.ops, op.Within inputs outputs) :
    ∃ result s', Session.runBranch (Op.perform invoke) branch s = some (result, s') ∧
      s.machine.Framed inputs outputs s'.machine ∧ ∀ t, result = .ok t → ∃ more,
      t = Session.onward more := by
  obtain ⟨performed, t, ht, framed⟩ := Session.performAll_frames invoke within s
  cases performed with
  | error e => exact ⟨_, t, Run.bind_of_error ht, framed, nofun⟩
  | ok _ =>
    cases hx : Session.transitionTo (.goTo branch.next) t with
    | mk result u =>
      refine ⟨result, u, (Run.bind_of_ok ht).trans (congrArg some hx),
        framed.trans (Session.framed_of_transitionTo hx), fun transition hr => ?_⟩
      subst hr
      exact (ruled.of_framed framed).onward_of_transitionTo hx

/-- The branch that a table chooses is a branch of a rule whose instructions stay within bounds. -/
theorem exists_chosen (ruled : s.machine.Ruled inputs outputs) {branch : Action I O W}
    {t : Session I O W} (hs : Session.selectBranch s = (.ok branch, t)) :
    ∃ chosen : Branch (Op I O W),
      (∀ f, Action.eval (f + 1) branch = Session.runBranch (Op.perform (Action.eval f)) chosen) ∧
      ∀ op ∈ chosen.ops, op.Within inputs outputs := by
  obtain ⟨read, hr, -⟩ := Session.selectBranch_cases hs
  obtain ⟨table, ht, e, he, hbranch⟩ := Session.exists_entry_of_selectBranch hs
  have ruled' : t.machine.Ruled inputs outputs := ruled.of_framed (Session.framed_of_readInput hr)
  obtain ⟨r, rfl, within⟩ := ruled'.tables table ht e he
  rcases hbranch with rfl | rfl
  · exact ⟨r.matching, fun f => Session.eval_onMatch f r,
      fun op hop => within op (List.mem_append_left _ hop)⟩
  · exact ⟨r.missing, fun f => Session.eval_onMiss f r,
      fun op hop => within op (List.mem_append_right _ hop)⟩

/-- A step ends with an error, halts, or leads to another dispatch, and leaves the program as it
is. -/
theorem dispatch (ruled : s.machine.Ruled inputs outputs) (f : Nat) :
    ∃ result s', Action.eval (f + 2) .dispatch s = some (result, s') ∧
      s.machine.Framed inputs outputs s'.machine ∧ ∀ t, result = .ok t → ∃ more,
      t = Session.onward more := by
  cases hs : Session.selectBranch s with
  | mk found t =>
    obtain ⟨read, hr, -⟩ := Session.selectBranch_cases hs
    have framed : s.machine.Framed inputs outputs t.machine := Session.framed_of_readInput hr
    cases found with
    | error e => exact ⟨_, t, Session.eval_dispatch_of_error hs, framed, nofun⟩
    | ok branch =>
      obtain ⟨chosen, heval, within⟩ := ruled.exists_chosen hs
      obtain ⟨result, u, hu, framed', onward⟩ :=
        (ruled.of_framed framed).runBranch (Action.eval f) within
      exact ⟨result, u, by rw [Session.eval_dispatch_of_ok hs, heval, hu],
        framed.trans framed', onward⟩

/-- However many steps a run makes, it stands before another dispatch or has ended, and has left the
program as it is. -/
theorem advance (ruled : s.machine.Ruled inputs outputs) (f n : Nat) :
    ∃ x, Session.advance (Action.eval (f + 2)) n .dispatch s = some x ∧
      s.machine.Framed inputs outputs x.state.machine ∧ ∀ next s', x = .going next s' →
      next = .dispatch := by
  -- induction on the number of steps; the first one leads to a machine of the same rules
  induction n generalizing s with
  | zero => exact ⟨.going .dispatch s, rfl, .refl _, fun _ _ h => by cases h; rfl⟩
  | succ n ih =>
    obtain ⟨result, t, ht, framed, onward⟩ := ruled.dispatch f
    cases result with
    | error e =>
      exact ⟨.ended (.error e) t, Session.advance_of_error ht, framed, fun _ _ h => by cases h⟩
    | ok transition =>
      obtain ⟨more, rfl⟩ := onward transition rfl
      cases more with
      | false =>
        exact ⟨.ended (.ok ()) t, Session.advance_of_halt ht, framed, fun _ _ h => by cases h⟩
      | true =>
        obtain ⟨x, hx, framed', goes⟩ := ih (ruled.of_framed framed)
        exact ⟨x, (Session.advance_of_enter ht).trans hx, framed.trans framed', goes⟩

/-- From where a run stands it goes on in the same way. -/
theorem advance_add (ruled : s.machine.Ruled inputs outputs) (f n k : Nat) :
    ∃ x y, Session.advance (Action.eval (f + 2)) n .dispatch s = some x ∧
      Session.advance (Action.eval (f + 2)) (n + k) .dispatch s = some y ∧
      s.machine.Framed inputs outputs x.state.machine ∧
      x.state.machine.Framed inputs outputs y.state.machine := by
  obtain ⟨x, hx, framed, goes⟩ := ruled.advance f n
  cases x with
  | ended result t =>
    exact ⟨_, _, hx, Session.advance_of_ended hx (Nat.le_add_right n k), framed, .refl _⟩
  | going next t =>
    cases goes next t rfl
    obtain ⟨y, hy, framed', -⟩ := (ruled.of_framed framed).advance f k
    refine ⟨_, y, hx, ?_, framed, framed'⟩
    rw [Session.advance_add, hx]
    exact hy

end Machine.Ruled

/-! ## Where tables come from -/

namespace Machine

/-- The rules that the tables were compiled from. Rules are only added behind, so they are the first
ones of their states. -/
def builtRules (m : Machine I O W) : List (Rule I (Op I O W)) :=
  m.tables.items.flatMap fun t => (m.rules.rulesFor t.state).take t.len

/-- The input tapes that built rules name. -/
def inputPins (m : Machine I O W) : List Nat := m.builtRules.flatMap Rule.inputPins

/-- The output tapes that built rules name. -/
def outputPins (m : Machine I O W) : List Nat := m.builtRules.flatMap Rule.outputPins

/-- Every table has the entries of the first rules of its state. -/
def TablesFromRules (m : Machine I O W) : Prop :=
  ∀ t ∈ m.tables.items, t.entries <+: (m.rules.rulesFor t.state).map Rule.entry

variable {m m' : Machine I O W}

theorem TablesFromRules.of_unaltered (h : m.TablesFromRules) (same : m.Unaltered m') :
    m'.TablesFromRules := by
  intro t ht
  rw [same.tables_eq] at ht
  rw [same.rules_eq]
  exact h t ht

/-- A rule that is declared later is behind those that the tables were made from. -/
theorem TablesFromRules.declare (h : m.TablesFromRules) (rule : Rule I (Op I O W)) :
    (m.declared rule).TablesFromRules := by
  intro t ht
  show t.entries <+: ((m.rules.add rule).rulesFor t.state).map Rule.entry
  rw [RuleSet.rulesFor_add, List.map_append]
  exact (h t ht).trans (List.prefix_append _ _)

theorem TablesFromRules.build (m : Machine I O W) : m.built.TablesFromRules := by
  intro t ht
  rw [built_eq] at ht ⊢
  obtain ⟨state, -, rfl⟩ := List.mem_map.1 ht
  exact List.prefix_rfl

theorem TablesFromRules.install (h : m.TablesFromRules) (state : Int) :
    ((m.dropped state).installed state).TablesFromRules := by
  intro t ht
  rcases List.mem_append.1 ht with ht | ht
  · exact h t (List.mem_of_mem_eraseP ht)
  · rw [List.mem_singleton.1 ht]
    exact List.prefix_rfl

theorem Effect.tablesFromRules [BEq I] [BEq O] {call : Machine.Call I O W}
    {result : Except MachineError (Answer I O (Action I O W))} (e : m.Effect call result m')
    (h : m.TablesFromRules) : m'.TablesFromRules := by
  cases e with
  | declared rule => exact h.declare rule
  | buildRefused => exact nofun
  | built => exact .build m
  | stateBuilt => exact h.install _
  | _ => exact h

/-- If all bindings dispatch and all built rules are plain, the machine runs nothing else. -/
theorem ruled_of_tablesFromRules (h : m.TablesFromRules)
    (bound : ∀ state action, m.registry.get? state = some action → action = .dispatch)
    (plain : ∀ rule ∈ m.builtRules, rule.plain = true) : m.Ruled m.inputPins m.outputPins where
  bound hg := bound _ _ hg
  tables t ht e he := by
    have entries : t.entries = ((m.rules.rulesFor t.state).take t.len).map Rule.entry := by
      rw [List.map_take]
      exact List.prefix_iff_eq_take.1 (h t ht)
    rw [entries] at he
    obtain ⟨r, hr, rfl⟩ := List.mem_map.1 he
    have built : r ∈ m.builtRules := List.mem_flatMap.2 ⟨t, ht, hr⟩
    refine ⟨r, rfl,
      fun op hop => ⟨List.all_eq_true.1 (plain r built) op hop, fun i hi => ?_, fun i hi => ?_⟩⟩
    · exact List.mem_flatMap.2 ⟨r, built, List.mem_flatMap.2 ⟨op, hop, hi⟩⟩
    · exact List.mem_flatMap.2 ⟨r, built, List.mem_flatMap.2 ⟨op, hop, hi⟩⟩

end Machine

variable [BEq I] [BEq O]

/-- Every happening leaves the tables made from rules. -/
theorem Recorded.kept_tablesFromRules :
    Kept fun r : Recorded I O W => r.session.machine.TablesFromRules :=
  .of_unaltered (fun same h => h.of_unaltered same) (fun h => h) (fun _ h => h) (fun h => h)
    fun alone h hs => (Session.effect_of_serveAlone alone hs).tablesFromRules h

/-- A run from any start goes on or ends; where it stands after so many steps and after more of
them, nothing was altered but active and named tapes, which have lost no cell. -/
theorem Machine.Ruled.underway (ruled : s.machine.Ruled inputs outputs) (start : Start)
    (f n k : Nat) :
    ∃ x y, Session.underway (f + 2) n start s = some x ∧ Session.underway (f + 2)
      (n + k) start s = some y ∧
      s.machine.Framed inputs outputs x.state.machine ∧
      x.state.machine.Framed inputs outputs y.state.machine := by
  unfold Session.underway
  cases hb : Session.beginRun start s with
  | mk found entered =>
    rcases Session.beginRun_cases hb with ⟨e, -, rfl, rfl⟩ | ⟨action, hg, rfl, rfl⟩
    · exact ⟨_, _, rfl, rfl, .refl _, .refl _⟩
    · cases ruled.bound hg
      have framed : s.machine.Framed inputs outputs
          (Session.entering (Session.startState start s) s).machine := by
        rw [Session.machine_entering]
        exact .moved s.machine _ s.machine.counters.transitions
      obtain ⟨x, y, hx, hy, framed', later⟩ := (ruled.of_framed framed).advance_add f n k
      exact ⟨x, y, hx, hy, framed.trans framed', later⟩

/-- Suppose a machine has come about in any way, every bound action dispatches, and the rules that
were built have only instructions that read, write and move on single tapes, one after the other.
Then a run from any start, after every number of steps, whether it goes on or has ended, has left
configuration, rules, tables, bindings, default state, blanks, active tapes, the number of tapes,
all snapshots and the other counters as they were; every tape that is neither active nor named by a
built rule is the same; and from any such moment to any later one no tape has lost a cell. What a
run is answered with is where it so stands when it ends, before its tapes may be reset. -/
theorem Recorded.Arises.framed {config : Config} {world : W} {r : Recorded I O W}
    (h : r.Arises (Session.fresh config world)) (hs : r.session = s)
    (bound : ∀ state action, s.machine.registry.get? state = some action → action = .dispatch)
    (plain : ∀ rule ∈ s.machine.builtRules, rule.plain = true) (start : Start) :
    (∀ f n k, ∃ x y, Session.underway (f + 2) n start s = some x ∧
      Session.underway (f + 2) (n + k) start s = some y ∧
      s.machine.Framed s.machine.inputPins s.machine.outputPins x.state.machine ∧
      x.state.machine.Framed s.machine.inputPins s.machine.outputPins y.state.machine) ∧
    ∀ fuel result final, Session.execute fuel start s = some (result, final) →
      ∃ x, Session.underway (fuel + 2) fuel start s = some x ∧
        s.machine.Framed s.machine.inputPins s.machine.outputPins x.state.machine ∧
        Session.finish x = some (result, final) := by
  subst hs
  have tables : r.session.machine.TablesFromRules := h _ kept_tablesFromRules nofun
  have ruled := Machine.ruled_of_tablesFromRules tables bound plain
  refine ⟨ruled.underway start, fun fuel result final hrun => ?_⟩
  rw [Session.execute_eq_underway] at hrun
  obtain ⟨x, hx, hend⟩ := Option.bind_eq_some_iff.1 hrun
  have hx' := Session.underway_within (Nat.le_add_right fuel 2) hx
  obtain ⟨y, -, hy, -, framed, -⟩ := ruled.underway start fuel fuel 0
  cases hx'.symm.trans hy
  exact ⟨x, hx', framed, hend⟩

/-- A rule works the active tapes and writes to a pinned one. A run goes on twice and halts: the
active input tape has grown, the pinned one is written to, and the third one is as it was. -/
theorem Recorded.Arises.framed_third_tape :
    ∃ s : Session Bool Bool Unit, s.machine.inputs.active = 0 ∧ s.machine.inputPins = [1] ∧
      (∃ x y, Session.underway 2 2 (.state 0) s = some x ∧
        Session.underway 2 5 (.state 0) s = some y ∧
        s.machine.Framed [1] [] x.state.machine ∧ x.state.machine.Framed [1] [] y.state.machine) ∧
      s.machine.inputs.tapes.items.map (fun t => (t.storage.toList, t.head)) =
        [([true, true], 0), ([true], 0), ([false], 0)] ∧
      (Session.execute 5 (.state 0) s).map (fun x =>
        x.2.machine.inputs.tapes.items.map fun t => (t.storage.toList, t.head)) =
        some [([true, true, false], 2), ([false], 0), ([false], 0)] := by
  let rule : Rule Bool (Op Bool Bool Unit) :=
    { state := 0, read := true,
      write := some (.andThen (.input (.write (some 1) false)) (.moveInput .left)),
      moves := some (.output (.move none .left)), next := some 0,
      fallback := some (.writeOutput true) }
  let calls : List (Machine.Call Bool Bool Unit) :=
    [.declare rule, .build, .input .add, .input .add, .input .add, .input (.select 0),
      .input (.setBlank false),
      .input (.load none (.ofList [true, true]) none),
      .input (.load (some 1) (.ofList [true]) none),
      .input (.load (some 2) (.ofList [false]) none), .output .add, .output (.setBlank false)]
  let s : Session Bool Bool Unit :=
    { machine :=
        { inputs :=
            { tapes :=
                ⟨[{ storage := .ofList [true, true] }, { storage := .ofList [true] },
                  { storage := .ofList [false] }]⟩
              blank := some false }
          outputs := { tapes := ⟨[{}]⟩, blank := some false }
          registry := { bindings := [(0, .dispatch)] }
          rules := ⟨[rule]⟩
          tables := ⟨[⟨0, [rule.entry]⟩]⟩
          counters := ⟨1, 1, 1, 0⟩ }
      world := () }
  have made : ∃ record, Recorded.serveAll 1 calls ⟨Session.fresh {} (), []⟩ =
      some ⟨s, record⟩ := ⟨_, rfl⟩
  obtain ⟨record, hr⟩ := made
  have arises : Recorded.Arises (Session.fresh {} ()) ⟨s, record⟩ :=
    (throughout_of_reached (Recorded.Reached.start.serveAll (fun _ _ => trivial) hr)).1
  have bound (state : Int) (action : Action Bool Bool Unit)
    (hg : s.machine.registry.get? state = some action) :
      action = .dispatch := by
    obtain ⟨binding, hf, rfl⟩ := Option.map_eq_some_iff.1 hg
    rw [List.mem_singleton.1 (List.mem_of_find?_eq_some hf)]
  have plain : ∀ rule' ∈ s.machine.builtRules, rule'.plain = true := List.forall_mem_singleton.2 rfl
  exact ⟨s, rfl, rfl, (arises.framed rfl bound plain (.state 0)).1 0 2 3, by decide +kernel,
    by decide +kernel⟩

end TapeMachine
