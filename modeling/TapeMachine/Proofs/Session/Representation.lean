import TapeMachine.Proofs.Session.Calls

/-!
# What every session can rely on

Some twenty calls change a machine, and code may make any of them in the middle of a run. Here is
what none of them breaks: how the store of tables, the counter of rules, the active tapes and the
two pointers into the bindings belong together.

What a table holds is told by the past: the rules its state had when it was last built. So the
invariant is one of a session with its record, and `coveredReads` reads the past off the record.

Results:
1. `Effect.wellFormed`: no call that runs no code breaks a well-formed machine.
2. `Effect.rules_eq`, `Effect.conditions_eq`: what such a call does to the rules and to the table of
   a state.
3. `Recorded.kept_represented`: every happening keeps the invariant.
4. `Session.Reached.represented`: so it holds wherever calls lead, and at every moment on the way.
-/

namespace TapeMachine

variable {I O W S A : Type}

/-! ## Banks -/

namespace Bank

/-- The active tape exists, or there is no tape and the index is 0. -/
def Steady (b : Bank S) : Prop := b.active < b.tapes.len ∨ b.active = 0 ∧ b.tapes.len = 0

theorem steady_empty : ({} : Bank S).Steady := .inr ⟨rfl, rfl⟩

variable {b b' : Bank S}

theorem Steady.lt (h : b.Steady) (some_tape : b.tapes.len ≠ 0) : b.active < b.tapes.len :=
  h.resolve_right fun h' => some_tape h'.2

theorem steady_add (b : Bank S) : b.add.2.Steady := by
  refine .inl ?_
  simp only [add, Stack.push, Stack.len, List.length_append, List.length_singleton]
  omega

theorem steady_select {index : Nat} (h : b.select index = .ok b') : b'.Steady := by
  unfold select at h
  split at h
  · next t ht =>
    cases h
    obtain ⟨hi, -⟩ := List.getElem?_eq_some_iff.1 (Stack.get_eq_ok_iff.1 ht)
    exact .inl hi
  · cases h

theorem Steady.put (h : b.Steady) (index : Nat) (t : Tape S) : (b.put index t).Steady := by
  simpa only [Steady, Bank.put, Stack.len, List.length_set] using h

theorem Steady.adjust (h : b.Steady) {index : Nat} {change : Tape S → Tape S}
    (ha : b.adjust index change = .ok b') : b'.Steady := by
  unfold Bank.adjust at ha
  split at ha
  · cases ha
  · cases ha
    exact h.put _ _

theorem Steady.update {α : Type} (h : b.Steady) {index : Nat} {a : α}
    {work : Tape S → Except MachineError (α × Tape S)} (hu : b.update index work = .ok (a, b')) :
    b'.Steady := by
  obtain ⟨t, t', -, -, rfl⟩ := update_eq_ok_iff.1 hu
  exact h.put _ _

theorem Steady.reset (h : b.Steady) : b.reset.Steady := by
  simpa only [Steady, Bank.reset, Stack.map, Stack.len, List.length_map] using h

/-- No request leaves a bank without its active tape. -/
theorem Steady.serve [BEq S] (h : b.Steady) {request : Request S} {answer : Traced S (Reply S)}
    (hs : b.serve request = .ok (answer, b')) : b'.Steady := by
  cases request with
  | add =>
    cases hs
    exact steady_add b
  | select index =>
    obtain ⟨_, hb, he⟩ := exists_of_map_eq_ok hs
    cases he
    exact steady_select hb
  | load tape storage head =>
    obtain ⟨_, hb, he⟩ := exists_of_map_eq_ok hs
    cases he
    exact h.adjust hb
  | setHead tape head =>
    obtain ⟨_, hb, he⟩ := exists_of_map_eq_ok hs
    cases he
    exact h.adjust hb
  | setSnapshot tape snapshot =>
    obtain ⟨_, hb, he⟩ := exists_of_map_eq_ok hs
    cases he
    exact h.adjust hb
  | setBlank blank =>
    cases hs
    exact h
  | unsetBlank =>
    cases hs
    exact h
  | read tape =>
    obtain ⟨⟨⟨value, event⟩, bank⟩, hb, he⟩ := exists_of_map_eq_ok hs
    cases he
    exact h.update hb
  | write tape value =>
    obtain ⟨⟨event, bank⟩, hb, he⟩ := exists_of_map_eq_ok hs
    cases he
    exact h.update hb
  | move tape direction =>
    obtain ⟨⟨event, bank⟩, hb, he⟩ := exists_of_map_eq_ok hs
    cases he
    exact h.update hb

end Bank

/-! ## Bindings -/

namespace Registry

/-- Each of the two pointers names a bound state, or the state that it named at first. -/
structure Anchored (r : Registry A) : Prop where
  current : r.current = defaultState ∨ r.contains r.current = true
  default : r.default = defaultState ∨ r.contains r.default = true

theorem anchored_erase (r : Registry A) : r.erase.Anchored := ⟨.inl rfl, .inl rfl⟩

variable {r r' : Registry A}

theorem contains_of_get? {state : Int} {action : A} (h : r.get? state = some action) :
    r.contains state = true := by rw [contains, h]; rfl

/-- More bindings do no harm. -/
theorem Anchored.mono (h : r.Anchored) (hc : r'.current = r.current) (hd : r'.default = r.default)
    (more : ∀ state, r.contains state = true → r'.contains state = true) : r'.Anchored where
  current := by rw [hc]; exact h.current.imp_right (more _)
  default := by rw [hd]; exact h.default.imp_right (more _)

theorem Anchored.add (h : r.Anchored) (state : Int) (action : A) :
    (r.add state action).Anchored := by
  refine h.mono rfl rfl fun other ho => ?_
  rw [contains, get?_add]
  split
  · rfl
  · exact ho

theorem Anchored.setCurrent (h : r.Anchored) {state : Int} {action : A}
    (bound : r.get? state = some action) : (r.setCurrent state).Anchored :=
  ⟨.inr (contains_of_get? (r := r) bound), h.default⟩

theorem Anchored.setDefault (h : r.Anchored) {state : Int} {action : A}
    (bound : r.get? state = some action) : (r.setDefault state).Anchored :=
  ⟨h.current, .inr (contains_of_get? (r := r) bound)⟩

end Registry

/-! ## Machines -/

namespace Machine

/-- What holds of a machine whatever was done to it. -/
structure WellFormed (m : Machine I O W) : Prop where
  /-- There is one table at most for a state. -/
  single : (m.tables.items.map Table.state).Nodup
  filled : ∀ t ∈ m.tables.items, t.conditions ≠ []
  /-- A table has the first rules of its state; later ones may wait to be built. -/
  declared : ∀ t ∈ m.tables.items, t.conditions <+: (m.rules.rulesFor t.state).map Rule.read
  counted : m.counters.rulesDeclared = m.rules.len
  inputs : m.inputs.Steady
  outputs : m.outputs.Steady
  anchored : m.registry.Anchored

variable {m m' : Machine I O W}

theorem mem_of_compiled {state : Int} {t : Table I (Action I O W)} (h : m.compiled state = some t) :
    t ∈ m.tables.items ∧ t.state = state :=
  ⟨List.mem_of_find?_eq_some h, by simpa using List.find?_some h⟩

theorem conditions_tableOf (rs : RuleSet I (Op I O W)) (state : Int) :
    (rs.tableOf state).conditions = (rs.rulesFor state).map Rule.read := by
  rw [RuleSet.tableOf, Table.conditions, List.map_map]
  rfl

namespace WellFormed

theorem start (config : Config) : WellFormed ({ config := config } : Machine I O W) where
  single := List.nodup_nil
  filled := nofun
  declared := nofun
  counted := rfl
  inputs := Bank.steady_empty
  outputs := Bank.steady_empty
  anchored := ⟨.inl rfl, .inl rfl⟩

variable (h : m.WellFormed)
include h

/-- The table of a state, read off the rules of the machine. -/
theorem hasState_of_compiled {state : Int} {t : Table I (Action I O W)}
    (ht : m.compiled state = some t) : m.rules.hasState state = true := by
  obtain ⟨hmem, rfl⟩ := mem_of_compiled ht
  refine RuleSet.hasState_iff_rulesFor_ne_nil.2 fun hn => h.filled t hmem ?_
  have hp := h.declared t hmem
  rw [hn] at hp
  exact List.prefix_nil.1 hp

theorem withInputs {b : Bank I} (hb : b.Steady) : WellFormed { m with inputs := b } :=
  { h with inputs := hb }

theorem withOutputs {b : Bank O} (hb : b.Steady) : WellFormed { m with outputs := b } :=
  { h with outputs := hb }

theorem withRegistry {r : Registry (Action I O W)} (hr : r.Anchored) :
    WellFormed { m with registry := r } :=
  { h with anchored := hr }

theorem wound : m.wound.WellFormed :=
  { h with inputs := h.inputs.reset, outputs := h.outputs.reset }

theorem bound (state : Int) (action : Action I O W) : (m.bound state action).WellFormed :=
  { h with anchored := h.anchored.add state action }

theorem moved {r : Registry (Action I O W)} (hr : r.Anchored) : (m.moved r).WellFormed :=
  { h with anchored := hr }

theorem declare (rule : Rule I (Op I O W)) : (m.declared rule).WellFormed :=
  { h with
    declared := fun t ht => by
      refine (h.declared t ht).trans ?_
      show _ <+: ((m.rules.add rule).rulesFor t.state).map Rule.read
      rw [RuleSet.rulesFor_add, List.map_append]
      exact List.prefix_append _ _
    counted := by
      show m.counters.rulesDeclared + 1 = (m.rules.rules ++ [rule]).length
      rw [h.counted, List.length_append]
      rfl }

theorem cleared : WellFormed { m with tables := .empty } :=
  { h with single := List.nodup_nil, filled := nofun, declared := nofun }

/-- A machine whose tables are some of those before and the one of a state that had none left. -/
theorem install {state : Int} (declared : m.rules.hasState state = true) :
    ((m.dropped state).installed state).WellFormed where
  single := nodup_installed h.single
  filled t ht := by
    rcases List.mem_append.1 ht with ht | ht
    · exact h.filled t (List.mem_of_mem_eraseP ht)
    · rw [List.mem_singleton.1 ht]
      show (m.rules.tableOf state).conditions ≠ []
      rw [conditions_tableOf]
      simpa using RuleSet.hasState_iff_rulesFor_ne_nil.1 declared
  declared t ht := by
    rcases List.mem_append.1 ht with ht | ht
    · exact h.declared t (List.mem_of_mem_eraseP ht)
    · rw [List.mem_singleton.1 ht]
      show (m.rules.tableOf state).conditions <+: _
      rw [conditions_tableOf]
      exact List.prefix_rfl
  counted := h.counted
  inputs := h.inputs
  outputs := h.outputs
  anchored := h.anchored.add state .dispatch

theorem build : m.built.WellFormed := by
  have tables : m.built.tables.items = m.rules.states.map m.rules.tableOf := by rw [built_eq]
  exact {
    single := by
      rw [tables, List.map_map]
      exact (List.map_id m.rules.states).symm ▸ m.rules.nodup_states
    filled := fun t ht => by
      rw [tables] at ht
      obtain ⟨state, hs, rfl⟩ := List.mem_map.1 ht
      rw [conditions_tableOf]
      simpa using RuleSet.hasState_iff_rulesFor_ne_nil.1 (RuleSet.mem_states.1 hs)
    declared := fun t ht => by
      rw [tables] at ht
      obtain ⟨state, hs, rfl⟩ := List.mem_map.1 ht
      rw [conditions_tableOf, built_eq]
      exact List.prefix_rfl
    counted := by rw [built_eq]; exact h.counted
    inputs := by rw [built_eq]; exact h.inputs
    outputs := by rw [built_eq]; exact h.outputs
    anchored := h.anchored.mono (by rw [built_eq]) (by rw [built_eq]) fun state hs => by
      rw [Registry.contains, get?_built]
      split
      · rfl
      · exact hs }

end WellFormed

/-! ## What one call keeps -/

section Effect

variable [BEq I] [BEq O] {call : Machine.Call I O W}
  {result : Except MachineError (Answer I O (Action I O W))}

theorem Effect.wellFormed (e : m.Effect call result m') (h : m.WellFormed) : m'.WellFormed := by
  cases e with
  | configured update => exact { h with }
  | inputServed hs => exact h.withInputs (h.inputs.serve hs)
  | outputServed hs => exact h.withOutputs (h.outputs.serve hs)
  | reset => exact h.wound
  | bound state action => exact h.bound state action
  | shared hg => exact h.bound _ _
  | defaulted hg => exact h.withRegistry (h.anchored.setDefault hg)
  | erased => exact h.withRegistry (Registry.anchored_erase _)
  | halted => exact h.moved h.anchored
  | entered hs hg => exact h.moved (h.anchored.setCurrent hg)
  | declared rule => exact h.declare rule
  | buildRefused => exact h.cleared
  | built => exact h.build
  | stateBuilt hd => exact h.install hd
  | _ => exact h

end Effect

end Machine

/-! ## The past -/

namespace Happening

/-- The rule that was declared, if one was. -/
def rule? : Happening I O W → Option (Rule I (Op I O W))
  | .answered (.declare rule) _ => some rule
  | _ => none

/-- The state was built, alone or with all others. -/
def builds (state : Int) : Happening I O W → Bool
  | .answered .build (.ok _) => true
  | .answered (.buildState other) (.ok _) => other == state
  | _ => false

end Happening

/-- The rules declared in a record, in the order of their declaration. -/
def declaredRules : List (Moment I O W) → RuleSet I (Op I O W)
  | [] => .empty
  | m :: earlier =>
    match m.what.rule? with
    | some rule => (declaredRules earlier).add rule
    | none => declaredRules earlier

/-- What the rules of a state read that were declared when the state was last built; `none` if it
never was. Building covers the states that have rules. -/
def coveredReads (state : Int) : List (Moment I O W) → Option (List I)
  | [] => none
  | m :: earlier =>
    if m.what.builds state && (declaredRules earlier).hasState state then
      some (((declaredRules earlier).rulesFor state).map Rule.read)
    else coveredReads state earlier

/-! ## What one call does to rules and tables -/

namespace Machine.Effect

variable [BEq I] [BEq O] {m m' : Machine I O W} {call : Machine.Call I O W}
  {result : Except MachineError (Answer I O (Action I O W))}

theorem rules_eq (e : m.Effect call result m') :
    m'.rules = match (Happening.answered call (result.map fun _ => ())).rule? with
      | some rule => m.rules.add rule
      | none => m.rules := by
  cases e with
  | built =>
    rw [built_eq]
    rfl
  | _ => rfl

/-- The table of a state is replaced when the state is built; apart from that it stays. -/
theorem conditions_eq (e : m.Effect call result m') (h : m.WellFormed) (state : Int) :
    (m'.compiled state).map Table.conditions =
      if (Happening.answered call (result.map fun _ => ())).builds state &&
          m.rules.hasState state then
        some ((m.rules.rulesFor state).map Rule.read)
      else (m.compiled state).map Table.conditions := by
  have undeclared : m.rules.hasState state = false → m.compiled state = none := by
    intro hn
    cases hc : m.compiled state with
    | none => rfl
    | some t =>
      rw [h.hasState_of_compiled hc] at hn
      cases hn
  cases e with
  | buildRefused hn =>
    have hs : m.rules.hasState state = false := by simp [RuleSet.hasState, hn]
    rw [undeclared hs]
    rfl
  | built =>
    rw [compiled_built]
    cases hs : m.rules.hasState state with
    | true =>
      rw [RuleSet.compile_of_hasState hs, Option.map_some, conditions_tableOf]
      rfl
    | false =>
      rw [RuleSet.compile_of_not_hasState hs, undeclared hs]
      rfl
  | @stateBuilt other hd =>
    rw [compiled_installed h.single]
    by_cases he : state = other
    · subst he
      rw [if_pos rfl, Option.map_some, conditions_tableOf, hd]
      simp [Happening.builds, Except.map]
    · have hb : (other == state) = false := by simpa using Ne.symm he
      simp [Happening.builds, Except.map, he, hb]
  | _ => rfl

end Machine.Effect

/-! ## Sessions and their past -/

/-- The machine of the session is well-formed, its rules are those on record, and the table of each
state has the reads that its last building covered. -/
structure Recorded.Represented (r : Recorded I O W) : Prop where
  wellFormed : r.session.machine.WellFormed
  rules_eq : r.session.machine.rules = declaredRules r.record
  conditions_eq : ∀ state,
    (r.session.machine.compiled state).map Table.conditions = coveredReads state r.record

namespace Recorded.Represented

variable {r : Recorded I O W} (h : r.Represented)
include h

/-- What is neither a declaration nor a building does not count for the rules. -/
theorem note {what : Happening I O W} (rule : what.rule? = none)
    (builds : ∀ state, what.builds state = false) : (r.note what).Represented where
  wellFormed := h.wellFormed
  rules_eq := by
    rw [Recorded.note, declaredRules, rule]
    exact h.rules_eq
  conditions_eq state := by
    rw [Recorded.note, coveredReads, builds, Bool.false_and, if_neg Bool.false_ne_true]
    exact h.conditions_eq state

/-- Tapes, pointers and counters do not count for the rules. -/
theorem become {s : Session I O W} (wf : s.machine.WellFormed)
    (rules : s.machine.rules = r.session.machine.rules)
    (tables : s.machine.tables = r.session.machine.tables) : (r.become s).Represented where
  wellFormed := wf
  rules_eq := rules.trans h.rules_eq
  conditions_eq state := by
    refine Eq.trans ?_ (h.conditions_eq state)
    rw [session_become, Frame.compiled, Frame.compiled, tables]

theorem answered [BEq I] [BEq O] {call : Machine.Call I O W} {s' : Session I O W}
    {result : Except MachineError (Answer I O (Action I O W))}
    (e : r.session.machine.Effect call result s'.machine) :
    ((r.become s').note (.answered call (result.map fun _ => ()))).Represented where
  wellFormed := e.wellFormed h.wellFormed
  rules_eq := by
    rw [Recorded.note, declaredRules]
    show s'.machine.rules = _
    rw [e.rules_eq, h.rules_eq]
    rfl
  conditions_eq state := by
    rw [Recorded.note, coveredReads]
    show (s'.machine.compiled state).map Table.conditions = _
    rw [e.conditions_eq h.wellFormed, h.rules_eq, h.conditions_eq]
    rfl

end Recorded.Represented

/-- Every happening keeps the invariant. -/
theorem Recorded.kept_represented [BEq I] [BEq O] :
    Kept (Represented : Recorded I O W → Prop) where
  made h := h.note rfl fun _ => rfl
  answered {r call result} runs h := by
    cases call with
    | apply op => exact h.note rfl fun _ => rfl
    | invoke state => exact h.note rfl fun _ => rfl
    | execute start => exact h.note rfl fun _ => rfl
    | _ => cases runs
  invoked h := h.note rfl fun _ => rfl
  served {r call _ _} alone h hs := by
    have made : (r.note (.made call)).Represented := h.note rfl fun _ => rfl
    exact made.answered (Session.effect_of_serveAlone alone hs)
  begun {r start} h := by
    have made : (r.note (.made (.execute start))).Represented := h.note rfl fun _ => rfl
    cases hb : Session.beginRun start r.session with
    | mk found entered =>
      rcases Session.beginRun_cases hb with ⟨e, -, -, rfl⟩ | ⟨action, hg, -, rfl⟩
      · exact made
      · have hm := Session.machine_entering (Session.startState start r.session) r.session
        exact made.become
          (by rw [hm]; exact h.wellFormed.withRegistry (h.wellFormed.anchored.setCurrent hg))
          (by rw [hm]; rfl) (by rw [hm]; rfl)
  finished {r} h := by
    rcases Session.endRun_cases r.session with hs | hs
    · rw [hs]
      exact h
    · rw [hs]
      exact h.become (by rw [Session.machine_reset]; exact h.wellFormed.wound)
        (by rw [Session.machine_reset]; rfl) (by rw [Session.machine_reset]; rfl)
  selected {r} h := by
    cases hs : Session.selectBranch r.session with
    | mk found s' =>
      obtain ⟨read, hr, -⟩ := Session.selectBranch_cases hs
      rcases Session.onInputs_cases hr with ⟨e, -, -, rfl⟩ | ⟨symbol, event, bank, hw, -, hm, -⟩
      · exact h
      · obtain ⟨⟨⟨value, told⟩, read⟩, hu, he⟩ := exists_of_map_eq_ok hw
        cases he
        exact h.become (by rw [hm]; exact h.wellFormed.withInputs (h.wellFormed.inputs.update hu))
          (by rw [hm]) (by rw [hm])
  touched h := h.become h.wellFormed rfl rfl

theorem Recorded.represented_fresh (config : Config) (world : W) :
    Represented (⟨Session.fresh config world, []⟩ : Recorded I O W) where
  wellFormed := .start config
  rules_eq := rfl
  conditions_eq _ := rfl

/-! ## Wherever calls lead -/

/-- A state is missing for a run or a transition to the current or the default state only if nobody
ever entered or chose one. -/
theorem Session.missing_of_anchored {s : Session I O W} (h : s.machine.registry.Anchored)
    {state : Int} {e : MachineError}
    (pointer : state = s.machine.registry.current ∨ state = s.machine.registry.default)
    (he : s.machine.lookup state = .error e) :
    state = defaultState ∧ e = s.machine.missingState defaultState := by
  have unbound : s.machine.registry.get? state = none := by
    cases hg : s.machine.registry.get? state with
    | none => rfl
    | some action =>
      rw [Frame.lookup_eq_ok_iff.2 hg] at he
      cases he
  have hs : state = defaultState := by
    have not_bound : ¬ s.machine.registry.contains state = true := by
      rw [Registry.contains, unbound]
      exact Bool.false_ne_true
    rcases pointer with hp | hp
    · exact h.current.elim (hp.trans ·) fun hc => absurd (hp ▸ hc) not_bound
    · exact h.default.elim (hp.trans ·) fun hc => absurd (hp ▸ hc) not_bound
  rw [Frame.lookup, unbound] at he
  cases he
  exact ⟨hs, by rw [hs]⟩

variable [BEq I] [BEq O]

theorem Session.Reached.exists_represented {config : Config} {world : W} {s : Session I O W}
    {kind : Machine.Call I O W → Prop} (h : (Session.fresh config world).Reached kind s) :
    ∃ record, Recorded.Reached kind (Session.fresh config world) ⟨s, record⟩ ∧
      Recorded.Represented ⟨s, record⟩ := by
  obtain ⟨record, hr⟩ := h.exists_record
  exact ⟨record, hr, Recorded.kept_represented.reached (Recorded.represented_fresh config world) hr⟩

/-- Wherever calls of any kind lead from a new machine: the machine is well-formed; the lookup of
the current or the default state fails only for the state -1; and on every record of what happened,
the rules are those that were declared and the table of each state has exactly the reads that were
covered when the state was last built. So it was at every moment on record, and so it is in a run
that does not end. -/
theorem Session.Reached.represented {config : Config} {world : W} {s : Session I O W}
    (h : (Session.fresh config world).Reached (fun _ => True) s) :
    s.machine.WellFormed ∧
    (∀ start e s', start = .current ∨ start = .default → beginRun start s = (.error e, s') →
      startState start s = defaultState ∧ e = s.machine.missingState defaultState) ∧
    (∀ target e s', target = .current ∨ target = .default → transitionTo target s = (.error e, s') →
      target.stateIn s.machine.registry = some defaultState ∧
        e = s.machine.missingState defaultState) ∧
    (∃ record, Recorded.Reached (fun _ => True) (Session.fresh config world) ⟨s, record⟩) ∧
    ∀ record, Recorded.Reached (fun _ => True) (Session.fresh config world) ⟨s, record⟩ →
      Recorded.Throughout Recorded.Represented ⟨s, record⟩ ∧
      ∀ fuel n start x, Recorded.underway fuel n start ⟨s, record⟩ = some x →
        Recorded.Throughout Recorded.Represented x.state := by
  obtain ⟨record, hr, hs⟩ := h.exists_represented
  have wf := hs.wellFormed
  refine ⟨wf, fun start e s' hstart hb => ?_, fun target e s' htarget ht => ?_, ⟨record, hr⟩,
    fun record hr => ?_⟩
  · rcases beginRun_cases hb with ⟨e', hl, he, -⟩ | ⟨action, -, he, -⟩
    · cases he
      refine missing_of_anchored wf.anchored ?_ hl
      rcases hstart with rfl | rfl
      · exact .inl rfl
      · exact .inr rfl
    · cases he
  · rcases transitionTo_cases ht with
      ⟨e', state, hstate, hl, he, -⟩ | ⟨-, he, -⟩ | ⟨_, _, -, -, he, -⟩
    · cases he
      have pointer : state = s.machine.registry.current ∨ state = s.machine.registry.default := by
        rcases htarget with rfl | rfl
        · exact .inl (Option.some.inj hstate).symm
        · exact .inr (Option.some.inj hstate).symm
      obtain ⟨hd, he⟩ := missing_of_anchored wf.anchored pointer hl
      exact ⟨hd ▸ hstate, he⟩
    · cases he
    · cases he
  · have kept := (Recorded.kept_represented (I := I) (O := O) (W := W)).throughout
    have start : Recorded.Throughout Recorded.Represented
        (⟨Session.fresh config world, []⟩ : Recorded I O W) :=
      ⟨Recorded.represented_fresh config world, fun m earlier hm => by
        cases List.suffix_nil.1 hm⟩
    have throughout := kept.reached start hr
    exact ⟨throughout, fun fuel n start x hx => kept.underway throughout hx⟩

/-- A rule is declared and built, a second one waits to be built, and a run drops all bindings and
declares a third rule: the table of the first state is left behind with what it covered. -/
theorem Session.Reached.represented_left_behind :
    ∃ s : Session Bool Bool Unit, (Session.fresh {} ()).Reached (fun _ => True) s ∧
      s.machine.registry.contains 1 = false ∧ s.machine.rules.len = 3 ∧
      s.machine.WellFormed ∧ (∃ record, Recorded.Represented ⟨s, record⟩ ∧
        coveredReads 1 record = some [true] ∧
        ((declaredRules record).rulesFor 1).map Rule.read = [true, false]) := by
  let third : Rule Bool (Op Bool Bool Unit) := { state := 3, read := true }
  let first : Rule Bool (Op Bool Bool Unit) :=
    { state := 1, read := true,
      write := some (.custom (.andThen (.declare third) (.andThen .erase .halt))) }
  let second : Rule Bool (Op Bool Bool Unit) := { state := 1, read := false }
  let calls : List (Machine.Call Bool Bool Unit) :=
    [.declare first, .build, .declare second, .input .add,
      .input (.load none (.ofList [true]) none), .execute (.state 1)]
  have run : (Session.serveAll 5 calls (Session.fresh {} ())).map (fun s =>
      (s.machine.registry.contains 1, s.machine.rules.len,
        (s.machine.compiled 1).map Table.conditions,
        (s.machine.rules.rulesFor 1).map Rule.read)) =
      some (false, 3, some [true], [true, false]) := by
    decide +kernel
  obtain ⟨s, hs, hfacts⟩ := Option.map_eq_some_iff.1 run
  simp only [Prod.mk.injEq] at hfacts
  obtain ⟨unbound, len, conditions, reads⟩ := hfacts
  have reached : (Session.fresh {} ()).Reached (fun _ => True) s :=
    Session.Reached.start.serveAll (fun _ _ => trivial) hs
  obtain ⟨wf, -, -, ⟨record, hr⟩, all⟩ := reached.represented
  have held := (all record hr).1.1
  exact ⟨s, reached, unbound, len, wf, record, held, (held.conditions_eq 1).symm.trans conditions,
    held.rules_eq ▸ reads⟩

end TapeMachine
