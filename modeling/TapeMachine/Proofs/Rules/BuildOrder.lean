import Mathlib.Algebra.BigOperators.Group.List.Lemmas
import TapeMachine.Proofs.Session.Abreast
import TapeMachine.Proofs.Session.Refusal

/-!
# Building at once or piece by piece

`build` drops all tables and installs the declared states in increasing order; `buildState` drops
one table and puts the new one behind all others. So the stores end up in different orders, and a
state that is built again has a binding more. Code that sees neither the order of the tables nor the
list of bindings cannot tell: there is one table at most for a state, so it is found wherever it
stands, and of the bindings of a state the last one counts.

Results:
1. `Frame.perm_tables_of_compiled_eq`: where one table at most is stored for a state, the order of
   the tables is all that two stores can differ in without answering differently.
2. `Frame.Rearranged.congruence`: machines that differ in the order of their tables, in covered
   bindings and, by fixed amounts, in two counters go on alike for code that does not look there.
3. `Recorded.Arises.builds_interchange`: building at once and piece by piece, building again, and
   what building one state leaves alone.
-/

namespace TapeMachine

variable {I O W A P : Type}

/-! ## Rearranged machines -/

/-- The second frame is the first with its tables in another order, with the same action found for
every state, and with so many more bindings and so many more built rules counted. -/
structure Frame.Rearranged (states built : Nat) (m n : Frame I O A P) : Prop where
  config_eq : n.config = m.config
  inputs_eq : n.inputs = m.inputs
  outputs_eq : n.outputs = m.outputs
  get?_eq : ∀ state, n.registry.get? state = m.registry.get? state
  current_eq : n.registry.current = m.registry.current
  default_eq : n.registry.default = m.registry.default
  rules_eq : n.rules = m.rules
  single : (m.tables.items.map Table.state).Nodup
  tables : n.tables.items.Perm m.tables.items
  counters_eq : n.counters =
    { m.counters with
      states := m.counters.states + states
      rulesBuilt := m.counters.rulesBuilt + built }

/-- Code that sees neither the order of the tables nor the list of bindings. -/
def View.unordered : View I O where
  same := Frame.Rearranged 0 0
  configures := True
  executes := True

/-- Code that besides does not see how many bindings were made and how many rules were built. -/
def View.uncounted : View I O where
  same o o' := ∃ states built, Frame.Rearranged states built o o'
  configures := True
  executes := True

theorem View.same_uncounted {states built : Nat} {o o' : Outline I O}
    (h : o.Rearranged states built o') :
    View.uncounted.same o o' :=
  ⟨states, built, h⟩

/-- With one table at most for a state, the table of a state is the one that is in the store. -/
theorem Frame.compiled_eq_some_iff {m : Frame I O A P}
    (single : (m.tables.items.map Table.state).Nodup) {state : Int} {t : Table I A} :
    m.compiled state = some t ↔ t ∈ m.tables.items ∧ t.state = state := by
  constructor
  · intro h
    exact ⟨List.mem_of_find?_eq_some h, by simpa using List.find?_some h⟩
  · rintro ⟨ht, rfl⟩
    have found : (m.compiled t.state).isSome = true :=
      List.find?_isSome.2 ⟨t, ht, beq_self_eq_true t.state⟩
    obtain ⟨u, hu⟩ := Option.isSome_iff_exists.1 found
    have hs : u.state = t.state := by simpa using List.find?_some hu
    rw [hu, List.inj_on_of_nodup_map single (List.mem_of_find?_eq_some hu) ht hs]

/-- Stores with the same table found for every state hold the same tables, in some order. -/
theorem Frame.perm_tables_of_compiled_eq {m n : Frame I O A P}
    (single : (m.tables.items.map Table.state).Nodup)
    (single' : (n.tables.items.map Table.state).Nodup)
    (same : ∀ state, n.compiled state = m.compiled state) : n.tables.items.Perm m.tables.items := by
  refine (List.perm_ext_iff_of_nodup single'.of_map single.of_map).2 fun t => ?_
  have found : m.compiled t.state = some t ↔ t ∈ m.tables.items ∧ t.state = t.state :=
    compiled_eq_some_iff single
  have found' : n.compiled t.state = some t ↔ t ∈ n.tables.items ∧ t.state = t.state :=
    compiled_eq_some_iff single'
  rw [same] at found'
  simpa using found'.symm.trans found

namespace Frame.Rearranged

variable {states built : Nat} {m n : Frame I O A P}

theorem compiled_eq (h : m.Rearranged states built n) (state : Int) :
    n.compiled state = m.compiled state := by
  have single : (n.tables.items.map Table.state).Nodup := (h.tables.map _).nodup_iff.2 h.single
  refine Option.ext fun t => ?_
  rw [compiled_eq_some_iff single, compiled_eq_some_iff h.single, h.tables.mem_iff]

theorem outline (h : m.Rearranged states built n) :
    m.outline.Rearranged states built n.outline where
  config_eq := h.config_eq
  inputs_eq := h.inputs_eq
  outputs_eq := h.outputs_eq
  get?_eq state := by
    show (n.registry.map _).get? state = (m.registry.map _).get? state
    rw [Registry.get?_map, Registry.get?_map, h.get?_eq]
  current_eq := h.current_eq
  default_eq := h.default_eq
  rules_eq := congrArg (RuleSet.map fun _ => ()) h.rules_eq
  single := by
    show ((m.tables.items.map _).map Table.state).Nodup
    rw [List.map_map]
    exact h.single
  tables := h.tables.map _
  counters_eq := h.counters_eq

end Frame.Rearranged

/-! ## What building leaves, in whatever order -/

/-- Every rule belongs to one of the declared states. -/
theorem RuleSet.length_flatMap_rulesFor {rs : RuleSet I P} {states : List Int}
    (nodup : states.Nodup) (all : ∀ state, state ∈ states ↔ rs.hasState state = true) :
    (states.flatMap rs.rulesFor).length = rs.len := by
  have perm : states.Perm (rs.rules.map Rule.state).dedup := by
    refine (List.perm_ext_iff_of_nodup nodup (List.nodup_dedup _)).2 fun state => ?_
    rw [all, List.mem_dedup, List.mem_map, hasState_iff_exists_mem]
  have count (state : Int) : (rs.rulesFor state).length =
      (rs.rules.map Rule.state).count state := by
    rw [rulesFor, ← List.countP_eq_length_filter, List.count, List.countP_map]
    rfl
  simp only [List.length_flatMap, count]
  rw [(perm.map _).sum_eq, List.sum_map_count_dedup_eq_length, List.length_map, len]

/-- However the declared states are listed, there are as many of them. -/
theorem RuleSet.length_states {rs : RuleSet I P} {states : List Int} (nodup : states.Nodup)
    (all : ∀ state, state ∈ states ↔ rs.hasState state = true) :
    states.length = rs.states.length := by
  refine ((List.perm_ext_iff_of_nodup nodup rs.nodup_states).2 fun state => ?_).length_eq
  rw [all, mem_states]

namespace Machine

theorem foldl_length_rulesFor (rs : RuleSet I P) (states : List Int) (n : Nat) :
    states.foldl (fun n state => n + (rs.rulesFor state).length) n =
      n + (states.flatMap rs.rulesFor).length := by
  induction states generalizing n with
  | nil => rfl
  | cons state rest ih =>
    rw [List.foldl_cons, ih, List.flatMap_cons, List.length_append, Nat.add_assoc]

theorem counters_built (m : Machine I O W) :
    m.built.counters =
      { m.counters with
        states := m.counters.states + m.rules.states.length
        rulesBuilt := m.counters.rulesBuilt + m.rules.len } := by
  rw [built_eq, foldl_length_rulesFor,
    RuleSet.length_flatMap_rulesFor m.rules.nodup_states fun _ => RuleSet.mem_states]

end Machine

/-! ## Rearranged machines go on alike -/

namespace Frame.Rearranged

variable {states built : Nat} {m n : Machine I O W}

theorem bound (h : m.Rearranged states built n) (state : Int) (action : Action I O W) :
    Frame.Rearranged states built (Machine.bound m state action) (Machine.bound n state action) :=
  { h with
    get?_eq := fun other => by
      show (n.registry.add _ _).get? other = (m.registry.add _ _).get? other
      rw [Registry.get?_add, Registry.get?_add, h.get?_eq]
    counters_eq := by simp only [Machine.bound, h.counters_eq, Nat.add_right_comm] }

theorem built_built (h : m.Rearranged states built n) :
    Frame.Rearranged states built (Machine.built m) (Machine.built n) where
  config_eq := by rw [Machine.built_eq, Machine.built_eq]; exact h.config_eq
  inputs_eq := by rw [Machine.built_eq, Machine.built_eq]; exact h.inputs_eq
  outputs_eq := by rw [Machine.built_eq, Machine.built_eq]; exact h.outputs_eq
  get?_eq state := by rw [Machine.get?_built, Machine.get?_built, h.rules_eq, h.get?_eq]
  current_eq := by rw [Machine.built_eq, Machine.built_eq]; exact h.current_eq
  default_eq := by rw [Machine.built_eq, Machine.built_eq]; exact h.default_eq
  rules_eq := by rw [Machine.built_eq, Machine.built_eq]; exact h.rules_eq
  single := by
    rw [Machine.built_eq, List.map_map]
    exact (List.map_id m.rules.states).symm ▸ m.rules.nodup_states
  tables := by rw [Machine.built_eq, Machine.built_eq, h.rules_eq]
  counters_eq := by
    rw [Machine.counters_built, Machine.counters_built, h.counters_eq, h.rules_eq]
    simp only [Nat.add_right_comm]

theorem installed (h : m.Rearranged states built n) (state : Int) :
    Frame.Rearranged states built ((Machine.dropped m state).installed state)
      ((Machine.dropped n state).installed state) where
  config_eq := h.config_eq
  inputs_eq := h.inputs_eq
  outputs_eq := h.outputs_eq
  get?_eq other := by
    show (n.registry.add _ _).get? other = (m.registry.add _ _).get? other
    rw [Registry.get?_add, Registry.get?_add, h.get?_eq]
  current_eq := h.current_eq
  default_eq := h.default_eq
  rules_eq := h.rules_eq
  single := Machine.nodup_installed h.single
  tables := by
    -- one table at most goes out, so both stores lose the same one
    have one : n.tables.items.Pairwise fun t u => (t.state == state) = true → (u.state == state) =
        true → False := by
      refine (List.pairwise_map.1 ((h.tables.map Table.state).nodup_iff.2 h.single)).imp
        fun ne ht hu => ne ?_
      rw [eq_of_beq ht, eq_of_beq hu]
    have table : n.rules.tableOf state = m.rules.tableOf state := by rw [h.rules_eq]
    show (n.tables.items.eraseP _ ++ [n.rules.tableOf state]).Perm
      (m.tables.items.eraseP _ ++ [m.rules.tableOf state])
    rw [table]
    exact (h.tables.eraseP _ one).append_right _
  counters_eq := by
    simp only [Machine.installed, Machine.dropped, h.counters_eq, h.rules_eq, Nat.add_right_comm]

/-- Machines that are rearranged go on alike for code to which they look the same. -/
theorem congruence [BEq I] {v : View I O}
    (looks : ∀ {o o' : Outline I O}, o.Rearranged states built o' → v.same o o') :
    Machine.Congruence v
      (Frame.Rearranged states built : Machine I O W → Machine I O W → Prop) where
  seen h := looks h.outline
  inputs_eq h := h.inputs_eq
  outputs_eq h := h.outputs_eq
  get?_eq h := h.get?_eq
  current_eq h := h.current_eq
  default_eq h := h.default_eq
  hasState_eq h state := by rw [h.rules_eq]
  branch_eq h state symbol := by rw [h.compiled_eq]
  ends_eq h _ := by rw [h.config_eq]
  configured h _ update := { h with config_eq := congrArg (·.update update) h.config_eq }
  inputs h b := { h with inputs_eq := rfl }
  outputs h b := { h with outputs_eq := rfl }
  bound h := h.bound
  current h state := { h with current_eq := rfl }
  default h state := { h with default_eq := rfl }
  erased h := { h with get?_eq := fun _ => rfl, current_eq := rfl, default_eq := rfl }
  counted h := { h with counters_eq := by simp only [Machine.moved, h.counters_eq] }
  declared h rule :=
    { h with
      rules_eq := congrArg (RuleSet.add · rule) h.rules_eq
      counters_eq := by simp only [Machine.declared, h.counters_eq] }
  cleared h := { h with single := List.nodup_nil, tables := .nil }
  built h := h.built_built
  installed h state _ := h.installed state

end Frame.Rearranged

/-! ## One state after the other -/

namespace Machine

/-- The machine with states built one after the other. -/
def rebuilt (m : Machine I O W) (states : List Int) : Machine I O W :=
  states.foldl (fun m state => (m.dropped state).installed state) m

theorem rebuilt_cons (m : Machine I O W) (state : Int) (rest : List Int) :
    m.rebuilt (state :: rest) = ((m.dropped state).installed state).rebuilt rest := rfl

/-- Building touches nothing but tables, bindings and two counters. -/
theorem rebuilt_eq (m : Machine I O W) (states : List Int) :
    m.rebuilt states =
      { m with
        tables := (m.rebuilt states).tables
        registry := { m.registry with bindings := (m.rebuilt states).registry.bindings }
        counters := { m.counters with
          states := m.counters.states + states.length
          rulesBuilt := m.counters.rulesBuilt + (states.flatMap m.rules.rulesFor).length } } := by
  induction states generalizing m with
  | nil => rfl
  | cons state rest ih =>
    rw [rebuilt_cons]
    refine (ih _).trans ?_
    simp only [installed, dropped, Registry.add, List.length_cons, List.flatMap_cons,
      List.length_append, Nat.add_assoc, Nat.add_comm 1]

variable {m : Machine I O W}

theorem WellFormed.rebuilt (h : m.WellFormed) {states : List Int}
    (declared : ∀ state ∈ states, m.rules.hasState state = true) :
    (m.rebuilt states).WellFormed := by
  induction states generalizing m with
  | nil => exact h
  | cons state rest ih =>
    obtain ⟨now, later⟩ := List.forall_mem_cons.1 declared
    exact ih (h.install now) later

theorem compiled_rebuilt (single : (m.tables.items.map Table.state).Nodup) (states : List Int)
    (other : Int) : (m.rebuilt states).compiled other =
      if other ∈ states then some (m.rules.tableOf other) else m.compiled other := by
  induction states generalizing m with
  | nil => rfl
  | cons state rest ih =>
    rw [rebuilt_cons, ih (nodup_installed single), compiled_installed single]
    by_cases hr : other ∈ rest
    · rw [if_pos hr, if_pos (List.mem_cons_of_mem _ hr)]
      rfl
    · rw [if_neg hr]
      by_cases hs : other = state
      · rw [if_pos hs, hs, if_pos List.mem_cons_self]
      · rw [if_neg hs, if_neg (List.not_mem_cons_of_ne_of_not_mem hs hr)]

theorem get?_rebuilt (m : Machine I O W) (states : List Int) (other : Int) :
    (m.rebuilt states).registry.get? other =
      if other ∈ states then some .dispatch else m.registry.get? other := by
  induction states generalizing m with
  | nil => rfl
  | cons state rest ih =>
    rw [rebuilt_cons, ih, installed, Registry.get?_add]
    by_cases hr : other ∈ rest
    · rw [if_pos hr, if_pos (List.mem_cons_of_mem _ hr)]
    · rw [if_neg hr]
      by_cases hs : other = state
      · rw [if_pos hs, hs, if_pos List.mem_cons_self]
      · rw [if_neg hs, if_neg (List.not_mem_cons_of_ne_of_not_mem hs hr)]
        rfl

/-- A state that is not declared has no table, so the tables are those of the rules once all
declared states are built. -/
theorem WellFormed.ite_compiled_eq_compile (h : m.WellFormed) {states : List Int}
    (all : ∀ state, state ∈ states ↔ m.rules.hasState state = true) (state : Int) :
    (if state ∈ states then some (m.rules.tableOf state) else m.compiled state) =
      m.rules.compile state := by
  split
  · next hs => exact (RuleSet.compile_of_hasState ((all state).1 hs)).symm
  · next hs =>
    have undeclared : m.rules.hasState state = false := by simpa using mt (all state).2 hs
    rw [RuleSet.compile_of_not_hasState undeclared]
    cases hc : m.compiled state with
    | none => rfl
    | some t =>
      rw [h.hasState_of_compiled hc] at undeclared
      cases undeclared

end Machine

namespace Frame.Rearranged

variable {m : Machine I O W} (wf : m.WellFormed)
include wf

/-- Built at once or piece by piece, in whatever order. -/
theorem built_rebuilt {states : List Int} (nodup : states.Nodup)
    (all : ∀ state, state ∈ states ↔ m.rules.hasState state = true) :
    Frame.Rearranged 0 0 m.built (m.rebuilt states) where
  config_eq := by rw [Machine.built_eq, Machine.rebuilt_eq]
  inputs_eq := by rw [Machine.built_eq, Machine.rebuilt_eq]
  outputs_eq := by rw [Machine.built_eq, Machine.rebuilt_eq]
  get?_eq state := by
    rw [Machine.get?_built, Machine.get?_rebuilt]
    exact if_congr (all state) rfl rfl
  current_eq := by rw [Machine.built_eq, Machine.rebuilt_eq]
  default_eq := by rw [Machine.built_eq, Machine.rebuilt_eq]
  rules_eq := by rw [Machine.built_eq, Machine.rebuilt_eq]
  single := wf.build.single
  tables := by
    refine Frame.perm_tables_of_compiled_eq wf.build.single
      (wf.rebuilt fun state => (all state).1).single fun state => ?_
    rw [Machine.compiled_rebuilt wf.single, Machine.compiled_built, wf.ite_compiled_eq_compile all]
  counters_eq := by
    rw [Machine.counters_built, Machine.rebuilt_eq, RuleSet.length_flatMap_rulesFor nodup all,
      RuleSet.length_states nodup all]
    rfl

/-- All declared states are built once more, with no other rules than before. -/
theorem of_built (covered : m.Enforces m.rules) :
    Frame.Rearranged m.rules.states.length m.rules.len m m.built where
  config_eq := by rw [Machine.built_eq]
  inputs_eq := by rw [Machine.built_eq]
  outputs_eq := by rw [Machine.built_eq]
  get?_eq state := by
    rw [Machine.get?_built]
    split
    · next hs => exact (covered.bound state hs).symm
    · rfl
  current_eq := by rw [Machine.built_eq]
  default_eq := by rw [Machine.built_eq]
  rules_eq := by rw [Machine.built_eq]
  single := wf.single
  tables := by
    refine Frame.perm_tables_of_compiled_eq wf.single wf.build.single fun state => ?_
    rw [Machine.compiled_built, ← wf.ite_compiled_eq_compile (fun _ => RuleSet.mem_states)]
    split
    · next hs => exact (covered.compiled state (RuleSet.mem_states.1 hs)).symm
    · rfl
  counters_eq := m.counters_built

/-- A state is built once more, with no other rules than before. -/
theorem of_installed {state : Int} (bound : m.registry.get? state = some .dispatch)
    (compiled : m.compiled state = some (m.rules.tableOf state)) :
    Frame.Rearranged 1 (m.rules.rulesFor state).length m ((m.dropped state).installed state) where
  config_eq := rfl
  inputs_eq := rfl
  outputs_eq := rfl
  get?_eq other := by
    rw [Machine.installed, Registry.get?_add]
    split
    · next he => rw [he, bound]
    · rfl
  current_eq := rfl
  default_eq := rfl
  rules_eq := rfl
  single := wf.single
  tables := by
    refine Frame.perm_tables_of_compiled_eq wf.single (Machine.nodup_installed wf.single)
      fun other => ?_
    rw [Machine.compiled_installed wf.single]
    split
    · next he => rw [he, compiled]
    · rfl
  counters_eq := rfl

end Frame.Rearranged

/-! ## Sessions -/

namespace Session

/-- Builds states one after the other, up to the first refusal. -/
def buildEach : List Int → Attempt (Session I O W) Unit
  | [] => pure ()
  | state :: rest => do
    buildState state
    buildEach rest

theorem buildEach_eq {states : List Int} {s : Session I O W}
    (declared : ∀ state ∈ states, s.machine.rules.hasState state = true) :
    ∃ log, buildEach states s =
      (.ok (), { s with machine := s.machine.rebuilt states, log := log }) := by
  induction states generalizing s with
  | nil => exact ⟨s.log, rfl⟩
  | cons state rest ih =>
    obtain ⟨now, later⟩ := List.forall_mem_cons.1 declared
    obtain ⟨log, hb⟩ := buildState_of_hasState now
    obtain ⟨log', hr⟩ := ih
      (s := { s with machine := (s.machine.dropped state).installed state, log := log }) later
    exact ⟨log', (Attempt.bind_of_ok hb).trans hr⟩

/-- Building one state leaves alone what is found for the others. -/
theorem buildState_of_ne {s : Session I O W} (wf : s.machine.WellFormed) {state other : Int}
    (ne : other ≠ state) {result : Except MachineError Unit} {s' : Session I O W}
    (h : buildState state s = (result, s')) :
    s'.machine.compiled other = s.machine.compiled other ∧
      s'.machine.registry.get? other = s.machine.registry.get? other := by
  rcases buildState_cases h with ⟨-, -, rfl⟩ | ⟨-, -, hm⟩
  · exact ⟨rfl, rfl⟩
  · rw [hm, Machine.compiled_installed wf.single, if_neg ne, Machine.installed,
      Registry.get?_add, if_neg ne]
    exact ⟨rfl, rfl⟩

/-- Whatever calls are made from now on, by code that respects the view: they are answered alike in
the two sessions, and the machines remain related, what observers are told remains the same. -/
def GoOnAlike [BEq I] [BEq O] (v : View I O) (M : Machine I O W → Machine I O W → Prop)
    (s t : Session I O W) : Prop :=
  ∀ fuel (calls : List (Machine.Call I O W)), (∀ call ∈ calls, call.Respects v) →
    SameTranscript v M True (transcript fuel calls s) (transcript fuel calls t)

/-- A session and one with its machine rearranged go on alike. -/
theorem goOnAlike_of_rearranged [BEq I] [BEq O] {v : View I O} {states built : Nat}
    (looks : ∀ {o o' : Outline I O}, o.Rearranged states built o' → v.same o o')
    (configures : v.configures) (executes : v.executes) {s : Session I O W} {m n : Machine I O W}
    (machine : m.Rearranged states built n) (code : m.Respects v) (l l' : Array (LogEntry I O)) :
    GoOnAlike v (Frame.Rearranged states built) { s with machine := m, log := l }
      { s with machine := n, log := l' } := by
  intro fuel calls respect
  refine (Frame.Rearranged.congruence looks).transcript fuel
    (fun call hc => ⟨View.allows_of_all configures executes call, respect call hc⟩) ?_
  exact ⟨machine, code, rfl, fun _ => rfl, fun _ => rfl⟩

variable [BEq I] [BEq O] {s : Session I O W}

/-- Building at once and piece by piece leave sessions that go on alike. -/
theorem goOnAlike_built_rebuilt (wf : s.machine.WellFormed) {states : List Int}
    (nodup : states.Nodup) (all : ∀ state, state ∈ states ↔ s.machine.rules.hasState state = true)
    (code : s.machine.Respects .unordered) (l l' : Array (LogEntry I O)) :
    GoOnAlike .unordered (Frame.Rearranged 0 0) { s with machine := s.machine.built, log := l }
      { s with machine := s.machine.rebuilt states, log := l' } :=
  goOnAlike_of_rearranged id trivial trivial (.built_rebuilt wf nodup all) code.built l l'

/-- Building again makes no difference to later runs. -/
theorem exists_build_again (wf : s.machine.WellFormed) (declared : s.machine.rules.rules ≠ [])
    (covered : s.machine.Enforces s.machine.rules) (code : s.machine.Respects .uncounted) :
    ∃ t, build s = (.ok (), t) ∧
      GoOnAlike .uncounted
        (Frame.Rearranged s.machine.rules.states.length s.machine.rules.len) s t := by
  obtain ⟨log, hb⟩ := build_of_ne_nil declared
  exact ⟨_, hb,
    goOnAlike_of_rearranged View.same_uncounted trivial trivial
      (.of_built wf covered) code s.log log⟩

/-- Building a state again makes no difference to later runs. -/
theorem exists_buildState_again (wf : s.machine.WellFormed) {state : Int}
    (declared : s.machine.rules.hasState state = true)
    (bound : s.machine.registry.get? state = some .dispatch)
    (compiled : s.machine.compiled state = some (s.machine.rules.tableOf state))
    (code : s.machine.Respects .uncounted) :
    ∃ t, buildState state s = (.ok (), t) ∧
      GoOnAlike .uncounted (Frame.Rearranged 1 (s.machine.rules.rulesFor state).length) s t := by
  obtain ⟨log, hb⟩ := buildState_of_hasState declared
  exact ⟨_, hb, goOnAlike_of_rearranged View.same_uncounted trivial trivial
    (.of_installed wf bound compiled) code s.log log⟩

end Session

/-- Of any machine that has rules: building it at once and building its declared states one after
the other, in any order, both succeed and give the same tables and the same action for every state,
and both count the rules and the declared states once. From then on the two sessions go on alike for
code that sees neither the order of the tables nor the list of bindings. To build once more, or to
build a state once more that was just covered, makes no difference to code that besides does not see
what is counted thereby. And to build one state leaves alone what is found for all others. -/
theorem Recorded.Arises.builds_interchange [BEq I] [BEq O] {config : Config} {world : W}
    {r : Recorded I O W} (h : r.Arises (Session.fresh config world)) {s : Session I O W}
    (hs : r.session = s) (declared : s.machine.rules.rules ≠ []) {states : List Int}
    (nodup : states.Nodup) (all : ∀ state, state ∈ states ↔ s.machine.rules.hasState state = true) :
    (∃ t u, Session.build s = (.ok (), t) ∧ Session.buildEach states s = (.ok (), u) ∧
      (∀ state, t.machine.compiled state = s.machine.rules.compile state ∧
        u.machine.compiled state = s.machine.rules.compile state) ∧
      (∀ state, t.machine.registry.get? state = u.machine.registry.get? state ∧
        u.machine.registry.get? state =
          if s.machine.rules.hasState state then some .dispatch
            else s.machine.registry.get? state) ∧
      t.machine.counters = u.machine.counters ∧
      u.machine.counters =
        { s.machine.counters with
          states := s.machine.counters.states + states.length
          rulesBuilt := s.machine.counters.rulesBuilt + s.machine.rules.len } ∧
      (s.machine.Respects .unordered → Session.GoOnAlike .unordered (Frame.Rearranged 0 0) t u) ∧
      (s.machine.Respects .uncounted →
        (∃ t', Session.build t = (.ok (), t') ∧
          Session.GoOnAlike .uncounted (Frame.Rearranged states.length s.machine.rules.len) t t') ∧
        ∀ state ∈ states, ∃ t', Session.buildState state t = (.ok (), t') ∧
          Session.GoOnAlike .uncounted
            (Frame.Rearranged 1 (s.machine.rules.rulesFor state).length) t t')) ∧
    (s.machine.Respects .uncounted → ∀ state ∈ states, ∃ t t',
      Session.buildState state s = (.ok (), t) ∧ Session.buildState state t = (.ok (), t') ∧
        Session.GoOnAlike .uncounted
          (Frame.Rearranged 1 (s.machine.rules.rulesFor state).length) t t') ∧
    ∀ state other result s', other ≠ state → Session.buildState state s = (result, s') →
      s'.machine.compiled other = s.machine.compiled other ∧
        s'.machine.registry.get? other = s.machine.registry.get? other := by
  subst hs
  have wf := h.invariant.wellFormed
  have alike := Frame.Rearranged.built_rebuilt wf nodup all
  refine ⟨?_, fun code state hs => ?_, fun state other result s' ne hb =>
    Session.buildState_of_ne wf ne hb⟩
  · obtain ⟨l, hb⟩ := Session.build_of_ne_nil declared
    obtain ⟨l', he⟩ := Session.buildEach_eq fun state => (all state).1
    have rules : r.session.machine.built.rules = r.session.machine.rules := by rw [Machine.built_eq]
    have covered : r.session.machine.built.Enforces r.session.machine.built.rules := by
      rw [rules]
      exact Machine.enforces_built _
    refine ⟨_, _, hb, he, fun state => ⟨Machine.compiled_built _ state, ?_⟩, fun state =>
      ⟨(alike.get?_eq state).symm, ?_⟩, alike.counters_eq.symm, ?_, fun code =>
      Session.goOnAlike_built_rebuilt wf nodup all code l l', fun code => ⟨?_, fun state hs => ?_⟩⟩
    · exact (alike.compiled_eq state).trans (Machine.compiled_built _ state)
    · exact (alike.get?_eq state).trans (Machine.get?_built _ state)
    · show (r.session.machine.rebuilt states).counters = _
      rw [Machine.rebuilt_eq, RuleSet.length_flatMap_rulesFor nodup all]
    · have again := Session.exists_build_again
        (s := { r.session with machine := r.session.machine.built, log := l }) wf.build
        (rules ▸ declared) covered code.built
      simp only [rules, ← RuleSet.length_states nodup all] at again
      exact again
    · have once := (all state).1 hs
      have again := Session.exists_buildState_again
        (s := { r.session with machine := r.session.machine.built, log := l }) wf.build
          (rules ▸ once)
        ((Machine.enforces_built _).bound state once)
          (covered.compiled state (rules ▸ once)) code.built
      simp only [rules] at again
      exact again
  · have once := (all state).1 hs
    obtain ⟨l, hb⟩ := Session.buildState_of_hasState once
    have again := Session.exists_buildState_again
      (s := { r.session with
        machine := (r.session.machine.dropped state).installed state
        log := l })
      (wf.install once) once (by rw [Machine.installed, Registry.get?_add, if_pos rfl])
      (by rw [Machine.compiled_installed wf.single, if_pos rfl]; rfl) (code.installed state)
    obtain ⟨t', ht, go⟩ := again
    exact ⟨_, t', hb, ht, go⟩

/-- A state was built before its second rule was declared, and another one never. Built in the other
order, the two tables stand in the other order, and the sessions go on alike. -/
theorem Recorded.Arises.builds_interchange_stale :
    ∃ s t u : Session Bool Bool Unit, (s.machine.compiled 2).map Table.conditions = some [true] ∧
      Session.build s = (.ok (), t) ∧ Session.buildEach [2, 0] s = (.ok (), u) ∧
      t.machine.tables.items.map Table.state = [0, 2] ∧
      u.machine.tables.items.map Table.state = [2, 0] ∧
      (t.machine.compiled 2).map Table.conditions = some [true, false] ∧
      Session.GoOnAlike .unordered (Frame.Rearranged 0 0) t u := by
  let rule (state : Int) (read : Bool) : Rule Bool (Op Bool Bool Unit) :=
    { state := state, read := read }
  let calls : List (Machine.Call Bool Bool Unit) :=
    [.declare (rule 2 true), .build, .declare (rule 2 false), .declare (rule 0 true)]
  let s : Session Bool Bool Unit :=
    { machine :=
        { registry := { bindings := [(2, .dispatch)] }
          rules := ⟨[rule 2 true, rule 2 false, rule 0 true]⟩
          tables := ⟨[⟨2, [(rule 2 true).entry]⟩]⟩
          counters := ⟨1, 3, 1, 0⟩ }
      world := () }
  have made : ∃ record, Recorded.serveAll 1 calls ⟨Session.fresh {} (), []⟩ =
      some ⟨s, record⟩ := ⟨_, rfl⟩
  obtain ⟨record, hr⟩ := made
  have arises : Recorded.Arises (Session.fresh {} ()) ⟨s, record⟩ :=
    (throughout_of_reached (Recorded.Reached.start.serveAll (fun _ _ => trivial) hr)).1
  have plain (state : Int) (read : Bool) : (rule state read).Respects .unordered := by
    rintro op (h | h | h) <;> cases h
  have code : s.machine.Respects .unordered :=
    { bound := fun state action hg => by
        obtain ⟨binding, hf, rfl⟩ := Option.map_eq_some_iff.1 hg
        rw [List.mem_singleton.1 (List.mem_of_find?_eq_some hf)]
        exact .dispatch
      rules := by
        simp only [s, List.forall_mem_cons]
        exact ⟨plain 2 true, plain 2 false, plain 0 true, List.forall_mem_nil _⟩
      tables := fun t ht e he => by
        rw [List.mem_singleton.1 ht] at he
        rw [List.mem_singleton.1 he]
        exact ⟨(plain 2 true).onMatch, (plain 2 true).onMiss⟩ }
  have all (state : Int) : state ∈ [2, 0] ↔ s.machine.rules.hasState state = true := by
    simp only [s, rule, RuleSet.hasState, List.any_cons, List.any_nil, Bool.or_false,
      Bool.or_eq_true, beq_iff_eq, List.mem_cons, List.not_mem_nil, or_false]
    omega
  obtain ⟨⟨t, u, ht, hu, -, -, -, -, go, -⟩, -⟩ :=
    builds_interchange arises rfl (List.cons_ne_nil _ _) (by decide) all
  have tables : (Session.build s).2.machine.tables.items.map Table.state = [0, 2] := by
    decide +kernel
  have tables' : (Session.buildEach [2, 0] s).2.machine.tables.items.map Table.state = [2, 0] := by
    decide +kernel
  have conditions : ((Session.build s).2.machine.compiled 2).map Table.conditions =
      some [true, false] := by
    decide +kernel
  rw [ht] at tables conditions
  rw [hu] at tables'
  exact ⟨s, t, u, rfl, ht, hu, tables, tables', conditions, go code⟩

/-- To build once more is seen by code that looks at the number of built rules, even if it sees
neither the order of the tables nor the list of bindings: an action halts after one building and
fails after two. -/
theorem Recorded.Arises.build_again_counted :
    ∃ r : Recorded Bool Bool Unit, r.Arises (Session.fresh {} ()) ∧
      r.session.machine.rules.rules ≠ [] ∧ r.session.machine.Respects .unordered ∧
      ∃ t t', Session.build r.session = (.ok (), t) ∧ Session.build t = (.ok (), t') ∧
        (Session.serve 2 (.execute (.state 5)) t).map (·.1.toOption.isSome) = some true ∧
        (Session.serve 2 (.execute (.state 5)) t').map (·.1.toOption.isSome) = some false := by
  let rule : Rule Bool (Op Bool Bool Unit) := { state := 0, read := true }
  let once : Action Bool Bool Unit := .inspect fun o =>
    if o.counters.rulesBuilt = 1 then .halt else .fail (.unknownState 9)
  let s : Session Bool Bool Unit :=
    { machine :=
        { registry := { bindings := [(5, once)] }
          rules := ⟨[rule]⟩
          counters := ⟨1, 1, 0, 0⟩ }
      world := () }
  have made : ∃ record,
    Recorded.serveAll 1 [.declare rule, .bind 5 once] ⟨Session.fresh {} (), []⟩ =
      some ⟨s, record⟩ := ⟨_, rfl⟩
  obtain ⟨record, hr⟩ := made
  have arises : Recorded.Arises (Session.fresh {} ()) ⟨s, record⟩ :=
    (throughout_of_reached (Recorded.Reached.start.serveAll (fun _ _ => trivial) hr)).1
  have blind : once.Respects .unordered := by
    refine .inspect (fun o o' h => ?_) fun o => ?_
    · rw [h.counters_eq]
      rfl
    · split
      · exact .halt
      · exact .fail _
  have code : s.machine.Respects .unordered :=
    { bound := fun state action hg => by
        obtain ⟨binding, hf, rfl⟩ := Option.map_eq_some_iff.1 hg
        rw [List.mem_singleton.1 (List.mem_of_find?_eq_some hf)]
        exact blind
      rules := fun other ho op hop => by
        rw [List.mem_singleton.1 ho] at hop
        rcases hop with h | h | h <;> cases h
      tables := nofun }
  have halts : (Session.serve 2 (.execute (.state 5)) (Session.build s).2).map
    (·.1.toOption.isSome) =
      some true := by decide +kernel
  have fails : (Session.serve 2 (.execute (.state 5)) (Session.build (Session.build s).2).2).map
      (·.1.toOption.isSome) = some false := by decide +kernel
  exact ⟨⟨s, record⟩, arises, List.cons_ne_nil _ _, code, _, _, rfl, rfl, halts, fails⟩

end TapeMachine
