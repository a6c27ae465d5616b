import TapeMachine.Session.Rules

/-!
# What building leaves behind

Building takes the rules of each declared state into one table and binds the state to
`Action.dispatch`. The states come in increasing order without repetition, so no table is ever in
the way of another one, and the effect on the machine is a fold: `Machine.built`.

Results:
1. `build_of_ne_nil`, `build_of_nil`: building succeeds exactly if some rule is declared; then the
   machine is the built one, and nothing else but the log has changed.
2. `compiled_built`, `get?_built`: the tables and the bindings of the built machine.
3. `compiled_installed`: building one state replaces its own table and no other one.
4. `Enforces`, `enforces_built`: a machine that dispatches at the states of a rule list, by their
   tables, and that a built machine is one; `Carries`, `carries_built`: the same with no other
   bindings.
-/

namespace TapeMachine

variable {I O W : Type}

/-! ## Tables of rule sets -/

/-- The prepared rules of a state. -/
def RuleSet.tableOf (rs : RuleSet I (Op I O W)) (state : Int) : Table I (Action I O W) :=
  ⟨state, (rs.rulesFor state).map Rule.entry⟩

theorem RuleSet.compile_of_hasState {rs : RuleSet I (Op I O W)} {state : Int}
    (h : rs.hasState state = true) : rs.compile state = some (rs.tableOf state) := by
  have hne := hasState_iff_rulesFor_ne_nil.1 h
  rw [compile, Table.ofEntries?, if_neg (by simpa using hne)]
  rfl

theorem RuleSet.compile_of_not_hasState {rs : RuleSet I (Op I O W)} {state : Int}
    (h : rs.hasState state = false) : rs.compile state = none := by
  have hnil : rs.rulesFor state = [] := by
    refine Classical.byContradiction fun hne => ?_
    rw [hasState_iff_rulesFor_ne_nil.2 hne] at h
    cases h
  rw [compile, hnil]
  rfl

/-- What the branches of all rules are, the entries of a table are. -/
theorem RuleSet.forall_tableOf {p : Action I O W → Prop} {q : Rule I (Op I O W) → Prop}
    (branches : ∀ rule, q rule → p rule.onMatch ∧ p rule.onMiss) {rs : RuleSet I (Op I O W)}
    (h : ∀ rule ∈ rs.rules, q rule) (state : Int) :
    ∀ e ∈ (rs.tableOf state).entries, p e.onMatch ∧ p e.onMiss := by
  intro e he
  obtain ⟨rule, hr, rfl⟩ := List.mem_map.1 he
  exact branches rule (h rule (List.mem_filter.1 hr).1)

/-- A chosen branch is that of an entry. -/
theorem Table.exists_of_select {A : Type} [BEq I] {t : Table I A} {symbol : I} {branch : A}
    (h : t.select symbol = some branch) :
    ∃ e ∈ t.entries, branch = e.onMatch ∨ branch = e.onMiss := by
  unfold select at h
  split at h
  · next e he =>
    cases h
    exact ⟨e, List.mem_of_find?_eq_some he, .inl rfl⟩
  · obtain ⟨e, he, rfl⟩ := Option.map_eq_some_iff.1 h
    exact ⟨e, List.mem_of_mem_head? he, .inr rfl⟩

namespace Machine

/-! ## The built machine -/

/-- The machine with one more state installed, of which it has no table. -/
def installed (m : Machine I O W) (state : Int) : Machine I O W :=
  { m with
    tables := ⟨m.tables.items ++ [m.rules.tableOf state]⟩
    registry := m.registry.add state .dispatch
    counters := { m.counters with
      rulesBuilt := m.counters.rulesBuilt + (m.rules.rulesFor state).length
      states := m.counters.states + 1 } }

/-- The machine with all declared states installed, in place of all tables before. -/
def built (m : Machine I O W) : Machine I O W :=
  m.rules.states.foldl installed { m with tables := .empty }

/-- Installing states touches nothing but tables, bindings and counters. -/
theorem foldl_installed (states : List Int) (m : Machine I O W) :
    states.foldl installed m =
      { m with
        tables := ⟨m.tables.items ++ states.map m.rules.tableOf⟩
        registry := { m.registry with
          bindings := (states.map fun state => (state, .dispatch)).reverse ++ m.registry.bindings }
        counters := { m.counters with
          rulesBuilt := states.foldl (fun n state => n + (m.rules.rulesFor state).length)
            m.counters.rulesBuilt
          states := m.counters.states + states.length } } := by
  induction states generalizing m with
  | nil => simp
  | cons state rest ih =>
    rw [List.foldl_cons, ih]
    simp [installed, Registry.add, Nat.add_assoc, Nat.add_comm 1]

theorem built_eq (m : Machine I O W) :
    m.built =
      { m with
        tables := ⟨m.rules.states.map m.rules.tableOf⟩
        registry := { m.registry with
          bindings := (m.rules.states.map fun state => (state, .dispatch)).reverse ++
            m.registry.bindings }
        counters := { m.counters with
          rulesBuilt := m.rules.states.foldl (fun n state => n + (m.rules.rulesFor state).length)
            m.counters.rulesBuilt
          states := m.counters.states + m.rules.states.length } } :=
  foldl_installed m.rules.states { m with tables := .empty }

/-- The built machine has a table for exactly the declared states, with all rules of each. -/
theorem compiled_built (m : Machine I O W) (state : Int) :
    m.built.compiled state = m.rules.compile state := by
  have hfind : m.built.compiled state =
      (m.rules.states.find? (· == state)).map m.rules.tableOf := by
    rw [built_eq]
    simp only [Frame.compiled, Stack.find, List.find?_map]
    rfl
  rw [hfind]
  cases hs : m.rules.hasState state with
  | true =>
    rw [RuleSet.compile_of_hasState hs, List.find?_eq_some_iff_append.2 ?_, Option.map_some]
    obtain ⟨before, after, heq⟩ := List.append_of_mem (RuleSet.mem_states.2 hs)
    refine ⟨beq_self_eq_true state, before, after, heq, fun other ho => ?_⟩
    have hnodup := m.rules.nodup_states
    rw [heq, List.nodup_append] at hnodup
    have hne := hnodup.2.2 other ho state List.mem_cons_self
    simpa using hne
  | false =>
    rw [RuleSet.compile_of_not_hasState hs, List.find?_eq_none.2, Option.map_none]
    intro other ho he
    rw [eq_of_beq he, RuleSet.mem_states, hs] at ho
    cases ho

/-- The built machine dispatches at the declared states and does at all others what it did
before. -/
theorem get?_built (m : Machine I O W) (state : Int) :
    m.built.registry.get? state =
      if m.rules.hasState state then some .dispatch else m.registry.get? state := by
  rw [built_eq]
  simp only [Registry.get?, List.find?_append, ← List.map_reverse, List.find?_map]
  cases hs : m.rules.hasState state with
  | true =>
    have hmem := RuleSet.mem_states.2 hs
    have : ((m.rules.states.reverse.find? (· == state))).isSome = true := by
      rw [List.find?_isSome]
      exact ⟨state, List.mem_reverse.2 hmem, beq_self_eq_true state⟩
    obtain ⟨found, hf⟩ := Option.isSome_iff_exists.1 this
    have hf' : m.rules.states.reverse.find?
        ((fun binding : Int × Action I O W => binding.1 == state) ∘ fun q => (q, .dispatch)) =
        some found := hf
    rw [hf']
    rfl
  | false =>
    have hf : m.rules.states.reverse.find?
        ((fun binding : Int × Action I O W => binding.1 == state) ∘ fun q => (q, .dispatch)) =
        none := by
      rw [List.find?_eq_none]
      intro other ho he
      have heq : other = state := eq_of_beq he
      rw [heq, List.mem_reverse, RuleSet.mem_states, hs] at ho
      cases ho
    rw [hf]
    rfl

/-! ## One state built again -/

/-- The machine without the table of a state. -/
def dropped (m : Machine I O W) (state : Int) : Machine I O W :=
  { m with tables := ⟨m.tables.items.eraseP (·.state == state)⟩ }

theorem dropped_of_fresh {m : Machine I O W} {state : Int}
    (fresh : ∀ t ∈ m.tables.items, t.state ≠ state) : m.dropped state = m := by
  rw [dropped, List.eraseP_of_forall_not fun t ht => by simpa using fresh t ht]

/-- Dropping the table of a state leaves the tables of all others where they are found. -/
theorem compiled_dropped_of_ne {m : Machine I O W} {state other : Int} (ne : other ≠ state) :
    (m.dropped state).compiled other = m.compiled other := by
  simp only [dropped, Frame.compiled, Stack.find]
  induction m.tables.items with
  | nil => rfl
  | cons t rest ih =>
    by_cases ht : t.state = state
    · have hn : (state == other) = false := by simpa using Ne.symm ne
      simp [ht, hn]
    · simp [ht, List.find?_cons, ih]

/-- If there is one table at most for a state, none of it is left. -/
theorem fresh_dropped {m : Machine I O W} {state : Int}
    (nodup : (m.tables.items.map Table.state).Nodup) :
    ∀ t ∈ (m.dropped state).tables.items, t.state ≠ state := by
  simp only [dropped]
  revert nodup
  induction m.tables.items with
  | nil => exact fun _ t ht => nomatch ht
  | cons first rest ih =>
    intro nodup t ht
    obtain ⟨hnot, hrest⟩ := List.nodup_cons.1 nodup
    by_cases hf : first.state = state
    · simp only [List.eraseP_cons, hf, beq_self_eq_true, cond_true] at ht
      intro he
      rw [hf, ← he] at hnot
      exact hnot (List.mem_map_of_mem ht)
    · have hb : (first.state == state) = false := by simpa using hf
      rw [List.eraseP_cons, hb, cond_false] at ht
      rcases List.mem_cons.1 ht with rfl | ht
      · exact hf
      · exact ih hrest t ht

/-- Building a state replaces its own table and no other one. -/
theorem compiled_installed {m : Machine I O W} {state : Int}
    (nodup : (m.tables.items.map Table.state).Nodup) (other : Int) :
    ((m.dropped state).installed state).compiled other =
      if other = state then some (m.rules.tableOf state) else m.compiled other := by
  have hfind : ((m.dropped state).installed state).compiled other =
      ((m.dropped state).compiled other).or
        ([m.rules.tableOf state].find? (·.state == other)) := by
    rw [Frame.compiled, installed, Stack.find, List.find?_append]
    rfl
  rw [hfind]
  by_cases he : other = state
  · subst he
    have hnone : (m.dropped other).compiled other = none :=
      List.find?_eq_none.2 fun t ht => by simpa using fresh_dropped nodup t ht
    rw [hnone, Option.none_or, if_pos rfl]
    simp [RuleSet.tableOf]
  · have hnone : [m.rules.tableOf state].find? (·.state == other) = none := by
      simpa [RuleSet.tableOf] using Ne.symm he
    rw [compiled_dropped_of_ne he, hnone, Option.or_none, if_neg he]

theorem nodup_installed {m : Machine I O W} {state : Int}
    (nodup : (m.tables.items.map Table.state).Nodup) :
    (((m.dropped state).installed state).tables.items.map Table.state).Nodup := by
  have hsub : ((m.dropped state).tables.items.map Table.state).Nodup :=
    nodup.sublist (List.eraseP_sublist.map _)
  rw [installed, List.map_append, List.nodup_append]
  refine ⟨hsub, List.pairwise_singleton _ _, fun q hq p hp => ?_⟩
  obtain ⟨t, ht, rfl⟩ := List.mem_map.1 hq
  rw [List.mem_singleton.1 hp]
  exact fresh_dropped nodup t ht

/-! ## The code in a machine -/

/-- The machines have the same rules and tables, and to each state the same is bound. Tapes,
pointers, counters and configuration may differ. -/
structure Unaltered (m m' : Machine I O W) : Prop where
  get?_eq : ∀ state, m'.registry.get? state = m.registry.get? state
  rules_eq : m'.rules = m.rules
  tables_eq : m'.tables = m.tables

theorem Unaltered.refl (m : Machine I O W) : m.Unaltered m := ⟨fun _ => rfl, rfl, rfl⟩

/-- What may come to be run in the machine is as `p` says, and its rules are as `q` says. -/
structure Holds (p : Action I O W → Prop) (q : Rule I (Op I O W) → Prop) (m : Machine I O W) :
    Prop where
  bound : ∀ state action, m.registry.get? state = some action → p action
  rules : ∀ rule ∈ m.rules.rules, q rule
  tables : ∀ t ∈ m.tables.items, ∀ e ∈ t.entries, p e.onMatch ∧ p e.onMiss

namespace Holds

variable {p : Action I O W → Prop} {q : Rule I (Op I O W) → Prop} {m : Machine I O W}

theorem start (config : Config) : Holds p q ({ config := config } : Machine I O W) where
  bound := nofun
  rules := nofun
  tables := nofun

variable (h : m.Holds p q)
include h

/-- Tapes, pointers, counters and configuration are no code. -/
theorem of_unaltered {m' : Machine I O W} (same : m.Unaltered m') : m'.Holds p q where
  bound state action hg := h.bound state action (same.get?_eq state ▸ hg)
  rules := same.rules_eq ▸ h.rules
  tables := same.tables_eq ▸ h.tables

theorem add {state : Int} {action : Action I O W} (ha : p action) (counters : Counters) :
    Holds p q { m with registry := m.registry.add state action, counters := counters } where
  bound other found hg := by
    rw [Registry.get?_add] at hg
    split at hg
    · cases hg
      exact ha
    · exact h.bound other found hg
  rules := h.rules
  tables := h.tables

theorem erase : Holds p q { m with registry := m.registry.erase } where
  bound := nofun
  rules := h.rules
  tables := h.tables

theorem declare {rule : Rule I (Op I O W)} (hr : q rule) (counters : Counters) :
    Holds p q { m with rules := m.rules.add rule, counters := counters } where
  bound := h.bound
  rules other ho := by
    rcases List.mem_append.1 ho with ho | ho
    · exact h.rules other ho
    · exact List.mem_singleton.1 ho ▸ hr
  tables := h.tables

theorem cleared : Holds p q { m with tables := .empty } := { h with tables := nofun }

variable (dispatch : p .dispatch) (branches : ∀ rule, q rule → p rule.onMatch ∧ p rule.onMiss)
include dispatch branches

/-- Building binds the dispatching action and makes tables of the branches of rules. -/
theorem built : m.built.Holds p q where
  bound state action hg := by
    rw [get?_built] at hg
    split at hg
    · cases hg
      exact dispatch
    · exact h.bound state action hg
  rules := by
    rw [built_eq]
    exact h.rules
  tables t ht := by
    rw [built_eq] at ht
    obtain ⟨state, -, rfl⟩ := List.mem_map.1 ht
    exact RuleSet.forall_tableOf branches h.rules state

theorem installed (state : Int) : ((m.dropped state).installed state).Holds p q where
  bound other action hg := by
    rw [Machine.installed, Registry.get?_add] at hg
    split at hg
    · cases hg
      exact dispatch
    · exact h.bound other action hg
  rules := h.rules
  tables t ht := by
    rcases List.mem_append.1 ht with ht | ht
    · exact h.tables t (List.mem_of_mem_eraseP ht)
    · rw [List.mem_singleton.1 ht]
      exact RuleSet.forall_tableOf branches h.rules state

end Holds

/-! ## Machines that carry rules -/

/-- At every state of the rules the machine dispatches, by their table. -/
structure Enforces (m : Machine I O W) (rules : RuleSet I (Op I O W)) : Prop where
  bound : ∀ state, rules.hasState state = true → m.registry.get? state = some .dispatch
  compiled : ∀ state, rules.hasState state = true → m.compiled state = some (rules.tableOf state)

theorem enforces_built (m : Machine I O W) : m.built.Enforces m.rules where
  bound state hs := by rw [get?_built, if_pos hs]
  compiled state hs := by rw [compiled_built, RuleSet.compile_of_hasState hs]

/-- Tables and bindings of the machine say what the rules say, and nothing else is bound. -/
structure Carries (m : Machine I O W) (rules : RuleSet I (Op I O W)) : Prop where
  rules_eq : m.rules = rules
  compiled_eq : ∀ state, m.compiled state = rules.compile state
  bound : ∀ state, rules.hasState state = true → m.registry.get? state = some .dispatch
  unbound : ∀ state, rules.hasState state = false → m.registry.get? state = none

theorem Carries.enforces {m : Machine I O W} {rules : RuleSet I (Op I O W)} (h : m.Carries rules) :
    m.Enforces rules where
  bound := h.bound
  compiled state hs := (h.compiled_eq state).trans (RuleSet.compile_of_hasState hs)

theorem carries_built {m : Machine I O W}
    (alone : ∀ state, m.built.registry.contains state = true → m.rules.hasState state = true) :
    m.built.Carries m.rules where
  rules_eq := by rw [built_eq]
  compiled_eq := m.compiled_built
  bound state h := by rw [get?_built, if_pos h]
  unbound state h := by
    cases hg : m.built.registry.get? state with
    | none => rfl
    | some action =>
      have := alone state (by rw [Registry.contains, hg]; rfl)
      rw [h] at this
      cases this

/-- A machine that was built without any bindings before has none but those of the declared
states. -/
theorem declared_of_contains {m : Machine I O W} (fresh : m.registry.bindings = []) {state : Int}
    (h : m.built.registry.contains state = true) : m.rules.hasState state = true := by
  have hget : m.registry.get? state = none := by rw [Registry.get?, fresh]; rfl
  cases hs : m.rules.hasState state with
  | true => rfl
  | false =>
    rw [Registry.contains, get?_built, hs, hget] at h
    cases h

/-- The machines hold the same code: the same rules are declared, the same tables found and the same
actions bound. Tapes, pointers, counters and configuration may differ. -/
structure SameCode (m m' : Machine I O W) : Prop where
  rules_eq : m'.rules = m.rules
  compiled_eq : ∀ state, m'.compiled state = m.compiled state
  get?_eq : ∀ state, m'.registry.get? state = m.registry.get? state

theorem SameCode.refl (m : Machine I O W) : m.SameCode m := ⟨rfl, fun _ => rfl, fun _ => rfl⟩

theorem SameCode.trans {m₁ m₂ m₃ : Machine I O W} (h : m₁.SameCode m₂) (h' : m₂.SameCode m₃) :
    m₁.SameCode m₃ where
  rules_eq := h'.rules_eq.trans h.rules_eq
  compiled_eq state := (h'.compiled_eq state).trans (h.compiled_eq state)
  get?_eq state := (h'.get?_eq state).trans (h.get?_eq state)

theorem Unaltered.sameCode {m m' : Machine I O W} (h : m.Unaltered m') : m.SameCode m' where
  rules_eq := h.rules_eq
  compiled_eq state := by rw [Frame.compiled, h.tables_eq]; rfl
  get?_eq := h.get?_eq

theorem Enforces.of_sameCode {m m' : Machine I O W} {rules : RuleSet I (Op I O W)}
    (h : m.Enforces rules) (same : m.SameCode m') : m'.Enforces rules where
  bound state hs := (same.get?_eq state).trans (h.bound state hs)
  compiled state hs := (same.compiled_eq state).trans (h.compiled state hs)

theorem Carries.of_sameCode {m m' : Machine I O W} {rules : RuleSet I (Op I O W)}
    (h : m.Carries rules) (same : m.SameCode m') : m'.Carries rules where
  rules_eq := same.rules_eq.trans h.rules_eq
  compiled_eq state := (same.compiled_eq state).trans (h.compiled_eq state)
  bound state hs := (same.get?_eq state).trans (h.bound state hs)
  unbound state hs := (same.get?_eq state).trans (h.unbound state hs)

end Machine

/-! ## Building -/

namespace Session

/-- Writing down changes the log alone. -/
theorem exists_note (s : Session I O W) (entry : LogEntry I O) :
    ∃ log, s.note entry = { s with log := log } := by
  unfold note
  split
  · exact ⟨_, rfl⟩
  · exact ⟨s.log, rfl⟩

theorem dropTable_eq (state : Int) (s : Session I O W) :
    dropTable state s = (.ok (), { s with machine := s.machine.dropped state }) := by
  rw [dropTable, Machine.dropped, List.eraseP_eq_eraseIdx]
  cases hp : s.machine.tables.position (·.state == state) with
  | none =>
    have hf : s.machine.tables.items.findIdx? (·.state == state) = none := hp
    rw [hf]
  | some index =>
    have hf : s.machine.tables.items.findIdx? (·.state == state) = some index := hp
    obtain ⟨hi, -, -⟩ := List.findIdx?_eq_some_iff_getElem.1 hf
    simp only [hf, Stack.remove, List.getElem?_eq_getElem hi]

/-- A declared state can be built, whatever the machine has compiled before. -/
theorem install_of_hasState {s : Session I O W} {state : Int}
    (declared : s.machine.rules.hasState state = true) :
    ∃ log, install state s =
      (.ok (), { s with machine := (s.machine.dropped state).installed state, log := log }) := by
  obtain ⟨log, hn⟩ := s.exists_note (.buildingState state (s.machine.rules.tableOf state).len)
  have hnote : (Attempt.change
      (·.note (.buildingState state (s.machine.rules.tableOf state).len))) s =
      (.ok (), { s with log := log }) := by rw [Attempt.change, hn]
  have hdrop : dropTable state { s with log := log } =
      (.ok (), { s with machine := s.machine.dropped state, log := log }) := dropTable_eq _ _
  obtain ⟨log', hn'⟩ := exists_note (W := W)
    { s with
      log := log
      machine := { s.machine.dropped state with
        counters.rulesBuilt :=
          s.machine.counters.rulesBuilt + (s.machine.rules.tableOf state).len
        tables := ((s.machine.dropped state).tables.push (s.machine.rules.tableOf state)).2 } }
    (.addingState state)
  refine ⟨log', ?_⟩
  refine (Attempt.bind_of_ok (Attempt.ask_of_ok (a := s.machine.rules.tableOf state) ?_)).trans <|
    (Attempt.bind_of_ok hnote).trans <| (Attempt.bind_of_ok hdrop).trans <|
    (Attempt.bind_of_ok rfl).trans ?_
  · rw [RuleSet.compile_of_hasState declared]
  rw [bindAction, Attempt.change]
  simp only [Machine.dropped] at hn' ⊢
  simp only [hn']
  simp [Machine.installed, Table.len, RuleSet.tableOf, Stack.push]

theorem install_of_fresh {s : Session I O W} {state : Int}
    (declared : s.machine.rules.hasState state = true)
    (fresh : ∀ t ∈ s.machine.tables.items, t.state ≠ state) :
    ∃ log, install state s =
      (.ok (), { s with machine := s.machine.installed state, log := log }) := by
  have h := install_of_hasState declared
  rwa [Machine.dropped_of_fresh fresh] at h

theorem install_of_not_hasState {s : Session I O W} {state : Int}
    (undeclared : s.machine.rules.hasState state = false) :
    install state s = (.error (.noRulesForState state), s) := by
  refine Attempt.bind_of_error (Attempt.ask_of_error ?_)
  rw [RuleSet.compile_of_not_hasState undeclared]

theorem installAll_of_fresh {states : List Int} {s : Session I O W} (nodup : states.Nodup)
    (declared : ∀ state ∈ states, s.machine.rules.hasState state = true)
    (fresh : ∀ state ∈ states, ∀ t ∈ s.machine.tables.items, t.state ≠ state) :
    ∃ log, installAll states s =
      (.ok (), { s with machine := states.foldl Machine.installed s.machine, log := log }) := by
  induction states generalizing s with
  | nil => exact ⟨s.log, rfl⟩
  | cons state rest ih =>
    obtain ⟨hnot, hrest⟩ := List.nodup_cons.1 nodup
    obtain ⟨log, hi⟩ := install_of_fresh (declared state List.mem_cons_self)
      (fresh state List.mem_cons_self)
    have hfresh : ∀ q ∈ rest, ∀ t ∈ (s.machine.installed state).tables.items, t.state ≠ q := by
      intro q hq t ht
      -- the new table is that of a state which does not come again
      rcases List.mem_append.1 ht with ht | ht
      · exact fresh q (List.mem_cons_of_mem _ hq) t ht
      · rw [List.mem_singleton.1 ht]
        exact fun he : state = q => hnot (he ▸ hq)
    obtain ⟨log', hr⟩ := ih (s := { s with machine := s.machine.installed state, log := log }) hrest
      (fun q hq => declared q (List.mem_cons_of_mem _ hq)) hfresh
    exact ⟨log', (Attempt.bind_of_ok hi).trans hr⟩

theorem build_of_ne_nil {s : Session I O W} (declared : s.machine.rules.rules ≠ []) :
    ∃ log, build s = (.ok (), { s with machine := s.machine.built, log := log }) := by
  obtain ⟨log, hn⟩ := s.exists_note .clearingTables
  have hclear : (Attempt.change fun s : Session I O W =>
      let s := s.note .clearingTables
      { s with machine.tables := .empty }) s =
      (.ok (), { s with log := log, machine.tables := .empty }) := by
    rw [Attempt.change]
    simp only [hn]
  obtain ⟨log', hi⟩ := installAll_of_fresh (s := { s with log := log, machine.tables := .empty })
    s.machine.rules.nodup_states (fun _ h => RuleSet.mem_states.1 h) (fun _ _ t ht => nomatch ht)
  have hnot : s.machine.rules.isEmpty = false := by simpa [RuleSet.isEmpty] using declared
  refine ⟨log', (Attempt.bind_of_ok hclear).trans <| (Attempt.bind_of_ok rfl).trans ?_⟩
  simp only [hnot, Bool.false_eq_true, ↓reduceIte]
  exact hi

theorem build_of_nil {s : Session I O W} (none_declared : s.machine.rules.rules = []) :
    ∃ log, build s = (.error .emptyRuleSet, { s with machine.tables := .empty, log := log }) := by
  obtain ⟨log, hn⟩ := s.exists_note .clearingTables
  have hclear : (Attempt.change fun s : Session I O W =>
      let s := s.note .clearingTables
      { s with machine.tables := .empty }) s =
      (.ok (), { s with log := log, machine.tables := .empty }) := by
    rw [Attempt.change]
    simp only [hn]
  have hnone : s.machine.rules.isEmpty = true := by simpa [RuleSet.isEmpty] using none_declared
  refine ⟨log, (Attempt.bind_of_ok hclear).trans <| (Attempt.bind_of_ok rfl).trans ?_⟩
  simp only [hnone, ↓reduceIte]
  rfl

theorem buildState_eq (state : Int) (s : Session I O W) :
    buildState state s =
      (if s.machine.rules.isEmpty then .fail .emptyRuleSet else install state :
        Attempt (Session I O W) Unit) s :=
  Attempt.bind_of_ok rfl

theorem buildState_of_hasState {s : Session I O W} {state : Int}
    (declared : s.machine.rules.hasState state = true) :
    ∃ log, buildState state s =
      (.ok (), { s with machine := (s.machine.dropped state).installed state, log := log }) := by
  obtain ⟨rule, hr, -⟩ := RuleSet.hasState_iff_exists_mem.1 declared
  have hnot : s.machine.rules.isEmpty = false := by
    simpa [RuleSet.isEmpty] using List.ne_nil_of_mem hr
  rw [buildState_eq, hnot, if_neg Bool.false_ne_true]
  exact install_of_hasState declared

end Session

end TapeMachine
