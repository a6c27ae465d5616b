import Mathlib.Data.List.Sort
import TapeMachine.Proofs.Rules.BuildOrder

/-!
# Rules that are shadowed

The table of a state is searched from its first entry on, and on a miss the first entry says what to
do. So a rule whose symbol an earlier rule of the same state reads already, or an equal one, is
never chosen: it is not the first one, and whatever matches it matched before. Rules of different
states do not meet at all: building groups them by state, in increasing order of the states, however
they were declared.

Two lists of rules that leave the same rules in every state, once the shadowed ones are out, make
the same machine but for the shadowed entries in its tables and the numbers of rules declared and
built. Code that looks at neither cannot tell them apart.

Results:
1. `head?_unshadowed`, `find?_unshadowed`: shadowed items are neither first nor found.
2. `Machine.SameUnshadowed.congruence`: machines that differ in shadowed rules and entries go on
   alike.
3. `Session.build_of_sameUnshadowed`: so do machines that were given either list of rules;
   `Session.build_of_sameUnshadowed_counted`: but not if code looks at how many they were given.
-/

namespace TapeMachine

variable {α β I O W A P : Type}

/-! ## Lists without the shadowed items -/

/-- The items that no earlier item shadows. -/
def unshadowed (shadows : α → α → Bool) : List α → List α
  | [] => []
  | a :: rest => a :: (unshadowed shadows rest).filter (!shadows a ·)

section Unshadowed

variable {shadows : α → α → Bool}

theorem unshadowed_sublist (shadows : α → α → Bool) (l : List α) :
    (unshadowed shadows l).Sublist l := by
  induction l with
  | nil => exact .slnil
  | cons a rest ih => exact (List.filter_sublist.trans ih).cons_cons a

/-- The first item is shadowed by none. -/
theorem head?_unshadowed (shadows : α → α → Bool) (l : List α) :
    (unshadowed shadows l).head? = l.head? := by
  cases l <;> rfl

theorem unshadowed_eq_nil_iff {l : List α} : unshadowed shadows l = [] ↔ l = [] := by
  rw [← List.head?_eq_none_iff, head?_unshadowed, List.head?_eq_none_iff]

/-- Where items shadow only items of their own kind, one kind may be looked at alone. -/
theorem unshadowed_filter {p : α → Bool} (own : ∀ a b, shadows a b = true → p b = true → p a = true)
    (l : List α) : unshadowed shadows (l.filter p) = (unshadowed shadows l).filter p := by
  induction l with
  | nil => rfl
  | cons a rest ih =>
    rw [unshadowed]
    cases ha : p a with
    | true =>
      rw [List.filter_cons_of_pos ha, List.filter_cons_of_pos ha, unshadowed, ih, List.filter_comm]
    | false =>
      have ha' : ¬p a = true := by simp [ha]
      rw [List.filter_cons_of_neg ha', List.filter_cons_of_neg ha', ih, List.filter_filter]
      refine List.filter_congr fun b _ => ?_
      cases hb : p b with
      | false => rfl
      | true =>
        have : shadows a b = false := Bool.eq_false_iff.2 fun hs => ha' (own a b hs hb)
        rw [this]
        rfl

/-- What is searched for is found before it is shadowed. -/
theorem find?_unshadowed {p : α → Bool} (own : ∀ a b, shadows a b = true → p b = true → p a = true)
    (l : List α) : (unshadowed shadows l).find? p = l.find? p := by
  rw [← List.head?_filter, ← List.head?_filter, ← unshadowed_filter own, head?_unshadowed]

theorem any_unshadowed {p : α → Bool} (own : ∀ a b, shadows a b = true → p b = true → p a = true)
    (l : List α) : (unshadowed shadows l).any p = l.any p := by
  rw [Bool.eq_iff_iff, List.any_eq_true, List.any_eq_true, ← List.find?_isSome, ← List.find?_isSome,
    find?_unshadowed own]

/-- Of the items behind a list, those stay that are shadowed neither among themselves nor by an item
of the list. -/
theorem unshadowed_append (l l' : List α) :
    unshadowed shadows (l ++ l') =
      unshadowed shadows l ++ (unshadowed shadows l').filter fun b => !l.any (shadows · b) := by
  induction l with
  | nil => simp [unshadowed]
  | cons a rest ih =>
    rw [List.cons_append, unshadowed, unshadowed, ih, List.filter_append, List.filter_filter,
      List.cons_append]
    simp only [List.any_cons, Bool.not_or]

theorem unshadowed_map {shadows : β → β → Bool} (f : α → β) (l : List α) :
    unshadowed shadows (l.map f) = (unshadowed (fun a b => shadows (f a) (f b)) l).map f := by
  induction l with
  | nil => rfl
  | cons a rest ih =>
    rw [List.map_cons, unshadowed, ih, List.filter_map, unshadowed, List.map_cons]
    rfl

theorem unshadowed_congr {shadows' : α → α → Bool} {l : List α}
    (same : ∀ a ∈ l, ∀ b ∈ l, shadows' a b = shadows a b) :
    unshadowed shadows' l = unshadowed shadows l := by
  induction l with
  | nil => rfl
  | cons a rest ih =>
    have later : unshadowed shadows' rest = unshadowed shadows rest :=
      ih fun b hb c hc => same b (List.mem_cons_of_mem _ hb) c (List.mem_cons_of_mem _ hc)
    rw [unshadowed, unshadowed, later]
    refine congrArg (a :: ·) (List.filter_congr fun b hb => ?_)
    rw [same a List.mem_cons_self b
      (List.mem_cons_of_mem _ ((unshadowed_sublist shadows rest).subset hb))]

end Unshadowed

/-! ## Rules and entries -/

/-- The rule leaves nothing to a later one: that is for the same state and reads an equal symbol. -/
def Rule.shadows [BEq I] (r r' : Rule I P) : Bool := r.state == r'.state && r.read == r'.read

/-- For every state the same rules are left, in the same order, once the shadowed ones are out. -/
def RuleSet.SameUnshadowed [BEq I] (rs rs' : RuleSet I P) : Prop :=
  ∀ state, (unshadowed Rule.shadows rs'.rules).filter (·.state == state) =
    (unshadowed Rule.shadows rs.rules).filter (·.state == state)

/-- The table without entries whose condition is that of an earlier one. -/
def Table.unshadowed [BEq I] (t : Table I A) : Table I A :=
  ⟨t.state, TapeMachine.unshadowed (fun e e' => e.condition == e'.condition) t.entries⟩

section Rules

variable [BEq I] {rs rs' : RuleSet I P}

theorem Rule.state_eq_of_shadows {r r' : Rule I P} {state : Int} (h : r.shadows r' = true)
    (hs : (r'.state == state) = true) : (r.state == state) = true := by
  rw [Rule.shadows, Bool.and_eq_true, beq_iff_eq] at h
  rw [h.1]
  exact hs

theorem Rule.shadows_trans [PartialEquivBEq I] {r₁ r₂ r₃ : Rule I P} (h : r₁.shadows r₂ = true)
    (h' : r₂.shadows r₃ = true) : r₁.shadows r₃ = true := by
  rw [Rule.shadows, Bool.and_eq_true] at h h' ⊢
  exact ⟨BEq.trans h.1 h'.1, BEq.trans h.2 h'.2⟩

namespace RuleSet

theorem unshadowed_rulesFor (rs : RuleSet I P) (state : Int) :
    unshadowed Rule.shadows (rs.rulesFor state) =
      (unshadowed Rule.shadows rs.rules).filter (·.state == state) :=
  unshadowed_filter (fun _ _ hs hp => Rule.state_eq_of_shadows hs hp) rs.rules

namespace SameUnshadowed

theorem refl (rs : RuleSet I P) : rs.SameUnshadowed rs := fun _ => rfl

variable (h : rs.SameUnshadowed rs')
include h

theorem rulesFor (state : Int) :
    unshadowed Rule.shadows (rs'.rulesFor state) = unshadowed Rule.shadows (rs.rulesFor state) := by
  rw [unshadowed_rulesFor, unshadowed_rulesFor, h]

theorem hasState_eq (state : Int) : rs'.hasState state = rs.hasState state := by
  have none : rs'.rulesFor state = [] ↔ rs.rulesFor state = [] := by
    rw [← unshadowed_eq_nil_iff, h.rulesFor, unshadowed_eq_nil_iff]
  rw [Bool.eq_iff_iff, hasState_iff_rulesFor_ne_nil, hasState_iff_rulesFor_ne_nil]
  exact not_congr none

/-- The states are listed in increasing order, so all that matters is which they are. -/
theorem states_eq : rs'.states = rs.states := by
  refine rs'.pairwise_states.eq_of_mem_iff rs.pairwise_states fun {state} => ?_
  rw [mem_states, mem_states, h.hasState_eq]

omit h

/-- More rules behind these, among which again the same are left. -/
theorem append [PartialEquivBEq I] {l l' m m' : List (Rule I P)} (h : SameUnshadowed ⟨l⟩ ⟨l'⟩)
    (hm : SameUnshadowed ⟨m⟩ ⟨m'⟩) : SameUnshadowed ⟨l ++ m⟩ ⟨l' ++ m'⟩ := by
  intro state
  have before : unshadowed Rule.shadows (l'.filter (·.state == state)) =
      unshadowed Rule.shadows (l.filter (·.state == state)) := h.rulesFor state
  -- whether a rule is shadowed from before is said by the rules of its state that are left there
  have shadowed (k : List (Rule I P)) {r : Rule I P} (hr : (r.state == state) = true) :
      k.any (Rule.shadows · r) =
        (unshadowed Rule.shadows (k.filter (·.state == state))).any (Rule.shadows · r) := by
    rw [any_unshadowed fun _ _ hs hp => Rule.shadows_trans hs hp, List.any_filter]
    refine congrArg k.any (funext fun a => ?_)
    cases ha : a.shadows r with
    | false => rw [Bool.and_false]
    | true => rw [Rule.state_eq_of_shadows ha hr, Bool.and_true]
  have behind (k : List (Rule I P)) (n : List (Rule I P)) :
      ((unshadowed Rule.shadows n).filter fun r => !k.any (Rule.shadows · r)).filter
        (·.state == state) = ((unshadowed Rule.shadows n).filter (·.state == state)).filter fun r =>
          !(unshadowed Rule.shadows (k.filter (·.state == state))).any (Rule.shadows · r) := by
    rw [List.filter_comm]
    refine List.filter_congr fun r hr => ?_
    rw [shadowed k (List.mem_filter.1 hr).2]
  rw [unshadowed_append, unshadowed_append, List.filter_append, List.filter_append, h, behind,
    behind, hm, before]

end SameUnshadowed

end RuleSet

/-- A shadowed entry is neither found nor the first one, so no branch is lost. -/
theorem Table.select_unshadowed [PartialEquivBEq I] (t : Table I A) (symbol : I) :
    t.unshadowed.select symbol = t.select symbol := by
  have found : t.unshadowed.entries.find? (·.condition == symbol) =
      t.entries.find? (·.condition == symbol) :=
    find?_unshadowed (fun _ _ hs hp => BEq.trans hs hp) t.entries
  have first : t.unshadowed.entries.head? = t.entries.head? := head?_unshadowed _ t.entries
  rw [select, select, found, first]

/-- The rules that are left of a state are compiled to the entries that are left. -/
theorem RuleSet.SameUnshadowed.unshadowed_tableOf {rs rs' : RuleSet I (Op I O W)}
    (h : rs.SameUnshadowed rs') (state : Int) :
    (rs'.tableOf state).unshadowed = (rs.tableOf state).unshadowed := by
  have left (rs : RuleSet I (Op I O W)) : (rs.tableOf state).unshadowed =
      ⟨state, (unshadowed Rule.shadows (rs.rulesFor state)).map Rule.entry⟩ := by
    refine congrArg (Table.mk state)
      ((unshadowed_map Rule.entry _).trans (congrArg (List.map Rule.entry) ?_))
    refine unshadowed_congr fun r hr r' hr' => ?_
    have one : (r.state == r'.state) = true := by
      have hs := (List.mem_filter.1 hr).2
      have hs' := (List.mem_filter.1 hr').2
      rw [eq_of_beq hs, eq_of_beq hs']
      exact beq_self_eq_true state
    show _ = (r.state == r'.state && r.read == r'.read)
    rw [one, Bool.true_and]
    rfl
  rw [left, left, h.rulesFor]

end Rules

/-! ## Machines -/

/-- The frames hold the same but for rules, tables, and the numbers of rules declared and built. -/
structure Frame.SameButRules (m n : Frame I O A P) : Prop where
  config_eq : n.config = m.config
  inputs_eq : n.inputs = m.inputs
  outputs_eq : n.outputs = m.outputs
  registry_eq : n.registry = m.registry
  states_eq : n.counters.states = m.counters.states
  transitions_eq : n.counters.transitions = m.counters.transitions

/-- Code that looks at neither rules nor tables, nor at how many rules were declared and built. -/
def View.ruleless : View I O where
  same := Frame.SameButRules
  configures := True
  executes := True

/-- Code that looks at nothing but the counters of the machine, and neither configures it nor starts
runs. -/
def View.countersOnly : View I O where
  same o o' := o'.counters = o.counters
  configures := False
  executes := False

namespace Machine

/-- The machines differ at most in shadowed rules and entries, and in the numbers of rules declared
and built. -/
structure SameUnshadowed [BEq I] (m n : Machine I O W) : Prop extends Frame.SameButRules m n where
  rules : m.rules.SameUnshadowed n.rules
  tables : n.tables.items.map Table.unshadowed = m.tables.items.map Table.unshadowed

namespace SameUnshadowed

variable [BEq I] {m n : Machine I O W}

variable (h : m.SameUnshadowed n)
include h

theorem outline : Frame.SameButRules m.outline n.outline :=
  { h with registry_eq := congrArg (Registry.map fun _ => ()) h.registry_eq }

theorem branch_eq [PartialEquivBEq I] (state : Int) (symbol : I) :
    (n.compiled state).bind (·.select symbol) = (m.compiled state).bind (·.select symbol) := by
  have left (m : Machine I O W) : (m.compiled state).bind (·.select symbol) =
      ((m.tables.items.map Table.unshadowed).find? (·.state == state)).bind (·.select symbol) := by
    rw [List.find?_map, Option.bind_map]
    exact congrArg (m.compiled state).bind (funext fun t => (t.select_unshadowed symbol).symm)
  rw [left, left, h.tables]

theorem built : Machine.SameUnshadowed (Machine.built m) (Machine.built n) where
  config_eq := by rw [built_eq, built_eq]; exact h.config_eq
  inputs_eq := by rw [built_eq, built_eq]; exact h.inputs_eq
  outputs_eq := by rw [built_eq, built_eq]; exact h.outputs_eq
  registry_eq := by rw [built_eq, built_eq, h.rules.states_eq, h.registry_eq]
  states_eq := by rw [counters_built, counters_built, h.rules.states_eq, h.states_eq]
  transitions_eq := by rw [counters_built, counters_built]; exact h.transitions_eq
  rules := by rw [built_eq, built_eq]; exact h.rules
  tables := by
    rw [built_eq, built_eq, h.rules.states_eq, List.map_map, List.map_map]
    exact List.map_congr_left fun state _ => h.rules.unshadowed_tableOf state

theorem installed (state : Int) :
    Machine.SameUnshadowed ((dropped m state).installed state)
    ((dropped n state).installed state) where
  config_eq := h.config_eq
  inputs_eq := h.inputs_eq
  outputs_eq := h.outputs_eq
  registry_eq := congrArg (Registry.add · state Action.dispatch) h.registry_eq
  states_eq := congrArg (· + 1) h.states_eq
  transitions_eq := h.transitions_eq
  rules := h.rules
  tables := by
    have dropped (m : Machine I O W) :
        (m.tables.items.eraseP (·.state == state)).map Table.unshadowed =
        (m.tables.items.map Table.unshadowed).eraseP (·.state == state) := by
      rw [List.eraseP_map]
      rfl
    show (n.tables.items.eraseP _ ++ [n.rules.tableOf state]).map _ =
      (m.tables.items.eraseP _ ++ [m.rules.tableOf state]).map _
    rw [List.map_append, List.map_append, dropped, dropped, h.tables, List.map_singleton,
      List.map_singleton, h.rules.unshadowed_tableOf]

omit h

/-- Machines that differ in what is shadowed go on alike for code that does not look at rules. -/
theorem congruence [PartialEquivBEq I] :
    Congruence View.ruleless (Machine.SameUnshadowed : Machine I O W → Machine I O W → Prop) where
  seen h := h.outline
  inputs_eq h := h.inputs_eq
  outputs_eq h := h.outputs_eq
  get?_eq h state := by rw [h.registry_eq]
  current_eq h := by rw [h.registry_eq]
  default_eq h := by rw [h.registry_eq]
  hasState_eq h := h.rules.hasState_eq
  branch_eq h := h.branch_eq
  ends_eq h _ := by rw [h.config_eq]
  configured h _ update := { h with config_eq := congrArg (·.update update) h.config_eq }
  inputs h b := { h with inputs_eq := rfl }
  outputs h b := { h with outputs_eq := rfl }
  bound h state action :=
    { h with
      registry_eq := congrArg (Registry.add · state action) h.registry_eq
      states_eq := congrArg (· + 1) h.states_eq }
  current h state := { h with registry_eq := congrArg (Registry.setCurrent · state) h.registry_eq }
  default h state := { h with registry_eq := congrArg (Registry.setDefault · state) h.registry_eq }
  erased h := { h with registry_eq := congrArg Registry.erase h.registry_eq }
  counted h := { h with transitions_eq := congrArg (· + 1) h.transitions_eq }
  declared h rule := { h with rules := .append h.rules (.refl ⟨[rule]⟩) }
  cleared h := { h with tables := rfl }
  built h := h.built
  installed h state _ := h.installed state

end SameUnshadowed

end Machine

/-! ## Sessions -/

namespace Session

variable [BEq I] [PartialEquivBEq I] [BEq O]

/-- Sessions whose machines differ in what is shadowed, after the same was told, go on alike. -/
theorem goOnAlike_of_sameUnshadowed {s t : Session I O W}
    (h : s.Abreast .ruleless Machine.SameUnshadowed True t) :
    GoOnAlike .ruleless Machine.SameUnshadowed s t :=
  fun fuel _ respect => Machine.SameUnshadowed.congruence.transcript fuel
    (fun call hc => ⟨View.allows_of_all trivial trivial call, respect call hc⟩) h

omit [BEq O] in
theorem abreast_declareAll {s t t' : Session I O W} {rules rules' : List (Rule I (Op I O W))}
    (same : RuleSet.SameUnshadowed ⟨rules⟩ ⟨rules'⟩) (code : s.machine.Respects .ruleless)
    (respect : ∀ rule ∈ rules, rule.Respects .ruleless)
    (ht : Programs.declareAll rules s = (.ok (), t))
    (ht' : Programs.declareAll rules' s = (.ok (), t')) :
    t.Abreast .ruleless Machine.SameUnshadowed True t' := by
  obtain ⟨l, hs⟩ := declareAll_eq rules s
  obtain ⟨l', hs'⟩ := declareAll_eq rules' s
  rw [hs] at ht
  rw [hs'] at ht'
  cases ht
  cases ht'
  refine ⟨⟨⟨rfl, rfl, rfl, rfl, rfl, rfl⟩, .append (.refl _) same, rfl⟩, ?_, rfl,
    fun _ => rfl, fun _ => rfl⟩
  exact { code with rules := fun rule hr =>
    (List.mem_append.1 hr).elim (code.rules rule) (respect rule) }

/-- Two lists of rules are declared on the same machine and built; for every state they leave the
same rules, once those are out that come after a rule of the same state with an equal symbol.
Equality of symbols is symmetric and transitive, and no code looks at rules or tables, nor at how
many rules were declared and built. Then building is answered alike, and the two sessions go on
alike, whatever calls are made from then on, and at every point of every run: all that ever differs
in the two machines are shadowed rules and entries and those two numbers. -/
theorem build_of_sameUnshadowed {s : Session I O W} {rules rules' : List (Rule I (Op I O W))}
    (same : RuleSet.SameUnshadowed ⟨rules⟩ ⟨rules'⟩) (code : s.machine.Respects .ruleless)
    (respect : ∀ rule ∈ rules, rule.Respects .ruleless) :
    ∃ result t t', (Programs.declareAll rules >>= fun _ => build) s = (result, t) ∧
      (Programs.declareAll rules' >>= fun _ => build) s = (result, t') ∧
      t.Abreast .ruleless Machine.SameUnshadowed True t' ∧
      GoOnAlike .ruleless Machine.SameUnshadowed t t' ∧
      ∀ fuel n start, Standing.Alike (Abreast .ruleless Machine.SameUnshadowed True)
        (underway fuel n start t) (underway fuel n start t') := by
  obtain ⟨l, hs⟩ := declareAll_eq rules s
  obtain ⟨l', hs'⟩ := declareAll_eq rules' s
  have c :
      Machine.Congruence View.ruleless
          (Machine.SameUnshadowed : Machine I O W → Machine I O W → Prop) :=
    Machine.SameUnshadowed.congruence
  have built := c.build (abreast_declareAll same code respect hs hs')
  rw [Attempt.bind_of_ok hs, Attempt.bind_of_ok hs']
  generalize build _ = p at built
  generalize build _ = q at built
  cases built with
  | answered _ h =>
    exact ⟨_, _, _, rfl, rfl, h, goOnAlike_of_sameUnshadowed h, fun fuel n start =>
      c.underway c.dispatchesAlike fuel n start h⟩
  | refused h =>
    exact ⟨_, _, _, rfl, rfl, h, goOnAlike_of_sameUnshadowed h, fun fuel n start =>
      c.underway c.dispatchesAlike fuel n start h⟩

/-- The second list is in another order, and two of its rules are shadowed; the first of these would
lead elsewhere. Its table of state 0 is longer, and the run steps to state 1 and halts there on a
miss with either list. -/
theorem build_of_sameUnshadowed_reordered :
    ∃ (s t t' : Session Bool Bool Unit) (rules rules' : List (Rule Bool (Op Bool Bool Unit))),
      (Programs.declareAll rules >>= fun _ => build) s = (.ok (), t) ∧
      (Programs.declareAll rules' >>= fun _ => build) s = (.ok (), t') ∧
      (t.machine.compiled 0).map Table.conditions = some [true, false] ∧
      (t'.machine.compiled 0).map Table.conditions = some [true, true, false] ∧
      (serve 3 (.execute (.state 0)) t).map
        (fun x => (x.1.toOption.isSome, x.2.machine.registry.current,
        x.2.machine.counters.transitions, x.2.events.size)) = some (true, 1, 2, 4) ∧
      GoOnAlike .ruleless Machine.SameUnshadowed t t' := by
  let rule (state : Int) (read : Bool) (next : Option Int) : Rule Bool (Op Bool Bool Unit) :=
    { state := state, read := read, next := next }
  let rules := [rule 0 true (some 1), rule 1 false none, rule 0 false none]
  let rules' := [rule 1 false none, rule 0 true (some 1), rule 0 true (some 9), rule 0 false none,
    rule 1 false (some 0)]
  let s : Session Bool Bool Unit :=
    { machine := { inputs := { tapes := ⟨[.ofSequence (.ofList [true])]⟩ } },
      observed := true, world := () }
  have same : RuleSet.SameUnshadowed (⟨rules⟩ : RuleSet Bool (Op Bool Bool Unit)) ⟨rules'⟩ := by
    have left : unshadowed Rule.shadows rules' =
        [rule 1 false none, rule 0 true (some 1), rule 0 false none] := rfl
    intro state
    show (unshadowed Rule.shadows rules').filter _ = rules.filter _
    rw [left]
    by_cases h0 : state = 0
    · subst h0
      rfl
    · by_cases h1 : state = 1
      · subst h1
        rfl
      · simp [rules, rule, Ne.symm h0, Ne.symm h1]
  have respect : ∀ r ∈ rules, r.Respects .ruleless := by
    have plain (state : Int) (read : Bool)
        (next : Option Int) : (rule state read next).Respects .ruleless := by
      rintro op (h | h | h) <;> cases h
    simp only [rules, List.forall_mem_cons]
    exact ⟨plain 0 true (some 1), plain 1 false none, plain 0 false none, List.forall_mem_nil _⟩
  obtain ⟨result, t, t', ht, ht', -, go, -⟩ :=
    build_of_sameUnshadowed (s := s) same ⟨nofun, nofun, nofun⟩ respect
  have built : ((Programs.declareAll rules >>= fun _ => build) s).1.toOption = some () := by
    decide +kernel
  have table :
      (((Programs.declareAll rules >>= fun _ => build) s).2.machine.compiled 0).map
        Table.conditions =
      some [true, false] := by decide +kernel
  have table' :
      (((Programs.declareAll rules' >>= fun _ => build) s).2.machine.compiled 0).map
        Table.conditions =
      some [true, true, false] := by decide +kernel
  have run :
      (serve 3 (.execute (.state 0)) ((Programs.declareAll rules >>= fun _ => build) s).2).map
        (fun x =>
        (x.1.toOption.isSome, x.2.machine.registry.current, x.2.machine.counters.transitions,
        x.2.events.size)) = some (true, 1, 2, 4) := by decide +kernel
  rw [ht] at built table run
  rw [ht'] at table'
  cases result with
  | error e => cases built
  | ok _ => exact ⟨s, t, t', rules, rules', ht, ht', table, table', run, go⟩

/-- That no code looks at the two numbers is needed. One rule is declared once on one machine and
twice on another; the second time it is shadowed. State 5 looks at how many rules were declared and
state 6 at how many were built, and at nothing else of the machine. Both halt on the first machine
and fail on the second. -/
theorem build_of_sameUnshadowed_counted :
    ∃ (s t t' : Session Bool Bool Unit) (rules rules' : List (Rule Bool (Op Bool Bool Unit))),
      s.machine.Respects .countersOnly ∧ (∀ rule ∈ rules, rule.Respects .countersOnly) ∧
      RuleSet.SameUnshadowed ⟨rules⟩ ⟨rules'⟩ ∧
      (Programs.declareAll rules >>= fun _ => build) s = (.ok (), t) ∧
      (Programs.declareAll rules' >>= fun _ => build) s = (.ok (), t') ∧
      ∀ state ∈ [5, 6],
        (serve 2 (.execute (.state state)) t).map (·.1.toOption.isSome) = some true ∧
        (serve 2 (.execute (.state state)) t').map (·.1.toOption.isSome) = some false := by
  let rule : Rule Bool (Op Bool Bool Unit) := { state := 0, read := true }
  let once (number : Counters → Nat) : Action Bool Bool Unit := .inspect fun o =>
    if number o.counters = 1 then .halt else .fail (.unknownState 9)
  let s : Session Bool Bool Unit :=
    { machine :=
        { registry := { bindings := [(6, once (·.rulesBuilt)), (5, once (·.rulesDeclared))] }
          counters := ⟨2, 0, 0, 0⟩ }
      world := () }
  have counting (number : Counters → Nat) : (once number).Respects .countersOnly := by
    refine .inspect (fun o o' h => ?_) fun o => ?_
    · rw [show o'.counters = o.counters from h]
    · split
      · exact .halt
      · exact .fail _
  have code : s.machine.Respects .countersOnly :=
    { bound := fun state action hg => by
        obtain ⟨binding, hf, rfl⟩ := Option.map_eq_some_iff.1 hg
        have among := List.mem_of_find?_eq_some hf
        simp only [s, List.mem_cons, List.not_mem_nil, or_false] at among
        rcases among with rfl | rfl
        · exact counting (·.rulesBuilt)
        · exact counting (·.rulesDeclared)
      rules := nofun
      tables := nofun }
  have plain : ∀ r ∈ [rule], r.Respects .countersOnly := by
    simp only [List.forall_mem_singleton]
    rintro op (h | h | h) <;> cases h
  have same : RuleSet.SameUnshadowed (⟨[rule]⟩ : RuleSet Bool (Op Bool Bool Unit)) ⟨[rule, rule]⟩ :=
    fun _ => rfl
  refine ⟨s, _, _, [rule], [rule, rule], code, plain, same, rfl, rfl, ?_⟩
  simp only [List.forall_mem_cons]
  exact ⟨⟨by decide +kernel, by decide +kernel⟩, ⟨by decide +kernel, by decide +kernel⟩,
    List.forall_mem_nil _⟩

end Session

end TapeMachine
