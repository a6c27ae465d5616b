import Mathlib.Data.List.Destutter
import Mathlib.Data.List.Nodup
import Mathlib.Data.List.Sort
import Mathlib.Tactic.TFAE
import TapeMachine.Proofs.Rules.Build

/-!
# The tables share out the rules

Building takes the rules of each state into a table of its own. Rules can be declared several times
over, so that a rule does not tell which declaration it came from; its place in the list of
declarations does. The tables of all states, one behind the other, have one entry for each place,
and the places of one table are in increasing order.

Results:
1. `RuleSet.states_eq_destutter_mergeSort`: the states are sorted and then freed of repetitions.
2. `RuleSet.mem_places`, `RuleSet.pairwise_places`, `RuleSet.perm_flatMap_places`: each state has
   places of its own, and together they are all places.
3. `RuleSet.prepares_tableOf`: the entries of a table are those of the rules at the places of its
   state.
4. `Table.exists_chosen`: the branch that a table has for a symbol.
5. `RuleSet.compile_shares_out`: states, tables and branches of every list of rules.
-/

namespace TapeMachine

variable {α I O W A P : Type}

/-! ## States -/

/-- To leave out what repeats its neighbour loses no member. -/
theorem mem_destutter'_ne [DecidableEq α] {l : List α} {a b : α} :
    b ∈ l.destutter' (· ≠ ·) a ↔ b ∈ a :: l := by
  induction l generalizing a with
  | nil => rfl
  | cons c rest ih =>
    by_cases h : a = c
    · rw [List.destutter'_cons_neg rest (not_not.2 h), ih, h]
      simp
    · rw [List.destutter'_cons_pos rest h, List.mem_cons, ih, List.mem_cons (b := a)]

theorem mem_destutter_ne [DecidableEq α] {l : List α} {a : α} :
    a ∈ l.destutter (· ≠ ·) ↔ a ∈ l := by
  cases l with
  | nil => rfl
  | cons b rest => exact mem_destutter'_ne

/-- Sorting and leaving out what repeats its neighbour makes a list strictly increasing. -/
theorem pairwise_destutter_mergeSort (l : List Int) :
    (l.mergeSort.destutter (· ≠ ·)).Pairwise (· < ·) := by
  have ordered : (l.mergeSort.destutter (· ≠ ·)).IsChain (· ≤ ·) :=
    (List.sortedLE_mergeSort.pairwise.sublist (List.destutter_sublist _ _)).isChain
  have changing := List.isChain_destutter (· ≠ ·) l.mergeSort
  rw [List.isChain_iff_getElem] at ordered changing
  exact List.isChain_iff_pairwise.1 <| List.isChain_iff_getElem.2 fun i hi =>
    lt_of_le_of_ne (ordered i hi) (changing i hi)

/-- The states, collected one by one, are what sorting the declared ones and then leaving out those
that repeat their neighbour comes to. -/
theorem RuleSet.states_eq_destutter_mergeSort (rs : RuleSet I P) :
    rs.states = (rs.rules.map Rule.state).mergeSort.destutter (· ≠ ·) := by
  refine rs.pairwise_states.eq_of_mem_iff (pairwise_destutter_mergeSort _) fun {state} => ?_
  rw [mem_states, hasState_iff_exists_mem, mem_destutter_ne, List.mem_mergeSort, List.mem_map]

/-! ## Places -/

/-- What is kept of a list is found at the places of what is kept. -/
theorem map_getElem?_filter_range (p : α → Bool) (l : List α) :
    ((List.range l.length).filter fun i => l[i]?.any p).map (l[·]?) = (l.filter p).map some := by
  induction l with
  | nil => rfl
  | cons a rest ih =>
    rw [List.length_cons, List.range_succ_eq_map, List.filter_cons, List.filter_map,
      List.filter_cons]
    have later : (List.map Nat.succ (List.filter ((fun i => (a :: rest)[i]?.any p) ∘ Nat.succ)
        (List.range rest.length))).map ((a :: rest)[·]?) = (rest.filter p).map some := by
      rw [List.map_map, ← ih]
      rfl
    cases h : p a <;> simp [h, later]

namespace RuleSet

/-- Where the rules of a state stand among all declared ones. -/
def places (rs : RuleSet I P) (state : Int) : List Nat :=
  (List.range rs.rules.length).filter fun i => rs.rules[i]?.any (·.state == state)

variable {rs : RuleSet I P} {state : Int} {i : Nat}

theorem mem_places :
    i ∈ rs.places state ↔ ∃ rule, rs.rules[i]? = some rule ∧ rule.state = state := by
  rw [places, List.mem_filter, List.mem_range, Option.any_eq_true]
  simp only [beq_iff_eq]
  refine ⟨And.right, fun h => ⟨?_, h⟩⟩
  obtain ⟨rule, found, -⟩ := h
  exact (List.getElem?_eq_some_iff.1 found).1

theorem lt_length_of_mem_places (h : i ∈ rs.places state) : i < rs.rules.length :=
  List.mem_range.1 (List.mem_filter.1 h).1

theorem pairwise_places (rs : RuleSet I P) (state : Int) : (rs.places state).Pairwise (· < ·) :=
  List.pairwise_lt_range.filter _

theorem map_places (rs : RuleSet I P) (state : Int) :
    (rs.places state).map (rs.rules[·]?) = (rs.rulesFor state).map some :=
  map_getElem?_filter_range _ rs.rules

/-- Every place belongs to one of the declared states, and to no other one. -/
theorem perm_flatMap_places (rs : RuleSet I P) :
    (rs.states.flatMap rs.places).Perm (List.range rs.rules.length) := by
  have apart : (rs.states.flatMap rs.places).Nodup := by
    refine List.nodup_flatMap.2 ⟨fun s _ => (rs.pairwise_places s).imp Nat.ne_of_lt, ?_⟩
    refine rs.pairwise_states.imp fun {s s'} less i hi hi' => ?_
    obtain ⟨rule, found, rfl⟩ := mem_places.1 hi
    obtain ⟨rule', found', rfl⟩ := mem_places.1 hi'
    cases found.symm.trans found'
    exact Int.lt_irrefl _ less
  refine (List.perm_ext_iff_of_nodup apart List.nodup_range).2 fun i => ?_
  rw [List.mem_flatMap, List.mem_range]
  constructor
  · rintro ⟨s, -, hi⟩
    exact lt_length_of_mem_places hi
  · intro inside
    have found := List.getElem?_eq_getElem inside
    have declared := mem_states.2 (hasState_iff_exists_mem.2 ⟨_, List.getElem_mem inside, rfl⟩)
    exact ⟨_, declared, mem_places.2 ⟨_, found, rfl⟩⟩

/-! ## Entries -/

/-- The entry is that of the rule declared at the place. -/
def Prepares (rs : RuleSet I (Op I O W)) (i : Nat) (entry : TableEntry I (Action I O W)) : Prop :=
  ∃ rule, rs.rules[i]? = some rule ∧ entry.condition = rule.read ∧ entry.onMatch = rule.onMatch ∧
    entry.onMiss = rule.onMiss

variable {rs : RuleSet I (Op I O W)}

/-- A table has one entry for each place of its state, in the order of the places. -/
theorem prepares_tableOf (rs : RuleSet I (Op I O W)) (state : Int) :
    List.Forall₂ rs.Prepares (rs.places state) (rs.tableOf state).entries := by
  rw [tableOf, List.forall₂_map_right_iff]
  have found : List.Forall₂ (fun i rule => rs.rules[i]? = some rule) (rs.places state)
      (rs.rulesFor state) := by
    have same : List.Forall₂ (· = ·) ((rs.places state).map (rs.rules[·]?))
        ((rs.rulesFor state).map some) := by
      rw [rs.map_places state]
      exact List.forall₂_refl _
    rwa [List.forall₂_map_left_iff, List.forall₂_map_right_iff] at same
  exact found.imp fun i rule h => ⟨rule, h, rfl, rfl, rfl⟩

theorem compile_eq_some_iff {t : Table I (Action I O W)} :
    rs.compile state = some t ↔ rs.hasState state = true ∧ t = rs.tableOf state := by
  cases h : rs.hasState state with
  | true => rw [compile_of_hasState h, Option.some.injEq, eq_comm, and_iff_right rfl]
  | false => simp [compile_of_not_hasState h]

/-- The states that are declared, have rules and have a table are the same ones. -/
theorem declared_tfae (rs : RuleSet I (Op I O W)) (state : Int) :
    [state ∈ rs.states, rs.hasState state = true, rs.rulesFor state ≠ [],
      (rs.compile state).isSome = true].TFAE := by
  tfae_have 1 ↔ 2 := mem_states
  tfae_have 2 ↔ 3 := hasState_iff_rulesFor_ne_nil
  tfae_have 2 → 4 := fun h => by rw [compile_of_hasState h]; rfl
  tfae_have 4 → 2 := fun h => by
    obtain ⟨t, ht⟩ := Option.isSome_iff_exists.1 h
    exact (compile_eq_some_iff.1 ht).1
  tfae_finish

/-- Behind one another, the tables of the states have one entry for each place of the states. -/
theorem prepares_tables (rs : RuleSet I (Op I O W)) :
    List.Forall₂ rs.Prepares (rs.states.flatMap rs.places)
      ((rs.states.filterMap rs.compile).flatMap Table.entries) := by
  have tables : rs.states.filterMap rs.compile = rs.states.map rs.tableOf := by
    rw [← List.filterMap_eq_map]
    exact List.filterMap_congr fun s hs => compile_of_hasState (mem_states.1 hs)
  rw [tables, List.flatMap_map]
  refine List.rel_flatMap (R := (· = ·)) (List.forall₂_refl rs.states) ?_
  rintro s _ rfl
  exact rs.prepares_tableOf s

end RuleSet

/-! ## Branches -/

namespace Table

variable [BEq I]

/-- The branch for a symbol is what the first entry with an equal condition does on a match. If
there is none, it is what the very first entry does on a miss. -/
inductive Chooses (t : Table I A) (symbol : I) : A → Prop
  | matched {before after : List (TableEntry I A)} {entry : TableEntry I A} :
      t.entries = before ++ entry :: after → (∀ e ∈ before, (e.condition == symbol) = false) →
      (entry.condition == symbol) = true → Chooses t symbol entry.onMatch
  | missed {first : TableEntry I A} {rest : List (TableEntry I A)} :
      t.entries = first :: rest → (∀ e ∈ t.entries, (e.condition == symbol) = false) →
      Chooses t symbol first.onMiss

theorem exists_chosen {t : Table I A} (ne : t.entries ≠ []) (symbol : I) :
    ∃ branch, t.select symbol = some branch ∧ t.Chooses symbol branch := by
  unfold select
  cases found : t.entries.find? (·.condition == symbol) with
  | some entry =>
    obtain ⟨equal, before, after, split, others⟩ := List.find?_eq_some_iff_append.1 found
    exact ⟨entry.onMatch, rfl, .matched split (fun e he => by simpa using others e he) equal⟩
  | none =>
    obtain ⟨first, rest, split⟩ := List.exists_cons_of_ne_nil ne
    have others : ∀ e ∈ t.entries, (e.condition == symbol) = false := fun e he => by
      simpa using List.find?_eq_none.1 found e he
    exact ⟨first.onMiss, by rw [split]; rfl, .missed split others⟩

end Table

/-! ## Every list of rules -/

/-- What is made of a list of rules.
1. The states come in increasing order and are those that rules are declared for.
2. The declared states, those with rules and those with a table are the same ones.
3. The table of a state has one entry for each place where a rule of the state is declared, in the
   order of declaration, with the symbol of that rule, what it does on a match and what it does on a
   miss.
4. Behind one another, the tables of the states have one entry for each place of a rule, and no
   place is left out.
5. Every table has a branch for every symbol: what its first entry with an equal condition does on a
   match, and if there is none, what its first entry does on a miss. -/
theorem RuleSet.compile_shares_out [BEq I] (rs : RuleSet I (Op I O W)) :
    rs.states.Pairwise (· < ·) ∧
    (∀ state, state ∈ rs.states ↔ ∃ rule ∈ rs.rules, rule.state = state) ∧
    (∀ state, [state ∈ rs.states, rs.hasState state = true, rs.rulesFor state ≠ [],
      (rs.compile state).isSome = true].TFAE) ∧
    (∀ state t, rs.compile state = some t → t.state = state ∧
      (rs.places state).Pairwise (· < ·) ∧
      (∀ i, i ∈ rs.places state ↔ ∃ rule, rs.rules[i]? = some rule ∧ rule.state = state) ∧
      List.Forall₂ rs.Prepares (rs.places state) t.entries) ∧
    (List.Forall₂ rs.Prepares (rs.states.flatMap rs.places)
        ((rs.states.filterMap rs.compile).flatMap Table.entries) ∧
      (rs.states.flatMap rs.places).Perm (List.range rs.rules.length)) ∧
    ∀ state t, rs.compile state = some t → ∀ symbol,
      ∃ branch, t.select symbol = some branch ∧ t.Chooses symbol branch := by
  refine ⟨rs.pairwise_states, fun state => mem_states.trans hasState_iff_exists_mem,
    rs.declared_tfae, ?_, ⟨rs.prepares_tables, rs.perm_flatMap_places⟩, ?_⟩
  · intro state t compiled
    obtain ⟨-, rfl⟩ := compile_eq_some_iff.1 compiled
    exact ⟨rfl, rs.pairwise_places state, fun i => mem_places, rs.prepares_tableOf state⟩
  · intro state t compiled symbol
    obtain ⟨declared, rfl⟩ := compile_eq_some_iff.1 compiled
    have rules : rs.rulesFor state ≠ [] := hasState_iff_rulesFor_ne_nil.1 declared
    exact Table.exists_chosen (fun empty => rules (List.map_eq_nil_iff.1 empty)) symbol

/-- Rules of two states in turn, one of them declared twice. -/
theorem RuleSet.compile_shares_out_repeated :
    let rs : RuleSet Bool (Op Bool Empty Unit) :=
      ⟨[{ state := 3, read := true }, { state := 1, read := true }, { state := 3, read := true }]⟩
    ∃ t, rs.compile 3 = some t ∧ List.Forall₂ rs.Prepares [0, 2] t.entries ∧
      (rs.states.flatMap rs.places).Perm [0, 1, 2] ∧
      ∃ branch, t.select false = some branch ∧ t.Chooses false branch := by
  intro rs
  obtain ⟨-, -, -, tables, ⟨-, all⟩, branches⟩ := rs.compile_shares_out
  have compiled : rs.compile 3 = some (rs.tableOf 3) := compile_of_hasState rfl
  exact ⟨_, compiled, (tables 3 _ compiled).2.2.2, all, branches 3 _ compiled false⟩

end TapeMachine
