import TapeMachine.Proofs.Rules.BuildOrder
import TapeMachine.Proofs.Rules.Execution
import TapeMachine.Proofs.Session.ActiveTape
import TapeMachine.Proofs.Tape.Replay

/-!
# Writing what was read

`Rule.writeSymbol` drops a write of the symbol that the rule reads. An instruction that was not
dropped compares at run time, and not with the symbol of the rule but with the cell: if that holds
an equal symbol, nothing is written. Both come to the same, because the branch of a rule is taken
only where the cell under the active head was just read and found equal to the symbol of the rule.
Equal symbols need not be the same, so it matters that neither way replaces the one in the cell.

This is an argument about a step, and it has to be made at each: two machines whose rules differ in
such writes go on abreast, the one with an instruction more to perform that does nothing.

Results:
1. `Rule.chain_spelledOut`: two chains of clauses, the one with writes in place of shorthands, make
   rules that differ at most in a write of a symbol equal to the one that is read.
2. `Session.perform_writeInput_of_read`: such a write does nothing if the rule matched.
3. `Machine.SpelledOut.dispatchesAlike`: so dispatching does the same.
4. `Session.transcript_spelledOut`: and so do all calls and runs;
   `Session.transcript_spelledOut_told_apart`: but not if code looks for the instruction, or runs a
   branch of a table without a read.
-/

namespace TapeMachine

variable {α β γ I O W P : Type}

/-! ## Rules made clause by clause -/

/-- A clause of a rule. -/
inductive Rule.Clause (I O W : Type) where
  | write (op : Op I O W)
  | writeSymbol (value : I)
  | moves (op : Op I O W)
  | goingTo (state : Int)
  | otherwise (op : Op I O W)
  | otherwiseGoingTo (state : Int)

/-- The second clause is the first, or the instruction that it is the shorthand of. -/
inductive Rule.Clause.SpelledOut : Rule.Clause I O W → Rule.Clause I O W → Prop
  | same (clause : Rule.Clause I O W) : SpelledOut clause clause
  | written (value : I) : SpelledOut (.writeSymbol value) (.write (.writeInput value))

/-- The second rule is the first, or writes a symbol equal to the one it reads where the first
writes nothing. -/
inductive Rule.SpelledOut [BEq I] (r : Rule I (Op I O W)) : Rule I (Op I O W) → Prop
  | same : SpelledOut r r
  | written {value : I} (dropped : r.write = none) (equal : (value == r.read) = true) :
      SpelledOut r (r.withWrite (.writeInput value))

namespace Rule

variable [BEq I]

/-- The rule with one more clause. -/
def clause (r : Rule I (Op I O W)) : Clause I O W → Rule I (Op I O W)
  | .write op => r.withWrite op
  | .writeSymbol value => r.writeSymbol value
  | .moves op => r.withMoves op
  | .goingTo state => r.goingTo state
  | .otherwise op => r.otherwise op
  | .otherwiseGoingTo state => r.otherwiseGoingTo state

/-- The rule with more clauses, one after the other. -/
def chain (r : Rule I (Op I O W)) (clauses : List (Clause I O W)) : Rule I (Op I O W) :=
  clauses.foldl clause r

theorem writeSymbol_of_eq (r : Rule I (Op I O W)) {value : I} (h : (value == r.read) = true) :
    r.writeSymbol value = { r with write := none } := by
  rw [writeSymbol, if_pos h]

theorem writeSymbol_of_ne (r : Rule I (Op I O W)) {value : I} (h : ¬(value == r.read) = true) :
    r.writeSymbol value = r.withWrite (.writeInput value) := by
  rw [writeSymbol, if_neg h]
  rfl

/-- A shorthand is spelled out, whatever was to be written before. -/
theorem spelledOut_writeSymbol (r : Rule I (Op I O W)) (value : I) :
    (r.writeSymbol value).SpelledOut (r.withWrite (.writeInput value)) := by
  by_cases h : (value == r.read) = true
  · rw [writeSymbol_of_eq r h]
    exact .written (r := { r with write := none }) rfl h
  · rw [writeSymbol_of_ne r h]
    exact .same

theorem clause_spelledOut {r r' : Rule I (Op I O W)} (h : r.SpelledOut r') {c c' : Clause I O W}
    (hc : c.SpelledOut c') : (r.clause c).SpelledOut (r'.clause c') := by
  cases h with
  | same =>
    cases hc with
    | same => exact .same
    | written value => exact r.spelledOut_writeSymbol value
  | written dropped equal =>
    cases hc with
    | written value => exact r.spelledOut_writeSymbol value
    | same =>
      -- a clause about the write decides anew, any other one keeps the difference
      cases c with
      | write op => exact .same
      | writeSymbol value => exact .same
      | moves op => exact .written (r := r.withMoves op) dropped equal
      | goingTo state => exact .written (r := r.goingTo state) dropped equal
      | otherwise op => exact .written (r := r.otherwise op) dropped equal
      | otherwiseGoingTo state => exact .written (r := r.otherwiseGoingTo state) dropped equal

theorem chain_spelledOut {r r' : Rule I (Op I O W)} (h : r.SpelledOut r')
    {clauses clauses' : List (Clause I O W)}
    (hc : List.Forall₂ Clause.SpelledOut clauses clauses') :
    (r.chain clauses).SpelledOut (r'.chain clauses') := by
  induction hc generalizing r r' with
  | nil => exact h
  | cons one _ ih => exact ih (clause_spelledOut h one)

end Rule

/-! ## Branches, entries and tables -/

/-- The second branch is the first, or writes a symbol equal to the given one and then does the
same. -/
inductive Action.SpelledOut [BEq I] (symbol : I) (branch : Action I O W) : Action I O W → Prop
  | same : SpelledOut symbol branch branch
  | written {value : I} (equal : (value == symbol) = true) :
      SpelledOut symbol branch (.performing (some (.writeInput value)) branch)

structure TableEntry.SpelledOut [BEq I] (e e' : TableEntry I (Action I O W)) : Prop where
  condition_eq : e'.condition = e.condition
  onMatch : e.onMatch.SpelledOut e.condition e'.onMatch
  onMiss_eq : e'.onMiss = e.onMiss

structure Table.SpelledOut [BEq I] (t t' : Table I (Action I O W)) : Prop where
  state_eq : t'.state = t.state
  entries : List.Forall₂ TableEntry.SpelledOut t.entries t'.entries

/-- What is searched for in related lists is found in both or in neither, and is related. -/
theorem forall₂_find? {R : α → β → Prop} {p : α → Bool} {q : β → Bool}
    (same : ∀ {a b}, R a b → q b = p a) {l : List α} {l' : List β} (h : List.Forall₂ R l l') :
    Option.Rel R (l.find? p) (l'.find? q) := by
  induction h with
  | nil => exact .none
  | @cons a b _ _ hab _ ih =>
    rw [List.find?_cons, List.find?_cons, same hab]
    cases p a with
    | true => exact .some hab
    | false => exact ih

theorem forall₂_map_eq {R : α → β → Prop} {f : α → γ} {g : β → γ}
    (same : ∀ {a b}, R a b → g b = f a) {l : List α} {l' : List β} (h : List.Forall₂ R l l') :
    l'.map g = l.map f := by
  induction h with
  | nil => rfl
  | cons hab _ ih => rw [List.map_cons, List.map_cons, same hab, ih]

theorem forall₂_head? {R : α → β → Prop} {l : List α} {l' : List β} (h : List.Forall₂ R l l') :
    Option.Rel R l.head? l'.head? := by
  cases h with
  | nil => exact .none
  | cons first _ => exact .some first

theorem forall₂_eraseP {R : α → β → Prop} {p : α → Bool} {q : β → Bool}
    (same : ∀ {a b}, R a b → q b = p a) {l : List α} {l' : List β} (h : List.Forall₂ R l l') :
    List.Forall₂ R (l.eraseP p) (l'.eraseP q) := by
  induction h with
  | nil => exact .nil
  | @cons a b _ _ hab hl ih =>
    rw [List.eraseP_cons, List.eraseP_cons, same hab]
    cases p a with
    | true => exact hl
    | false => exact .cons hab ih

section Tables

variable [BEq I] {r r' : Rule I (Op I O W)}

namespace Rule.SpelledOut

variable (h : r.SpelledOut r')
include h

theorem state_eq : r'.state = r.state := by cases h <;> rfl

/-- All but the write is the same. -/
theorem unwritten_eq : { r' with write := none } = { r with write := none } := by cases h <;> rfl

theorem entry : r.entry.SpelledOut r'.entry := by
  cases h with
  | same => exact ⟨rfl, .same, rfl⟩
  | written dropped equal =>
    have silent : r.onMatch = .performing r.moves (.follow (.goTo r.next)) := by
      rw [Rule.onMatch, dropped]
      rfl
    refine ⟨rfl, ?_, rfl⟩
    show r.onMatch.SpelledOut r.read
      (.performing (some _) (.performing r.moves (.follow (.goTo r.next))))
    rw [← silent]
    exact .written equal

end Rule.SpelledOut

/-- The branch chosen for a symbol: the write in front of it, if any, is of a symbol equal to that
one. -/
theorem Table.SpelledOut.select [PartialEquivBEq I] {t t' : Table I (Action I O W)}
    (h : t.SpelledOut t') (symbol : I) :
    Option.Rel (Action.SpelledOut symbol) (t.select symbol) (t'.select symbol) := by
  have found : Option.Rel TableEntry.SpelledOut (t.entries.find? (·.condition == symbol))
      (t'.entries.find? (·.condition == symbol)) :=
    forall₂_find? (fun hab => by rw [hab.condition_eq]) h.entries
  rw [Table.select, Table.select]
  generalize hf : t.entries.find? (·.condition == symbol) = found? at found
  generalize t'.entries.find? (·.condition == symbol) = found?' at found
  cases found with
  | none =>
    have first : Option.Rel TableEntry.SpelledOut t.entries.head? t'.entries.head? :=
      forall₂_head? h.entries
    generalize t.entries.head? = e? at first
    generalize t'.entries.head? = e?' at first
    cases first with
    | none => exact .none
    | some he => exact .some (he.onMiss_eq ▸ .same)
  | @some e e' he =>
    have read : (e.condition == symbol) = true := (List.find?_some hf :)
    have chosen := he.onMatch
    show Option.Rel _ (some e.onMatch) (some e'.onMatch)
    generalize e'.onMatch = branch at chosen
    cases chosen with
    | same => exact .some .same
    | written equal => exact .some (.written (BEq.trans equal read))

end Tables

/-! ## Nothing to write -/

theorem Tape.write_of_read [BEq I] [PartialEquivBEq I] {t t' : Tape I} {symbol value : I}
    (h : t.read = .ok (symbol, t')) (equal : (value == symbol) = true) :
    t'.write value = .ok (none, t') := by
  unfold Tape.read at h
  split at h
  · next hv =>
    cases h
    exact Tape.write_of_equal (t.storage.get_eq_ok_iff.1 hv) (BEq.symm equal)
  · cases h

/-- Once a tape was read, a symbol equal to the one that was read is written without a trace. -/
theorem Bank.serve_write_of_tracedRead [BEq I] [PartialEquivBEq I] {b b' : Bank I}
    {tape : Option Nat} {symbol value : I} {event : TapeEvent I}
    (h : b.tracedRead (b.indexOf tape) = .ok ((symbol, event), b'))
    (equal : (value == symbol) = true) :
    b'.serve (.write tape value) = .ok ((.done, none), b') := by
  obtain ⟨t, t', ht, hw, rfl⟩ := Bank.update_eq_ok_iff.1 h
  split at hw
  · cases hw
  · next v t'' hr =>
    cases hw
    have there : (b.put (b.indexOf tape) t').tape (b.indexOf tape) = .ok t' :=
      Bank.tape_put_self t' (Bank.lt_of_tape_eq_ok ht)
    have silent : (b.put (b.indexOf tape) t').tracedWrite (b.indexOf tape) value =
        .ok (none, b.put (b.indexOf tape) t') := by
      refine Bank.update_eq_ok_iff.2 ⟨t', t', there, ?_, (Bank.put_self there).symm⟩
      simp only [Tape.write_of_read hr equal]
    exact congrArg (Except.map _) silent

section Dispatch

variable [BEq I] [PartialEquivBEq I] [BEq O] {s s' : Session I O W} {symbol value : I}

/-- Right after the active tape was read, the instruction to write a symbol equal to the one that
was read does nothing, and nobody is told of it. -/
theorem Session.perform_writeInput_of_read (invoke : Invocation I O W)
    (h : readInput none s = (.ok symbol, s')) (equal : (value == symbol) = true) :
    Op.perform invoke (.writeInput value) s' = some (.ok (), s') := by
  rcases onInputs_cases h with ⟨e, -, he, -⟩ | ⟨a, event, bank, hb, ha, hm, -⟩
  · cases he
  · cases ha
    obtain ⟨⟨⟨v, event'⟩, bank⟩, hr, hp⟩ := exists_of_map_eq_ok hb
    cases hp
    have there : bank = s'.machine.inputs := by rw [hm]
    subst there
    have silent : serveInput (.write none value) s' = (.ok .done, s') := by
      rw [serveInput, onInputs, Bank.serve_write_of_tracedRead hr equal]
    have served : Run.ofAttempt (serveInput (.write none value)) s' = some (.ok .done, s') :=
      congrArg some silent
    exact (Run.bind_of_ok served).trans rfl

/-- So a branch with such an instruction in front does the same as without. -/
theorem Action.SpelledOut.eval_eq {branch branch' : Action I O W}
    (h : branch.SpelledOut symbol branch') (hr : Session.readInput none s = (.ok symbol, s'))
    (fuel : Nat) :
    Action.eval fuel branch' s' = Action.eval fuel branch s' := by
  cases h with
  | same => rfl
  | @written value equal =>
    cases fuel with
    | zero => rfl
    | succ fuel =>
      have silent : Session.performAll (Op.perform (Action.eval fuel))
          (some (Op.writeInput (O := O) (W := W) value)).toList s' = some (.ok (), s') :=
        (Run.bind_of_ok (Session.perform_writeInput_of_read _ hr equal)).trans rfl
      show Action.evalWith _ _ (.performing _ _) _ s' = _
      rw [Session.evalWith_performing, Run.bind_of_ok silent]
      rfl

end Dispatch

/-! ## Machines -/

/-- The second rules are the first, one by one, with some writes spelled out. -/
def RuleSet.SpelledOut [BEq I] (rs rs' : RuleSet I (Op I O W)) : Prop :=
  List.Forall₂ Rule.SpelledOut rs.rules rs'.rules

namespace RuleSet

/-- The rules without what they write. -/
def unwritten (rs : RuleSet I P) : RuleSet I P := ⟨rs.rules.map fun r => { r with write := none }⟩

namespace SpelledOut

variable [BEq I] {rs rs' : RuleSet I (Op I O W)}

theorem refl (rs : RuleSet I (Op I O W)) : rs.SpelledOut rs := List.forall₂_same.2 fun _ _ => .same

variable (h : rs.SpelledOut rs')
include h

theorem len_eq : rs'.len = rs.len := (List.Forall₂.length_eq h).symm

/-- The same rules are there but for their writes, so they are for the same states. -/
theorem map_state_eq : rs'.rules.map Rule.state = rs.rules.map Rule.state :=
  forall₂_map_eq (fun hr => hr.state_eq) h

theorem hasState_eq (state : Int) : rs'.hasState state = rs.hasState state := by
  have any (rs : RuleSet I (Op I O W)) : rs.hasState state =
      (rs.rules.map Rule.state).any (· == state) := by
    rw [List.any_map]
    rfl
  rw [any, any, h.map_state_eq]

theorem states_eq : rs'.states = rs.states := by
  have fold (rs : RuleSet I (Op I O W)) :
      rs.states = (rs.rules.map Rule.state).foldl (fun l state => insertState state l) [] := by
    rw [List.foldl_map]
    rfl
  rw [fold, fold, h.map_state_eq]

theorem rulesFor (state : Int) :
    List.Forall₂ Rule.SpelledOut (rs.rulesFor state) (rs'.rulesFor state) := by
  refine List.rel_filter (fun r r' hr => ?_) h
  dsimp only
  rw [hr.state_eq]

theorem tableOf (state : Int) : (rs.tableOf state).SpelledOut (rs'.tableOf state) := by
  refine ⟨rfl, ?_⟩
  show List.Forall₂ _ ((rs.rulesFor state).map _) ((rs'.rulesFor state).map _)
  rw [List.forall₂_map_left_iff, List.forall₂_map_right_iff]
  exact (h.rulesFor state).imp fun _ _ hr => hr.entry

end SpelledOut

end RuleSet

/-- Code that looks at everything but whether rules write. -/
def View.unwritten : View I O where
  same o o' := { o' with rules := o'.rules.unwritten } = { o with rules := o.rules.unwritten }
  configures := True
  executes := True

namespace Machine

/-- The machines differ at most in that writes of rules are spelled out in the second one, in its
rules and in its tables. -/
structure SpelledOut [BEq I] (m n : Machine I O W) : Prop where
  config_eq : n.config = m.config
  inputs_eq : n.inputs = m.inputs
  outputs_eq : n.outputs = m.outputs
  registry_eq : n.registry = m.registry
  counters_eq : n.counters = m.counters
  rules : m.rules.SpelledOut n.rules
  tables : List.Forall₂ Table.SpelledOut m.tables.items n.tables.items

namespace SpelledOut

variable [BEq I] {m n : Machine I O W}

theorem refl (m : Machine I O W) : m.SpelledOut m where
  config_eq := rfl
  inputs_eq := rfl
  outputs_eq := rfl
  registry_eq := rfl
  counters_eq := rfl
  rules := .refl _
  tables := List.forall₂_same.2 fun _ _ => ⟨rfl, List.forall₂_same.2 fun _ _ => ⟨rfl, .same, rfl⟩⟩

variable (h : m.SpelledOut n)
include h

theorem same_outline : View.unwritten.same m.outline n.outline := by
  have rules : n.outline.rules.unwritten = m.outline.rules.unwritten := by
    have bare (rs : RuleSet I (Op I O W)) : (rs.map fun _ => ()).unwritten =
        ⟨rs.rules.map fun r => ({ r with write := none } : Rule I (Op I O W)).map fun _ => ()⟩ :=
      congrArg RuleSet.mk List.map_map
    show (n.rules.map fun _ => ()).unwritten = (m.rules.map fun _ => ()).unwritten
    rw [bare, bare, forall₂_map_eq (fun hr => by rw [hr.unwritten_eq]) h.rules]
  have tables : n.outline.tables = m.outline.tables := by
    refine congrArg Stack.mk (forall₂_map_eq (fun ht => ?_) h.tables)
    rw [Table.map, Table.map, ht.state_eq,
      forall₂_map_eq (fun he => by rw [he.condition_eq]) ht.entries]
  show Frame.mk n.config n.inputs n.outputs (n.registry.map fun _ => ()) n.outline.rules.unwritten
      n.outline.tables n.counters =
    ⟨m.config, m.inputs, m.outputs, m.registry.map fun _ => (), m.outline.rules.unwritten,
      m.outline.tables, m.counters⟩
  rw [rules, tables, h.config_eq, h.inputs_eq, h.outputs_eq, h.registry_eq, h.counters_eq]

theorem select (state : Int) [PartialEquivBEq I] (symbol : I) :
    Option.Rel (Action.SpelledOut symbol) ((m.compiled state).bind (·.select symbol))
      ((n.compiled state).bind (·.select symbol)) := by
  have found : Option.Rel Table.SpelledOut (m.compiled state) (n.compiled state) :=
    forall₂_find? (fun ht => by rw [ht.state_eq]) h.tables
  generalize m.compiled state = t? at found
  generalize n.compiled state = t?' at found
  cases found with
  | none => exact .none
  | some ht => exact ht.select symbol

theorem built : Machine.SpelledOut (Machine.built m) (Machine.built n) where
  config_eq := by rw [built_eq, built_eq]; exact h.config_eq
  inputs_eq := by rw [built_eq, built_eq]; exact h.inputs_eq
  outputs_eq := by rw [built_eq, built_eq]; exact h.outputs_eq
  registry_eq := by rw [built_eq, built_eq, h.rules.states_eq, h.registry_eq]
  counters_eq := by
    rw [counters_built, counters_built, h.rules.states_eq, h.rules.len_eq, h.counters_eq]
  rules := by rw [built_eq, built_eq]; exact h.rules
  tables := by
    rw [built_eq, built_eq, h.rules.states_eq, List.forall₂_map_left_iff,
      List.forall₂_map_right_iff]
    exact List.forall₂_same.2 fun state _ => h.rules.tableOf state

theorem installed (state : Int) :
    Machine.SpelledOut ((dropped m state).installed state) ((dropped n state).installed state) where
  config_eq := h.config_eq
  inputs_eq := h.inputs_eq
  outputs_eq := h.outputs_eq
  registry_eq := congrArg (Registry.add · state Action.dispatch) h.registry_eq
  counters_eq := by
    simp only [Machine.installed, dropped, h.counters_eq, (h.rules.rulesFor state).length_eq]
  rules := h.rules
  tables := List.rel_append (forall₂_eraseP (fun ht => by rw [ht.state_eq]) h.tables)
    (.cons (h.rules.tableOf state) .nil)

omit h

theorem compatible :
    Compatible View.unwritten (Machine.SpelledOut : Machine I O W → Machine I O W → Prop) where
  seen h := h.same_outline
  inputs_eq h := h.inputs_eq
  outputs_eq h := h.outputs_eq
  get?_eq h state := by rw [h.registry_eq]
  current_eq h := by rw [h.registry_eq]
  default_eq h := by rw [h.registry_eq]
  hasState_eq h := h.rules.hasState_eq
  ends_eq h _ := by rw [h.config_eq]
  configured h _ update := { h with config_eq := congrArg (·.update update) h.config_eq }
  inputs h b := { h with inputs_eq := rfl }
  outputs h b := { h with outputs_eq := rfl }
  bound h state action :=
    { h with
      registry_eq := congrArg (Registry.add · state action) h.registry_eq
      counters_eq := by simp only [Machine.bound, h.counters_eq] }
  current h state := { h with registry_eq := congrArg (Registry.setCurrent · state) h.registry_eq }
  default h state := { h with registry_eq := congrArg (Registry.setDefault · state) h.registry_eq }
  erased h := { h with registry_eq := congrArg Registry.erase h.registry_eq }
  counted h := { h with counters_eq := by simp only [Machine.moved, h.counters_eq] }
  declared h rule :=
    { h with
      rules := List.rel_append h.rules (.cons .same .nil)
      counters_eq := by simp only [Machine.declared, h.counters_eq] }
  cleared h := { h with tables := .nil }
  built h := h.built
  installed h state _ := h.installed state

/-- The branches chosen are the same, but for an instruction that writes what was just read. -/
theorem dispatchesAlike [PartialEquivBEq I] [BEq O] {heard : Prop} :
    DispatchesAlike View.unwritten
      (Machine.SpelledOut : Machine I O W → Machine I O W → Prop) heard := by
  intro fuel deeper s t h
  have read : Alike (Session.Abreast View.unwritten Machine.SpelledOut heard) (fun _ => True)
      (some (Session.readInput none s)) (some (Session.readInput none t)) := compatible.onInputs h _
  generalize hs : Session.readInput none s = p at read
  generalize ht : Session.readInput none t = q at read
  cases read with
  | refused h =>
    rw [Session.eval_dispatch_of_error (Attempt.bind_of_error hs),
      Session.eval_dispatch_of_error (Attempt.bind_of_error ht)]
    exact .refused h
  | @answered symbol s' t' _ h =>
    have chosen := h.machine.select s'.machine.registry.current symbol
    have selects : Session.selectBranch s = _ := Attempt.bind_of_ok hs
    have selects' : Session.selectBranch t = _ := Attempt.bind_of_ok ht
    simp only [Attempt.ask, compatible.current_eq h.machine] at selects selects'
    generalize hb :
        (s'.machine.compiled s'.machine.registry.current).bind (·.select symbol) = branch?
      at chosen selects
    generalize (t'.machine.compiled s'.machine.registry.current).bind (·.select symbol) = branch?'
      at chosen selects'
    cases chosen with
    | none =>
      rw [Session.eval_dispatch_of_error selects, Session.eval_dispatch_of_error selects']
      exact .refused h
    | some spelled =>
      rw [Session.eval_dispatch_of_ok selects, Session.eval_dispatch_of_ok selects',
        spelled.eval_eq ht]
      exact deeper (h.code.branch hb) h

end SpelledOut

end Machine

/-! ## Sessions -/

/-- The same call, or two that declare a rule made of the same clauses but for shorthands that the
second one spells out. -/
inductive Call.SpelledOut [BEq I] : Machine.Call I O W → Machine.Call I O W → Prop
  | same (call : Machine.Call I O W) : SpelledOut call call
  | declare (rule : Rule I (Op I O W)) {clauses clauses' : List (Rule.Clause I O W)}
      (h : List.Forall₂ Rule.Clause.SpelledOut clauses clauses') :
      SpelledOut (.declare (rule.chain clauses)) (.declare (rule.chain clauses'))

namespace Session

variable [BEq I] [PartialEquivBEq I] [BEq O] {s t : Session I O W}

theorem serve_spelledOut {call call' : Machine.Call I O W} (alike : call.SpelledOut call')
    (respects : call.Respects .unwritten) (fuel : Nat)
    (h : s.Abreast .unwritten Machine.SpelledOut True t) :
    Alike (Abreast .unwritten Machine.SpelledOut True) (Answer.Respects .unwritten)
      (serve fuel call s) (serve fuel call' t) := by
  cases alike with
  | same call =>
    exact Machine.SpelledOut.compatible.serve Machine.SpelledOut.dispatchesAlike fuel
      (View.allows_of_all trivial trivial call) respects h
  | @declare rule clauses clauses' hc =>
    cases respects with
    | plain hp => cases hp
    | declare hr =>
      obtain ⟨l, hs⟩ := declare_eq (rule.chain clauses) s
      obtain ⟨l', ht⟩ := declare_eq (rule.chain clauses') t
      have served : serve fuel (.declare (rule.chain clauses)) s = some (.ok .done, _) :=
        (Run.bind_of_ok (congrArg some hs)).trans rfl
      have served' : serve fuel (.declare (rule.chain clauses')) t = some (.ok .done, _) :=
        (Run.bind_of_ok (congrArg some ht)).trans rfl
      have declared : Machine.SpelledOut (s.machine.declared (rule.chain clauses))
          (t.machine.declared (rule.chain clauses')) :=
        { h.machine with
          rules := List.rel_append h.machine.rules (.cons (Rule.chain_spelledOut .same hc) .nil)
          counters_eq := by simp only [Machine.declared, h.machine.counters_eq] }
      rw [served, served']
      exact .answered (List.forall_mem_nil _) (h.become declared (h.code.declare hr _) l l')

/-- A machine is given calls, and once more from the start the same calls, where some of the rules
it is given are made with instructions to write instead of the shorthands. Equality of symbols is
symmetric and transitive, and no code looks at whether rules write. Then each call is answered
alike, and after each the two machines hold the same: tapes with the very same symbols, heads and
statistics, pointers, counters, all but which rules have a write; and the same events were told. And
wherever a run is started from there, the two stand alike after every number of actions. -/
theorem transcript_spelledOut (code : s.machine.Respects .unwritten)
    {calls calls' : List (Machine.Call I O W)} (alike : List.Forall₂ Call.SpelledOut calls calls')
    (respect : ∀ call ∈ calls, call.Respects .unwritten) (fuel : Nat) :
    List.Forall₂ (fun x y => y.1 = x.1 ∧ x.2.Abreast .unwritten Machine.SpelledOut True y.2 ∧
        ∀ fuel n start, Standing.Alike (Abreast .unwritten Machine.SpelledOut True)
          (underway fuel n start x.2) (underway fuel n start y.2))
      (transcript fuel calls s) (transcript fuel calls' s) := by
  have abreast : s.Abreast .unwritten Machine.SpelledOut True s :=
    ⟨.refl s.machine, code, rfl, fun _ => rfl, fun _ => rfl⟩
  have pairs := (List.forall₂_and_left _ _).2 ⟨respect, alike⟩
  refine (sameTranscript_of_alike (fun hc h => ?_) pairs abreast).imp fun x y hxy =>
    ⟨hxy.1, hxy.2, fun fuel n start =>
      Machine.SpelledOut.compatible.underway Machine.SpelledOut.dispatchesAlike fuel n start hxy.2⟩
  exact (serve_spelledOut hc.2 hc.1 fuel h).mono fun _ _ => trivial

end Session

/-- A letter in one of two cases. -/
structure Cased where
  letter : Bool
  upper : Bool

/-- The case does not matter. -/
instance : BEq Cased := ⟨fun a b => a.letter == b.letter⟩

instance : PartialEquivBEq Cased where
  symm h := BEq.symm (α := Bool) h
  trans h h' := BEq.trans (α := Bool) h h'

/-- The first rule writes the letter it reads, where the tape has it in the other case; the second
rule writes another letter than it reads. Spelled out or not, the first cell keeps the symbol it
has, and one write is counted. -/
theorem Session.transcript_spelledOut_other_case :
    ∃ calls calls' : List (Machine.Call Cased Bool Unit),
      List.Forall₂ (fun x y => y.1 = x.1 ∧ x.2.Abreast .unwritten Machine.SpelledOut True y.2 ∧
          ∀ fuel n start, Standing.Alike (Abreast .unwritten Machine.SpelledOut True)
            (underway fuel n start x.2) (underway fuel n start y.2))
        (transcript 4 calls (fresh {} ())) (transcript 4 calls' (fresh {} ())) ∧
      (transcript 4 calls (fresh {} ())).getLast?.map
        (fun x => (x.2.machine.rules.rules.map (·.write.isSome),
          x.2.machine.inputs.tapes.items.flatMap
            (·.storage.toList.map fun c => (c.letter, c.upper)),
          x.2.machine.inputs.statistics.map (·.writes))) =
        some ([false, true], [(true, true), (true, false)], [1]) ∧
      (transcript 4 calls' (fresh {} ())).getLast?.map
        (fun x => (x.2.machine.rules.rules.map (·.write.isSome),
          x.2.machine.inputs.tapes.items.flatMap
            (·.storage.toList.map fun c => (c.letter, c.upper)),
          x.2.machine.inputs.statistics.map (·.writes))) =
        some ([true, true], [(true, true), (true, false)], [1]) := by
  let clauses (write : Rule.Clause Cased Bool Unit) : List (Rule.Clause Cased Bool Unit) :=
    [write, .moves (.moveInput .left), .goingTo 1]
  let second : List (Rule.Clause Cased Bool Unit) := [.writeSymbol ⟨true, false⟩]
  let calls (write : Rule.Clause Cased Bool Unit) : List (Machine.Call Cased Bool Unit) :=
    [.input .add, .input (.load none (.ofList [⟨true, true⟩, ⟨false, true⟩]) none),
      .declare (Rule.chain { state := 0, read := ⟨true, false⟩ } (clauses write)),
      .declare (Rule.chain { state := 1, read := ⟨false, false⟩ } second), .build,
      .execute (.state 0)]
  have shorthand : (Rule.Clause.writeSymbol ⟨true, false⟩ : Rule.Clause Cased Bool Unit).SpelledOut
      (.write (.writeInput ⟨true, false⟩)) := .written _
  have first : List.Forall₂ Rule.Clause.SpelledOut (clauses (.writeSymbol ⟨true, false⟩))
      (clauses (.write (.writeInput ⟨true, false⟩))) :=
    .cons shorthand <| .cons (.same _) <| .cons (.same _) .nil
  have again : List.Forall₂ Rule.Clause.SpelledOut second second := .cons (.same _) .nil
  refine ⟨calls (.writeSymbol ⟨true, false⟩), calls (.write (.writeInput ⟨true, false⟩)), ?_,
    by decide +kernel, by decide +kernel⟩
  refine transcript_spelledOut (.start _) ?_ ?_ 4
  · exact .cons (.same _) <| .cons (.same _) <| .cons (.declare _ first) <|
      .cons (.declare _ again) <| .cons (.same _) <| .cons (.same _) .nil
  · have moves : ∀ op, op ∈ (none : Option (Op Cased Bool Unit)) ∨
        op ∈ some (Op.moveInput .left) ∨ op ∈ (none : Option (Op Cased Bool Unit)) →
          op.Respects .unwritten := by
      rintro op (h | h | h) <;> cases h
      exact .input _
    have writes : ∀ op, op ∈ some (Op.writeInput ⟨true, false⟩) ∨
        op ∈ (none : Option (Op Cased Bool Unit)) ∨ op ∈ (none : Option (Op Cased Bool Unit)) →
          op.Respects .unwritten := by
      rintro op (h | h | h) <;> cases h
      exact .input _
    simp only [calls, List.forall_mem_cons]
    exact ⟨.plain rfl, .plain rfl, .declare moves, .declare writes, .plain rfl, .plain rfl,
      List.forall_mem_nil _⟩

/-- Two conditions on the code are needed. Of each two machines the rule for the symbol that is read
writes it, once by the shorthand and once spelled out.
1. Code that looks at whether rules write tells them apart: a state halts in the first machine and
   fails in the second.
2. So does a branch that is taken out of a table and run where nothing was read: bound to another
   state and started over a cell that holds another symbol, it leaves the cell in the first machine
   and writes it in the second. -/
theorem Session.transcript_spelledOut_told_apart :
    (∃ calls calls' : List (Machine.Call Bool Bool Unit),
      List.Forall₂ Call.SpelledOut calls calls' ∧
      (transcript 2 calls (fresh {} ())).getLast?.map (·.1.toOption.isSome) = some true ∧
      (transcript 2 calls' (fresh {} ())).getLast?.map (·.1.toOption.isSome) = some false) ∧
    ∃ (calls calls' : List (Machine.Call Bool Bool Unit)) (s t : Session Bool Bool Unit)
      (branch branch' : Action Bool Bool Unit),
      List.Forall₂ Call.SpelledOut calls calls' ∧ (∀ call ∈ calls, call.Respects .unwritten) ∧
      (transcript 2 calls (fresh {} ())).getLast?.map (·.2) = some s ∧
      (transcript 2 calls' (fresh {} ())).getLast?.map (·.2) = some t ∧
      (s.machine.compiled 0).bind (·.select true) = some branch ∧ branch.Respects .unwritten ∧
      (t.machine.compiled 0).bind (·.select true) = some branch' ∧ branch'.Respects .unwritten ∧
      (transcript 2 [.bind 1 branch, .execute (.state 1)] s).getLast?.map (fun x =>
        x.2.machine.inputs.tapes.items.map (·.storage.toList)) = some [[false]] ∧
      (transcript 2 [.bind 1 branch', .execute (.state 1)] t).getLast?.map (fun x =>
        x.2.machine.inputs.tapes.items.map (·.storage.toList)) = some [[true]] := by
  let rule (clause : Rule.Clause Bool Bool Unit) : Rule Bool (Op Bool Bool Unit) :=
    Rule.chain { state := 0, read := true } [clause]
  have declared : Call.SpelledOut (.declare (rule (.writeSymbol true)))
      (.declare (rule (.write (.writeInput true)))) := .declare _ (.cons (.written true) .nil)
  constructor
  · let looking : Action Bool Bool Unit := .inspect fun o =>
      if o.rules.rules.any (·.write.isSome) then .fail (.unknownState 9) else .halt
    let calls (clause : Rule.Clause Bool Bool Unit) : List (Machine.Call Bool Bool Unit) :=
      [.declare (rule clause), .bind 5 looking, .execute (.state 5)]
    exact ⟨calls (.writeSymbol true), calls (.write (.writeInput true)),
      .cons declared <| .cons (.same _) <| .cons (.same _) .nil, by decide +kernel,
      by decide +kernel⟩
  · let calls (clause : Rule.Clause Bool Bool Unit) : List (Machine.Call Bool Bool Unit) :=
      [.input .add, .input (.load none (.ofList [false]) none), .declare (rule clause), .build]
    have plain (clause : Rule.Clause Bool Bool Unit) (h : (rule clause).Respects .unwritten) :
        ∀ call ∈ calls clause, call.Respects .unwritten := by
      simp only [calls, List.forall_mem_cons]
      exact ⟨.plain rfl, .plain rfl, .declare h, .plain rfl, List.forall_mem_nil _⟩
    have silent : (rule (.writeSymbol true)).Respects .unwritten := by
      rintro op (h | h | h) <;> cases h
    have writing : (rule (.write (.writeInput true))).Respects .unwritten := by
      rintro op (h | h | h) <;> cases h
      exact .input _
    exact ⟨calls (.writeSymbol true), calls (.write (.writeInput true)), _, _,
      (rule (.writeSymbol true)).onMatch, (rule (.write (.writeInput true))).onMatch,
      .cons (.same _) <| .cons (.same _) <| .cons declared <| .cons (.same _) .nil, plain _ silent,
      rfl, rfl, rfl, silent.onMatch, rfl, writing.onMatch, by decide +kernel, by decide +kernel⟩

end TapeMachine
