import TapeMachine.Proofs.Rules.Interpreter

/-!
# A built machine runs its rules

A built machine goes through its bindings, its tables and the trampoline; the interpreter reads the
declarations. On a machine that carries the rules both take the same steps.

Results:
1. `exists_select`: the table of a state chooses the branch that the declarations demand.
2. `eval_dispatch`: one dispatch is one step of the interpreter.
3. `Ready.advance_eq`, `execute_iff_interpret`: the same for runs.
4. `execute_eq_interpret`: the above for every machine that building left behind.
-/

namespace TapeMachine.Session

variable {I O W : Type} {perform : Op I O W → Run (Session I O W) Unit}

/-! ## The branch of a table -/

theorem performAll_append_bind {α : Type} (first second : List (Op I O W))
    (next : Unit → Run (Session I O W) α) :
    performAll perform (first ++ second) >>= next =
      performAll perform first >>= fun _ => performAll perform second >>= next := by
  induction first with
  | nil => rfl
  | cons op rest ih =>
    show (perform op >>= fun _ => performAll perform (rest ++ second)) >>= next =
      (perform op >>= fun _ => performAll perform rest) >>= _
    rw [Run.bind_assoc, Run.bind_assoc, ih]

variable [BEq I] [BEq O] {invoke : Invocation I O W}

theorem evalWith_performing (n : Nat) (op : Option (Op I O W)) (next : Action I O W)
    (held : List (Transition (Action I O W))) :
    (Action.performing op next).evalWith (serveWith invoke n) invoke held =
      performAll (Op.perform invoke) op.toList >>= fun _ =>
        next.evalWith (serveWith invoke n) invoke held := by
  funext s
  cases op with
  | none => rfl
  | some op =>
    have hall : performAll (Op.perform invoke) (some op).toList = op.perform invoke >>= pure := rfl
    rw [hall, Run.bind_assoc]
    simp only [Action.performing, Action.andThen, Action.evalWith, serveWith, silently]
    cases hp : op.perform invoke s with
    | none => rw [Run.bind_of_none hp, Run.bind_of_none hp]
    | some p =>
      obtain ⟨e | _, s'⟩ := p
      · rw [Run.bind_of_error hp, Run.bind_of_error hp]
      · -- the answer brings no transition, so what is held stays the same
        rw [Run.bind_of_ok hp, Run.bind_of_ok hp]
        rfl

theorem evalWith_follow (n : Nat) (target : Target) (held : List (Transition (Action I O W))) :
    (Action.follow target).evalWith (serveWith invoke n) invoke held =
      Run.ofAttempt (transitionTo target) := by
  funext s
  simp only [Action.follow, Action.andThen, Action.evalWith, serveWith]
  cases ht : transitionTo target s with
  | mk result s' =>
    have hr : Run.ofAttempt (transitionTo target) s = some (result, s') := by
      rw [Run.ofAttempt_apply, ht]
    cases result with
    | error e => rw [Run.bind_of_error hr, hr]
    | ok transition => rw [Run.bind_of_ok hr, hr]; rfl

/-- What the action of a branch does. -/
def runBranch (perform : Op I O W → Run (Session I O W) Unit) (branch : Branch (Op I O W)) :
    Run (Session I O W) (Transition (Action I O W)) := do
  performAll perform branch.ops
  Run.ofAttempt (transitionTo (.goTo branch.next))

theorem eval_onMatch (f : Nat) (r : Rule I (Op I O W)) :
    Action.eval (f + 1) r.onMatch = runBranch (Op.perform (Action.eval f)) r.matching := by
  show r.onMatch.evalWith (serveWith (Action.eval f) f) (Action.eval f) [] = _
  rw [Rule.onMatch, evalWith_performing, runBranch, Rule.matching, performAll_append_bind]
  simp only [evalWith_performing, evalWith_follow]

theorem eval_onMiss (f : Nat) (r : Rule I (Op I O W)) :
    Action.eval (f + 1) r.onMiss = runBranch (Op.perform (Action.eval f)) r.missing := by
  show r.onMiss.evalWith (serveWith (Action.eval f) f) (Action.eval f) [] = _
  rw [Rule.onMiss, evalWith_performing, runBranch, Rule.missing]
  -- a miss without a next state stops, which is recorded just as going nowhere
  cases r.fallbackNext with
  | none => simp only [evalWith_follow]; rfl
  | some state => simp only [evalWith_follow]

omit [BEq O] in
theorem select_tableOf (rules : RuleSet I (Op I O W)) (state : Int) (symbol : I) :
    (rules.tableOf state).select symbol =
      match rules.rules.find? fun r => r.state == state && r.read == symbol with
      | some r => some r.onMatch
      | none => (rules.rules.find? (·.state == state)).map Rule.onMiss := by
  have hmatch : (rules.tableOf state).entries.find? (·.condition == symbol) =
      (rules.rules.find? fun r => r.state == state && r.read == symbol).map Rule.entry := by
    rw [RuleSet.tableOf, RuleSet.rulesFor, List.find?_map, List.find?_filter]
    congr 2
    funext r
    simp [Rule.entry, Bool.beq_eq_decide_eq]
  have hfirst : (rules.tableOf state).entries.head? =
      (rules.rules.find? (·.state == state)).map Rule.entry := by
    rw [RuleSet.tableOf, RuleSet.rulesFor, List.head?_map, List.head?_filter]
  rw [Table.select, hmatch, hfirst]
  cases rules.rules.find? fun r => r.state == state && r.read == symbol with
  | some r => rfl
  | none => cases rules.rules.find? (·.state == state) <;> rfl

/-- The table of a declared state chooses the action of the branch that the declarations demand. -/
theorem exists_select {rules : RuleSet I (Op I O W)} {state : Int}
    (declared : rules.hasState state = true) (symbol : I) :
    ∃ branch action, branchFor rules.rules state symbol = some branch ∧
      (rules.tableOf state).select symbol = some action ∧
      ∀ f, Action.eval (f + 1) action = runBranch (Op.perform (Action.eval f)) branch := by
  rw [select_tableOf, branchFor]
  cases rules.rules.find? fun r => r.state == state && r.read == symbol with
  | some r => exact ⟨r.matching, r.onMatch, rfl, rfl, fun f => eval_onMatch f r⟩
  | none =>
    have hsome : (rules.rules.find? (·.state == state)).isSome = true := by
      rw [List.find?_isSome]
      simpa [RuleSet.hasState] using declared
    obtain ⟨r, hr⟩ := Option.isSome_iff_exists.1 hsome
    rw [hr]
    exact ⟨r.missing, r.onMiss, rfl, rfl, fun f => eval_onMiss f r⟩

omit [BEq O] in
/-- Once the active tape has been read, the table of the current state decides. -/
theorem selectBranch_of_read {s s' : Session I O W} {symbol : I} {table : Table I (Action I O W)}
    {action : Action I O W} (hr : readInput none s = (.ok symbol, s'))
    (ht : s'.machine.compiled s'.machine.registry.current = some table)
    (hs : table.select symbol = some action) : selectBranch s = (.ok action, s') := by
  refine (Attempt.bind_of_ok hr).trans ?_
  simp only [Attempt.ask, ht, Option.bind_some, hs]

/-! ## One step -/

/-- How an action that dispatches again or halts ends. -/
def onward (more : Bool) : Transition (Action I O W) := if more then .enter .dispatch else .halt

section Goals

omit [BEq I] [BEq O]

variable {s : Session I O W} {rules : RuleSet I (Op I O W)} {state : Int}

theorem enterState_of_enforces (enforces : s.machine.Enforces rules)
    (declared : rules.hasState state = true) :
    enterState state s = (.ok .dispatch,
      { s with machine.registry := s.machine.registry.setCurrent state }) := by
  have hl : s.machine.lookup state = .ok .dispatch := by
    rw [Frame.lookup, enforces.bound state declared]
  have hask : (Attempt.ask (·.machine.lookup state)) s = (.ok .dispatch, s) := Attempt.ask_of_ok hl
  exact (Attempt.bind_of_ok hask).trans rfl

theorem enterState_of_undeclared (carried : s.machine.Carries rules)
    (undeclared : rules.hasState state = false) :
    enterState state s = (.error (.unknownState state), s) := by
  have hl : s.machine.lookup state = .error (.unknownState state) := by
    rw [Frame.lookup, carried.unbound state undeclared, Frame.missingState, carried.rules_eq,
      undeclared]
    rfl
  have hask : (Attempt.ask (·.machine.lookup state)) s = (.error (.unknownState state), s) :=
    Attempt.ask_of_error hl
  exact Attempt.bind_of_error hask

/-- Only a machine that carries the rules knows its declared states and no others. -/
theorem transitionTo_eq_goTo (carried : s.machine.Carries rules) (target : Option Int) :
    Run.ofAttempt (transitionTo (.goTo target)) s =
      (Run.ofAttempt (goTo rules.rules target) >>= fun more => pure (onward more)) s := by
  cases target with
  | none => rfl
  | some state =>
    have hany : rules.rules.any (·.state == state) = rules.hasState state := rfl
    cases hs : rules.hasState state with
    | true =>
      have he := enterState_of_enforces carried.enforces hs
      have hg : Run.ofAttempt (goTo rules.rules (some state)) s = some (.ok true,
          { s with machine.registry := s.machine.registry.setCurrent state }.recordTransition
            s.machine.registry.current (some state)) := by
        simp only [Run.ofAttempt_apply, goTo, hany, hs, ↓reduceIte]
      refine Eq.trans ?_ (Run.bind_of_ok hg).symm
      exact congrArg some ((Attempt.bind_of_ok rfl).trans (Attempt.bind_of_ok he))
    | false =>
      have he := enterState_of_undeclared carried hs
      have hg : Run.ofAttempt (goTo rules.rules (some state)) s =
          some (.error (.unknownState state), s) := by
        simp only [Run.ofAttempt_apply, goTo, hany, hs, Bool.false_eq_true, ↓reduceIte]
      refine Eq.trans ?_ (Run.bind_of_error hg).symm
      exact congrArg some ((Attempt.bind_of_ok rfl).trans (Attempt.bind_of_error he))

end Goals

theorem eval_dispatch_of_ok {n : Nat} {s s' : Session I O W} {branch : Action I O W}
    (h : selectBranch s = (.ok branch, s')) :
    Action.eval (n + 1) .dispatch s = Action.eval n branch s' := by
  simp only [Action.eval, Action.evalWith, h]

theorem eval_dispatch_of_error {n : Nat} {s s' : Session I O W} {e : MachineError}
    (h : selectBranch s = (.error e, s')) :
    Action.eval (n + 1) .dispatch s = some (.error e, s') := by
  simp only [Action.eval, Action.evalWith, h]

/-- On a machine that carries the rules, one dispatch is one step of the interpreter. -/
theorem eval_dispatch {s : Session I O W} {rules : RuleSet I (Op I O W)}
    (carried : s.machine.Carries rules)
    (declared : rules.hasState s.machine.registry.current = true)
    (tapes : ∀ r ∈ rules.rules, r.OnTapes) (f : Nat) :
    Action.eval (f + 2) .dispatch s =
      (interpretStep (Op.perform (Action.eval f)) rules.rules >>= fun more =>
        pure (onward more)) s := by
  rw [interpretStep, Run.bind_assoc]
  have hsame := readInput_sameButTapes none s
  cases hr : readInput none s with
  | mk result s' =>
    rw [hr] at hsame
    have hread : Run.ofAttempt (readInput none) s = some (result, s') := by
      rw [Run.ofAttempt_apply, hr]
    cases result with
    | error e =>
      have hs : selectBranch s = (.error e, s') := Attempt.bind_of_error hr
      rw [Run.bind_of_error hread, eval_dispatch_of_error hs]
    | ok symbol =>
      -- reading has changed the tapes alone, so the table is the one of the state before
      have carried' := carried.of_sameCode (KeepsCode.of_sameButTapes hsame).code
      have hcurrent : s'.machine.registry.current = s.machine.registry.current :=
        congrArg Registry.current hsame.registry_eq
      rw [← hcurrent] at declared
      obtain ⟨branch, action, hbranch, hselect, heval⟩ := exists_select declared symbol
      have hs : selectBranch s = (.ok action, s') :=
        selectBranch_of_read hr (carried'.enforces.compiled _ declared) hselect
      have hask : (Run.ofAttempt (.ask (Except.ok ·.machine.registry.current)) :
          Run (Session I O W) Int) s' = some (.ok s'.machine.registry.current, s') := rfl
      rw [Run.bind_of_ok hread, Run.bind_assoc, Run.bind_of_ok hask, hbranch,
        eval_dispatch_of_ok hs]
      show Action.eval (f + 1) action s' = (takeBranch _ rules.rules branch >>= _) s'
      rw [heval, runBranch, takeBranch, Run.bind_assoc]
      have hops : (performAll (Op.perform (Action.eval f)) branch.ops).Along SameButTapes :=
        performAll_along fun op hop => (onTapes_of_branchFor tapes hbranch op hop).perform_along f
      cases hp : performAll (Op.perform (Action.eval f)) branch.ops s' with
      | none => rw [Run.bind_of_none hp, Run.bind_of_none hp]
      | some p =>
        obtain ⟨e | _, t⟩ := p
        · rw [Run.bind_of_error hp, Run.bind_of_error hp]
        · rw [Run.bind_of_ok hp, Run.bind_of_ok hp]
          have kept := KeepsCode.of_sameButTapes (hops _ _ _ hp)
          exact transitionTo_eq_goTo (carried'.of_sameCode kept.code) branch.next

/-! ## Runs -/

/-- The rules are on the machine, and the current state is one of theirs. -/
structure Ready (rules : RuleSet I (Op I O W)) (s : Session I O W) : Prop where
  carried : s.machine.Carries rules
  declared : rules.hasState s.machine.registry.current = true

/-- A step of the interpreter that goes on leads from a ready session to a ready one. -/
theorem Ready.step {rules : RuleSet I (Op I O W)} {s s' : Session I O W} (ready : s.Ready rules)
    (tapes : ∀ r ∈ rules.rules, r.OnTapes) {f : Nat}
    (h : interpretStep (Op.perform (Action.eval f)) rules.rules s = some (.ok true, s')) :
    s'.Ready rules where
  carried :=
    have kept := interpretStep_keeps tapes (fun _ hop => hop.perform_along f) _ _ _ h
    ready.carried.of_sameCode kept.code
  declared := declared_of_interpretStep h

/-- From a ready session, every number of dispatches is as many steps of the interpreter. -/
theorem Ready.advance_eq {rules : RuleSet I (Op I O W)} {s : Session I O W} (ready : s.Ready rules)
    (tapes : ∀ r ∈ rules.rules, r.OnTapes) (f n : Nat) :
    advance (Action.eval (f + 2)) n .dispatch s =
      (interpret (Op.perform (Action.eval f)) rules.rules n s).map (.map fun _ => .dispatch) := by
  -- induction on the number of steps; the first one leads to a ready session again
  induction n generalizing s with
  | zero => rfl
  | succ n ih =>
    have hstep := eval_dispatch ready.carried ready.declared tapes f
    rw [advance, bounce, hstep, interpret]
    cases hs : interpretStep (Op.perform (Action.eval f)) rules.rules s with
    | none => rw [Run.bind_of_none hs]; rfl
    | some p =>
      obtain ⟨e | more, s'⟩ := p
      · rw [Run.bind_of_error hs]; rfl
      · rw [Run.bind_of_ok hs]
        cases more with
        | false => rfl
        | true => exact ih (ready.step tapes hs)

omit [BEq I] [BEq O] in
theorem beginRun_of_enforces {rules : RuleSet I (Op I O W)} {s : Session I O W} {state : Int}
    (enforces : s.machine.Enforces rules) (declared : rules.hasState state = true) :
    beginRun (.state state) s = (.ok .dispatch, entering state s) :=
  (Attempt.bind_of_ok rfl).trans <|
    (Attempt.bind_of_ok (enterState_of_enforces enforces declared)).trans rfl

omit [BEq I] [BEq O] in
theorem beginRun_eq {rules : RuleSet I (Op I O W)} {s : Session I O W} {state : Int}
    (carried : s.machine.Carries rules) (declared : rules.hasState state = true) :
    beginRun (.state state) s = (.ok .dispatch, entering state s) :=
  beginRun_of_enforces carried.enforces declared

omit [BEq I] [BEq O] in
theorem ready_entering {rules : RuleSet I (Op I O W)} {s : Session I O W} {state : Int}
    (carried : s.machine.Carries rules) (declared : rules.hasState state = true) :
    (entering state s).Ready rules where
  carried := by
    refine carried.of_sameCode ⟨?_, fun _ => ?_, fun _ => ?_⟩ <;>
      rw [entering, machine_note] <;> rfl
  declared := by
    rw [entering, machine_note]
    exact declared

/-- A run from a declared state answers what the interpreter ends with. -/
theorem execute_eq_bind {rules : RuleSet I (Op I O W)} {s : Session I O W} {state : Int}
    (carried : s.machine.Carries rules) (declared : rules.hasState state = true)
    (tapes : ∀ r ∈ rules.rules, r.OnTapes)
    (unreset : s.machine.config.resetAfterExecution = false) (f : Nat) :
    execute (f + 2) (.state state) s =
      (interpret (Op.perform (Action.eval f)) rules.rules (f + 2) (entering state s)).bind
        Standing.outcome? := by
  have hrun : execute (f + 2) (.state state) s = _ :=
    executeWith_eq_advance (beginRun_eq carried declared) (f + 2)
  rw [hrun, (ready_entering carried declared).advance_eq tapes f (f + 2)]
  cases hi : interpret (Op.perform (Action.eval f)) rules.rules (f + 2) (entering state s) with
  | none => rfl
  | some x =>
    have kept := interpret_keeps tapes (fun _ hop => hop.perform_along f) hi
    have hconfig : x.state.machine.config = s.machine.config := by
      rw [kept.config_eq, entering, machine_note]
    rw [← hconfig] at unreset
    have hreset : ((x.map fun _ => (Action.dispatch : Action I O W)).state.machine.config
        ).resetAfterExecution = false := by
      cases x <;> exact unreset
    show finish (x.map fun _ => Action.dispatch) = x.outcome?
    rw [finish_eq_outcome? hreset, Standing.outcome?_map]

/-- A run of the interpreter that ends is one of the machine, followed with enough fuel. -/
theorem exists_execute {rules : RuleSet I (Op I O W)} {s final : Session I O W} {state : Int}
    (carried : s.machine.Carries rules) (declared : rules.hasState state = true)
    (tapes : ∀ r ∈ rules.rules, r.OnTapes)
    (unreset : s.machine.config.resetAfterExecution = false) {f n : Nat}
    {result : Except MachineError Unit}
    (h : interpret (Op.perform (Action.eval f)) rules.rules n (entering state s) =
      some (.ended result final)) :
    ∃ fuel, execute fuel (.state state) s = some (result, final) := by
  have ready := ready_entering carried declared
  have hn : advance (Action.eval (f + 2)) n .dispatch (entering state s) =
      some (.ended result final) := by
    rw [ready.advance_eq tapes, h]
    rfl
  -- as much fuel as is needed both for the instructions and for the length of the run
  obtain ⟨g, hf, hg⟩ : ∃ g, f ≤ g ∧ n ≤ g :=
    ⟨max f n, Nat.le_max_left f n, Nat.le_max_right f n⟩
  have hend := advance_of_ended (m := g + 2)
    (advance_within (Action.eval_within (Nat.add_le_add_right hf 2)) hn) (Nat.le_add_right_of_le hg)
  rw [ready.advance_eq tapes] at hend
  obtain ⟨x, hx, hmap⟩ := Option.map_eq_some_iff.1 hend
  refine ⟨g + 2, ?_⟩
  rw [execute_eq_bind carried declared tapes unreset, hx, Option.bind_some, ← Standing.outcome?_map,
    hmap]
  rfl

/-- A run of the machine answers just what the interpreter ends with. -/
theorem execute_iff_interpret {rules : RuleSet I (Op I O W)} {s : Session I O W} {state : Int}
    (carried : s.machine.Carries rules) (declared : rules.hasState state = true)
    (tapes : ∀ r ∈ rules.rules, r.OnTapes)
    (unreset : s.machine.config.resetAfterExecution = false) (result : Except MachineError Unit)
    (final : Session I O W) :
    (∃ fuel, execute fuel (.state state) s = some (result, final)) ↔
      ∃ f n, interpret (Op.perform (Action.eval f)) rules.rules n (entering state s) =
        some (.ended result final) := by
  constructor
  · rintro ⟨fuel, hrun⟩
    have hrun' := execute_within (Nat.le_add_right fuel 2) (.state state) _ _ hrun
    rw [execute_eq_bind carried declared tapes unreset] at hrun'
    obtain ⟨x, hx, hout⟩ := Option.bind_eq_some_iff.1 hrun'
    rw [Standing.outcome?_eq_some_iff.1 hout] at hx
    exact ⟨fuel, fuel + 2, hx⟩
  · rintro ⟨f, n, hend⟩
    exact exists_execute carried declared tapes unreset hend

omit [BEq I] [BEq O] in
/-- Building leaves a machine that carries the rules if no other state is bound. -/
theorem carries_of_build {s built : Session I O W} (declared : s.machine.rules.rules ≠ [])
    (building : build s = (.ok (), built))
    (alone : ∀ state, built.machine.registry.contains state = true →
      s.machine.rules.hasState state = true) : built.machine.Carries s.machine.rules := by
  obtain ⟨log, hbuild⟩ := build_of_ne_nil declared
  rw [hbuild] at building
  cases building
  exact Machine.carries_built alone

/-- Suppose building succeeded with just the given rules, whose instructions work on tapes only, no
other state is bound, and the machine still has the code it had then. From every declared state it
goes as the interpreter goes, whatever is on its tapes: after every number of steps they stand at
the same session, every number of steps is followed to its end with enough fuel, and a run answers
just what the interpreter ends with. -/
theorem execute_eq_interpret {rules : List (Rule I (Op I O W))} {s built later : Session I O W}
    {start : Int} (exactly : s.machine.rules.rules = rules) (tapes : ∀ r ∈ rules, r.OnTapes)
    (building : build s = (.ok (), built))
    (alone : ∀ state, built.machine.registry.contains state = true → ∃ r ∈ rules, r.state = state)
    (same : built.machine.SameCode later.machine)
    (unreset : later.machine.config.resetAfterExecution = false)
    (declared : ∃ r ∈ rules, r.state = start) :
    beginRun (.state start) later = (.ok .dispatch, entering start later) ∧
    (∀ f n, advance (Action.eval (f + 2)) n .dispatch (entering start later) =
      (interpret (Op.perform (Action.eval f)) rules n (entering start later)).map
        (.map fun _ => .dispatch)) ∧
    (∀ n, ∃ f x, interpret (Op.perform (Action.eval f)) rules n (entering start later) = some x) ∧
    ∀ result final, (∃ fuel, execute fuel (.state start) later = some (result, final)) ↔
      ∃ f n, interpret (Op.perform (Action.eval f)) rules n (entering start later) =
        some (.ended result final) := by
  subst exactly
  have hne : s.machine.rules.rules ≠ [] := by
    obtain ⟨r, hr, -⟩ := declared
    exact List.ne_nil_of_mem hr
  have carried := (carries_of_build hne building fun state h =>
    RuleSet.hasState_iff_exists_mem.2 (alone state h)).of_sameCode same
  have hstart : s.machine.rules.hasState start = true := RuleSet.hasState_iff_exists_mem.2 declared
  exact ⟨beginRun_eq carried hstart, (ready_entering carried hstart).advance_eq tapes,
    fun n => exists_interpret tapes n _, execute_iff_interpret carried hstart tapes unreset⟩

/-- Two rules for one state and symbol, of which the second one is never followed, and a miss that
leads to a state without rules. -/
theorem execute_eq_interpret_unknown_after_miss :
    let rules : List (Rule Bool (Op Bool Bool Unit)) :=
      [{ state := 0, read := true, write := some (.writeInput false),
         moves := some (.moveInput .right), next := some 0,
         fallback := some (.writeOutput true), fallbackNext := some 5 },
       { state := 0, read := true, next := some 3 }]
    let s : Session Bool Bool Unit := { machine := { rules := ⟨rules⟩ }, world := () }
    let later : Session Bool Bool Unit :=
      { (build s).2 with
        machine.inputs := { tapes := ⟨[{ storage := .ofList [true] }]⟩, blank := some false }
        machine.outputs := { tapes := ⟨[{ storage := .ofList [false] }]⟩ } }
    ∃ fuel final, execute fuel (.state 0) later = some (.error (.unknownState 5), final) := by
  intro rules s later
  have tapes : ∀ r ∈ rules, r.OnTapes := by
    intro r hr
    rcases List.mem_cons.1 hr with rfl | hr
    · exact ⟨by rintro _ ⟨⟩; exact .input _, by rintro _ ⟨⟩; exact .input _,
        by rintro _ ⟨⟩; exact .output _⟩
    · rw [List.mem_singleton.1 hr]
      exact ⟨nofun, nofun, nofun⟩
  have alone : ∀ state, (build s).2.machine.registry.contains state = true →
      ∃ r ∈ rules, r.state = state := fun state h =>
    RuleSet.hasState_iff_exists_mem.1 (Machine.declared_of_contains (m := s.machine) rfl h)
  have building : build s = (.ok (), (build s).2) := rfl
  have same : (build s).2.machine.SameCode later.machine := ⟨rfl, fun _ => rfl, fun _ => rfl⟩
  have unreset : later.machine.config.resetAfterExecution = false := rfl
  have declared : ∃ r ∈ rules, r.state = 0 := ⟨_, List.mem_cons_self, rfl⟩
  obtain ⟨-, -, -, hiff⟩ := execute_eq_interpret rfl tapes building alone same unreset declared
  have hend : ((interpret (Op.perform (Action.eval 0)) rules 2 (entering 0 later)).bind
      Standing.outcome?).map (fun p => match p.1 with | .error e => some e | .ok _ => none) =
      some (some (.unknownState 5)) := by
    decide +kernel
  obtain ⟨⟨result, final⟩, hout, herror⟩ := Option.map_eq_some_iff.1 hend
  obtain ⟨x, hx, hended⟩ := Option.bind_eq_some_iff.1 hout
  rw [Standing.outcome?_eq_some_iff.1 hended] at hx
  cases result with
  | ok _ => cases herror
  | error e =>
    cases herror
    obtain ⟨fuel, hrun⟩ := (hiff _ _).2 ⟨0, 2, hx⟩
    exact ⟨fuel, final, hrun⟩

end TapeMachine.Session
