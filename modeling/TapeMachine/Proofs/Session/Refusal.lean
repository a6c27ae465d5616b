import TapeMachine.Proofs.Session.Representation

/-!
# Refused calls

A refused call leaves no trace but in the log. For most calls this is seen in the call itself: it
checks before it changes anything. `build` does not, it drops all tables before it looks for rules;
nothing is lost, since a machine without rules has no tables. That is an invariant of the machine
(`Machine.WellFormed`), so it is had at every moment, in the middle of a run as well.

Results:
1. `serveAlone_of_error`: a refused call that runs no code leaves the session as it was.
2. `serve_execute_of_missing`: so does a run whose first state is missing.
3. `Recorded.Arises.refusals`: both at whatever moment, and when and how `build` fails.
-/

namespace TapeMachine

variable {I O W α : Type}

/-! ## Machines without rules -/

/-- Where nothing is declared, nothing is compiled. -/
theorem Machine.WellFormed.tables_eq_empty {m : Machine I O W} (h : m.WellFormed)
    (none_declared : m.rules.rules = []) : m.tables = .empty := by
  cases ht : m.tables.items with
  | nil =>
    rw [show m.tables = ⟨m.tables.items⟩ from rfl, ht]
    rfl
  | cons t rest =>
    have mem : t ∈ m.tables.items := ht ▸ List.mem_cons_self
    have reads := h.declared t mem
    rw [RuleSet.rulesFor, none_declared] at reads
    exact absurd (List.prefix_nil.1 reads) (h.filled t mem)

/-- Building leaves no state without a table that had one. -/
theorem Machine.WellFormed.isSome_compiled_built {m : Machine I O W} (h : m.WellFormed)
    {state : Int} (ht : (m.compiled state).isSome = true) :
    (m.built.compiled state).isSome = true := by
  obtain ⟨t, ht⟩ := Option.isSome_iff_exists.1 ht
  rw [compiled_built, RuleSet.compile_of_hasState (h.hasState_of_compiled ht)]
  rfl

/-- On record there is no rule exactly if no rule was ever declared. -/
theorem declaredRules_eq_nil_iff {record : List (Moment I O W)} :
    (declaredRules record).rules = [] ↔ ∀ m ∈ record, m.what.rule? = none := by
  induction record with
  | nil => exact ⟨fun _ => List.forall_mem_nil _, fun _ => rfl⟩
  | cons m earlier ih =>
    rw [declaredRules, List.forall_mem_cons, ← ih]
    cases hr : m.what.rule? with
    | none => simp
    | some rule => simp [RuleSet.add]

/-- An answer in other words is refused only if the answer is. -/
theorem Run.of_answer_error {σ β : Type} {x : Attempt σ α} {f : α → β} {s s' : σ} {e : MachineError}
    (h : (Run.ofAttempt x >>= fun a => pure (f a)) s = some (.error e, s')) :
    x s = (.error e, s') := by
  obtain ⟨r, hx, he⟩ := Run.of_answer h
  rw [hx, eq_error_of_map_eq_error he.symm]

namespace Session

variable {s s' : Session I O W}

/-! ## One call -/

theorem onInputs_of_error {work : Bank I → Except MachineError (Bank.Traced I α × Bank I)}
    {e : MachineError} (h : onInputs work s = (.error e, s')) : s' = s := by
  rcases onInputs_cases h with ⟨_, -, -, hs⟩ | ⟨_, _, _, -, he, -⟩
  · exact hs
  · cases he

theorem onOutputs_of_error {work : Bank O → Except MachineError (Bank.Traced O α × Bank O)}
    {e : MachineError} (h : onOutputs work s = (.error e, s')) : s' = s := by
  rcases onOutputs_cases h with ⟨_, -, -, hs⟩ | ⟨_, _, _, -, he, -⟩
  · exact hs
  · cases he

theorem setDefault_of_error {state : Int} {e : MachineError}
    (h : setDefault state s = (.error e, s')) :
    s' = s := by
  rcases setDefault_cases h with ⟨_, -, -, hs⟩ | ⟨_, -, he, -⟩
  · exact hs
  · cases he

theorem transitionTo_of_error {target : Target} {e : MachineError}
    (h : transitionTo target s = (.error e, s')) : s' = s := by
  rcases transitionTo_cases h with ⟨_, _, -, -, -, hs⟩ | ⟨-, he, -⟩ | ⟨_, _, -, -, he, -⟩
  · exact hs
  · cases he
  · cases he

theorem buildState_of_error {state : Int} {e : MachineError}
    (h : buildState state s = (.error e, s')) :
    s' = s := by
  rcases buildState_cases h with ⟨-, -, hs⟩ | ⟨-, he, -⟩
  · exact hs
  · cases he

/-- A refused building leaves the log behind, which says that the tables are being dropped. -/
theorem build_of_error (wf : s.machine.WellFormed) {e : MachineError}
    (h : build s = (.error e, s')) :
    s' = { s with log := s'.log } := by
  rcases build_cases h with ⟨none_declared, -, -⟩ | ⟨-, he, -⟩
  · obtain ⟨log, hb⟩ := build_of_nil none_declared
    rw [h] at hb
    cases hb
    rw [← wf.tables_eq_empty none_declared]
  · cases he

variable [BEq I] [BEq O]

/-- A refused call that runs no code changes nothing and tells nothing. -/
theorem serveAlone_of_error {call : Machine.Call I O W} (alone : call.runsCode = false)
    (wf : s.machine.WellFormed) {e : MachineError}
    (h : serveAlone call s = some (.error e, s')) : s' = { s with log := s'.log } := by
  cases call with
  | apply op => cases alone
  | invoke state => cases alone
  | execute start => cases alone
  | input request =>
    rw [onInputs_of_error (Run.of_answer_error (x := serveInput request) (f := inputAnswer) h)]
  | output request =>
    rw [onOutputs_of_error (Run.of_answer_error (x := serveOutput request) (f := outputAnswer) h)]
  | setDefault state =>
    rw [setDefault_of_error (Run.of_answer_error (f := fun _ => Answer.done) h)]
  | transition target => rw [transitionTo_of_error (Run.of_answer_error (f := Answer.transition) h)]
  | build => exact build_of_error wf (Run.of_answer_error (f := fun _ => Answer.done) h)
  | buildState state =>
    rw [buildState_of_error (Run.of_answer_error (f := fun _ => Answer.done) h)]
  | _ => cases effect_of_serveAlone alone h

/-- A run whose first state is missing is refused before anything happens. -/
theorem serve_execute_of_missing {start : Start} {e : MachineError}
    (missing : s.machine.lookup (startState start s) = .error e) (fuel : Nat) :
    serve fuel (.execute start) s = some (.error e, s) := by
  have entered : enterState (startState start s) s = (.error e, s) :=
    Attempt.bind_of_error (Attempt.ask_of_error missing)
  have begun : beginRun start s = (.error e, s) :=
    (Attempt.bind_of_ok rfl).trans (Attempt.bind_of_error entered)
  have begun : Run.ofAttempt (beginRun start) s = some (.error e, s) := by
    rw [Run.ofAttempt_apply, begun]
  exact Run.bind_of_error (Run.bind_of_error begun)

/-- Building is answered at once, whatever the fuel: it succeeds if any rule is declared. -/
theorem serve_build (fuel : Nat) (s : Session I O W) :
    ∃ s', (s.machine.rules.rules = [] ∧ serve fuel .build s = some (.error .emptyRuleSet, s') ∧
        s'.machine = { s.machine with tables := .empty }) ∨
      (s.machine.rules.rules ≠ [] ∧ serve fuel .build s = some (.ok .done, s') ∧
        s'.machine = s.machine.built) := by
  cases hb : build s with
  | mk result s' =>
    have hr : Run.ofAttempt build s = some (result, s') := by rw [Run.ofAttempt_apply, hb]
    refine ⟨s', ?_⟩
    rcases build_cases hb with ⟨hn, rfl, hm⟩ | ⟨hn, rfl, hm⟩
    · exact .inl ⟨hn, Run.bind_of_error hr, hm⟩
    · exact .inr ⟨hn, Run.bind_of_ok hr, hm⟩

end Session

/-! ## At every moment -/

variable [BEq I] [BEq O]

namespace Recorded.Arises

variable {config : Config} {world : W} {r : Recorded I O W}

theorem invariant (h : r.Arises (Session.fresh config world)) : r.Represented :=
  h _ kept_represented (represented_fresh config world)

/-- Whatever was done to a machine so far, in the middle of a run as well: a refused call that runs
no code leaves machine, events and surroundings as they were, and so does a run whose first state is
missing. Building is refused exactly if no rule was ever declared, and for no other reason: no table
is missed when it is to be dropped, and every state that had a table has one afterwards, refused or
not. -/
theorem refusals (h : r.Arises (Session.fresh config world)) :
    (∀ call fuel e s', call.runsCode = false →
      Session.serve fuel call r.session = some (.error e, s') →
        s' = { r.session with log := s'.log }) ∧
    (∀ start fuel e, r.session.machine.lookup (Session.startState start r.session) = .error e →
      Session.serve fuel (.execute start) r.session = some (.error e, r.session)) ∧
    (∀ fuel, (∃ e s', Session.serve fuel .build r.session = some (.error e, s')) ↔
      ∀ m ∈ r.record, m.what.rule? = none) ∧
    (∀ state (s : Session I O W), (Session.dropTable state s).1 = .ok ()) ∧
    ∀ fuel, ∃ result s', Session.serve fuel .build r.session = some (result, s') ∧
      (result = .ok .done ∨ result = .error .emptyRuleSet) ∧
      ∀ state, (r.session.machine.compiled state).isSome = true →
        (s'.machine.compiled state).isSome = true := by
  have held := h.invariant
  have wf := held.wellFormed
  refine ⟨fun call fuel e s' alone hs => ?_, fun start fuel e missing =>
    Session.serve_execute_of_missing missing fuel, fun fuel => ?_,
    fun state s => by rw [Session.dropTable_eq], fun fuel => ?_⟩
  · rw [Session.serve, Session.serveWith_eq_serveAlone alone] at hs
    exact Session.serveAlone_of_error alone wf hs
  · rw [← declaredRules_eq_nil_iff, ← held.rules_eq]
    obtain ⟨s', ⟨hn, hs, -⟩ | ⟨hn, hs, -⟩⟩ := Session.serve_build fuel r.session
    · exact ⟨fun _ => hn, fun _ => ⟨_, s', hs⟩⟩
    · refine ⟨fun failed => ?_, fun hn' => absurd hn' hn⟩
      obtain ⟨e, t, ht⟩ := failed
      rw [hs] at ht
      cases ht
  · obtain ⟨s', ⟨hn, hs, hm⟩ | ⟨hn, hs, hm⟩⟩ := Session.serve_build fuel r.session
    · refine ⟨_, s', hs, .inr rfl, fun state ht => ?_⟩
      rwa [hm, ← wf.tables_eq_empty hn]
    · refine ⟨_, s', hs, .inl rfl, fun state ht => ?_⟩
      rw [hm]
      exact wf.isSome_compiled_built ht

/-- An action builds where nothing is declared and passes over the error. After its run a verbose
and observed machine refuses to read its empty tape, to build and to run a state that nobody
knows. -/
theorem refusals_after_vain_building :
    ∃ r : Recorded Bool Bool Unit, r.Arises (Session.fresh { verbose := true } ()) ∧
      r.session.observed = true ∧ r.session.machine.counters.transitions = 1 ∧
      (∃ e s', Session.serve 0 (.input (.read none)) r.session = some (.error e, s') ∧
        s' = { r.session with log := s'.log }) ∧
      (∃ e s', Session.serve 0 .build r.session = some (.error e, s') ∧
        s' = { r.session with log := s'.log }) ∧
      Session.serve 0 (.execute (.state 7)) r.session =
          some (.error (.unknownState 7), r.session) := by
  let vain : Action Bool Bool Unit := .call .build fun _ => .follow .stop
  let calls : List (Machine.Call Bool Bool Unit) :=
    [.observe true, .bind 1 vain, .input .add, .build, .execute (.state 1)]
  have run : (Recorded.serveAll 5 calls ⟨Session.fresh { verbose := true } (), []⟩).map (fun r =>
      (r.session.observed, r.session.machine.counters.transitions,
        r.record.all (·.what.rule?.isNone),
        (Session.serve 0 (.input (.read none)) r.session).map (·.1.toOption.isSome),
        (r.session.machine.registry.get? 7).isNone, r.session.machine.rules.hasState 7)) =
      some (true, 1, true, some false, true, false) := by
    decide +kernel
  obtain ⟨r, hr, hfacts⟩ := Option.map_eq_some_iff.1 run
  simp only [Prod.mk.injEq] at hfacts
  obtain ⟨observed, transitions, undeclared, reading, unbound, unruled⟩ := hfacts
  have arises : r.Arises (Session.fresh { verbose := true } ()) :=
    (throughout_of_reached (Recorded.Reached.start.serveAll (fun _ _ => trivial) hr)).1
  obtain ⟨changeless, missing, fails, -, -⟩ := refusals arises
  obtain ⟨e, s', hb⟩ := (fails 0).2 fun m hm =>
    Option.isNone_iff_eq_none.1 (List.all_eq_true.1 undeclared m hm)
  refine ⟨r, arises, observed, transitions, ?_, ⟨e, s', hb, changeless _ _ _ _ rfl hb⟩, ?_⟩
  · obtain ⟨⟨result, s'⟩, hs, hf⟩ := Option.map_eq_some_iff.1 reading
    cases result with
    | error e => exact ⟨e, s', hs, changeless _ _ _ _ rfl hs⟩
    | ok answer => cases hf
  · refine missing (.state 7) 0 _ ?_
    show r.session.machine.lookup 7 = _
    simp [Frame.lookup, Frame.missingState, Option.isNone_iff_eq_none.1 unbound, unruled]

end Recorded.Arises

end TapeMachine
