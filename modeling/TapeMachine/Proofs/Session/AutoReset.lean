import TapeMachine.Proofs.Session.Abreast

/-!
# Runs that reset at their end

A machine may be configured to take its tapes back to their snapshots after a run that halted. The
setting is asked once, when the run is over; until then a run with it and a run without it go on
abreast. So what it adds to a run is a reset at the end, if there is an end that is no failure, and
nothing else.

Code could make a difference by looking at the setting, by changing it, and by a run of its own that
is over before the outer one; here it does none of it.

Results:
1. `Machine.congruence_resetting`: nothing that is done to a machine before its run is over depends
   on the setting.
2. `Session.exists_reset`: what a reset touches, and that once is enough.
3. `Session.execute_resetting`: a run that resets at its end is the run without, and a reset after
   it if it halted.
-/

namespace TapeMachine

variable {I O W : Type}

/-- Code that looks at everything but whether the machine resets after a run. It does not set the
configuration and starts no runs. -/
def View.unreset : View I O where
  same o o' := ∃ resets, o' = { o with config.resetAfterExecution := resets }
  configures := False
  executes := False

namespace Machine

/-- The machine, set to reset after a run or not to. -/
def resetting (m : Machine I O W) (resets : Bool) : Machine I O W :=
  { m with config.resetAfterExecution := resets }

/-- The first machine does not reset after a run. The second one does, and differs in nothing
else. -/
structure ButResetting (m n : Machine I O W) : Prop where
  off : m.config.resetAfterExecution = false
  eq_resetting : n = m.resetting true

theorem congruence_resetting [BEq I] :
    Congruence View.unreset (ButResetting : Machine I O W → Machine I O W → Prop) where
  seen := fun ⟨_, h⟩ => ⟨true, h ▸ rfl⟩
  inputs_eq := fun ⟨_, h⟩ => h ▸ rfl
  outputs_eq := fun ⟨_, h⟩ => h ▸ rfl
  get?_eq := fun ⟨_, h⟩ _ => h ▸ rfl
  current_eq := fun ⟨_, h⟩ => h ▸ rfl
  default_eq := fun ⟨_, h⟩ => h ▸ rfl
  hasState_eq := fun ⟨_, h⟩ _ => h ▸ rfl
  branch_eq := fun ⟨_, h⟩ _ _ => h ▸ rfl
  ends_eq := fun _ executes => executes.elim
  configured := fun _ configures => configures.elim
  inputs := fun ⟨off, h⟩ _ => ⟨off, h ▸ rfl⟩
  outputs := fun ⟨off, h⟩ _ => ⟨off, h ▸ rfl⟩
  bound := fun ⟨off, h⟩ _ _ => ⟨off, h ▸ rfl⟩
  current := fun ⟨off, h⟩ _ => ⟨off, h ▸ rfl⟩
  default := fun ⟨off, h⟩ _ => ⟨off, h ▸ rfl⟩
  erased := fun ⟨off, h⟩ => ⟨off, h ▸ rfl⟩
  counted := fun ⟨off, h⟩ => ⟨off, h ▸ rfl⟩
  declared := fun ⟨off, h⟩ _ => ⟨off, h ▸ rfl⟩
  cleared := fun ⟨off, h⟩ => ⟨off, h ▸ rfl⟩
  built := fun ⟨off, h⟩ => ⟨by rw [built_eq]; exact off, by rw [h, built_eq, built_eq]; rfl⟩
  installed := fun ⟨off, h⟩ _ _ => ⟨off, h ▸ rfl⟩

/-- Every tape of both banks is at the snapshot that it has, with its head at the front. All else is
as it was. -/
theorem wound_eq (m : Machine I O W) :
    m.wound =
      { m with
        inputs.tapes :=
          m.inputs.tapes.map fun tape => { tape with storage := tape.snapshot, head := 0 }
        outputs.tapes := m.outputs.tapes.map fun tape =>
          { tape with storage := tape.snapshot, head := 0 } } := rfl

theorem wound_wound (m : Machine I O W) : m.wound.wound = m.wound := by
  have tapes {S : Type} (b : Bank S) : b.reset.reset = b.reset := by
    simp only [Bank.reset, Stack.map, List.map_map]
    rfl
  simp only [wound, tapes]

end Machine

namespace Session

/-- The session with its machine set to reset after a run or not to. -/
def resetting (s : Session I O W) (resets : Bool) : Session I O W :=
  { s with machine := s.machine.resetting resets }

theorem reset_eq (s : Session I O W) :
    ∃ log, reset s = (.ok (), { s with machine := s.machine.wound, log := log }) := by
  obtain ⟨log, hn⟩ :=
    s.exists_note (.resettingTapes s.machine.inputs.tapes.len s.machine.outputs.tapes.len)
  refine ⟨log, ?_⟩
  simp only [reset, Attempt.change, hn]
  rfl

/-- To reset cannot fail. It touches the machine's tapes, tells observers nothing, and once is
enough. -/
theorem exists_reset (s : Session I O W) :
    ∃ t u, reset s = (.ok (), t) ∧ t.machine = s.machine.wound ∧ t.events = s.events ∧
      t.observed = s.observed ∧ t.world = s.world ∧
      reset t = (.ok (), u) ∧ u.machine = t.machine ∧ u.events = t.events := by
  obtain ⟨l, hs⟩ := s.reset_eq
  obtain ⟨l', ht⟩ := reset_eq { s with machine := s.machine.wound, log := l }
  exact ⟨_, _, hs, rfl, rfl, rfl, rfl, ht, s.machine.wound_wound, rfl⟩

/-- How a run that does not reset at its end and one that does end beside each other: neither does,
or both fail alike, or both halt and the second one is where a reset takes the first. -/
inductive ResetAppended : Option (Except MachineError Unit × Session I O W) →
    Option (Except MachineError Unit × Session I O W) → Prop
  | unended : ResetAppended none none
  | failed (e : MachineError) {s t : Session I O W}
    (h : s.Abreast .unreset Machine.ButResetting True t) :
      ResetAppended (some (.error e, s)) (some (.error e, t))
  | halted {s s' t : Session I O W} (hr : reset s = (.ok (), s'))
      (h : s'.Abreast .unreset Machine.ButResetting True t) :
      ResetAppended (some (.ok (), s)) (some (.ok (), t))

theorem abreast_resetting {s : Session I O W} (code : s.machine.Respects .unreset) :
    (s.resetting false).Abreast .unreset Machine.ButResetting True (s.resetting true) where
  machine := ⟨rfl, rfl⟩
  code := code.of_sameCode (fun _ => rfl) rfl rfl
  world_eq := rfl
  observed_eq _ := rfl
  events_eq _ := rfl

/-- Where both runs have halted, the one that does not reset is over and the other one resets. -/
theorem resetAppended_endRun {s t : Session I O W}
    (h : s.Abreast .unreset Machine.ButResetting True t) :
    ResetAppended (some (endRun s)) (some (endRun t)) := by
  obtain ⟨off, on⟩ := h.machine
  have resets : t.machine.config.resetAfterExecution = true := by rw [on]; rfl
  obtain ⟨l, hs⟩ := s.reset_eq
  obtain ⟨l', ht⟩ := t.reset_eq
  have wound : s.machine.wound.ButResetting t.machine.wound := ⟨off, on ▸ rfl⟩
  rw [endRun_eq, endRun_eq, off, resets, if_neg Bool.false_ne_true, if_pos rfl, ht]
  exact .halted hs (h.become wound (h.code.of_sameCode (fun _ => rfl) rfl rfl) l l')

variable [BEq I] [BEq O]

/-- A run up to its halt: what is done then comes after it. -/
theorem execute_eq_bind_endRun (fuel : Nat) (start : Start) :
    (execute fuel start : Run (Session I O W) Unit) =
      (Run.ofAttempt (beginRun start) >>= drive (Action.eval fuel) fuel) >>= fun _ =>
        Run.ofAttempt endRun :=
  (Run.bind_assoc _ _ _).symm

theorem execute_resetAppended {s t : Session I O W}
    (h : s.Abreast .unreset Machine.ButResetting True t) (fuel : Nat) (start : Start) :
    ResetAppended (execute fuel start s) (execute fuel start t) := by
  have c :
      Machine.Congruence View.unreset
          (Machine.ButResetting : Machine I O W → Machine I O W → Prop) :=
    Machine.congruence_resetting
  have begun : Alike (Abreast .unreset Machine.ButResetting True) (Action.Respects .unreset)
      (Run.ofAttempt (beginRun start) s) (Run.ofAttempt (beginRun start) t) := c.beginRun h start
  have driven : Alike (Abreast .unreset Machine.ButResetting True) (fun _ => True)
      ((Run.ofAttempt (beginRun start) >>= drive (Action.eval fuel) fuel) s)
      ((Run.ofAttempt (beginRun start) >>= drive (Action.eval fuel) fuel) t) :=
    begun.bind fun _ _ _ ha h => Machine.Compatible.drive (c.eval fuel) fuel ha h
  rw [execute_eq_bind_endRun]
  generalize hs : (Run.ofAttempt (beginRun start) >>= drive (Action.eval fuel) fuel) s = p at driven
  generalize ht : (Run.ofAttempt (beginRun start) >>= drive (Action.eval fuel) fuel) t = q at driven
  cases driven with
  | unfinished =>
    rw [Run.bind_of_none hs, Run.bind_of_none ht]
    exact .unended
  | answered _ h =>
    rw [Run.bind_of_ok hs, Run.bind_of_ok ht]
    exact resetAppended_endRun h
  | refused h =>
    rw [Run.bind_of_error hs, Run.bind_of_error ht]
    exact .failed _ h

/-- Of any session whose code leaves the setting alone and starts no runs: a run with the setting
and one without it both do not end, or both fail with the same error and are left alike, or both
halt, and the one with the setting is where a reset takes the other. There every tape of both banks
is at the snapshot that it has by then, with its head at the front, and all else is as the run left
it, the events told included. To reset twice is to reset once. -/
theorem execute_resetting {s : Session I O W} (code : s.machine.Respects .unreset) :
    (∀ fuel start,
      ResetAppended (execute fuel start (s.resetting false))
        (execute fuel start (s.resetting true))) ∧
    ∀ t : Session I O W, ∃ u v, reset t = (.ok (), u) ∧
      u.machine =
        { t.machine with
          inputs.tapes :=
            t.machine.inputs.tapes.map fun tape => { tape with storage := tape.snapshot, head := 0 }
          outputs.tapes :=
            t.machine.outputs.tapes.map fun tape =>
              { tape with storage := tape.snapshot, head := 0 } } ∧
      u.events = t.events ∧ u.observed = t.observed ∧ u.world = t.world ∧
      reset u = (.ok (), v) ∧ v.machine = u.machine ∧ v.events = u.events := by
  refine ⟨execute_resetAppended (abreast_resetting code), fun t => ?_⟩
  simp only [← Machine.wound_eq]
  exact t.exists_reset

/-- A state puts a second tape beside the first, gives the first a new snapshot and halts. Without
the setting the tapes keep their cells; with it both go back to the snapshots they have by then. -/
theorem execute_resetting_added_tape :
    ∃ s : Session Bool Bool Unit, s.machine.Respects .unreset ∧
      ResetAppended (execute 2 (.state 0) (s.resetting false))
        (execute 2 (.state 0) (s.resetting true)) ∧
      (execute 2 (.state 0) (s.resetting false)).map (fun x =>
        (x.1.toOption.isSome,
          x.2.machine.inputs.tapes.items.map fun t => (t.storage.toList, t.head))) =
        some (true, [([true], 5), ([true, false], 1)]) ∧
      (execute 2 (.state 0) (s.resetting true)).map (fun x =>
        (x.1.toOption.isSome,
          x.2.machine.inputs.tapes.items.map fun t => (t.storage.toList, t.head))) =
        some (true, [([false, false], 0), ([], 0)]) := by
  let busy : Action Bool Bool Unit :=
    .andThen (.input .add) <| .andThen (.input (.load none (.ofList [true, false]) none)) <|
      .andThen (.input (.move none .left)) <|
        .andThen (.input (.setSnapshot (some 0) (.ofList [false, false]))) <| .follow .stop
  have calm (request : Bank.Request Bool) {next : Action Bool Bool Unit}
    (h : next.Respects .unreset) :
      (Action.andThen (.input request) next).Respects .unreset :=
    Action.respects_andThen trivial (.plain rfl) h
  have respects : busy.Respects .unreset := calm _ <| calm _ <| calm _ <| calm _ <|
    Action.respects_follow _
  let s : Session Bool Bool Unit :=
    { machine :=
        { inputs := { tapes := ⟨[{ storage := .ofList [true], head := 5 }]⟩ }
          registry := { bindings := [(0, busy)] } }
      world := () }
  have code : s.machine.Respects .unreset :=
    { bound := fun state action hg => by
        obtain ⟨binding, hf, rfl⟩ := Option.map_eq_some_iff.1 hg
        rw [List.mem_singleton.1 (List.mem_of_find?_eq_some hf)]
        exact respects
      rules := nofun
      tables := nofun }
  exact ⟨s, code, (execute_resetting code).1 2 (.state 0), by decide +kernel, by decide +kernel⟩

end Session

end TapeMachine
