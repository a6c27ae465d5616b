import TapeMachine.Proofs.Rules.Safety
import TapeMachine.Proofs.Session.Bindings
import TapeMachine.Proofs.Session.Candor

/-!
# What a missing state tells

Looking for a state to which nothing is bound is refused with one of two errors: the state waits to
be built, or nobody knows it. `TapeMachine.Proofs.Session.Bindings` tells from the past which one it
is. Here this is told of the calls that look for a state, and what it means for a machine that was
built: as long as no binding is dropped and no rule is declared for a state to which nothing is
bound, every declared state is bound, so the first of the two errors does not come. That code passes
errors on makes no difference, since it can be traced where they come from
(`TapeMachine.Proofs.Session.Candor`).

Results:
1. `Session.seeks_of_lookup`: the calls that look for a state are answered alike.
2. `Effect.covered`, `Recorded.kept_settled`: in a settled machine every declared state is bound.
3. `Recorded.Arises.diagnoses`: the error of a missing state is true, and no call and no run ends
   with the error of a state that waits to be built as long as the machine stays settled.
-/

namespace TapeMachine

variable {I O W : Type} [BEq I] [BEq O]

/-! ## The calls that look for a state -/

/-- How the calls that look for a state are answered if that finds what is `found`: a default state
is chosen, a transition leads to the action, and a run is in front of the action. All are refused
alike, and the run at once. -/
structure Session.Seeks (s : Session I O W) (state : Int)
    (found : Except MachineError (Action I O W)) :
    Prop where
  chosen : ∀ fuel, (serve fuel (.setDefault state) s).map Prod.fst = some (found.map fun _ => .done)
  followed : ∀ fuel, (serve fuel (.transition (.goTo (some state))) s).map Prod.fst =
    some (found.map fun action => .transition (.enter action))
  entered : ∀ action, found = .ok action → ∀ fuel,
    underway fuel 0 (.state state) s = some (.going action (entering state s))
  refused : ∀ e, found = .error e → ∀ fuel, serve fuel (.execute (.state state)) s =
    some (.error e, s)

theorem Session.seeks_of_lookup (s : Session I O W) (state : Int) :
    s.Seeks state (s.machine.lookup state) where
  chosen fuel := by
    cases hx : setDefault state s with
    | mk result s' =>
      have hr : Run.ofAttempt (setDefault state) s = some (result, s') := by
        rw [Run.ofAttempt_apply, hx]
      rcases setDefault_cases hx with ⟨e, hl, rfl, -⟩ | ⟨action, hg, rfl, -⟩
      · rw [hl, show serve fuel (.setDefault state) s = _ from Run.bind_of_error hr]
        rfl
      · rw [Frame.lookup_eq_ok_iff.2 hg,
          show serve fuel (.setDefault state) s = _ from Run.bind_of_ok hr]
        rfl
  followed fuel := by
    cases hx : transitionTo (.goTo (some state)) s with
    | mk result s' =>
      have hr : Run.ofAttempt (transitionTo (.goTo (some state))) s = some (result, s') := by
        rw [Run.ofAttempt_apply, hx]
      rcases transitionTo_cases hx with
        ⟨e, other, ht, hl, rfl, -⟩ | ⟨ht, -, -⟩ | ⟨other, action, ht, hg, rfl, -⟩
      · cases ht
        rw [hl, show serve fuel (.transition (.goTo (some state))) s = _ from Run.bind_of_error hr]
        rfl
      · cases ht
      · cases ht
        rw [Frame.lookup_eq_ok_iff.2 hg,
          show serve fuel (.transition (.goTo (some state))) s = _ from Run.bind_of_ok hr]
        rfl
  entered action hl fuel := by
    cases hb : beginRun (.state state) s with
    | mk found entered =>
      rcases beginRun_cases hb with ⟨e, he, -, -⟩ | ⟨bound, hg, rfl, rfl⟩
      · rw [show s.machine.lookup state = .error e from he] at hl
        cases hl
      · have ha := (Frame.lookup_eq_ok_iff.2 hg).symm.trans hl
        cases ha
        rw [underway, hb]
        rfl
  refused e hl fuel := serve_execute_of_missing hl fuel

/-! ## Settled machines -/

/-- The call drops the bindings, or it declares a rule for a state to which nothing is bound. -/
def Call.uncovers (m : Machine I O W) : Machine.Call I O W → Bool
  | .erase => true
  | .declare rule => !m.registry.contains rule.state
  | _ => false

/-- A call is made after which a state may have rules and no binding. -/
def Moment.unsettles (m : Moment I O W) : Bool :=
  match m.what with
  | .made call => call.uncovers m.session.machine
  | _ => false

/-- All declared states have been built, and since then no binding was dropped and no rule was
declared for a state to which nothing was bound. -/
def settled : List (Moment I O W) → Bool
  | [] => false
  | m :: earlier => m.what.buildsAll || (settled earlier && !m.unsettles)

omit [BEq I] [BEq O] in
/-- As long as nothing unsettles it, a machine stays settled. -/
theorem settled_append {base new : List (Moment I O W)} (h : settled base = true)
    (undisturbed : ∀ m ∈ new, m.unsettles = false) : settled (new ++ base) = true := by
  induction new with
  | nil => exact h
  | cons m later ih =>
    obtain ⟨now, before⟩ := List.forall_mem_cons.1 undisturbed
    rw [List.cons_append, settled, ih before, now]
    exact Bool.or_true _

namespace Machine

/-- To every declared state something is bound. -/
def Covered (m : Machine I O W) : Prop :=
  ∀ state, m.rules.hasState state = true → m.registry.contains state = true

variable {m m' : Machine I O W} {call : Machine.Call I O W}
  {result : Except MachineError (Answer I O (Action I O W))}

omit [BEq I] [BEq O] in
theorem Covered.lookup_ne_unbuiltState (h : m.Covered) (state other : Int) :
    m.lookup state ≠ .error (.unbuiltState other) := by
  intro hl
  unfold Frame.lookup at hl
  split at hl
  · cases hl
  · next unbound =>
    unfold Frame.missingState at hl
    split at hl
    · next declared =>
      have bound := h state declared
      rw [Registry.contains, unbound] at bound
      cases bound
    · cases hl

/-- A call that does not drop the bindings takes none away. -/
theorem Effect.contains_mono (e : m.Effect call result m')
    (kept : (Happening.answered call (result.map fun _ => ())).erases = false) {state : Int}
    (h : m.registry.contains state = true) : m'.registry.contains state = true := by
  rw [Registry.contains, e.get?_eq, kept, if_neg Bool.false_ne_true, Option.isSome_or,
    ← Registry.contains, h]
  exact Bool.or_true _

theorem Effect.covered (e : m.Effect call result m') (h : m.Covered)
    (leaves : call.uncovers m = false) :
    m'.Covered := by
  intro state declared
  cases e with
  | declared rule =>
    obtain ⟨other, ho, rfl⟩ := RuleSet.hasState_iff_exists_mem.1 declared
    rcases List.mem_append.1 ho with ho | ho
    · exact h _ (RuleSet.hasState_iff_exists_mem.2 ⟨other, ho, rfl⟩)
    · rw [List.mem_singleton.1 ho]
      show m.registry.contains rule.state = true
      simpa [Call.uncovers] using leaves
  | erased => cases leaves
  | built hn =>
    rw [built_eq] at declared
    exact (Effect.built hn).contains_mono rfl (h state declared)
  | bound other action => exact (Effect.bound other action).contains_mono rfl (h state declared)
  | shared hg => exact (Effect.shared hg).contains_mono rfl (h state declared)
  | stateBuilt hd => exact (Effect.stateBuilt hd).contains_mono rfl (h state declared)
  | _ => exact h state declared

theorem Effect.covered_of_build (e : m.Effect call result m')
    (building : (Happening.answered call (result.map fun _ => ())).buildsAll = true) :
    m'.Covered := by
  cases e with
  | built =>
    intro state declared
    rw [built_eq] at declared
    rw [Registry.contains, get?_built, if_pos declared]
    rfl
  | _ => cases building

end Machine

namespace Recorded

/-- If the record says that the machine is settled, every declared state is bound. -/
def Settled (r : Recorded I O W) : Prop := settled r.record = true → r.session.machine.Covered

namespace Settled

variable {r : Recorded I O W} (h : r.Settled)
include h

omit [BEq I] [BEq O] in
theorem note {what : Happening I O W} (no_build : what.buildsAll = false) :
    (r.note what).Settled := by
  intro hs
  rw [Recorded.note, settled, no_build, Bool.false_or, Bool.and_eq_true] at hs
  exact h hs.1

omit [BEq I] [BEq O] in
theorem become {s : Session I O W} (same : r.session.machine.Unaltered s.machine) :
    (r.become s).Settled := by
  intro hs state declared
  rw [session_become] at declared ⊢
  rw [same.rules_eq] at declared
  rw [Registry.contains, same.get?_eq]
  exact h hs state declared

theorem answered {call : Machine.Call I O W} {s' : Session I O W}
    {result : Except MachineError (Answer I O (Action I O W))}
    (e : r.session.machine.Effect call result s'.machine) :
    (((r.note (.made call)).become s').note (.answered call (result.map fun _ => ()))).Settled := by
  intro hs
  rw [Recorded.note, settled, Bool.or_eq_true] at hs
  rcases hs with building | hs
  · exact e.covered_of_build building
  · have made : settled (r.note (.made call)).record = true := (Bool.and_eq_true_iff.1 hs).1
    obtain ⟨before, leaves⟩ : settled r.record = true ∧
        call.uncovers r.session.machine = false := by
      simpa [Recorded.note, settled, Happening.buildsAll, Moment.unsettles] using made
    exact e.covered (h before) leaves

end Settled

/-- Every happening leaves every declared state of a settled machine bound. -/
theorem kept_settled : Kept (Settled : Recorded I O W → Prop) := by
  refine .of_unaltered (fun same h => h.become same) (fun h => h.note rfl) ?_ (fun h => h.note rfl)
    fun alone h hs => h.answered (Session.effect_of_serveAlone alone hs)
  intro r call result runs h
  cases call with
  | build => cases runs
  | _ => exact h.note rfl

variable {config : Config} {world : W} {r r' : Recorded I O W}

/-- The machine was settled in the past as the record says. -/
theorem Arises.throughout_settled (h : r.Arises (Session.fresh config world)) :
    Throughout Settled r := by
  refine h _ kept_settled.throughout ⟨nofun, fun m earlier hm => ?_⟩
  cases List.suffix_nil.1 hm

omit [BEq I] [BEq O] in
/-- Since a machine was settled, and as long as nothing unsettles it, no declared state is
missing. -/
theorem Throughout.not_missedSince (h : Throughout Settled r')
    {later new base : List (Moment I O W)} (record : r'.record = later ++ (new ++ base))
    (hs : settled base = true) (undisturbed : ∀ m ∈ new, m.unsettles = false) (state : Int) :
    ¬ MissedSince base (new ++ base) state := by
  rintro ⟨m, before, ⟨rest, hm⟩, ⟨between, rfl⟩, call, hw, looked, missing⟩
  -- what happened up to that moment is part of what happened since
  have hnew : rest ++ m :: between = new := by
    have appended : (rest ++ m :: between) ++ base = new ++ base := by
      rw [List.append_assoc, List.cons_append, hm]
    exact List.append_cancel_right appended
  have still : settled ((m :: between) ++ base) = true := by
    refine settled_append hs fun m' hm' => undisturbed m' ?_
    rw [← hnew]
    exact List.mem_append_right _ hm'
  have covered :=
    h.2 m (between ++ base) ⟨later ++ rest, by rw [List.append_assoc, hm, record]⟩ still
  exact covered.lookup_ne_unbuiltState state state missing

/-- What happened from one moment to the other, and how it ended if it failed: as long as nothing
unsettles the machine, it does not fail, and no call is answered, with the error of a state that
waits to be built. -/
def Spared (r r' : Recorded I O W) (fails : MachineError → Prop) : Prop :=
  ∃ new, r'.record = new ++ r.record ∧
    ((∀ m ∈ new, m.unsettles = false) → ∀ state, ¬ fails (.unbuiltState state)) ∧
    ∀ later m before, new = later ++ m :: before → (∀ m' ∈ before, m'.unsettles = false) →
      ∀ call state, m.what ≠ .answered call (.error (.unbuiltState state))

/-- Where every such error is traced, a settled machine is spared. -/
theorem Told.spared (told : Told r.record r') (throughout : Throughout Settled r')
    (hs : settled r.record = true) {fails : MachineError → Prop}
    (traced : ∀ e, fails e → Traced r.record r' e) : r.Spared r' fails := by
  obtain ⟨new, hnew⟩ := told.grown
  refine ⟨new, hnew.symm, fun undisturbed state failed => ?_,
    fun later m before hm undisturbed call state hw => ?_⟩
  · have missed := traced _ failed state rfl
    rw [← hnew] at missed
    have record : r'.record = [] ++ (new ++ r.record) := hnew.symm
    exact throughout.not_missedSince record hs undisturbed state missed
  · have record : r'.record = (later ++ [m]) ++ (before ++ r.record) := by
      rw [← hnew, hm]
      simp
    have missed := told.answers m (before ++ r.record) call state
      ⟨later, by rw [← hnew, hm]; simp⟩ (List.suffix_append _ _) hw
    exact throughout.not_missedSince record hs undisturbed state missed

/-- Whatever goes on from here spares the machine. -/
structure Sparing (r : Recorded I O W) : Prop where
  call : ∀ fuel call result r', Call.Candid call → serve fuel call r = some (result, r') →
    r.Spared r' (result = .error ·)
  /-- A run that is started here, after any number of actions. -/
  start : ∀ fuel n start x, underway fuel n start r = some x →
    r.Spared x.state fun e => ∃ t, x = .ended (.error e) t
  /-- A run that has got as far as the action, after any number of further ones. -/
  action : ∀ fuel n action x, action.Candid → advance (eval fuel) n action r = some x →
    r.Spared x.state fun e => ∃ t, x = .ended (.error e) t
  /-- Code that has got as far as this, and has not got such an error yet. -/
  code : ∀ fuel code passed held result r', code.CandidFrom passed r.session →
    (∀ state, ¬ passed (.unbuiltState state)) → (∀ t ∈ held, t.Candid) →
      evalWith (serve fuel) (eval fuel) code held r = some (result, r') →
      r.Spared r' (result = .error ·)

/-- From a settled machine on, candid code spares it. -/
theorem Told.sparing (told : Told r.record r) (throughout : Throughout Settled r)
    (hs : settled r.record = true) : r.Sparing where
  call fuel call result r' handed answer := by
    obtain ⟨told', traced, -⟩ := serve_told fuel handed r told result r' answer
    exact told'.spared
      (kept_settled.throughout.serve fuel call r result r' answer throughout) hs traced
  start fuel n start x hx := by
    obtain ⟨told', traced⟩ := underway_told told hx
    refine told'.spared (kept_settled.throughout.underway throughout hx) hs fun e failed => ?_
    obtain ⟨t, rfl⟩ := failed
    exact traced e t rfl
  action fuel n action x candid hx := by
    obtain ⟨told', traced⟩ := advance_told candid told hx
    refine told'.spared (kept_settled.throughout.advance throughout hx) hs fun e failed => ?_
    obtain ⟨t, rfl⟩ := failed
    exact traced e t rfl
  code fuel code passed held result r' candid fresh hands hx := by
    have traced : ∀ e, passed e → Traced r.record r e := fun e he state hstate =>
      absurd (hstate ▸ he) (fresh state)
    obtain ⟨told', traced', -⟩ :=
      evalWith_told (eval_told fuel) code candid traced hands told result r' hx
    have kept : Keeps (Throughout Settled)
        (evalWith (serveWith (eval fuel) fuel) (eval fuel) code held) :=
      kept_settled.throughout.evalWith (kept_settled.throughout.eval fuel) code held
    exact told'.spared (kept r result r' hx throughout) hs traced'

/-- Whatever was done to a machine so far, in the middle of a run as well. Choosing a default state,
a transition and the start of a run find the action that was bound to the state last, by binding it
or by building; they are refused exactly if none was since the bindings were dropped last, and the
error says whether a rule of the state was ever declared. If all code so far is candid and the
machine is settled since it was built, nothing that goes on from here ends with the error of a state
that waits to be built, and no call is answered so meanwhile, as long as nothing unsettles the
machine. -/
theorem Arises.diagnoses (h : r.Arises (Session.fresh config world)) :
    (∀ state, r.session.Seeks state (sought r.record state)) ∧
    (CandidCalls r.record → settled r.record = true → r.Sparing) :=
  ⟨fun state => h.lookup_eq state ▸ r.session.seeks_of_lookup state,
    fun calls hs => (h.told calls).sparing h.throughout_settled hs⟩

/-- A state waits to be built. After building, dropping the bindings and building again it is bound.
A run of it goes on to an action that was bound to another state, and this one passes on that nobody
knows a third. -/
theorem Arises.diagnoses_rebuilt :
    ∃ (r₀ r r' : Recorded Bool Bool Unit) (calls : List (Machine.Call Bool Bool Unit)),
      r₀.Arises (Session.fresh {} ()) ∧ r₀.session.Seeks 1 (.error (.unbuiltState 1)) ∧
      serveAll 6 calls r₀ = some r ∧ (∃ ruled, r.session.Seeks 1 (.ok ruled)) ∧
      (∃ raw, r.session.Seeks 3 (.ok raw)) ∧ r.session.Seeks 2 (.error (.unknownState 2)) ∧
      ∃ result, serve 6 (.execute (.state 1)) r = some (result, r') ∧
        result = .error (.unknownState 2) ∧ r.Spared r' (result = .error ·) := by
  let rule : Rule Bool (Op Bool Bool Unit) := { state := 1, read := true, next := some 3 }
  let calls : List (Machine.Call Bool Bool Unit) :=
    [.build, .erase, .build, .bind 3 (.follow (.goTo (some 2))), .input .add,
      .input (.load none (.ofList [true]) none)]
  have declaring : Call.Candid (.declare rule) := .declare fun op ho => by
    rcases ho with ho | ho | ho <;> cases ho
  have handed : ∀ call ∈ calls, Call.Candid call := by
    simp only [calls, List.forall_mem_cons]
    exact ⟨.plain rfl, .plain rfl, .plain rfl,
      .bind fun _ => Action.candidFrom_follow _, .plain rfl, .plain rfl, fun _ hc => by cases hc⟩
  have run : ((serveAll 6 [.declare rule] ⟨Session.fresh {} (), []⟩).bind fun r₀ =>
      (serveAll 6 calls r₀).bind fun r => (serve 6 (.execute (.state 1)) r).map fun p =>
        ((boundLast r₀.record 1).isNone && r₀.record.any (·.what.declares 1),
          settled r.record,
          (boundLast r.record 1).isSome, (boundLast r.record 3).isSome,
          (boundLast r.record 2).isNone && !r.record.any (·.what.declares 2),
          ((p.1.map fun _ => false).tryCatch fun e => .ok (e == .unknownState 2)).toOption)) =
      some (true, true, true, true, true, some true) := by
    decide +kernel
  obtain ⟨r₀, h₀, run⟩ := Option.bind_eq_some_iff.1 run
  obtain ⟨r, hr, run⟩ := Option.bind_eq_some_iff.1 run
  obtain ⟨⟨result, r'⟩, hserve, facts⟩ := Option.map_eq_some_iff.1 run
  simp only [Prod.mk.injEq, Bool.and_eq_true, Option.isNone_iff_eq_none, Option.isSome_iff_exists,
    Bool.not_eq_true'] at facts
  obtain ⟨⟨unbound, declared⟩, hsettled, ⟨ruled, hruled⟩, ⟨raw, hraw⟩, ⟨unbound', undeclared⟩,
    failed⟩ := facts
  have reached₀ : Recorded.Reached Call.Candid (Session.fresh {} ()) r₀ :=
    Recorded.Reached.start.serveAll (List.forall_mem_singleton.2 declaring) h₀
  have reached : Recorded.Reached Call.Candid (Session.fresh {} ()) r := reached₀.serveAll handed hr
  have arises₀ : r₀.Arises (Session.fresh {} ()) := (throughout_of_reached reached₀).1
  have arises : r.Arises (Session.fresh {} ()) := (throughout_of_reached reached).1
  obtain ⟨seeks₀, -⟩ := diagnoses arises₀
  obtain ⟨seeks, sparing⟩ := diagnoses arises
  have missing : sought r₀.record 1 = .error (.unbuiltState 1) := by
    simp only [sought, unbound, declared, if_true]
  have built : sought r.record 1 = .ok ruled := by rw [sought, hruled]
  have bound : sought r.record 3 = .ok raw := by rw [sought, hraw]
  have unknown : sought r.record 2 = .error (.unknownState 2) := by
    simp only [sought, unbound', undeclared, Bool.false_eq_true, if_false]
  refine ⟨r₀, r, r', calls, arises₀, missing ▸ seeks₀ 1, hr, ⟨ruled, built ▸ seeks 1⟩,
    ⟨raw, bound ▸ seeks 3⟩, unknown ▸ seeks 2, result, hserve, ?_, ?_⟩
  · cases result with
    | error e => rw [eq_of_beq (Option.some.inj failed)]
    | ok answer => cases failed
  · exact (sparing reached.candidCalls hsettled).call 6 _ result r' (.plain rfl) hserve

end Recorded

end TapeMachine
