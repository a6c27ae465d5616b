import TapeMachine.Proofs.Session.Calls
import TapeMachine.Proofs.Tape.Replay

/-!
# The events of a run are its journal

An observer who knows the tapes and the current state when a run starts can follow the run from the
events alone. `Scene` is what he knows, `Scene.replay` what he makes of an event, and `Scene.Tells`
says that every event agrees with what he knows by then. Operations on tapes and transitions are the
only things he is told, so the run may do nothing else to the machine: `Call.journaled` lists the
calls that it may make.

Results:
1. `onInputs_journal`, `onOutputs_journal`, `transitionTo_journal`: one operation and its event.
2. `Recorded.kept_journaled`: what every happening adds to the journal of a run.
3. `execute_journal`: the journal of a run, whether it halts, fails or goes on: its events agree
   with the run at every step, replaying them gives the tapes and the current state, and they are as
   many as were counted.
-/

namespace TapeMachine

variable {I O W : Type}

/-! ## Scenes -/

/-- What an observer follows: the tapes and the current state. -/
structure Scene (I O : Type) where
  inputs : List (Strip I)
  outputs : List (Strip O)
  current : Int

namespace Scene

/-- The scene after an event. -/
def replay (c : Scene I O) : Event I O → Scene I O
  | .input e => { c with inputs := c.inputs.modify e.tape (·.replay e) }
  | .output e => { c with outputs := c.outputs.modify e.tape (·.replay e) }
  | .transition _ target => { c with current := target.getD c.current }

/-- What the event says is so. -/
def Told (c : Scene I O) : Event I O → Prop
  | .input e => ∃ p, c.inputs[e.tape]? = some p ∧ p.Tells e
  | .output e => ∃ p, c.outputs[e.tape]? = some p ∧ p.Tells e
  | .transition source _ => source = c.current

/-- Every event says what is so when it comes. -/
def Tells : Scene I O → List (Event I O) → Prop
  | _, [] => True
  | c, e :: rest => c.Told e ∧ (c.replay e).Tells rest

theorem tells_append {c : Scene I O} {events more : List (Event I O)} :
    c.Tells (events ++ more) ↔ c.Tells events ∧ (events.foldl replay c).Tells more := by
  induction events generalizing c with
  | nil => exact ⟨fun h => ⟨trivial, h⟩, fun h => h.2⟩
  | cons e rest ih =>
    simp only [List.cons_append, Tells, List.foldl_cons, ih]
    exact and_assoc.symm

end Scene

namespace Event

def isInput (tape : Nat) (op : TapeOperation) : Event I O → Bool
  | .input e => e.tape == tape && e.operation == op
  | _ => false

def isOutput (tape : Nat) (op : TapeOperation) : Event I O → Bool
  | .output e => e.tape == tape && e.operation == op
  | _ => false

def isTransition : Event I O → Bool
  | .transition _ _ => true
  | _ => false

end Event

/-- How often an operation was counted on a tape of the bank. -/
def Bank.count {S : Type} (b : Bank S) (tape : Nat) (op : TapeOperation) : Nat :=
  match b.tapes.items[tape]? with
  | some t => t.statistics.count op
  | none => 0

/-- The tapes of the bank as an observer knows them. -/
def Bank.strips {S : Type} (b : Bank S) : List (Strip S) := b.tapes.items.map Tape.strip

namespace Bank

variable {S : Type} {b b' : Bank S} {e : TapeEvent S}

/-- An event that is performed on a bank agrees with it, gives the bank by replay and is counted
once. -/
theorem Performs.journal (h : b.Performs e b') :
    (∃ p, b.strips[e.tape]? = some p ∧ p.Tells e) ∧
    b'.strips = b.strips.modify e.tape (·.replay e) ∧
    ∀ tape op, b'.count tape op =
      b.count tape op + if e.tape == tape && e.operation == op then 1 else 0 := by
  obtain ⟨t, t', ht, hp, rfl⟩ := h
  have hget := tape_eq_ok_iff.1 ht
  obtain ⟨hlt, heq⟩ := List.getElem?_eq_some_iff.1 hget
  refine ⟨⟨t.strip, by rw [strips, List.getElem?_map, hget]; rfl, hp.truthful⟩, ?_,
    fun tape op => ?_⟩
  · refine List.ext_getElem? fun i => ?_
    simp only [strips, put, List.getElem?_map, List.getElem?_modify, List.getElem?_set]
    by_cases hi : e.tape = i
    · subst hi
      simp [hlt, heq, hp.replayed]
    · simp [hi]
  · simp only [count, put, List.getElem?_set]
    by_cases hi : e.tape = tape
    · subst hi
      simp [hlt, heq, hp.counted op]
    · simp [hi]

end Bank

namespace Session

def scene (s : Session I O W) : Scene I O :=
  ⟨s.machine.inputs.strips, s.machine.outputs.strips, s.machine.registry.current⟩

/-- The events are the journal of what has happened between the sessions, seen from the scene at
first. -/
structure Journal (c : Scene I O) (s : Session I O W) (events : List (Event I O))
    (s' : Session I O W) :
    Prop where
  told : s'.events.toList = s.events.toList ++ events
  truthful : c.Tells events
  replayed : events.foldl Scene.replay c = s'.scene
  inputs : ∀ tape op, s'.machine.inputs.count tape op =
    s.machine.inputs.count tape op + events.countP (Event.isInput tape op)
  outputs : ∀ tape op, s'.machine.outputs.count tape op =
    s.machine.outputs.count tape op + events.countP (Event.isOutput tape op)
  transitions : s'.machine.counters.transitions =
    s.machine.counters.transitions + events.countP Event.isTransition

namespace Journal

variable {c : Scene I O} {s s' s'' : Session I O W} {events more : List (Event I O)}

/-- Where no event is told, no tape changes and nothing is counted, the journal is empty. -/
theorem empty (told : s'.events = s.events) (scene : c = s'.scene)
    (inputs : s'.machine.inputs = s.machine.inputs)
    (outputs : s'.machine.outputs = s.machine.outputs)
    (counters : s'.machine.counters = s.machine.counters) : Journal c s [] s' where
  told := by rw [told, List.append_nil]
  truthful := trivial
  replayed := scene
  inputs _ _ := by rw [inputs]; rfl
  outputs _ _ := by rw [outputs]; rfl
  transitions := by rw [counters]; rfl

theorem refl (s : Session I O W) : Journal s.scene s [] s := empty rfl rfl rfl rfl rfl

theorem trans (h : Journal c s events s') (h' : Journal s'.scene s' more s'') :
    Journal c s (events ++ more) s'' where
  told := by rw [h'.told, h.told, List.append_assoc]
  truthful := Scene.tells_append.2 ⟨h.truthful, h.replayed ▸ h'.truthful⟩
  replayed := by rw [List.foldl_append, h.replayed, h'.replayed]
  inputs tape op := by rw [h'.inputs, h.inputs, List.countP_append, Nat.add_assoc]
  outputs tape op := by rw [h'.outputs, h.outputs, List.countP_append, Nat.add_assoc]
  transitions := by rw [h'.transitions, h.transitions, List.countP_append, Nat.add_assoc]

end Journal

/-! ## One operation -/

variable {s s' : Session I O W}

/-- The run may go on from one session to another: the observer stays, no reset is configured, and
what happened is in the journal. -/
def Continues (s s' : Session I O W) : Prop :=
  s.observed = true → s'.observed = true ∧ s'.machine.config = s.machine.config ∧
    ∃ events, Journal s.scene s events s'

theorem Continues.refl (s : Session I O W) : s.Continues s := fun h => ⟨h, rfl, [], .refl s⟩

/-- What is written down and told after an operation is the journal of that operation. -/
theorem Continues.of_told {t : Session I O W} {entry : LogEntry I O} {event : Event I O}
    (observer : t.observed = s.observed) (events : t.events = s.events)
    (config : t.machine.config = s.machine.config) (told : s.scene.Told event)
    (replayed : s.scene.replay event = t.scene)
    (inputs : ∀ tape op, t.machine.inputs.count tape op =
      s.machine.inputs.count tape op + if event.isInput tape op then 1 else 0)
    (outputs : ∀ tape op, t.machine.outputs.count tape op =
      s.machine.outputs.count tape op + if event.isOutput tape op then 1 else 0)
    (transitions : t.machine.counters.transitions =
      s.machine.counters.transitions + if event.isTransition then 1 else 0) :
    s.Continues ((t.note entry).tell event) := by
  intro observed
  obtain ⟨log, hn⟩ := t.exists_note entry
  have htell : (t.note entry).tell event =
      { t with log := log, events := t.events.push event } := by
    rw [hn, tell, if_pos (show t.observed = true from observer.trans observed)]
  rw [htell]
  exact ⟨observer.trans observed, config, [event], {
    told := by rw [Array.toList_push, events]
    truthful := ⟨told, trivial⟩
    replayed := replayed
    inputs := fun tape op => by rw [List.countP_singleton]; exact inputs tape op
    outputs := fun tape op => by rw [List.countP_singleton]; exact outputs tape op
    transitions := by rw [List.countP_singleton]; exact transitions }⟩

theorem onInputs_journal {α : Type} {work : Bank I → Except MachineError (Bank.Traced I α × Bank I)}
    {result : Except MachineError α}
    (performs : ∀ b a event b', work b = .ok ((a, event), b') → b.Becomes event b')
    (h : onInputs work s = (result, s')) : s.Continues s' := by
  rcases onInputs_cases h with ⟨e, -, -, rfl⟩ | ⟨a, event, bank, hw, -, -, rfl⟩
  · exact .refl _
  · have hb := performs _ _ _ _ hw
    cases event with
    | none =>
      rw [show bank = s.machine.inputs from hb]
      exact .refl s
    | some e =>
      obtain ⟨told, strips, counted⟩ := Bank.Performs.journal hb
      refine .of_told rfl rfl rfl told ?_ counted (fun _ _ => rfl) rfl
      simp only [Scene.replay, scene, strips]

theorem onOutputs_journal {α : Type}
    {work : Bank O → Except MachineError (Bank.Traced O α × Bank O)}
    {result : Except MachineError α}
    (performs : ∀ b a event b', work b = .ok ((a, event), b') → b.Becomes event b')
    (h : onOutputs work s = (result, s')) : s.Continues s' := by
  rcases onOutputs_cases h with ⟨e, -, -, rfl⟩ | ⟨a, event, bank, hw, -, -, rfl⟩
  · exact .refl _
  · have hb := performs _ _ _ _ hw
    cases event with
    | none =>
      rw [show bank = s.machine.outputs from hb]
      exact .refl s
    | some e =>
      obtain ⟨told, strips, counted⟩ := Bank.Performs.journal hb
      refine .of_told rfl rfl rfl told ?_ (fun _ _ => rfl) counted rfl
      simp only [Scene.replay, scene, strips]

theorem transitionTo_journal {target : Target}
    {result : Except MachineError (Transition (Action I O W))}
    (h : transitionTo target s = (result, s')) : s.Continues s' := by
  rcases transitionTo_cases h with
    ⟨e, state, -, -, -, rfl⟩ | ⟨-, -, rfl⟩ | ⟨state, action, -, -, -, rfl⟩
  · exact .refl _
  · exact .of_told rfl rfl rfl rfl rfl (fun _ _ => rfl) (fun _ _ => rfl) rfl
  · exact .of_told rfl rfl rfl rfl rfl (fun _ _ => rfl) (fun _ _ => rfl) rfl

end Session

/-! ## Runs -/

/-- The calls whose effect an observer is told: work on the cell under a head, transitions, and
instructions, which are made of such calls if they are journaled at all. -/
def Call.journaled {A P : Type} : Call I O A P → Bool
  | .input request => request.atHead
  | .output request => request.atHead
  | .transition _ | .apply _ => true
  | _ => false

/-- Nothing but journaled calls has been made. -/
def Recorded.Journaled (r : Recorded I O W) : Prop :=
  ∀ m ∈ r.record, ∀ call, m.what = .made call → call.journaled = true

variable [BEq I] [BEq O]

/-- A journaled call that runs no code, and its event. -/
theorem Session.serveAlone_journal {s s' : Session I O W} {call : Machine.Call I O W}
    (journaled : call.journaled = true) (alone : call.runsCode = false)
    {result : Except MachineError (Answer I O (Action I O W))}
    (h : serveAlone call s = some (result, s')) : s.Continues s' := by
  cases call with
  | input request =>
    obtain ⟨r, hx, -⟩ := Run.of_answer (x := serveInput request) (f := inputAnswer) h
    exact onInputs_journal (fun b a event b' hw => Bank.serve_becomes journaled hw) hx
  | output request =>
    obtain ⟨r, hx, -⟩ := Run.of_answer (x := serveOutput request) (f := outputAnswer) h
    exact onOutputs_journal (fun b a event b' hw => Bank.serve_becomes journaled hw) hx
  | transition target =>
    obtain ⟨r, hx, -⟩ := Run.of_answer (x := transitionTo target) (f := Answer.transition) h
    exact transitionTo_journal hx
  | apply op => cases alone
  | _ => cases journaled

omit [BEq O] in
theorem Session.selectBranch_journal (s : Session I O W) : s.Continues (selectBranch s).2 := by
  cases hs : selectBranch s with
  | mk found s' =>
    obtain ⟨read, hr, -⟩ := selectBranch_cases hs
    refine onInputs_journal (fun b a event b' hw => ?_) hr
    obtain ⟨⟨⟨v, e⟩, b''⟩, hu, he⟩ := exists_of_map_eq_ok hw
    cases he
    exact Bank.tracedRead_performs hu

/-- If nothing but journaled calls has been made since the session `s`, in which an observer saw the
scene, then what happened since is in the journal. -/
def Recorded.JournaledSince (c : Scene I O) (s : Session I O W) (r : Recorded I O W) : Prop :=
  r.Journaled → r.session.observed = true ∧ r.session.machine.config = s.machine.config ∧
    ∃ events, Session.Journal c s events r.session

namespace Recorded

variable {c : Scene I O} {s : Session I O W} {r : Recorded I O W}

omit [BEq I] [BEq O] in
theorem Journaled.of_note {what : Happening I O W} (h : (r.note what).Journaled) : r.Journaled :=
  (List.forall_mem_cons.1 h).2

omit [BEq I] [BEq O] in
theorem JournaledSince.note (h : r.JournaledSince c s) (what : Happening I O W) :
    (r.note what).JournaledSince c s := fun journaled => h journaled.of_note

omit [BEq I] [BEq O] in
/-- What continues the session continues its journal. -/
theorem JournaledSince.become (h : r.JournaledSince c s) {s' : Session I O W}
    (continues : r.Journaled → r.session.Continues s') : (r.become s').JournaledSince c s := by
  intro journaled
  obtain ⟨observed, config, events, hj⟩ := h journaled
  obtain ⟨observed', config', more, hj'⟩ := continues journaled observed
  exact ⟨observed', config'.trans config, events ++ more, hj.trans hj'⟩

/-- Every happening continues the journal, if runs do not reset the tapes at their end. -/
theorem kept_journaled (c : Scene I O) {s : Session I O W}
    (unreset : s.machine.config.resetAfterExecution = false) :
    Kept (JournaledSince c s : Recorded I O W → Prop) where
  made h := h.note _
  answered _ h := h.note _
  invoked h := h.note _
  served {r call result s'} alone h hs := by
    refine .note ((h.note _).become fun journaled => ?_) _
    exact Session.serveAlone_journal (journaled _ List.mem_cons_self call rfl) alone hs
  begun {r start} h := by
    -- a run inside a run is no journaled call
    intro journaled
    cases journaled ⟨.made (.execute start), r.session⟩ List.mem_cons_self _ rfl
  finished {r} h := by
    intro journaled
    have hr := h journaled
    have hend : (Session.endRun r.session).2 = r.session := by
      rw [Session.endRun_eq, hr.2.1, unreset]
      rfl
    rw [hend]
    exact hr
  selected {r} h := h.become fun _ => r.session.selectBranch_journal
  touched h := h.become fun _ observed => ⟨observed, rfl, [], .empty rfl rfl rfl rfl rfl⟩

end Recorded

omit [BEq I] [BEq O] in
/-- The journal of a run begins with the tapes as they are and the state that the run starts
from. -/
theorem Session.journaledSince_entering {s : Session I O W} (observed : s.observed = true)
    (state : Int) :
    Recorded.JournaledSince { s.scene with current := state } s ⟨entering state s, []⟩ := by
  obtain ⟨log, hn⟩ := Session.exists_note
    { s with machine.registry := s.machine.registry.setCurrent state } (.executingState state)
  intro _
  rw [entering, hn]
  exact ⟨observed, rfl, [], .empty rfl rfl rfl rfl rfl⟩

/-- A run that is observed, passes its lookup and makes none but journaled calls has a journal,
whether it halts or fails: the events that it adds agree with the tapes and the current state at
every step, replaying them on the tapes at the start gives those at the end, and of each operation
on each tape, and of transitions, there are as many as were counted. A run that goes on has its
journal after any number of actions. -/
theorem Session.execute_journal {s entered : Session I O W} {state : Int} {action : Action I O W}
    (observed : s.observed = true) (unreset : s.machine.config.resetAfterExecution = false)
    (found : beginRun (.state state) s = (.ok action, entered)) :
    (∀ fuel result final, execute fuel (.state state) s = some (result, final) →
      ∃ record, Recorded.execute fuel (.state state) ⟨s, []⟩ = some (result, ⟨final, record⟩) ∧
        (Recorded.Journaled ⟨final, record⟩ →
          ∃ events, Journal { s.scene with current := state } s events final)) ∧
    ∀ fuel n x, Recorded.advance (Recorded.eval fuel) n action ⟨entered, []⟩ = some x →
      x.state.Journaled → ∃ events,
          Journal { s.scene with current := state } s events x.state.session := by
  have kept := Recorded.kept_journaled (W := W) { s.scene with current := state } unreset
  have hentered : entered = entering state s := by
    rcases beginRun_cases found with ⟨e, -, he, -⟩ | ⟨_, -, -, he⟩
    · cases he
    · exact he
  have start := s.journaledSince_entering observed state
  rw [← hentered] at start
  refine ⟨fun fuel result final h => ?_, fun fuel n x hx journaled => ?_⟩
  · rw [← Recorded.execute_eq fuel (.state state) ⟨s, []⟩] at h
    obtain ⟨⟨result', r⟩, hr, he⟩ := Option.map_eq_some_iff.1 h
    cases he
    refine ⟨r.record, hr, fun journaled => ?_⟩
    have hb : Recorded.unnoted (.ofAttempt (beginRun (.state state))) (⟨s, []⟩ : Recorded I O W) =
        some (.ok action, ⟨entered, []⟩) := by
      rw [Recorded.unnoted, Run.ofAttempt_apply, found]
      rfl
    rw [Recorded.execute, Recorded.executeWith, Run.bind_of_ok hb] at hr
    have after := ((kept.drive (kept.eval fuel) fuel action).bind fun _ => .unnoted kept.finished)
      _ _ _ hr start
    exact (after journaled).2.2
  · exact (kept.advance start hx journaled).2.2

/-- A run that writes, extends a tape at both ends, extends an empty tape, makes one transition and
dies on the next one. -/
theorem Session.execute_journal_of_failed_run :
    ∃ (s final : Session Bool Bool Unit) (events : List (Event Bool Bool)),
      execute 9 (.state 1) s = some (.error (.unknownState 7), final) ∧ events.length = 6 ∧
      s.machine.outputs.tapes.items.map (·.storage.toList) = [[]] ∧
      Journal { s.scene with current := 1 } s events final := by
  let second : Action Bool Bool Unit := .follow (.goTo (some 7))
  let first : Action Bool Bool Unit :=
    .andThen (.input (.write none false)) <| .andThen (.input (.move none .left)) <|
    .andThen (.input (.move none .right)) <| .andThen (.input (.move none .right)) <|
    .andThen (.output (.move (some 0) .right)) <| .follow (.goTo (some 2))
  let s : Session Bool Bool Unit :=
    { observed := true
      world := ()
      machine :=
        { inputs := { tapes := ⟨[{ storage := .ofList [true] }]⟩, blank := some false }
          outputs := { tapes := ⟨[{}]⟩, blank := some true }
          registry := { bindings := [(1, first), (2, second)] } } }
  have run : (Recorded.execute 9 (.state 1) ⟨s, []⟩).map (fun p =>
      ((match p.1 with | .ok _ => none | .error e => some e),
        p.2.record.all fun m => (match m.what with | .made call => call.journaled | _ => true),
        p.2.session.events.size)) = some (some (.unknownState 7), true, 6) := by
    decide +kernel
  obtain ⟨⟨result, final, record⟩, hr, hfacts⟩ := Option.map_eq_some_iff.1 run
  obtain ⟨herror, hfacts⟩ := Prod.mk.inj hfacts
  obtain ⟨hjournaled, hsize⟩ := Prod.mk.inj hfacts
  cases result with
  | ok _ => cases herror
  | error e =>
    cases herror
    have answer : execute 9 (.state 1) s = some (.error (.unknownState 7), final) := by
      rw [show s = (⟨s, []⟩ : Recorded Bool Bool Unit).session from rfl, ← Recorded.execute_eq, hr]
      rfl
    have found : beginRun (.state 1) s = (.ok first, entering 1 s) := rfl
    obtain ⟨record', hr', journal⟩ := (execute_journal rfl rfl found).1 9 _ final answer
    rw [hr] at hr'
    cases hr'
    have journaled : Recorded.Journaled ⟨final, record⟩ := by
      intro m hm call hc
      have := List.all_eq_true.1 hjournaled m hm
      rw [hc] at this
      exact this
    obtain ⟨events, hj⟩ := journal journaled
    refine ⟨s, final, events, answer, ?_, rfl, hj⟩
    have told : final.events.toList = events := hj.told
    rw [← told, Array.length_toList, hsize]

end TapeMachine
