import TapeMachine.Proofs.Rules.TapeOps
import TapeMachine.Proofs.Session.Advance

/-!
# Runs on record

A run answers with a session and says nothing of the way there. Here the same evaluation keeps a
record: every call that is made and how it is answered, every action that a run invokes, each with
the session as it was at that moment. Calls are noted wherever they are made: by whoever works the
machine, by an action or by an instruction, in runs inside runs as well.

The layers are those of `TapeMachine.Session.Execution`. A call that runs no code is carried out by
the session itself, so the record adds nothing to what it does.

Results:
1. `serve_eq`, `execute_eq`, `advance_eq`: without the record, a recorded call or run, ended or not,
   is the call or run itself.
2. `Kept.serve`, `Kept.underway`: what every single happening keeps, a whole evaluation keeps.
3. `Kept.throughout`: then it held at every moment on record, too.
4. `Arises.throughout_of_reached`, `Arises.throughout_of_underway`: what can come about at all is
   told by the single happenings.
-/

namespace TapeMachine

variable {I O W α β : Type}

/-! ## What is noted -/

/-- Something that happens while a machine is worked. -/
inductive Happening (I O W : Type) where
  | made (call : Machine.Call I O W)
  /-- The call has been answered, or refused with an error. -/
  | answered (call : Machine.Call I O W) (result : Except MachineError Unit)
  /-- A run is about to invoke an action. -/
  | invoked (action : Action I O W)

/-- What happened, and the session as it then was. -/
structure Moment (I O W : Type) where
  what : Happening I O W
  session : Session I O W

/-- A session and what has happened in it, the latest first. -/
structure Recorded (I O W : Type) where
  session : Session I O W
  record : List (Moment I O W) := []

/-- The calls that run code. All others the machine carries out by itself. -/
def Call.runsCode {A P : Type} : Call I O A P → Bool
  | .apply _ | .invoke _ | .execute _ => true
  | _ => false

/-- A call that runs no code. -/
def Session.serveAlone [BEq I] [BEq O] :
    Machine.Call I O W → Run (Session I O W) (Answer I O (Action I O W)) :=
  serveWith (fun _ _ => none) 0

theorem Session.serveWith_eq_serveAlone [BEq I] [BEq O] {call : Machine.Call I O W}
    (alone : call.runsCode = false) (invoke : Invocation I O W) (fuel : Nat) :
    serveWith invoke fuel call = serveAlone call := by
  cases call with
  | apply _ => cases alone
  | invoke _ => cases alone
  | execute _ => cases alone
  | _ => rfl

namespace Recorded

def note (r : Recorded I O W) (what : Happening I O W) : Recorded I O W :=
  { r with record := ⟨what, r.session⟩ :: r.record }

/-- The session goes on as another one. -/
def become (r : Recorded I O W) (s : Session I O W) : Recorded I O W := { r with session := s }

@[simp] theorem session_note (r : Recorded I O W) (what : Happening I O W) :
    (r.note what).session = r.session := rfl

@[simp] theorem session_become (r : Recorded I O W) (s : Session I O W) :
    (r.become s).session = s := rfl

/-! ## The evaluation -/

/-- The meaning of actions on record. -/
abbrev Invocation (I O W : Type) :=
  Action I O W → Run (Recorded I O W) (Transition (Action I O W))

/-- What the session does, with nothing noted. -/
def unnoted (x : Run (Session I O W) α) : Run (Recorded I O W) α := fun r =>
  (x r.session).map fun p => (p.1, r.become p.2)

/-- Notes a call before it is carried out, and its answer afterwards. -/
def calling (call : Machine.Call I O W) (x : Run (Recorded I O W) α) : Run (Recorded I O W) α :=
  fun r => (x (r.note (.made call))).map fun p =>
    (p.1, p.2.note (.answered call (p.1.map fun _ => ())))

section Layers

variable [BEq I] [BEq O]

/-- A call that runs no code. -/
def serveAlone (call : Machine.Call I O W) : Run (Recorded I O W) (Answer I O (Action I O W)) :=
  calling call (unnoted (Session.serveAlone call))

def perform (invoke : Invocation I O W) : Op I O W → Run (Recorded I O W) Unit
  | .input i => do
    let _ ← serveAlone (.input i.request)
    return ()
  | .output i => do
    let _ ← serveAlone (.output i.request)
    return ()
  | .andThen first second => do
    perform invoke first
    perform invoke second
  | .custom code => do
    let _ ← invoke code
    return ()

/-- Runs at most so many actions; each one is noted before it is invoked. -/
def drive (invoke : Invocation I O W) : Nat → Action I O W → Run (Recorded I O W) Unit
  | 0, _, _ => none
  | n + 1, action, r =>
    match invoke action (r.note (.invoked action)) with
    | none => none
    | some (.ok (.enter next), r') => drive invoke n next r'
    | some (.ok .halt, r') => some (.ok (), r')
    | some (.error e, r') => some (.error e, r')

def executeWith (invoke : Invocation I O W) (fuel : Nat) (start : Start) :
    Run (Recorded I O W) Unit := do
  let action ← unnoted (.ofAttempt (Session.beginRun start))
  drive invoke fuel action
  unnoted (.ofAttempt Session.endRun)

def serveWith (invoke : Invocation I O W) (fuel : Nat) :
    Machine.Call I O W → Run (Recorded I O W) (Answer I O (Action I O W))
  | .apply op => calling (.apply op) do
    perform invoke op
    return .done
  | .invoke state => calling (.invoke state) do
    match ← unnoted (.ofAttempt (Session.actionOf state)) with
    | none => return .absent
    | some action =>
      let transition ← invoke action
      return .transition transition
  | .execute start => calling (.execute start) do
    executeWith invoke fuel start
    return .done
  | call => serveAlone call

theorem serveWith_eq_serveAlone {call : Machine.Call I O W} (alone : call.runsCode = false)
    (invoke : Invocation I O W) (fuel : Nat) : serveWith invoke fuel call = serveAlone call := by
  cases call with
  | apply _ => cases alone
  | invoke _ => cases alone
  | execute _ => cases alone
  | _ => rfl

def evalWith (serve : Machine.Call I O W → Run (Recorded I O W) (Answer I O (Action I O W)))
    (invoke : Invocation I O W) :
    Action I O W → List (Transition (Action I O W)) → Run (Recorded I O W)
    (Transition (Action I O W))
  | .halt, _, r => some (.ok .halt, r)
  | .proceed i, held, r => some (.ok (held[i]?.getD .halt), r)
  | .fail e, _, r => some (.error e, r)
  | .enter next, _, r => some (.ok (.enter next), r)
  | .dispatch, _, r =>
    match Session.selectBranch r.session with
    | (.ok branch, s') => invoke branch (r.become s')
    | (.error e, s') => some (.error e, r.become s')
  | .call request next, held, r =>
    match serve request r with
    | none => none
    | some (.ok answer, r') =>
      evalWith serve invoke (next (.ok answer.shape)) (answer.transitions ++ held) r'
    | some (.error e, r') => evalWith serve invoke (next (.error e)) held r'
  | .inspect next, held, r => evalWith serve invoke (next r.session.machine.outline) held r
  | .outside change next, held, r =>
    let world := change r.session.world
    evalWith serve invoke (next world) held (r.become { r.session with world := world })

/-- What an action does and what happens meanwhile, if `fuel` suffices to follow it. -/
def eval : Nat → Invocation I O W
  | 0, _, _ => none
  | fuel + 1, action, r => evalWith (serveWith (eval fuel) fuel) (eval fuel) action [] r

/-- Carries out a call, if `fuel` suffices to follow it. -/
def serve (fuel : Nat) : Machine.Call I O W → Run (Recorded I O W) (Answer I O (Action I O W)) :=
  serveWith (eval fuel) fuel

/-- Starts a run, if `fuel` suffices to follow it. -/
def execute (fuel : Nat) (start : Start) : Run (Recorded I O W) Unit :=
  executeWith (eval fuel) fuel start

/-- Where a run stands after at most `n` actions. -/
def advance (invoke : Invocation I O W) :
    Nat → Action I O W → Recorded I O W → Option (Standing (Action I O W) (Recorded I O W))
  | 0, action, r => some (.going action r)
  | n + 1, action, r =>
    match invoke action (r.note (.invoked action)) with
    | none => none
    | some (.ok (.enter next), r') => advance invoke n next r'
    | some (.ok .halt, r') => some (.ended (.ok ()) r')
    | some (.error e, r') => some (.ended (.error e) r')

/-- Where a run stands after at most `n` actions from its start on. -/
def underway (fuel n : Nat) (start : Start) (r : Recorded I O W) :
    Option (Standing (Action I O W) (Recorded I O W)) :=
  let r := r.note (.made (.execute start))
  match Session.beginRun start r.session with
  | (.error e, s') => some (.ended (.error e) (r.become s'))
  | (.ok action, s') => advance (eval fuel) n action (r.become s')

end Layers

/-! ## Without the record -/

/-- But for the record, the two runs are the same. -/
def Records (x : Run (Recorded I O W) α) (y : Run (Session I O W) α) : Prop :=
  ∀ r, (x r).map (fun p => (p.1, p.2.session)) = y r.session

namespace Records

theorem pure (a : α) : Records (Pure.pure a : Run (Recorded I O W) α) (Pure.pure a) := fun _ => rfl

theorem unnoted (x : Run (Session I O W) α) : Records (Recorded.unnoted x) x := by
  intro r
  cases h : x r.session with
  | none => simp [Recorded.unnoted, h]
  | some p => simp [Recorded.unnoted, h]

theorem calling {x : Run (Recorded I O W) α} {y : Run (Session I O W) α} (h : Records x y)
    (call : Machine.Call I O W) : Records (Recorded.calling call x) y := by
  intro r
  rw [← session_note r (.made call), ← h (r.note (.made call)), Recorded.calling, Option.map_map]
  rfl

theorem bind {x : Run (Recorded I O W) α} {y : Run (Session I O W) α}
    {f : α → Run (Recorded I O W) β} {g : α → Run (Session I O W) β} (first : Records x y)
    (next : ∀ a, Records (f a) (g a)) : Records (x >>= f) (y >>= g) := by
  intro r
  have hy := first r
  cases hx : x r with
  | none =>
    rw [hx] at hy
    rw [Run.bind_of_none hx, Run.bind_of_none hy.symm]
    rfl
  | some p =>
    obtain ⟨e | a, r'⟩ := p
    · rw [hx] at hy
      rw [Run.bind_of_error hx, Run.bind_of_error hy.symm]
      rfl
    · rw [hx] at hy
      rw [Run.bind_of_ok hx, Run.bind_of_ok hy.symm]
      exact next a r'

end Records

variable [BEq I] [BEq O] {invoke : Recorded.Invocation I O W}
  {invoke' : TapeMachine.Invocation I O W}

theorem serveAlone_records (call : Machine.Call I O W) :
    Records (serveAlone call) (Session.serveAlone call) :=
  (Records.unnoted _).calling call

theorem perform_records (deeper : ∀ a, Records (invoke a) (invoke' a)) :
    ∀ op : Op I O W, Records (perform invoke op) (op.perform invoke')
  | .input i => by
    have h : (Op.input i : Op I O W).perform invoke' =
        Session.serveAlone (.input i.request) >>= fun _ => pure () := by
      show _ = (Run.ofAttempt (Session.serveInput i.request) >>= _) >>= _
      rw [Run.bind_assoc]
      rfl
    rw [h]
    exact (serveAlone_records _).bind fun _ => .pure ()
  | .output i => by
    have h : (Op.output i : Op I O W).perform invoke' =
        Session.serveAlone (.output i.request) >>= fun _ => pure () := by
      show _ = (Run.ofAttempt (Session.serveOutput i.request) >>= _) >>= _
      rw [Run.bind_assoc]
      rfl
    rw [h]
    exact (serveAlone_records _).bind fun _ => .pure ()
  | .andThen first second =>
    (perform_records deeper first).bind fun _ => perform_records deeper second
  | .custom code => (deeper code).bind fun _ => .pure ()

omit [BEq I] [BEq O] in
theorem drive_records (deeper : ∀ a, Records (invoke a) (invoke' a)) (n : Nat)
    (action : Action I O W) :
    Records (drive invoke n action) (Session.drive invoke' n action) := by
  intro r
  -- the trampoline makes the same links as the recorded loop
  induction n generalizing action r with
  | zero => rfl
  | succ n ih =>
    have hy := deeper action (r.note (.invoked action))
    rw [session_note] at hy
    cases hx : invoke action (r.note (.invoked action)) with
    | none =>
      rw [hx] at hy
      simp only [drive, hx, Session.drive, trampoline, Session.bounce, ← hy]
      rfl
    | some p =>
      rw [hx] at hy
      obtain ⟨e | transition, r'⟩ := p
      · simp only [drive, hx, Session.drive, trampoline, Session.bounce, ← hy]
        rfl
      · cases transition with
        | halt =>
          simp only [drive, hx, Session.drive, trampoline, Session.bounce, ← hy, Option.map_some,
            trampoline_none]
        | enter next =>
          have h := ih next r'
          simp only [Session.drive] at h
          simp only [drive, hx, h, Session.drive, trampoline, Session.bounce, ← hy, Option.map_some]

omit [BEq I] [BEq O] in
theorem executeWith_records (deeper : ∀ a, Records (invoke a) (invoke' a)) (fuel : Nat)
    (start : Start) :
    Records (executeWith invoke fuel start) (Session.executeWith invoke' fuel start) :=
  (Records.unnoted _).bind fun action =>
    (drive_records deeper fuel action).bind fun _ => Records.unnoted _

theorem serveWith_records (deeper : ∀ a, Records (invoke a) (invoke' a)) (fuel : Nat)
    (call : Machine.Call I O W) :
    Records (serveWith invoke fuel call) (Session.serveWith invoke' fuel call) := by
  cases hc : call.runsCode with
  | false =>
    rw [serveWith_eq_serveAlone hc, Session.serveWith_eq_serveAlone hc]
    exact serveAlone_records call
  | true =>
    cases call with
    | apply op => exact ((perform_records deeper op).bind fun _ => .pure _).calling _
    | invoke state =>
      refine ((Records.unnoted _).bind fun found => ?_).calling _
      cases found with
      | none => exact .pure _
      | some action => exact (deeper action).bind fun _ => .pure _
    | execute start =>
      exact ((executeWith_records deeper fuel start).bind fun _ => .pure _).calling _
    | _ => cases hc

theorem evalWith_records {fuel : Nat} (deeper : ∀ a, Records (invoke a) (invoke' a)) :
    ∀ (a : Action I O W) (held : List (Transition (Action I O W))),
      Records (evalWith (serveWith invoke fuel) invoke a held)
        (a.evalWith (Session.serveWith invoke' fuel) invoke' held)
  | .halt, _ => fun _ => rfl
  | .proceed _, _ => fun _ => rfl
  | .fail _, _ => fun _ => rfl
  | .enter _, _ => fun _ => rfl
  | .dispatch, held => by
    intro r
    simp only [evalWith, Action.evalWith]
    cases h : Session.selectBranch r.session with
    | mk result s' =>
      cases result with
      | error e => rfl
      | ok branch => exact deeper branch (r.become s')
  | .call request next, held => by
    intro r
    have hy := serveWith_records deeper fuel request r
    simp only [evalWith, Action.evalWith]
    cases hx : serveWith invoke fuel request r with
    | none =>
      rw [hx] at hy
      rw [← hy]
      rfl
    | some p =>
      rw [hx] at hy
      rw [← hy]
      obtain ⟨e | answer, r'⟩ := p
      · exact evalWith_records deeper (next (.error e)) held r'
      · exact evalWith_records deeper (next (.ok answer.shape)) _ r'
  | .inspect next, held => fun r =>
    evalWith_records deeper (next r.session.machine.outline) held r
  | .outside change next, held => fun r =>
    evalWith_records deeper (next (change r.session.world)) held _

theorem eval_records (fuel : Nat) (a : Action I O W) :
    Records (eval fuel a) (Action.eval fuel a) := by
  induction fuel generalizing a with
  | zero => exact fun _ => rfl
  | succ fuel ih => exact evalWith_records ih a []

/-- Without the record, a recorded call is the call itself. -/
theorem serve_eq (fuel : Nat) (call : Machine.Call I O W) (r : Recorded I O W) :
    (serve fuel call r).map (fun p => (p.1, p.2.session)) = Session.serve fuel call r.session :=
  serveWith_records (eval_records fuel) fuel call r

/-- Without the record, a recorded run is the run itself. -/
theorem execute_eq (fuel : Nat) (start : Start) (r : Recorded I O W) :
    (execute fuel start r).map (fun p => (p.1, p.2.session)) =
      Session.execute fuel start r.session :=
  executeWith_records (eval_records fuel) fuel start r

/-- Without the record, a recorded run that need not end stands where the run itself does. -/
theorem advance_eq (fuel n : Nat) (action : Action I O W) (r : Recorded I O W) :
    (advance (eval fuel) n action r).map (Standing.mapState session) =
      Session.advance (Action.eval fuel) n action r.session := by
  induction n generalizing action r with
  | zero => rfl
  | succ n ih =>
    have hy := eval_records fuel action (r.note (.invoked action))
    rw [session_note] at hy
    cases hx : eval fuel action (r.note (.invoked action)) with
    | none =>
      rw [hx] at hy
      simp only [advance, hx, Session.advance, Session.bounce, ← hy]
      rfl
    | some p =>
      rw [hx] at hy
      obtain ⟨e | transition, r'⟩ := p
      · simp only [advance, hx, Session.advance, Session.bounce, ← hy]
        rfl
      · cases transition with
        | halt =>
          simp only [advance, hx, Session.advance, Session.bounce, ← hy]
          rfl
        | enter next =>
          simp only [advance, hx, ih next r', Session.advance, Session.bounce, ← hy,
            Option.map_some]

/-! ## What every happening keeps -/

/-- Whatever can happen keeps `P`. What a call does that runs code is told by what happens
meanwhile, so such a call has no case of its own. -/
structure Kept (P : Recorded I O W → Prop) : Prop where
  made : ∀ {r call}, P r → P (r.note (.made call))
  answered : ∀ {r call result}, call.runsCode = true → P r → P (r.note (.answered call result))
  invoked : ∀ {r action}, P r → P (r.note (.invoked action))
  served : ∀ {r call result s'}, call.runsCode = false → P r →
    Session.serveAlone call r.session = some (result, s') →
    P (((r.note (.made call)).become s').note (.answered call (result.map fun _ => ())))
  begun : ∀ {r start}, P r →
    P ((r.note (.made (.execute start))).become (Session.beginRun start r.session).2)
  finished : ∀ {r}, P r → P (r.become (Session.endRun r.session).2)
  selected : ∀ {r}, P r → P (r.become (Session.selectBranch r.session).2)
  touched : ∀ {r world}, P r → P (r.become { r.session with world := world })

/-- If `P` holds before the run, it holds after it. -/
def Keeps (P : Recorded I O W → Prop) (x : Run (Recorded I O W) α) : Prop :=
  x.Along fun r r' => P r → P r'

namespace Keeps

omit [BEq I] [BEq O]

variable {P : Recorded I O W → Prop}

theorem pure (a : α) : Keeps P (Pure.pure a : Run (Recorded I O W) α) :=
  Run.Along.pure (fun _ h => h) a

theorem bind {x : Run (Recorded I O W) α} {f : α → Run (Recorded I O W) β} (first : Keeps P x)
    (next : ∀ a, Keeps P (f a)) : Keeps P (x >>= f) :=
  Run.Along.bind (fun h h' p => h' (h p)) first next

theorem unnoted {x : Attempt (Session I O W) α}
    (h : ∀ {r : Recorded I O W}, P r → P (r.become (x r.session).2)) :
    Keeps P (Recorded.unnoted (.ofAttempt x)) := by
  intro r result r' hx p
  cases hx
  exact h p

end Keeps

namespace Kept

variable {P : Recorded I O W → Prop} (k : Kept P)
include k

theorem calling {call : Machine.Call I O W} {x : Run (Recorded I O W) α}
    (runs : call.runsCode = true) (h : Keeps P x) : Keeps P (Recorded.calling call x) := by
  intro r result r' hx p
  obtain ⟨⟨result', r''⟩, hr, he⟩ := Option.map_eq_some_iff.1 hx
  cases he
  exact k.answered runs (h _ _ _ hr (k.made p))

theorem serveAlone {call : Machine.Call I O W} (alone : call.runsCode = false) :
    Keeps P (Recorded.serveAlone call) := by
  intro r result r' hx p
  obtain ⟨⟨result', r''⟩, hr, he⟩ := Option.map_eq_some_iff.1 hx
  obtain ⟨⟨result'', s'⟩, hs, he'⟩ := Option.map_eq_some_iff.1 hr
  cases he
  cases he'
  exact k.served alone p hs

theorem perform (deeper : ∀ a, Keeps P (invoke a)) :
    ∀ op : Op I O W, Keeps P (Recorded.perform invoke op)
  | .input _ => (k.serveAlone rfl).bind fun _ => .pure ()
  | .output _ => (k.serveAlone rfl).bind fun _ => .pure ()
  | .andThen first second => (perform deeper first).bind fun _ => perform deeper second
  | .custom code => (deeper code).bind fun _ => .pure ()

theorem drive (deeper : ∀ a, Keeps P (invoke a)) (n : Nat) (action : Action I O W) :
    Keeps P (Recorded.drive invoke n action) := by
  intro r result r' hx p
  induction n generalizing action r with
  | zero => cases hx
  | succ n ih =>
    rw [Recorded.drive] at hx
    cases hi : invoke action (r.note (.invoked action)) with
    | none => simp [hi] at hx
    | some bounced =>
      rw [hi] at hx
      obtain ⟨e | transition, t⟩ := bounced
      · cases hx
        exact deeper action _ _ _ hi (k.invoked p)
      · have ht := deeper action _ _ _ hi (k.invoked p)
        cases transition with
        | halt =>
          cases hx
          exact ht
        | enter next => exact ih next t hx ht

theorem execute (deeper : ∀ a, Keeps P (invoke a)) (fuel : Nat) (start : Start) :
    Keeps P (Recorded.calling (.execute start) do
      Recorded.executeWith invoke fuel start
      return (.done : Answer I O (Action I O W))) := by
  intro r result r' hx p
  obtain ⟨⟨result', r''⟩, hr, he⟩ := Option.map_eq_some_iff.1 hx
  cases he
  refine k.answered rfl ?_
  rw [Recorded.executeWith, Run.bind_assoc] at hr
  have begun : P ((r.note (.made (.execute start))).become (Session.beginRun start r.session).2) :=
    k.begun p
  cases hb : Session.beginRun start r.session with
  | mk found entered =>
    rw [hb] at begun
    have hu : Recorded.unnoted (.ofAttempt (Session.beginRun start))
      (r.note (.made (.execute start))) =
        some (found, (r.note (.made (.execute start))).become entered) := by
      simp only [Recorded.unnoted, session_note, Run.ofAttempt_apply, hb, Option.map_some]
    cases found with
    | error e =>
      rw [Run.bind_of_error hu] at hr
      cases hr
      exact begun
    | ok action =>
      rw [Run.bind_of_ok hu] at hr
      exact (((k.drive deeper fuel action).bind fun _ => .unnoted k.finished).bind
        fun _ => .pure _) _ _ _ hr begun

theorem serveWith (deeper : ∀ a, Keeps P (invoke a)) (fuel : Nat) (call : Machine.Call I O W) :
    Keeps P (Recorded.serveWith invoke fuel call) := by
  cases hc : call.runsCode with
  | false =>
    rw [serveWith_eq_serveAlone hc]
    exact k.serveAlone hc
  | true =>
    cases call with
    | apply op => exact k.calling rfl ((k.perform deeper op).bind fun _ => .pure _)
    | invoke state =>
      -- looking for the action changes nothing
      have look : Keeps P (Recorded.unnoted (.ofAttempt (Session.actionOf state))) :=
        .unnoted fun {r} p => (show r.become r.session = r from rfl) ▸ p
      refine k.calling rfl (look.bind fun found => ?_)
      cases found with
      | none => exact .pure _
      | some action => exact (deeper action).bind fun _ => .pure _
    | execute start => exact k.execute deeper fuel start
    | _ => cases hc

theorem evalWith {fuel : Nat} (deeper : ∀ a, Keeps P (invoke a)) :
    ∀ (a : Action I O W) (held : List (Transition (Action I O W))),
      Keeps P (Recorded.evalWith (Recorded.serveWith invoke fuel) invoke a held)
  | .halt, _ => fun _ _ _ h p => by cases h; exact p
  | .proceed _, _ => fun _ _ _ h p => by cases h; exact p
  | .fail _, _ => fun _ _ _ h p => by cases h; exact p
  | .enter _, _ => fun _ _ _ h p => by cases h; exact p
  | .dispatch, held => by
    intro r result r' h p
    have selected := k.selected p
    simp only [Recorded.evalWith] at h
    cases hs : Session.selectBranch r.session with
    | mk found s' =>
      rw [hs] at selected h
      cases found with
      | error e =>
        cases h
        exact selected
      | ok branch => exact deeper branch _ _ _ h selected
  | .call request next, held => by
    intro r result r' h p
    simp only [Recorded.evalWith] at h
    cases hc : Recorded.serveWith invoke fuel request r with
    | none => simp [hc] at h
    | some q =>
      rw [hc] at h
      have ht := k.serveWith deeper fuel request _ _ _ hc p
      obtain ⟨e | answer, t⟩ := q
      · exact evalWith deeper (next (.error e)) held _ _ _ h ht
      · exact evalWith deeper (next (.ok answer.shape)) _ _ _ _ h ht
  | .inspect next, held => fun r _ _ h p =>
    evalWith deeper (next r.session.machine.outline) held r _ _ h p
  | .outside change next, held => fun r _ _ h p =>
    evalWith deeper (next (change r.session.world)) held _ _ _ h (k.touched p)

/-- What every happening keeps, an action keeps. -/
theorem eval (fuel : Nat) (a : Action I O W) : Keeps P (Recorded.eval fuel a) := by
  induction fuel generalizing a with
  | zero => exact fun _ _ _ h => nomatch h
  | succ fuel ih => exact k.evalWith ih a []

/-- What every happening keeps, an unfinished run keeps. -/
theorem advance {fuel n : Nat} {action : Action I O W} {r : Recorded I O W}
    {x : Standing (Action I O W) (Recorded I O W)} (p : P r)
    (h : Recorded.advance (Recorded.eval fuel) n action r = some x) : P x.state := by
  induction n generalizing action r with
  | zero =>
    cases h
    exact p
  | succ n ih =>
    rw [Recorded.advance] at h
    cases hi : Recorded.eval fuel action (r.note (.invoked action)) with
    | none => simp [hi] at h
    | some bounced =>
      have ht := k.eval fuel action _ _ _ hi (k.invoked p)
      rw [hi] at h
      obtain ⟨e | transition, t⟩ := bounced
      · cases h
        exact ht
      · cases transition with
        | halt =>
          cases h
          exact ht
        | enter next => exact ih ht h

theorem underway {fuel n : Nat} {start : Start} {r : Recorded I O W}
    {x : Standing (Action I O W) (Recorded I O W)} (p : P r)
    (h : Recorded.underway fuel n start r = some x) : P x.state := by
  have begun : P ((r.note (.made (.execute start))).become (Session.beginRun start r.session).2) :=
    k.begun p
  simp only [Recorded.underway, session_note] at h
  cases hb : Session.beginRun start r.session with
  | mk found entered =>
    rw [hb] at h begun
    cases found with
    | error e =>
      cases h
      exact begun
    | ok action => exact k.advance begun h

/-- What every happening keeps, a call keeps. -/
theorem serve (fuel : Nat) (call : Machine.Call I O W) : Keeps P (Recorded.serve fuel call) :=
  k.serveWith (k.eval fuel) fuel call

end Kept

/-- A record is only ever added to. -/
theorem kept_grown (base : List (Moment I O W)) :
    Kept fun r : Recorded I O W => base <:+ r.record where
  made h := h.trans (List.suffix_cons _ _)
  answered _ h := h.trans (List.suffix_cons _ _)
  invoked h := h.trans (List.suffix_cons _ _)
  served _ h _ := h.trans ((List.suffix_cons _ _).trans (List.suffix_cons _ _))
  begun h := h.trans (List.suffix_cons _ _)
  finished h := h
  selected h := h
  touched h := h

/-! ## Every moment -/

/-- `P` holds now and held at every moment on record. -/
def Throughout (P : Recorded I O W → Prop) (r : Recorded I O W) : Prop :=
  P r ∧ ∀ m earlier, m :: earlier <:+ r.record → P ⟨m.session, m :: earlier⟩

namespace Throughout

variable {P : Recorded I O W → Prop} {r : Recorded I O W}

omit [BEq I] [BEq O] in
theorem note (h : Throughout P r) {what : Happening I O W} (p : P (r.note what)) :
    Throughout P (r.note what) := by
  refine ⟨p, fun m earlier hs => ?_⟩
  rcases List.suffix_cons_iff.1 hs with he | hs
  · cases he
    exact p
  · exact h.2 m earlier hs

omit [BEq I] [BEq O] in
theorem become (h : Throughout P r) {s : Session I O W} (p : P (r.become s)) :
    Throughout P (r.become s) :=
  ⟨p, h.2⟩

end Throughout

/-- What every happening keeps held at every moment since, too. -/
theorem Kept.throughout {P : Recorded I O W → Prop} (k : Kept P) : Kept (Throughout P) where
  made h := h.note (k.made h.1)
  answered runs h := h.note (k.answered runs h.1)
  invoked h := h.note (k.invoked h.1)
  served {r call} _ _ alone h hs := by
    have made : Throughout P (r.note (.made call)) := h.note (k.made h.1)
    -- between the call and its answer nothing is noted
    refine ⟨k.served alone h.1 hs, fun m earlier hm => ?_⟩
    rcases List.suffix_cons_iff.1 hm with he | hm
    · cases he
      exact k.served alone h.1 hs
    · exact made.2 m earlier hm
  begun h := (h.note (k.made h.1)).become (k.begun h.1)
  finished h := h.become (k.finished h.1)
  selected h := h.become (k.selected h.1)
  touched h := h.become (k.touched h.1)

end Recorded

/-! ## Calls one after the other -/

/-- A session in which nothing has happened yet. -/
def Session.fresh (config : Config) (world : W) : Session I O W :=
  { machine := { config := config }, world := world }

variable [BEq I] [BEq O] {kind : Machine.Call I O W → Prop} {origin : Session I O W}

/-- The sessions that calls of a kind lead to, each one made after the one before was answered. What
lies outside may change between the calls. -/
inductive Session.Reached (kind : Machine.Call I O W → Prop) (origin : Session I O W) :
    Session I O W → Prop
  | start : Reached kind origin origin
  | outside {s : Session I O W} (world : W) (before : Reached kind origin s) :
      Reached kind origin { s with world := world }
  | call {s s' : Session I O W} {request : Machine.Call I O W} {fuel : Nat}
      {result : Except MachineError (Answer I O (Action I O W))} (before : Reached kind origin s)
      (is : kind request) (answer : serve fuel request s = some (result, s')) :
          Reached kind origin s'

/-- The same with the record of all that happened. -/
inductive Recorded.Reached (kind : Machine.Call I O W → Prop) (origin : Session I O W) :
    Recorded I O W → Prop
  | start : Reached kind origin ⟨origin, []⟩
  | outside {r : Recorded I O W} (world : W) (before : Reached kind origin r) :
      Reached kind origin (r.become { r.session with world := world })
  | call {r r' : Recorded I O W} {request : Machine.Call I O W} {fuel : Nat}
      {result : Except MachineError (Answer I O (Action I O W))} (before : Reached kind origin r)
      (is : kind request) (answer : serve fuel request r = some (result, r')) :
          Reached kind origin r'

/-- Makes calls one after the other, whatever they are answered. -/
def Session.serveAll (fuel : Nat) :
    List (Machine.Call I O W) → Session I O W → Option (Session I O W)
  | [], s => some s
  | call :: rest, s => (serve fuel call s).bind fun p => serveAll fuel rest p.2

theorem Session.Reached.serveAll {fuel : Nat} {calls : List (Machine.Call I O W)}
    {s s' : Session I O W} (h : origin.Reached kind s) (all : ∀ call ∈ calls, kind call)
    (hs : serveAll fuel calls s = some s') : origin.Reached kind s' := by
  induction calls generalizing s with
  | nil =>
    cases hs
    exact h
  | cons call rest ih =>
    obtain ⟨⟨result, t⟩, ht, hr⟩ := Option.bind_eq_some_iff.1 hs
    obtain ⟨now, later⟩ := List.forall_mem_cons.1 all
    exact ih (.call h now ht) later hr

/-- Makes calls one after the other on record, whatever they are answered. -/
def Recorded.serveAll (fuel : Nat) :
    List (Machine.Call I O W) → Recorded I O W → Option (Recorded I O W)
  | [], r => some r
  | call :: rest, r => (serve fuel call r).bind fun p => serveAll fuel rest p.2

theorem Recorded.Reached.serveAll {fuel : Nat} {calls : List (Machine.Call I O W)}
    {r r' : Recorded I O W} (h : r.Reached kind origin) (all : ∀ call ∈ calls, kind call)
    (hr : serveAll fuel calls r = some r') : r'.Reached kind origin := by
  induction calls generalizing r with
  | nil =>
    cases hr
    exact h
  | cons call rest ih =>
    obtain ⟨⟨result, t⟩, ht, hr⟩ := Option.bind_eq_some_iff.1 hr
    obtain ⟨now, later⟩ := List.forall_mem_cons.1 all
    exact ih (.call h now ht) later hr

/-- A call that is answered is answered on record. -/
theorem Recorded.exists_serve {fuel : Nat} {request : Machine.Call I O W} {r : Recorded I O W}
    {result : Except MachineError (Answer I O (Action I O W))} {s' : Session I O W}
    (h : Session.serve fuel request r.session = some (result, s')) :
    ∃ record, serve fuel request r = some (result, ⟨s', record⟩) := by
  rw [← serve_eq] at h
  obtain ⟨⟨result', r'⟩, hr, he⟩ := Option.map_eq_some_iff.1 h
  cases he
  exact ⟨r'.record, hr⟩

/-- Whatever calls lead to, there is a record of it. -/
theorem Session.Reached.exists_record {s : Session I O W} (h : origin.Reached kind s) :
    ∃ record, Recorded.Reached kind origin ⟨s, record⟩ := by
  induction h with
  | start => exact ⟨[], .start⟩
  | outside world _ ih =>
    obtain ⟨record, h⟩ := ih
    exact ⟨record, .outside world h⟩
  | call _ is answer ih =>
    obtain ⟨record, h⟩ := ih
    obtain ⟨record', hr⟩ := Recorded.exists_serve (r := ⟨_, record⟩) answer
    exact ⟨record', .call h is hr⟩

/-- What every happening keeps holds wherever calls lead. -/
theorem Recorded.Kept.reached {P : Recorded I O W → Prop} (k : Kept P) (start : P ⟨origin, []⟩)
    {r : Recorded I O W} (h : r.Reached kind origin) : P r := by
  induction h with
  | start => exact start
  | outside world _ ih => exact k.touched ih
  | call _ _ answer ih => exact k.serve _ _ _ _ _ answer ih

/-! ## Wherever a machine can get -/

/-- The session with its record comes about from the origin, in the middle of a run or between two
calls: it has whatever the origin has and every happening keeps. -/
def Recorded.Arises (origin : Session I O W) (r : Recorded I O W) : Prop :=
  ∀ P : Recorded I O W → Prop, Kept P → P ⟨origin, []⟩ → P r

namespace Recorded.Arises

theorem kept : Kept (Arises origin : Recorded I O W → Prop) where
  made h P k start := k.made (h P k start)
  answered runs h P k start := k.answered runs (h P k start)
  invoked h P k start := k.invoked (h P k start)
  served alone h hs P k start := k.served alone (h P k start) hs
  begun h P k start := k.begun (h P k start)
  finished h P k start := k.finished (h P k start)
  selected h P k start := k.selected (h P k start)
  touched h P k start := k.touched (h P k start)

theorem start : Arises origin ⟨origin, []⟩ := fun _ _ start => start

/-- Wherever calls lead, they lead by happenings; the same holds of every moment on the way. -/
theorem throughout_of_reached {r : Recorded I O W} (h : r.Reached kind origin) :
    Throughout (Arises origin) r := by
  refine kept.throughout.reached ⟨start, fun m earlier hm => ?_⟩ h
  cases List.suffix_nil.1 hm

/-- A run that need not end goes by happenings, too. -/
theorem throughout_of_underway {r : Recorded I O W} (h : r.Reached kind origin) {fuel n : Nat}
    {start : Start} {x : Standing (Action I O W) (Recorded I O W)}
    (hx : underway fuel n start r = some x) : Throughout (Arises origin) x.state :=
  kept.throughout.underway (throughout_of_reached h) hx

end Recorded.Arises

end TapeMachine
