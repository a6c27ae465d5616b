import TapeMachine.Proofs.Session.Conduct
import TapeMachine.Proofs.Session.Triple
import TapeMachine.Proofs.Session.View

/-!
# Candid code

Candid code fails with nothing but an error that a call or a question of its own was refused with.
Apart from that it may do what it likes: bind, share and call actions, build, erase and run in the
middle of a run.

An error that says that a state waits to be built has one source only: looking for a state to which
nothing is bound. In a machine with candid code every such error can be traced to it, however many
layers of code have passed it on. So whoever gets the error knows that the state was looked for, and
missing, since the call was made.

Results:
1. `Effect.candid`, `Effect.missed`: what a call that runs no code does to the code in the machine,
   and where the error comes from.
2. `eval_told`: running candid code, by induction on the fuel, with one case for each layer of the
   evaluation.
3. `serve_told`, `underway_told`, `advance_told`: the same for calls and for runs, ended or not.
-/

namespace TapeMachine

variable {I O W α : Type}

/-! ## Code that passes on the errors of its calls -/

variable [BEq I] [BEq O]

mutual

/-- From the session on, the action fails only with an error that it may pass on: one of these or
one that it gets meanwhile. The actions that it hands on are such code themselves. -/
inductive Action.CandidFrom : (passed : MachineError → Prop) → Session I O W → Action I O W → Prop
  | halt {passed s} : Action.CandidFrom passed s .halt
  | proceed {passed s} (i : Nat) : Action.CandidFrom passed s (.proceed i)
  | fail {passed s e} (h : passed e) : Action.CandidFrom passed s (.fail e)
  | enter {passed s next} (h : ∀ t, Action.CandidFrom (fun _ => False) t next) :
      Action.CandidFrom passed s (.enter next)
  | dispatch {passed s} : Action.CandidFrom passed s .dispatch
  | call {passed s request next} (hr : Call.Candid request)
      (ok : ∀ fuel answer s', Session.serve fuel request s = some (.ok answer, s') →
        Action.CandidFrom passed s' (next (.ok answer.shape)))
      (error : ∀ fuel e s', Session.serve fuel request s = some (.error e, s') →
        Action.CandidFrom (fun e' => e' = e ∨ passed e') s' (next (.error e))) :
      Action.CandidFrom passed s (.call request next)
  | inspect {passed s next}
      (h : Action.CandidFrom (fun e => s.machine.outline.Refuses e ∨ passed e) s
        (next s.machine.outline)) :
      Action.CandidFrom passed s (.inspect next)
  | outside {passed s change next}
      (h : Action.CandidFrom passed { s with world := change s.world } (next (change s.world))) :
      Action.CandidFrom passed s (.outside change next)

/-- All code in the instruction is candid. -/
inductive Op.Candid : Op I O W → Prop
  | input (i : Instruction I) : Op.Candid (.input i)
  | output (i : Instruction O) : Op.Candid (.output i)
  | andThen {first second : Op I O W} (hf : Op.Candid first) (hs : Op.Candid second) :
      Op.Candid (.andThen first second)
  | custom {code : Action I O W} (h : ∀ s, Action.CandidFrom (fun _ => False) s code) :
      Op.Candid (.custom code)

/-- All code that the call hands in is candid. -/
inductive Call.Candid : Machine.Call I O W → Prop
  | plain {call : Machine.Call I O W} (h : call.handsIn = false) : Call.Candid call
  | apply {op : Op I O W} (h : Op.Candid op) : Call.Candid (.apply op)
  | bind {state : Int} {action : Action I O W}
    (h : ∀ s, Action.CandidFrom (fun _ => False) s action) :
      Call.Candid (.bind state action)
  | declare {rule : Rule I (Op I O W)}
      (h : ∀ op, op ∈ rule.write ∨ op ∈ rule.moves ∨ op ∈ rule.fallback → Op.Candid op) :
      Call.Candid (.declare rule)

end

/-- Wherever the action is run, it fails only with errors of its own calls and questions. -/
def Action.Candid (a : Action I O W) : Prop := ∀ s, a.CandidFrom (fun _ => False) s

/-- The instructions of the rule are candid. -/
def Rule.Candid (r : Rule I (Op I O W)) : Prop :=
  ∀ op, op ∈ r.write ∨ op ∈ r.moves ∨ op ∈ r.fallback → op.Candid

/-- A transition leads to candid code or nowhere. -/
def Transition.Candid (t : Transition (Action I O W)) : Prop :=
  ∀ next, t = .enter next → next.Candid

theorem Transition.candid_halt : Transition.Candid (.halt : Transition (Action I O W)) := nofun

theorem Transition.candid_enter {next : Action I O W} (h : next.Candid) :
    Transition.Candid (.enter next) := by
  intro other he
  cases he
  exact h

theorem Action.candid_dispatch : Action.Candid (.dispatch : Action I O W) := fun _ => .dispatch

namespace Action

variable {passed : MachineError → Prop} {s : Session I O W}

theorem candidFrom_follow (target : Target) : (follow target).CandidFrom passed s :=
  .call (.plain rfl) (fun _ _ _ _ => .proceed 0) fun _ _ _ _ => .fail (.inl rfl)

theorem candidFrom_performing {op? : Option (Op I O W)} {next : Action I O W}
    (ops : ∀ op ∈ op?, op.Candid) (h : ∀ s passed, next.CandidFrom passed s) :
    (performing op? next).CandidFrom passed s := by
  cases op? with
  | none => exact h s passed
  | some op =>
    exact .call (.apply (ops op rfl)) (fun _ _ s' _ => h s' passed)
      fun _ _ _ _ => .fail (.inl rfl)

end Action

namespace Rule

variable {r : Rule I (Op I O W)}

theorem Candid.onMatch (h : r.Candid) : r.onMatch.Candid := fun _ =>
  Action.candidFrom_performing (fun op ho => h op (.inl ho)) fun _ _ =>
    Action.candidFrom_performing (fun op ho => h op (.inr (.inl ho))) fun _ _ =>
      Action.candidFrom_follow _

theorem Candid.onMiss (h : r.Candid) : r.onMiss.Candid := fun _ =>
  Action.candidFrom_performing (fun op ho => h op (.inr (.inr ho))) fun s passed => by
    cases r.fallbackNext with
    | none => exact Action.candidFrom_follow _
    | some state => exact Action.candidFrom_follow _

end Rule

/-! ## Machines -/

namespace Machine

/-- All code in the machine is candid. -/
def Candid (m : Machine I O W) : Prop := m.Holds Action.Candid Rule.Candid

variable {m m' : Machine I O W}

/-- A call that runs no code brings no code into the machine but what it hands in. -/
theorem Effect.candid {call : Machine.Call I O W}
    {result : Except MachineError (Answer I O (Action I O W))} (e : m.Effect call result m')
    (handed : Call.Candid call) (h : m.Candid) : m'.Candid := by
  have branches : ∀ rule : Rule I (Op I O W), rule.Candid → rule.onMatch.Candid ∧
      rule.onMiss.Candid :=
    fun _ hr => ⟨hr.onMatch, hr.onMiss⟩
  cases e with
  | bound state action =>
    cases handed with
    | plain hp => cases hp
    | bind ha => exact Holds.add h ha _
  | shared hg => exact Holds.add h (h.bound _ _ hg) _
  | declared rule =>
    cases handed with
    | plain hp => cases hp
    | declare hr => exact Holds.declare h hr _
  | erased => exact Holds.erase h
  | buildRefused => exact Holds.cleared h
  | built => exact Holds.built h Action.candid_dispatch branches
  | stateBuilt => exact Holds.installed h Action.candid_dispatch branches _
  | _ => exact Holds.of_unaltered h ⟨fun _ => rfl, rfl, rfl⟩

/-- The transitions that a call is answered with lead to candid code. -/
theorem Effect.candid_transitions {call : Machine.Call I O W} {answer : Answer I O (Action I O W)}
    (e : m.Effect call (.ok answer) m') (h : m.Candid) : ∀ t ∈ answer.transitions, t.Candid := by
  intro t ht
  cases e with
  | found hg =>
    rw [List.mem_singleton.1 ht]
    exact Transition.candid_enter (h.bound _ _ hg)
  | halted =>
    rw [List.mem_singleton.1 ht]
    exact Transition.candid_halt
  | entered hs hg =>
    rw [List.mem_singleton.1 ht]
    exact Transition.candid_enter (h.bound _ _ hg)
  | @inputServed request reply event bank hs => cases reply <;> cases ht
  | @outputServed request reply event bank hs => cases reply <;> cases ht
  | _ => cases ht

end Machine

/-! ## Where the error comes from -/

/-- The state that a call looks for, with these pointers. -/
def Call.looksFor {A P : Type} (r : Registry A) : Call I O A P → Option Int
  | .setDefault state => some state
  | .transition target => target.stateIn r
  | .execute (.state state) => some state
  | .execute .current => some r.current
  | .execute .default => some r.default
  | _ => none

/-- A call is made that looks for the state, and nothing is bound to it, though it has rules. -/
def Moment.Misses (m : Moment I O W) (state : Int) : Prop :=
  ∃ call, m.what = .made call ∧ call.looksFor m.session.machine.registry = some state ∧
    m.session.machine.lookup state = .error (.unbuiltState state)

omit [BEq I] [BEq O] in
theorem Session.looksFor_execute (start : Start) (s : Session I O W) :
    (Call.execute start : Machine.Call I O W).looksFor s.machine.registry =
      some (startState start s) := by
  cases start <;> rfl

omit [BEq I] [BEq O] in
theorem Frame.eq_of_lookup_eq_unbuiltState {m : Machine I O W} {state other : Int}
    (h : m.lookup state = .error (.unbuiltState other)) : other = state := by
  unfold lookup at h
  split at h
  · cases h
  · unfold missingState at h
    split at h
    · cases h
      rfl
    · cases h

/-- A call that runs no code and is refused for a state that waits to be built has looked for that
state. -/
theorem Machine.Effect.missed {m m' : Machine I O W} {call : Machine.Call I O W} {state : Int}
    (h : m.Effect call (.error (.unbuiltState state)) m') :
    call.looksFor m.registry = some state ∧ m.lookup state = .error (.unbuiltState state) := by
  cases h with
  | inputRefused hs => cases Bank.aboutTapes_of_serve hs
  | outputRefused hs => cases Bank.aboutTapes_of_serve hs
  | defaultRefused hl =>
    cases Frame.eq_of_lookup_eq_unbuiltState hl
    exact ⟨rfl, hl⟩
  | transitionRefused hs hl =>
    cases Frame.eq_of_lookup_eq_unbuiltState hl
    exact ⟨hs, hl⟩
  | stateRefused hd hr => rcases hr with hr | hr <;> cases hr

omit [BEq O] in
theorem Session.ne_unbuiltState_of_selectBranch {s s' : Session I O W} {e : MachineError}
    (h : selectBranch s = (.error e, s')) (state : Int) : e ≠ .unbuiltState state := by
  obtain ⟨read, hr, ⟨e', rfl, he⟩ | ⟨symbol, -, he⟩⟩ := selectBranch_cases h
  · cases he
    rcases onInputs_cases hr with ⟨e, hb, he, -⟩ | ⟨_, _, _, -, he, -⟩
    · cases he
      exact MachineError.ne_unbuiltState_of_aboutTapes
        (Bank.aboutTapes_of_tracedRead (eq_error_of_map_eq_error hb)) state
    · cases he
  · split at he
    · cases he
    · cases he
      exact nofun

namespace Recorded

/-- Since the base, the state was looked for and missing. -/
def MissedSince (base record : List (Moment I O W)) (state : Int) : Prop :=
  ∃ m before, m :: before <:+ record ∧ base <:+ before ∧ m.Misses state

/-- All code in the calls on record is candid. -/
def CandidCalls (record : List (Moment I O W)) : Prop :=
  ∀ m ∈ record, ∀ call, m.what = .made call → Call.Candid call

/-- The code in the machine and on record is candid, and wherever a call was answered, since the
base, that a state waits to be built, the state had been looked for and missing since the base. -/
structure Told (base : List (Moment I O W)) (r : Recorded I O W) : Prop where
  candid : r.session.machine.Candid
  calls : CandidCalls r.record
  grown : base <:+ r.record
  answers : ∀ m before call state, m :: before <:+ r.record → base <:+ before →
    m.what = .answered call (.error (.unbuiltState state)) → MissedSince base before state

/-- The error is none of a state that waits to be built, or the state was missing since the base. -/
def Traced (base : List (Moment I O W)) (r : Recorded I O W) (e : MachineError) : Prop :=
  ∀ state, e = .unbuiltState state → MissedSince base r.record state

variable {base : List (Moment I O W)} {r : Recorded I O W}

omit [BEq I] [BEq O] in
theorem MissedSince.mono {record record' : List (Moment I O W)} {state : Int}
    (h : MissedSince base record state) (grown : record <:+ record') :
    MissedSince base record' state := by
  obtain ⟨m, before, hm, hb, misses⟩ := h
  exact ⟨m, before, hm.trans grown, hb, misses⟩

omit [BEq I] [BEq O] in
theorem Traced.note {e : MachineError} (h : Traced base r e) (what : Happening I O W) :
    Traced base (r.note what) e :=
  fun state he => (h state he).mono (List.suffix_cons _ _)

omit [BEq I] [BEq O] in
theorem Traced.of_ne {e : MachineError} (h : ∀ state, e ≠ .unbuiltState state) : Traced base r e :=
  fun state he => absurd he (h state)

omit [BEq I] [BEq O] in
theorem Traced.of_aboutTapes {e : MachineError} (h : e.aboutTapes = true) : Traced base r e :=
  .of_ne (MachineError.ne_unbuiltState_of_aboutTapes h)

namespace Told

variable (h : Told base r)
include h

theorem note {what : Happening I O W} (handed : ∀ call, what = .made call → Call.Candid call)
    (told : ∀ call state, what = .answered call (.error (.unbuiltState state)) →
      MissedSince base r.record state) : Told base (r.note what) where
  candid := h.candid
  calls := List.forall_mem_cons.2 ⟨handed, h.calls⟩
  grown := h.grown.trans (List.suffix_cons _ _)
  answers m before call state hm hb hw := by
    rcases List.suffix_cons_iff.1 hm with he | hm
    · cases he
      exact told call state hw
    · exact h.answers m before call state hm hb hw

theorem made {call : Machine.Call I O W} (handed : Call.Candid call) :
    Told base (r.note (.made call)) := by
  refine h.note (fun other he => ?_) fun _ _ he => by cases he
  cases he
  exact handed

theorem invoked (action : Action I O W) : Told base (r.note (.invoked action)) :=
  h.note (fun _ he => by cases he) fun _ _ he => by cases he

theorem answered {call : Machine.Call I O W} {result : Except MachineError Unit}
    (traced : ∀ e, result = .error e → Traced base r e) :
    Told base (r.note (.answered call result)) := by
  refine h.note (fun _ he => by cases he) fun _ state he => ?_
  cases he
  exact traced _ rfl state rfl

theorem become {s : Session I O W} (candid : s.machine.Candid) : Told base (r.become s) :=
  ⟨candid, h.calls, h.grown, h.answers⟩

end Told

/-- From a session with candid code, whatever comes of `x` has candid code, every error of a state
that waits to be built is traced, and an answer is as described. -/
def Tells (base : List (Moment I O W)) (x : Run (Recorded I O W) α) (post : α → Prop)
    (r : Recorded I O W) :
    Prop :=
  Triple (Told base) (Traced base) x (fun _ => post) r

namespace Tells

variable {post : α → Prop}

theorem calling {call : Machine.Call I O W} {x : Run (Recorded I O W) α} (handed : Call.Candid call)
    (h : Tells base x post (r.note (.made call))) : Tells base (Recorded.calling call x) post r :=
  Triple.calling (·.made handed) (fun _ _ told traced => told.answered traced)
    (fun _ what _ traced => traced.note what) h

end Tells

/-! ## The layers of the evaluation -/

/-- Candid code tells wherever it is invoked. -/
def TellingInvocation (base : List (Moment I O W)) (invoke : Recorded.Invocation I O W) : Prop :=
  ∀ a r, a.Candid → Tells base (invoke a) Transition.Candid r

/-- The transitions in the answer lead to candid code. -/
def Hands (answer : Answer I O (Action I O W)) : Prop := ∀ t ∈ answer.transitions, t.Candid

variable {invoke : Recorded.Invocation I O W}

theorem serveAlone_told {call : Machine.Call I O W} (alone : call.runsCode = false)
    (handed : Call.Candid call) (r : Recorded I O W) : Tells base (serveAlone call) Hands r := by
  intro told
  refine Tells.calling handed (fun made result r' hx => ?_) told
  obtain ⟨⟨result', s'⟩, hs, he⟩ := Option.map_eq_some_iff.1 hx
  cases he
  have effect := Session.effect_of_serveAlone alone hs
  refine ⟨made.become (effect.candid handed made.candid), fun e he state hstate => ?_,
    fun answer ha => ?_⟩
  · subst he hstate
    exact ⟨_, _, List.suffix_rfl, told.grown, _, rfl, effect.missed⟩
  · subst ha
    exact effect.candid_transitions made.candid

theorem perform_told (deeper : TellingInvocation base invoke) {op : Op I O W} (candid : op.Candid)
    (r : Recorded I O W) : Tells base (perform invoke op) (fun _ => True) r := by
  match op, candid with
  | _, .input i => exact (serveAlone_told rfl (.plain rfl) r).bind fun _ _ _ => .pure trivial
  | _, .output i => exact (serveAlone_told rfl (.plain rfl) r).bind fun _ _ _ => .pure trivial
  | _, .andThen hf hs =>
    exact (perform_told deeper hf r).bind fun _ r' _ => perform_told deeper hs r'
  | _, .custom h => exact (deeper _ r h).bind fun _ _ _ => .pure trivial

/-- A run is refused for a state that waits to be built right when it is started. -/
theorem beginRun_told (start : Start) (grown : base <:+ r.record) :
    Tells base (unnoted (.ofAttempt (Session.beginRun start))) Action.Candid
      (r.note (.made (.execute start))) := by
  refine Triple.unnoted fun result s' hb told => ?_
  have told' := told.become (told.candid.of_unaltered (Session.unaltered_of_beginRun hb))
  rcases Session.beginRun_cases hb with ⟨e, hl, rfl, rfl⟩ | ⟨action, hg, rfl, rfl⟩
  · refine ⟨told', fun e' he state hstate => ?_, nofun⟩
    cases he
    subst hstate
    cases Frame.eq_of_lookup_eq_unbuiltState hl
    exact ⟨_, _, List.suffix_rfl, grown, _, rfl, Session.looksFor_execute _ _, hl⟩
  · refine ⟨told', nofun, fun a ha => ?_⟩
    cases ha
    exact told.candid.bound _ _ hg

theorem actionOf_told (state : Int) (r : Recorded I O W) :
    Tells base (unnoted (.ofAttempt (Session.actionOf state)))
      (fun found => ∀ a ∈ found, a.Candid) r := by
  refine Triple.unnoted fun result s' hx told => ?_
  cases hx
  refine ⟨told, nofun, fun found hf a ha => ?_⟩
  cases hf
  exact told.candid.bound _ _ ha

theorem endRun_told (r : Recorded I O W) :
    Tells base (unnoted (.ofAttempt Session.endRun)) (fun _ => True) r := by
  refine Triple.unnoted fun result s' he told => ?_
  have hok : result = .ok () := by rw [← Session.fst_endRun r.session, he]
  refine ⟨told.become (told.candid.of_unaltered (Session.unaltered_of_endRun he)), fun e hr => ?_,
    fun _ _ => trivial⟩
  rw [hok] at hr
  cases hr

theorem drive_told (deeper : TellingInvocation base invoke) (n : Nat) {action : Action I O W}
    (candid : action.Candid) (r : Recorded I O W) :
    Tells base (drive invoke n action) (fun _ => True) r :=
  Triple.drive (fun told _ => told.invoked _) (fun _ candid => deeper _ _ candid) candid

theorem execute_told (deeper : TellingInvocation base invoke) (fuel : Nat) (start : Start)
    (grown : base <:+ r.record) :
    Tells base (executeWith invoke fuel start) (fun _ => True) (r.note (.made (.execute start))) :=
  (beginRun_told start grown).bind fun _ r' candid =>
    (drive_told deeper fuel candid r').bind fun _ r' _ => endRun_told r'

theorem serveWith_told (deeper : TellingInvocation base invoke) (fuel : Nat)
    {call : Machine.Call I O W} (handed : Call.Candid call) (r : Recorded I O W) :
    Tells base (serveWith invoke fuel call) Hands r := by
  cases hc : call.runsCode with
  | false =>
    rw [serveWith_eq_serveAlone hc]
    exact serveAlone_told hc handed r
  | true =>
    cases call with
    | apply op =>
      cases handed with
      | plain hp => cases hp
      | apply ho =>
        exact .calling (.apply ho) ((perform_told deeper ho _).bind fun _ _ _ => .pure nofun)
    | invoke state =>
      refine .calling handed (Triple.bind (actionOf_told state _) fun found r' candid => ?_)
      cases found with
      | none => exact .pure nofun
      | some action =>
        refine (deeper action r' (candid action rfl)).bind fun t r'' ht => .pure fun t' hmem => ?_
        rw [List.mem_singleton.1 hmem]
        exact ht
    | execute start =>
      intro told
      exact Tells.calling handed
        ((execute_told deeper fuel start told.grown).bind fun _ _ _ => .pure nofun) told
    | _ => cases hc

/-- Dispatching fails for the tape, for a missing table or with the branch that it chooses. -/
theorem dispatch_told (deeper : TellingInvocation base invoke) (fuel : Nat) (r : Recorded I O W) :
    Tells base (evalWith (serveWith invoke fuel) invoke .dispatch []) Transition.Candid r := by
  intro told result r' hx
  simp only [evalWith] at hx
  cases hs : Session.selectBranch r.session with
  | mk found t =>
    have candid : t.machine.Candid :=
      told.candid.of_unaltered (Session.unaltered_of_selectBranch hs)
    rw [hs] at hx
    cases found with
    | error e =>
      cases hx
      refine ⟨told.become candid, fun e' he => ?_, fun a ha => by cases ha⟩
      cases he
      exact .of_ne (Session.ne_unbuiltState_of_selectBranch hs)
    | ok branch =>
      obtain ⟨table, ht, entry, hentry, hbranch⟩ := Session.exists_entry_of_selectBranch hs
      obtain ⟨onMatch, onMiss⟩ := candid.tables table ht entry hentry
      have hc : branch.Candid := by
        rcases hbranch with rfl | rfl
        · exact onMatch
        · exact onMiss
      exact deeper branch (r.become t) hc (told.become candid) result r' hx

/-- Candid code tells. The induction is on the tree; each call is answered as it is without the
record, so the code goes on candidly. -/
theorem evalWith_told {n : Nat}
    (deeper : TellingInvocation base (eval (I := I) (O := O) (W := W) n)) (a : Action I O W)
    {passed : MachineError → Prop} {held : List (Transition (Action I O W))} {r : Recorded I O W}
    (candid : a.CandidFrom passed r.session) (traced : ∀ e, passed e → Traced base r e)
    (hands : ∀ t ∈ held, t.Candid) :
    Tells base (evalWith (serveWith (eval n) n) (eval n) a held) Transition.Candid r := by
  match a, candid with
  | .halt, .halt => exact .pure Transition.candid_halt
  | .proceed i, .proceed _ =>
    refine .pure ?_
    cases hi : held[i]? with
    | none => exact Transition.candid_halt
    | some t => exact hands t (List.mem_of_getElem? hi)
  | .fail e, .fail h =>
    intro told result r' hx
    cases hx
    refine ⟨told, fun e' he => ?_, nofun⟩
    cases he
    exact traced e h
  | .enter next, .enter h => exact .pure (Transition.candid_enter h)
  | .dispatch, .dispatch => exact dispatch_told deeper n r
  | .call request next, .call handed ok error =>
    intro told result r' hx
    simp only [evalWith] at hx
    cases hs : serveWith (eval n) n request r with
    | none => simp [hs] at hx
    | some p =>
      obtain ⟨found, t⟩ := p
      obtain ⟨ht, he, hp⟩ := serveWith_told deeper n handed r told found t hs
      have served : Session.serve n request r.session = some (found, t.session) := by
        rw [← serve_eq]
        exact congrArg (Option.map _) hs
      -- what could be traced before the call can be traced after it
      have grown : r.record <:+ t.record :=
        (kept_grown r.record).serve n request r found t hs List.suffix_rfl
      have still : ∀ e, passed e → Traced base t e := fun e he state hstate =>
        (traced e he state hstate).mono grown
      rw [hs] at hx
      cases found with
      | error e =>
        refine evalWith_told deeper (next (.error e)) (error n e _ served)
          (fun e' he' => ?_) hands ht result r' hx
        rcases he' with rfl | he'
        · exact he e' rfl
        · exact still e' he'
      | ok answer =>
        exact evalWith_told deeper (next (.ok answer.shape)) (ok n answer _ served) still
          (List.forall_mem_append.2 ⟨hp answer rfl, hands⟩) ht result r' hx
  | .inspect next, .inspect h =>
    exact fun told result r' hx => evalWith_told deeper (next r.session.machine.outline) h
      (fun e he => he.elim (.of_aboutTapes ·.aboutTapes) (traced e)) hands told result r' hx
  | .outside change next, .outside h =>
    intro told result r' hx
    let s : Session I O W := { r.session with world := change r.session.world }
    exact evalWith_told (r := r.become s) deeper (next (change r.session.world)) h
      (fun e he => traced e he) hands (told.become told.candid) result r' hx

/-- Running candid code tells, whatever the fuel. -/
theorem eval_told (n : Nat) : TellingInvocation base (eval (I := I) (O := O) (W := W) n) := by
  induction n with
  | zero => exact fun _ _ _ _ _ _ hx => (nomatch hx)
  | succ n ih => exact fun a r candid => evalWith_told ih a (candid _) nofun nofun

theorem serve_told (fuel : Nat) {call : Machine.Call I O W} (handed : Call.Candid call)
    (r : Recorded I O W) : Tells base (serve fuel call) Hands r :=
  serveWith_told (eval_told fuel) fuel handed r

/-- A run stands where its errors are traced. -/
theorem advance_told {fuel n : Nat} {action : Action I O W}
    {x : Standing (Action I O W) (Recorded I O W)} (candid : action.Candid) (told : Told base r)
    (h : advance (eval fuel) n action r = some x) :
    Told base x.state ∧ ∀ e t, x = .ended (.error e) t → Traced base t e := by
  obtain ⟨ht, -, ended⟩ := Triple.advance
    (fun {_ action} (told : Told base _) (_ : action.Candid) => told.invoked action)
    (fun _ candid => eval_told fuel _ _ candid) candid told h
  exact ⟨ht, ended⟩

theorem underway_told {fuel n : Nat} {start : Start} {x : Standing (Action I O W) (Recorded I O W)}
    (told : Told base r) (h : underway fuel n start r = some x) :
    Told base x.state ∧ ∀ e t, x = .ended (.error e) t → Traced base t e := by
  obtain ⟨ht, -, ended⟩ := Triple.underway
    (fun {_ action} (told : Told base _) (_ : action.Candid) => told.invoked action)
    (fun _ candid => eval_told fuel _ _ candid) (beginRun_told start told.grown)
      (told.made (.plain rfl)) h
  exact ⟨ht, ended⟩

/-! ## Wherever calls lead -/

/-- Code comes into the machine by calls only. -/
theorem kept_candid :
    Kept fun r : Recorded I O W => CandidCalls r.record → r.session.machine.Candid := by
  refine .of_unaltered (fun same h calls => (h calls).of_unaltered same)
    (fun h calls => h (List.forall_mem_cons.1 calls).2)
      (fun _ h calls => h (List.forall_mem_cons.1 calls).2)
    (fun h calls => h (List.forall_mem_cons.1 calls).2) fun alone h hs calls => ?_
  obtain ⟨handed, before⟩ := List.forall_mem_cons.1 (List.forall_mem_cons.1 calls).2
  exact (Session.effect_of_serveAlone alone hs).candid (handed _ rfl) (h before)

/-- At any moment a record of candid calls tells from then on. -/
theorem Arises.told {config : Config} {world : W} (h : r.Arises (Session.fresh config world))
    (calls : CandidCalls r.record) : Told r.record r where
  candid := h _ kept_candid (fun _ => .start config) calls
  calls := calls
  grown := List.suffix_rfl
  answers m before call state hm hb := by
    have := hm.length_le
    have := hb.length_le
    simp only [List.length_cons] at *
    omega

/-- Candid calls, made one after the other, leave a record of candid calls. -/
theorem Reached.candidCalls {config : Config} {world : W}
    (h : r.Reached Call.Candid (Session.fresh config world)) : CandidCalls r.record := by
  have told : Told [] r := by
    induction h with
    | start =>
      exact ⟨.start config, fun _ hm => (by cases hm), List.suffix_rfl,
        fun _ _ _ _ hm => by cases List.suffix_nil.1 hm⟩
    | outside world _ ih => exact ih.become ih.candid
    | call _ handed answer ih => exact (serve_told _ handed _ ih _ _ answer).1
  exact told.calls

end Recorded

end TapeMachine
