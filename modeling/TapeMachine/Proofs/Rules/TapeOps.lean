import TapeMachine.Session.Fuel

/-!
# Code that works on tapes only

`Op.OnTapes` singles out the instructions that touch a machine through its tapes alone. They may be
composed and may be code of any shape, as long as that code makes no other calls.

Results:
1. `Op.OnTapes.perform_along`: such an instruction leaves everything but the tapes of a machine as
   it was.
2. `Op.OnTapes.settles`: it is followed to its end with enough fuel, whatever the session.
-/

namespace TapeMachine

variable {I O W : Type}

/-! ## Which code -/

mutual

/-- The instruction works on tapes only. -/
inductive Op.OnTapes : Op I O W → Prop
  | input (instruction : Instruction I) : Op.OnTapes (.input instruction)
  | output (instruction : Instruction O) : Op.OnTapes (.output instruction)
  | andThen {first second : Op I O W} (hf : Op.OnTapes first) (hs : Op.OnTapes second) :
      Op.OnTapes (.andThen first second)
  | custom {code : Action I O W} (h : Action.OnTapes code) : Op.OnTapes (.custom code)

/-- The calls of the action are requests to tapes and instructions that work on tapes only. It may
look at all of the machine and touch what lies outside, and it may end in any way. -/
inductive Action.OnTapes : Action I O W → Prop
  | halt : Action.OnTapes .halt
  | proceed (held : Nat) : Action.OnTapes (.proceed held)
  | fail (error : MachineError) : Action.OnTapes (.fail error)
  | enter (next : Action I O W) : Action.OnTapes (.enter next)
  | input (request : Bank.Request I) {next : Except MachineError (Answer I O Unit) → Action I O W}
      (h : ∀ answer, Action.OnTapes (next answer)) : Action.OnTapes (.call (.input request) next)
  | output (request : Bank.Request O) {next : Except MachineError (Answer I O Unit) → Action I O W}
      (h : ∀ answer, Action.OnTapes (next answer)) : Action.OnTapes (.call (.output request) next)
  | apply {op : Op I O W} {next : Except MachineError (Answer I O Unit) → Action I O W}
      (ho : Op.OnTapes op) (h : ∀ answer, Action.OnTapes (next answer)) :
      Action.OnTapes (.call (.apply op) next)
  | reset {next : Except MachineError (Answer I O Unit) → Action I O W}
      (h : ∀ answer, Action.OnTapes (next answer)) : Action.OnTapes (.call .reset next)
  | inspect {next : Outline I O → Action I O W} (h : ∀ outline, Action.OnTapes (next outline)) :
      Action.OnTapes (.inspect next)
  | outside (change : W → W) {next : W → Action I O W} (h : ∀ world, Action.OnTapes (next world)) :
      Action.OnTapes (.outside change next)

end

/-- Every instruction of the rule works on tapes only. -/
structure Rule.OnTapes (rule : Rule I (Op I O W)) : Prop where
  write : ∀ op ∈ rule.write, op.OnTapes
  moves : ∀ op ∈ rule.moves, op.OnTapes
  fallback : ∀ op ∈ rule.fallback, op.OnTapes

/-! ## What stays as it was -/

/-- The machines differ in their tapes at most. -/
structure Machine.SameButTapes (m m' : Machine I O W) : Prop where
  config_eq : m'.config = m.config
  registry_eq : m'.registry = m.registry
  rules_eq : m'.rules = m.rules
  tables_eq : m'.tables = m.tables
  counters_eq : m'.counters = m.counters

namespace Machine.SameButTapes

theorem refl (m : Machine I O W) : m.SameButTapes m := ⟨rfl, rfl, rfl, rfl, rfl⟩

theorem trans {m₁ m₂ m₃ : Machine I O W} (h : m₁.SameButTapes m₂) (h' : m₂.SameButTapes m₃) :
    m₁.SameButTapes m₃ where
  config_eq := h'.config_eq.trans h.config_eq
  registry_eq := h'.registry_eq.trans h.registry_eq
  rules_eq := h'.rules_eq.trans h.rules_eq
  tables_eq := h'.tables_eq.trans h.tables_eq
  counters_eq := h'.counters_eq.trans h.counters_eq

end Machine.SameButTapes

namespace Session

/-- Between the sessions the machine has changed in its tapes at most. -/
def SameButTapes (s s' : Session I O W) : Prop := s.machine.SameButTapes s'.machine

theorem onInputs_sameButTapes {α : Type}
    (work : Bank I → Except MachineError (Bank.Traced I α × Bank I)) (s : Session I O W) :
    s.SameButTapes (onInputs work s).2 := by
  unfold onInputs SameButTapes
  split
  · exact .refl _
  · rename_i event bank _
    cases event <;> simp only [machine_recordInput] <;> exact ⟨rfl, rfl, rfl, rfl, rfl⟩

theorem readInput_sameButTapes (tape : Option Nat) (s : Session I O W) :
    s.SameButTapes (readInput tape s).2 :=
  onInputs_sameButTapes _ s

theorem onOutputs_sameButTapes {α : Type}
    (work : Bank O → Except MachineError (Bank.Traced O α × Bank O)) (s : Session I O W) :
    s.SameButTapes (onOutputs work s).2 := by
  unfold onOutputs SameButTapes
  split
  · exact .refl _
  · rename_i event bank _
    cases event <;> simp only [machine_recordOutput] <;> exact ⟨rfl, rfl, rfl, rfl, rfl⟩

theorem reset_sameButTapes (s : Session I O W) : s.SameButTapes (reset s).2 := by
  unfold SameButTapes
  simp only [reset, Attempt.change, machine_note]
  exact ⟨rfl, rfl, rfl, rfl, rfl⟩

end Session

/-- Whatever the run answers, `R` holds between the state before and the state after. -/
def Run.Along {σ α : Type} (R : σ → σ → Prop) (x : Run σ α) : Prop :=
  ∀ s r s', x s = some (r, s') → R s s'

namespace Run.Along

variable {σ α β : Type} {R : σ → σ → Prop}

theorem ofAttempt {x : Attempt σ α} (h : ∀ s, R s (x s).2) : (Run.ofAttempt x).Along R := by
  intro s r s' hx
  have he : x s = (r, s') := Option.some.inj hx
  have := h s
  rwa [he] at this

theorem pure (refl : ∀ s, R s s) (a : α) : (Pure.pure a : Run σ α).Along R := by
  intro s r s' hx
  cases hx
  exact refl s

theorem bind (trans : ∀ {s₁ s₂ s₃}, R s₁ s₂ → R s₂ s₃ → R s₁ s₃) {x : Run σ α}
    {f : α → Run σ β} (first : x.Along R) (next : ∀ a, (f a).Along R) : (x >>= f).Along R := by
  intro s r s' hx
  cases hr : x s with
  | none =>
    rw [Run.bind_of_none hr] at hx
    cases hx
  | some p =>
    obtain ⟨e | a, s''⟩ := p
    · rw [Run.bind_of_error hr] at hx
      cases hx
      exact first _ _ _ hr
    · rw [Run.bind_of_ok hr] at hx
      exact trans (first _ _ _ hr) (next a _ _ _ hx)

end Run.Along

/-- A run whose answer is only put in other words. -/
theorem Session.SameButTapes.along_answer {α β : Type} {x : Run (Session I O W) α}
    (h : x.Along Session.SameButTapes) (f : α → β) :
    (x >>= fun a => pure (f a)).Along Session.SameButTapes :=
  h.bind .trans fun a => .pure (fun _ => .refl _) (f a)

variable [BEq I] [BEq O] {invoke : Invocation I O W}

/-- If the code in it leaves all but the tapes alone, so does the instruction. -/
theorem Op.OnTapes.perform_along_of_code
    (deeper : ∀ {code : Action I O W}, code.OnTapes → (invoke code).Along Session.SameButTapes) :
    ∀ {op : Op I O W}, op.OnTapes → (op.perform invoke).Along Session.SameButTapes
  | .input _, _ =>
    Session.SameButTapes.along_answer (.ofAttempt (Session.onInputs_sameButTapes _)) _
  | .output _, _ =>
    Session.SameButTapes.along_answer (.ofAttempt (Session.onOutputs_sameButTapes _)) _
  | .andThen _ _, h => by
    cases h with
    | andThen hf hs =>
      exact (hf.perform_along_of_code deeper).bind .trans fun _ => hs.perform_along_of_code deeper
  | .custom _, h => by
    cases h with
    | custom hc => exact Session.SameButTapes.along_answer (deeper hc) _

-- the recursion is on the tree of the action; what lies behind an instruction is covered by
-- `deeper`
theorem Action.OnTapes.evalWith_along {fuel : Nat}
    (deeper : ∀ {code : Action I O W}, code.OnTapes → (invoke code).Along Session.SameButTapes) :
    ∀ {action : Action I O W} (held : List (Transition (Action I O W))), action.OnTapes →
      (action.evalWith (Session.serveWith invoke fuel) invoke held).Along Session.SameButTapes
  | .halt, _, _ => fun s r s' h => by cases h; exact .refl _
  | .proceed _, _, _ => fun s r s' h => by cases h; exact .refl _
  | .fail _, _, _ => fun s r s' h => by cases h; exact .refl _
  | .enter _, _, _ => fun s r s' h => by cases h; exact .refl _
  | .dispatch, _, h => nomatch h
  | .call request next, held, h => by
    have hnext : ∀ answer, (next answer).OnTapes := by
      cases h <;> assumption
    have hcall : (Session.serveWith invoke fuel request).Along Session.SameButTapes := by
      cases h with
      | input request _ =>
        exact Session.SameButTapes.along_answer (.ofAttempt (Session.onInputs_sameButTapes _)) _
      | output request _ =>
        exact Session.SameButTapes.along_answer (.ofAttempt (Session.onOutputs_sameButTapes _)) _
      | apply ho _ =>
        exact Session.SameButTapes.along_answer (ho.perform_along_of_code deeper) _
      | reset _ =>
        exact Session.SameButTapes.along_answer (.ofAttempt Session.reset_sameButTapes) _
    -- the action goes on after an error of the call as well as after its answer
    intro s r s' h
    simp only [Action.evalWith] at h
    cases hc : Session.serveWith invoke fuel request s with
    | none => simp [hc] at h
    | some p =>
      rw [hc] at h
      obtain ⟨e | answer, t⟩ := p
      · exact (hcall _ _ _ hc).trans (evalWith_along deeper held (hnext (.error e)) _ _ _ h)
      · exact (hcall _ _ _ hc).trans (evalWith_along deeper _ (hnext (.ok answer.shape)) _ _ _ h)
  | .inspect next, held, h => by
    cases h with
    | inspect h => exact fun s r s' hr => evalWith_along deeper held (h s.machine.outline) s r s' hr
  | .outside change next, held, h => by
    cases h with
    | outside _ h =>
      exact fun s r s' hr => evalWith_along deeper held (h (change s.world))
        { s with world := change s.world } r s' hr

/-- Code that works on tapes only leaves everything else in the machine as it was. -/
theorem Action.OnTapes.eval_along (fuel : Nat) {action : Action I O W} (h : action.OnTapes) :
    (Action.eval fuel action).Along Session.SameButTapes := by
  induction fuel generalizing action with
  | zero => exact fun s r s' he => nomatch he
  | succ fuel ih => exact h.evalWith_along (fun hc => ih hc) []

/-- An instruction that works on tapes only leaves everything else in the machine as it was. -/
theorem Op.OnTapes.perform_along (fuel : Nat) {op : Op I O W} (h : op.OnTapes) :
    (op.perform (Action.eval fuel)).Along Session.SameButTapes :=
  h.perform_along_of_code fun hc => hc.eval_along fuel

/-! ## Enough fuel -/

/-- The run is followed to its end with enough fuel, wherever it starts, and more fuel changes
nothing. -/
structure Run.Settles {σ α : Type} (x : Nat → Run σ α) : Prop where
  mono : ∀ {n m : Nat}, n ≤ m → (x n).Within (x m)
  finishes : ∀ s, ∃ n r, x n s = some r

namespace Run.Settles

variable {σ α β : Type}

theorem ofAttempt (x : Attempt σ α) : Settles fun _ => Run.ofAttempt x where
  mono _ := Within.refl _
  finishes s := ⟨0, x s, rfl⟩

theorem bind {x : Nat → Run σ α} {f : Nat → α → Run σ β} (first : Settles x)
    (next : ∀ a, Settles fun n => f n a) : Settles fun n => x n >>= f n where
  mono le := (first.mono le).bind fun a => (next a).mono le
  finishes s := by
    obtain ⟨n, ⟨e | a, s'⟩, hn⟩ := first.finishes s
    · exact ⟨n, _, Run.bind_of_error hn⟩
    · obtain ⟨m, r, hm⟩ := (next a).finishes s'
      have hn' := first.mono (Nat.le_max_left n m) _ _ hn
      have hm' := (next a).mono (Nat.le_max_right n m) _ _ hm
      exact ⟨max n m, r, (Run.bind_of_ok hn').trans hm'⟩

/-- A run whose answer is only put in other words. -/
theorem answer {x : Nat → Run σ α} (h : Settles x) (f : α → β) :
    Settles fun n => x n >>= fun a => pure (f a) :=
  h.bind fun a => .ofAttempt (Pure.pure (f a))

end Run.Settles

/-- The action is followed to its end with enough fuel, whatever it holds. -/
def Action.Settles (action : Action I O W) : Prop :=
  ∀ held : List (Transition (Action I O W)),
    Run.Settles fun n => action.evalWith (Session.serve n) (Action.eval n) held

namespace Action.Settles

/-- More fuel never changes what an action does, so it is enough that it is followed to its end. -/
theorem of_finishes {action : Action I O W}
    (h : ∀ (held : List (Transition (Action I O W))) s, ∃ n r,
      action.evalWith (Session.serve n) (Action.eval n) held s = some r) : action.Settles :=
  fun held => ⟨fun le => Action.evalWith_within (fun c => Session.serve_within le c)
    (Action.eval_within le) action held, h held⟩

theorem call {request : Machine.Call I O W}
    {next : Except MachineError (Answer I O Unit) → Action I O W}
    (served : Run.Settles fun n => (Session.serve n request : Run (Session I O W) _))
    (h : ∀ answer, (next answer).Settles) : (Action.call request next).Settles := by
  refine of_finishes fun held s => ?_
  obtain ⟨n, ⟨result, s'⟩, hn⟩ := served.finishes s
  -- the call and what follows it both have enough of the larger amount of fuel
  cases result with
  | error e =>
    obtain ⟨m, r, hm⟩ := (h (.error e) held).finishes s'
    have hn' := served.mono (Nat.le_max_left n m) _ _ hn
    have hm' := (h (.error e) held).mono (Nat.le_max_right n m) _ _ hm
    exact ⟨max n m, r, by simp only [Action.evalWith, hn', hm']⟩
  | ok answer =>
    obtain ⟨m, r, hm⟩ := (h (.ok answer.shape) (answer.transitions ++ held)).finishes s'
    have hn' := served.mono (Nat.le_max_left n m) _ _ hn
    have hm' :=
      (h (.ok answer.shape) (answer.transitions ++ held)).mono (Nat.le_max_right n m) _ _ hm
    exact ⟨max n m, r, by simp only [Action.evalWith, hn', hm']⟩

/-- Running code takes one fuel more than following it. -/
theorem eval {action : Action I O W} (h : action.Settles) :
    Run.Settles fun n => (Action.eval n action : Run (Session I O W) _) where
  mono le := Action.eval_within le action
  finishes s := by
    obtain ⟨n, r, hn⟩ := (h []).finishes s
    exact ⟨n + 1, r, hn⟩

end Action.Settles

mutual

/-- An instruction that works on tapes only is followed to its end with enough fuel. -/
theorem Op.OnTapes.settles {op : Op I O W} (h : op.OnTapes) :
    Run.Settles fun n => (op.perform (Action.eval n) : Run (Session I O W) Unit) :=
  match h with
  | .input _ => (Run.Settles.ofAttempt _).answer _
  | .output _ => (Run.Settles.ofAttempt _).answer _
  | .andThen hf hs => hf.settles.bind fun _ => hs.settles
  | .custom hc => hc.settles.eval.answer _

theorem Action.OnTapes.settles {action : Action I O W} (h : action.OnTapes) : action.Settles :=
  match h with
  | .halt => .of_finishes fun _ _ => ⟨0, _, rfl⟩
  | .proceed _ => .of_finishes fun _ _ => ⟨0, _, rfl⟩
  | .fail _ => .of_finishes fun _ _ => ⟨0, _, rfl⟩
  | .enter _ => .of_finishes fun _ _ => ⟨0, _, rfl⟩
  | .input _ hn => .call ((Run.Settles.ofAttempt _).answer _) fun answer => (hn answer).settles
  | .output _ hn => .call ((Run.Settles.ofAttempt _).answer _) fun answer => (hn answer).settles
  | .apply ho hn => .call (ho.settles.answer _) fun answer => (hn answer).settles
  | .reset hn => .call ((Run.Settles.ofAttempt _).answer _) fun answer => (hn answer).settles
  | .inspect hn => .of_finishes fun held s =>
    ((hn s.machine.outline).settles held).finishes s
  | .outside change hn => .of_finishes fun held s =>
    ((hn (change s.world)).settles held).finishes { s with world := change s.world }

end

end TapeMachine
