import TapeMachine.Proofs.Session.Calls
import TapeMachine.Proofs.Tape.Outcomes

/-!
# Orderly code

Code can make any call and end in any way. Orderly code keeps to three rules:
1. It takes no action out of the bindings to call it or to bind it again.
2. It fails only with an error that a call or a question of its own was refused with.
3. If it is bound to a state, it ends with no action but one that a transition has led to, and after
   the transition the current state has not moved and no binding has been dropped. The code of an
   instruction may end as it likes: its transition is dropped.

What code does depends on the answers it gets, so `Action.Orderly` follows the tree along the
answers that calls really have, in whatever session the code starts.

Results:
1. `Rule.Conducts.onMatch`, `Rule.Conducts.onMiss`: the branches of a rule with orderly instructions
   are orderly.
2. `Bank.aboutTapes_of_serve`, `Frame.Refuses.aboutTapes`: a request to the tapes and a question are
   refused with an error about a tape.
-/

namespace TapeMachine

variable {I O W S : Type}

/-! ## Errors -/

/-- Any error but that of a missing table. -/
def MachineError.Usual (e : MachineError) : Prop := ∀ state, e ≠ .noCompiledExpression state

/-- A state to which nothing is bound is no state whose table is missing. -/
theorem Frame.usual_of_lookup {A P : Type} {m : Frame I O A P} {state : Int} {e : MachineError}
    (h : m.lookup state = .error e) : e.Usual := by
  unfold lookup at h
  split at h
  · cases h
  · cases h
    unfold missingState
    split <;> exact nofun

/-- The error is about a tape: there is none, its head is on no cell, or a blank is missing. -/
def MachineError.aboutTapes : MachineError → Bool
  | .store _ | .staleHead _ _ | .uninitializedValue _ => true
  | _ => false

theorem MachineError.usual_of_aboutTapes {e : MachineError} (h : e.aboutTapes = true) :
    e.Usual := by
  rintro state rfl
  cases h

theorem MachineError.ne_unbuiltState_of_aboutTapes {e : MachineError} (h : e.aboutTapes = true)
    (state : Int) : e ≠ .unbuiltState state := by
  rintro rfl
  cases h

theorem Tape.aboutTapes_of_move {t : Tape S} {d : Direction} {blank : Option S} {e : MachineError}
    (h : t.move d blank = .error e) : e.aboutTapes = true := by
  rcases move_eq_error_iff.1 h with ⟨-, rfl⟩ | ⟨-, -, -, rfl⟩
  · rfl
  · rfl

namespace Bank

variable {b : Bank S} {e : MachineError}

theorem aboutTapes_of_tape {index : Nat} (h : b.tape index = .error e) : e.aboutTapes = true := by
  unfold tape at h
  split at h
  · cases h
  · cases h
    rfl

theorem aboutTapes_of_update {α : Type} {index : Nat}
    {work : Tape S → Except MachineError (α × Tape S)}
    (on_tape : ∀ t, work t = .error e → e.aboutTapes = true) (h : b.update index work = .error e) :
    e.aboutTapes = true := by
  unfold update at h
  split at h
  · next ht =>
    cases h
    exact aboutTapes_of_tape ht
  · next t ht =>
    split at h
    · next hw =>
      cases h
      exact on_tape t hw
    · cases h

theorem aboutTapes_of_adjust {index : Nat} {change : Tape S → Tape S}
    (h : b.adjust index change = .error e) : e.aboutTapes = true := by
  unfold adjust at h
  split at h
  · next ht =>
    cases h
    exact aboutTapes_of_tape ht
  · cases h

theorem aboutTapes_of_tracedRead {index : Nat} (h : b.tracedRead index = .error e) :
    e.aboutTapes = true := by
  refine aboutTapes_of_update (fun t hw => ?_) h
  split at hw
  · next hr =>
    cases hw
    rw [(Tape.read_eq_error_iff.1 hr).2]
    rfl
  · cases hw

theorem aboutTapes_of_tracedWrite [BEq S] {index : Nat} {value : S}
    (h : b.tracedWrite index value = .error e) : e.aboutTapes = true := by
  refine aboutTapes_of_update (fun t hw => ?_) h
  split at hw
  · next hr =>
    cases hw
    rw [(Tape.write_eq_error_iff.1 hr).2]
    rfl
  · cases hw
  · cases hw

theorem aboutTapes_of_tracedMove {index : Nat} {direction : Direction}
    (h : b.tracedMove index direction = .error e) : e.aboutTapes = true := by
  refine aboutTapes_of_update (fun t hw => ?_) h
  split at hw
  · next hr =>
    cases hw
    exact Tape.aboutTapes_of_move hr
  · cases hw

/-- A request to the tapes is refused for a tape and for nothing else. -/
theorem aboutTapes_of_serve [BEq S] {request : Request S} (h : b.serve request = .error e) :
    e.aboutTapes = true := by
  cases request with
  | add => cases h
  | select index =>
    have hs := eq_error_of_map_eq_error h
    unfold select at hs
    split at hs
    · cases hs
    · cases hs
      rfl
  | load tape storage head => exact aboutTapes_of_adjust (eq_error_of_map_eq_error h)
  | setHead tape head => exact aboutTapes_of_adjust (eq_error_of_map_eq_error h)
  | setSnapshot tape snapshot => exact aboutTapes_of_adjust (eq_error_of_map_eq_error h)
  | setBlank blank => cases h
  | unsetBlank => cases h
  | read tape => exact aboutTapes_of_tracedRead (eq_error_of_map_eq_error h)
  | write tape value => exact aboutTapes_of_tracedWrite (eq_error_of_map_eq_error h)
  | move tape direction => exact aboutTapes_of_tracedMove (eq_error_of_map_eq_error h)

end Bank

/-- Code can be refused with the error by what it has at hand when it looks at the machine, without
a call that changes it: by the machine for a tape or a blank, or by a sequence or a tape. These may
be the machine's own, such as the cells of one of its tapes or its snapshot, a copy that the code
works on, or its own. -/
inductive Frame.Refuses {A P : Type} (m : Frame I O A P) (e : MachineError) : Prop
  | inputTape (index : Option Nat) (h : m.inputTape index = .error e)
  | outputTape (index : Option Nat) (h : m.outputTape index = .error e)
  | inputBlank (h : m.inputBlank = .error e)
  | outputBlank (h : m.outputBlank = .error e)
  | position {S : Type} (cells : Sequence S) (index : Nat) {cause : StoreError}
    (h : cells.get index = .error cause) (he : e = .store cause)
  | cell {S : Type} (t : Tape S) (h : t.peek = .error e)
  | move {S : Type} (t : Tape S) (direction : Direction) (blank : Option S)
    (h : t.move direction blank = .error e)

theorem Frame.Refuses.aboutTapes {A P : Type} {m : Frame I O A P} {e : MachineError}
    (h : m.Refuses e) : e.aboutTapes = true := by
  cases h with
  | inputTape index h => exact Bank.aboutTapes_of_tape h
  | outputTape index h => exact Bank.aboutTapes_of_tape h
  | inputBlank h =>
    unfold Frame.inputBlank at h
    split at h
    · cases h
    · cases h
      rfl
  | outputBlank h =>
    unfold Frame.outputBlank at h
    split at h
    · cases h
    · cases h
      rfl
  | position cells index h he =>
    rw [he]
    rfl
  | cell t h =>
    rw [(Tape.peek_eq_error_iff.1 h).2]
    rfl
  | move t direction blank h => exact Tape.aboutTapes_of_move h

/-! ## Transitions that code holds -/

/-- A transition that a call of the code was answered with. -/
structure Held (I O W : Type) where
  transition : Transition (Action I O W)
  /-- The bindings and pointers right after the call, if it was a transition. -/
  since : Option (Registry (Action I O W))

/-- Since one moment the current state has not moved and no binding has been dropped: dropping the
bindings sends the current state back to -1, which is a move from whatever it was. -/
structure Registry.Stays {A : Type} (since now : Registry A) : Prop where
  current : now.current = since.current
  bindings : since.bindings <:+ now.bindings

theorem Registry.Stays.refl {A : Type} (r : Registry A) : r.Stays r := ⟨rfl, List.suffix_rfl⟩

/-- The transition may be followed: it halts, or it was made and the state it led to is still
current. -/
def Held.Current (h : Held I O W) (now : Registry (Action I O W)) : Prop :=
  h.transition = .halt ∨ ∃ since, h.since = some since ∧ since.Stays now

/-- What code holds after the answer to a call, apart from what it held before. -/
def Answer.held (answer : Answer I O (Action I O W)) (call : Machine.Call I O W)
    (after : Registry (Action I O W)) : List (Held I O W) :=
  answer.transitions.map fun t => ⟨t, match call with | .transition _ => some after | _ => none⟩

/-- What a transition was answered with may be followed as long as the state it led to stays. -/
theorem Answer.current_of_mem_held {answer : Answer I O (Action I O W)} {target : Target}
    {after now : Registry (Action I O W)} (stays : after.Stays now) {t : Held I O W}
    (ht : t ∈ answer.held (.transition target) after) : t.Current now := by
  obtain ⟨transition, -, rfl⟩ := List.mem_map.1 ht
  exact .inr ⟨after, rfl, stays⟩

/-! ## Conduct -/

/-- The calls that hand in no code and take no action out of the bindings to call or bind it. -/
def Call.plain {A P : Type} : Call I O A P → Bool
  | .apply _ | .bind _ _ | .declare _ | .share _ _ | .invoke _ => false
  | _ => true

section Orderly

variable [BEq I] [BEq O]

mutual

/-- The action, with the errors that it may pass on and the transitions that it holds, is orderly
from the session on. What it ends with counts only if it is `followed`. -/
inductive Action.Orderly : (followed : Bool) → (passed : MachineError → Prop) → List (Held I O W) →
    Session I O W → Action I O W → Prop
  | halt {followed passed held s} : Action.Orderly followed passed held s .halt
  | proceed {followed passed held s i}
      (h : followed = true → ∀ t, held[i]? = some t → t.Current s.machine.registry) :
      Action.Orderly followed passed held s (.proceed i)
  | fail {followed passed held s e} (h : passed e) : Action.Orderly followed passed held s (.fail e)
  | enter {passed held s next} : Action.Orderly false passed held s (.enter next)
  | call {followed passed held s request next} (hr : Call.Orderly request)
      (ok : ∀ fuel answer s', Session.serve fuel request s = some (.ok answer, s') →
        Action.Orderly followed passed (answer.held request s'.machine.registry ++ held) s'
          (next (.ok answer.shape)))
      (error : ∀ fuel e s', Session.serve fuel request s = some (.error e, s') →
        Action.Orderly followed (fun e' => e' = e ∨ passed e') held s' (next (.error e))) :
      Action.Orderly followed passed held s (.call request next)
  | inspect {followed passed held s next}
      (h : Action.Orderly followed (fun e => s.machine.outline.Refuses e ∨ passed e) held s
        (next s.machine.outline)) :
      Action.Orderly followed passed held s (.inspect next)
  | outside {followed passed held s change next}
      (h : Action.Orderly followed passed held { s with world := change s.world }
        (next (change s.world))) :
      Action.Orderly followed passed held s (.outside change next)

/-- All code in the instruction is orderly. -/
inductive Op.Orderly : Op I O W → Prop
  | input (i : Instruction I) : Op.Orderly (.input i)
  | output (i : Instruction O) : Op.Orderly (.output i)
  | andThen {first second : Op I O W} (hf : Op.Orderly first) (hs : Op.Orderly second) :
      Op.Orderly (.andThen first second)
  | custom {code : Action I O W} (h : ∀ s, Action.Orderly false (fun _ => False) [] s code) :
      Op.Orderly (.custom code)

/-- The call takes no action out of the bindings, and all code that it hands in is orderly. -/
inductive Call.Orderly : Machine.Call I O W → Prop
  | plain {call : Machine.Call I O W} (h : call.plain = true) : Call.Orderly call
  | apply {op : Op I O W} (h : Op.Orderly op) : Call.Orderly (.apply op)
  | bind {state : Int} {action : Action I O W}
      (h : ∀ s, Action.Orderly true (fun _ => False) [] s action) :
          Call.Orderly (.bind state action)
  | declare {rule : Rule I (Op I O W)}
      (h : ∀ op, op ∈ rule.write ∨ op ∈ rule.moves ∨ op ∈ rule.fallback → Op.Orderly op) :
      Call.Orderly (.declare rule)

end

/-- An action that may be bound: wherever it is run, it is orderly. -/
def Action.Conducts (a : Action I O W) : Prop := ∀ s, a.Orderly true (fun _ => False) [] s

/-- The instructions of the rule are orderly. -/
def Rule.Conducts (r : Rule I (Op I O W)) : Prop :=
  ∀ op, op ∈ r.write ∨ op ∈ r.moves ∨ op ∈ r.fallback → op.Orderly

/-! ## The branches of a rule -/

namespace Action

variable {followed : Bool} {passed : MachineError → Prop} {held : List (Held I O W)}
  {s : Session I O W}

/-- A transition made last may be followed. -/
theorem orderly_follow (target : Target) : (follow target).Orderly followed passed held s := by
  refine .call (.plain rfl) (fun fuel answer s' h => ?_) fun fuel e s' _ => .fail (.inl rfl)
  obtain ⟨r, -, hr⟩ := Run.of_answer (x := Session.transitionTo target) (f := Answer.transition) h
  obtain ⟨t, -, rfl⟩ := exists_of_map_eq_ok hr.symm
  refine .proceed fun _ t' ht' => .inr ⟨_, ?_, .refl _⟩
  cases ht'
  rfl

theorem orderly_performing {op? : Option (Op I O W)} {next : Action I O W}
    (ops : ∀ op ∈ op?, op.Orderly) (h : ∀ s passed, next.Orderly followed passed held s) :
    (performing op? next).Orderly followed passed held s := by
  cases op? with
  | none => exact h s passed
  | some op =>
    refine .call (.apply (ops op rfl)) (fun fuel answer s' ha => ?_) fun fuel e s' _ =>
      .fail (.inl rfl)
    -- an instruction answers no transition
    rw [Session.silently_eq_ok ha]
    exact h s' passed

end Action

namespace Rule

variable {r : Rule I (Op I O W)}

theorem Conducts.onMatch (h : r.Conducts) : r.onMatch.Conducts := fun _ =>
  Action.orderly_performing (fun op ho => h op (.inl ho)) fun _ _ =>
    Action.orderly_performing (fun op ho => h op (.inr (.inl ho))) fun _ _ =>
      Action.orderly_follow _

theorem Conducts.onMiss (h : r.Conducts) : r.onMiss.Conducts := fun _ =>
  Action.orderly_performing (fun op ho => h op (.inr (.inr ho))) fun s passed => by
    cases r.fallbackNext with
    | none => exact Action.orderly_follow _
    | some state => exact Action.orderly_follow _

end Rule

end Orderly

end TapeMachine
