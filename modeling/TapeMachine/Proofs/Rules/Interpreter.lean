import TapeMachine.Proofs.Rules.Build
import TapeMachine.Proofs.Rules.TapeOps
import TapeMachine.Proofs.Session.Advance

/-!
# Rules read directly

`interpret` runs a list of rules without building it. In each step it looks into the declarations
for the first rule of the current state that reads the symbol under the head, or else for the first
rule of the current state. It knows no bindings, no tables and no trampoline.

Results:
1. `interpretStep_keeps`, `interpret_keeps`: the interpreter leaves code and configuration alone.
2. `declared_of_interpretStep`: it goes on at declared states only.
3. `exists_interpret`: every number of its steps is followed to its end with enough fuel.
-/

namespace TapeMachine

variable {I O W P : Type}

/-! ## The interpreter -/

/-- What one step does once it has read: instructions, then a state to go to or a halt. -/
structure Branch (P : Type) where
  ops : List P
  next : Option Int

namespace Rule

def matching (r : Rule I P) : Branch P := ⟨r.write.toList ++ r.moves.toList, r.next⟩

def missing (r : Rule I P) : Branch P := ⟨r.fallback.toList, r.fallbackNext⟩

end Rule

/-- The first rule of the state that reads the symbol is followed; if there is none, the first rule
of the state says what to do on a miss. -/
def branchFor [BEq I] (rules : List (Rule I P)) (state : Int) (symbol : I) : Option (Branch P) :=
  match rules.find? fun r => r.state == state && r.read == symbol with
  | some r => some r.matching
  | none => (rules.find? (·.state == state)).map Rule.missing

namespace Session

variable {perform : Op I O W → Run (Session I O W) Unit} {rules : List (Rule I (Op I O W))}

def performAll (perform : Op I O W → Run (Session I O W) Unit) :
    List (Op I O W) → Run (Session I O W) Unit
  | [] => pure ()
  | op :: rest => do
    perform op
    performAll perform rest

/-- Goes to a state that some rule is declared for, or halts; answers whether the run goes on. -/
def goTo (rules : List (Rule I (Op I O W))) (target : Option Int) : Attempt (Session I O W) Bool :=
  fun s =>
    let source := s.machine.registry.current
    match target with
    | none => (.ok false, s.recordTransition source none)
    | some state =>
      if rules.any (·.state == state) then
        let entered := { s with machine.registry := s.machine.registry.setCurrent state }
        (.ok true, entered.recordTransition source (some state))
      else (.error (.unknownState state), s)

def takeBranch (perform : Op I O W → Run (Session I O W) Unit) (rules : List (Rule I (Op I O W)))
    (branch : Branch (Op I O W)) : Run (Session I O W) Bool := do
  performAll perform branch.ops
  Run.ofAttempt (goTo rules branch.next)

/-- One step: reads the active input tape, chooses a branch of the current state and takes it. -/
def interpretStep [BEq I] (perform : Op I O W → Run (Session I O W) Unit)
    (rules : List (Rule I (Op I O W))) : Run (Session I O W) Bool := do
  let symbol ← Run.ofAttempt (readInput none)
  let current ← Run.ofAttempt (.ask (Except.ok ·.machine.registry.current))
  match branchFor rules current symbol with
  | some branch => takeBranch perform rules branch
  | none => Run.ofAttempt (.fail (.unknownState current))

/-- At most `n` steps; the first halt and the first error end the run. -/
def interpret [BEq I] (perform : Op I O W → Run (Session I O W) Unit)
    (rules : List (Rule I (Op I O W))) :
    Nat → Session I O W → Option (Standing Unit (Session I O W))
  | 0, s => some (.going () s)
  | n + 1, s =>
    match interpretStep perform rules s with
    | none => none
    | some (.ok true, s') => interpret perform rules n s'
    | some (.ok false, s') => some (.ended (.ok ()) s')
    | some (.error e, s') => some (.ended (.error e) s')

/-- The session in which a run from a state makes its first step. -/
def entering (state : Int) (s : Session I O W) : Session I O W :=
  { s with machine.registry := s.machine.registry.setCurrent state }.note (.executingState state)

/-! ## What a step leaves alone -/

/-- Between the sessions code and configuration have not changed. -/
structure KeepsCode (s s' : Session I O W) : Prop where
  code : s.machine.SameCode s'.machine
  config_eq : s'.machine.config = s.machine.config

namespace KeepsCode

theorem refl (s : Session I O W) : s.KeepsCode s := ⟨.refl _, rfl⟩

theorem trans {s₁ s₂ s₃ : Session I O W} (h : s₁.KeepsCode s₂) (h' : s₂.KeepsCode s₃) :
    s₁.KeepsCode s₃ := ⟨h.code.trans h'.code, h'.config_eq.trans h.config_eq⟩

theorem of_sameButTapes {s s' : Session I O W} (h : s.SameButTapes s') : s.KeepsCode s' where
  code :=
    { rules_eq := h.rules_eq
      compiled_eq := fun state => by rw [Frame.compiled, h.tables_eq]; rfl
      get?_eq := fun state => by rw [h.registry_eq] }
  config_eq := h.config_eq

/-- A transition is counted and written down, and that is all. -/
theorem recordTransition {s t : Session I O W} (h : s.KeepsCode t) (source : Int)
    (target : Option Int) :
    s.KeepsCode (t.recordTransition source target) where
  code := by
    rw [machine_recordTransition]
    exact ⟨h.code.rules_eq, h.code.compiled_eq, h.code.get?_eq⟩
  config_eq := by
    rw [machine_recordTransition]
    exact h.config_eq

end KeepsCode

theorem performAll_along {ops : List (Op I O W)}
    (h : ∀ op ∈ ops, (perform op).Along SameButTapes) :
    (performAll perform ops).Along SameButTapes := by
  induction ops with
  | nil => exact .pure (fun s => .refl s.machine) ()
  | cons op rest ih =>
    obtain ⟨hop, hrest⟩ := List.forall_mem_cons.1 h
    exact hop.bind .trans fun _ => ih hrest

theorem keepsCode_goTo (target : Option Int) (s : Session I O W) :
    s.KeepsCode (goTo rules target s).2 := by
  unfold goTo
  cases target with
  | none => exact .recordTransition (.refl s) _ _
  | some state =>
    have entered : s.KeepsCode { s with machine.registry := s.machine.registry.setCurrent state } :=
      ⟨⟨rfl, fun _ => rfl, fun _ => rfl⟩, rfl⟩
    simp only
    split
    · exact entered.recordTransition _ _
    · exact .refl s

theorem declared_of_goTo {target : Option Int} {s s' : Session I O W}
    (h : goTo rules target s = (.ok true, s')) :
    rules.any (·.state == s'.machine.registry.current) = true := by
  unfold goTo at h
  cases target with
  | none => cases h
  | some state =>
    simp only at h
    split at h
    · cases h
      rw [machine_recordTransition]
      assumption
    · cases h

/-- Going to a state with a rule, or halting, succeeds; it is counted and touches no tape. -/
theorem goTo_eq_ok {target : Option Int} (s : Session I O W)
    (known : ∀ state ∈ target, rules.any (·.state == state) = true) :
    ∃ s', goTo rules target s = (.ok target.isSome, s') ∧
      s'.machine.inputs = s.machine.inputs ∧
      s'.machine.registry.current = target.getD s.machine.registry.current ∧
      s'.machine.counters.transitions = s.machine.counters.transitions + 1 := by
  cases target with
  | none =>
    have hm := machine_recordTransition s s.machine.registry.current none
    exact ⟨_, rfl, congrArg (·.inputs) hm, congrArg (·.registry.current) hm,
      congrArg (·.counters.transitions) hm⟩
  | some state =>
    have hgo : goTo rules (some state) s = (.ok true,
        { s with machine.registry := s.machine.registry.setCurrent state }.recordTransition
          s.machine.registry.current (some state)) := by
      simp only [goTo, known state rfl, ↓reduceIte]
    have hm := machine_recordTransition
      { s with machine.registry := s.machine.registry.setCurrent state }
        s.machine.registry.current (some state)
    exact ⟨_, hgo, congrArg (·.inputs) hm, congrArg (·.registry.current) hm,
      congrArg (·.counters.transitions) hm⟩

/-- The instructions of a branch come from the rules. -/
theorem mem_of_branchFor [BEq I] {state : Int} {symbol : I} {branch : Branch (Op I O W)}
    (h : branchFor rules state symbol = some branch) {op : Op I O W} (hop : op ∈ branch.ops) :
    ∃ r ∈ rules, op ∈ r.write ∨ op ∈ r.moves ∨ op ∈ r.fallback := by
  unfold branchFor at h
  split at h
  · rename_i r hr
    cases h
    refine ⟨r, List.mem_of_find?_eq_some hr, ?_⟩
    rcases List.mem_append.1 hop with hw | hm
    · exact .inl (Option.mem_toList.1 hw)
    · exact .inr (.inl (Option.mem_toList.1 hm))
  · obtain ⟨r, hr, rfl⟩ := Option.map_eq_some_iff.1 h
    exact ⟨r, List.mem_of_find?_eq_some hr, .inr (.inr (Option.mem_toList.1 hop))⟩

theorem onTapes_of_branchFor [BEq I] {state : Int} {symbol : I} {branch : Branch (Op I O W)}
    (tapes : ∀ r ∈ rules, r.OnTapes) (h : branchFor rules state symbol = some branch) :
    ∀ op ∈ branch.ops, op.OnTapes := by
  intro op hop
  obtain ⟨r, hr, hw | hm | hf⟩ := mem_of_branchFor h hop
  · exact (tapes r hr).write op hw
  · exact (tapes r hr).moves op hm
  · exact (tapes r hr).fallback op hf

variable [BEq I]

/-- A step of the interpreter leaves code and configuration alone, however it ends. -/
theorem interpretStep_keeps (tapes : ∀ r ∈ rules, r.OnTapes)
    (along : ∀ op : Op I O W, op.OnTapes → (perform op).Along SameButTapes) :
    (interpretStep perform rules).Along KeepsCode := by
  have hread : (Run.ofAttempt (readInput none) : Run (Session I O W) I).Along KeepsCode :=
    .ofAttempt fun s => .of_sameButTapes (readInput_sameButTapes none s)
  refine hread.bind .trans fun symbol => ?_
  refine Run.Along.bind .trans (.ofAttempt fun s => .refl s) fun current => ?_
  cases hb : branchFor rules current symbol with
  | none => exact .ofAttempt fun s => .refl s
  | some branch =>
    have hops : (performAll perform branch.ops).Along KeepsCode := fun s r s' h =>
      .of_sameButTapes (performAll_along
        (fun op hop => along op (onTapes_of_branchFor tapes hb op hop)) s r s' h)
    exact hops.bind .trans fun _ => .ofAttempt (keepsCode_goTo branch.next)

/-- The interpreter goes on at declared states only. -/
theorem declared_of_interpretStep {s s' : Session I O W}
    (h : interpretStep perform rules s = some (.ok true, s')) :
    rules.any (·.state == s'.machine.registry.current) = true := by
  obtain ⟨symbol, s₁, -, h⟩ := Run.exists_of_bind_eq_ok h
  obtain ⟨current, s₂, -, h⟩ := Run.exists_of_bind_eq_ok h
  cases hb : branchFor rules current symbol with
  | none =>
    rw [hb] at h
    cases h
  | some branch =>
    rw [hb] at h
    obtain ⟨_, s₃, -, h⟩ := Run.exists_of_bind_eq_ok h
    exact declared_of_goTo (Option.some.inj h)

/-- The interpreter leaves code and configuration alone. -/
theorem interpret_keeps (tapes : ∀ r ∈ rules, r.OnTapes)
    (along : ∀ op : Op I O W, op.OnTapes → (perform op).Along SameButTapes) {n : Nat}
    {s : Session I O W} {x : Standing Unit (Session I O W)}
    (h : interpret perform rules n s = some x) : s.KeepsCode x.state := by
  induction n generalizing s with
  | zero =>
    cases h
    exact .refl s
  | succ n ih =>
    cases hs : interpretStep perform rules s with
    | none => simp [interpret, hs] at h
    | some p =>
      rw [interpret, hs] at h
      obtain ⟨result, s'⟩ := p
      have kept := interpretStep_keeps tapes along _ _ _ hs
      cases result with
      | error e =>
        cases h
        exact kept
      | ok more =>
        cases more with
        | false =>
          cases h
          exact kept
        | true => exact kept.trans (ih h)

/-! ## Enough fuel -/

theorem interpret_within {perform' : Op I O W → Run (Session I O W) Unit}
    (deeper : (interpretStep perform rules).Within (interpretStep perform' rules)) {n : Nat}
    {s : Session I O W} {x : Standing Unit (Session I O W)}
    (h : interpret perform rules n s = some x) :
    interpret perform' rules n s = some x := by
  induction n generalizing s with
  | zero => exact h
  | succ n ih =>
    cases hs : interpretStep perform rules s with
    | none => simp [interpret, hs] at h
    | some p =>
      rw [interpret, deeper _ _ hs]
      rw [interpret, hs] at h
      obtain ⟨e | more, s'⟩ := p
      · exact h
      · cases more with
        | true => exact ih h
        | false => exact h

variable [BEq O]

theorem performAll_settles {ops : List (Op I O W)} (h : ∀ op ∈ ops, op.OnTapes) :
    Run.Settles fun f =>
      (performAll (Op.perform (Action.eval f)) ops : Run (Session I O W) Unit) := by
  induction ops with
  | nil => exact .ofAttempt (pure ())
  | cons op rest ih =>
    obtain ⟨hop, hrest⟩ := List.forall_mem_cons.1 h
    exact hop.settles.bind fun _ => ih hrest

theorem interpretStep_settles (tapes : ∀ r ∈ rules, r.OnTapes) :
    Run.Settles fun f => (interpretStep (Op.perform (Action.eval f)) rules :
      Run (Session I O W) Bool) := by
  refine (Run.Settles.ofAttempt _).bind fun symbol =>
    (Run.Settles.ofAttempt _).bind fun current => ?_
  cases hb : branchFor rules current symbol with
  | none => exact .ofAttempt _
  | some branch =>
    exact (performAll_settles (onTapes_of_branchFor tapes hb)).bind fun _ => .ofAttempt _

/-- Every number of steps of the interpreter is followed to its end with enough fuel. -/
theorem exists_interpret (tapes : ∀ r ∈ rules, r.OnTapes) (n : Nat) (s : Session I O W) :
    ∃ f x, interpret (Op.perform (Action.eval f)) rules n s = some x := by
  have settles := interpretStep_settles tapes
  induction n generalizing s with
  | zero => exact ⟨0, _, rfl⟩
  | succ n ih =>
    obtain ⟨f, ⟨e | more, s'⟩, hf⟩ := settles.finishes s
    · exact ⟨f, .ended (.error e) s', by rw [interpret, hf]⟩
    · cases more with
      | false => exact ⟨f, .ended (.ok ()) s', by rw [interpret, hf]⟩
      | true =>
        -- the first step and the rest of them have enough of the larger amount of fuel
        obtain ⟨g, x, hg⟩ := ih s'
        have hf' := settles.mono (Nat.le_max_left f g) _ _ hf
        have hg' := interpret_within (settles.mono (Nat.le_max_right f g)) hg
        exact ⟨max f g, x, by rw [interpret, hf']; exact hg'⟩

end Session

end TapeMachine
