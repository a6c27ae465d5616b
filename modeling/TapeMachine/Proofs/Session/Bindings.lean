import TapeMachine.Proofs.Session.Refusal

/-!
# What is bound to a state, told by the past

An action comes to a state by being bound or shared, or when the state is built, and dropping the
bindings takes it away. Rules are never taken back, and neither rules nor tables bind anything by
themselves. So what looking for a state finds can be read off the record: `sought` takes the latest
binding since the bindings were dropped last, and where there is none, it tells by the declared
rules which error that is.

Results:
1. `Effect.get?_eq`: what a call that runs no code does to the binding of a state.
2. `Recorded.kept_bound`: every happening keeps bindings and record together.
3. `Recorded.Arises.lookup_eq`: looking for a state finds what the record says.
-/

namespace TapeMachine

variable {I O W : Type}

/-! ## What happenings say of a state -/

namespace Happening

/-- All bindings are dropped. -/
def erases : Happening I O W → Bool
  | .answered .erase _ => true
  | _ => false

/-- A rule of the state is declared. -/
def declares (state : Int) (h : Happening I O W) : Bool := h.rule?.any (·.state == state)

/-- The action that has just been bound to the state, if one has. The machine is the one right
afterwards: a building covers the states that have rules, and an action that was shared is still
bound to its owner. -/
def binds (m : Machine I O W) (state : Int) (h : Happening I O W) : Option (Action I O W) :=
  if h.builds state && m.rules.hasState state then some .dispatch
  else match h with
    | .answered (.bind other action) _ => if other = state then some action else none
    | .answered (.share other owner) _ => if other = state then m.registry.get? owner else none
    | _ => none

end Happening

/-- What happened since all bindings were dropped last, or ever. -/
def sinceErased (record : List (Moment I O W)) : List (Moment I O W) :=
  record.takeWhile fun m => !m.what.erases

/-- The action that was bound to the state last. -/
def boundLast (record : List (Moment I O W)) (state : Int) : Option (Action I O W) :=
  (sinceErased record).findSome? fun m => m.what.binds m.session.machine state

/-- What looking for a state finds after all that is on record: the action bound last, and otherwise
an error that tells whether a rule of the state was ever declared. -/
def sought (record : List (Moment I O W)) (state : Int) : Except MachineError (Action I O W) :=
  match boundLast record state with
  | some action => .ok action
  | none =>
    .error (if record.any (·.what.declares state) then .unbuiltState state else .unknownState state)

theorem boundLast_cons (m : Moment I O W) (earlier : List (Moment I O W)) (state : Int) :
    boundLast (m :: earlier) state =
      if m.what.erases then none
      else (m.what.binds m.session.machine state).or (boundLast earlier state) := by
  cases h : m.what.erases with
  | true => simp [boundLast, sinceErased, h]
  | false =>
    have kept : sinceErased (m :: earlier) = m :: sinceErased earlier := by simp [sinceErased, h]
    rw [boundLast, kept, List.findSome?_cons, if_neg Bool.false_ne_true]
    cases m.what.binds m.session.machine state <;> rfl

/-- The rules on record have the state exactly if one of them was declared for it. -/
theorem hasState_declaredRules (record : List (Moment I O W)) (state : Int) :
    (declaredRules record).hasState state = record.any (·.what.declares state) := by
  induction record with
  | nil => rfl
  | cons m earlier ih =>
    rw [declaredRules, List.any_cons, ← ih, Happening.declares]
    cases m.what.rule? with
    | none => rfl
    | some rule => simp [RuleSet.hasState, RuleSet.add, Bool.or_comm]

/-! ## What one call does to the bindings -/

variable [BEq I] [BEq O]

theorem Machine.Effect.get?_eq {m m' : Machine I O W} {call : Machine.Call I O W}
    {result : Except MachineError (Answer I O (Action I O W))} (e : m.Effect call result m')
    (state : Int) :
    m'.registry.get? state =
      if (Happening.answered call (result.map fun _ => ())).erases then none
      else ((Happening.answered call (result.map fun _ => ())).binds m' state).or
        (m.registry.get? state) := by
  cases e with
  | bound other action =>
    show (m.registry.add other action).get? state = _
    rw [Registry.get?_add]
    by_cases he : other = state
    · simp [Happening.erases, Happening.binds, Happening.builds, he]
    · simp [Happening.erases, Happening.binds, Happening.builds, he, Ne.symm he]
  | @shareAbsent other owner hg => simp [Happening.erases, Happening.binds, Happening.builds, hg]
  | @shared other owner action hg =>
    -- the owner may be the very state
    have owned : (m.bound other action).registry.get? owner = some action := by
      show (m.registry.add other action).get? owner = _
      rw [Registry.get?_add, hg, ite_self]
    show (m.registry.add other action).get? state = _
    rw [Registry.get?_add]
    by_cases he : other = state
    · subst he
      simp [Happening.erases, Happening.binds, Happening.builds, owned]
    · simp [Happening.erases, Happening.binds, Happening.builds, he, Ne.symm he]
  | erased => rfl
  | built =>
    have rules : m.built.rules = m.rules := by rw [built_eq]
    rw [get?_built]
    cases hs : m.rules.hasState state <;>
      simp [Happening.erases, Happening.binds, Happening.builds, Except.map, rules, hs]
  | @stateBuilt other declared =>
    show (m.registry.add other .dispatch).get? state = _
    rw [Registry.get?_add]
    by_cases he : other = state
    · subst he
      have covered : ((m.dropped other).installed other).rules.hasState other = true := declared
      simp [Happening.erases, Happening.binds, Happening.builds, Except.map, covered]
    · simp [Happening.erases, Happening.binds, Happening.builds, Except.map, he, Ne.symm he]
  | _ => rfl

/-! ## Sessions and their past -/

namespace Recorded

/-- To each state is bound what was bound to it last. -/
def Bound (r : Recorded I O W) : Prop :=
  ∀ state, r.session.machine.registry.get? state = boundLast r.record state

namespace Bound

variable {r : Recorded I O W} (h : r.Bound)
include h

omit [BEq I] [BEq O] in
theorem note {what : Happening I O W} (erases : what.erases = false)
    (binds : ∀ m state, what.binds m state = none) : (r.note what).Bound := by
  intro state
  rw [Recorded.note, boundLast_cons, erases, binds]
  exact h state

omit [BEq I] [BEq O] in
theorem become {s : Session I O W}
    (same : ∀ state, s.machine.registry.get? state = r.session.machine.registry.get? state) :
    (r.become s).Bound :=
  fun state => (same state).trans (h state)

theorem answered {call : Machine.Call I O W} {s' : Session I O W}
    {result : Except MachineError (Answer I O (Action I O W))}
    (e : r.session.machine.Effect call result s'.machine) :
    ((r.become s').note (.answered call (result.map fun _ => ()))).Bound := by
  intro state
  rw [Recorded.note, boundLast_cons]
  show s'.machine.registry.get? state = _
  rw [e.get?_eq, h state]
  rfl

end Bound

/-- Every happening keeps the bindings and the record together. -/
theorem kept_bound : Kept (Bound : Recorded I O W → Prop) := by
  refine .of_unaltered (fun same h => h.become same.get?_eq) (fun h => h.note rfl fun _ _ => rfl) ?_
    (fun h => h.note rfl fun _ _ => rfl) ?_
  · intro r call result runs h
    cases call with
    | apply op => exact h.note rfl fun _ _ => rfl
    | invoke state => exact h.note rfl fun _ _ => rfl
    | execute start => exact h.note rfl fun _ _ => rfl
    | _ => cases runs
  · intro r call result s' alone h hs
    have made : (r.note (.made call)).Bound := h.note rfl fun _ _ => rfl
    exact made.answered (Session.effect_of_serveAlone alone hs)

namespace Arises

variable {config : Config} {world : W} {r : Recorded I O W}

theorem bound (h : r.Arises (Session.fresh config world)) : r.Bound :=
  h _ kept_bound fun _ => rfl

/-- Looking for a state finds what the record says, whatever was done to the machine. -/
theorem lookup_eq (h : r.Arises (Session.fresh config world)) (state : Int) :
    r.session.machine.lookup state = sought r.record state := by
  rw [Frame.lookup, sought, h.bound, Frame.missingState, h.invariant.rules_eq,
    hasState_declaredRules]
  cases boundLast r.record state <;> rfl

end Arises

end Recorded

end TapeMachine
