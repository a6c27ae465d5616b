import TapeMachine.Proofs.Rules.Build

/-!
# What code looks at

Code may look at the machine whenever it likes. A `View` says how closely: which machines look the
same, and whether the code may set the configuration and start runs of its own. Code that respects a
view goes on in the same way where machines look the same; what it does through calls is not
restricted by how a view looks.

A machine respects a view if all code does that can come to be run: what is bound, what is in the
tables, and what the rules hold for the next building.

Results:
1. `Rule.Respects.onMatch`, `Rule.Respects.onMiss`: the branches of a rule look at nothing, so they
   respect whatever view the instructions of the rule respect.
2. `Machine.Respects.built`, `Machine.Respects.installed` and their likes: no change of a machine
   brings in code that looks closer.
-/

namespace TapeMachine

variable {I O W : Type}

/-- How closely code looks at a machine, and which calls it leaves to others. -/
structure View (I O : Type) where
  /-- The machines look the same. -/
  same : Outline I O → Outline I O → Prop
  /-- Code may set the configuration. -/
  configures : Prop
  /-- Code may start runs inside a run. -/
  executes : Prop

/-- Code may make the call. -/
def View.Allows (v : View I O) : Machine.Call I O W → Prop
  | .configure _ => v.configures
  | .execute _ => v.executes
  | _ => True

theorem View.allows_of_all {v : View I O} (configures : v.configures) (executes : v.executes)
    (call : Machine.Call I O W) : v.Allows call := by
  cases call with
  | configure update => exact configures
  | execute start => exact executes
  | _ => trivial

/-- The calls that hand in code. -/
def Call.handsIn {A P : Type} : Call I O A P → Bool
  | .apply _ | .bind _ _ | .declare _ => true
  | _ => false

/-! ## Code -/

mutual

/-- Wherever it looks at machines that look the same, the action goes on in the same way, and it
makes no call that is left to others. So does all code that it hands in. -/
inductive Action.Respects (v : View I O) : Action I O W → Prop
  | halt : Action.Respects v .halt
  | proceed (held : Nat) : Action.Respects v (.proceed held)
  | fail (error : MachineError) : Action.Respects v (.fail error)
  | enter {next : Action I O W} (h : Action.Respects v next) : Action.Respects v (.enter next)
  | dispatch : Action.Respects v .dispatch
  | call {request : Machine.Call I O W}
    {next : Except MachineError (Answer I O Unit) → Action I O W}
      (allowed : v.Allows request) (hr : Call.Respects v request)
      (h : ∀ answer, Action.Respects v (next answer)) : Action.Respects v (.call request next)
  | inspect {next : Outline I O → Action I O W} (blind : ∀ o o', v.same o o' → next o = next o')
      (h : ∀ outline, Action.Respects v (next outline)) : Action.Respects v (.inspect next)
  | outside (change : W → W) {next : W → Action I O W}
    (h : ∀ world, Action.Respects v (next world)) :
      Action.Respects v (.outside change next)

/-- All code in the instruction respects the view. -/
inductive Op.Respects (v : View I O) : Op I O W → Prop
  | input (instruction : Instruction I) : Op.Respects v (.input instruction)
  | output (instruction : Instruction O) : Op.Respects v (.output instruction)
  | andThen {first second : Op I O W} (hf : Op.Respects v first) (hs : Op.Respects v second) :
      Op.Respects v (.andThen first second)
  | custom {code : Action I O W} (h : Action.Respects v code) : Op.Respects v (.custom code)

/-- All code that the call hands in respects the view. -/
inductive Call.Respects (v : View I O) : Machine.Call I O W → Prop
  | plain {call : Machine.Call I O W} (h : call.handsIn = false) : Call.Respects v call
  | apply {op : Op I O W} (h : Op.Respects v op) : Call.Respects v (.apply op)
  | bind (state : Int) {action : Action I O W} (h : Action.Respects v action) :
      Call.Respects v (.bind state action)
  | declare {rule : Rule I (Op I O W)}
      (h : ∀ op, op ∈ rule.write ∨ op ∈ rule.moves ∨ op ∈ rule.fallback → Op.Respects v op) :
      Call.Respects v (.declare rule)

end

variable {v : View I O}

/-- The instructions of the rule respect the view. -/
def Rule.Respects (v : View I O) (rule : Rule I (Op I O W)) : Prop :=
  ∀ op, op ∈ rule.write ∨ op ∈ rule.moves ∨ op ∈ rule.fallback → op.Respects v

/-- The action that the transition leads to, if any, respects the view. -/
def Transition.Respects (v : View I O) (t : Transition (Action I O W)) : Prop :=
  ∀ next, t = .enter next → next.Respects v

/-- The transition that came with the answer, if any, respects the view. -/
def Answer.Respects (v : View I O) (answer : Answer I O (Action I O W)) : Prop :=
  ∀ t ∈ answer.transitions, t.Respects v

theorem Transition.respects_halt : (.halt : Transition (Action I O W)).Respects v := nofun

theorem Transition.respects_enter {next : Action I O W} (h : next.Respects v) :
    (Transition.enter next).Respects v := by
  intro _ he
  cases he
  exact h

/-- What is held at a position, or nothing, respects the view if all that is held does. -/
theorem Transition.respects_getD {held : List (Transition (Action I O W))}
    (h : ∀ t ∈ held, t.Respects v) (i : Nat) : (held[i]?.getD .halt).Respects v := by
  cases ht : held[i]? with
  | none => exact respects_halt
  | some t => exact h t (List.mem_of_getElem? ht)

/-! ## The branches of a rule -/

namespace Action

theorem respects_andThen {request : Machine.Call I O W} {next : Action I O W}
    (allowed : v.Allows request) (hr : Call.Respects v request) (h : next.Respects v) :
    (andThen request next).Respects v := by
  refine .call allowed hr fun answer => ?_
  cases answer with
  | error e => exact .fail e
  | ok answer => exact h

theorem respects_follow (target : Target) : (follow target : Action I O W).Respects v :=
  respects_andThen trivial (.plain rfl) (.proceed 0)

theorem respects_performing {op? : Option (Op I O W)} {next : Action I O W}
    (ops : ∀ op ∈ op?, op.Respects v) (h : next.Respects v) : (performing op? next).Respects v := by
  cases op? with
  | none => exact h
  | some op => exact respects_andThen trivial (.apply (ops op rfl)) h

end Action

namespace Rule.Respects

variable {rule : Rule I (Op I O W)} (h : rule.Respects v)
include h

theorem onMatch : rule.onMatch.Respects v :=
  Action.respects_performing (fun op hop => h op (.inl hop)) <|
    Action.respects_performing (fun op hop => h op (.inr (.inl hop))) (Action.respects_follow _)

theorem onMiss : rule.onMiss.Respects v := by
  refine Action.respects_performing (fun op hop => h op (.inr (.inr hop))) ?_
  cases rule.fallbackNext <;> exact Action.respects_follow _

end Rule.Respects

/-- Every branch of the table respects the view. -/
def Table.Respects (v : View I O) (t : Table I (Action I O W)) : Prop :=
  ∀ e ∈ t.entries, e.onMatch.Respects v ∧ e.onMiss.Respects v

theorem Table.Respects.select [BEq I] {t : Table I (Action I O W)} (h : t.Respects v) {symbol : I}
    {branch : Action I O W} (hb : t.select symbol = some branch) : branch.Respects v := by
  obtain ⟨entry, he, rfl | rfl⟩ := Table.exists_of_select hb
  · exact (h entry he).1
  · exact (h entry he).2

/-! ## Machines -/

/-- All code of the machine respects the view. -/
structure Machine.Respects (v : View I O) (m : Machine I O W) : Prop where
  bound : ∀ state action, m.registry.get? state = some action → action.Respects v
  rules : ∀ rule ∈ m.rules.rules, rule.Respects v
  tables : ∀ t ∈ m.tables.items, t.Respects v

namespace Machine.Respects

variable {m : Machine I O W}

/-- A machine respects the view if it holds code that does. -/
theorem of_holds (h : m.Holds (·.Respects v) (·.Respects v)) : m.Respects v :=
  ⟨h.bound, h.rules, h.tables⟩

theorem start (config : Config) : Respects v ({ config := config } : Machine I O W) :=
  of_holds (.start config)

variable (h : m.Respects v)
include h

theorem holds : m.Holds (·.Respects v) (·.Respects v) := ⟨h.bound, h.rules, h.tables⟩

/-- Tapes, pointers, counters and configuration are no code. -/
theorem of_sameCode {m' : Machine I O W}
    (get?_eq : ∀ state, m'.registry.get? state = m.registry.get? state) (rules : m'.rules = m.rules)
    (tables : m'.tables = m.tables) : m'.Respects v :=
  of_holds (h.holds.of_unaltered ⟨get?_eq, rules, tables⟩)

theorem add {state : Int} {action : Action I O W} (ha : action.Respects v) (counters : Counters) :
    Respects v { m with registry := m.registry.add state action, counters := counters } :=
  of_holds (h.holds.add ha counters)

theorem erase : Respects v { m with registry := m.registry.erase } := of_holds h.holds.erase

theorem declare {rule : Rule I (Op I O W)} (hr : rule.Respects v) (counters : Counters) :
    Respects v { m with rules := m.rules.add rule, counters := counters } :=
  of_holds (h.holds.declare hr counters)

theorem cleared : Respects v { m with tables := .empty } := of_holds h.holds.cleared

theorem built : m.built.Respects v :=
  of_holds (h.holds.built .dispatch fun _ hr => ⟨hr.onMatch, hr.onMiss⟩)

theorem installed (state : Int) : ((m.dropped state).installed state).Respects v :=
  of_holds (h.holds.installed .dispatch (fun _ hr => ⟨hr.onMatch, hr.onMiss⟩) state)

/-- Whatever branch is chosen, it respects the view. -/
theorem branch [BEq I] {state : Int} {symbol : I} {branch : Action I O W}
    (hb : (m.compiled state).bind (·.select symbol) = some branch) : branch.Respects v := by
  obtain ⟨t, ht, hs⟩ := Option.bind_eq_some_iff.1 hb
  exact (h.tables t (List.mem_of_find?_eq_some ht)).select hs

end Machine.Respects

end TapeMachine
