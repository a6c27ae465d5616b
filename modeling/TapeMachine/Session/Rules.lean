import TapeMachine.Session.States
import TapeMachine.Session.Tapes

/-!
# Declaring and building rules

A declared rule does nothing until its state is built. Building a state compiles its rules into a
table and binds `Action.dispatch` to it; the branch is chosen by `selectBranch` when the action
runs.
-/

namespace TapeMachine.Session

variable {I O W : Type}

/-- Declares a rule. -/
def declare (rule : Rule I (Op I O W)) : Attempt (Session I O W) Unit := .change fun s =>
  let s := s.note (.addingRule rule.state rule.read rule.next rule.fallbackNext)
  { s with
    machine.rules := s.machine.rules.add rule
    machine.counters.rulesDeclared := s.machine.counters.rulesDeclared + 1 }

/-- Takes the table of a state out of the store, if there is one. -/
def dropTable (state : Int) : Attempt (Session I O W) Unit := fun s =>
  match s.machine.tables.position (·.state == state) with
  | none => (.ok (), s)
  | some index =>
    match s.machine.tables.remove index with
    | .ok (_, tables) => (.ok (), { s with machine.tables := tables })
    | .error e => (.error (.store e), s)

/-- Compiles the rules of a state, puts the table in the place of an older one and binds the
state. -/
def install (state : Int) : Attempt (Session I O W) Unit := do
  let table ← .ask fun s =>
    match s.machine.rules.compile state with
    | some table => .ok table
    | none => .error (.noRulesForState state)
  -- one table at most for a state: the older one goes before the new one comes
  .change (·.note (.buildingState state table.len))
  dropTable state
  .change fun s =>
    { s with
      machine.counters.rulesBuilt := s.machine.counters.rulesBuilt + table.len
      machine.tables := (s.machine.tables.push table).2 }
  bindAction state .dispatch

/-- Installs states one after the other, up to the first failure. -/
def installAll : List Int → Attempt (Session I O W) Unit
  | [] => pure ()
  | state :: rest => do
    install state
    installAll rest

/-- Builds every declared state, in increasing order, in place of all tables so far. -/
def build : Attempt (Session I O W) Unit := do
  .change fun s =>
    let s := s.note .clearingTables
    { s with machine.tables := .empty }
  let rules ← .ask (Except.ok ·.machine.rules)
  if rules.isEmpty then .fail .emptyRuleSet else installAll rules.states

/-- Builds a single state. -/
def buildState (state : Int) : Attempt (Session I O W) Unit := do
  let rules ← .ask (Except.ok ·.machine.rules)
  if rules.isEmpty then .fail .emptyRuleSet else install state

/-- Reads the active input tape and chooses the branch of the current state's table. -/
def selectBranch [BEq I] : Attempt (Session I O W) (Action I O W) := do
  let symbol ← readInput none
  .ask fun s =>
    let state := s.machine.registry.current
    match (s.machine.compiled state).bind (·.select symbol) with
    | some branch => .ok branch
    | none => .error (.noCompiledExpression state)

end TapeMachine.Session
