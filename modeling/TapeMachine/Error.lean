/-!
# What can go wrong

An error names its cause. Its wording is in `StoreError.message` and `MachineError.message`; the
coarse class a caller may branch on is `MachineError.kind`.
-/

namespace TapeMachine

/-- A position that a store of the given length does not have. -/
inductive StoreError where
  | outOfRange (index len : Nat)
deriving DecidableEq, Repr

namespace StoreError

def message : StoreError → String
  | outOfRange index len => s!"index {index} is out of range (length {len})"

end StoreError

/-- The reasons for which a call to a machine is refused. -/
inductive MachineError where
  /-- A tape or another stored thing was asked for by an index it does not have. -/
  | store (cause : StoreError)
  /-- The head of a tape is not on any of its cells. -/
  | staleHead (head len : Nat)
  /-- Nothing is bound to the state, and no rule mentions it. -/
  | unknownState (state : Int)
  /-- Nothing is bound to the state, but rules for it wait to be built. -/
  | unbuiltState (state : Int)
  /-- A value is needed that nobody has set. -/
  | uninitializedValue (what : String)
  /-- The state has no table to choose a branch from. -/
  | noCompiledExpression (state : Int)
  /-- A state without rules cannot be built. -/
  | noRulesForState (state : Int)
  /-- There is no rule at all to build from. -/
  | emptyRuleSet
deriving DecidableEq, Repr

/-- The classes of errors. -/
inductive ErrorKind where
  | outOfRange
  | uninitializedValue
  | notFound
  | invalidArgument
deriving DecidableEq, Repr

namespace MachineError

def kind : MachineError → ErrorKind
  | store _ | staleHead _ _ | unknownState _ | unbuiltState _ => .outOfRange
  | uninitializedValue _ => .uninitializedValue
  | noCompiledExpression _ | noRulesForState _ => .notFound
  | emptyRuleSet => .invalidArgument

def message : MachineError → String
  | store cause => s!"store error: {cause.message}"
  | staleHead head len => s!"tape head is an invalid value: {head}, tape size: {len}"
  | unknownState state => s!"requested state {state} could not be found"
  | unbuiltState state =>
    s!"requested state {state} could not be found, however a rule for state {state} exists that " ++
      "is not built, consider building it with build()"
  | uninitializedValue what => s!"uninitialized value: {what}"
  | noCompiledExpression state => s!"no expression found with associated state: {state}"
  | noRulesForState state => s!"no rules declared for state {state}"
  | emptyRuleSet => "attempted to build an empty rule list, please add a rule before building"

end MachineError

end TapeMachine
