import TapeMachine.Programs.Report

/-!
# Acceptors of a prefix

For a target of `n` symbols the states `0 … n - 1` match one symbol each and step toward the back of
the tape. The last one goes to the state `success`, a mismatch in any of them to `failure`; these
two are bound to code of their own that writes the verdict to the output tape.

Where the input ends, the tape goes on with the default symbol.
-/

namespace TapeMachine.Programs.PrefixAcceptor

variable {T : Type}

/-- The state entered when the whole target has matched. -/
def success : Int := -1

/-- The state entered on a mismatch. -/
def failure : Int := -2

/-- Where the head of the input ended, and whether the target matched. -/
structure Acceptance where
  head : Nat
  accepted : Bool
deriving DecidableEq, Repr

/-- Writes the verdict and halts. -/
def verdict (accepted : Bool) : Action T Bool Unit :=
  .andThen (.output (.write none accepted)) (.follow .stop)

/-- Steps past the symbol that matched last, then gives the verdict. -/
def succeed : Action T Bool Unit := .andThen (.input (.move none .left)) (verdict true)

/-- The rules for the rest of a target, the first symbol of which belongs to the state `index`. -/
def rulesFrom (index : Nat) : List T → List (Rule T (Op T Bool Unit))
  | [] => []
  | [symbol] =>
    [Rule.goingTo (.otherwiseGoingTo { state := index, read := symbol } failure) success]
  | symbol :: next :: rest =>
    Rule.goingTo
        (.moving (.otherwiseGoingTo { state := index, read := symbol } failure) .left)
        (index + 1 : Nat) ::
      rulesFrom (index + 1) (next :: rest)

/-- Binds the two verdicts and builds the rules of the target; a target without symbols has none to
build. -/
def setup [BEq T] [Inhabited T] (target : List T) : Attempt (Session T Bool Unit) Unit := do
  let _ ← Session.serveInput (.setBlank (default : T))
  let _ ← Session.serveOutput (.setBlank false)
  Session.bindAction failure (verdict false)
  Session.bindAction success succeed
  declareAll (rulesFrom 0 target)
  Session.build

/-- Adds the tapes: the input with its head, and an output tape with one cell. -/
def loadTapes [BEq T] (head : Nat) (input : Sequence T) : Attempt (Session T Bool Unit) Unit := do
  let _ ← Session.serveInput (I := T) .add
  let _ ← Session.serveOutput .add
  let _ ← Session.serveOutput (.load none (.ofList [false]) none)
  let _ ← Session.serveOutput (.setSnapshot none (.ofList [false]))
  let _ ← Session.serveInput (.load none input (some head))
  return ()

/-- Reads the verdict off the tapes. -/
def finish : Attempt (Session T Bool Unit) Acceptance := do
  let accepted ← outputCell 0
  let head ← inputHead
  .change (·.conclude (.conclusion "acceptor finished"
    [("accepted", toString accepted), ("head", toString head)]))
  return ⟨head, accepted⟩

/-- Whether the input, read from `head` on, starts with the target. -/
def program [BEq T] [Inhabited T] (fuel head : Nat) (input : Sequence T) (target : List T) :
    Run (Session T Bool Unit) Acceptance := do
  Run.ofAttempt (setup target)
  Run.ofAttempt (loadTapes head input)
  Session.execute fuel (.state 0)
  Run.ofAttempt finish

variable [BEq T] [Inhabited T] [Text.Legible T]

/-- Runs an acceptor on a fresh machine. The verdict is read off the tapes after the run, so they
are not taken back to their snapshots, whatever the configuration says. -/
def accept (fuel : Nat) (config : Config) (head : Nat) (input : Sequence T) (target : List T) :
    Option (Logged Acceptance) :=
  run { config with resetAfterExecution := false } (program fuel head input target)

/-- Accepts `first` at the front of the input, then `second` from where `first` left the head. The
first rejection ends it. -/
def acceptBoth (fuel : Nat) (config : Config) (input : Sequence T) (first second : List T) :
    Option (Logged Acceptance) :=
  match accept fuel config 0 input first with
  | some ⟨.ok ⟨head, true⟩, log⟩ =>
    (accept fuel config head input second).map fun r => { r with log := log ++ r.log }
  | r => r

end TapeMachine.Programs.PrefixAcceptor
