import TapeMachine.Attempt
import TapeMachine.Code
import TapeMachine.Log

/-!
# Sessions

A machine together with what is known of it from outside: whether an observer is installed, the
events it was told, the log, and the surroundings `W` that code may touch. Events and log are only
ever added to.

An observer listens and does nothing else. Code that the observer itself runs when it is told, and
what that would change in the surroundings, is left out: whatever it does, it does with the events
that are kept here.
-/

namespace TapeMachine

/-- A machine in use. -/
structure Session (I O W : Type) where
  machine : Machine I O W := {}
  /-- An observer is installed. It is a sink: it is told of events and touches nothing. -/
  observed : Bool := false
  /-- What observers were told, the oldest first. -/
  events : Array (Event I O) := #[]
  /-- What was logged, the oldest first. -/
  log : Array (LogEntry I O) := #[]
  /-- What lies outside the machine. -/
  world : W

namespace Session

variable {I O W : Type}

/-- Logs an entry if the machine is verbose. -/
def note (s : Session I O W) (entry : LogEntry I O) : Session I O W :=
  if s.machine.config.verbose then { s with log := s.log.push entry } else s

/-- Logs an entry in any case. -/
def conclude (s : Session I O W) (entry : LogEntry I O) : Session I O W :=
  { s with log := s.log.push entry }

/-- Tells the observer, if there is one. Nothing comes back from it, to the machine or to what lies
outside. -/
def tell (s : Session I O W) (event : Event I O) : Session I O W :=
  if s.observed then { s with events := s.events.push event } else s

/-- Records an operation on an input tape. -/
def recordInput (s : Session I O W) (event : TapeEvent I) : Session I O W :=
  (s.note (.input event)).tell (.input event)

/-- Records an operation on an output tape. -/
def recordOutput (s : Session I O W) (event : TapeEvent O) : Session I O W :=
  (s.note (.output event)).tell (.output event)

/-- Counts a transition and records it. -/
def recordTransition (s : Session I O W) (source : Int) (target : Option Int) : Session I O W :=
  let counted :=
    { s with machine.counters.transitions := s.machine.counters.transitions + 1 }
  (counted.note (.transition source target)).tell (.transition source target)

/-! ## Laws -/

/-- What is written down or told changes nothing in the machine. -/
@[simp] theorem machine_note (s : Session I O W) (entry : LogEntry I O) :
    (s.note entry).machine = s.machine := by
  unfold note
  split <;> rfl

@[simp] theorem machine_tell (s : Session I O W) (event : Event I O) :
    (s.tell event).machine = s.machine := by
  unfold tell
  split <;> rfl

@[simp] theorem machine_recordInput (s : Session I O W) (event : TapeEvent I) :
    (s.recordInput event).machine = s.machine := by
  rw [recordInput, machine_tell, machine_note]

@[simp] theorem machine_recordOutput (s : Session I O W) (event : TapeEvent O) :
    (s.recordOutput event).machine = s.machine := by
  rw [recordOutput, machine_tell, machine_note]

@[simp] theorem machine_recordTransition (s : Session I O W) (source : Int) (target : Option Int) :
    (s.recordTransition source target).machine =
      { s.machine with counters.transitions := s.machine.counters.transitions + 1 } := by
  rw [recordTransition, machine_tell, machine_note]

end Session

end TapeMachine
