import TapeMachine.Main
import TapeMachine.Sequence.Lemmas
import TapeMachine.Session.Fuel
import TapeMachine.Proofs.Sequence.Refinement
import TapeMachine.Proofs.Tape.Line
import TapeMachine.Proofs.Rules.Build
import TapeMachine.Proofs.Rules.Grouping
import TapeMachine.Proofs.Rules.TapeOps
import TapeMachine.Proofs.Session.Advance
import TapeMachine.Proofs.Rules.Interpreter
import TapeMachine.Proofs.Rules.Execution
import TapeMachine.Proofs.Session.ActiveTape
import TapeMachine.Proofs.Turing.Machine
import TapeMachine.Proofs.Turing.Simulation
import TapeMachine.Proofs.Session.Record
import TapeMachine.Proofs.Session.Triple
import TapeMachine.Proofs.Session.Calls
import TapeMachine.Proofs.Session.Representation
import TapeMachine.Proofs.Session.Conduct
import TapeMachine.Proofs.Rules.Dispatch
import TapeMachine.Proofs.Tape.Outcomes
import TapeMachine.Proofs.Tape.Rendering
import TapeMachine.Proofs.Tape.Replay
import TapeMachine.Proofs.Session.TapeRequests
import TapeMachine.Proofs.Session.Commutation
import TapeMachine.Proofs.Session.Journal
import TapeMachine.Proofs.Rules.Safety
import TapeMachine.Proofs.Rules.Footprint
import TapeMachine.Proofs.Rules.Accounting
import TapeMachine.Proofs.Session.Refusal
import TapeMachine.Proofs.Session.Bindings
import TapeMachine.Proofs.Session.Candor
import TapeMachine.Proofs.Session.Diagnosis
import TapeMachine.Proofs.Session.View
import TapeMachine.Proofs.Session.Abreast
import TapeMachine.Proofs.Session.Tracing
import TapeMachine.Proofs.Session.AutoReset
import TapeMachine.Proofs.Rules.BuildOrder
import TapeMachine.Proofs.Session.Counters
import TapeMachine.Proofs.Rules.Shadowing
import TapeMachine.Proofs.Rules.WriteShorthand
import TapeMachine.Proofs.Programs.Chains
import TapeMachine.Proofs.Programs.OneTape
import TapeMachine.Proofs.Programs.PrefixAcceptor
import TapeMachine.Proofs.Programs.AbcAcceptor
import TapeMachine.Proofs.Programs.Acceptance
import TapeMachine.Proofs.Programs.Increment
import TapeMachine.Proofs.Programs.InputOnly
import TapeMachine.Proofs.Cli.Configuration
