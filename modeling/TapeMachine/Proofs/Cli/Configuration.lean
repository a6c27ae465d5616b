import TapeMachine.Cli.Execution
import TapeMachine.Proofs.Programs.Acceptance
import TapeMachine.Proofs.Programs.AbcAcceptor
import TapeMachine.Proofs.Programs.Increment

/-!
# What a configuration does to answers

A configuration says whether a machine is verbose and whether it resets after a run. A verdict is
read off the tapes after the run, so the programs that judge a text keep their machines from the
reset, and their answers do not depend on the configuration at all. The programs that report on a
tape leave the setting as it is. After a reset the tape is back at its snapshot, which is empty, but
nothing that was counted is lost.

Results:
1. `BusyBeaver.exists_program`: the beavers report where the walks of their tapes end, under every
   configuration.
2. `unmoved_of_prints`, `reports_of_prints`: what a command prints is the answer of its program.
3. `answers_under_configuration`: what the configuration does to the answer of each command.
-/

namespace TapeMachine

/-! ## Beavers -/

namespace Programs.BusyBeaver

/-- A beaver writes down what it reports. -/
theorem program_eq (fuel : Nat) (rules : Rules) :
    program fuel rules = reporting fuel 0 blank (.ofList [blank]) rules >>= fun report => do
      Run.ofAttempt (.change (·.conclude (conclusion report)))
      return report := by
  simp only [reporting, Run.bind_assoc]
  rfl

/-- A beaver reports where the walk of its tape ends. -/
theorem exists_program (config : Config) {rules : Rules}
    (declared : RuleSet.hasState ⟨rules⟩ 0 = true) {n taken fuel : Nat} {final : Int} {t : Tape Int}
    (h : Tape.walk rules blank n 0 { storage := .ofList [blank] } = some (taken, final, t))
    (enough : n + 1 ≤ fuel) :
    ∃ log, run config (program fuel rules) =
      some ⟨.ok ((walked blank (.ofList [blank]) rules taken t).under config), log⟩ := by
  obtain ⟨s, hs⟩ := exists_reporting config declared h enough
  generalize (walked blank (.ofList [blank]) rules taken t).under config = report at hs ⊢
  have ran : program fuel rules (Session.fresh config ()) =
      some (.ok report, s.conclude (conclusion report)) := by
    rw [program_eq]
    exact (Run.bind_of_ok hs).trans rfl
  exact exists_run ran

end Programs.BusyBeaver

/-! ## Answers -/

namespace Cli

open Programs

/-- With enough fuel, this is the answer. -/
def Answers {α : Type} (x : Nat → Option (Logged α)) (answer : Except MachineError α) : Prop :=
  ∃ enough, ∀ fuel, enough ≤ fuel → ∃ log, x fuel = some ⟨answer, log⟩

/-- However it is printed, the answer to the command is the same under every configuration. -/
def Command.Unmoved (command : Command) : Prop :=
  ∀ p, ∃ answer, ∀ config, Answers (fun fuel => command.execute fuel config p) answer

/-- The command prints what a program reports. This is one report for all configurations, but for
the tape, which is empty if the configuration says to reset after a run. -/
def Command.Reports {I O : Type} [Text.Legible I] [Text.Legible O] [Printable I] (command : Command)
    (program : Nat → Run (Session I O Unit) (Report I)) : Prop :=
  ∃ report, ∀ config,
    Answers (fun fuel => run config (program fuel)) (.ok (Report.under config report)) ∧
    ∀ p, Answers (fun fuel => command.execute fuel config p)
      (.ok (p.report (Report.under config report)))

section Printing

variable {α : Type} {command : Command} {program : Config → Nat → Option (Logged α)}
  {print : Printer → α → String}
  (prints : ∀ fuel config p, command.execute fuel config p = shown (print p) (program config fuel))
include prints

/-- What is printed is the answer of the program. -/
theorem answers_of_prints {config : Config} {answer : Except MachineError α}
    (h : Answers (program config) answer) (p : Printer) :
    Answers (fun fuel => command.execute fuel config p) (answer.map (print p)) := by
  obtain ⟨enough, hx⟩ := h
  refine ⟨enough, fun fuel le => ?_⟩
  obtain ⟨log, hlog⟩ := hx fuel le
  refine ⟨log, ?_⟩
  dsimp only
  rw [prints, hlog]
  rfl

theorem unmoved_of_prints {answer : Except MachineError α}
    (h : ∀ config, Answers (program config) answer) :
    command.Unmoved :=
  fun p => ⟨_, fun config => answers_of_prints prints (h config) p⟩

end Printing

theorem reports_of_prints {I O : Type} [Text.Legible I] [Text.Legible O] [Printable I]
    {command : Command} {program : Nat → Run (Session I O Unit) (Report I)} {report : Report I}
    (prints : ∀ fuel config p, command.execute fuel config p =
      shown p.report (run config (program fuel)))
    (h : ∀ config, Answers (fun fuel => run config (program fuel)) (.ok (report.under config))) :
    command.Reports program :=
  ⟨report, fun config => ⟨h config, answers_of_prints prints (h config)⟩⟩

theorem unmoved_accept (input target : String) (head : Nat) :
    (Command.accept input target head).Unmoved :=
  unmoved_of_prints (fun _ _ _ => rfl) fun config =>
    ⟨_, fun _ enough =>
      PrefixAcceptor.exists_accept_eq config (Programs.sequence input) head enough⟩

theorem unmoved_sequence (input first second : String) :
    (Command.sequence input first second).Unmoved :=
  unmoved_of_prints (fun _ _ _ => rfl) fun config =>
    ⟨_, fun _ enough => PrefixAcceptor.exists_acceptBoth_eq config (Programs.sequence input)
      (Nat.le_trans (Nat.le_max_left _ _) enough) (Nat.le_trans (Nat.le_max_right _ _) enough)⟩

theorem unmoved_handwritten (inputs : List String) : (Command.handwritten inputs).Unmoved :=
  unmoved_of_prints (fun _ _ _ => rfl) fun config =>
    ⟨4, fun _ enough => AbcAcceptor.exists_program config inputs enough⟩

/-- A countdown has no machine to configure. -/
theorem unmoved_countdown (start : UInt64) : (Command.countdown start).Unmoved :=
  fun _ => ⟨_, fun _ => ⟨0, fun _ _ => ⟨[], rfl⟩⟩⟩

theorem reports_increment (digits : String) (flipping : Bool) :
    (Command.increment digits flipping).Reports
      (Increment.program · digits (if flipping then .flipping else .plain)) := by
  obtain ⟨t, hwalk, -⟩ := Increment.exists_walk digits (if flipping then .flipping else .plain)
  exact reports_of_prints (fun _ _ _ => rfl) fun config =>
    ⟨_, fun _ enough => Increment.exists_program config hwalk enough⟩

/-- A beaver whose walk halts. -/
theorem reports_beaver {command : Command} {rules : BusyBeaver.Rules}
    (prints : ∀ fuel config p, command.execute fuel config p =
      shown p.report (run config (BusyBeaver.program fuel rules)))
    (declared : RuleSet.hasState ⟨rules⟩ 0 = true) (n : Nat)
    (halts :
      (Tape.walk rules BusyBeaver.blank n 0 { storage := .ofList [BusyBeaver.blank] }).isSome =
        true) :
    command.Reports (BusyBeaver.program · rules) := by
  obtain ⟨⟨taken, final, t⟩, hwalk⟩ := Option.isSome_iff_exists.1 halts
  exact reports_of_prints prints fun config =>
    ⟨_, fun _ enough => BusyBeaver.exists_program config declared hwalk enough⟩

/-- No configuration shows in a verdict, in a failure to give one, or in a countdown. In a report it
shows if it says to reset after a run, and then only in the tape, the head and the rendering; the
counters are those of the same run without the reset. -/
theorem answers_under_configuration :
    (∀ input target head, (Command.accept input target head).Unmoved) ∧
    (∀ input first second, (Command.sequence input first second).Unmoved) ∧
    (∀ inputs, (Command.handwritten inputs).Unmoved) ∧
    (∀ start, (Command.countdown start).Unmoved) ∧
    (∀ digits flipping, (Command.increment digits flipping).Reports
      (Increment.program · digits (if flipping then .flipping else .plain))) ∧
    Command.beaver3.Reports (BusyBeaver.program · BusyBeaver.three) ∧
    Command.beaver4.Reports (BusyBeaver.program · BusyBeaver.four) := by
  refine ⟨unmoved_accept, unmoved_sequence, unmoved_handwritten, unmoved_countdown,
    reports_increment, ?_, ?_⟩
  · exact reports_beaver (fun _ _ _ => rfl) (by decide) 14 (by decide +kernel)
  · exact reports_beaver (fun _ _ _ => rfl) (by decide) 107 (by decide +kernel)

end Cli

end TapeMachine
