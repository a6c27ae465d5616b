import TapeMachine.Proofs.Session.Abreast

/-!
# Tracing changes nothing

A machine may be verbose and it may be observed. Both are asked at every step, right beside the work
that is to be done: in every change of a machine, in every operation on a tape, in every transition.
Two machines that differ in this alone work the same, call by call and run by run, and two observers
are told the same, whether or not a log is written.

Code could make a difference by looking at the configuration; here it looks at most at the rest of
it.

Results:
1. `Machine.congruence_sameButVerbose`: nothing that is done to a machine depends on whether it is
   verbose.
2. `Session.transcript_sameButTracing`: calls that differ in tracing alone are answered alike and
   leave machines that differ in nothing else.
-/

namespace TapeMachine

variable {I O W : Type}

/-- Code that looks at everything but whether the machine is verbose, and may make every call. -/
def View.untraced : View I O where
  same o o' := ∃ verbose, o' = { o with config.verbose := verbose }
  configures := True
  executes := True

/-- The machines differ at most in whether they are verbose. -/
def Machine.SameButVerbose (m n : Machine I O W) : Prop :=
  ∃ verbose, n = { m with config.verbose := verbose }

theorem Machine.congruence_sameButVerbose [BEq I] :
    Congruence View.untraced (SameButVerbose : Machine I O W → Machine I O W → Prop) where
  seen := fun ⟨b, h⟩ => ⟨b, h ▸ rfl⟩
  inputs_eq := fun ⟨_, h⟩ => h ▸ rfl
  outputs_eq := fun ⟨_, h⟩ => h ▸ rfl
  get?_eq := fun ⟨_, h⟩ _ => h ▸ rfl
  current_eq := fun ⟨_, h⟩ => h ▸ rfl
  default_eq := fun ⟨_, h⟩ => h ▸ rfl
  hasState_eq := fun ⟨_, h⟩ _ => h ▸ rfl
  branch_eq := fun ⟨_, h⟩ _ _ => h ▸ rfl
  ends_eq := fun ⟨_, h⟩ _ => h ▸ rfl
  configured := fun ⟨b, h⟩ _ update => ⟨update.verbose.getD b, h ▸ rfl⟩
  inputs := fun ⟨b, h⟩ _ => ⟨b, h ▸ rfl⟩
  outputs := fun ⟨b, h⟩ _ => ⟨b, h ▸ rfl⟩
  bound := fun ⟨b, h⟩ _ _ => ⟨b, h ▸ rfl⟩
  current := fun ⟨b, h⟩ _ => ⟨b, h ▸ rfl⟩
  default := fun ⟨b, h⟩ _ => ⟨b, h ▸ rfl⟩
  erased := fun ⟨b, h⟩ => ⟨b, h ▸ rfl⟩
  counted := fun ⟨b, h⟩ => ⟨b, h ▸ rfl⟩
  declared := fun ⟨b, h⟩ _ => ⟨b, h ▸ rfl⟩
  cleared := fun ⟨b, h⟩ => ⟨b, h ▸ rfl⟩
  built := fun ⟨b, h⟩ => ⟨b, by rw [h, built_eq, built_eq]⟩
  installed := fun ⟨b, h⟩ _ _ => ⟨b, h ▸ rfl⟩

/-- Calls that differ in tracing alone: in whether they make the machine verbose or not or leave
that as it is and, unless observers are to be told the same, in whether they install an observer or
remove it. -/
inductive Call.SameButTracing (heard : Prop) : Machine.Call I O W → Machine.Call I O W → Prop
  | same (call : Machine.Call I O W) : SameButTracing heard call call
  | configure (verbose verbose' reset : Option Bool) :
      SameButTracing heard (.configure ⟨verbose, reset⟩) (.configure ⟨verbose', reset⟩)
  | observe (on on' : Bool) (h : heard → on' = on) :
      SameButTracing heard (.observe on) (.observe on')

namespace Session

variable [BEq I] [BEq O] {heard : Prop} {s t : Session I O W}

theorem serve_sameButTracing {call call' : Machine.Call I O W}
    (alike : call.SameButTracing heard call') (respects : call.Respects .untraced) (fuel : Nat)
    (h : s.Abreast .untraced Machine.SameButVerbose heard t) :
    Alike (Abreast .untraced Machine.SameButVerbose heard) (Answer.Respects .untraced)
      (serve fuel call s) (serve fuel call' t) := by
  cases alike with
  | same call =>
    exact Machine.congruence_sameButVerbose.serve fuel
      (View.allows_of_all trivial trivial call) respects h
  | configure verbose verbose' reset =>
    obtain ⟨b, hm⟩ := h.machine
    have configured :
        Machine.SameButVerbose { s.machine with config := s.machine.config.update ⟨verbose, reset⟩ }
          { t.machine with config := t.machine.config.update ⟨verbose', reset⟩ } :=
          ⟨verbose'.getD b, by rw [hm]; rfl⟩
    exact .answered nofun
      (h.become configured (h.code.of_sameCode (fun _ => rfl) rfl rfl) s.log t.log)
  | observe on on' same => exact .answered nofun { h with observed_eq := same }

/-- Two machines that differ at most in whether they are verbose, whose code does not look at that,
are given calls that differ at most in tracing. Then each call is answered with the same answer or
error in both or runs on without end in both, and after every call the machines still differ at most
in whether they are verbose. If both are observed alike from the start on, their observers are told
the same events. -/
theorem transcript_sameButTracing (machine : s.machine.SameButVerbose t.machine)
    (code : s.machine.Respects .untraced) (world : t.world = s.world)
    (told : heard → t.observed = s.observed ∧ t.events = s.events)
    {calls calls' : List (Machine.Call I O W)}
    (alike : List.Forall₂ (Call.SameButTracing heard) calls calls')
    (respect : ∀ call ∈ calls, call.Respects .untraced) (fuel : Nat) :
    List.Forall₂ (fun x y => y.1 = x.1 ∧ x.2.machine.SameButVerbose y.2.machine ∧
        y.2.world = x.2.world ∧ (heard → y.2.events = x.2.events))
      (transcript fuel calls s) (transcript fuel calls' t) := by
  have abreast : s.Abreast .untraced Machine.SameButVerbose heard t :=
    ⟨machine, code, world, fun hh => (told hh).1, fun hh => (told hh).2⟩
  have pairs : List.Forall₂
      (fun call call' => Call.SameButTracing heard call call' ∧ call.Respects .untraced)
          calls calls' := by
    clear abreast
    induction alike with
    | nil => exact .nil
    | cons h _ ih =>
      obtain ⟨now, later⟩ := List.forall_mem_cons.1 respect
      exact .cons ⟨h, now⟩ (ih later)
  refine (sameTranscript_of_alike (fun hc h => ?_) pairs abreast).imp fun x y hxy =>
    ⟨hxy.1, hxy.2.machine, hxy.2.world_eq, hxy.2.events_eq⟩
  exact (serve_sameButTracing hc.1 hc.2 fuel h).mono fun _ _ => trivial

/-- Two observed machines, the one verbose and the other not, run an action that looks at its
counters: it reads a cell and runs once more, then it moves off a tape that has no blank and
fails. -/
theorem transcript_sameButTracing_of_failing_run :
    ∃ calls calls' : List (Machine.Call Bool Bool Unit),
      List.Forall₂ (fun x y => y.1 = x.1 ∧ x.2.machine.SameButVerbose y.2.machine ∧
          y.2.world = x.2.world ∧ (True → y.2.events = x.2.events))
        (transcript 4 calls (fresh { verbose := true } ())) (transcript 4 calls' (fresh {} ())) ∧
      (transcript 4 calls (fresh { verbose := true } ())).map (fun x =>
        (x.1.toOption.isSome, x.2.events.size, x.2.log.size)) =
        [(true, 0, 0), (true, 0, 0), (true, 0, 0), (true, 0, 1), (true, 0, 1), (false, 2, 4)] ∧
      (transcript 4 calls' (fresh {} ())).map (fun x =>
        (x.1.toOption.isSome, x.2.events.size, x.2.log.size)) =
        [(true, 0, 0), (true, 0, 0), (true, 0, 0), (true, 0, 0), (true, 0, 0), (false, 2, 0)] := by
  let twice : Action Bool Bool Unit := .inspect fun o =>
    if o.counters.transitions = 0 then .andThen (.input (.read none)) (.follow .current)
    else .andThen (.input (.move none .right)) .halt
  have calm (request : Bank.Request Bool) {next : Action Bool Bool Unit}
    (h : next.Respects .untraced) :
      (Action.andThen (.input request) next).Respects .untraced :=
    Action.respects_andThen trivial (.plain rfl) h
  have respects : twice.Respects .untraced := by
    refine .inspect ?_ fun o => ?_
    · rintro o _ ⟨b, rfl⟩
      rfl
    · split
      · exact calm _ (Action.respects_follow _)
      · exact calm _ .halt
  let calls (verbose : Bool) : List (Machine.Call Bool Bool Unit) :=
    [.observe true, .input .add, .input (.load none (.ofList [true]) none), .bind 0 twice,
      .configure ⟨some verbose, some true⟩, .execute (.state 0)]
  refine ⟨calls true, calls false, ?_, by decide +kernel, by decide +kernel⟩
  refine transcript_sameButTracing (s := fresh { verbose := true } ()) (t := fresh {} ())
    ⟨false, rfl⟩ (.start _) rfl (fun _ => ⟨rfl, rfl⟩) ?_ ?_ 4
  · exact .cons (.same _) <| .cons (.same _) <| .cons (.same _) <| .cons (.same _) <|
      .cons (.configure (some true) (some false) (some true)) <| .cons (.same _) .nil
  · simp only [calls, List.forall_mem_cons]
    exact ⟨.plain rfl, .plain rfl, .plain rfl, .bind 0 respects, .plain rfl, .plain rfl,
      List.forall_mem_nil _⟩

end Session

end TapeMachine
