import TapeMachine.Proofs.Rules.Footprint
import TapeMachine.Proofs.Session.TapeRequests

/-!
# What a run counts

Where only dispatches run, an action begins with the one read that it makes, and it ends with the
one transition that it takes, if it gets that far. Reads are counted in the tapes and transitions in
the machine; so over a run the two counters keep in step, and where they part it is by the last
action alone.

Results:
1. `Tape.reads_of_serve`, `Bank.reads_put`: what a request adds to the reads of a tape and of its
   bank.
2. `Op.plain_perform_unread`: plain instructions add no read and no transition.
3. `Machine.Ruled.eval_counts`: what one action counts, by the way it ends.
4. `Machine.Ruled.advance_counts`: what so many actions count.
5. `Recorded.Arises.execute_counts`: the account of a run, when it is over.
-/

namespace TapeMachine

variable {I O W S : Type}

/-! ## Reads of tapes and banks -/

/-- How many reads the tapes of the bank have counted together. -/
def Bank.reads (b : Bank S) : Nat := (TapeStatistics.total b.statistics).reads

theorem TapeStatistics.reads_total_cons (t : TapeStatistics) (l : List TapeStatistics) :
    (total (t :: l)).reads = t.reads + (total l).reads := by
  have from_any : ∀ a : TapeStatistics, (l.foldl add a).reads = a.reads + (total l).reads := by
    induction l with
    | nil => exact fun _ => rfl
    | cons u rest ih =>
      intro a
      have hu : (total (u :: rest)).reads = u.reads + (total rest).reads := by
        rw [total, List.foldl_cons, ih, add, Nat.zero_add]
      rw [List.foldl_cons, ih, hu, add, Nat.add_assoc]
  rw [total, List.foldl_cons, from_any, add, Nat.zero_add]

/-- One of the tapes is replaced by one that has counted `n` reads more. -/
theorem TapeStatistics.reads_total_set {l : List (Tape S)} {i : Nat} {t t' : Tape S} {n : Nat}
    (h : l[i]? = some t) (ht : t'.statistics.reads = t.statistics.reads + n) :
    (total ((l.set i t').map Tape.statistics)).reads =
      (total (l.map Tape.statistics)).reads + n := by
  induction l generalizing i with
  | nil => cases h
  | cons u rest ih =>
    cases i with
    | zero =>
      obtain rfl : u = t := Option.some.inj h
      rw [List.set_cons_zero, List.map_cons, List.map_cons, reads_total_cons, reads_total_cons, ht]
      omega
    | succ i =>
      rw [List.set_cons_succ, List.map_cons, List.map_cons, reads_total_cons,
        reads_total_cons, ih h]
      omega

namespace Bank

variable {b b' : Bank S} {index : Nat} {t t' : Tape S}

theorem reads_put {n : Nat} (h : b.tape index = .ok t)
    (ht : t'.statistics.reads = t.statistics.reads + n) : (b.put index t').reads = b.reads + n :=
  TapeStatistics.reads_total_set (tape_eq_ok_iff.1 h) ht

@[simp] theorem reads_reset (b : Bank S) : b.reset.reads = b.reads := by
  rw [reads, reads, statistics, reset, Stack.map, List.map_map]
  rfl

end Bank

namespace Tape

variable {t t' : Tape S}

/-- How many reads the request is. -/
def Request.reads : Request S → Nat
  | .read => 1
  | .write _ | .move _ => 0

theorem reads_of_serve [BEq S] {blank : Option S} {request : Request S} {reply : Reply S}
    (h : t.serve blank request = .ok (reply, t')) :
    t'.statistics.reads = t.statistics.reads + request.reads := by
  refine (count_of_serve h .read).trans (congrArg _ ?_)
  cases request with
  | read => rfl
  | write value => rcases reply with _ | (_ | _) | _ <;> rfl
  | move d => cases d <;> rfl

end Tape

theorem Bank.reads_of_serve_on [BEq S] {b b' : Bank S} {tape : Option Nat}
    (request : Tape.Request S) {answer : Bank.Traced S (Bank.Reply S)}
    (h : b.serve (request.on tape) = .ok (answer, b')) :
    b'.reads = b.reads + request.reads := by
  rw [serve_on] at h
  obtain ⟨t, t', ht, hw, rfl⟩ := update_eq_ok_iff.1 h
  obtain ⟨⟨reply, t''⟩, hs, he⟩ := exists_of_map_eq_ok hw
  cases he
  exact reads_put ht (Tape.reads_of_serve hs)

/-- An instruction writes or moves. -/
theorem Bank.reads_of_instruction [BEq S] {b b' : Bank S} {instruction : Instruction S}
    {answer : Bank.Traced S (Bank.Reply S)} (h : b.serve instruction.request = .ok (answer, b')) :
    b'.reads = b.reads := by
  cases instruction with
  | write tape value => exact reads_of_serve_on (.write value) h
  | move tape direction => exact reads_of_serve_on (.move direction) h

/-! ## Instructions -/

/-- The machines differ in their tapes at most, and no tape was read. -/
structure Machine.Unread (m m' : Machine I O W) : Prop where
  same : m.SameButTapes m'
  inputs_eq : m'.inputs.reads = m.inputs.reads
  outputs_eq : m'.outputs.reads = m.outputs.reads

theorem Machine.Unread.refl (m : Machine I O W) : m.Unread m := ⟨.refl m, rfl, rfl⟩

theorem Machine.Unread.trans {m₁ m₂ m₃ : Machine I O W} (h : m₁.Unread m₂) (h' : m₂.Unread m₃) :
    m₁.Unread m₃ :=
  ⟨h.same.trans h'.same, h'.inputs_eq.trans h.inputs_eq, h'.outputs_eq.trans h.outputs_eq⟩

namespace Session

theorem unread_of_serveInput [BEq I] (i : Instruction I) (s : Session I O W) :
    s.machine.Unread (serveInput i.request s).2.machine := by
  have same : s.machine.SameButTapes (serveInput i.request s).2.machine := onInputs_sameButTapes _ s
  cases h : serveInput i.request s with
  | mk result s' =>
    rw [h] at same
    rcases onInputs_cases h with ⟨e, -, -, rfl⟩ | ⟨a, event, bank, hb, -, hm, -⟩
    · exact .refl _
    · exact ⟨same, by rw [hm]; exact Bank.reads_of_instruction hb, by rw [hm]⟩

theorem unread_of_serveOutput [BEq O] (i : Instruction O) (s : Session I O W) :
    s.machine.Unread (serveOutput i.request s).2.machine := by
  have same : s.machine.SameButTapes (serveOutput i.request s).2.machine :=
    onOutputs_sameButTapes _ s
  cases h : serveOutput i.request s with
  | mk result s' =>
    rw [h] at same
    rcases onOutputs_cases h with ⟨e, -, -, rfl⟩ | ⟨a, event, bank, hb, -, hm, -⟩
    · exact .refl _
    · exact ⟨same, by rw [hm], by rw [hm]; exact Bank.reads_of_instruction hb⟩

/-- Between the sessions the machine has changed in its tapes at most, and no tape was read. -/
def Unread (s s' : Session I O W) : Prop := s.machine.Unread s'.machine

end Session

variable [BEq I] [BEq O]

/-- Plain instructions read nothing and take no transition, whether they succeed or fail. -/
theorem Op.plain_perform_unread (invoke : Invocation I O W) :
    ∀ {op : Op I O W}, op.plain = true → (op.perform invoke).Along Session.Unread
  | .input i, _ =>
    (Run.Along.ofAttempt (Session.unread_of_serveInput i)).bind .trans fun _ =>
      .pure (fun _ => .refl _) ()
  | .output i, _ =>
    (Run.Along.ofAttempt (Session.unread_of_serveOutput i)).bind .trans fun _ =>
      .pure (fun _ => .refl _) ()
  | .andThen first second, plain => by
    obtain ⟨hf, hs⟩ := Bool.and_eq_true_iff.1 plain
    exact (plain_perform_unread invoke hf).bind .trans fun _ => plain_perform_unread invoke hs
  | .custom _, plain => nomatch plain

theorem Session.performAll_unread (invoke : Invocation I O W) {ops : List (Op I O W)}
    (plain : ∀ op ∈ ops, op.plain = true) : (performAll (Op.perform invoke) ops).Along Unread := by
  induction ops with
  | nil => exact .pure (fun _ => .refl _) ()
  | cons op rest ih =>
    obtain ⟨hop, hrest⟩ := List.forall_mem_cons.1 plain
    exact (Op.plain_perform_unread invoke hop).bind .trans fun _ => ih hrest

/-! ## One action -/

/-- From one machine to the other so many reads of input tapes and so many transitions were counted,
and no read of an output tape. -/
structure Machine.Counts (reads transitions : Nat) (m m' : Machine I O W) : Prop where
  reads_eq : m'.inputs.reads = m.inputs.reads + reads
  outputs_eq : m'.outputs.reads = m.outputs.reads
  transitions_eq : m'.counters.transitions = m.counters.transitions + transitions

namespace Machine

omit [BEq I] [BEq O]

variable {m m₁ m₂ : Machine I O W} {reads reads' transitions transitions' : Nat}

theorem Counts.refl (m : Machine I O W) : m.Counts 0 0 m := ⟨rfl, rfl, rfl⟩

theorem Counts.trans (h : m.Counts reads transitions m₁) (h' : m₁.Counts reads' transitions' m₂) :
    m.Counts (reads + reads') (transitions + transitions') m₂ where
  reads_eq := by rw [h'.reads_eq, h.reads_eq, Nat.add_assoc]
  outputs_eq := h'.outputs_eq.trans h.outputs_eq
  transitions_eq := by rw [h'.transitions_eq, h.transitions_eq, Nat.add_assoc]

theorem Unread.counts (h : m.Unread m₁) : m.Counts 0 0 m₁ :=
  ⟨h.inputs_eq, h.outputs_eq, by rw [h.same.counters_eq]; rfl⟩

theorem Counts.moved (m : Machine I O W) (registry : Registry (Action I O W)) :
    m.Counts 0 1 (m.moved registry) := ⟨rfl, rfl, rfl⟩

end Machine

omit [BEq I] [BEq O] in
/-- A read is counted once in the bank, and it is all that happens to the machine; a read that fails
is not counted. -/
theorem Session.readInput_counts {s s' : Session I O W} {result : Except MachineError I}
    (h : readInput none s = (result, s')) :
    s.machine.SameButTapes s'.machine ∧
      ((∃ e, result = .error e) ∧ s' = s ∨ (∃ v, result = .ok v) ∧
        s.machine.Counts 1 0 s'.machine) := by
  have same : s.machine.SameButTapes s'.machine := by
    have := readInput_sameButTapes none s
    rwa [h] at this
  refine ⟨same, ?_⟩
  rcases onInputs_cases h with ⟨e, -, rfl, rfl⟩ | ⟨v, event, bank, hb, rfl, hm, -⟩
  · exact .inl ⟨⟨e, rfl⟩, rfl⟩
  · refine .inr ⟨⟨v, rfl⟩, ?_, by rw [hm], by rw [same.counters_eq]; rfl⟩
    obtain ⟨⟨read, bank'⟩, hr, he⟩ := exists_of_map_eq_ok hb
    cases he
    obtain ⟨t, t', ht, hw, rfl⟩ := Bank.update_eq_ok_iff.1 hr
    rw [hm]
    refine Bank.reads_put ht ?_
    split at hw
    · cases hw
    · next hread =>
      cases hw
      rw [(Tape.read_eq_ok_iff.1 hread).2]

/-- What an action counts that begins with a read, by the way it ends. If it fails or halts, the
current state stays; if it goes on, a dispatch is bound to the current state. -/
inductive Session.Acts (s : Session I O W) :
    Except MachineError (Transition (Action I O W)) → Session I O W → Prop
  | unread {e : MachineError} {s' : Session I O W} (read : ∃ e, (readInput none s).1 = .error e)
      (counts : s.machine.Counts 0 0 s'.machine)
      (current : s'.machine.registry.current = s.machine.registry.current) : Acts s (.error e) s'
  | failed {e : MachineError} {s' : Session I O W} (read : ∃ v, (readInput none s).1 = .ok v)
      (counts : s.machine.Counts 1 0 s'.machine)
      (current : s'.machine.registry.current = s.machine.registry.current) : Acts s (.error e) s'
  | halted {s' : Session I O W} (counts : s.machine.Counts 1 1 s'.machine)
      (current : s'.machine.registry.current = s.machine.registry.current) : Acts s (.ok .halt) s'
  | entered {s' : Session I O W} (counts : s.machine.Counts 1 1 s'.machine)
      (bound : s'.machine.registry.get? s'.machine.registry.current = some .dispatch) :
      Acts s (.ok (.enter .dispatch)) s'

namespace Machine.Ruled

variable {inputs outputs : List Nat} {s s' : Session I O W}

/-- A branch ends with the transition that it counts, or fails and counts none. -/
theorem runBranch_acts (ruled : s.machine.Ruled inputs outputs) {origin : Session I O W}
    (read : ∃ v, (Session.readInput none origin).1 = .ok v)
    (counts : origin.machine.Counts 1 0 s.machine)
    (current : s.machine.registry.current = origin.machine.registry.current)
    {invoke : Invocation I O W} {branch : Branch (Op I O W)}
    (within : ∀ op ∈ branch.ops, op.Within inputs outputs)
    {result : Except MachineError (Transition (Action I O W))}
    (h : Session.runBranch (Op.perform invoke) branch s = some (result, s')) :
    origin.Acts result s' := by
  have ops := Session.performAll_unread invoke fun op hop => (within op hop).plain
  have frames := Session.performAll_frames invoke within s
  obtain ⟨performed, t, ht, framed⟩ := frames
  have unread : s.machine.Unread t.machine := ops s performed t ht
  have counts := counts.trans unread.counts
  have current : t.machine.registry.current = origin.machine.registry.current := by
    rw [unread.same.registry_eq, current]
  rw [Session.runBranch] at h
  cases performed with
  | error e =>
    rw [Run.bind_of_error ht] at h
    cases h
    exact .failed read counts current
  | ok _ =>
    rw [Run.bind_of_ok ht] at h
    have ruled := ruled.of_framed framed
    rcases Session.transitionTo_cases (Option.some.inj h) with
      ⟨e, state, -, -, rfl, rfl⟩ | ⟨-, rfl, rfl⟩ | ⟨state, action, -, hg, rfl, rfl⟩
    · exact .failed read counts current
    · refine .halted ?_ (by rw [Session.machine_recordTransition]; exact current)
      rw [Session.machine_recordTransition]
      exact counts.trans (.moved _ t.machine.registry)
    · cases ruled.bound hg
      refine .entered ?_ (by rw [Session.machine_recordTransition]; exact hg)
      rw [Session.machine_recordTransition]
      exact counts.trans (.moved _ (t.machine.registry.setCurrent state))

/-- What one action counts. -/
theorem eval_acts (ruled : s.machine.Ruled inputs outputs) {fuel : Nat}
    {result : Except MachineError (Transition (Action I O W))}
    (h : Action.eval fuel .dispatch s = some (result, s')) : s.Acts result s' := by
  cases fuel with
  | zero => cases h
  | succ fuel =>
    cases hs : Session.selectBranch s with
    | mk found t =>
      obtain ⟨read, hr, hfound⟩ := Session.selectBranch_cases hs
      obtain ⟨same, counts⟩ := Session.readInput_counts hr
      have current : t.machine.registry.current = s.machine.registry.current := by
        rw [same.registry_eq]
      have read_eq : (Session.readInput none s).1 = read := by rw [hr]
      cases found with
      | error e =>
        rw [Session.eval_dispatch_of_error hs] at h
        cases h
        rcases counts with ⟨refused, rfl⟩ | ⟨answered, counts⟩
        · exact .unread (read_eq ▸ refused) (.refl _) rfl
        · exact .failed (read_eq ▸ answered) counts current
      | ok branch =>
        rw [Session.eval_dispatch_of_ok hs] at h
        rcases counts with ⟨⟨e, rfl⟩, -⟩ | ⟨answered, counts⟩
        · -- without a symbol no branch is chosen
          rcases hfound with ⟨e', -, he⟩ | ⟨symbol, he, -⟩
          · cases he
          · cases he
        · obtain ⟨chosen, heval, within⟩ := ruled.exists_chosen hs
          cases fuel with
          | zero => cases h
          | succ f =>
            rw [heval] at h
            exact (ruled.of_framed (Session.framed_of_readInput hr)).runBranch_acts
              (read_eq ▸ answered) counts current within h

/-- After an action the machine is of the same rules. -/
theorem of_eval (ruled : s.machine.Ruled inputs outputs) {fuel : Nat}
    {result : Except MachineError (Transition (Action I O W))}
    (h : Action.eval fuel .dispatch s = some (result, s')) : s'.machine.Ruled inputs outputs := by
  obtain ⟨result', t, ht, framed, -⟩ := ruled.dispatch fuel
  have same := Action.eval_within (Nat.le_add_right fuel 2) .dispatch s _ h
  rw [ht] at same
  cases same
  exact ruled.of_framed framed

/-! ## So many actions -/

/-- While a run goes on, every action has read once and taken one transition, and the current state
is one whose action is a dispatch. -/
theorem counts_of_going (ruled : s.machine.Ruled inputs outputs) {fuel n : Nat}
    {next : Action I O W}
    (bound : s.machine.registry.get? s.machine.registry.current = some .dispatch)
    (h : Session.advance (Action.eval fuel) n .dispatch s = some (.going next s')) :
    next = .dispatch ∧ s.machine.Counts n n s'.machine ∧
      s'.machine.registry.get? s'.machine.registry.current = some .dispatch := by
  -- induction on the number of actions; the first one leads to a machine of the same rules
  induction n generalizing s with
  | zero =>
    cases h
    exact ⟨rfl, .refl _, bound⟩
  | succ n ih =>
    cases he : Action.eval fuel .dispatch s with
    | none =>
      rw [Session.advance_of_none he] at h
      cases h
    | some p =>
      obtain ⟨result, t⟩ := p
      cases ruled.eval_acts he with
      | unread =>
        rw [Session.advance_of_error he] at h
        cases h
      | failed =>
        rw [Session.advance_of_error he] at h
        cases h
      | halted =>
        rw [Session.advance_of_halt he] at h
        cases h
      | entered counts bound =>
        rw [Session.advance_of_enter he] at h
        obtain ⟨hnext, counts', bound'⟩ := ih (ruled.of_eval he) bound h
        rw [Nat.add_comm n 1]
        exact ⟨hnext, counts.trans counts', bound'⟩

/-- A run that ended went on up to some action, which was the last one. -/
theorem exists_last_of_ended (ruled : s.machine.Ruled inputs outputs) {fuel n : Nat}
    {result : Except MachineError Unit}
    (h : Session.advance (Action.eval fuel) n .dispatch s = some (.ended result s')) :
    ∃ k before, k < n ∧
      Session.advance (Action.eval fuel) k .dispatch s = some (.going .dispatch before) ∧
      Session.advance (Action.eval fuel) (k + 1) .dispatch s = some (.ended result s') ∧
      s'.machine.registry.current = before.machine.registry.current ∧
      ((result = .ok () ∧ before.machine.Counts 1 1 s'.machine) ∨
        (∃ e, result = .error e) ∧
          ((∃ e, (Session.readInput none before).1 = .error e) ∧
            before.machine.Counts 0 0 s'.machine ∨
            (∃ v, (Session.readInput none before).1 = .ok v) ∧
            before.machine.Counts 1 0 s'.machine)) := by
  induction n generalizing s with
  | zero => cases h
  | succ n ih =>
    cases he : Action.eval fuel .dispatch s with
    | none =>
      rw [Session.advance_of_none he] at h
      cases h
    | some p =>
      obtain ⟨last, t⟩ := p
      cases ruled.eval_acts he with
      | unread read counts current =>
        rw [Session.advance_of_error he] at h
        cases h
        exact ⟨0, s, Nat.succ_pos n, rfl, Session.advance_of_error he, current,
          .inr ⟨⟨_, rfl⟩, .inl ⟨read, counts⟩⟩⟩
      | failed read counts current =>
        rw [Session.advance_of_error he] at h
        cases h
        exact ⟨0, s, Nat.succ_pos n, rfl, Session.advance_of_error he, current,
          .inr ⟨⟨_, rfl⟩, .inr ⟨read, counts⟩⟩⟩
      | halted counts current =>
        rw [Session.advance_of_halt he] at h
        cases h
        exact ⟨0, s, Nat.succ_pos n, rfl, Session.advance_of_halt he, current, .inl ⟨rfl, counts⟩⟩
      | entered =>
        rw [Session.advance_of_enter he] at h
        obtain ⟨k, before, hk, hgoing, hended, hlast⟩ := ih (ruled.of_eval he) h
        exact ⟨k + 1, before, Nat.succ_lt_succ hk, (Session.advance_of_enter he).trans hgoing,
          (Session.advance_of_enter he).trans hended, hlast⟩

end Machine.Ruled

/-! ## Runs -/

/-- A run from a state to which something is bound begins with a dispatch, and nothing is counted
before. -/
theorem Machine.Ruled.exists_entered {inputs outputs : List Nat} {s : Session I O W}
    (ruled : s.machine.Ruled inputs outputs) {state : Int}
    (known : s.machine.registry.contains state = true) (fuel : Nat) :
    ∃ entered : Session I O W,
      (∀ n, Session.underway fuel n (.state state) s =
        Session.advance (Action.eval fuel) n .dispatch entered) ∧
      s.machine.Counts 0 0 entered.machine ∧ entered.machine.Ruled inputs outputs ∧
      entered.machine.registry.current = state ∧
      entered.machine.registry.get? entered.machine.registry.current = some .dispatch := by
  obtain ⟨action, hg⟩ := Option.isSome_iff_exists.1 known
  cases ruled.bound hg
  cases hb : Session.beginRun (.state state) s with
  | mk found entered =>
    rcases Session.beginRun_cases hb with ⟨e, missing, -, -⟩ | ⟨action, hg', rfl, rfl⟩
    · cases missing.symm.trans (Frame.lookup_eq_ok_iff.2 hg)
    · cases ruled.bound hg'
      have hm := Session.machine_entering state s
      refine ⟨Session.entering state s, fun n => by rw [Session.underway, hb]; rfl, ?_,
        ruled.of_framed ?_, ?_, ?_⟩
      · rw [hm]
        exact ⟨rfl, rfl, rfl⟩
      · rw [hm]
        exact .moved s.machine state s.machine.counters.transitions
      · rw [hm]
        rfl
      · rw [hm]
        exact hg

omit [BEq I] [BEq O] in
/-- The end of a run keeps its result; whether or not the tapes are reset, nothing is counted and
the current state stays. -/
theorem Session.finish_counts {A : Type} {result result' : Except MachineError Unit}
    {s final : Session I O W}
    (h : finish (.ended result' s : Standing A (Session I O W)) = some (result, final)) :
    result = result' ∧ s.machine.Counts 0 0 final.machine ∧
      final.machine.registry.current = s.machine.registry.current := by
  cases result' with
  | error e =>
    cases h
    exact ⟨rfl, .refl _, rfl⟩
  | ok _ =>
    have h : endRun s = (result, final) := Option.some.inj h
    rcases endRun_cases s with hs | hs
    · rw [hs] at h
      cases h
      exact ⟨rfl, .refl _, rfl⟩
    · rw [hs] at h
      have hm : final.machine = s.machine.wound := by rw [← machine_reset, h]
      cases h
      rw [hm]
      exact ⟨rfl, ⟨Bank.reads_reset _, Bank.reads_reset _, rfl⟩, rfl⟩

/-- Suppose a machine has come about in any way, every bound action dispatches, and the rules that
were built have only instructions that write and move, one after the other. Then a run from a state
to which something is bound that ends has invoked some number of actions, the first for that state.
Before each of them the run has read and taken a transition once for every action so far.
1. If the run ends well, there are as many reads and transitions as actions.
2. If it fails, there is one transition less; and there is one read less if the last action failed
   to read, and otherwise there are as many as actions.
3. No output tape was read, and the current state is the one that the last action was invoked
   for. -/
theorem Recorded.Arises.execute_counts {config : Config} {world : W} {r : Recorded I O W}
    {s final : Session I O W} (h : r.Arises (Session.fresh config world)) (hs : r.session = s)
    (bound : ∀ state action, s.machine.registry.get? state = some action → action = .dispatch)
    (plain : ∀ rule ∈ s.machine.builtRules, rule.plain = true) {state : Int}
    (known : s.machine.registry.contains state = true) {fuel : Nat}
    {result : Except MachineError Unit}
    (hrun : Session.execute fuel (.state state) s = some (result, final)) :
    ∃ invoked before, 0 < invoked ∧
      (∀ n < invoked, ∃ t, Session.underway fuel n (.state state) s = some (.going .dispatch t) ∧
        s.machine.Counts n n t.machine ∧
        t.machine.registry.get? t.machine.registry.current = some .dispatch ∧
        (n = 0 → t.machine.registry.current = state)) ∧
      Session.underway fuel (invoked - 1) (.state state) s = some (.going .dispatch before) ∧
      (∃ after, Session.underway fuel invoked (.state state) s = some (.ended result after)) ∧
      (result = .ok () →
        final.machine.counters.transitions = s.machine.counters.transitions + invoked ∧
        final.machine.statistics.inputTotals.reads =
          s.machine.statistics.inputTotals.reads + invoked) ∧
      (∀ e, result = .error e →
        final.machine.counters.transitions + 1 = s.machine.counters.transitions + invoked ∧
        ((∃ e, (Session.readInput none before).1 = .error e) ∧
            final.machine.statistics.inputTotals.reads + 1 =
              s.machine.statistics.inputTotals.reads + invoked ∨
          (∃ v, (Session.readInput none before).1 = .ok v) ∧
            final.machine.statistics.inputTotals.reads =
              s.machine.statistics.inputTotals.reads + invoked)) ∧
      final.machine.statistics.outputTotals.reads = s.machine.statistics.outputTotals.reads ∧
      final.machine.registry.current = before.machine.registry.current := by
  subst hs
  have tables : r.session.machine.TablesFromRules := h _ kept_tablesFromRules nofun
  have ruled := Machine.ruled_of_tablesFromRules tables bound plain
  obtain ⟨entered, under, count₀, ruled, current, bound⟩ := ruled.exists_entered known fuel
  rw [Session.execute_eq_underway, under] at hrun
  obtain ⟨x, hx, hfinish⟩ := Option.bind_eq_some_iff.1 hrun
  cases x with
  | going next t => cases hfinish
  | ended result' after =>
    obtain ⟨rfl, finished, stays⟩ := Session.finish_counts hfinish
    obtain ⟨k, before, -, hgoing, hended, stays', hlast⟩ := ruled.exists_last_of_ended hx
    have counts {n : Nat} {t : Session I O W}
        (ht : Session.advance (Action.eval fuel) n .dispatch entered = some (.going .dispatch t)) :
        r.session.machine.Counts n n t.machine := by
      obtain ⟨-, counted, -⟩ := ruled.counts_of_going bound ht
      have whole := count₀.trans counted
      rwa [Nat.zero_add] at whole
    refine ⟨k + 1, before, Nat.succ_pos k, fun n hn => ?_, (under k).trans hgoing,
      ⟨after, (under (k + 1)).trans hended⟩, ?_⟩
    · obtain ⟨next, t, ht⟩ := Session.exists_going_of_le hgoing (Nat.le_of_lt_succ hn)
      obtain ⟨rfl, -, bound'⟩ := ruled.counts_of_going bound ht
      refine ⟨t, (under n).trans ht, counts ht, bound', ?_⟩
      rintro rfl
      cases ht
      exact current
    · have stays := stays.trans stays'
      rcases hlast with ⟨rfl, last⟩ | ⟨⟨e, rfl⟩, ⟨read, last⟩ | ⟨read, last⟩⟩
      · have whole := ((counts hgoing).trans last).trans finished
        exact ⟨fun _ => ⟨whole.transitions_eq, whole.reads_eq⟩, nofun, whole.outputs_eq, stays⟩
      · have whole := ((counts hgoing).trans last).trans finished
        exact ⟨nofun, fun _ _ => ⟨congrArg (· + 1) whole.transitions_eq,
          .inl ⟨read, congrArg (· + 1) whole.reads_eq⟩⟩, whole.outputs_eq, stays⟩
      · have whole := ((counts hgoing).trans last).trans finished
        exact ⟨nofun,
          fun _ _ => ⟨congrArg (· + 1) whole.transitions_eq, .inr ⟨read, whole.reads_eq⟩⟩,
          whole.outputs_eq, stays⟩

/-- A rule goes on over the cells of the tape and adds one, and then misses and leads to a state
that nobody knows: three actions read three times and take two transitions. -/
theorem Recorded.Arises.execute_counts_of_failed_run :
    ∃ (s final : Session Bool Bool Unit) (e : MachineError), s.machine.registry.contains 0 = true ∧
      Session.execute 5 (.state 0) s = some (.error e, final) ∧
      ∃ invoked before, invoked = 3 ∧
        Session.underway 5 (invoked - 1) (.state 0) s = some (.going .dispatch before) ∧
        final.machine.counters.transitions + 1 = s.machine.counters.transitions + invoked ∧
        final.machine.statistics.inputTotals.reads =
          s.machine.statistics.inputTotals.reads + invoked ∧
        final.machine.registry.current = before.machine.registry.current := by
  let rule : Rule Bool (Op Bool Bool Unit) :=
    { state := 0, read := true, moves := some (.moveInput .left), next := some 0,
      fallbackNext := some 7 }
  let calls : List (Machine.Call Bool Bool Unit) :=
    [.declare rule, .build, .input .add, .input (.setBlank false),
      .input (.load none (.ofList [true, true]) none)]
  let s : Session Bool Bool Unit :=
    { machine :=
        { inputs := { tapes := ⟨[{ storage := .ofList [true, true] }]⟩, blank := some false }
          registry := { bindings := [(0, .dispatch)] }
          rules := ⟨[rule]⟩
          tables := ⟨[⟨0, [rule.entry]⟩]⟩
          counters := ⟨1, 1, 1, 0⟩ }
      world := () }
  have made : ∃ record, Recorded.serveAll 1 calls ⟨Session.fresh {} (), []⟩ =
      some ⟨s, record⟩ := ⟨_, rfl⟩
  obtain ⟨record, hr⟩ := made
  have arises : Recorded.Arises (Session.fresh {} ()) ⟨s, record⟩ :=
    (throughout_of_reached (Recorded.Reached.start.serveAll (fun _ _ => trivial) hr)).1
  have bound (state : Int) (action : Action Bool Bool Unit)
    (hg : s.machine.registry.get? state = some action) :
      action = .dispatch := by
    obtain ⟨binding, hf, rfl⟩ := Option.map_eq_some_iff.1 hg
    rw [List.mem_singleton.1 (List.mem_of_find?_eq_some hf)]
  have plain : ∀ rule' ∈ s.machine.builtRules, rule'.plain = true := List.forall_mem_singleton.2 rfl
  have run : (Session.execute 5 (.state 0) s).map (fun p =>
      (p.1.toOption.isNone, p.2.machine.counters.transitions,
        p.2.machine.statistics.inputTotals.reads)) =
      some (true, 2, 3) := by
    decide +kernel
  obtain ⟨⟨result, final⟩, hr, hfacts⟩ := Option.map_eq_some_iff.1 run
  simp only [Prod.mk.injEq] at hfacts
  obtain ⟨failed, transitions, reads⟩ := hfacts
  cases result with
  | ok _ => cases failed
  | error e =>
    obtain ⟨invoked, before, -, -, going, -, -, counted, -, current⟩ :=
      arises.execute_counts rfl bound plain rfl hr
    obtain ⟨moved, -⟩ := counted e rfl
    have three : invoked = 3 := by
      rw [transitions, show s.machine.counters.transitions = 0 from rfl] at moved
      omega
    refine ⟨s, final, e, rfl, hr, invoked, before, three, going, moved, ?_, current⟩
    rw [reads, three]
    rfl

end TapeMachine
