import TapeMachine.Programs.AbcAcceptor
import TapeMachine.Proofs.Programs.PrefixAcceptor

/-!
# An acceptor that forgets

The acceptor without rules keeps its machine from one check to the next. A check that read a verdict
resets it; a check that failed did so before anything was written. So every check starts where the
first one did, and its answer is the one that an acceptor built from rules gives on a fresh machine.

Results:
1. `ends_advance`, `exists_execute`: what the four states make of a text.
2. `Idle`, `exists_start`, `Idle.exists_check`: the machine between two checks, and one check;
   `exists_program`: all the checks of the program.
3. `Checked.check_agrees`: the same after any number of checks.
-/

namespace TapeMachine.Programs.AbcAcceptor

open Session PrefixAcceptor

/-- The answer of a check: whether the text starts with "abc". A text without symbols has no cell to
read. -/
def answer (text : String) : Except MachineError Bool :=
  if text = "" then .error (.staleHead 0 0) else .ok (decide ("abc".toList <+: text.toList))

/-! ## Texts as cells -/

theorem cells_eq_nil_iff {text : String} : cells text = [] ↔ text = "" := by
  rw [cells, List.map_eq_nil_iff, String.toList_eq_nil_iff]

/-- The cells match "abc" as a whole if the text starts with it. -/
theorem matched_cells (text : String) :
    (matched "" (cells text) 0 (cells "abc") == (cells "abc").length) =
      decide ("abc".toList <+: text.toList) := by
  have solid : "" ∉ cells "abc" := by decide
  have injective : Function.Injective String.singleton := fun _ _ => String.singleton_inj.1
  rw [Bool.eq_iff_iff, beq_iff_eq, decide_eq_true_iff, matched_eq_length_iff solid,
    List.drop_zero, cells, cells, List.prefix_map_iff_of_injective injective]

/-! ## The layout -/

/-- The machine with its blanks. -/
def blanks (config : Config) : Machine String Bool Unit where
  config := { config with resetAfterExecution := false }
  inputs := { blank := some "" }
  outputs := { blank := some false }

/-- The machine with its four states bound, before it has tapes. -/
def laidDown (config : Config) : Machine String Bool Unit :=
  ((((blanks config).bound defaultState (expecting "a" (advance afterA))).bound afterA
    (expecting "b" (advance afterB))).bound afterB (expecting "c" (verdict true))).bound reject
      (verdict false)

/-- What the acceptor leaves alone. -/
def layout (config : Config) : Layout String Bool Unit where
  machine := laidDown config
  inputBlank := ""
  outputBlank := false
  outputSnapshot := .ofList [false]

variable {config : Config} {row : List String} {state : Int} {position f n : Nat} {s : State}

/-! ## One action -/

/-- Each state reads a symbol and goes on by whether it is the expected one. -/
theorem exists_eval_expecting (f : Nat) (symbol : String) (yes : Action String Bool Unit)
    (h : s.Scans (layout config) row state position false) :
    ∃ s', Action.eval (f + 1) (expecting symbol yes) s =
        Action.eval (f + 1)
          (if symbol == row[position]?.getD "" then yes else .follow (.goTo (some reject))) s' ∧
      s'.Scans (layout config) row state position false := by
  obtain ⟨s', hr, hs'⟩ := h.eval_onInput f
    fun read => if read == symbol then yes else .follow (.goTo (some reject))
  rw [BEq.comm] at hr
  exact ⟨s', hr, hs'⟩

/-- Reading the expected symbol leads on. -/
theorem exists_eval_of_match (f : Nat) {symbol : String} {other : Int}
    {action : Action String Bool Unit}
    (bound : (layout config).machine.registry.get? other = some action)
    (h : s.Scans (layout config) row state position false)
    (hc : (symbol == row[position]?.getD "") = true) :
    ∃ s', Action.eval (f + 1) (expecting symbol (advance other)) s =
      some (.ok (.enter action), s') ∧
      s'.Scans (layout config) row other (position + 1) false := by
  obtain ⟨s₁, hr, hs₁⟩ := exists_eval_expecting f symbol (advance other) h
  obtain ⟨s₂, hm, hs₂⟩ := hs₁.eval_moveLeft f (.follow (.goTo (some other)))
  obtain ⟨s', he, hs'⟩ := hs₂.eval_goTo f bound
  rw [if_pos hc] at hr
  exact ⟨s', hr.trans (hm.trans he), hs'⟩

/-- Reading another symbol leads to the rejection. -/
theorem exists_eval_of_miss (f : Nat) {symbol : String} (yes : Action String Bool Unit)
    (h : s.Scans (layout config) row state position false)
    (hc : (symbol == row[position]?.getD "") = false) :
    ∃ s', Action.eval (f + 1) (expecting symbol yes) s = some (.ok (.enter (verdict false)), s') ∧
      s'.Scans (layout config) row reject position false := by
  obtain ⟨s₁, hr, hs₁⟩ := exists_eval_expecting f symbol yes h
  have bound : (layout config).machine.registry.get? reject = some (verdict false) := rfl
  obtain ⟨s', he, hs'⟩ := hs₁.eval_goTo f bound
  rw [if_neg (Bool.eq_false_iff.1 hc)] at hr
  exact ⟨s', hr.trans he, hs'⟩

/-- The last expected symbol leads to the acceptance. -/
theorem exists_eval_of_last (f : Nat) {symbol : String}
    (h : s.Scans (layout config) row state position false)
    (hc : (symbol == row[position]?.getD "") = true) :
    ∃ s', Action.eval (f + 1) (expecting symbol (verdict true)) s = some (.ok .halt, s') ∧
      s'.Scans (layout config) row state position true := by
  obtain ⟨s₁, hr, hs₁⟩ := exists_eval_expecting f symbol (verdict true) h
  obtain ⟨s', hv, hs'⟩ := hs₁.eval_verdict f true
  rw [if_pos hc] at hr
  exact ⟨s', hr.trans hv, hs'⟩

/-! ## All actions -/

/-- The run ended with a verdict. -/
def Ends (config : Config) (row : List String) (accepted : Bool)
    (x : Option (Standing (Action String Bool Unit) State)) : Prop :=
  ∃ s state position, x = some (.ended (.ok ()) s) ∧
    s.Scans (layout config) row state position accepted

theorem ends_of_miss {symbol : String} {yes : Action String Bool Unit}
    (h : s.Scans (layout config) row state position false)
    (hc : (symbol == row[position]?.getD "") = false) :
    Ends config row false
      (Session.advance (Action.eval (f + 1)) (n + 2) (expecting symbol yes) s) := by
  obtain ⟨s₁, he, hs₁⟩ := exists_eval_of_miss f yes h hc
  obtain ⟨s', hv, hs'⟩ := hs₁.eval_verdict f false
  exact ⟨s', reject, position, (advance_of_enter he).trans (advance_of_halt hv), hs'⟩

theorem Ends.of_enter {invoke : Invocation String Bool Unit} {action next : Action String Bool Unit}
    {s' : State} {accepted : Bool} (he : invoke action s = some (.ok (.enter next), s'))
    (h : Ends config row accepted (Session.advance invoke n next s')) :
    Ends config row accepted (Session.advance invoke (n + 1) action s) := by
  rwa [advance_of_enter he]

theorem matched_abc (row : List String) : (matched "" row 0 ["a", "b", "c"] == 3) =
    ("a" == row[0]?.getD "" && ("b" == row[1]?.getD "" && "c" == row[2]?.getD "")) := by
  simp only [matched, Nat.zero_add, Nat.reduceAdd]
  cases "a" == row[0]?.getD "" <;> cases "b" == row[1]?.getD "" <;>
    cases "c" == row[2]?.getD "" <;> rfl

/-- From the default state the run ends with the verdict on the row. -/
theorem ends_advance (f n : Nat) (h : s.Scans (layout config) row state 0 false) :
    Ends config row (matched "" row 0 ["a", "b", "c"] == 3)
      (Session.advance (Action.eval (f + 1)) (n + 4) (expecting "a" (advance afterA)) s) := by
  have boundA : (layout config).machine.registry.get? afterA =
      some (expecting "b" (advance afterB)) := rfl
  have boundB : (layout config).machine.registry.get? afterB =
      some (expecting "c" (verdict true)) := rfl
  rw [matched_abc]
  cases ha : "a" == row[0]?.getD "" with
  | false => exact ends_of_miss h ha
  | true =>
    obtain ⟨s₁, he₁, hs₁⟩ := exists_eval_of_match f boundA h ha
    refine .of_enter he₁ ?_
    cases hb : "b" == row[1]?.getD "" with
    | false => exact ends_of_miss hs₁ hb
    | true =>
      obtain ⟨s₂, he₂, hs₂⟩ := exists_eval_of_match f boundB hs₁ hb
      refine .of_enter he₂ ?_
      cases hc : "c" == row[2]?.getD "" with
      | false => exact ends_of_miss hs₂ hc
      | true =>
        obtain ⟨s', hv, hs'⟩ := exists_eval_of_last f hs₂ hc
        exact ⟨s', afterB, _, advance_of_halt hv, hs'⟩

/-- A run begins in the default state, whatever state the last one ended in, and leaves the
verdict. -/
theorem exists_execute (f : Nat) {text : String} {t : Tape String} {o : Tape Bool}
    (h : s.LaidOut (layout config) state t o) (hr : t.Reaches "" (cells text) 0)
    (ho : o.IsCell false) :
    ∃ s' state' t' o', Session.execute (f + 4) .default s = some (.ok (), s') ∧
      s'.LaidOut (layout config) state' t' o' ∧
      o'.IsCell (decide ("abc".toList <+: text.toList)) := by
  have bound : (layout config).machine.registry.get? defaultState =
      some (expecting "a" (advance afterA)) := rfl
  obtain ⟨s₁, hbegin, hl₁⟩ := h.beginRun .default h.default_eq bound
  obtain ⟨s', state', position, hadvance, t', o', hl', -, ho'⟩ :=
    ends_advance (f + 3) f ⟨t, o, hl₁, hr, ho⟩
  have hverdict : (matched "" (cells text) 0 ["a", "b", "c"] == 3) = _ := matched_cells text
  rw [hverdict] at ho'
  exact ⟨s', state', t', o',
    execute_of_ended hbegin hadvance (by rw [hl'.config_eq]; rfl), hl', ho'⟩

/-- If the first cell cannot be read, nothing is written. -/
theorem exists_execute_of_error (f : Nat) {t : Tape String} {o : Tape Bool} {e : MachineError}
    (h : s.LaidOut (layout config) state t o) (hread : t.read = .error e) :
    ∃ s', Session.execute (f + 4) .default s = some (.error e, s') ∧
      s'.LaidOut (layout config) defaultState t o := by
  have bound : (layout config).machine.registry.get? defaultState =
      some (expecting "a" (advance afterA)) := rfl
  obtain ⟨s', hbegin, hl'⟩ := h.beginRun .default h.default_eq bound
  have hfail : Action.eval (f + 4) (expecting "a" (advance afterA)) s' = some (.error e, s') :=
    hl'.eval_onInput_of_error (f + 3) _ hread
  exact ⟨s', execute_of_ended hbegin (advance_of_error hfail) (by rw [hl'.config_eq]; rfl), hl'⟩

/-! ## Between two checks -/

/-- The input tape is empty, the output tape has its one cell, and both heads are at the front. -/
def Idle (config : Config) (s : State) : Prop :=
  ∃ t o state, s.LaidOut (layout config) state t o ∧ t.storage.toList = [] ∧ t.head = 0 ∧
    o.IsCell false

/-- Adding the tapes changes nothing but the banks. -/
theorem exists_addTapes {s : State} {b : String} {c : Bool}
    (hi : s.machine.inputs = { blank := some b }) (ho : s.machine.outputs = { blank := some c }) :
    ∃ s', (do
        let _ ← Session.serveInput .add
        let _ ← Session.serveOutput .add
        let _ ← Session.serveOutput (.load none (.ofList [false]) none)
        let _ ← Session.serveOutput (.setSnapshot none (.ofList [false]))
        return () : Attempt State Unit) s = (.ok (), s') ∧
      s'.machine =
        { s.machine with
          inputs := .single {} b
          outputs := .single { storage := .ofList [false], snapshot := .ofList [false] } c } := by
  obtain ⟨⟨config, inputs, outputs, registry, rules, tables, counters⟩, observed, events,
    log, world⟩ := s
  cases hi
  cases ho
  exact ⟨_, rfl, rfl⟩

theorem exists_start (config : Config) : ∃ s, start config = (.ok (), s) ∧ Idle config s := by
  let bound := bindAction reject (verdict false) <| Prod.snd <|
    bindAction afterB (expecting "c" (verdict true)) <| Prod.snd <|
    bindAction afterA (expecting "b" (advance afterB)) <| Prod.snd <|
    bindAction defaultState
      (expecting "a" (advance afterA)) { machine := blanks config, world := () }
  have hbound : bound.2.machine = laidDown config := by
    rw [machine_bindAction, machine_bindAction, machine_bindAction, machine_bindAction]
    rfl
  obtain ⟨s, hs, hm⟩ :=
    exists_addTapes (s := bound.2) (b := "") (c := false) (by rw [hbound]; rfl)
      (by rw [hbound]; rfl)
  rw [hbound] at hm
  refine ⟨s, ?_, _, _, _, LaidOut.of_machine_eq hm, rfl, rfl, rfl, rfl⟩
  exact hs

/-- Reading the verdict and resetting the machine makes it idle. -/
theorem exists_finish (text : String) {t : Tape String} {o : Tape Bool} {accepted : Bool}
    (h : s.LaidOut (layout config) state t o) (ho : o.IsCell accepted) :
    ∃ s', AbcAcceptor.finish text s = (.ok accepted, s') ∧ Idle config s' := by
  let entry : LogEntry String Bool := .conclusion "handwritten acceptor finished"
    [("input", Text.quoted text), ("accepted", toString accepted)]
  obtain ⟨s', hreset, hl'⟩ := (h.conclude entry).reset
  refine ⟨s', ?_, _, _, _, hl', ?_, rfl, ?_, rfl⟩
  · exact (Attempt.bind_of_ok (outputCell_eq h ho)).trans <| (Attempt.bind_of_ok rfl).trans <|
      (Attempt.bind_of_ok hreset)
  · rw [Tape.reset, h.inputSnapshot_eq]
    rfl
  · rw [Tape.reset, h.outputSnapshot_eq]
    rfl

/-- A check of an idle acceptor is answered, and the acceptor is idle again. -/
theorem Idle.exists_check {s : State} (h : Idle config s) (text : String) {fuel : Nat}
    (enough : 4 ≤ fuel) :
    ∃ s', check fuel text s = some (answer text, s') ∧ Idle config s' := by
  obtain ⟨t, o, state, hl, ht, hh, ho⟩ := h
  obtain ⟨fuel, rfl⟩ := Nat.exists_eq_add_of_le' enough
  obtain ⟨s₁, hload, hl₁⟩ := hl.loadInput (sequence text) 0
  have hloaded : AbcAcceptor.load text s = (.ok (), s₁) := Attempt.bind_of_ok hload
  by_cases empty : text = ""
  · subst empty
    have hread : (t.load (sequence "") (some 0)).read = .error (.staleHead 0 0) :=
      Tape.read_of_le (Nat.zero_le 0)
    obtain ⟨s', hexecute, hl'⟩ := exists_execute_of_error fuel hl₁ hread
    refine ⟨s', ?_, _, o, _, hl', rfl, rfl, ho⟩
    exact (Run.bind_of_ok (congrArg some hloaded)).trans (Run.bind_of_error hexecute)
  · have inside : 0 < (cells text).length := by
      rw [List.length_pos_iff, Ne, cells_eq_nil_iff]
      exact empty
    have hr : (t.load (sequence text) (some 0)).Reaches "" (cells text) 0 :=
      .start (Sequence.toList_ofList _) rfl inside
    obtain ⟨s₂, state', t', o', hexecute, hl₂, ho'⟩ := exists_execute fuel hl₁ hr ho
    obtain ⟨s', hfinish, hidle⟩ := exists_finish text hl₂ ho'
    refine ⟨s', ?_, hidle⟩
    rw [answer, if_neg empty]
    exact (Run.bind_of_ok (congrArg some hloaded)).trans <|
      (Run.bind_of_ok hexecute).trans (congrArg some hfinish)

/-! ## Checks one after the other -/

/-- The answers to checks one after the other, up to the first failure. -/
def answers : List String → Except MachineError (List (String × Bool))
  | [] => .ok []
  | text :: rest => do
    let accepted ← answer text
    let others ← answers rest
    return (text, accepted) :: others

theorem Idle.exists_checkAll {s : State} (h : Idle config s) (texts : List String) {fuel : Nat}
    (enough : 4 ≤ fuel) :
    ∃ s', checkAll fuel texts s = some (answers texts, s') := by
  induction texts generalizing s with
  | nil => exact ⟨s, rfl⟩
  | cons text rest ih =>
    obtain ⟨s₁, hcheck, idle⟩ := h.exists_check text enough
    rw [answers, checkAll]
    cases hanswer : answer text with
    | error e =>
      rw [hanswer] at hcheck
      exact ⟨s₁, Run.bind_of_error hcheck⟩
    | ok accepted =>
      rw [hanswer] at hcheck
      obtain ⟨s', hrest⟩ := ih idle
      refine ⟨s', (Run.bind_of_ok hcheck).trans ?_⟩
      cases hanswers : answers rest with
      | error e =>
        rw [hanswers] at hrest
        exact Run.bind_of_error hrest
      | ok others =>
        rw [hanswers] at hrest
        exact Run.bind_of_ok hrest

/-- The program answers the texts alike under every configuration. -/
theorem exists_program (config : Config) (texts : List String) {fuel : Nat} (enough : 4 ≤ fuel) :
    ∃ log, run { config with resetAfterExecution := false } (program fuel texts) =
      some ⟨answers texts, log⟩ := by
  obtain ⟨s, hstart, idle⟩ := exists_start config
  obtain ⟨s', hchecks⟩ := idle.exists_checkAll texts enough
  exact exists_run (s := s') ((Run.bind_of_ok (congrArg some hstart)).trans hchecks)

/-! ## After any number of checks -/

/-- The acceptor after some checks, whatever each of them was answered with. -/
inductive Checked (config : Config) : State → Prop
  | fresh : Checked config (start config).2
  | after {s s' : State} {fuel : Nat} {text : String} {result : Except MachineError Bool} :
      Checked config s → check fuel text s = some (result, s') → Checked config s'

/-- More fuel does not change the answer to a check. -/
theorem check_within {n m : Nat} (le : n ≤ m) (text : String) :
    (check n text).Within (check m text) :=
  (Run.Within.refl _).bind fun _ => (execute_within le .default).bind fun _ => Run.Within.refl _

/-- A check leaves an idle acceptor idle, however little fuel it was followed with. -/
theorem Idle.after {s s' : State} (h : Idle config s) {fuel : Nat} {text : String}
    {result : Except MachineError Bool} (hc : check fuel text s = some (result, s')) :
    Idle config s' := by
  obtain ⟨s'', hs'', hidle⟩ := h.exists_check text (Nat.le_max_right fuel 4)
  have hmore := check_within (Nat.le_max_left fuel 4) text _ _ hc
  rw [hs''] at hmore
  cases hmore
  exact hidle

theorem Checked.idle {s : State} (h : Checked config s) : Idle config s := by
  induction h with
  | fresh =>
    obtain ⟨s, hs, hidle⟩ := exists_start config
    rw [hs]
    exact hidle
  | after _ hc idle => exact idle.after hc

/-- The active tapes of an idle acceptor. -/
theorem Idle.tapes {s : State} (h : Idle config s) :
    ∃ input output, s.machine.inputTape none = .ok input ∧ input.storage.toList = [] ∧
      input.head = 0 ∧
      s.machine.outputTape none = .ok output ∧ output.storage.toList = [false] ∧
      output.head = 0 := by
  obtain ⟨t, o, state, hl, ht, hh, ho⟩ := h
  refine ⟨t, o, ?_, ht, hh, ?_, ho.toList_eq, ho.head_eq⟩
  · rw [Frame.inputTape, hl.inputs_eq]
    rfl
  · rw [Frame.outputTape, hl.outputs_eq]
    rfl

/-- An acceptor built from rules gives the same answer on a fresh machine. -/
theorem exists_accept_abc (config : Config) (text : String) {fuel : Nat} (enough : 4 ≤ fuel) :
    ∃ result log, accept fuel config 0 (sequence text) (cells "abc") = some ⟨result, log⟩ ∧
      result.map Acceptance.accepted = answer text := by
  have ne : cells "abc" ≠ [] := nofun
  have count : (sequence text).count = (cells text).length := by
    rw [← Sequence.length_toList, sequence, Sequence.toList_ofList]
  by_cases empty : text = ""
  · subst empty
    have stale : ∃ log, accept fuel config 0 (sequence "") (cells "abc") =
        some ⟨.error (.staleHead 0 0), log⟩ :=
      exists_accept_of_stale ne (Nat.le_refl 0) (Nat.le_trans (by decide) enough)
    obtain ⟨log, hlog⟩ := stale
    exact ⟨_, log, hlog, rfl⟩
  · have live : 0 < (sequence text).count := by
      rw [count, List.length_pos_iff, Ne, cells_eq_nil_iff]
      exact empty
    have accepted : ∃ log, accept fuel config 0 (sequence text) (cells "abc") = some ⟨.ok _, log⟩ :=
      exists_accept ne live enough
    obtain ⟨log, hlog⟩ := accepted
    refine ⟨_, log, hlog, ?_⟩
    rw [answer, if_neg empty, ← matched_cells, sequence, Sequence.toList_ofList]
    rfl

/-- A fresh acceptor can be had for every configuration. After any number of checks, failed ones
among them, the next one is answered, and its answer depends on its text alone. It is what an
acceptor built from the rules for "abc" answers on a fresh machine of the same configuration, its
head aside. After the check the input tape is empty, the output tape has its one cell, which says
no, and both heads are at the front. -/
theorem Checked.check_agrees {config : Config} {s : State} (h : Checked config s) (text : String)
    {fuel : Nat} (enough : 4 ≤ fuel) :
    (start config).1 = .ok () ∧
    ∃ s', check fuel text s = some (answer text, s') ∧
      (∃ result log, accept fuel config 0 (sequence text) (cells "abc") = some ⟨result, log⟩ ∧
        result.map Acceptance.accepted = answer text) ∧
      ∃ input output, s'.machine.inputTape none = .ok input ∧ input.storage.toList = [] ∧
        input.head = 0 ∧
        s'.machine.outputTape none = .ok output ∧ output.storage.toList = [false] ∧
        output.head = 0 := by
  obtain ⟨_, hstart, -⟩ := exists_start config
  obtain ⟨s', hcheck, hidle⟩ := h.idle.exists_check text enough
  exact ⟨by rw [hstart], s', hcheck, exists_accept_abc config text enough, hidle.tapes⟩

/-- An acceptor that failed on an empty text goes on to accept, to reject and to fail again. -/
theorem Checked.check_agrees_after_failure :
    ∃ s₁ s₂ s₃ s₄, check 4 "" (start {}).2 = some (.error (.staleHead 0 0), s₁) ∧
      check 4 "abcd" s₁ = some (.ok true, s₂) ∧ check 4 "ab" s₂ = some (.ok false, s₃) ∧
      check 4 "" s₃ = some (.error (.staleHead 0 0), s₄) ∧ Checked {} s₃ := by
  have enough : 4 ≤ 4 := Nat.le_refl 4
  have h₀ : Checked {} (start {}).2 := .fresh
  obtain ⟨-, s₁, hs₁, -⟩ := Checked.check_agrees h₀ "" enough
  have h₁ : Checked {} s₁ := h₀.after hs₁
  obtain ⟨-, s₂, hs₂, -⟩ := Checked.check_agrees h₁ "abcd" enough
  have h₂ : Checked {} s₂ := h₁.after hs₂
  obtain ⟨-, s₃, hs₃, -⟩ := Checked.check_agrees h₂ "ab" enough
  have h₃ : Checked {} s₃ := h₂.after hs₃
  obtain ⟨-, s₄, hs₄, -⟩ := Checked.check_agrees h₃ "" enough
  exact ⟨s₁, s₂, s₃, s₄, hs₁, hs₂, hs₃, hs₄, h₃⟩

end TapeMachine.Programs.AbcAcceptor
