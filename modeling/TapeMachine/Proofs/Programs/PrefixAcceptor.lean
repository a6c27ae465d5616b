import TapeMachine.Programs.PrefixAcceptor
import TapeMachine.Proofs.Programs.OneTape

/-!
# The answers of an acceptor

An acceptor is a chain of one rule for each symbol of its target. Its run goes down the target and
along the cells at once, so what is left of the target says where it is and how it will end.

Results:
1. `rulesFor_rulesFrom`: each state of the chain has the one rule of its symbol.
2. `ends_advance`: from any state of the chain the run ends on the first cell that does not match,
   or behind the target.
3. `exists_accept`, `exists_accept_of_stale`, `exists_accept_nil`: the answers.
-/

namespace TapeMachine.Programs.PrefixAcceptor

open Session

variable {T : Type}

/-! ## Matching -/

/-- How many symbols at the front of a target match the cells from a position on, over blanks where
the cells end. -/
def matched [BEq T] (blank : T) (cells : List T) : Nat → List T → Nat
  | _, [] => 0
  | position, symbol :: rest =>
    if symbol == cells[position]?.getD blank then matched blank cells (position + 1) rest + 1 else 0

/-- A target without blanks matches as a whole exactly if the cells go on with it. -/
theorem matched_eq_length_iff [BEq T] [LawfulBEq T] {blank : T} {cells target : List T}
    {position : Nat} (solid : blank ∉ target) :
    matched blank cells position target = target.length ↔ target <+: cells.drop position := by
  induction target generalizing position with
  | nil => exact ⟨fun _ => List.nil_prefix, fun _ => rfl⟩
  | cons symbol rest ih =>
    have hsymbol : blank ≠ symbol := List.ne_of_not_mem_cons solid
    have hrest : blank ∉ rest := List.not_mem_of_not_mem_cons solid
    rw [matched]
    rcases Nat.lt_or_ge position cells.length with inside | beyond
    · rw [List.getElem?_eq_getElem inside, Option.getD_some, List.drop_eq_getElem_cons inside,
        List.cons_prefix_cons, ← ih hrest]
      split
      · rename_i heq
        simp only [eq_of_beq heq, true_and, List.length_cons, Nat.add_right_cancel_iff]
      · rename_i hne
        simp only [List.length_cons, Nat.zero_ne_add_one, false_iff, not_and]
        exact fun heq => (hne (beq_iff_eq.2 heq)).elim
    · -- behind the cells there are blanks, which the target does not have
      have hne : ¬(symbol == blank) = true := fun heq => hsymbol (eq_of_beq heq).symm
      rw [List.getElem?_eq_none beyond, Option.getD_none, if_neg hne, List.drop_of_length_le beyond,
        List.prefix_nil]
      exact ⟨nofun, nofun⟩

/-! ## The rules -/

/-- The rule for one symbol of a target: it leads to the next state, or to the verdict if no symbol
is left. -/
def ruleFor (index : Nat) (symbol : T) (rest : List T) : Rule T (Op T Bool Unit) :=
  let rule := Rule.otherwiseGoingTo { state := index, read := symbol } failure
  match rest with
  | [] => rule.goingTo success
  | _ :: _ => (rule.moving .left).goingTo (index + 1 : Nat)

theorem rulesFrom_cons (index : Nat) (symbol : T) (rest : List T) :
    rulesFrom index (symbol :: rest) = ruleFor index symbol rest :: rulesFrom (index + 1) rest := by
  cases rest <;> rfl

theorem state_ruleFor (index : Nat) (symbol : T) (rest : List T) :
    (ruleFor index symbol rest).state = index := by
  cases rest <;> rfl

theorem onMiss_ruleFor (index : Nat) (symbol : T) (rest : List T) :
    (ruleFor index symbol rest).onMiss = .follow (.goTo (some failure)) := by
  cases rest <;> rfl

theorem read_ruleFor (index : Nat) (symbol : T) (rest : List T) :
    (ruleFor index symbol rest).read = symbol := by
  cases rest <;> rfl

theorem le_state_of_mem {index : Nat} {target : List T} {rule : Rule T (Op T Bool Unit)}
    (h : rule ∈ rulesFrom index target) : (index : Int) ≤ rule.state := by
  induction target generalizing index with
  | nil => cases h
  | cons symbol rest ih =>
    rw [rulesFrom_cons] at h
    rcases List.mem_cons.1 h with rfl | h
    · exact Int.le_of_eq (state_ruleFor index symbol rest).symm
    · have := ih h
      omega

/-- The rules of a target. -/
def rules (target : List T) : RuleSet T (Op T Bool Unit) := ⟨rulesFrom 0 target⟩

/-- Each state of the chain has the one rule of its symbol. -/
theorem rulesFor_rulesFrom (index : Nat) (before : List T) (symbol : T) (rest : List T) :
    RuleSet.rulesFor ⟨rulesFrom index (before ++ symbol :: rest)⟩
      ((index + before.length : Nat) : Int) =
      [ruleFor (index + before.length) symbol rest] := by
  induction before generalizing index with
  | nil =>
    -- the rules after the first one are for later states
    have later : (rulesFrom (index + 1) rest).filter (·.state == (index : Int)) = [] := by
      refine List.filter_eq_nil_iff.2 fun rule hrule heq => ?_
      have := le_state_of_mem hrule
      have := eq_of_beq heq
      omega
    have first : ((ruleFor index symbol rest).state == (index : Int)) = true :=
      beq_iff_eq.2 (state_ruleFor index symbol rest)
    simp only [List.nil_append, List.length_nil, Nat.add_zero, RuleSet.rulesFor, rulesFrom_cons,
      List.filter_cons, first, ↓reduceIte, later]
  | cons head before ih =>
    have hindex : index + (before.length + 1) = index + 1 + before.length := by omega
    have other : ((ruleFor index head (before ++ symbol :: rest)).state ==
        ((index + 1 + before.length : Nat) : Int)) = false := by
      rw [state_ruleFor, beq_eq_false_iff_ne]
      omega
    simp only [List.cons_append, List.length_cons, hindex, RuleSet.rulesFor, rulesFrom_cons,
      List.filter_cons, other, Bool.false_eq_true, ↓reduceIte]
    exact ih (index + 1)

theorem rulesFor_rules (before : List T) (symbol : T) (rest : List T) :
    (rules (before ++ symbol :: rest)).rulesFor (before.length : Nat) =
      [ruleFor before.length symbol rest] := by
  have h := rulesFor_rulesFrom 0 before symbol rest
  rwa [Nat.zero_add] at h

theorem hasState_rules (before : List T) (symbol : T) (rest : List T) :
    (rules (before ++ symbol :: rest)).hasState (before.length : Nat) = true := by
  rw [RuleSet.hasState_iff_rulesFor_ne_nil, rulesFor_rules]
  exact List.cons_ne_nil _ _

theorem hasState_rules_of_neg (target : List T) {state : Int} (h : state < 0) :
    (rules target).hasState state = false := by
  refine Bool.eq_false_iff.2 fun hs => ?_
  obtain ⟨rule, hrule, rfl⟩ := RuleSet.hasState_iff_exists_mem.1 hs
  have := le_state_of_mem hrule
  omega

variable [BEq T]

theorem select_tableOf (before : List T) (symbol : T) (rest : List T) (read : T) :
    ((rules (before ++ symbol :: rest)).tableOf (before.length : Nat)).select read =
      some (if symbol == read then (ruleFor before.length symbol rest).onMatch
        else .follow (.goTo (some failure))) := by
  have hcondition : (ruleFor before.length symbol rest).entry.condition = symbol := read_ruleFor ..
  have hmiss : (ruleFor before.length symbol rest).entry.onMiss = _ := onMiss_ruleFor ..
  rw [RuleSet.tableOf, rulesFor_rules, Table.select]
  simp only [List.map_cons, List.map_nil, List.find?_cons, hcondition, List.find?_nil,
    List.head?_cons, Option.map_some]
  cases symbol == read with
  | true => rfl
  | false => exact congrArg some hmiss

/-! ## A run -/

/-- The machine has the rules of a target built and both verdicts bound. -/
structure Prepared (target : List T) (m : Machine T Bool Unit) : Prop where
  enforces : m.Enforces (rules target)
  success_eq : m.registry.get? success = some succeed
  failure_eq : m.registry.get? failure = some (verdict false)

variable {L : Layout T Bool Unit} {target before rest : List T} {symbol : T} {cells : List T}
  {position f n : Nat} {state : Int} {s : Session T Bool Unit}

omit [BEq T] in
theorem Prepared.built_at (p : Prepared target L.machine) (ht : target = before ++ symbol :: rest) :
    L.machine.registry.get? (before.length : Nat) = some .dispatch ∧
      L.machine.compiled (before.length : Nat) =
        some ((rules target).tableOf (before.length : Nat)) := by
  have declared : (rules target).hasState (before.length : Nat) = true := by
    rw [ht]
    exact hasState_rules before symbol rest
  exact ⟨p.enforces.bound _ declared, p.enforces.compiled _ declared⟩

/-! ### One action -/

/-- A dispatch takes the rule of the state's symbol. -/
theorem exists_eval_dispatch (f : Nat) (p : Prepared target L.machine)
    (ht : target = before ++ symbol :: rest)
    (h : s.Scans L cells (before.length : Nat) position false) :
    ∃ s', Action.eval (f + 2) .dispatch s =
        Action.eval (f + 1) (if symbol == cells[position]?.getD L.inputBlank
          then (ruleFor before.length symbol rest).onMatch else .follow (.goTo (some failure))) s' ∧
      s'.Scans L cells (before.length : Nat) position false := by
  subst ht
  obtain ⟨s', hb, hs'⟩ := h.selectBranch_eq (p.built_at rfl).2 (select_tableOf before symbol rest _)
  exact ⟨s', eval_dispatch_of_ok hb, hs'⟩

/-- A match in the middle of the target leads to the next state, one cell on. -/
theorem exists_eval_dispatch_of_match (f : Nat) {next : T} (p : Prepared target L.machine)
    (ht : target = before ++ symbol :: next :: rest)
    (h : s.Scans L cells (before.length : Nat) position false)
    (hc : (symbol == cells[position]?.getD L.inputBlank) = true) :
    ∃ s', Action.eval (f + 2) .dispatch s = some (.ok (.enter .dispatch), s') ∧
      s'.Scans L cells ((before ++ [symbol]).length : Nat) (position + 1) false := by
  obtain ⟨s₁, hd, hs₁⟩ := exists_eval_dispatch f p ht h
  obtain ⟨s₂, hm, hs₂⟩ := hs₁.perform_moveLeft f
  have ht' : target = (before ++ [symbol]) ++ next :: rest := by rw [ht, List.append_assoc]; rfl
  obtain ⟨s', he, hs'⟩ := hs₂.enter (p.built_at ht').1
  have hops : performAll (Op.perform (Action.eval f)) [Op.moveInput .left] s₁ = some (.ok (), s₂) :=
    (Run.bind_of_ok hm).trans rfl
  refine ⟨s', ?_, hs'⟩
  rw [List.length_append] at he
  rw [hd, hc, if_pos rfl, eval_onMatch]
  exact (Run.bind_of_ok hops).trans (congrArg some he)

/-- A match of the last symbol leads to the verdict. -/
theorem exists_eval_dispatch_of_last (f : Nat) (p : Prepared target L.machine)
    (ht : target = before ++ [symbol]) (h : s.Scans L cells (before.length : Nat) position false)
    (hc : (symbol == cells[position]?.getD L.inputBlank) = true) :
    ∃ s', Action.eval (f + 2) .dispatch s = some (.ok (.enter succeed), s') ∧
      s'.Scans L cells success position false := by
  obtain ⟨s₁, hd, hs₁⟩ := exists_eval_dispatch f p ht h
  obtain ⟨s', he, hs'⟩ := hs₁.enter p.success_eq
  refine ⟨s', ?_, hs'⟩
  rw [hd, hc, if_pos rfl, eval_onMatch]
  exact (Run.bind_of_ok rfl).trans (congrArg some he)

theorem exists_eval_dispatch_of_miss (f : Nat) (p : Prepared target L.machine)
    (ht : target = before ++ symbol :: rest)
    (h : s.Scans L cells (before.length : Nat) position false)
    (hc : (symbol == cells[position]?.getD L.inputBlank) = false) :
    ∃ s', Action.eval (f + 2) .dispatch s = some (.ok (.enter (verdict false)), s') ∧
      s'.Scans L cells failure position false := by
  obtain ⟨s₁, hd, hs₁⟩ := exists_eval_dispatch f p ht h
  obtain ⟨s', he, hs'⟩ := hs₁.eval_goTo f p.failure_eq
  refine ⟨s', ?_, hs'⟩
  rw [hd, hc, if_neg Bool.false_ne_true]
  exact he

theorem exists_eval_succeed (f : Nat) (h : s.Scans L cells state position false) :
    ∃ s', Action.eval (f + 1) succeed s = some (.ok .halt, s') ∧
      s'.Scans L cells state (position + 1) true := by
  obtain ⟨s₁, hm, hs₁⟩ := h.eval_moveLeft f (verdict true)
  obtain ⟨s', hv, hs'⟩ := hs₁.eval_verdict f true
  exact ⟨s', hm.trans hv, hs'⟩

/-! ### All actions -/

/-- The run ended where the target stopped to match, with the verdict on whether it matched as a
whole. -/
def Ends (L : Layout T Bool Unit) (cells : List T) (position : Nat) (target : List T)
    (x : Option (Standing (Action T Bool Unit) (Session T Bool Unit))) : Prop :=
  ∃ s state, x = some (.ended (.ok ()) s) ∧
    s.Scans L cells state (position + matched L.inputBlank cells position target)
      (matched L.inputBlank cells position target == target.length)

theorem ends_of_miss (p : Prepared target L.machine) (ht : target = before ++ symbol :: rest)
    (h : s.Scans L cells (before.length : Nat) position false)
    (hc : (symbol == cells[position]?.getD L.inputBlank) = false) :
    Ends L cells position (symbol :: rest) (advance (Action.eval (f + 2)) (n + 2) .dispatch s) := by
  obtain ⟨s₁, hd, hs₁⟩ := exists_eval_dispatch_of_miss f p ht h hc
  obtain ⟨s', hv, hs'⟩ := hs₁.eval_verdict (f + 1) false
  have hnone : matched L.inputBlank cells position (symbol :: rest) = 0 := by
    rw [matched, hc, if_neg Bool.false_ne_true]
  refine ⟨s', failure, (advance_of_enter hd).trans (advance_of_halt hv), ?_⟩
  rw [hnone]
  exact hs'

/-- From any state of the chain the run ends: on the first cell that does not match, or behind the
target. -/
theorem ends_advance (p : Prepared target L.machine) (ht : target = before ++ symbol :: rest)
    (h : s.Scans L cells (before.length : Nat) position false) (enough : rest.length ≤ n) :
    Ends L cells position (symbol :: rest) (advance (Action.eval (f + 2)) (n + 2) .dispatch s) := by
  -- induction on what is left of the target; a match goes on with a shorter rest
  induction rest generalizing before symbol position s n with
  | nil =>
    cases hc : symbol == cells[position]?.getD L.inputBlank with
    | false => exact ends_of_miss p ht h hc
    | true =>
      obtain ⟨s₁, hd, hs₁⟩ := exists_eval_dispatch_of_last f p ht h hc
      obtain ⟨s', hv, hs'⟩ := exists_eval_succeed (f + 1) hs₁
      have hone : matched L.inputBlank cells position [symbol] = 1 := by
        rw [matched, hc, if_pos rfl, matched]
      refine ⟨s', success, (advance_of_enter hd).trans (advance_of_halt hv), ?_⟩
      rw [hone]
      exact hs'
  | cons next rest ih =>
    cases hc : symbol == cells[position]?.getD L.inputBlank with
    | false => exact ends_of_miss p ht h hc
    | true =>
      obtain ⟨n, rfl⟩ := Nat.exists_eq_add_of_le' enough
      obtain ⟨s₁, hd, hs₁⟩ := exists_eval_dispatch_of_match f p ht h hc
      have ht' : target = (before ++ [symbol]) ++ next :: rest := by rw [ht, List.append_assoc]; rfl
      obtain ⟨s', state', hv, hs'⟩ := ih ht' hs₁ (Nat.le_add_left rest.length n)
      have hmore : matched L.inputBlank cells position (symbol :: next :: rest) =
          matched L.inputBlank cells (position + 1) (next :: rest) + 1 := by
        rw [matched, hc, if_pos rfl]
      refine ⟨s', state', (advance_of_enter hd).trans hv, ?_⟩
      have hposition : position + 1 + matched L.inputBlank cells (position + 1) (next :: rest) =
          position + matched L.inputBlank cells position (symbol :: next :: rest) := by omega
      have hwhole :
          (matched L.inputBlank cells (position + 1) (next :: rest) == (next :: rest).length) =
          (matched L.inputBlank cells position (symbol :: next :: rest) ==
            (symbol :: next :: rest).length) := by
        rw [hmore, List.length_cons (a := symbol), Bool.eq_iff_iff, beq_iff_eq, beq_iff_eq]
        omega
      rw [← hposition, ← hwhole]
      exact hs'

/-! ## The program -/

section Program

variable [Inhabited T]

/-- Before it is built, the machine has the rules of the target, both verdicts and the blanks. -/
def laidDown (config : Config) (target : List T) : Machine T Bool Unit where
  config := config
  inputs := { blank := some default }
  outputs := { blank := some false }
  registry := { bindings := [(success, succeed), (failure, verdict false)] }
  rules := rules target
  counters := { states := 2, rulesDeclared := (rulesFrom 0 target).length }

/-- Everything before the build succeeds, whatever the target. -/
theorem exists_setup (config : Config) (target : List T) :
    ∃ s, setup target (Session.fresh config ()) = Session.build s ∧
      s.machine = laidDown config target := by
  let blanks : Session T Bool Unit :=
    { machine :=
        { config := config, inputs := { blank := some default },
          outputs := { blank := some false } }
      world := () }
  let bound := (bindAction success succeed (bindAction failure (verdict false) blanks).2).2
  have hbound : bound.machine =
      (blanks.machine.bound failure (verdict false)).bound success succeed := by
    rw [machine_bindAction, machine_bindAction]
  obtain ⟨s, hs, hm⟩ := exists_declareAll (rulesFrom 0 target) bound
  refine ⟨s, (Attempt.bind_of_ok rfl).trans <| (Attempt.bind_of_ok rfl).trans <|
    (Attempt.bind_of_ok rfl).trans <| (Attempt.bind_of_ok rfl).trans (Attempt.bind_of_ok hs), ?_⟩
  have hcount : bound.machine.counters.rulesDeclared + (rulesFrom 0 target).length =
      (rulesFrom 0 target).length := by
    rw [hbound]
    exact Nat.zero_add _
  rw [hm, hcount, hbound]
  rfl

theorem setup_eq_error (config : Config) :
    ∃ s, setup ([] : List T) (Session.fresh config ()) = (.error .emptyRuleSet, s) := by
  obtain ⟨s, hs, hm⟩ := exists_setup (T := T) config []
  obtain ⟨log, hb⟩ := build_of_nil (s := s) (by rw [hm]; rfl)
  exact ⟨_, hs.trans hb⟩

theorem setup_eq_ok (config : Config) {target : List T} (ne : target ≠ []) :
    ∃ s, setup target (Session.fresh config ()) = (.ok (), s) ∧
      s.machine = (laidDown config target).built := by
  obtain ⟨s, hs, hm⟩ := exists_setup config target
  have declared : s.machine.rules.rules ≠ [] := by
    rw [hm]
    cases target with
    | nil => exact (ne rfl).elim
    | cons symbol rest =>
      show rulesFrom 0 (symbol :: rest) ≠ []
      rw [rulesFrom_cons]
      exact List.cons_ne_nil _ _
  obtain ⟨log, hb⟩ := build_of_ne_nil declared
  exact ⟨_, hs.trans hb, congrArg Machine.built hm⟩

/-- What an acceptor leaves alone after its setup. -/
def layout (config : Config) (target : List T) : Layout T Bool Unit where
  machine := (laidDown config target).built
  inputBlank := default
  outputBlank := false
  outputSnapshot := .ofList [false]

omit [BEq T] in
theorem prepared_layout (config : Config) (target : List T) :
    Prepared target (layout config target).machine where
  enforces := Machine.enforces_built (laidDown config target)
  success_eq := by
    have hs : (laidDown config target).rules.hasState success = false :=
      hasState_rules_of_neg target (by decide)
    rw [layout, Machine.get?_built, if_neg (Bool.eq_false_iff.1 hs)]
    rfl
  failure_eq := by
    have hs : (laidDown config target).rules.hasState failure = false :=
      hasState_rules_of_neg target (by decide)
    rw [layout, Machine.get?_built, if_neg (Bool.eq_false_iff.1 hs)]
    rfl

omit [BEq T] in
theorem config_layout (config : Config) (target : List T) :
    (layout config target).machine.config = config := by
  rw [layout, Machine.built_eq]
  rfl

omit [Inhabited T] in
theorem loadTapes_eq_ok {s : Session T Bool Unit} {b : T} {c : Bool}
    (hi : s.machine.inputs = { blank := some b }) (ho : s.machine.outputs = { blank := some c })
    (head : Nat) (input : Sequence T) :
    ∃ s', loadTapes head input s = (.ok (), s') ∧ s'.machine =
      { s.machine with
        inputs := .single { storage := input, head := head } b
        outputs := .single { storage := .ofList [false], snapshot := .ofList [false] } c } := by
  obtain ⟨⟨config, inputs, outputs, registry, rules, tables, counters⟩, observed, events,
    log, world⟩ := s
  cases hi
  cases ho
  exact ⟨_, rfl, rfl⟩

theorem exists_loadTapes (config : Config) (target : List T) {s : Session T Bool Unit}
    (hm : s.machine = (laidDown config target).built) (head : Nat) (input : Sequence T) :
    ∃ s' t o, loadTapes head input s = (.ok (), s') ∧
      s'.LaidOut (layout config target) defaultState t o ∧
      t.storage = input ∧ t.head = head ∧ o.IsCell false := by
  have hbuilt := Machine.built_eq (laidDown config target)
  obtain ⟨s', hs, hm'⟩ := loadTapes_eq_ok (s := s) (b := default) (c := false)
    (by rw [hm, hbuilt]; rfl) (by rw [hm, hbuilt]; rfl) head input
  have hcurrent : (laidDown config target).built.registry.current = defaultState := by
    rw [hbuilt]; rfl
  have hl := LaidOut.of_machine_eq hm'
  rw [hm, hcurrent] at hl
  exact ⟨s', _, _, hs, hl, rfl, rfl, rfl, rfl⟩

/-! ### Its answers -/

variable {config : Config} {target : List T} {head fuel : Nat} {input : Sequence T}

omit [BEq T] [Inhabited T] in
theorem finish_eq_ok {t : Tape T} {o : Tape Bool} {accepted : Bool} (h : s.LaidOut L state t o)
    (ho : o.IsCell accepted) : ∃ s', finish s = (.ok ⟨t.head, accepted⟩, s') :=
  ⟨_, (Attempt.bind_of_ok (outputCell_eq h ho)).trans <|
    (Attempt.bind_of_ok (inputHead_eq h)).trans (Attempt.bind_of_ok rfl)⟩

/-- A run that starts on the tapes of an acceptor is answered by reading the verdict. -/
theorem accept_of_execute [Text.Legible T] (ne : target ≠ [])
    {result : Except MachineError Acceptance}
    (h : ∀ s t o,
      s.LaidOut (layout { config with resetAfterExecution := false } target) defaultState t o →
      t.storage = input → t.head = head → o.IsCell false → ∃ s',
      (do Session.execute fuel (.state 0); Run.ofAttempt finish) s = some (result, s')) :
    ∃ log, accept fuel config head input target = some ⟨result, log⟩ := by
  obtain ⟨s₁, hs₁, hm⟩ := setup_eq_ok { config with resetAfterExecution := false } ne
  obtain ⟨s₂, t, o, hs₂, hl, ht, hh, ho⟩ := exists_loadTapes _ _ hm head input
  obtain ⟨s', hs'⟩ := h s₂ t o hl ht hh ho
  have hrun :
      program fuel head input target
        (Session.fresh { config with resetAfterExecution := false } ()) =
      some (result, s') :=
    (Run.bind_of_ok (congrArg some hs₁)).trans <| (Run.bind_of_ok (congrArg some hs₂)).trans hs'
  exact exists_run hrun

/-- If the head is on a cell, the head goes on as far as the target matches, and the verdict is
whether it matched as a whole. -/
theorem exists_accept [Text.Legible T] (ne : target ≠ []) (live : head < input.count)
    (enough : target.length + 1 ≤ fuel) :
    ∃ log, accept fuel config head input target =
      some ⟨.ok ⟨head + matched default input.toList head target,
        matched default input.toList head target == target.length⟩, log⟩ := by
  refine accept_of_execute ne fun s t o hl ht hh ho => ?_
  obtain ⟨symbol, rest, rfl⟩ := List.exists_cons_of_ne_nil ne
  have p := prepared_layout { config with resetAfterExecution := false } (symbol :: rest)
  obtain ⟨fuel, rfl⟩ :=
    Nat.exists_eq_add_of_le' (Nat.le_trans (Nat.le_add_left 2 rest.length) enough)
  -- the run enters the first state of the chain with the head on its cell
  obtain ⟨s₁, hbegin, hl₁⟩ := hl.beginRun (.state 0) rfl (p.built_at (List.nil_append _).symm).1
  have hr : t.Reaches default input.toList head :=
    .start (by rw [ht]) hh (by rwa [Sequence.length_toList])
  have steps : rest.length ≤ fuel := by
    rw [List.length_cons] at enough
    omega
  obtain ⟨s₂, state, hadvance, t', o', hl₂, hr', ho'⟩ :=
    ends_advance (f := fuel) p (List.nil_append _).symm ⟨t, o, hl₁, hr, ho⟩ steps
  have hexecute : Session.execute (fuel + 2) (.state 0) s = some (.ok (), s₂) :=
    execute_of_ended hbegin hadvance (by rw [hl₂.config_eq, config_layout])
  obtain ⟨s₃, hfinish⟩ := finish_eq_ok hl₂ ho'
  rw [hr'.head_eq] at hfinish
  exact ⟨s₃, (Run.bind_of_ok hexecute).trans (congrArg some hfinish)⟩

/-- If the head is beyond the cells, the first read fails. -/
theorem exists_accept_of_stale [Text.Legible T] (ne : target ≠ []) (stale : input.count ≤ head)
    (enough : 2 ≤ fuel) :
    ∃ log, accept fuel config head input target =
      some ⟨.error (.staleHead head input.count), log⟩ := by
  refine accept_of_execute ne fun s t o hl ht hh ho => ?_
  obtain ⟨symbol, rest, rfl⟩ := List.exists_cons_of_ne_nil ne
  have p := prepared_layout { config with resetAfterExecution := false } (symbol :: rest)
  obtain ⟨fuel, rfl⟩ := Nat.exists_eq_add_of_le' enough
  obtain ⟨s₁, hbegin, hl₁⟩ := hl.beginRun (.state 0) rfl (p.built_at (List.nil_append _).symm).1
  have hread := hl₁.readInput_of_error (Tape.read_of_le (by rwa [ht, hh]))
  have hselect : selectBranch s₁ = (.error t.stale, s₁) := Attempt.bind_of_error hread
  have hexecute : Session.execute (fuel + 2) (.state 0) s = some (.error t.stale, s₁) :=
    execute_of_ended hbegin (advance_of_error (eval_dispatch_of_error hselect))
      (by rw [hl₁.config_eq, config_layout])
  refine ⟨s₁, (Run.bind_of_error hexecute).trans ?_⟩
  rw [Tape.stale, ht, hh]

/-- A target without symbols has no rule to build. -/
theorem exists_accept_nil [Text.Legible T] :
    ∃ log, accept fuel config head input ([] : List T) = some ⟨.error .emptyRuleSet, log⟩ := by
  obtain ⟨s, hs⟩ := setup_eq_error (T := T) { config with resetAfterExecution := false }
  have hrun : program fuel head input ([] : List T)
      (Session.fresh { config with resetAfterExecution := false } ()) =
      some (.error .emptyRuleSet, s) := Run.bind_of_error (congrArg some hs)
  exact exists_run hrun

end Program

end TapeMachine.Programs.PrefixAcceptor
