import TapeMachine.Proofs.Rules.Execution
import TapeMachine.Proofs.Session.ActiveTape
import TapeMachine.Proofs.Session.Calls
import TapeMachine.Proofs.Turing.Machine

/-!
# Tables of Turing machines as rules

The rows of a transition table are declared as rules and built. Then a run from a state goes as the
machine of the textbooks goes on the infinite line that the active tape shows at first.

Results:
1. `interpretStep_eq_step`: one step of the rules is one step of the machine.
2. `interpret_of_haltsAfter`, `haltsAfter_of_interpret`: the rules halt exactly if the machine does,
   and where it does.
3. `install_simulates`: the same for what is declared and built.
-/

namespace TapeMachine.Turing

open Session

variable {S O W : Type}

/-- Declares the rows of a table as rules and builds them. -/
def install [BEq S] (rows : List (Row S)) : Attempt (Session S O W) Unit := do
  Programs.declareAll (rows.map Row.rule)
  Session.build

/-- The session is where the machine is: on its line, in its state. -/
structure Tracks (s : Session S O W) (b : S) (c : Config S) (t : Tape S) : Prop where
  onLine : s.OnLine b c.line t
  current_eq : s.machine.registry.current = c.state

variable [BEq S] {rows : List (Row S)} {δ : Delta S}

/-! ## One step -/

theorem onTapes_rule (r : Row S) : (r.rule : Rule S (Op S O W)).OnTapes := by
  rw [Row.rule_eq]
  refine ⟨fun op hop => ?_, fun op hop => ?_, nofun⟩
  · simp only at hop
    split at hop
    · cases hop
    · cases hop
      exact .input _
  · cases hop
    exact .input _

theorem onTapes_rules (rows : List (Row S)) :
    ∀ r ∈ (rows.map Row.rule : List (Rule S (Op S O W))), r.OnTapes := by
  intro r hr
  obtain ⟨row, -, rfl⟩ := List.mem_map.1 hr
  exact onTapes_rule row

/-- What the rules do for an entry of the function: the write is left out if it would change
nothing. -/
def Effect.branch (effect : Effect S) (read : S) : Branch (Op S O W) where
  ops := (if effect.write == read then [] else [.writeInput effect.write]) ++
    [.moveInput effect.direction]
  next := effect.next

theorem any_state_of_row {state : Int} (known : ∃ r ∈ rows, r.state = state) :
    (rows.map Row.rule : List (Rule S (Op S O W))).any (·.state == state) = true := by
  obtain ⟨r, hr, hs⟩ := known
  refine List.any_eq_true.2 ⟨r.rule, List.mem_map_of_mem hr, ?_⟩
  rw [Row.rule_eq]
  exact beq_iff_eq.2 hs

variable [LawfulBEq S]

theorem branchFor_rows (lists : Lists rows δ) {state : Int} (read : S)
    (known : ∃ r ∈ rows, r.state = state) :
    branchFor (rows.map Row.rule : List (Rule S (Op S O W))) state read =
      some (match δ state read with
        | some effect => effect.branch read
        | none => ⟨[], none⟩) := by
  rw [branchFor, find?_rows lists]
  cases δ state read with
  | some effect =>
    simp only [Option.map_some, Row.rule_eq, Rule.matching, Effect.branch]
    split <;> rfl
  | none =>
    have hsome : ((rows.map Row.rule : List (Rule S (Op S O W))).find? (·.state == state)).isSome :=
      List.find?_isSome.2 (List.any_eq_true.1 (any_state_of_row known))
    obtain ⟨rule, hf⟩ := Option.isSome_iff_exists.1 hsome
    obtain ⟨row, -, rfl⟩ := List.mem_map.1 (List.mem_of_find?_eq_some hf)
    rw [hf, Row.rule_eq]
    rfl

variable [BEq O] {s : Session S O W} {b : S} {c d : Config S} {t : Tape S} {f : Nat}

omit [LawfulBEq S] in
/-- Instructions that end on a line, and then the way to a state with a rule. -/
theorem takeBranch_eq_ok (rules : List (Rule S (Op S O W))) (branch : Branch (Op S O W))
    {l : Line S} {s' : Session S O W} (tapes : ∀ op ∈ branch.ops, op.OnTapes)
    (ops : performAll (Op.perform (Action.eval f)) branch.ops s = some (.ok (), s'))
    (h : s'.OnLine b l t) (known : ∀ state ∈ branch.next, rules.any (·.state == state) = true) :
    ∃ s'', takeBranch (Op.perform (Action.eval f)) rules branch s =
      some (.ok branch.next.isSome, s'') ∧
      Tracks s'' b ⟨branch.next.getD s.machine.registry.current, l⟩ t ∧
      s''.machine.counters.transitions = s.machine.counters.transitions + 1 := by
  have same : s.SameButTapes s' :=
    performAll_along (fun op hop => (tapes op hop).perform_along f) _ _ _ ops
  obtain ⟨s'', hgo, hinputs, hcurrent, hcount⟩ := goTo_eq_ok s' known
  have hgo' : Run.ofAttempt (goTo rules branch.next) s' = some (.ok branch.next.isSome, s'') :=
    congrArg some hgo
  refine ⟨s'', (Run.bind_of_ok ops).trans hgo', ⟨h.congr hinputs, ?_⟩, ?_⟩
  · rw [hcurrent, same.registry_eq]
  · rw [hcount, same.counters_eq]

theorem performAll_effect {l : Line S} (h : s.OnLine b l t) (effect : Effect S) :
    ∃ s' t', performAll (Op.perform (Action.eval f)) (effect.branch l.read).ops s =
      some (.ok (), s') ∧
      s'.OnLine b ((l.put effect.write).move effect.direction) t' ∧
      t'.statistics.reads = t.statistics.reads := by
  unfold Effect.branch
  cases hw : effect.write == l.read with
  | true =>
    -- the rule has no write, and the machine writes what is there already
    obtain ⟨s', t', hm, hs, hr⟩ := h.perform_moveInput (Action.eval f) effect.direction
    refine ⟨s', t', ?_, ?_, hr⟩
    · exact (Run.bind_of_ok hm).trans rfl
    · rw [eq_of_beq hw, Line.put_read]
      exact hs
  | false =>
    obtain ⟨s₁, t₁, hp, hs₁, hr₁⟩ := h.perform_writeInput (Action.eval f) effect.write
    rw [Line.write_eq_put] at hs₁
    obtain ⟨s', t', hm, hs, hr⟩ := hs₁.perform_moveInput (Action.eval f) effect.direction
    refine ⟨s', t', ?_, hs, hr.trans hr₁⟩
    exact (Run.bind_of_ok hp).trans ((Run.bind_of_ok hm).trans rfl)

/-- One step of the rules is one step of the machine. -/
theorem interpretStep_eq_step (lists : Lists rows δ) (closed : Closed rows) (h : Tracks s b c t)
    (known : ∃ r ∈ rows, r.state = c.state) :
    ∃ s' t', interpretStep (Op.perform (Action.eval f)) (rows.map Row.rule) s =
        some (.ok (step δ c).2, s') ∧
      Tracks s' b (step δ c).1 t' ∧ t'.statistics.reads = t.statistics.reads + 1 ∧
      s'.machine.counters.transitions = s.machine.counters.transitions + 1 := by
  obtain ⟨s₁, t₁, hr, hs₁, hreads⟩ := h.onLine.readInput_eq
  have same : s.SameButTapes s₁ := by
    have := readInput_sameButTapes none s
    rwa [hr] at this
  have hcurrent : s₁.machine.registry.current = c.state := by rw [same.registry_eq, h.current_eq]
  have hread : Run.ofAttempt (readInput none) s = some (.ok c.line.read, s₁) := congrArg some hr
  have hask : Run.ofAttempt (.ask (Except.ok ·.machine.registry.current)) s₁ =
      some (.ok c.state, s₁) := by rw [← hcurrent]; rfl
  have hbranch := branchFor_rows (O := O) (W := W) lists c.line.read known
  rw [interpretStep, Run.bind_of_ok hread, Run.bind_of_ok hask, hbranch, step, ← same.counters_eq,
    ← hreads]
  cases hδ : δ c.state c.line.read with
  | none =>
    obtain ⟨s', hb, htracks, hcount⟩ := takeBranch_eq_ok (rows.map Row.rule) ⟨[], none⟩
      (fun _ hop => (List.not_mem_nil hop).elim) rfl hs₁ (fun _ hnext => by cases hnext)
    rw [hcurrent] at htracks
    exact ⟨s', t₁, hb, htracks, rfl, hcount⟩
  | some effect =>
    rw [hδ] at hbranch
    obtain ⟨s₂, t₂, hops, hs₂, hreads₂⟩ := performAll_effect hs₁ effect
    have hknown : ∀ state ∈ effect.next,
        (rows.map Row.rule : List (Rule S (Op S O W))).any (·.state == state) = true :=
      fun state hstate => any_state_of_row (closed _ ((lists _ _ _).1 hδ) state hstate)
    obtain ⟨s', hb, htracks, hcount⟩ :=
      takeBranch_eq_ok (rows.map Row.rule) (effect.branch c.line.read)
      (onTapes_of_branchFor (onTapes_rules rows) hbranch) hops hs₂ hknown
    rw [hcurrent] at htracks
    exact ⟨s', t₂, hb, htracks, hreads₂, hcount⟩

/-! ## Runs -/

omit [BEq S] [LawfulBEq S] in
/-- A machine that goes on does so in a state with a row. -/
theorem known_of_step (lists : Lists rows δ) (closed : Closed rows) (h : step δ c = (d, true)) :
    ∃ r ∈ rows, r.state = d.state := by
  unfold step at h
  cases hδ : δ c.state c.line.read with
  | none =>
    rw [hδ] at h
    cases h
  | some effect =>
    rw [hδ] at h
    obtain ⟨hd, hnext⟩ := Prod.mk.inj h
    obtain ⟨state, hstate⟩ := Option.isSome_iff_exists.1 hnext
    obtain ⟨r, hr, hs⟩ := closed _ ((lists _ _ _).1 hδ) state hstate
    refine ⟨r, hr, ?_⟩
    rw [hs, ← hd, hstate]
    rfl

/-- Where the machine halts, the rules halt after as many steps. -/
theorem interpret_of_haltsAfter (lists : Lists rows δ) (closed : Closed rows) {n : Nat}
    (halts : HaltsAfter δ n c d) (h : Tracks s b c t) (known : ∃ r ∈ rows, r.state = c.state) :
    ∃ s' t', interpret (Op.perform (Action.eval f)) (rows.map Row.rule) n s =
        some (.ended (.ok ()) s') ∧
      Tracks s' b d t' ∧ t'.statistics.reads = t.statistics.reads + n ∧
      s'.machine.counters.transitions = s.machine.counters.transitions + n := by
  -- induction on the run of the machine, which the session tracks at every step
  induction halts generalizing s t with
  | halt hstep =>
    obtain ⟨s', t', hs, htracks, hreads, hcount⟩ := interpretStep_eq_step lists closed h known
    rw [hstep] at hs htracks
    exact ⟨s', t', by rw [interpret, hs], htracks, hreads, hcount⟩
  | more hstep _ ih =>
    obtain ⟨s₁, t₁, hs, htracks, hreads, hcount⟩ := interpretStep_eq_step lists closed h known
    rw [hstep] at hs htracks
    obtain ⟨s', t', hrun, htracks', hreads', hcount'⟩ :=
      ih htracks (known_of_step lists closed hstep)
    refine ⟨s', t', by rw [interpret, hs]; exact hrun, htracks', ?_, ?_⟩
    · rw [hreads', hreads, Nat.add_assoc, Nat.add_comm 1]
    · rw [hcount', hcount, Nat.add_assoc, Nat.add_comm 1]

/-- The rules end with a halt only, and only where the machine halts. -/
theorem haltsAfter_of_interpret (lists : Lists rows δ) (closed : Closed rows) {n : Nat}
    {result : Except MachineError Unit} {final : Session S O W}
    (ended : interpret (Op.perform (Action.eval f)) (rows.map Row.rule) n s =
      some (.ended result final))
    (h : Tracks s b c t) (known : ∃ r ∈ rows, r.state = c.state) :
    result = .ok () ∧ ∃ m d, HaltsAfter δ m c d := by
  induction n generalizing s c t with
  | zero => cases ended
  | succ n ih =>
    obtain ⟨s₁, t₁, hs, htracks, -, -⟩ := interpretStep_eq_step lists closed h known
    rw [interpret, hs] at ended
    cases hstep : step δ c with
    | mk d more =>
      rw [hstep] at ended htracks
      cases more with
      | false =>
        cases ended
        exact ⟨rfl, 1, d, .halt hstep⟩
      | true =>
        obtain ⟨hok, m, e, hrest⟩ := ih ended htracks (known_of_step lists closed hstep)
        exact ⟨hok, m + 1, e, .more hstep hrest⟩

/-! ## Declaring and building -/

omit [LawfulBEq S] [BEq O] in
/-- On a machine without rules and bindings, rows are declared and built without error, and then the
machine carries them. -/
theorem install_eq_ok (rows_ne : rows ≠ []) (norules : s.machine.rules.rules = [])
    (unbound : s.machine.registry.bindings = []) :
    ∃ built, install rows s = (.ok (), built) ∧ built.machine.Carries ⟨rows.map Row.rule⟩ := by
  obtain ⟨s', hs, hm⟩ := exists_declareAll (rows.map Row.rule) s
  have hrules : s'.machine.rules.rules = rows.map Row.rule := by rw [hm, norules, List.nil_append]
  have hregistry : s'.machine.registry = s.machine.registry := by rw [hm]
  have hne : s'.machine.rules.rules ≠ [] := by
    rw [hrules]
    exact fun h => rows_ne (List.map_eq_nil_iff.1 h)
  obtain ⟨log, hbuild⟩ := build_of_ne_nil hne
  refine ⟨_, (Attempt.bind_of_ok hs).trans hbuild, ?_⟩
  have hset : s'.machine.rules = ⟨rows.map Row.rule⟩ := congrArg RuleSet.mk hrules
  rw [← hset]
  exact Machine.carries_built fun state h =>
    Machine.declared_of_contains (by rw [hregistry, unbound]) h

omit [BEq S] [LawfulBEq S] [BEq O] in
/-- At the start of a run the session is where the machine starts. -/
theorem tracks_entering {start : Int} (tape : s.machine.inputTape none = .ok t)
    (blank : s.machine.inputs.blank = some b) (live : t.Live) :
    Tracks (entering start s) b ⟨start, t.line b⟩ t where
  onLine :=
    have hs : s.OnLine b (t.line b) t := ⟨tape, blank, 0, Tape.shows_line b live⟩
    hs.congr (by rw [entering, machine_note])
  current_eq := by rw [entering, machine_note]; rfl

/-- Suppose the rows list a transition function, every state they lead to has a row, and they are
declared and built on a machine without rules and bindings. Then building succeeds. While the
machine has that code, its tapes are not reset and a blank is set, from every state with a row and
on every tape with the head on a cell: a run ends without error exactly if the Turing machine halts
on the line of that tape, no run ends with an error, and if the Turing machine halts after `n`
steps, then the run ends, its tape shows the line that the machine left, with the head at its
position, the current state is the one the machine halted in, and `n` transitions and reads have
been counted. -/
theorem install_simulates {fresh : Session S O W} {start : Int} (lists : Lists rows δ)
    (closed : Closed rows) (norules : fresh.machine.rules.rules = [])
    (unbound : fresh.machine.registry.bindings = []) (known : ∃ r ∈ rows, r.state = start) :
    ∃ built, install rows fresh = (.ok (), built) ∧
      ∀ (ready : Session S O W) (t : Tape S) (b : S), built.machine.SameCode ready.machine →
        ready.machine.config.resetAfterExecution = false → ready.machine.inputs.blank = some b →
        ready.machine.inputTape none = .ok t → t.head < t.storage.count →
        ((∃ fuel final, execute fuel (.state start) ready = some (.ok (), final)) ↔
          ∃ n d, HaltsAfter δ n ⟨start, t.line b⟩ d) ∧
        (∀ fuel e final, execute fuel (.state start) ready ≠ some (.error e, final)) ∧
        ∀ n d, HaltsAfter δ n ⟨start, t.line b⟩ d →
          ∃ fuel final t' k, execute fuel (.state start) ready = some (.ok (), final) ∧
            final.machine.inputTape none = .ok t' ∧ t'.Shows b d.line k ∧
            final.machine.registry.current = d.state ∧
            final.machine.counters.transitions = ready.machine.counters.transitions + n ∧
            t'.statistics.reads = t.statistics.reads + n := by
  have rows_ne : rows ≠ [] := by
    obtain ⟨r, hr, -⟩ := known
    exact List.ne_nil_of_mem hr
  obtain ⟨built, hinstall, hbuilt⟩ := install_eq_ok rows_ne norules unbound
  refine ⟨built, hinstall, fun ready t b same unreset blank tape live => ?_⟩
  have carried := hbuilt.of_sameCode same
  have declared : RuleSet.hasState (⟨rows.map Row.rule⟩ : RuleSet S (Op S O W)) start = true :=
    any_state_of_row known
  have runs := execute_iff_interpret carried declared (onTapes_rules rows) unreset
  have tracks : Tracks (entering start ready) b ⟨start, t.line b⟩ t :=
    tracks_entering tape blank live
  have halts : ∀ n d, HaltsAfter δ n ⟨start, t.line b⟩ d →
      ∃ fuel final t', execute fuel (.state start) ready = some (.ok (), final) ∧
        Tracks final b d t' ∧ t'.statistics.reads = t.statistics.reads + n ∧
        final.machine.counters.transitions = ready.machine.counters.transitions + n := by
    intro n d h
    obtain ⟨final, t', hend, htracks, hreads, hcount⟩ :=
      interpret_of_haltsAfter lists closed h tracks known
    obtain ⟨fuel, hrun⟩ := (runs _ final).2 ⟨0, n, hend⟩
    have hentered : (entering start ready).machine.counters = ready.machine.counters := by
      rw [entering, machine_note]
    rw [hentered] at hcount
    exact ⟨fuel, final, t', hrun, htracks, hreads, hcount⟩
  refine ⟨⟨?_, ?_⟩, ?_, ?_⟩
  · rintro ⟨fuel, final, hrun⟩
    obtain ⟨f, n, hend⟩ := (runs _ final).1 ⟨fuel, hrun⟩
    exact (haltsAfter_of_interpret lists closed hend tracks known).2
  · rintro ⟨n, d, h⟩
    obtain ⟨fuel, final, -, hrun, -⟩ := halts n d h
    exact ⟨fuel, final, hrun⟩
  · intro fuel e final hrun
    obtain ⟨f, n, hend⟩ := (runs _ final).1 ⟨fuel, hrun⟩
    cases (haltsAfter_of_interpret lists closed hend tracks known).1
  · intro n d h
    obtain ⟨fuel, final, t', hrun, htracks, hreads, hcount⟩ := halts n d h
    obtain ⟨k, hshows⟩ := htracks.onLine.shows
    exact ⟨fuel, final, t', k, hrun, htracks.onLine.tape_eq, hshows, htracks.current_eq, hcount,
      hreads⟩

/-- A machine that goes down over ones and clears them, and writes a one at the first blank. -/
theorem install_simulates_clearing :
    let rows : List (Row Bool) :=
      [⟨0, true, ⟨false, .right, some 0⟩⟩, ⟨0, false, ⟨true, .left, none⟩⟩]
    let fresh : Session Bool Bool Unit := { world := () }
    ∃ built, install rows fresh = (.ok (), built) ∧
      let ready : Session Bool Bool Unit :=
        { built with
          machine.config := {}
          machine.inputs :=
            { tapes := ⟨[{ storage := .ofList [true, true], head := 1 }]⟩, blank := some false } }
      ∃ fuel final, execute fuel (.state 0) ready = some (.ok (), final) ∧
        final.machine.counters.transitions = ready.machine.counters.transitions + 3 := by
  intro rows fresh
  have lists : Lists rows (delta rows) := lists_delta (by decide)
  have known : ∃ r ∈ rows, r.state = 0 := ⟨_, List.mem_cons_self, rfl⟩
  have closed : Closed rows := by
    intro r hr state hstate
    rcases List.mem_cons.1 hr with rfl | hr
    · cases hstate
      exact known
    · rw [List.mem_singleton.1 hr] at hstate
      cases hstate
  have norules : fresh.machine.rules.rules = [] := rfl
  obtain ⟨built, hinstall, runs⟩ := install_simulates lists closed norules rfl known
  refine ⟨built, hinstall, ?_⟩
  intro ready
  have tape : ready.machine.inputTape none =
      .ok { storage := .ofList [true, true], head := 1 } := rfl
  obtain ⟨-, -, halts⟩ :=
    runs ready _ false ⟨rfl, fun _ => rfl, fun _ => rfl⟩ rfl rfl tape (by decide)
  obtain ⟨fuel, final, -, -, hrun, -, -, -, hcount, -⟩ :=
    halts 3 _ (.more rfl (.more rfl (.halt rfl)))
  exact ⟨fuel, final, hrun, hcount⟩

end TapeMachine.Turing
