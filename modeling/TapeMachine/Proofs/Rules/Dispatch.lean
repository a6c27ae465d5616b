import TapeMachine.Proofs.Session.Conduct
import TapeMachine.Proofs.Session.Representation
import TapeMachine.Proofs.Session.Triple

/-!
# A dispatching state always has its table

A built state is bound to `Action.dispatch`, which takes its table from the current state when it
runs and not from the state it was bound to. Building everything drops all tables first, erasing
drops the bindings and leaves the tables, a binding can hide the one that building made, and
instructions can do any of this in the middle of a run. As long as the code is orderly, the two
never come apart.

Results:
1. `Effect.sound`: what a call that runs no code keeps between bindings, tables and rules.
2. `eval_safe`: what all code keeps, by induction on the fuel, with one case for each layer of the
   evaluation.
3. `Session.Reached.dispatches`: no call is answered with the error of a missing table, and whenever
   a run invokes the dispatching action, that is bound to the current state, and the state has a
   table.
-/

namespace TapeMachine

variable {I O W α β : Type}

/-! ## Machines -/

variable [BEq I] [BEq O]

namespace Machine

/-- What orderly code can rely on and keeps: all code in the machine is orderly, and a state to
which the dispatching action is bound has a table. -/
structure Sound (m : Machine I O W) : Prop where
  wellFormed : m.WellFormed
  rules : ∀ rule ∈ m.rules.rules, rule.Conducts
  entries : ∀ t ∈ m.tables.items, ∀ entry ∈ t.entries, entry.onMatch.Conducts ∧
    entry.onMiss.Conducts
  bound : ∀ binding ∈ m.registry.bindings, binding.2.Conducts ∨
    binding.2 = .dispatch ∧ (m.compiled binding.1).isSome = true

/-- The action is bound to the current state, maybe hidden by a later binding. -/
def BoundHere (m : Machine I O W) (action : Action I O W) : Prop :=
  (m.registry.current, action) ∈ m.registry.bindings

variable {m m' : Machine I O W}

/-- A table that is there has a branch for every symbol, and the branch is orderly. -/
theorem Sound.select (h : m.Sound) {state : Int} (built : (m.compiled state).isSome = true)
    (symbol : I) :
    ∃ branch, (m.compiled state).bind (·.select symbol) = some branch ∧ branch.Conducts := by
  obtain ⟨t, ht⟩ := Option.isSome_iff_exists.1 built
  obtain ⟨hmem, -⟩ := mem_of_compiled ht
  rw [ht, Option.bind_some]
  unfold Table.select
  split
  · next entry he =>
    exact ⟨_, rfl, (h.entries t hmem entry (List.mem_of_find?_eq_some he)).1⟩
  · cases hentries : t.entries with
    | nil => exact absurd (by simp [Table.conditions, hentries]) (h.wellFormed.filled t hmem)
    | cons first rest =>
      exact ⟨_, rfl, (h.entries t hmem first (by rw [hentries]; exact List.mem_cons_self)).2⟩

/-- A change that leaves rules, tables and bindings alone. -/
theorem Sound.congr (h : m.Sound) (wf : m'.WellFormed) (rules : m'.rules = m.rules)
    (tables : m'.tables = m.tables) (bindings : m'.registry.bindings = m.registry.bindings) :
    m'.Sound where
  wellFormed := wf
  rules := by rw [rules]; exact h.rules
  entries := by rw [tables]; exact h.entries
  bound := by
    rw [bindings]
    intro binding hb
    have hc : m'.compiled binding.1 = m.compiled binding.1 := by
      rw [Frame.compiled, Frame.compiled, tables]
    rw [hc]
    exact h.bound binding hb

theorem Sound.bind (h : m.Sound) {state : Int} {action : Action I O W}
    (conducts : action.Conducts) :
    (m.bound state action).Sound where
  wellFormed := h.wellFormed.bound state action
  rules := h.rules
  entries := h.entries
  bound binding hb := by
    rcases List.mem_cons.1 hb with rfl | hb
    · exact .inl conducts
    · exact h.bound binding hb

theorem Sound.erase (h : m.Sound) : Sound { m with registry := m.registry.erase } where
  wellFormed := h.wellFormed.withRegistry (Registry.anchored_erase _)
  rules := h.rules
  entries := h.entries
  bound := nofun

theorem Sound.declare (h : m.Sound) {rule : Rule I (Op I O W)} (conducts : rule.Conducts) :
    (m.declared rule).Sound where
  wellFormed := h.wellFormed.declare rule
  rules other ho := by
    rcases List.mem_append.1 ho with ho | ho
    · exact h.rules other ho
    · rw [List.mem_singleton.1 ho]
      exact conducts
  entries := h.entries
  bound := h.bound

/-- Building drops all tables, and makes one for each state that had one: such a state has rules. -/
theorem Sound.build (h : m.Sound) : m.built.Sound where
  wellFormed := h.wellFormed.build
  rules := by rw [built_eq]; exact h.rules
  entries t ht := by
    rw [built_eq] at ht
    obtain ⟨state, -, rfl⟩ := List.mem_map.1 ht
    exact RuleSet.forall_tableOf (fun _ hc => ⟨Rule.Conducts.onMatch hc, hc.onMiss⟩) h.rules state
  bound binding hb := by
    rw [compiled_built]
    have built : m.rules.hasState binding.1 = true → (m.rules.compile binding.1).isSome = true := by
      intro hs
      rw [RuleSet.compile_of_hasState hs]
      rfl
    rw [built_eq] at hb
    rcases List.mem_append.1 hb with hb | hb
    · obtain ⟨state, hs, rfl⟩ := List.mem_map.1 (List.mem_reverse.1 hb)
      exact .inr ⟨rfl, built (RuleSet.mem_states.1 hs)⟩
    · refine (h.bound binding hb).imp_right fun ⟨hd, hc⟩ => ⟨hd, built ?_⟩
      obtain ⟨t, ht⟩ := Option.isSome_iff_exists.1 hc
      exact h.wellFormed.hasState_of_compiled ht

theorem Sound.buildState (h : m.Sound) {state : Int} (declared : m.rules.hasState state = true) :
    ((m.dropped state).installed state).Sound where
  wellFormed := h.wellFormed.install declared
  rules := h.rules
  entries t ht := by
    rcases List.mem_append.1 ht with ht | ht
    · exact h.entries t (List.mem_of_mem_eraseP ht)
    · rw [List.mem_singleton.1 ht]
      exact RuleSet.forall_tableOf (fun _ hc => ⟨Rule.Conducts.onMatch hc, hc.onMiss⟩) h.rules state
  bound binding hb := by
    rw [compiled_installed h.wellFormed.single]
    rcases List.mem_cons.1 hb with rfl | hb
    · exact .inr ⟨rfl, by rw [if_pos rfl]; rfl⟩
    · refine (h.bound binding hb).imp_right fun ⟨hd, hc⟩ => ⟨hd, ?_⟩
      split
      · rfl
      · exact hc

/-- A call that runs no code keeps the machine sound. -/
theorem Effect.sound {call : Machine.Call I O W}
    {result : Except MachineError (Answer I O (Action I O W))} (e : m.Effect call result m')
    (orderly : Call.Orderly call) (h : m.Sound) : m'.Sound := by
  have wf := e.wellFormed h.wellFormed
  cases e with
  | bound state action =>
    cases orderly with
    | plain hp => cases hp
    | bind ha => exact h.bind ha
  | shared hg =>
    cases orderly with
    | plain hp => cases hp
  | declared rule =>
    cases orderly with
    | plain hp => cases hp
    | declare hr => exact h.declare hr
  | erased => exact h.erase
  | buildRefused hn =>
    -- without rules there were no tables
    have tables : m.tables.items = [] := by
      refine List.eq_nil_iff_forall_not_mem.2 fun t ht => h.wellFormed.filled t ht ?_
      have hp := h.wellFormed.declared t ht
      rw [RuleSet.rulesFor, hn] at hp
      exact List.prefix_nil.1 hp
    exact h.congr wf rfl (show Stack.empty = m.tables by rw [Stack.empty, ← tables]) rfl
  | built => exact h.build
  | stateBuilt hd => exact h.buildState hd
  | halted => exact h.congr wf rfl rfl rfl
  | entered => exact h.congr wf rfl rfl rfl
  | _ => exact h.congr wf rfl rfl rfl

/-- A call that runs no code is not refused for a missing table. -/
theorem Effect.usual {call : Machine.Call I O W} {e : MachineError}
    (h : m.Effect call (.error e) m') : e.Usual := by
  cases h with
  | inputRefused hs => exact MachineError.usual_of_aboutTapes (Bank.aboutTapes_of_serve hs)
  | outputRefused hs => exact MachineError.usual_of_aboutTapes (Bank.aboutTapes_of_serve hs)
  | defaultRefused hl => exact Frame.usual_of_lookup hl
  | transitionRefused hs hl => exact Frame.usual_of_lookup hl
  | buildRefused hn => exact nofun
  | stateRefused hd he => rcases he with rfl | rfl <;> exact nofun

/-- A transition leads to an action that is bound to the state then current. -/
theorem Effect.boundHere {target : Target} {next : Action I O W}
    (h : m.Effect (.transition target) (.ok (.transition (.enter next))) m') :
    m'.BoundHere next := by
  cases h with
  | entered hs hg => exact Registry.mem_of_get? hg

/-- Building moves neither pointer and drops no binding. -/
theorem Effect.stays_of_build {result : Except MachineError (Answer I O (Action I O W))}
    (h : m.Effect .build result m') : m.registry.Stays m'.registry := by
  cases h with
  | buildRefused => exact .refl _
  | built =>
    rw [built_eq]
    exact ⟨rfl, List.suffix_append _ _⟩

end Machine

/-! ## What happens -/

/-- No call is answered with the error of a missing table, and a run invokes the dispatching action
only when it is bound to the current state and the state has a table. -/
structure Moment.Clean (m : Moment I O W) : Prop where
  usual : ∀ call e, m.what = .answered call (.error e) → e.Usual
  dispatched : m.what = .invoked .dispatch → m.session.machine.BoundHere .dispatch ∧
    (m.session.machine.compiled m.session.machine.registry.current).isSome = true

/-- What a run may invoke: orderly code, or the dispatching action in a state with a table. -/
def Machine.Admits (m : Machine I O W) (action : Action I O W) : Prop :=
  action.Conducts ∨ action = .dispatch ∧ (m.compiled m.registry.current).isSome = true

theorem Machine.Sound.admits {m : Machine I O W} (h : m.Sound) {action : Action I O W}
    (bound : m.BoundHere action) : m.Admits action := h.bound _ bound

/-- What a transition leads to is bound to the current state. -/
def Machine.Follows (m : Machine I O W) (t : Transition (Action I O W)) : Prop :=
  ∀ next, t = .enter next → m.BoundHere next

namespace Recorded

/-- The machine is sound, and so far nothing went wrong with a table. -/
structure Clean (r : Recorded I O W) : Prop where
  sound : r.session.machine.Sound
  record : ∀ m ∈ r.record, m.Clean

namespace Clean

variable {r : Recorded I O W} (h : r.Clean)
include h

theorem note {what : Happening I O W} (clean : Moment.Clean ⟨what, r.session⟩) :
    (r.note what).Clean where
  sound := h.sound
  record := List.forall_mem_cons.2 ⟨clean, h.record⟩

theorem made (call : Machine.Call I O W) : (r.note (.made call)).Clean := by
  refine h.note ⟨fun _ _ he => ?_, fun ha => ?_⟩
  · cases he
  · cases ha

theorem answered {call : Machine.Call I O W} {result : Except MachineError Unit}
    (usual : ∀ e, result = .error e → e.Usual) : (r.note (.answered call result)).Clean := by
  refine h.note ⟨fun _ e he => ?_, fun ha => ?_⟩
  · cases he
    exact usual e rfl
  · cases ha

theorem invoked {action : Action I O W} (bound : r.session.machine.BoundHere action) :
    (r.note (.invoked action)).Clean := by
  refine h.note ⟨fun _ _ he => ?_, fun ha => ?_⟩
  · cases he
  · cases ha
    refine ⟨bound, ?_⟩
    rcases h.sound.admits bound with hc | ⟨-, hc⟩
    · -- dispatching is no code of anyone's own
      cases hc r.session
    · exact hc

theorem become {s : Session I O W} (sound : s.machine.Sound) : (r.become s).Clean :=
  ⟨sound, h.record⟩

omit h in
theorem start {s : Session I O W} (sound : s.machine.Sound) : Clean (⟨s, []⟩ : Recorded I O W) :=
  ⟨sound, fun _ hm => by cases hm⟩

end Clean

/-- From a session in order, whatever comes of `x` is in order, an error is not that of a missing
table, and an answer is as described. -/
def Safe (x : Run (Recorded I O W) α) (post : Machine I O W → α → Prop) (r : Recorded I O W) :
    Prop :=
  r.Clean → ∀ result r', x r = some (result, r') →
    r'.Clean ∧ (∀ e, result = .error e → e.Usual) ∧ ∀ a, result = .ok a → post r'.session.machine a

namespace Safe

variable {r : Recorded I O W} {post post' : Machine I O W → α → Prop}

theorem mono {x : Run (Recorded I O W) α} (h : Safe x post r) (imp : ∀ m a, post m a → post' m a) :
    Safe x post' r :=
  Triple.mono h imp

theorem pure {a : α} (h : post r.session.machine a) :
    Safe (Pure.pure a : Run (Recorded I O W) α) post r :=
  Triple.pure h

theorem bind {mid : Machine I O W → β → Prop} {x : Run (Recorded I O W) β}
    {f : β → Run (Recorded I O W) α} (first : Safe x mid r)
    (next : ∀ a r', mid r'.session.machine a → Safe (f a) post r') : Safe (x >>= f) post r :=
  Triple.bind first next

theorem calling {call : Machine.Call I O W} {x : Run (Recorded I O W) α}
    (h : Safe x post (r.note (.made call))) : Safe (Recorded.calling call x) post r :=
  Triple.calling (·.made call) (fun _ _ hc usual => hc.answered usual) (fun _ _ _ usual => usual) h

theorem unnoted {x : Attempt (Session I O W) α}
    (h : ∀ result s', x r.session = (result, s') → r.session.machine.Sound → s'.machine.Sound ∧
      (∀ e, result = .error e → e.Usual) ∧ ∀ a, result = .ok a → post s'.machine a) :
    Safe (Recorded.unnoted (.ofAttempt x)) post r :=
  Triple.unnoted fun result s' hx hr =>
    have ⟨sound, usual, ha⟩ := h result s' hx hr.sound
    ⟨hr.become sound, usual, ha⟩

end Safe

/-! ## The layers of the evaluation -/

/-- Code of both kinds is safe where it may be invoked. -/
structure SafeInvocation (invoke : Recorded.Invocation I O W) : Prop where
  code : ∀ code r, (∀ s, code.Orderly false (fun _ => False) [] s) →
    Safe (invoke code) (fun _ _ => True) r
  action : ∀ a r, r.session.machine.Admits a → Safe (invoke a) Machine.Follows r

/-- An answer to a transition leads to what is bound to the current state. -/
def Leads (call : Machine.Call I O W) (m : Machine I O W) (answer : Answer I O (Action I O W)) :
    Prop :=
  ∀ target t, call = .transition target → answer = .transition t → m.Follows t

variable {invoke : Recorded.Invocation I O W}

theorem serveAlone_safe {call : Machine.Call I O W} (alone : call.runsCode = false)
    (orderly : Call.Orderly call) (r : Recorded I O W) : Safe (serveAlone call) (Leads call) r := by
  refine Safe.calling fun hr result r' hx => ?_
  obtain ⟨⟨result', s'⟩, hs, he⟩ := Option.map_eq_some_iff.1 hx
  cases he
  have effect := Session.effect_of_serveAlone alone hs
  refine ⟨hr.become (effect.sound orderly hr.sound), fun e he => ?_,
    fun answer ha target t hc ht next hn => ?_⟩
  · cases he
    exact effect.usual
  · cases ha
    cases hc
    cases ht
    cases hn
    exact effect.boundHere

theorem perform_safe (deeper : SafeInvocation invoke) {op : Op I O W} (orderly : op.Orderly)
    (r : Recorded I O W) :
    Safe (perform invoke op) (fun _ _ => True) r := by
  match op, orderly with
  | _, .input i => exact (serveAlone_safe rfl (.plain rfl) r).bind fun _ _ _ => .pure trivial
  | _, .output i => exact (serveAlone_safe rfl (.plain rfl) r).bind fun _ _ _ => .pure trivial
  | _, .andThen hf hs =>
    exact (perform_safe deeper hf r).bind fun _ r' _ => perform_safe deeper hs r'
  | _, .custom h => exact (deeper.code _ r h).bind fun _ _ _ => .pure trivial

theorem drive_safe (deeper : SafeInvocation invoke) (n : Nat) {action : Action I O W}
    {r : Recorded I O W} (bound : r.session.machine.BoundHere action) :
    Safe (drive invoke n action) (fun _ _ => True) r :=
  Triple.drive (fun hr bound => hr.invoked bound)
    (fun hr bound => deeper.action _ _ (hr.sound.admits bound)) bound

theorem beginRun_safe (start : Start) (r : Recorded I O W) :
    Safe (unnoted (.ofAttempt (Session.beginRun start))) Machine.BoundHere r := by
  refine .unnoted fun result s' hb sound => ?_
  rcases Session.beginRun_cases hb with ⟨e, hl, rfl, rfl⟩ | ⟨action, hg, rfl, rfl⟩
  · refine ⟨sound, fun e' he => ?_, nofun⟩
    cases he
    exact Frame.usual_of_lookup hl
  · have hm := Session.machine_entering (Session.startState start r.session) r.session
    have wf := sound.wellFormed.withRegistry (sound.wellFormed.anchored.setCurrent hg)
    refine ⟨sound.congr (by rw [hm]; exact wf) (by rw [hm]) (by rw [hm]) (by rw [hm]; rfl), nofun,
      fun a ha => ?_⟩
    cases ha
    rw [Machine.BoundHere, hm]
    exact Registry.mem_of_get? hg

theorem endRun_safe (r : Recorded I O W) :
    Safe (unnoted (.ofAttempt Session.endRun)) (fun _ _ => True) r := by
  refine .unnoted fun result s' he sound => ?_
  rcases Session.endRun_cases r.session with hs | hs
  · rw [hs] at he
    cases he
    exact ⟨sound, nofun, fun _ _ => trivial⟩
  · have hm : s'.machine = r.session.machine.wound := by rw [← Session.machine_reset, ← hs, he]
    have hok : result = .ok () := congrArg Prod.fst (he.symm.trans hs)
    refine ⟨sound.congr ?_ (by rw [hm]; rfl) (by rw [hm]; rfl) (by rw [hm]; rfl), fun e hr => ?_,
      fun _ _ => trivial⟩
    · rw [hm]
      exact sound.wellFormed.wound
    · rw [hok] at hr
      cases hr

theorem executeWith_safe (deeper : SafeInvocation invoke) (fuel : Nat) (start : Start)
    (r : Recorded I O W) :
    Safe (executeWith invoke fuel start) (fun _ _ => True) r :=
  (beginRun_safe start r).bind fun _ _ bound =>
    (drive_safe deeper fuel bound).bind fun _ r' _ => endRun_safe r'

theorem serveWith_safe (deeper : SafeInvocation invoke) (fuel : Nat) {call : Machine.Call I O W}
    (orderly : Call.Orderly call) (r : Recorded I O W) :
    Safe (serveWith invoke fuel call) (Leads call) r := by
  cases hc : call.runsCode with
  | false =>
    rw [serveWith_eq_serveAlone hc]
    exact serveAlone_safe hc orderly r
  | true =>
    cases call with
    | apply op =>
      cases orderly with
      | plain hp => cases hp
      | apply ho => exact .calling ((perform_safe deeper ho _).bind fun _ _ _ => .pure nofun)
    | invoke state =>
      cases orderly with
      | plain hp => cases hp
    | execute start =>
      exact .calling ((executeWith_safe deeper fuel start _).bind fun _ _ _ => .pure nofun)
    | _ => cases hc

/-- Dispatching is safe in a state with a table: the branch that it chooses is orderly code. -/
theorem dispatch_safe (deeper : SafeInvocation invoke) (fuel : Nat) {r : Recorded I O W}
    (built : (r.session.machine.compiled r.session.machine.registry.current).isSome = true) :
    Safe (evalWith (serveWith invoke fuel) invoke .dispatch []) Machine.Follows r := by
  intro hr result r' hx
  simp only [evalWith] at hx
  cases hs : Session.selectBranch r.session with
  | mk found t =>
    obtain ⟨read, hread, hfound⟩ := Session.selectBranch_cases hs
    -- reading changes the input tapes alone
    have kept : t.machine.Sound ∧ t.machine.compiled = r.session.machine.compiled ∧
        t.machine.registry = r.session.machine.registry ∧ ∀ e, read = .error e → e.Usual := by
      rcases Session.onInputs_cases hread with
        ⟨e, he, rfl, rfl⟩ | ⟨symbol, event, bank, hb, rfl, hm, -⟩
      · refine ⟨hr.sound, rfl, rfl, fun e' he' => ?_⟩
        cases he'
        exact MachineError.usual_of_aboutTapes
          (Bank.aboutTapes_of_tracedRead (eq_error_of_map_eq_error he))
      · obtain ⟨⟨⟨value, told⟩, bank'⟩, hu, he⟩ := exists_of_map_eq_ok hb
        cases he
        have wf : t.machine.WellFormed := by
          rw [hm]
          exact hr.sound.wellFormed.withInputs (hr.sound.wellFormed.inputs.update hu)
        exact ⟨hr.sound.congr wf (by rw [hm]) (by rw [hm]) (by rw [hm]), by rw [hm]; rfl,
          by rw [hm], fun e he => by cases he⟩
    obtain ⟨sound, hcompiled, hregistry, husual⟩ := kept
    have still : (t.machine.compiled t.machine.registry.current).isSome = true := by
      rw [hcompiled, hregistry]
      exact built
    rw [hs] at hx
    rcases hfound with ⟨e, rfl, rfl⟩ | ⟨symbol, rfl, hf⟩
    · cases hx
      refine ⟨hr.become sound, fun e' he => ?_, fun a ha => by cases ha⟩
      cases he
      exact husual e rfl
    · obtain ⟨branch, hb, conducts⟩ := sound.select still symbol
      rw [hb] at hf
      subst hf
      exact deeper.action branch (r.become t) (.inl conducts) (hr.become sound) result r' hx

/-- The transitions held come from the bindings of the moment they were made. -/
def Backed (held : List (Held I O W)) : Prop :=
  ∀ h ∈ held, ∀ since next, h.since = some since → h.transition = .enter next →
    (since.current, next) ∈ since.bindings

omit [BEq I] [BEq O] in
theorem Backed.append {held : List (Held I O W)} (h : Backed held) {call : Machine.Call I O W}
    {answer : Answer I O (Action I O W)} {m : Machine I O W} (leads : Leads call m answer) :
    Backed (answer.held call m.registry ++ held) := by
  intro t ht since next hs hn
  rcases List.mem_append.1 ht with ht | ht
  · obtain ⟨transition, hmem, rfl⟩ := List.mem_map.1 ht
    cases answer with
    | transition t' =>
      rw [List.mem_singleton.1 hmem] at hn
      cases call with
      | transition target =>
        cases hs
        exact leads target t' rfl rfl next hn
      | _ => cases hs
    | _ => cases hmem
  · exact h t ht since next hs hn

omit [BEq I] [BEq O] in
/-- A held transition that may still be followed leads to what is bound to the current state. -/
theorem Backed.follows {held : List (Held I O W)} (h : Backed held) {m : Machine I O W} {i : Nat}
    (current : ∀ t, held[i]? = some t → t.Current m.registry) :
    m.Follows ((held.map Held.transition)[i]?.getD .halt) := by
  intro next hn
  rw [List.getElem?_map] at hn
  cases ht : held[i]? with
  | none =>
    rw [ht] at hn
    cases hn
  | some t =>
    rw [ht] at hn
    rcases current t ht with hh | ⟨since, hs, stays⟩
    · rw [Option.map_some, hh] at hn
      cases hn
    · have hmem := h t (List.mem_of_getElem? ht) since next hs hn
      rw [Machine.BoundHere, stays.current]
      exact stays.bindings.subset hmem

omit [BEq I] [BEq O] in
theorem held_map_transition (answer : Answer I O (Action I O W)) (call : Machine.Call I O W)
    (after : Registry (Action I O W)) :
    (answer.held call after).map Held.transition = answer.transitions := by
  cases answer <;> rfl

/-- Orderly code is safe. The induction is on the tree; each call is answered as it is without the
record, so orderly code goes on orderly. -/
theorem evalWith_safe {n : Nat} (deeper : SafeInvocation (eval (I := I) (O := O) (W := W) n))
    (a : Action I O W) {followed : Bool} {passed : MachineError → Prop} {held : List (Held I O W)}
    {r : Recorded I O W} (orderly : a.Orderly followed passed held r.session)
    (usual : ∀ e, passed e → e.Usual) (backed : Backed held) :
    Safe (evalWith (serveWith (eval n) n) (eval n) a (held.map Held.transition))
      (fun m t => followed = true → m.Follows t) r := by
  match a, orderly with
  | .halt, .halt => exact .pure fun _ => nofun
  | .proceed i, .proceed h => exact .pure fun hf => backed.follows (h hf)
  | .fail e, .fail h =>
    intro hr result r' hx
    cases hx
    refine ⟨hr, fun e' he => ?_, nofun⟩
    cases he
    exact usual e h
  | .enter next, .enter => exact .pure nofun
  | .call request next, .call hreq ok error =>
    intro hr result r' hx
    simp only [evalWith] at hx
    cases hs : serveWith (eval n) n request r with
    | none => simp [hs] at hx
    | some p =>
      obtain ⟨found, t⟩ := p
      obtain ⟨hc, hu, hp⟩ := serveWith_safe deeper n hreq r hr found t hs
      have served : Session.serve n request r.session = some (found, t.session) := by
        rw [← serve_eq]
        exact congrArg (Option.map _) hs
      rw [hs] at hx
      cases found with
      | error e =>
        refine evalWith_safe deeper (next (.error e)) (error n e _ served)
          (fun e' he => ?_) backed hc result r' hx
        rcases he with rfl | he
        · exact hu e' rfl
        · exact usual e' he
      | ok answer =>
        refine evalWith_safe deeper (next (.ok answer.shape)) (ok n answer _ served) usual
          (backed.append (hp answer rfl)) hc result r' ?_
        rw [List.map_append, held_map_transition]
        exact hx
  | .inspect next, .inspect h =>
    exact fun hr result r' hx => evalWith_safe deeper (next r.session.machine.outline) h
      (fun e he => he.elim (MachineError.usual_of_aboutTapes ·.aboutTapes) (usual e)) backed
        hr result r' hx
  | .outside change next, .outside h =>
    exact fun hr result r' hx => evalWith_safe deeper (next (change r.session.world)) h usual backed
      (hr.become (s := { r.session with world := change r.session.world }) hr.sound) result r' hx

/-- Running code is safe, whatever the fuel. -/
theorem eval_safe (n : Nat) : SafeInvocation (eval (I := I) (O := O) (W := W) n) := by
  induction n with
  | zero => exact ⟨fun _ _ _ _ _ _ hx => (nomatch hx), fun _ _ _ _ _ _ hx => (nomatch hx)⟩
  | succ n ih =>
    refine ⟨fun code r orderly => ?_, fun a r admitted => ?_⟩
    · exact (evalWith_safe ih code (orderly _) nofun nofun).mono fun _ _ _ => trivial
    · rcases admitted with conducts | ⟨rfl, built⟩
      · exact (evalWith_safe ih a (conducts _) nofun nofun).mono fun _ _ h => h rfl
      · exact dispatch_safe ih n built

theorem serve_safe (fuel : Nat) {call : Machine.Call I O W} (orderly : Call.Orderly call)
    (r : Recorded I O W) : Safe (serve fuel call) (Leads call) r :=
  serveWith_safe (eval_safe fuel) fuel orderly r

/-- A run stands in order: it is in front of an action that is bound to the current state, or it
ended without the error of a missing table. -/
structure Stands (x : Standing (Action I O W) (Recorded I O W)) : Prop where
  clean : x.state.Clean
  going : ∀ next r, x = .going next r → r.session.machine.BoundHere next
  ended : ∀ e r, x = .ended (.error e) r → e.Usual

/-- A run that need not end stands in order after any number of actions. -/
theorem underway_safe {fuel n : Nat} {start : Start} {r : Recorded I O W}
    {x : Standing (Action I O W) (Recorded I O W)} (clean : r.Clean)
    (h : underway fuel n start r = some x) : Stands x := by
  obtain ⟨hc, going, ended⟩ := Triple.underway (fun hr bound => Clean.invoked hr bound)
    (fun hr bound => (eval_safe fuel).action _ _ (hr.sound.admits bound)) (beginRun_safe start _)
    (clean.made _) h
  exact ⟨hc, going, ended⟩

end Recorded

/-! ## Wherever orderly calls lead -/

theorem Machine.sound_fresh (config : Config) : Sound ({ config := config } : Machine I O W) :=
  ⟨.start config, nofun, nofun, nofun⟩

theorem Session.Reached.sound {config : Config} {world : W} {s : Session I O W}
    (h : (Session.fresh config world).Reached Call.Orderly s) : s.machine.Sound := by
  induction h with
  | start => exact Machine.sound_fresh config
  | outside world _ ih => exact ih
  | call _ orderly answer ih =>
    obtain ⟨record, hr⟩ := Recorded.exists_serve (r := ⟨_, []⟩) answer
    exact (Recorded.serve_safe _ orderly _ (.start ih) _ _ hr).1.sound

/-- Wherever orderly calls lead from a new machine, an orderly call is not answered with the error
of a missing table. No more is any call on its record, and whenever a run on its record, at whatever
depth, invokes the dispatching action, that is bound to the current state and the state has a table.
The same holds of a run that does not end, after any number of actions. -/
theorem Session.Reached.dispatches {config : Config} {world : W} {s : Session I O W}
    (h : (Session.fresh config world).Reached Call.Orderly s) :
    (∀ call fuel result s', Call.Orderly call → serve fuel call s = some (result, s') →
      (∀ state, result ≠ .error (.noCompiledExpression state)) ∧
      ∃ record, Recorded.serve fuel call ⟨s, []⟩ = some (result, ⟨s', record⟩) ∧
        ∀ m ∈ record, m.Clean) ∧
    ∀ fuel n start x, Recorded.underway fuel n start ⟨s, []⟩ = some x →
      (∀ m ∈ x.state.record, m.Clean) ∧
      (∀ e r, x = .ended (.error e) r → ∀ state, e ≠ .noCompiledExpression state) ∧
      ∀ r, x = .going .dispatch r → r.session.machine.BoundHere .dispatch ∧
        (r.session.machine.compiled r.session.machine.registry.current).isSome = true := by
  have clean : Recorded.Clean (⟨s, []⟩ : Recorded I O W) := .start h.sound
  refine ⟨fun call fuel result s' orderly answer => ?_, fun fuel n start x hx => ?_⟩
  · obtain ⟨record, hr⟩ := Recorded.exists_serve (r := ⟨s, []⟩) answer
    obtain ⟨hc, hu, -⟩ := Recorded.serve_safe fuel orderly _ clean _ _ hr
    exact ⟨fun state he => hu _ he state rfl, record, hr, hc.record⟩
  · have stands := Recorded.underway_safe clean hx
    refine ⟨stands.clean.record, stands.ended, fun r hr => ?_⟩
    subst hr
    have bound := stands.going _ _ rfl
    exact ((stands.clean.invoked bound).record _ List.mem_cons_self).dispatched rfl

/-- A raw state makes a transition to a built one, builds everything again and only then goes on
with the transition; an instruction of the built state builds in the middle of the run once more. -/
theorem Session.Reached.dispatches_rebuilt :
    ∃ s s' : Session Bool Bool Unit, (Session.fresh {} ()).Reached Call.Orderly s ∧
      ∃ answer record, Recorded.serve 8 (.execute (.state 3)) ⟨s, []⟩ =
        some (.ok answer, ⟨s', record⟩) ∧
        (record.filter fun m =>
          match m.what with | .invoked .dispatch => true | _ => false).length = 2 ∧
        ∀ m ∈ record, m.Clean := by
  let rebuild : Op Bool Bool Unit := .custom (.call .build fun _ => .halt)
  let rules : List (Rule Bool (Op Bool Bool Unit)) :=
    [{ state := 1, read := true, write := some rebuild, next := some 2 },
      { state := 2, read := true }]
  let raw : Action Bool Bool Unit := .call (.transition (.goTo (some 1))) fun
    | .error e => .fail e
    | .ok _ => .call .build fun _ => .proceed 0
  let calls : List (Machine.Call Bool Bool Unit) :=
    rules.map .declare ++
      [.bind 3 raw, .build, .input .add, .input (.load none (.ofList [true]) none)]
  have rebuild_orderly : rebuild.Orderly :=
    .custom fun _ => .call (.plain rfl) (fun _ _ _ _ => .halt) fun _ _ _ _ => .halt
  have raw_conducts : raw.Conducts := by
    refine fun s => .call (.plain rfl) (fun _ answer s' _ => ?_) fun _ _ _ _ => .fail (.inl rfl)
    have proceeds : ∀ fuel result s'', Session.serve fuel .build s' = some (result, s'') →
        ∀ t : Held Bool Bool Unit,
          (answer.held (.transition (.goTo (some 1))) s'.machine.registry ++ [])[0]? = some t →
            t.Current s''.machine.registry := by
      intro fuel result s'' hb t ht
      have stays := (Session.effect_of_serve rfl hb).stays_of_build
      rw [List.append_nil] at ht
      exact Answer.current_of_mem_held stays (List.mem_of_getElem? ht)
    refine .call (.plain rfl) (fun fuel built s'' hb => .proceed fun _ t ht => ?_)
      fun fuel e s'' hb => .proceed fun _ t ht => proceeds fuel _ s'' hb t ht
    obtain ⟨r, -, hr⟩ := Run.of_answer (f := fun _ => Answer.done) hb
    obtain ⟨_, -, rfl⟩ := exists_of_map_eq_ok hr.symm
    exact proceeds fuel _ s'' hb t ht
  have all : ∀ call ∈ calls, Call.Orderly call := by
    simp only [calls, rules, List.map_cons, List.map_nil, List.cons_append, List.nil_append,
      List.forall_mem_cons]
    refine ⟨.declare ?_, .declare ?_, .bind raw_conducts, .plain rfl, .plain rfl, .plain rfl,
      fun _ hc => by cases hc⟩
    · rintro op (ho | ho | ho)
      · cases ho
        exact rebuild_orderly
      · cases ho
      · cases ho
    · rintro op (ho | ho | ho) <;> cases ho
  have run : ((Session.serveAll 8 calls (Session.fresh {} ())).bind fun s =>
      (Recorded.serve 8 (.execute (.state 3)) ⟨s, []⟩).map fun p => (p.1.toBool,
        (p.2.record.filter fun m =>
          match m.what with | .invoked .dispatch => true | _ => false).length)) =
      some (true, 2) := by
    decide +kernel
  obtain ⟨s, hs, hrun⟩ := Option.bind_eq_some_iff.1 run
  obtain ⟨⟨result, s', record⟩, hserve, hfacts⟩ := Option.map_eq_some_iff.1 hrun
  have reached := Session.Reached.start.serveAll all hs
  have answer : Session.serve 8 (.execute (.state 3)) s = some (result, s') := by
    rw [show s = (⟨s, []⟩ : Recorded Bool Bool Unit).session from rfl, ← Recorded.serve_eq, hserve]
    rfl
  obtain ⟨-, record', hr, clean⟩ := reached.dispatches.1 _ 8 result s' (.plain rfl) answer
  rw [hserve] at hr
  cases hr
  obtain ⟨hok, hcount⟩ := Prod.mk.inj hfacts
  cases result with
  | error e => cases hok
  | ok answer => exact ⟨s, s', reached, _, record, hserve, hcount, clean⟩

end TapeMachine
