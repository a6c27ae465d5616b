import TapeMachine.Proofs.Rules.BuildOrder

/-!
# How far a machine can count

Only calls that run no code add to the counters of a machine, and each of them is on record twice,
with its answer. A binding, a declaration and a transition add one. A building adds all rules at
once and binds all states at once, but no more of them than there were declarations. So the counters
grow at most with the square of the record, and for a short record a counter in a 64-bit word holds
the number that it stands for.

Results:
1. `Machine.Effect.within`: what one call adds.
2. `Recorded.kept_within`: every happening keeps the bounds.
3. `Recorded.Arises.toNat_counters`: so the counters fit into words.
-/

namespace TapeMachine

variable {I O W P : Type}

theorem RuleSet.length_states_le (rs : RuleSet I P) : rs.states.length ≤ rs.len := by
  have declared : rs.states ⊆ rs.rules.map Rule.state := fun state hs => by
    obtain ⟨rule, hr, rfl⟩ := RuleSet.hasState_iff_exists_mem.1 (RuleSet.mem_states.1 hs)
    exact List.mem_map_of_mem hr
  have le := (List.subperm_of_subset rs.nodup_states declared).length_le
  rwa [List.length_map] at le

theorem RuleSet.length_rulesFor_le (rs : RuleSet I P) (state : Int) :
    (rs.rulesFor state).length ≤ rs.len :=
  List.length_filter_le _ _

/-! ## Bounds -/

/-- The counters of the machine, and its rules, are no more than `n` moments can have brought
about. -/
structure Machine.Within (n : Nat) (m : Machine I O W) : Prop where
  rules : m.rules.len ≤ n
  declared : m.counters.rulesDeclared ≤ n
  transitions : m.counters.transitions ≤ n
  states : m.counters.states ≤ n * n
  built : m.counters.rulesBuilt ≤ n * n

namespace Machine

variable {m m' : Machine I O W} {n : Nat}

theorem within_start (config : Config) : Within 0 ({ config := config } : Machine I O W) :=
  ⟨Nat.le_refl _, Nat.le_refl _, Nat.le_refl _, Nat.le_refl _, Nat.le_refl _⟩

theorem Within.mono {n' : Nat} (h : m.Within n) (le : n ≤ n') : m.Within n' where
  rules := h.rules.trans le
  declared := h.declared.trans le
  transitions := h.transitions.trans le
  states := h.states.trans (Nat.mul_le_mul le le)
  built := h.built.trans (Nat.mul_le_mul le le)

/-- Bindings, tapes and tables do not count. -/
theorem Within.of_eq (h : m.Within n) (rules : m'.rules = m.rules)
    (counters : m'.counters = m.counters) :
    m'.Within n := by
  obtain ⟨hr, hd, ht, hs, hb⟩ := h
  exact ⟨by rwa [rules], by rwa [counters], by rwa [counters], by rwa [counters], by rwa [counters]⟩

/-- The square leaves room for one more and for `k ≤ n` more. -/
theorem add_le_square {k a n : Nat} (h : a ≤ n * n) (hk : k ≤ n + 1) :
    a + k ≤ (n + 2) * (n + 2) := by
  have : (n + 2) * (n + 2) = n * n + 4 * n + 4 := by
    rw [Nat.add_mul, Nat.mul_add]
    omega
  omega

/-- A call and its answer are two moments, and no call adds more than two moments allow. -/
theorem Effect.within [BEq I] [BEq O] {call : Machine.Call I O W}
    {result : Except MachineError (Answer I O (Action I O W))} (e : m.Effect call result m')
    (h : m.Within n) : m'.Within (n + 2) := by
  have later := h.mono (Nat.le_add_right n 2)
  have one := add_le_square h.states (Nat.le_add_left 1 n)
  cases e with
  | bound state action => exact { later with states := one }
  | shared hg => exact { later with states := one }
  | halted => exact { later with transitions := Nat.add_le_add h.transitions (by decide) }
  | entered hs hg => exact { later with transitions := Nat.add_le_add h.transitions (by decide) }
  | declared rule =>
    refine { later with rules := ?_, declared := Nat.add_le_add h.declared (by decide) }
    show (m.rules.rules ++ [rule]).length ≤ n + 2
    rw [List.length_append, List.length_singleton]
    exact Nat.add_le_add h.rules (by decide)
  | built =>
    have hr : m.built.rules = m.rules := by rw [built_eq]
    have states := m.rules.length_states_le.trans h.rules
    constructor
    · rw [hr]
      exact later.rules
    · rw [counters_built]
      exact later.declared
    · rw [counters_built]
      exact later.transitions
    · rw [counters_built]
      exact add_le_square h.states (Nat.le_succ_of_le states)
    · rw [counters_built]
      exact add_le_square h.built (Nat.le_succ_of_le h.rules)
  | @stateBuilt state hd =>
    have rules := (m.rules.length_rulesFor_le state).trans h.rules
    refine { later with states := one, built := ?_ }
    exact add_le_square h.built (Nat.le_succ_of_le rules)
  | _ => exact later.of_eq rfl rfl

end Machine

/-! ## Wherever calls lead -/

variable [BEq I] [BEq O]

namespace Recorded

/-- Every happening keeps the bounds, told by the length of the record. -/
theorem kept_within : Kept fun r : Recorded I O W => r.session.machine.Within r.record.length where
  made h := h.mono (Nat.le_succ _)
  answered _ h := h.mono (Nat.le_succ _)
  invoked h := h.mono (Nat.le_succ _)
  served alone h hs := (Session.effect_of_serveAlone alone hs).within h
  begun {r start} h := by
    have later := h.mono (Nat.le_succ r.record.length)
    cases hb : Session.beginRun start r.session with
    | mk found entered =>
      rcases Session.beginRun_cases hb with ⟨e, -, -, rfl⟩ | ⟨action, -, -, rfl⟩
      · exact later
      · have hm := Session.machine_entering (Session.startState start r.session) r.session
        exact later.of_eq (by rw [session_become, hm]) (by rw [session_become, hm])
  finished {r} h := by
    rcases Session.endRun_cases r.session with hs | hs
    · rw [hs]
      exact h
    · have hm := Session.machine_reset r.session
      rw [hs]
      exact h.of_eq (by rw [session_become, hm]; rfl) (by rw [session_become, hm]; rfl)
  selected {r} h := by
    cases hs : Session.selectBranch r.session with
    | mk found s' =>
      obtain ⟨bank, hm⟩ := Session.exists_inputs_of_selectBranch hs
      exact h.of_eq (by rw [session_become, hm]) (by rw [session_become, hm])
  touched h := h

/-- At every moment, in the middle of a run as well: unless so much has happened that the square of
the record is beyond 64 bits, each counter of the machine is held by a word. A word that adds up the
same amounts and wraps around is `UInt64.ofNat` of the number. -/
theorem Arises.toNat_counters {config : Config} {world : W} {r : Recorded I O W}
    (h : r.Arises (Session.fresh config world))
    (short : r.record.length * r.record.length < UInt64.size) :
    ∀ count ∈ [r.session.machine.counters.states, r.session.machine.counters.rulesDeclared,
        r.session.machine.counters.rulesBuilt, r.session.machine.counters.transitions],
      (UInt64.ofNat count).toNat = count := by
  have within := h _ kept_within (Machine.within_start config)
  have linear : r.record.length ≤ r.record.length * r.record.length := Nat.le_mul_self _
  intro count hc
  refine UInt64.toNat_ofNat_of_lt' (Nat.lt_of_le_of_lt ?_ short)
  simp only [List.mem_cons, List.not_mem_nil, or_false] at hc
  rcases hc with rfl | rfl | rfl | rfl
  · exact within.states
  · exact within.declared.trans linear
  · exact within.built
  · exact within.transitions.trans linear

end Recorded

end TapeMachine
