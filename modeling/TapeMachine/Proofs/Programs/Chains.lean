import TapeMachine.Programs.Chains
import TapeMachine.Statistics

/-!
# What a trampoline invokes

A trampoline has no measure of its own: how long it runs is up to the chain it is given. So what it
does is told along the chain. To see the invocations, and not only how a chain ends, each one is
written down when it is made. That is done by the actions, whatever they are, and the trampoline
that runs them is the same one.

Results:
1. `trampoline_recording`: actions that are recorded run as they do without a record.
2. `CallChain.trampoline_eq`: a chain is invoked link by link, each link once, and one invocation
   less is not enough.
3. `Countdown.exists_chain`: the chain of the countdown, with exact numbers instead of words.
4. `trampoline_exact`: what every chain leads to, and the countdown.
-/

namespace TapeMachine

variable {F A T L : Type}

/-! ## Invocations on record -/

/-- The same answer, with something more to hand on. -/
def Bounce.along (more : L) : Bounce F A T → Bounce F (A × L) (T × L)
  | .continue next argument => .continue next (argument, more)
  | .done value => .done (value, more)

/-- The same end, with something more that came along. -/
def Outcome.along (more : L) : Outcome A T → Outcome (A × L) (T × L)
  | .argument last => .argument (last, more)
  | .value result => .value (result, more)

/-- The end without what came along. -/
def Outcome.alone : Outcome (A × L) (T × L) → Outcome A T
  | .argument last => .argument last.1
  | .value result => .value result.1

/-- The same actions, each of which writes down its invocation behind the earlier ones. -/
def recording (invoke : F → A → Option (Bounce F A T)) (action : F) :
    A × List (F × A) → Option (Bounce F (A × List (F × A)) (T × List (F × A)))
  | (argument, calls) => (invoke action argument).map (Bounce.along (calls ++ [(action, argument)]))

@[simp] theorem Outcome.alone_along (r : Outcome A T) (more : L) : (r.along more).alone = r := by
  cases r <;> rfl

section Recording

variable {invoke : F → A → Option (Bounce F A T)}

/-- The record changes nothing in a run. -/
theorem trampoline_recording (n : Nat) (action : Option F) (a : A) (seen : List (F × A)) :
    (trampoline (recording invoke) n action (a, seen)).map Outcome.alone =
      trampoline invoke n action a := by
  -- induction on the fuel; the record grows with every invocation
  induction n generalizing action a seen with
  | zero => cases action <;> rfl
  | succ n ih =>
    cases action with
    | none => rfl
    | some f =>
      rw [trampoline, trampoline, recording]
      cases invoke f a with
      | none => rfl
      | some b =>
        cases b with
        | «continue» next b => exact ih next b _
        | done v => rfl

/-! ## Chains -/

/-- The calls of a chain from an action and an argument on, and how it ends. Every call but the last
one answers with the action and the argument of the next call; the last one answers with a value, or
with no further action. -/
inductive CallChain (invoke : F → A → Option (Bounce F A T)) :
    F → A → List (F × A) → Outcome A T → Prop
  | value {f : F} {a : A} {v : T} :
  invoke f a = some (.done v) → CallChain invoke f a [(f, a)] (.value v)
  | argument {f : F} {a b : A} : invoke f a = some (.continue none b) →
    CallChain invoke f a [(f, a)] (.argument b)
  | link {f g : F} {a b : A} {calls : List (F × A)} {r : Outcome A T} : invoke f a =
    some (.continue (some g) b) →
      CallChain invoke g b calls r → CallChain invoke f a ((f, a) :: calls) r

namespace CallChain

variable {f : F} {a : A} {calls : List (F × A)} {r : Outcome A T}

/-- The calls on record are those of the chain, and it takes as many invocations as it has calls. -/
theorem trampoline_recording_eq (chain : CallChain invoke f a calls r) (n : Nat)
    (seen : List (F × A)) :
    trampoline (recording invoke) n (some f) (a, seen) =
      if calls.length ≤ n then some (r.along (seen ++ calls)) else none := by
  -- induction on the chain, for every bound and every record so far
  induction chain generalizing n seen with
  | @value f a v h =>
    cases n with
    | zero => rfl
    | succ n =>
      rw [trampoline, recording, h, List.length_singleton, if_pos (Nat.le_add_left 1 n)]
      rfl
  | @argument f a b h =>
    cases n with
    | zero => rfl
    | succ n =>
      rw [trampoline, recording, h, List.length_singleton, if_pos (Nat.le_add_left 1 n)]
      exact trampoline_none _ n _
  | @link f g a b calls r h _ ih =>
    cases n with
    | zero => rfl
    | succ n =>
      rw [trampoline, recording, h, List.length_cons]
      simp only [Option.map_some, Bounce.along, ih, Nat.add_le_add_iff_right, List.append_assoc,
        List.singleton_append]

/-- A chain ends as its last call says, after as many invocations as it has calls. -/
theorem trampoline_eq (chain : CallChain invoke f a calls r) (n : Nat) :
    trampoline invoke n (some f) a = if calls.length ≤ n then some r else none := by
  rw [← trampoline_recording n (some f) a [], chain.trampoline_recording_eq]
  split
  · rw [Option.map_some, Outcome.alone_along]
  · rfl

end CallChain

end Recording

/-! ## The countdown -/

namespace Programs.Countdown

/-- Whose turn it is `k` turns later. -/
def Turn.after (who : Turn) (k : Nat) : Turn := if k % 2 = 0 then who else who.other

/-- A turn with its two words as numbers. -/
def inNumbers : Turn × UInt64 × UInt64 → Turn × Nat × Nat
  | (who, remaining, turns) => (who, remaining.toNat, turns.toNat)

theorem after_other (who : Turn) (k : Nat) : who.other.after k = who.after (k + 1) := by
  unfold Turn.after
  have hk : k % 2 = 0 ∨ k % 2 = 1 := by omega
  rcases hk with even | odd
  · rw [if_pos even, if_neg (by omega)]
  · rw [if_neg (by omega), if_pos (by omega)]
    cases who <;> rfl

/-- From any turn on, as long as the turns to come can still be counted, what remains goes down to
zero by one at a time and the turns taken go up by one at a time. No word wraps: each holds the
number that it stands for. -/
theorem exists_chain (who : Turn) (remaining turns : UInt64)
    (fits : turns.toNat + remaining.toNat + 1 < UInt64.size) :
    ∃ calls total,
      CallChain (fun who a => some (turn who a)) who (remaining, turns) calls
        (.argument (0, total)) ∧
      total.toNat = turns.toNat + remaining.toNat + 1 ∧
      calls.map inNumbers = (List.range (remaining.toNat + 1)).map fun k =>
        (who.after k, remaining.toNat - k, turns.toNat + k) := by
  -- induction on what remains, for both players and every count of turns taken
  induction hn : remaining.toNat generalizing who remaining turns with
  | zero =>
    obtain rfl : remaining = 0 := UInt64.toNat_inj.1 hn
    exact ⟨[(who, 0, turns)], turns + 1, .argument rfl, toNat_next (by omega), rfl⟩
  | succ n ih =>
    have positive : remaining ≠ 0 := by
      rintro rfl
      cases hn
    have less : (remaining - 1).toNat = n := by
      rw [UInt64.toNat_sub_of_le _ _
        (UInt64.le_iff_toNat_le.2 (by rw [hn, UInt64.toNat_one]; omega)), hn,
        UInt64.toNat_one, Nat.add_sub_cancel]
    have hands_over : turn who (remaining, turns) = .continue (some who.other)
        (remaining - 1, turns + 1) := by
      rw [turn, if_neg positive]
    have counted : (turns + 1).toNat = turns.toNat + 1 := toNat_next (by omega)
    obtain ⟨calls, total, chain, htotal, hcalls⟩ :=
      ih who.other (remaining - 1) (turns + 1) (by omega) less
    refine ⟨(who, remaining, turns) :: calls, total, .link (congrArg some hands_over) chain,
      by omega, ?_⟩
    rw [List.map_cons, hcalls, List.range_succ_eq_map (n := n + 1), List.map_cons, List.map_map,
      inNumbers, hn]
    refine congrArg _ (List.map_congr_left fun k _ => ?_)
    rw [after_other, counted, Function.comp_apply, Nat.succ_eq_add_one, Nat.add_sub_add_right,
      Nat.add_assoc, Nat.add_comm 1]

end Programs.Countdown

open Programs.Countdown in
/-- What a trampoline does, for every chain.
1. It makes the calls of the chain, in their order and each of them once, and ends as the last one
   says. As many invocations as the chain has calls are enough, and one less is not.
2. Without an action it makes no call, and the argument comes back.
3. A countdown from any number but the largest takes one turn more than the number says. The two
   players take turns, what remains goes down from the number to zero, the turns taken go up from
   zero, and no word wraps. -/
theorem trampoline_exact :
    (∀ (F A T : Type) (invoke : F → A → Option (Bounce F A T)) (f : F) (a : A)
      (calls : List (F × A)) (r : Outcome A T), CallChain invoke f a calls r → ∀ n,
        trampoline invoke n (some f) a = (if calls.length ≤ n then some r else none) ∧
          trampoline (recording invoke) n (some f) (a, []) =
            if calls.length ≤ n then some (r.along calls) else none) ∧
    (∀ (F A T : Type) (invoke : F → A → Option (Bounce F A T)) (a : A) (n : Nat),
      trampoline invoke n none a = some (.argument a) ∧
        trampoline (recording invoke) n none (a, []) = some (.argument (a, []))) ∧
    ∀ start : UInt64, start.toNat < UInt64.size - 1 →
      (countdown start).toNat = start.toNat + 1 ∧
        ∃ calls, calls.map inNumbers =
            (List.range (start.toNat + 1)).map (fun k => (Turn.ping.after k, start.toNat - k, k)) ∧
          ∀ n, trampoline (recording fun who a => some (turn who a)) n (some .ping)
            ((start, 0), []) =
            if start.toNat + 1 ≤ n then some (.argument ((0, countdown start), calls))
              else none := by
  refine ⟨fun F A T invoke f a calls r chain n =>
    ⟨chain.trampoline_eq n, chain.trampoline_recording_eq n []⟩,
    fun F A T invoke a n => ⟨trampoline_none invoke n a, trampoline_none _ n _⟩,
    fun start below => ?_⟩
  obtain ⟨calls, total, chain, htotal, hcalls⟩ :=
    exists_chain .ping start 0 (by rw [UInt64.toNat_zero]; omega)
  rw [UInt64.toNat_zero, Nat.zero_add] at htotal
  have length : calls.length = start.toNat + 1 := by
    rw [← List.length_map inNumbers, hcalls, List.length_map, List.length_range]
  have answer : countdown start = total := by
    rw [countdown, chain.trampoline_eq, length, if_pos (Nat.le_refl _)]
  refine ⟨by rw [answer, htotal], calls, ?_, fun n => ?_⟩
  · simp only [hcalls, UInt64.toNat_zero, Nat.zero_add]
  · rw [chain.trampoline_recording_eq n [], length, answer]
    rfl

open Programs in
/-- Three steps end with a value, and a countdown from three with its fourth turn. -/
theorem trampoline_exact_three_steps :
    (trampoline (recording fun s a => some (Chain.step s a)) 3 (some .first) ([5], []) =
        some (.value ([5, 6, 7], [(.first, [5]), (.middle, [5]), (.last, [5, 6])])) ∧
      trampoline (fun s a => some (Chain.step s a)) 2 (some .first) [5] = none) ∧
    (3 : UInt64).toNat < UInt64.size - 1 ∧ Countdown.countdown 3 = 4 := by
  have chain : CallChain (fun s a => some (Chain.step s a)) .first [5]
      [(.first, [5]), (.middle, [5]), (.last, [5, 6])] (.value [5, 6, 7]) :=
    .link rfl (.link rfl (.value rfl))
  have below : (3 : UInt64).toNat < UInt64.size - 1 := by decide
  exact ⟨⟨(trampoline_exact.1 _ _ _ _ _ _ _ _ chain 3).2,
    (trampoline_exact.1 _ _ _ _ _ _ _ _ chain 2).1⟩, below,
    UInt64.toNat_inj.1 (trampoline_exact.2.2 3 below).1⟩

end TapeMachine
