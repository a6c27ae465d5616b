import Mathlib.Order.Bounds.Basic
import TapeMachine.Proofs.Programs.PrefixAcceptor

/-!
# What an acceptor accepts

An acceptor answers how far its target goes on along the cells, and where that leaves the head. Two
acceptors one after the other are not quite one for both targets: the second one starts on the input
as it was given, and not on the tape that the first one left. If the first target goes to the end of
the input or beyond, the head of the second one is on no cell.

Results:
1. `isGreatest_matched`, `matched_append`: the longest match, and how it goes on from one target to
   the next.
2. `accept_longest_match`: the answers of an acceptor, for every input, target, head and
   configuration.
3. `acceptBoth_agrees_unless_used_up`: two acceptors answer what one for both targets does, except
   when the first target uses the input up; `exists_acceptBoth_refused`: then they fail where the
   one gives its verdict.
-/

namespace TapeMachine.Programs.PrefixAcceptor

variable {T : Type} [BEq T]

/-! ## The longest match -/

/-- The first `k` symbols of the target equal the cells from a position on, over blanks where the
cells end. -/
def Agrees (blank : T) (cells : List T) (position : Nat) (target : List T) (k : Nat) : Prop :=
  k ≤ target.length ∧
    ∀ i symbol, i < k → target[i]? = some symbol →
    (symbol == cells[position + i]?.getD blank) = true

variable {blank : T} {cells target first second : List T} {position k : Nat} {symbol : T}

theorem agrees_zero : Agrees blank cells position target 0 :=
  ⟨Nat.zero_le _, fun _ _ h => nomatch h⟩

theorem agrees_cons_succ : Agrees blank cells position (symbol :: target) (k + 1) ↔
    (symbol == cells[position]?.getD blank) = true ∧
    Agrees blank cells (position + 1) target k := by
  constructor
  · intro ⟨le, same⟩
    refine ⟨same 0 symbol (Nat.succ_pos k) rfl, Nat.le_of_succ_le_succ le,
      fun i other lt found => ?_⟩
    rw [Nat.add_assoc, Nat.add_comm 1]
    exact same (i + 1) other (Nat.succ_lt_succ lt) found
  · intro ⟨now, le, same⟩
    refine ⟨Nat.succ_le_succ le, fun i other lt found => ?_⟩
    cases i with
    | zero =>
      cases found
      exact now
    | succ i =>
      rw [Nat.add_comm i, ← Nat.add_assoc]
      exact same i other (Nat.lt_of_succ_lt_succ lt) found

/-- As much of the target matches as agrees with the cells, and no more. -/
theorem isGreatest_matched (blank : T) (cells : List T) (position : Nat) (target : List T) :
    IsGreatest {k | Agrees blank cells position target k}
      (matched blank cells position target) := by
  induction target generalizing position with
  | nil => exact ⟨agrees_zero, fun k h => h.1⟩
  | cons symbol rest ih =>
    obtain ⟨longest, bound⟩ := ih (position + 1)
    rw [matched]
    split
    · next same =>
      refine ⟨agrees_cons_succ.2 ⟨same, longest⟩, fun k h => ?_⟩
      cases k with
      | zero => exact Nat.zero_le _
      | succ k => exact Nat.succ_le_succ (bound (agrees_cons_succ.1 h).2)
    · next other =>
      refine ⟨agrees_zero, fun k h => ?_⟩
      cases k with
      | zero => exact Nat.le_refl 0
      | succ k => exact (other (agrees_cons_succ.1 h).1).elim

theorem matched_le_length (blank : T) (cells : List T) (position : Nat) (target : List T) :
    matched blank cells position target ≤ target.length :=
  (isGreatest_matched blank cells position target).1.1

/-- A target is followed by another: the match goes on into it exactly if the first one matches as a
whole. -/
theorem matched_append (blank : T) (cells : List T) (position : Nat) (first second : List T) :
    matched blank cells position (first ++ second) =
      if matched blank cells position first = first.length
      then first.length + matched blank cells (position + first.length) second
      else matched blank cells position first := by
  induction first generalizing position with
  | nil => simp [matched]
  | cons symbol rest ih =>
    rw [List.cons_append, matched, matched, ih]
    cases symbol == cells[position]?.getD blank with
    | false => simp
    | true =>
      simp only [↓reduceIte, List.length_cons, Nat.add_right_cancel_iff, Nat.add_assoc,
        Nat.add_comm 1]
      split <;> omega

/-! ## Answers -/

variable [Inhabited T]

/-- The answer of an acceptor. -/
def acceptance (input : Sequence T) (head : Nat) (target : List T) :
    Except MachineError Acceptance :=
  if target.isEmpty then .error .emptyRuleSet
  else if input.count ≤ head then .error (.staleHead head input.count)
  else .ok ⟨head + matched default input.toList head target,
    matched default input.toList head target == target.length⟩

/-- The answer of two acceptors, the second one from where the first one left the head. -/
def acceptanceOfBoth (input : Sequence T) (first second : List T) :
    Except MachineError Acceptance :=
  match acceptance input 0 first with
  | .ok ⟨head, true⟩ => acceptance input head second
  | r => r

variable [Text.Legible T] {input : Sequence T} {fuel : Nat}

theorem exists_accept_eq (config : Config) (input : Sequence T) (head : Nat)
    (enough : target.length + 1 ≤ fuel) :
    ∃ log, accept fuel config head input target = some ⟨acceptance input head target, log⟩ := by
  cases target with
  | nil => exact exists_accept_nil
  | cons symbol rest =>
    have ne : symbol :: rest ≠ [] := List.cons_ne_nil symbol rest
    rw [acceptance, List.isEmpty_cons, if_neg Bool.false_ne_true]
    split
    · next stale =>
      rw [List.length_cons] at enough
      exact exists_accept_of_stale ne stale (by omega)
    · next live => exact exists_accept ne (Nat.lt_of_not_le live) enough

theorem exists_acceptBoth_eq (config : Config) (input : Sequence T)
    (enough : first.length + 1 ≤ fuel) (enough' : second.length + 1 ≤ fuel) :
    ∃ log, acceptBoth fuel config input first second =
      some ⟨acceptanceOfBoth input first second, log⟩ := by
  obtain ⟨log, h⟩ := exists_accept_eq config input 0 enough
  rw [acceptBoth, acceptanceOfBoth, h]
  match acceptance input 0 first with
  | .error e => exact ⟨log, rfl⟩
  | .ok ⟨head, false⟩ => exact ⟨log, rfl⟩
  | .ok ⟨head, true⟩ =>
    obtain ⟨log', h'⟩ := exists_accept_eq config input head enough'
    exact ⟨log ++ log', by simp only [h', Option.map_some]⟩

/-- An acceptor without a symbol to match is refused, and so is one whose head is on no cell. Any
other one is answered: the head goes on along the longest match of the target with the cells, over
blanks where they end, and the verdict is whether that is the whole target. -/
theorem accept_longest_match (config : Config) (head : Nat) (input : Sequence T) (target : List T)
    {fuel : Nat} (enough : target.length + 1 ≤ fuel) :
    ∃ result log k, accept fuel config head input target = some ⟨result, log⟩ ∧
      IsGreatest {k | Agrees default input.toList head target k} k ∧
      (target = [] → result = .error .emptyRuleSet) ∧
      (target ≠ [] → input.count ≤ head → result = .error (.staleHead head input.count)) ∧
      (target ≠ [] → head < input.count → result = .ok ⟨head + k, k == target.length⟩) := by
  obtain ⟨log, h⟩ := exists_accept_eq config input head enough
  refine ⟨_, log, _, h, isGreatest_matched default input.toList head target, ?_, ?_, ?_⟩
  · rintro rfl
    rfl
  · intro ne stale
    rw [acceptance, if_neg (mt List.isEmpty_iff.1 ne), if_pos stale]
  · intro ne live
    rw [acceptance, if_neg (mt List.isEmpty_iff.1 ne), if_neg (Nat.not_le_of_lt live)]

/-- The match goes beyond the input: the blank there is one of the symbols of the target, the one
after it is not. -/
theorem accept_longest_match_beyond_input :
    4 + 1 ≤ 5 ∧ 1 < (Sequence.ofList ["x", "a", "b"]).count ∧
      ∃ log, accept 5 ⟨true, true⟩ 1 (.ofList ["x", "a", "b"]) ["a", "b", "", "c"] =
        some ⟨.ok ⟨4, false⟩, log⟩ := by
  have live : 1 < (Sequence.ofList ["x", "a", "b"]).count := by decide
  obtain ⟨result, log, k, h, longest, -, -, answered⟩ :=
    accept_longest_match ⟨true, true⟩ 1 (.ofList ["x", "a", "b"]) ["a", "b", "", "c"]
      (Nat.le_refl 5)
  have hk : k = 3 := by
    refine longest.unique ?_
    rw [Sequence.toList_ofList]
    exact isGreatest_matched "" ["x", "a", "b"] 1 ["a", "b", "", "c"]
  refine ⟨Nat.le_refl 5, live, log, ?_⟩
  rw [h, answered (List.cons_ne_nil _ _) live, hk]
  rfl

/-! ## Two acceptors -/

omit [Text.Legible T] in
/-- The second acceptor starts on the input as it was given, so it can go on only if the first
target has left a cell of it. -/
theorem acceptanceOfBoth_eq (ne : first ≠ []) (ne' : second ≠ []) (inside : 0 < input.count) :
    ∃ whole, acceptance input 0 (first ++ second) = .ok whole ∧
      acceptanceOfBoth input first second =
        if first.length ≤ whole.head ∧ input.count ≤ first.length
        then .error (.staleHead first.length input.count) else .ok whole := by
  have at_front {target : List T} (h : target ≠ []) : acceptance input 0 target =
      .ok ⟨matched default input.toList 0 target,
          matched default input.toList 0 target == target.length⟩ := by
    rw [acceptance, if_neg (mt List.isEmpty_iff.1 h),
      if_neg (Nat.not_le_of_lt inside), Nat.zero_add]
  have hle := matched_le_length default input.toList 0 first
  have happend := matched_append default input.toList 0 first second
  refine ⟨_, at_front (List.append_ne_nil_of_left_ne_nil ne second), ?_⟩
  rw [acceptanceOfBoth, at_front ne]
  by_cases whole : matched default input.toList 0 first = first.length
  · -- the first target matches as a whole, so the second one decides
    rw [if_pos whole, Nat.zero_add] at happend
    rw [whole, beq_self_eq_true, happend]
    simp only [acceptance, List.isEmpty_iff, ne', ↓reduceIte, Nat.le_add_right, true_and]
    by_cases used_up : input.count ≤ first.length
    · rw [if_pos used_up, if_pos used_up]
    · have both : (first.length + matched default input.toList first.length second ==
          first.length + second.length) =
              (matched default input.toList first.length second == second.length) := by
        rw [Bool.eq_iff_iff, beq_iff_eq, beq_iff_eq, Nat.add_left_cancel_iff]
      rw [if_neg used_up, if_neg used_up, List.length_append, both]
  · rw [if_neg whole] at happend
    have short : ¬first.length ≤ matched default input.toList 0 first :=
      fun h => whole (Nat.le_antisymm hle h)
    have rejected : (matched default input.toList 0 first == first.length) = false :=
      beq_false_of_ne whole
    have rejected' : (matched default input.toList 0 first == (first ++ second).length) =
        false := by
      refine beq_false_of_ne fun h => short ?_
      rw [h, List.length_append]
      exact Nat.le_add_right _ _
    rw [happend, rejected, rejected', if_neg fun h => short h.1]

/-- On an input with cells, take two acceptors one after the other and one for both targets. The one
always gives a verdict. The two give the same one, head included, unless the match goes beyond the
first target and that target is as long as the input or longer. Then the second acceptor has no cell
to start on. -/
theorem acceptBoth_agrees_unless_used_up (config : Config) (input : Sequence T)
    (first second : List T) (inside : 0 < input.count) (ne : first ≠ []) (ne' : second ≠ [])
    {fuel : Nat} (enough : first.length + second.length + 1 ≤ fuel) :
    ∃ whole result log log', accept fuel config 0 input (first ++ second) = some ⟨.ok whole, log⟩ ∧
      acceptBoth fuel config input first second = some ⟨result, log'⟩ ∧
      result = if first.length ≤ whole.head ∧ input.count ≤ first.length
        then .error (.staleHead first.length input.count) else .ok whole := by
  obtain ⟨whole, hone, htwo⟩ := acceptanceOfBoth_eq ne ne' inside
  have enough_one : (first ++ second).length + 1 ≤ fuel := by rwa [List.length_append]
  obtain ⟨log, one⟩ := exists_accept_eq config input 0 enough_one
  obtain ⟨log', two⟩ := exists_acceptBoth_eq config input
    (show first.length + 1 ≤ fuel by omega) (show second.length + 1 ≤ fuel by omega)
  exact ⟨whole, _, log, log', by rw [one, hone], two, htwo⟩

/-- The second target goes on into the blanks behind the input, and the verdicts agree. -/
theorem acceptBoth_agrees_unless_used_up_in_blanks :
    0 < (Sequence.ofList ["a", "b"]).count ∧
      ∃ log log', accept 4 ⟨true, true⟩ 0 (.ofList ["a", "b"]) (["a"] ++ ["b", ""]) =
        some ⟨.ok ⟨3, true⟩, log⟩ ∧
        acceptBoth 4 ⟨true, true⟩ (.ofList ["a", "b"]) ["a"] ["b", ""] =
          some ⟨.ok ⟨3, true⟩, log'⟩ := by
  have inside : 0 < (Sequence.ofList ["a", "b"]).count := by decide
  obtain ⟨whole, result, log, log', one, two, agree⟩ :=
    acceptBoth_agrees_unless_used_up ⟨true, true⟩ (.ofList ["a", "b"]) ["a"] ["b", ""] inside
      (List.cons_ne_nil _ _) (List.cons_ne_nil _ _) (Nat.le_refl 4)
  obtain ⟨log'', one'⟩ : ∃ log, accept 4 ⟨true, true⟩ 0 (.ofList ["a", "b"]) ["a", "b", ""] =
      some ⟨acceptance (.ofList ["a", "b"]) 0 ["a", "b", ""], log⟩ :=
        exists_accept_eq _ _ _ (Nat.le_refl 4)
  have verdict : acceptance (Sequence.ofList ["a", "b"]) 0 ["a", "b", ""] = .ok ⟨3, true⟩ := by
    rw [acceptance, Sequence.toList_ofList]
    rfl
  rw [verdict] at one'
  cases one.symm.trans one'
  exact ⟨inside, log, log', one', by rw [two, agree]; rfl⟩

/-- The input is the first target. The one acceptor rejects it at the blank behind its end; of the
two, the second does not get to a verdict. -/
theorem exists_acceptBoth_refused :
    ∃ log log', accept 5 {} 0 (.ofList ["a", "b", "c"]) (["a", "b", "c"] ++ ["d"]) =
      some ⟨.ok ⟨3, false⟩, log⟩ ∧
      acceptBoth 5 {} (.ofList ["a", "b", "c"]) ["a", "b", "c"] ["d"] =
        some ⟨.error (.staleHead 3 3), log'⟩ := by
  obtain ⟨log, one⟩ : ∃ log, accept 5 {} 0 (.ofList ["a", "b", "c"]) ["a", "b", "c", "d"] =
      some ⟨acceptance (.ofList ["a", "b", "c"]) 0 ["a", "b", "c", "d"], log⟩ :=
        exists_accept_eq _ _ _ (Nat.le_refl 5)
  obtain ⟨log', two⟩ : ∃ log, acceptBoth 5 {} (.ofList ["a", "b", "c"]) ["a", "b", "c"] ["d"] =
      some ⟨acceptanceOfBoth (.ofList ["a", "b", "c"]) ["a", "b", "c"] ["d"], log⟩ :=
    exists_acceptBoth_eq _ _ (by decide) (by decide)
  have verdict : acceptance (Sequence.ofList ["a", "b", "c"]) 0 ["a", "b", "c", "d"] =
      .ok ⟨3, false⟩ := by
    rw [acceptance, Sequence.toList_ofList]
    rfl
  have refused : acceptanceOfBoth (Sequence.ofList ["a", "b", "c"]) ["a", "b", "c"] ["d"] =
      .error (.staleHead 3 3) := by
    rw [acceptanceOfBoth, acceptance, Sequence.toList_ofList]
    rfl
  exact ⟨log, log', by rw [← verdict]; exact one, by rw [two, refused]⟩

end TapeMachine.Programs.PrefixAcceptor
