import TapeMachine.Programs.Increment
import TapeMachine.Proofs.Programs.InputOnly

/-!
# What increment makes of a text

State 1 walks along the digits and comes to a stop at the first cell that is no digit: at a blank,
from which it steps back, or at a symbol that it has no rule for, where it stays. State 0 only takes
the first step. So the digits at the front of a text say how long the run is, what it leaves of the
text and what it has counted.

Results:
1. `branchFor_digit`, `branchFor_blank`, `branchFor_other`: what the rules say about each symbol.
2. `exists_pass`, `exists_stop`: a step on a digit, and the last step.
3. `exists_walk_returning`, `exists_walk`: by induction on the text, where the walk ends.
4. `program_reports`: the tape, the head and the counters at the end, for every text.
-/

namespace TapeMachine.Programs.Increment

open Tape

/-! ## Texts -/

/-- The digits that state 1 walks along. -/
def isDigit (c : Char) : Bool := c == '0' || c == '1'

/-- What state 1 leaves of a digit. -/
def passed : Variant → Char → Char
  | .plain, c => c
  | .flipping, c => if c = '0' then '1' else '0'

/-- How many cells state 1 writes on its way along some digits. -/
def written : Variant → Nat → Nat
  | .plain, _ => 0
  | .flipping, count => count

/-- The cell that some text starts on is blank, be it a cell of the text or the one behind an empty
text. -/
def startsBlank : List Char → Bool
  | [] => true
  | c :: _ => c == ' '

theorem digit_cases {c : Char} (h : isDigit c = true) : c = '0' ∨ c = '1' := by
  rcases Bool.or_eq_true_iff.1 h with h | h
  · exact .inl (eq_of_beq h)
  · exact .inr (eq_of_beq h)

/-! ## Rules -/

variable {variant : Variant}

theorem hasState_rules (variant : Variant) {state : Int} (h : state = 0 ∨ state = 1) :
    RuleSet.hasState ⟨rules variant⟩ state = true := by
  rcases h with rfl | rfl <;> cases variant <;> rfl

/-- The instructions of state 1 for a digit. -/
def passing (variant : Variant) (c : Char) : List (Op String Empty Unit) :=
  match variant with
  | .plain => [.moveInput .left]
  | .flipping => [.writeInput (String.singleton (passed .flipping c)), .moveInput .left]

theorem branchFor_start (variant : Variant) :
    branchFor (rules variant) 0 blank = some ⟨[.moveInput .left], some 1⟩ := by
  cases variant <;> rfl

theorem branchFor_digit (variant : Variant) {c : Char} (h : isDigit c = true) :
    branchFor (rules variant) 1 (String.singleton c) = some ⟨passing variant c, some 1⟩ := by
  rcases digit_cases h with rfl | rfl <;> cases variant <;> rfl

theorem branchFor_blank (variant : Variant) :
    branchFor (rules variant) 1 blank = some ⟨[.moveInput .right], none⟩ := by
  cases variant <;> rfl

/-- On any other symbol the first rule of state 1 says what to do, which is to halt. -/
theorem branchFor_other (variant : Variant) {c : Char} (space : c ≠ ' ') (h : isDigit c = false) :
    branchFor (rules variant) 1 (String.singleton c) = some ⟨[], none⟩ := by
  have differs {d : Char} (ne : c ≠ d) : (String.singleton d == String.singleton c) = false :=
    beq_false_of_ne fun e => ne (String.singleton_inj.1 e).symm
  obtain ⟨zero, one⟩ := Bool.or_eq_false_iff.1 h
  have h₁ : (" " == String.singleton c) = false := differs space
  have h₂ : ("0" == String.singleton c) = false := differs (ne_of_beq_false zero)
  have h₃ : ("1" == String.singleton c) = false := differs (ne_of_beq_false one)
  cases variant <;> simp [branchFor, rules, returning, Rule.moving, Rule.goingTo, Rule.writeSymbol,
    Rule.withMoves, blank, h₁, h₂, h₃, Rule.missing]

/-! ## Steps -/

/-- What is counted on the way along some digits. -/
def tally (variant : Variant) (count : Nat) : TapeStatistics :=
  { reads := count, writes := written variant count, movesLeft := count }

theorem add_tally_zero (variant : Variant) (done : TapeStatistics) :
    done.add (tally variant 0) = done := by
  cases variant <;> rfl

theorem add_tally_succ (variant : Variant) (done : TapeStatistics) (count : Nat) :
    (done.add (tally variant 1)).add (tally variant count) =
      done.add (tally variant (count + 1)) := by
  cases variant <;> simp [tally, written, TapeStatistics.add] <;> omega

/-- A tape at the end of the walk, with the cells that the head passed and what is behind them. On a
blank the head went one cell back. -/
structure Stopped (t : Tape String) (behind : List String) (rest : List Char)
    (done : TapeStatistics) : Prop where
  toList_eq : t.storage.toList = behind ++ orBlank blank (rest.map String.singleton)
  head_eq : t.head = if startsBlank rest then behind.length - 1 else behind.length
  statistics_eq : t.statistics =
    done.add { reads := 1, movesRight := if startsBlank rest then 1 else 0 }

variable {t : Tape String} {before after : List String} {last : String} {done : TapeStatistics}

/-- A step on a digit goes on in state 1. -/
theorem exists_pass {c : Char} (digit : isDigit c = true)
    (stands : t.Stands before (String.singleton c :: after) done) :
    ∃ t', Tape.step (rules variant) blank 1 t = some (some 1, t') ∧
      t'.Stands (before ++ [String.singleton (passed variant c)]) (orBlank blank after)
        (done.add (tally variant 1)) := by
  obtain ⟨t₁, hr, stands₁⟩ := stands.read_eq
  have chosen := branchFor_digit variant digit
  have known : (some (1 : Int)).all (RuleSet.hasState ⟨rules variant⟩) = true :=
    hasState_rules variant (.inr rfl)
  cases variant with
  | plain =>
    obtain ⟨shift, t', hm, stands'⟩ := stands₁.moveLeft_eq blank
    exact ⟨t', step_eq_some_iff.2 ⟨_, _, _, hr, chosen, foldlM_move hm, rfl, known⟩, stands'⟩
  | flipping =>
    have differs : (String.singleton c == String.singleton (passed .flipping c)) = false := by
      rcases digit_cases digit with rfl | rfl <;> rfl
    obtain ⟨old, t₂, hw, stands₂⟩ := stands₁.write_eq differs
    obtain ⟨shift, t', hm, stands'⟩ := stands₂.moveLeft_eq blank
    exact ⟨t',
      step_eq_some_iff.2
        ⟨_, _, _, hr, chosen, (foldlM_write hw).trans (foldlM_move hm), rfl, known⟩,
      stands'⟩

/-- On a blank the walk halts, and the head goes back to the cell that it comes from. -/
theorem exists_stop_of_blank (stands : t.Stands (before ++ [last]) (blank :: after) done) :
    ∃ t', Tape.step (rules variant) blank 1 t = some (none, t') ∧
      t'.Stands before (last :: blank :: after) (done.add { reads := 1, movesRight := 1 }) := by
  obtain ⟨t₁, hr, stands₁⟩ := stands.read_eq
  obtain ⟨shift, t', hm, stands'⟩ := stands₁.moveRight_eq (List.cons_ne_nil _ _) blank
  exact ⟨t', step_eq_some_iff.2 ⟨_, _, _, hr, branchFor_blank variant, foldlM_move hm, rfl, rfl⟩,
    stands'⟩

/-- On what is no digit the walk halts. -/
theorem exists_stop {rest : List Char} (stop : ∀ c ∈ rest.head?, isDigit c = false)
    (stands : t.Stands (before ++ [last]) (orBlank blank (rest.map String.singleton)) done) :
    ∃ t', Tape.step (rules variant) blank 1 t = some (none, t') ∧
      Stopped t' (before ++ [last]) rest done := by
  cases solid : startsBlank rest with
  | true =>
    obtain ⟨after, ahead_eq⟩ : ∃ after, orBlank blank (rest.map String.singleton) =
        blank :: after := by
      cases rest with
      | nil => exact ⟨[], rfl⟩
      | cons c rest =>
        cases eq_of_beq solid
        exact ⟨_, rfl⟩
    rw [ahead_eq] at stands
    obtain ⟨t', hstep, stands'⟩ := exists_stop_of_blank stands
    refine ⟨t', hstep, ?_, ?_, ?_⟩
    · rw [stands'.toList_eq, ahead_eq, List.append_cons]
    · rw [stands'.head_eq, solid, if_pos rfl, List.length_append]
      rfl
    · rw [stands'.statistics_eq, solid]
      rfl
  | false =>
    cases rest with
    | nil => cases solid
    | cons c rest =>
      obtain ⟨t', hr, stands'⟩ := stands.read_eq
      have chosen := branchFor_other variant (ne_of_beq_false solid) (stop c rfl)
      refine ⟨t', step_eq_some_iff.2 ⟨_, _, _, hr, chosen, rfl, rfl, rfl⟩,
        stands'.toList_eq, ?_, ?_⟩
      · rw [stands'.head_eq, solid]
        rfl
      · rw [stands'.statistics_eq, solid]
        rfl

/-! ## Walks -/

/-- From state 1 on, the head passes the digits that come next and stops behind them. -/
theorem exists_walk_returning (text : List Char)
    (stands : t.Stands (before ++ [last]) (orBlank blank (text.map String.singleton)) done) :
    ∃ t', walk (rules variant) blank ((text.takeWhile isDigit).length + 1) 1 t =
        some ((text.takeWhile isDigit).length + 1, 1, t') ∧
      Stopped t'
        ((before ++ [last]) ++ (text.takeWhile isDigit).map (String.singleton ∘ passed variant))
        (text.dropWhile isDigit) (done.add (tally variant (text.takeWhile isDigit).length)) := by
  -- induction on the text; a digit goes on with the text behind it
  induction text generalizing before last t done with
  | nil =>
    have ends : ∀ d ∈ ([] : List Char).head?, isDigit d = false := nofun
    obtain ⟨t', hstep, stopped⟩ := exists_stop ends stands
    refine ⟨t', walk_of_halt hstep, ?_⟩
    rw [List.takeWhile_nil, List.map_nil, List.append_nil, List.length_nil, add_tally_zero]
    exact stopped
  | cons c text ih =>
    cases digit : isDigit c with
    | true =>
      obtain ⟨t₁, hstep, stands₁⟩ := exists_pass digit stands
      obtain ⟨t', hrest, stopped⟩ := ih stands₁
      rw [List.takeWhile_cons_of_pos digit, List.dropWhile_cons_of_pos digit, List.length_cons,
        List.map_cons]
      refine ⟨t', walk_of_goTo hstep hrest, ?_⟩
      rw [add_tally_succ, List.append_assoc, List.singleton_append] at stopped
      exact stopped
    | false =>
      have ends : ∀ d ∈ (c :: text).head?, isDigit d = false := by
        rintro d ⟨⟩
        exact digit
      have no_digit : ¬isDigit c = true := by rw [digit]; exact Bool.false_ne_true
      obtain ⟨t', hstep, stopped⟩ := exists_stop ends stands
      rw [List.takeWhile_cons_of_neg no_digit, List.dropWhile_cons_of_neg no_digit, List.map_nil,
        List.append_nil, List.length_nil, add_tally_zero]
      exact ⟨t', walk_of_halt hstep, stopped⟩

/-- The digits at the front of a text. -/
def front (text : String) : List Char := text.toList.takeWhile isDigit

/-- What is behind the digits at the front of a text. -/
def remainder (text : String) : List Char := text.toList.dropWhile isDigit

/-- The walk of a text behind a blank ends behind the digits at its front. -/
theorem exists_walk (digits : String) (variant : Variant) :
    ∃ t, walk (rules variant) blank
      ((front digits).length + 2) 0 { storage := (sequence digits).prepend blank } =
        some ((front digits).length + 2, 1, t) ∧
      Stopped t (blank :: (front digits).map (String.singleton ∘ passed variant)) (remainder digits)
        (.add { reads := 1, movesLeft := 1 } (tally variant (front digits).length)) := by
  have stands : Stands { storage := (sequence digits).prepend blank } []
      (blank :: digits.toList.map String.singleton) {} :=
    ⟨by rw [Sequence.toList_prepend, sequence, Sequence.toList_ofList]; rfl, rfl, rfl⟩
  have known : (some (1 : Int)).all (RuleSet.hasState ⟨rules variant⟩) = true :=
    hasState_rules variant (.inr rfl)
  -- the first step leaves the blank in front of the text
  obtain ⟨t₁, hr, stands₁⟩ := stands.read_eq
  obtain ⟨shift, t₂, hm, stands₂⟩ := stands₁.moveLeft_eq blank
  obtain ⟨t, hwalk, stopped⟩ := exists_walk_returning digits.toList stands₂
  have hstep : Tape.step (rules variant) blank 0 { storage := (sequence digits).prepend blank } =
      some (some 1, t₂) :=
    step_eq_some_iff.2 ⟨_, _, _, hr, branchFor_start variant, foldlM_move hm, rfl, known⟩
  exact ⟨t, walk_of_goTo hstep hwalk, stopped⟩

/-! ## The program -/

/-- The program reports where the walk of its text ends. -/
theorem exists_program (config : Config) {digits : String} {variant : Variant} {n taken fuel : Nat}
    {final : Int} {t : Tape String}
    (h : walk (rules variant) blank n 0 { storage := (sequence digits).prepend blank } =
      some (taken, final, t))
    (enough : n + 1 ≤ fuel) :
    ∃ log, run config (program fuel digits variant) =
      some ⟨.ok ((walked blank ((sequence digits).prepend blank) (rules variant) taken t).under
          config), log⟩ := by
  obtain ⟨s, hs⟩ := exists_reporting config (hasState_rules variant (.inl rfl)) h enough
  have ran : program fuel digits variant (Session.fresh config ()) = some (_, s) := hs
  exact exists_run ran

/-- What the program reports about a text: the digits at its front are passed, and the rest is left
as it is, with one more blank if there is no rest. The head is before that blank or the one that the
rest begins with, and on any other symbol that it begins with. -/
theorem program_reports (config : Config) (keeps : config.resetAfterExecution = false)
    (digits : String) (variant : Variant) {fuel : Nat} (enough : digits.toList.length + 3 ≤ fuel) :
    ∃ report log, run config (program fuel digits variant) = some ⟨.ok report, log⟩ ∧
      report.tape = blank :: (front digits).map (String.singleton ∘ passed variant) ++
        (remainder digits).map String.singleton ++ (if remainder digits = [] then [blank] else []) ∧
      report.head =
        (if startsBlank (remainder digits) then (front digits).length
          else (front digits).length + 1) ∧
      report.statistics.counters.transitions = (front digits).length + 2 ∧
      report.statistics.inputTapes = [{
        reads := (front digits).length + 2
        writes := written variant (front digits).length
        movesLeft := (front digits).length + 1
        movesRight := if startsBlank (remainder digits) then 1 else 0 }] := by
  have shorter : (front digits).length ≤ digits.toList.length :=
    (List.takeWhile_sublist isDigit).length_le
  obtain ⟨t, hwalk, stopped⟩ := exists_walk digits variant
  obtain ⟨log, hlog⟩ :=
    exists_program config hwalk (Nat.le_trans (Nat.add_le_add_right shorter 3) enough)
  rw [Report.under, keeps, if_neg Bool.false_ne_true] at hlog
  refine ⟨_, log, hlog, ?_, ?_, rfl, ?_⟩
  · rw [walked, stopped.toList_eq, List.append_assoc]
    cases remainder digits with
    | nil => rfl
    | cons c rest => rw [if_neg (List.cons_ne_nil c rest), List.append_nil, List.map_cons, orBlank]
  · rw [walked, stopped.head_eq, List.length_cons, List.length_map, Nat.add_sub_cancel]
  · rw [walked, stopped.statistics_eq]
    simp only [TapeStatistics.add, tally, Nat.zero_add, Nat.add_zero, Nat.add_comm 1]

/-- Behind the digits there is a symbol that is no digit. -/
theorem program_reports_other_symbol :
    ({} : Config).resetAfterExecution = false ∧ "10x1".toList.length + 3 ≤ 7 ∧
      ∃ report log, run {} (program 7 "10x1" .flipping) = some ⟨.ok report, log⟩ ∧
        report.tape = [" ", "0", "1", "x", "1"] ∧ report.head = 3 ∧
        report.statistics.inputTapes = [{ reads := 4, writes := 2, movesLeft := 3 }] := by
  obtain ⟨report, log, hrun, htape, hhead, -, hstatistics⟩ :=
    program_reports {} rfl "10x1" .flipping (Nat.le_refl 7)
  exact ⟨rfl, Nat.le_refl 7, report, log, hrun, htape, hhead, hstatistics⟩

end TapeMachine.Programs.Increment
