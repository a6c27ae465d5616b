import TapeMachine.Code
import TapeMachine.Proofs.Tape.Line

/-!
# Turing machines

The textbook machine: a partial transition function over states and symbols, working on a two-way
infinite line. Where the function says nothing the machine halts, in a step that changes nothing. A
finite machine is written down as a table of rows, and each row as a rule.

Results:
1. `lists_delta`: a table with at most one row for each state and symbol lists the function it
   defines.
2. `find?_rows`: the rule that is found for a state and a symbol is the row of the function.
-/

namespace TapeMachine.Turing

variable {S O W : Type}

/-- What to do in a state that reads a symbol: write, move, go on or, without a next state, halt. -/
structure Effect (S : Type) where
  write : S
  direction : Direction
  next : Option Int

/-- A partial transition function. -/
abbrev Delta (S : Type) := Int → S → Option (Effect S)

structure Config (S : Type) where
  state : Int
  line : Line S

/-- The configuration after one step, and whether the machine goes on. Without a next state it stays
in the one it is in. -/
def step (δ : Delta S) (c : Config S) : Config S × Bool :=
  match δ c.state c.line.read with
  | none => (c, false)
  | some effect =>
    (⟨effect.next.getD c.state, (c.line.put effect.write).move effect.direction⟩,
      effect.next.isSome)

/-- The machine halts in `d` after `n` steps from `c`, the halting step being one of them. -/
inductive HaltsAfter (δ : Delta S) : Nat → Config S → Config S → Prop
  | halt {c d : Config S} (h : step δ c = (d, false)) : HaltsAfter δ 1 c d
  | more {c d e : Config S} {n : Nat} (h : step δ c = (d, true)) (rest : HaltsAfter δ n d e) :
      HaltsAfter δ (n + 1) c e

/-! ## Tables -/

/-- One entry of a transition table. -/
structure Row (S : Type) where
  state : Int
  read : S
  effect : Effect S

/-- The rows are just the entries of the transition function. -/
def Lists (rows : List (Row S)) (δ : Delta S) : Prop :=
  ∀ state read effect, δ state read = some effect ↔ ⟨state, read, effect⟩ ∈ rows

/-- Every state that a row leads to has a row. -/
def Closed (rows : List (Row S)) : Prop :=
  ∀ r ∈ rows, ∀ state ∈ r.effect.next, ∃ r' ∈ rows, r'.state = state

variable [BEq S]

/-- The transition function of a table: the first row counts. -/
def delta (rows : List (Row S)) : Delta S := fun state read =>
  (rows.find? fun r => r.state == state && r.read == read).map Row.effect

/-- The rule of a row. -/
def Row.rule (r : Row S) : Rule S (Op S O W) :=
  let rule := Rule.moving (.writeSymbol { state := r.state, read := r.read } r.effect.write)
    r.effect.direction
  match r.effect.next with
  | some state => rule.goingTo state
  | none => rule

theorem Row.rule_eq (r : Row S) :
    (r.rule : Rule S (Op S O W)) =
      { state := r.state, read := r.read
        write := if r.effect.write == r.read then none else some (.writeInput r.effect.write)
        moves := some (.moveInput r.effect.direction)
        next := r.effect.next } := by
  unfold rule
  cases h : r.effect.next <;> rfl

variable [LawfulBEq S] {rows : List (Row S)} {δ : Delta S}

theorem lists_delta
    (deterministic : rows.Pairwise fun r r' => r.state = r'.state → r.read ≠ r'.read) :
    Lists rows (delta rows) := by
  intro state read effect
  induction rows with
  | nil => simp [delta]
  | cons r rest ih =>
    obtain ⟨hr, hrest⟩ := List.pairwise_cons.1 deterministic
    cases hp : r.state == state && r.read == read with
    | true =>
      obtain ⟨hs, ha⟩ := Bool.and_eq_true_iff.1 hp
      obtain rfl := eq_of_beq hs
      obtain rfl := eq_of_beq ha
      have hd : delta (r :: rest) r.state r.read = some r.effect := by
        simp [delta]
      rw [hd, List.mem_cons]
      constructor
      · intro h
        obtain rfl := Option.some.inj h
        exact .inl rfl
      · rintro (h | h)
        · rw [← h]
        · exact absurd rfl (hr ⟨r.state, r.read, effect⟩ h rfl)
    | false =>
      have hd : delta (r :: rest) state read = delta rest state read := by
        simp only [delta, List.find?_cons, hp]
      rw [hd, ih hrest, List.mem_cons]
      constructor
      · exact .inr
      · rintro (h | h)
        · subst h
          simp at hp
        · exact h

/-- Where the function has an entry, the first rule for the state and the symbol is the rule of that
entry; elsewhere there is no such rule. -/
theorem find?_rows (lists : Lists rows δ) (state : Int) (read : S) :
    ((rows.map Row.rule : List (Rule S (Op S O W))).find? fun r => r.state == state &&
      r.read == read) = (δ state read).map fun effect => Row.rule ⟨state, read, effect⟩ := by
  have hkeys : ((fun r : Rule S (Op S O W) => r.state == state && r.read == read) ∘ Row.rule) =
      fun r : Row S => r.state == state && r.read == read := by
    funext r
    rw [Function.comp_apply, Row.rule_eq]
  rw [List.find?_map, hkeys]
  cases hf : rows.find? fun r => r.state == state && r.read == read with
  | none =>
    cases hd : δ state read with
    | none => rfl
    | some effect =>
      have hmem := (lists state read effect).1 hd
      have := List.find?_eq_none.1 hf _ hmem
      simp at this
  | some r =>
    have hp := List.find?_some hf
    obtain ⟨hs, ha⟩ := Bool.and_eq_true_iff.1 hp
    obtain rfl := eq_of_beq hs
    obtain rfl := eq_of_beq ha
    have hd : δ r.state r.read = some r.effect :=
      (lists _ _ _).2 (List.mem_of_find?_eq_some hf)
    rw [hd]
    rfl

end TapeMachine.Turing
