import TapeMachine.Text.Legible

/-!
# Rules

A rule says what to do in a state when a certain symbol is read. What "to do" means is left open:
the rules here are over any type `P` of instructions, so that all that concerns their order, their
grouping by state and their conditions can be said without it.
-/

namespace TapeMachine

/-- One case of a state: for the symbol `read`, write, move and go to `next`. The fallback belongs
to the state: if none of its rules matches, the fallback of its first rule is taken. -/
structure Rule (I P : Type) where
  state : Int
  read : I
  write : Option P := none
  fallback : Option P := none
  moves : Option P := none
  /-- The state after a match; `none` halts. -/
  next : Option Int := none
  /-- The state after a miss; `none` halts. -/
  fallbackNext : Option Int := none

/-- The rules in the order of their declaration. -/
structure RuleSet (I P : Type) where
  rules : List (Rule I P) := []

namespace Rule

variable {I P Q : Type}

def withWrite (r : Rule I P) (op : P) : Rule I P := { r with write := some op }

def withMoves (r : Rule I P) (op : P) : Rule I P := { r with moves := some op }

def goingTo (r : Rule I P) (state : Int) : Rule I P := { r with next := some state }

def otherwise (r : Rule I P) (op : P) : Rule I P := { r with fallback := some op }

def otherwiseGoingTo (r : Rule I P) (state : Int) : Rule I P :=
  { r with fallbackNext := some state }

/-- The same rule over other instructions. -/
def map (f : P → Q) (r : Rule I P) : Rule I Q :=
  { state := r.state, read := r.read, write := r.write.map f, fallback := r.fallback.map f,
    moves := r.moves.map f, next := r.next, fallbackNext := r.fallbackNext }

/-- The rule in a trace; of its instructions only which it has. -/
def debug [Text.Legible I] (r : Rule I P) : String :=
  let op := Text.debugOption fun _ => "Op(..)"
  Text.debugRecord "Rule"
    [("state", toString r.state), ("read", Text.debug r.read), ("write", op r.write),
      ("fallback", op r.fallback), ("moves", op r.moves),
      ("next", Text.debugOption toString r.next),
      ("fallback_next", Text.debugOption toString r.fallbackNext)]

end Rule

/-- Puts a state into a list of states in increasing order, unless it is there. -/
def insertState (state : Int) : List Int → List Int
  | [] => [state]
  | s :: rest =>
    if state < s then state :: s :: rest
    else if state = s then s :: rest
    else s :: insertState state rest

namespace RuleSet

variable {I P Q : Type}

def empty : RuleSet I P := {}

/-- Declares one more rule, after all others. -/
def add (rs : RuleSet I P) (rule : Rule I P) : RuleSet I P := ⟨rs.rules ++ [rule]⟩

def len (rs : RuleSet I P) : Nat := rs.rules.length

def isEmpty (rs : RuleSet I P) : Bool := rs.rules.isEmpty

/-- Some rule is declared for the state. -/
def hasState (rs : RuleSet I P) (state : Int) : Bool := rs.rules.any (·.state == state)

/-- The rules of a state, in the order of their declaration. -/
def rulesFor (rs : RuleSet I P) (state : Int) : List (Rule I P) :=
  rs.rules.filter (·.state == state)

/-- The declared states, each once, in increasing order. -/
def states (rs : RuleSet I P) : List Int := rs.rules.foldl (fun l r => insertState r.state l) []

/-- The same rules over other instructions. -/
def map (f : P → Q) (rs : RuleSet I P) : RuleSet I Q := ⟨rs.rules.map (Rule.map f)⟩

def debug [Text.Legible I] (rs : RuleSet I P) : String :=
  Text.debugRecord "RuleBuilder" [("rules", Text.debugList Rule.debug rs.rules)]

/-! ## Laws -/

/-- A rule more is one more rule of its own state, behind the others. -/
theorem rulesFor_add (rs : RuleSet I P) (rule : Rule I P) (state : Int) :
    (rs.add rule).rulesFor state =
      rs.rulesFor state ++ if rule.state = state then [rule] else [] := by
  by_cases h : rule.state = state <;> simp [rulesFor, add, h]

/-- A state is declared exactly if it has rules. -/
theorem hasState_iff_rulesFor_ne_nil {rs : RuleSet I P} {state : Int} :
    rs.hasState state = true ↔ rs.rulesFor state ≠ [] := by
  simp [hasState, rulesFor, List.filter_eq_nil_iff]

theorem hasState_iff_exists_mem {rs : RuleSet I P} {state : Int} :
    rs.hasState state = true ↔ ∃ rule ∈ rs.rules, rule.state = state := by
  simp [hasState]

theorem mem_insertState {state other : Int} {l : List Int} :
    other ∈ insertState state l ↔ other = state ∨ other ∈ l := by
  induction l with
  | nil => simp [insertState]
  | cons s rest ih =>
    unfold insertState
    split
    · simp
    · split
      · simp_all
      · simp only [List.mem_cons, ih]
        grind

/-- Inserting keeps a list strictly increasing. -/
theorem pairwise_insertState {state : Int} {l : List Int} (h : l.Pairwise (· < ·)) :
    (insertState state l).Pairwise (· < ·) := by
  induction l with
  | nil => simp [insertState]
  | cons s rest ih =>
    obtain ⟨hs, hr⟩ := List.pairwise_cons.1 h
    unfold insertState
    split
    · refine List.pairwise_cons.2 ⟨fun t ht => ?_, h⟩
      rcases List.mem_cons.1 ht with rfl | ht
      · assumption
      · have := hs t ht
        omega
    · split
      · exact h
      · refine List.pairwise_cons.2 ⟨fun t ht => ?_, ih hr⟩
        rcases mem_insertState.1 ht with rfl | ht
        · omega
        · exact hs t ht

/-- Inserting states one after the other adds just these to a list. -/
theorem mem_foldl_insertState {rules : List (Rule I P)} {l : List Int} {state : Int} :
    state ∈ rules.foldl (fun l r => insertState r.state l) l ↔
      state ∈ l ∨ ∃ rule ∈ rules, rule.state = state := by
  induction rules generalizing l with
  | nil => simp
  | cons rule rest ih =>
    rw [List.foldl_cons, ih, mem_insertState]
    constructor
    · rintro ((rfl | h) | ⟨r, hr, rfl⟩)
      · exact .inr ⟨rule, List.mem_cons_self, rfl⟩
      · exact .inl h
      · exact .inr ⟨r, List.mem_cons_of_mem _ hr, rfl⟩
    · rintro (h | ⟨r, hr, rfl⟩)
      · exact .inl (.inr h)
      · rcases List.mem_cons.1 hr with rfl | hr
        · exact .inl (.inl rfl)
        · exact .inr ⟨r, hr, rfl⟩

/-- The states of a rule set are those that some rule is declared for. -/
theorem mem_states {rs : RuleSet I P} {state : Int} :
    state ∈ rs.states ↔ rs.hasState state = true := by
  rw [states, mem_foldl_insertState, hasState_iff_exists_mem]
  simp

/-- The states come in strictly increasing order. -/
theorem pairwise_states (rs : RuleSet I P) : rs.states.Pairwise (· < ·) := by
  have insertAll : ∀ (rules : List (Rule I P)) (l : List Int), l.Pairwise (· < ·) →
      (rules.foldl (fun l r => insertState r.state l) l).Pairwise (· < ·) := by
    intro rules
    induction rules with
    | nil => exact fun l h => h
    | cons rule rest ih => exact fun l h => ih _ (pairwise_insertState h)
  exact insertAll rs.rules [] List.Pairwise.nil

theorem nodup_states (rs : RuleSet I P) : rs.states.Nodup :=
  rs.pairwise_states.imp fun h => Int.ne_of_lt h

end RuleSet

end TapeMachine
