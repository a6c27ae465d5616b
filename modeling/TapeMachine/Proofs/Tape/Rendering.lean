import Mathlib.Data.List.Basic
import TapeMachine.Sequence.Lemmas
import TapeMachine.Tape.Render

/-!
# What a rendered tape tells

A rendered tape is one text, in which the separator, the brackets of the head, the signs of numbers
and the word for blanks stand side by side. It can be read back: it is cut at its commas, since no
cell holds one; a bracket in front marks the head; and the word for blanks is no number.

Results:
1. `Text.splitOn_joined`, `Text.joined_eq_iff`: texts without commas are found again between the
   commas.
2. `Tape.render_eq_iff_of_readable`: what two tapes with equal renderings have in common, for
   symbols whose cells are told apart.
3. `Tape.readable_int`: numbers are such symbols, whatever their blank is.
4. `Tape.render_unambiguous`: the same, put together for tapes of numbers.
-/

namespace TapeMachine

/-! ## Texts between commas -/

namespace Text

/-- A text that is seen between two commas: there is something, and no comma. -/
structure Unbroken (text : String) : Prop where
  ne_empty : text ≠ ""
  no_comma : ',' ∉ text.toList

theorem joined_cons_cons (x y : String) (rest : List String) :
    joined ", " (x :: y :: rest) = x ++ ", " ++ joined ", " (y :: rest) := rfl

/-- The pieces between the commas are the joined texts, all but the first behind a blank. -/
theorem splitOn_joined {x : String} {rest : List String}
    (no_comma : ∀ y ∈ x :: rest, ',' ∉ y.toList) :
    (joined ", " (x :: rest)).toList.splitOn ',' = x.toList :: rest.map (' ' :: ·.toList) := by
  -- induction on the texts that follow; each of them becomes the first one of a shorter text
  induction rest generalizing x with
  | nil => exact List.splitOn_eq_singleton (no_comma x List.mem_cons_self)
  | cons y rest ih =>
    have separated : (joined ", " (x :: y :: rest)).toList =
        x.toList ++ ',' :: ' ' :: (joined ", " (y :: rest)).toList := by
      rw [joined_cons_cons, String.toList_append, String.toList_append, List.append_assoc]
      rfl
    rw [separated, List.splitOn_append_cons_self_of_not_mem (no_comma x List.mem_cons_self),
      List.splitOn_cons_eq_if_modifyHead, if_neg (by decide), ih fun z hz =>
        no_comma z (List.mem_cons_of_mem x hz)]
    rfl

/-- A text of one or more joined texts is not empty. -/
theorem joined_ne_empty {x : String} {rest : List String} (hx : x ≠ "") :
    joined ", " (x :: rest) ≠ "" := by
  cases rest with
  | nil => exact hx
  | cons y rest =>
    intro h
    rw [joined_cons_cons, String.append_eq_empty_iff, String.append_eq_empty_iff] at h
    exact hx h.1.1

theorem joined_eq_iff {xs ys : List String} (hx : ∀ x ∈ xs, Unbroken x)
    (hy : ∀ y ∈ ys, Unbroken y) :
    joined ", " xs = joined ", " ys ↔ xs = ys := by
  refine ⟨fun h => ?_, congrArg _⟩
  cases xs with
  | nil =>
    cases ys with
    | nil => rfl
    | cons y ys => exact absurd h.symm (joined_ne_empty (hy y List.mem_cons_self).ne_empty)
  | cons x xs =>
    cases ys with
    | nil => exact absurd h (joined_ne_empty (hx x List.mem_cons_self).ne_empty)
    | cons y ys =>
      have pieces := congrArg (fun text : String => text.toList.splitOn ',') h
      rw [splitOn_joined fun z hz => (hx z hz).no_comma, splitOn_joined fun z hz =>
        (hy z hz).no_comma] at pieces
      obtain ⟨first, others⟩ := List.cons.inj pieces
      have injective : Function.Injective fun z : String => ' ' :: z.toList :=
        fun _ _ h => String.toList_inj.1 (List.cons.inj h).2
      rw [String.toList_inj.1 first, List.map_injective_iff.2 injective others]

/-- A text that can be told from one in brackets. -/
structure Bare (text : String) : Prop extends Unbroken text where
  no_bracket : '[' ∉ text.toList

theorem Unbroken.bracketed {x : String} (hx : Unbroken x) : Unbroken ("[" ++ x ++ "]") where
  ne_empty h := by
    rw [String.append_eq_empty_iff] at h
    exact absurd h.2 (by decide)
  no_comma h := by
    simp only [String.toList_append, List.mem_append] at h
    rcases h with (h | h) | h
    · exact absurd h (by decide)
    · exact hx.no_comma h
    · exact absurd h (by decide)

theorem Bare.ne_bracketed {x : String} (hx : Bare x) (y : String) : x ≠ "[" ++ y ++ "]" := by
  rintro rfl
  refine hx.no_bracket ?_
  rw [String.toList_append, String.toList_append]
  exact List.mem_append_left _ (List.mem_append_left _ (by decide))

/-- Two texts, in brackets or not, are equal if they are the same text and both or neither in
brackets. -/
theorem bracketed_eq_iff {p q : Prop} [Decidable p] [Decidable q] {x y : String} (hx : Bare x)
    (hy : Bare y) :
    (if p then "[" ++ x ++ "]" else x) = (if q then "[" ++ y ++ "]" else y) ↔ x = y ∧ (p ↔ q) := by
  by_cases hp : p <;> by_cases hq : q
  · simp only [hp, hq, ↓reduceIte, String.append_left_inj, String.append_right_inj, and_true]
  · simp only [hp, hq, ↓reduceIte, iff_false, not_true_eq_false, and_false,
      (hy.ne_bracketed x).symm]
  · simp only [hp, hq, ↓reduceIte, iff_true, and_false, hx.ne_bracketed y]
  · simp only [hp, hq, ↓reduceIte, and_true]

/-! ## Numbers -/

theorem isDigit_of_mem_repr {n : Nat} {c : Char} (h : c ∈ n.repr.toList) : c.isDigit = true := by
  rw [Nat.toList_repr] at h
  exact Nat.isDigit_of_mem_toDigits (by decide) (by decide) h

/-- A number is written with digits and a sign. -/
theorem isDigit_or_eq_minus {n : Int} {c : Char} (h : c ∈ n.repr.toList) :
    c.isDigit = true ∨ c = '-' := by
  rw [Int.repr_eq_if] at h
  split at h
  · exact .inl (isDigit_of_mem_repr h)
  · rw [String.toList_append, List.mem_append] at h
    exact h.symm.imp isDigit_of_mem_repr List.mem_singleton.1

/-- Digits without a sign can be read back. -/
theorem repr_nat_injective {m n : Nat} (h : m.repr = n.repr) : m = n := by
  have digits := congrArg String.toList h
  rw [Nat.toList_repr, Nat.toList_repr] at digits
  calc
    m = Nat.ofDigitChars 10 (Nat.toDigits 10 m) 0 := Nat.ofDigitChars_ten_toDigits.symm
    _ = Nat.ofDigitChars 10 (Nat.toDigits 10 n) 0 := by rw [digits]
    _ = n := Nat.ofDigitChars_ten_toDigits

/-- Numbers are told apart by what is written. -/
theorem repr_injective {m n : Int} (h : m.repr = n.repr) : m = n := by
  have unsigned (k : Nat) (text : String) : k.repr ≠ "-" ++ text := by
    intro he
    have sign : '-' ∈ k.repr.toList := by
      rw [he, String.toList_append]
      exact List.mem_append_left _ (by decide)
    exact absurd (isDigit_of_mem_repr sign) (by decide)
  rw [Int.repr_eq_if, Int.repr_eq_if] at h
  split at h <;> split at h
  · have := repr_nat_injective h
    omega
  · exact absurd h (unsigned _ _)
  · exact absurd h.symm (unsigned _ _)
  · have := repr_nat_injective ((String.append_right_inj _).1 h)
    omega

theorem repr_ne_empty (n : Int) : n.repr ≠ "" := by
  rw [Int.repr_eq_if]
  split
  · exact Nat.repr_ne_empty
  · rw [Ne, String.append_eq_empty_iff]
    exact fun h => absurd h.1 (by decide)

theorem bare_repr (n : Int) : Bare n.repr where
  ne_empty := repr_ne_empty n
  no_comma h := absurd (isDigit_or_eq_minus h) (by decide)
  no_bracket h := absurd (isDigit_or_eq_minus h) (by decide)

/-- The word for blanks is no number. -/
theorem repr_ne_blank (n : Int) : n.repr ≠ "blank" := by
  intro h
  have letter : 'b' ∈ n.repr.toList := by
    rw [h]
    decide
  exact absurd (isDigit_or_eq_minus letter) (by decide)

end Text

/-! ## Cells -/

namespace Tape

open Text (Bare Unbroken Legible bare_repr repr_ne_blank)

variable {S : Type} [BEq S] [Legible S] {blank : Option S} {head head' index : Nat} {l m : List S}

/-- Over this blank a cell shows which symbol it holds. -/
structure Readable (blank : Option S) : Prop where
  bare : ∀ value : S, Bare (shownCell blank value)
  injective : ∀ v w : S, shownCell blank v = shownCell blank w → v = w

theorem Readable.shownCell_eq_iff (readable : Readable blank) {v w : S} :
    shownCell blank v = shownCell blank w ↔ v = w := ⟨readable.injective v w, congrArg _⟩

theorem Readable.unbroken_of_mem (readable : Readable blank) {text : String}
    (h : text ∈ shownCells blank head index l) : Unbroken text := by
  induction l generalizing index with
  | nil => cases h
  | cons value rest ih =>
    rcases List.mem_cons.1 h with rfl | h
    · have cell := (readable.bare value).toUnbroken
      split
      · exact cell.bracketed
      · exact cell
    · exact ih h

/-- Equal cells show equal symbols, and at each of them both heads stand or none. -/
theorem Readable.shownCells_eq_iff (readable : Readable blank) :
    shownCells blank head index l = shownCells blank head' index m ↔
      l = m ∧ ∀ k < l.length, (index + k = head ↔ index + k = head') := by
  induction l generalizing m index with
  | nil => cases m <;> simp [shownCells]
  | cons v rest ih =>
    cases m with
    | nil => simp [shownCells]
    | cons w rest' =>
      have cell := Text.bracketed_eq_iff (p := index = head) (q := index = head')
        (readable.bare v) (readable.bare w)
      simp only [shownCells, List.cons.injEq, cell, readable.shownCell_eq_iff, ih, List.length_cons,
        Nat.forall_lt_succ_left, Nat.add_zero, Nat.add_assoc, Nat.add_comm 1]
      exact and_and_and_comm

/-- Two heads that stand on the same cells are the same one, or on no cell. -/
theorem heads_agree_iff {count : Nat} :
    (∀ k < count, (k = head ↔ k = head')) ↔ head = head' ∨ count ≤ head ∧ count ≤ head' := by
  constructor
  · intro same
    by_cases h : head < count
    · exact .inl ((same head h).1 rfl)
    · by_cases h' : head' < count
      · exact .inl ((same head' h').2 rfl).symm
      · exact .inr ⟨Nat.le_of_not_lt h, Nat.le_of_not_lt h'⟩
  · rintro (rfl | ⟨h, h'⟩) k hk
    · exact Iff.rfl
    · omega

theorem render_eq_iff_of_readable (readable : Readable blank) (t u : Tape S) :
    t.render blank = u.render blank ↔ t.storage.toList = u.storage.toList ∧
      (t.head = u.head ∨ t.storage.count ≤ t.head ∧ t.storage.count ≤ u.head) := by
  rw [render, render,
    Text.joined_eq_iff (fun _ => readable.unbroken_of_mem) (fun _ => readable.unbroken_of_mem),
    readable.shownCells_eq_iff]
  simp only [Nat.zero_add, Sequence.length_toList, heads_agree_iff]

/-! ## Tapes of numbers -/

theorem readable_int (blank : Option Int) : Readable blank where
  bare value := by
    cases blank with
    | none => exact bare_repr value
    | some b =>
      rw [shownCell]
      split
      · exact ⟨⟨by decide, by decide⟩, by decide⟩
      · exact bare_repr value
  injective v w h := by
    cases blank with
    | none => exact Text.repr_injective h
    | some b =>
      simp only [shownCell] at h
      split at h <;> split at h
      · next hv hw => rw [← eq_of_beq hv, eq_of_beq hw]
      · exact absurd h.symm (repr_ne_blank w)
      · exact absurd h (repr_ne_blank v)
      · exact Text.repr_injective h

/-- Two tapes of numbers are rendered alike, over a blank or without one, exactly if they hold the
same numbers in the same order and their heads are the same or both beyond the cells. -/
theorem render_unambiguous (t u : Tape Int) (blank : Option Int) :
    t.render blank = u.render blank ↔ t.storage.toList = u.storage.toList ∧
      (t.head = u.head ∨ t.storage.count ≤ t.head ∧ u.storage.count ≤ u.head) := by
  rw [render_eq_iff_of_readable (readable_int blank)]
  refine and_congr_right fun same => ?_
  rw [← u.storage.length_toList, ← same, Sequence.length_toList]

end Tape

end TapeMachine
