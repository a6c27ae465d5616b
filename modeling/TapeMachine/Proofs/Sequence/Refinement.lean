import Mathlib.Data.List.Perm.Subperm
import TapeMachine.Sequence.Lemmas

/-!
# A sequence refines a list

The order of a sequence lives only in the links between its cells; the arena holds the cells in the
order in which they were put in. This module follows any series of changes to a sequence together
with the same changes to a list, and shows that the two stay the same list to everyone who asks.

Results:
1. `Arena.Spells.threads`: links that spell an order can be walked from either end; each walk meets
   every slot of the arena once and stops at the other end.
2. `toList_edit`, `toList_edits`: what one change and what a series of changes does to the list.
3. `refines_toList`: every question to a sequence has the answer that its list has.
4. `edits_refine`: the above for every sequence that is made from a list and changed in any way, and
   equality of two such sequences.
-/

namespace TapeMachine

/-! ## Walks along links -/

/-- Following `step` from `start` meets the slots `path`, one after the other, and ends after
them. -/
inductive Arena.Trail (step : Nat → Option Nat) : Option Nat → List Nat → Prop
  | done : Trail step none []
  | visit {slot : Nat} {rest : List Nat} : Trail step (step slot) rest →
      Trail step (some slot) (slot :: rest)

/-- The links of `a` thread its cells on the walk `order`, along which they hold the values `l`. -/
structure Arena.Threads {α : Type} (a : Arena α) (order : List Nat) (l : List α) : Prop where
  forward : Trail a.next? a.first order
  backward : Trail a.prev? a.last order.reverse
  /-- Every slot of the arena is met, and none of them twice. -/
  all_slots : order.Perm (List.range a.nodes.size)
  stops_at_last : order.getLast? = a.last
  values : order.map (fun slot => a.nodes[slot]?.map Node.value) = l.map some
  first_none_iff : a.first = none ↔ a.nodes.size = 0
  last_none_iff : a.last = none ↔ a.nodes.size = 0

namespace Arena

variable {α : Type} {a : Arena α} {order : List Nat}

/-- A walk forward from position `k` meets what the order has from there on. -/
theorem Spells.trail_next (h : a.Spells order) (k : Nat) (hk : k ≤ order.length) :
    Trail a.next? order[k]? (order.drop k) := by
  -- downward from the end, where the walk is over
  induction hn : order.length - k generalizing k with
  | zero =>
    obtain rfl : k = order.length := by omega
    rw [List.getElem?_eq_none (Nat.le_refl _), List.drop_length]
    exact .done
  | succ n ih =>
    have hlt : k < order.length := by omega
    rw [List.getElem?_eq_getElem hlt, List.drop_eq_getElem_cons hlt]
    refine .visit ?_
    rw [h.next_eq k _ (List.getElem?_eq_getElem hlt)]
    exact ih (k + 1) hlt (by omega)

/-- A walk backward from position `k` meets what the order has up to there, last things first. -/
theorem Spells.trail_prev (h : a.Spells order) (k : Nat) (hk : k < order.length) :
    Trail a.prev? order[k]? (order.take (k + 1)).reverse := by
  induction k with
  | zero =>
    rw [List.getElem?_eq_getElem hk, List.take_succ_eq_append_getElem hk]
    refine .visit ?_
    rw [h.prev_zero _ (List.getElem?_eq_getElem hk)]
    exact .done
  | succ k ih =>
    rw [List.take_succ_eq_append_getElem hk, List.reverse_append, List.getElem?_eq_getElem hk]
    refine .visit ?_
    rw [h.prev_succ k _ (List.getElem?_eq_getElem hk)]
    exact ih (by omega)

theorem Spells.trail_last (h : a.Spells order) : Trail a.prev? a.last order.reverse := by
  rw [h.last_eq]
  rcases Nat.eq_zero_or_pos order.length with h0 | hpos
  · obtain rfl := List.length_eq_zero_iff.1 h0
    exact .done
  · have := h.trail_prev (order.length - 1) (by omega)
    rwa [Nat.sub_add_cancel hpos, List.take_length] at this

/-- As many slots as the arena has, all of them in it and none of them twice: that is all of
them. -/
theorem Spells.perm_range (h : a.Spells order) : order.Perm (List.range a.nodes.size) := by
  refine (h.nodup.subperm fun slot hs => ?_).perm_of_length_le ?_
  · exact List.mem_range.2 (h.lt_size slot hs)
  · exact Nat.le_of_eq (List.length_range.trans h.length_eq.symm)

theorem Spells.threads (h : a.Spells order) :
    a.Threads order (order.filterMap fun slot => a.nodes[slot]?.map Node.value) where
  forward := by
    rw [h.first_eq]
    exact h.trail_next 0 (Nat.zero_le _)
  backward := h.trail_last
  all_slots := h.perm_range
  stops_at_last := by rw [h.last_eq, List.getLast?_eq_getElem?]
  values := by
    apply List.ext_getElem?
    intro k
    rw [List.getElem?_map, List.getElem?_map, Sequence.filterMap_getElem? _ _ (Sequence.valued h)]
    cases hk : order[k]? with
    | none => rfl
    | some slot =>
      obtain ⟨v, hv⟩ :=
        Option.isSome_iff_exists.1 (Sequence.valued h slot (List.mem_of_getElem? hk))
      simp only [Option.map_some, Option.bind_some, hv]
  first_none_iff := by rw [h.first_eq, ← h.length_eq, List.getElem?_eq_none_iff]; omega
  last_none_iff := by rw [h.last_eq, ← h.length_eq, List.getElem?_eq_none_iff]; omega

end Arena

namespace Sequence

variable {α : Type}

/-! ## Series of changes -/

/-- The changes that can be made to a sequence. -/
inductive Edit (α : Type) where
  | prepend (value : α)
  | append (value : α)
  | extend (values : List α)
  | set (index : Nat) (value : α)
  /-- A write in place, which may depend on what was there. -/
  | modify (index : Nat) (change : α → α)
  | clear
  /-- Goes on with a copy. A sequence is a value, so its copy is the sequence. -/
  | copy

/-- The sequence after a change. A refused change leaves it as it was. -/
def edit (s : Sequence α) : Edit α → Sequence α
  | .prepend value => s.prepend value
  | .append value => s.append value
  | .extend values => s.extend values
  | .set index value =>
    match s.set index value with
    | .ok (_, s') => s'
    | .error _ => s
  | .modify index change =>
    match s.modify index change with
    | .ok s' => s'
    | .error _ => s
  | .clear => s.clear
  | .copy => s

/-- The sequence after a series of changes. -/
def edits (s : Sequence α) (changes : List (Edit α)) : Sequence α := changes.foldl edit s

/-- The same change to a list. -/
def Edit.onList (l : List α) : Edit α → List α
  | .prepend value => value :: l
  | .append value => l ++ [value]
  | .extend values => l ++ values
  | .set index value => l.set index value
  | .modify index change => l.modify index change
  | .clear => []
  | .copy => l

theorem toList_edit (s : Sequence α) (change : Edit α) :
    (s.edit change).toList = change.onList s.toList := by
  cases change with
  | prepend value => exact s.toList_prepend value
  | append value => exact s.toList_append value
  | extend values => exact s.toList_extend values
  | set index value =>
    by_cases h : index < s.toList.length
    · obtain ⟨s', hs, hl⟩ := s.set_of_lt value h
      simp only [edit, hs, hl, Edit.onList]
    · have hle := Nat.le_of_not_lt h
      simp only [edit, s.set_of_le value hle, Edit.onList, List.set_eq_of_length_le hle]
  | modify index change =>
    by_cases h : index < s.toList.length
    · obtain ⟨s', hs, hl⟩ := s.modify_of_lt change h
      simp only [edit, hs, hl, Edit.onList]
    · have hle := Nat.le_of_not_lt h
      simp only [edit, s.modify_of_le change hle, Edit.onList, List.modify_eq_self hle]
  | clear => rfl
  | copy => rfl

theorem toList_edits (s : Sequence α) (changes : List (Edit α)) :
    (s.edits changes).toList = changes.foldl Edit.onList s.toList := by
  induction changes generalizing s with
  | nil => rfl
  | cons change rest ih =>
    show ((s.edit change).edits rest).toList = _
    rw [ih, toList_edit]
    rfl

/-! ## Questions -/

/-- The links of `s` thread the list `l`, and every question to `s` has the answer that `l` has. -/
structure Refines (s : Sequence α) (l : List α) : Prop where
  toList_eq : s.toList = l
  links : ∃ order, s.arena.Threads order l
  count_eq : s.count = l.length
  get_of_lt : ∀ (i : Nat) (h : i < l.length), s.get i = .ok l[i]
  get_of_le : ∀ i, l.length ≤ i → s.get i = .error (.outOfRange i l.length)
  set_of_lt : ∀ (i : Nat) (v : α) (h : i < l.length),
    ∃ s', s.set i v = .ok (l[i], s') ∧ s'.toList = l.set i v
  set_of_le : ∀ i v, l.length ≤ i →
    s.set i v = .error (.outOfRange i l.length) ∧ s.edit (.set i v) = s
  modify_of_lt : ∀ (i : Nat) (f : α → α), i < l.length →
    ∃ s', s.modify i f = .ok s' ∧ s'.toList = l.modify i f
  modify_of_le : ∀ i f, l.length ≤ i →
    s.modify i f = .error (.outOfRange i l.length) ∧ s.edit (.modify i f) = s
  first_eq : s.first? = l.head?
  last_eq : s.last? = l.getLast?
  isFirst_iff : ∀ i, s.isFirst i = true ↔ l ≠ [] ∧ i = 0
  isLast_iff : ∀ i, s.isLast i = true ↔ l ≠ [] ∧ i = l.length - 1

theorem refines_toList (s : Sequence α) : s.Refines s.toList where
  toList_eq := rfl
  links := by
    obtain ⟨order, h⟩ := s.linked
    exact ⟨order, s.toList_eq h ▸ h.threads⟩
  count_eq := s.length_toList.symm
  get_of_lt _ h := s.get_of_lt h
  get_of_le _ h := s.get_of_le h
  set_of_lt _ v h := s.set_of_lt v h
  set_of_le _ v h := ⟨s.set_of_le v h, by simp only [edit, s.set_of_le v h]⟩
  modify_of_lt _ f h := s.modify_of_lt f h
  modify_of_le _ f h := ⟨s.modify_of_le f h, by simp only [edit, s.modify_of_le f h]⟩
  first_eq := s.first?_eq
  last_eq := s.last?_eq
  isFirst_iff i := by
    rw [s.isFirst_iff, ← s.length_toList, List.length_pos_iff]
    exact And.comm
  isLast_iff i := by
    rw [s.isLast_iff, ← s.length_toList, ← List.length_pos_iff]
    omega

/-- Equality of sequences asks for equal lengths and for equal values at equal positions. -/
theorem beq_iff_getElem? [BEq α] (s t : Sequence α) :
    (s == t) = true ↔ s.toList.length = t.toList.length ∧
      ∀ (i : Nat) (v w : α), s.toList[i]? = some v → t.toList[i]? = some w → (v == w) = true := by
  rw [beq_iff]
  generalize s.toList = l
  generalize t.toList = m
  induction l generalizing m with
  | nil => cases m <;> simp
  | cons v l ih =>
    cases m with
    | nil => simp
    | cons w m =>
      rw [List.cons_beq_cons, Bool.and_eq_true, ih m, List.length_cons, List.length_cons]
      constructor
      · rintro ⟨hv, hl, hp⟩
        refine ⟨by rw [hl], fun i x y hx hy => ?_⟩
        cases i with
        | zero => cases hx; cases hy; exact hv
        | succ i => exact hp i x y hx hy
      · rintro ⟨hl, hp⟩
        exact ⟨hp 0 v w rfl rfl, Nat.succ.inj hl, fun i x y hx hy => hp (i + 1) x y hx hy⟩

/-- A sequence that is made from a list and changed in any way is the list that is changed the same
way: its links thread that list, and every question has the answer that the list has. Two such
sequences are equal exactly if the two lists have one length and equal values at each position,
however the sequences came about. -/
theorem edits_refine [BEq α] (values others : List α) (changes otherChanges : List (Edit α)) :
    ((ofList values).edits changes).Refines (changes.foldl Edit.onList values) ∧
    (((ofList values).edits changes == (ofList others).edits otherChanges) = true ↔
      (changes.foldl Edit.onList values).length = (otherChanges.foldl Edit.onList others).length ∧
      ∀ (i : Nat) (v w : α), (changes.foldl Edit.onList values)[i]? = some v →
        (otherChanges.foldl Edit.onList others)[i]? = some w → (v == w) = true) := by
  have hs : ((ofList values).edits changes).toList = changes.foldl Edit.onList values := by
    rw [toList_edits, toList_ofList]
  have ht : ((ofList others).edits otherChanges).toList =
      otherChanges.foldl Edit.onList others := by
    rw [toList_edits, toList_ofList]
  refine ⟨hs ▸ refines_toList _, ?_⟩
  rw [beq_iff_getElem?, hs, ht]

end Sequence

end TapeMachine
