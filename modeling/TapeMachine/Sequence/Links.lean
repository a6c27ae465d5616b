import TapeMachine.Sequence.Arena

/-!
# The links of an arena stay well formed

Results:
1. `spells_empty`, `Spells.prepend`, `Spells.append`, `Spells.replace`: each operation keeps the
   links well formed, and the order it leaves is told from the order before.
2. `Spells.slots_eq`: walking forward from the first slot visits exactly the spelled slots.
3. `Spells.slotAt_eq`: the walk to a position ends at the slot spelled there.
-/

namespace TapeMachine.Arena

variable {α : Type} {a : Arena α} {order : List Nat} {slot : Nat}


/-- The arena without cells spells nothing. -/
theorem spells_empty : (empty : Arena α).Spells [] := by
  constructor <;> simp [empty]

/-- A spelled slot exists. -/
theorem Spells.lt (h : a.Spells order) {k : Nat} (hk : order[k]? = some slot) :
    slot < a.nodes.size :=
  h.lt_size slot (List.mem_of_getElem? hk)

/-! ## A cell in front -/

theorem next?_prepend_size (a : Arena α) (v : α) : (a.prepend v).next? a.nodes.size = a.first := by
  unfold prepend next?
  split <;> simp [Array.getElem_push, *]

theorem prev?_prepend_size (a : Arena α) (v : α) : (a.prepend v).prev? a.nodes.size = none := by
  unfold prepend prev?
  split <;> simp [Array.getElem_push]

theorem next?_prepend_of_lt (v : α) (h : slot < a.nodes.size) :
    (a.prepend v).next? slot = a.next? slot := by
  unfold prepend next?
  split
  · rename_i old _
    by_cases e : old = slot <;> simp [Array.getElem?_push, Array.getElem?_modify, Nat.ne_of_lt h, e]
    cases a.nodes[slot]? <;> rfl
  · simp [Array.getElem?_push, Nat.ne_of_lt h]

theorem prev?_prepend_first (v : α) (h : slot < a.nodes.size) (e : a.first = some slot) :
    (a.prepend v).prev? slot = some a.nodes.size := by
  simp [prepend, prev?, e, Array.getElem?_push, Array.getElem_modify, Nat.ne_of_lt h, h]

theorem prev?_prepend_of_lt (v : α) (h : slot < a.nodes.size) (e : a.first ≠ some slot) :
    (a.prepend v).prev? slot = a.prev? slot := by
  unfold prepend prev?
  split
  · rename_i old hold
    have : old ≠ slot := fun he => e (he ▸ hold)
    simp [Array.getElem?_push, Array.getElem?_modify, Nat.ne_of_lt h, this]
  · simp [Array.getElem?_push, Nat.ne_of_lt h]

theorem size_prepend (a : Arena α) (v : α) : (a.prepend v).nodes.size = a.nodes.size + 1 := by
  unfold prepend; split <;> simp

theorem first_prepend (a : Arena α) (v : α) : (a.prepend v).first = some a.nodes.size := by
  unfold prepend; split <;> simp

theorem last_prepend (a : Arena α) (v : α) :
    (a.prepend v).last = if a.first.isSome then a.last else some a.nodes.size := by
  unfold prepend; split <;> simp [*]

/-- A new front cell comes first in the order; its slot is the next free one. -/
theorem Spells.prepend (h : a.Spells order) (v : α) :
    (a.prepend v).Spells (a.nodes.size :: order) where
  nodup := List.nodup_cons.2 ⟨fun m => Nat.lt_irrefl _ (h.lt_size _ m), h.nodup⟩
  length_eq := by simp [size_prepend, h.length_eq]
  lt_size slot m := by
    rw [size_prepend]
    rcases List.mem_cons.1 m with rfl | m
    · exact Nat.lt_succ_self _
    · exact Nat.lt_succ_of_lt (h.lt_size _ m)
  first_eq := by simp [first_prepend]
  last_eq := by
    rw [last_prepend, h.first_eq, h.last_eq]
    cases order with
    | nil => simp
    | cons x xs => simp
  next_eq k slot hk := by
    cases k with
    | zero =>
      -- the new cell leads to the old front
      cases hk
      rw [next?_prepend_size, h.first_eq]; rfl
    | succ k =>
      rw [next?_prepend_of_lt v (h.lt hk), h.next_eq k slot hk]; rfl
  prev_zero slot hs := by cases hs; exact prev?_prepend_size a v
  prev_succ k slot hk := by
    have hk' : order[k]? = some slot := hk
    cases k with
    | zero => rw [prev?_prepend_first v (h.lt hk') (by rw [h.first_eq, hk'])]; rfl
    | succ k =>
      -- only the old front gets a new neighbour, and no slot comes twice
      have hne : a.first ≠ some slot := by
        rw [h.first_eq]
        intro e
        obtain ⟨h0, e0⟩ := List.getElem?_eq_some_iff.1 e
        obtain ⟨h1, e1⟩ := List.getElem?_eq_some_iff.1 hk'
        have := (List.getElem_inj h.nodup).1 (e0.trans e1.symm)
        omega
      rw [prev?_prepend_of_lt v (h.lt hk') hne, h.prev_succ k slot hk']; rfl

/-! ## A cell behind -/

theorem size_append (a : Arena α) (v : α) : (a.append v).nodes.size = a.nodes.size + 1 := by
  unfold append; split <;> simp

theorem last_append (a : Arena α) (v : α) : (a.append v).last = some a.nodes.size := by
  unfold append; split <;> simp

theorem first_append (a : Arena α) (v : α) :
    (a.append v).first = if a.last.isSome then a.first else some a.nodes.size := by
  unfold append; split <;> simp [*]

theorem prev?_append_size (a : Arena α) (v : α) : (a.append v).prev? a.nodes.size = a.last := by
  unfold append prev?
  split <;> simp [Array.getElem_push, *]

theorem next?_append_size (a : Arena α) (v : α) : (a.append v).next? a.nodes.size = none := by
  unfold append next?
  split <;> simp [Array.getElem_push]

theorem prev?_append_of_lt (v : α) (h : slot < a.nodes.size) :
    (a.append v).prev? slot = a.prev? slot := by
  unfold append prev?
  split
  · rename_i old _
    by_cases e : old = slot <;> simp [Array.getElem?_push, Array.getElem?_modify, Nat.ne_of_lt h, e]
    cases a.nodes[slot]? <;> rfl
  · simp [Array.getElem?_push, Nat.ne_of_lt h]

theorem next?_append_last (v : α) (h : slot < a.nodes.size) (e : a.last = some slot) :
    (a.append v).next? slot = some a.nodes.size := by
  simp [append, next?, e, Array.getElem?_push, Array.getElem_modify, Nat.ne_of_lt h, h]

theorem next?_append_of_lt (v : α) (h : slot < a.nodes.size) (e : a.last ≠ some slot) :
    (a.append v).next? slot = a.next? slot := by
  unfold append next?
  split
  · rename_i old hold
    have : old ≠ slot := fun he => e (he ▸ hold)
    simp [Array.getElem?_push, Array.getElem?_modify, Nat.ne_of_lt h, this]
  · simp [Array.getElem?_push, Nat.ne_of_lt h]

/-- A new back cell comes last in the order. -/
theorem Spells.append (h : a.Spells order) (v : α) :
    (a.append v).Spells (order ++ [a.nodes.size]) where
  nodup := by
    refine List.nodup_append.2 ⟨h.nodup, by simp, fun x hx y hy => ?_⟩
    have := h.lt_size x hx
    simp at hy; omega
  length_eq := by simp [size_append, h.length_eq]
  lt_size slot m := by
    rw [size_append]
    rcases List.mem_append.1 m with m | m
    · exact Nat.lt_succ_of_lt (h.lt_size _ m)
    · simp at m; omega
  first_eq := by
    rw [first_append, h.first_eq, h.last_eq]
    cases order with
    | nil => simp
    | cons x xs => simp
  last_eq := by simp [last_append]
  next_eq k slot hk := by
    by_cases hl : k < order.length
    · rw [List.getElem?_append_left hl] at hk
      by_cases hlast : k + 1 < order.length
      · -- only the old back gets a new neighbour, and no slot comes twice
        have hne : a.last ≠ some slot := by
          rw [h.last_eq]
          intro e
          obtain ⟨h0, e0⟩ := List.getElem?_eq_some_iff.1 e
          obtain ⟨h1, e1⟩ := List.getElem?_eq_some_iff.1 hk
          have := (List.getElem_inj h.nodup).1 (e0.trans e1.symm)
          omega
        rw [next?_append_of_lt v (h.lt hk) hne, h.next_eq k slot hk,
          List.getElem?_append_left hlast]
      · -- the old back leads to the new cell
        have : order.length - 1 = k := by omega
        rw [next?_append_last v (h.lt hk) (by rw [h.last_eq, this, hk]),
          List.getElem?_append_right (by omega)]
        have : k + 1 - order.length = 0 := by omega
        simp [this]
    · rw [List.getElem?_append_right (by omega)] at hk
      obtain ⟨h1, e1⟩ := List.getElem?_eq_some_iff.1 hk
      simp at h1 e1
      subst e1
      rw [next?_append_size, List.getElem?_eq_none (by simp; omega)]
  prev_zero slot hs := by
    cases order with
    | nil =>
      cases hs
      rw [prev?_append_size, h.last_eq]; rfl
    | cons x xs =>
      have hs' : (x :: xs)[0]? = some slot := hs
      rw [prev?_append_of_lt v (h.lt hs'), h.prev_zero slot hs']
  prev_succ k slot hk := by
    by_cases hl : k + 1 < order.length
    · rw [List.getElem?_append_left hl] at hk
      rw [prev?_append_of_lt v (h.lt hk), h.prev_succ k slot hk,
        List.getElem?_append_left (by omega)]
    · rw [List.getElem?_append_right (by omega)] at hk
      obtain ⟨h1, e1⟩ := List.getElem?_eq_some_iff.1 hk
      simp at h1 e1
      subst e1
      rw [prev?_append_size, h.last_eq, List.getElem?_append_left (by omega)]
      congr 1; omega

/-! ## A changed value -/

/-- The order does not depend on the values. -/
theorem Spells.replace (h : a.Spells order) (slot : Nat) (v : α) :
    (a.replace slot v).Spells order := by
  have hn : ∀ s, (a.replace slot v).next? s = a.next? s := by
    intro s
    by_cases e : slot = s <;> simp [Arena.replace, next?, Array.getElem?_modify, e]
    cases a.nodes[s]? <;> rfl
  have hp : ∀ s, (a.replace slot v).prev? s = a.prev? s := by
    intro s
    by_cases e : slot = s <;> simp [Arena.replace, prev?, Array.getElem?_modify, e]
    cases a.nodes[s]? <;> rfl
  have hs : (a.replace slot v).nodes.size = a.nodes.size := by simp [Arena.replace]
  exact ⟨h.nodup, by rw [hs, h.length_eq], by rw [hs]; exact h.lt_size, h.first_eq, h.last_eq,
    fun k s hk => by rw [hn, h.next_eq k s hk], fun s hs => by rw [hp, h.prev_zero s hs],
    fun k s hk => by rw [hp, h.prev_succ k s hk]⟩

/-! ## Walking -/

/-- A walk that starts at position `k` visits what the order says from there on. -/
theorem Spells.walk_eq (h : a.Spells order) (n k : Nat) :
    a.walk n order[k]? = (order.drop k).take n := by
  induction n generalizing k with
  | zero => simp [walk]
  | succ n ih =>
    cases hk : order[k]? with
    | none => simp [walk, List.getElem?_eq_none_iff.1 hk]
    | some slot =>
      obtain ⟨hl, e⟩ := List.getElem?_eq_some_iff.1 hk
      rw [walk, h.next_eq k slot hk, ih, List.drop_eq_getElem_cons hl, e, List.take_succ_cons]

/-- Walking forward from the first slot visits every slot once, in the spelled order. -/
theorem Spells.slots_eq (h : a.Spells order) : a.slots = order := by
  rw [slots, h.first_eq, h.walk_eq, ← h.length_eq]
  simp

theorem Spells.hop_eq (h : a.Spells order) (n k : Nat) : a.hop n order[k]? = order[k + n]? := by
  induction n generalizing k with
  | zero => rfl
  | succ n ih =>
    have : order[k]?.bind a.next? = order[k + 1]? := by
      cases hk : order[k]? with
      | none =>
        rw [Option.bind_none,
          List.getElem?_eq_none (by have := List.getElem?_eq_none_iff.1 hk; omega)]
      | some slot => exact h.next_eq k slot hk
    rw [hop, this, ih]
    congr 1; omega

/-- The slot found at a position is the one that the order has there. -/
theorem Spells.slotAt_eq (h : a.Spells order) (index : Nat) : a.slotAt index = order[index]? := by
  unfold slotAt
  split
  · rw [h.first_eq, h.hop_eq, Nat.zero_add]
  · rw [List.getElem?_eq_none (by rw [h.length_eq]; omega)]

end TapeMachine.Arena
