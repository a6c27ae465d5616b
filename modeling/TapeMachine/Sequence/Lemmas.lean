import TapeMachine.Sequence.Basic

/-!
# A sequence is a list

Results:
1. `toList_prepend`, `toList_append`, `toList_extend`, `toList_ofList`, `toList_set`,
   `toList_clear`: what each operation does to the list.
2. `length_toList`, `get?_eq`, `first?_eq`, `last?_eq`, `beq_iff`: what each question asks of the
   list.
3. `get_eq_ok_iff`, `get_eq_error_iff`, `set_eq_error_iff`: which positions are found and which
   refused.
4. `get_of_lt`, `set_of_lt`, `modify_of_lt` and their partners `get_of_le`, `set_of_le`,
   `modify_of_le`: what is answered at each position.
-/

namespace TapeMachine.Sequence

variable {α : Type}

/-! ## Reading along an order -/

/-- The list of a sequence, told by any order that its links spell. -/
theorem toList_eq (s : Sequence α) {order : List Nat} (h : s.arena.Spells order) :
    s.toList = order.filterMap fun slot => s.arena.nodes[slot]?.map Node.value := by
  rw [toList, h.slots_eq]

theorem filterMap_getElem? {β : Type} (f : Nat → Option β) (order : List Nat)
    (h : ∀ i ∈ order, (f i).isSome) (k : Nat) :
    (order.filterMap f)[k]? = order[k]?.bind f := by
  induction order generalizing k with
  | nil => simp
  | cons x xs ih =>
    obtain ⟨y, hy⟩ := Option.isSome_iff_exists.1 (h x (by simp))
    cases k with
    | zero => simp [hy]
    | succ k => simp [hy, ih (fun i hi => h i (by simp [hi])) k]

theorem filterMap_length {β : Type} (f : Nat → Option β) (order : List Nat)
    (h : ∀ i ∈ order, (f i).isSome) :
    (order.filterMap f).length = order.length := by
  induction order with
  | nil => rfl
  | cons x xs ih =>
    obtain ⟨y, hy⟩ := Option.isSome_iff_exists.1 (h x (by simp))
    simp [hy, ih (fun i hi => h i (by simp [hi]))]

/-- Every spelled slot holds a value. -/
theorem valued {a : Arena α} {order : List Nat} (h : a.Spells order) :
   ∀ i ∈ order, (a.nodes[i]?.map Node.value).isSome := fun i hi => by
  have := h.lt_size i hi
  simp [this]

theorem filterMap_agree {β : Type} {f g : Nat → Option β} {order : List Nat}
    (h : ∀ i ∈ order, f i = g i) : order.filterMap f = order.filterMap g := by
  induction order with
  | nil => rfl
  | cons x xs ih =>
    rw [List.filterMap_cons, List.filterMap_cons, h x (by simp), ih fun i hi => h i (by simp [hi])]

/-! ## Questions -/

/-- The count is the length of the list. -/
@[simp] theorem length_toList (s : Sequence α) : s.toList.length = s.count := by
  obtain ⟨order, h⟩ := s.linked
  rw [s.toList_eq h, filterMap_length _ _ (valued h), h.length_eq, count]

/-- Positions are those of the list. -/
theorem get?_eq (s : Sequence α) (index : Nat) : s.get? index = s.toList[index]? := by
  obtain ⟨order, h⟩ := s.linked
  rw [s.toList_eq h, filterMap_getElem? _ _ (valued h), get?, h.slotAt_eq]

/-- The first value is the head of the list. -/
theorem first?_eq (s : Sequence α) : s.first? = s.toList.head? := by
  obtain ⟨order, h⟩ := s.linked
  rw [s.toList_eq h, List.head?_eq_getElem?, filterMap_getElem? _ _ (valued h), first?, h.first_eq]

/-- The last value is the last of the list. -/
theorem last?_eq (s : Sequence α) : s.last? = s.toList.getLast? := by
  obtain ⟨order, h⟩ := s.linked
  rw [List.getLast?_eq_getElem?, s.toList_eq h, filterMap_getElem? _ _ (valued h), last?, h.last_eq,
    filterMap_length _ _ (valued h)]

@[simp] theorem toList_empty : (empty : Sequence α).toList = [] := rfl

theorem isFirst_iff (s : Sequence α) {i : Nat} : s.isFirst i = true ↔ i = 0 ∧ 0 < s.count := by
  simp [isFirst, isEmpty]; omega

theorem isLast_iff (s : Sequence α) {i : Nat} : s.isLast i = true ↔ i + 1 = s.count := by
  simp [isLast]

/-- Equality is that of the lists. -/
theorem beq_iff [BEq α] (s t : Sequence α) : (s == t) = (s.toList == t.toList) := by
  show (s.count == t.count && s.toList == t.toList) = _
  rw [← length_toList, ← length_toList]
  generalize s.toList = l, t.toList = m
  cases h : l == m
  · simp
  · simp [List.length_eq_of_beq h]

/-! ## Growth at the ends -/

@[simp] theorem count_prepend (s : Sequence α) (v : α) : (s.prepend v).count = s.count + 1 :=
  s.arena.size_prepend v

@[simp] theorem count_append (s : Sequence α) (v : α) : (s.append v).count = s.count + 1 :=
  s.arena.size_append v

/-- A new front cell gets a slot of its own; all other values stay where they are. -/
theorem value_prepend (a : Arena α) (v : α) (slot : Nat) :
    (a.prepend v).nodes[slot]?.map Node.value = if slot = a.nodes.size then some v
      else a.nodes[slot]?.map Node.value := by
  unfold Arena.prepend
  split
  · rename_i old _
    by_cases e : old = slot <;> by_cases e' : slot = a.nodes.size <;>
      simp [Array.getElem?_push, Array.getElem_push, Array.getElem?_modify, e, e',
        Function.comp_def]
  · by_cases e' : slot = a.nodes.size <;> simp [Array.getElem?_push, e']

/-- A new back cell gets a slot of its own; all other values stay where they are. -/
theorem value_append (a : Arena α) (v : α) (slot : Nat) :
    (a.append v).nodes[slot]?.map Node.value = if slot = a.nodes.size then some v
      else a.nodes[slot]?.map Node.value := by
  unfold Arena.append
  split
  · rename_i old _
    by_cases e : old = slot <;> by_cases e' : slot = a.nodes.size <;>
      simp [Array.getElem?_push, Array.getElem_push, Array.getElem?_modify, e, e',
        Function.comp_def]
  · by_cases e' : slot = a.nodes.size <;> simp [Array.getElem?_push, e']

/-- A value put in front is the head of the list. -/
@[simp] theorem toList_prepend (s : Sequence α) (v : α) : (s.prepend v).toList = v :: s.toList := by
  obtain ⟨order, h⟩ := s.linked
  rw [(s.prepend v).toList_eq (h.prepend v), s.toList_eq h]
  have hv : ∀ i ∈ order, (s.prepend v).arena.nodes[i]?.map Node.value =
      s.arena.nodes[i]?.map Node.value := fun i hi => by
    have := h.lt_size i hi
    exact (value_prepend s.arena v i).trans (if_neg (by omega))
  rw [List.filterMap_cons, filterMap_agree hv]
  have : (s.prepend v).arena.nodes[s.arena.nodes.size]?.map Node.value = some v :=
    (value_prepend s.arena v _).trans (if_pos rfl)
  rw [this]

/-- A value put behind is the last of the list. -/
@[simp] theorem toList_append (s : Sequence α) (v : α) : (s.append v).toList = s.toList ++ [v] := by
  obtain ⟨order, h⟩ := s.linked
  rw [(s.append v).toList_eq (h.append v), s.toList_eq h]
  have hv : ∀ i ∈ order, (s.append v).arena.nodes[i]?.map Node.value =
      s.arena.nodes[i]?.map Node.value := fun i hi => by
    have := h.lt_size i hi
    exact (value_append s.arena v i).trans (if_neg (by omega))
  rw [List.filterMap_append, filterMap_agree hv]
  have : (s.append v).arena.nodes[s.arena.nodes.size]?.map Node.value = some v :=
    (value_append s.arena v _).trans (if_pos rfl)
  rw [List.filterMap_cons, this]; rfl

@[simp] theorem toList_extend (s : Sequence α) (vs : List α) :
    (s.extend vs).toList = s.toList ++ vs := by
  induction vs generalizing s with
  | nil => simp [extend]
  | cons v vs ih => 
    have : s.extend (v :: vs) = (s.append v).extend vs := rfl
    rw [this, ih]; simp

@[simp] theorem toList_ofList (vs : List α) : (ofList vs).toList = vs := by simp [ofList]

/-! ## Single positions -/

/-- A position below the count holds what the list has there. -/
theorem get_eq_ok_iff (s : Sequence α) {i : Nat} {v : α} :
    s.get i = .ok v ↔ s.toList[i]? = some v := by
  unfold get
  rw [get?_eq]
  cases s.toList[i]? <;> simp

/-- Exactly the positions from the count on are refused. -/
theorem get_eq_error_iff (s : Sequence α) {i : Nat} {e : StoreError} :
    s.get i = .error e ↔ s.count ≤ i ∧ e = .outOfRange i s.count := by
  unfold get
  rw [get?_eq]
  cases h : s.toList[i]? <;> simp at h ⊢
  · simp [h, eq_comm]
  · obtain ⟨h, _⟩ := List.getElem?_eq_some_iff.1 h
    simp at h
    omega

/-- A write answers the old value and changes this one position of the list. -/
theorem toList_set (s : Sequence α) {i : Nat} {v : α} {r : α × Sequence α} (h : s.set i v = .ok r) :
    s.toList[i]? = some r.1 ∧ r.2.toList = s.toList.set i v := by
  unfold set at h
  split at h
  · rename_i slot old hs ho
    cases h
    refine ⟨by rw [← get?_eq, ho], ?_⟩
    obtain ⟨order, h⟩ := s.linked
    rw [toList_eq _ (h.replace slot v), s.toList_eq h]
    rw [h.slotAt_eq] at hs
    apply List.ext_getElem?
    intro k
    rw [filterMap_getElem? _ _ (valued (h.replace slot v)), List.getElem?_set,
      filterMap_length _ _ (valued h), filterMap_getElem? _ _ (valued h)]
    obtain ⟨hi, ei⟩ := List.getElem?_eq_some_iff.1 hs
    have hlt := h.lt_size slot (ei ▸ List.getElem_mem hi)
    by_cases e : i = k
    · subst e
      rw [hs]; simp [hi, Arena.replace, Array.getElem?_modify, hlt]
    · cases hk : order[k]? with
      | none => simp [e]
      | some t =>
        obtain ⟨hk, ek⟩ := List.getElem?_eq_some_iff.1 hk
        have : slot ≠ t := fun he => e ((List.getElem_inj h.nodup).1 (by rw [ei, ek, he]))
        simp [e, Arena.replace, Array.getElem?_modify, this]
  · cases h

/-- Exactly the positions from the count on cannot be written. -/
theorem set_eq_error_iff (s : Sequence α) {i : Nat} {v : α} {e : StoreError} :
    s.set i v = .error e ↔ s.count ≤ i ∧ e = .outOfRange i s.count := by
  have hg : s.get? i = (s.arena.slotAt i).bind fun slot =>
    s.arena.nodes[slot]?.map Node.value := rfl
  have hl := get?_eq s i
  unfold set
  cases hs : s.arena.slotAt i with
  | none =>
    rw [hs, Option.bind_none] at hg
    rw [hg] at hl
    have := List.getElem?_eq_none_iff.1 hl.symm
    simp at this
    simp [this, eq_comm]
  | some slot =>
    cases ho : s.get? i with
    | none =>
      rw [ho] at hl
      have := List.getElem?_eq_none_iff.1 hl.symm
      simp at this
      simp [this, eq_comm]
    | some old =>
      rw [ho] at hl
      obtain ⟨h, _⟩ := List.getElem?_eq_some_iff.1 hl.symm
      simp at h ⊢
      omega

/-! ## Both kinds of positions -/

variable (s : Sequence α) {i : Nat}

theorem get_of_lt (h : i < s.toList.length) : s.get i = .ok s.toList[i] :=
  s.get_eq_ok_iff.2 (List.getElem?_eq_getElem h)

theorem get_of_le (h : s.toList.length ≤ i) : s.get i = .error (.outOfRange i s.toList.length) := by
  rw [length_toList] at h ⊢
  exact s.get_eq_error_iff.2 ⟨h, rfl⟩

theorem set_of_lt (v : α) (h : i < s.toList.length) :
    ∃ s', s.set i v = .ok (s.toList[i], s') ∧ s'.toList = s.toList.set i v := by
  cases hs : s.set i v with
  | error e =>
    have := (s.set_eq_error_iff.1 hs).1
    rw [length_toList] at h
    omega
  | ok r =>
    obtain ⟨old, s'⟩ := r
    obtain ⟨ho, hl⟩ := s.toList_set hs
    rw [List.getElem?_eq_getElem h] at ho
    cases ho
    exact ⟨s', rfl, hl⟩

theorem set_of_le (v : α) (h : s.toList.length ≤ i) :
    s.set i v = .error (.outOfRange i s.toList.length) := by
  rw [length_toList] at h ⊢
  exact s.set_eq_error_iff.2 ⟨h, rfl⟩

theorem modify_of_lt (f : α → α) (h : i < s.toList.length) :
    ∃ s', s.modify i f = .ok s' ∧ s'.toList = s.toList.modify i f := by
  obtain ⟨s', hs, hl⟩ := s.set_of_lt (f s.toList[i]) h
  refine ⟨s', by rw [modify, s.get_of_lt h]; simp only [hs], ?_⟩
  rw [hl]
  apply List.ext_getElem (by simp)
  intro k _ _
  rw [List.getElem_set, List.getElem_modify]
  split
  · next e => subst e; rfl
  · rfl

theorem modify_of_le (f : α → α) (h : s.toList.length ≤ i) :
    s.modify i f = .error (.outOfRange i s.toList.length) := by
  rw [modify, s.get_of_le h]

@[simp] theorem toList_clear : s.clear.toList = [] := rfl

end TapeMachine.Sequence
