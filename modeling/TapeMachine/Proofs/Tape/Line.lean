import TapeMachine.Tape.Lemmas

/-!
# A tape shows a window of an infinite line

A `Line` has a cell at every integer and a position that walks over them: *left* is one up, *right*
is one down. A tape holds a window of it. Whenever a cell is put in front, all positions of the
storage shift by one, so the window is told together with `k`, the number of cells that were put in
front: position `j` of the storage is the cell `j - k` of the line.

Results:
1. `Shows.read_eq`, `Shows.write_eq`, `Shows.move_eq`: one operation on the tape is the same
   operation on the line, and the tape shows a window of the line again.
2. `Shows.serve_eq`: the same for any request, with its answer.
3. `Shows.serveAll_eq`: the same for a series of requests.
4. `serveAll_refines_line`: the above for a tape that starts as the window itself.
-/

namespace TapeMachine

/-! ## Lines -/

/-- Cells at all integers, and a position. -/
structure Line (S : Type) where
  cell : Int → S
  position : Int

namespace Line

variable {S : Type}

/-- The symbol at the position. -/
def read (l : Line S) : S := l.cell l.position

/-- The line with another symbol at its position. -/
def put (l : Line S) (value : S) : Line S :=
  { l with cell := fun x => if x = l.position then value else l.cell x }

/-- Writes unless the cell holds an equal symbol; answers what was there if it did write. -/
def write [BEq S] (l : Line S) (value : S) : Option S × Line S :=
  if l.read == value then (none, l) else (some l.read, l.put value)

def move (l : Line S) : Direction → Line S
  | .left => { l with position := l.position + 1 }
  | .right => { l with position := l.position - 1 }

@[simp] theorem position_move_left (l : Line S) : (l.move .left).position = l.position + 1 := rfl

@[simp] theorem position_move_right (l : Line S) : (l.move .right).position = l.position - 1 := rfl

@[simp] theorem cell_move (l : Line S) (d : Direction) : (l.move d).cell = l.cell := by
  cases d <;> rfl

theorem put_read (l : Line S) : l.put l.read = l := by
  unfold put read
  congr
  funext x
  split
  · rename_i h
    rw [h]
  · rfl

theorem write_eq_put [BEq S] [LawfulBEq S] (l : Line S) (v : S) : (l.write v).2 = l.put v := by
  unfold write
  cases h : l.read == v with
  | true =>
    rw [← eq_of_beq h]
    exact l.put_read.symm
  | false => rfl

end Line

/-! ## Requests to a tape and to a line -/

namespace Tape

/-- What a tape can be asked to do. -/
inductive Request (S : Type) where
  | read
  | write (value : S)
  | move (direction : Direction)

/-- What a request is answered with. -/
inductive Reply (S : Type) where
  | symbol (value : S)
  /-- What was there before a write; `none` if nothing changed. -/
  | replaced (old : Option S)
  | moved (shift : Shift)

variable {S : Type}

/-- The request moves toward the front. -/
def Request.movesRight : Request S → Bool
  | .move .right => true
  | _ => false

/-- The answer tells of a new cell. -/
def Reply.extended : Reply S → Bool
  | .moved .extended => true
  | _ => false

/-- How many answers tell of a new cell. -/
def extensions (replies : List (Reply S)) : Nat := replies.countP Reply.extended

/-- How many answers tell of a new cell in front. -/
def frontExtensions (requests : List (Request S)) (replies : List (Reply S)) : Nat :=
  (requests.zip replies).countP fun (request, reply) => request.movesRight && reply.extended

/-- Carries out a request. -/
def serve [BEq S] (blank : Option S) (t : Tape S) :
    Request S → Except MachineError (Reply S × Tape S)
  | .read => t.read.map fun (value, t) => (.symbol value, t)
  | .write value => (t.write value).map fun (old, t) => (.replaced old, t)
  | .move direction => (t.move direction blank).map fun (shift, t) => (.moved shift, t)

/-- Carries out requests one after the other, up to the first that fails. -/
def serveAll [BEq S] (blank : Option S) (t : Tape S) :
    List (Request S) → Except MachineError (List (Reply S) × Tape S)
  | [] => .ok ([], t)
  | request :: rest =>
    match t.serve blank request with
    | .error e => .error e
    | .ok (reply, t) =>
      match t.serveAll blank rest with
      | .error e => .error e
      | .ok (replies, t) => .ok (reply :: replies, t)

end Tape

namespace Line

variable {S : Type} [BEq S]

/-- The line after a request. -/
def after (l : Line S) : Tape.Request S → Line S
  | .read => l
  | .write value => (l.write value).2
  | .move direction => l.move direction

/-- The line after requests, one after the other. -/
def afterAll (l : Line S) (requests : List (Tape.Request S)) : Line S := requests.foldl after l

/-- The answer to a request while the cells from `lo` up to `hi` are held: a move needs a new cell
exactly if it leaves them. -/
def answer (l : Line S) (lo hi : Int) : Tape.Request S → Tape.Reply S
  | .read => .symbol l.read
  | .write value => .replaced (l.write value).1
  | .move direction =>
    let position := (l.move direction).position
    .moved (if lo ≤ position ∧ position < hi then .stepped else .extended)

end Line

/-! ## Windows -/

namespace Tape

variable {S : Type}

/-- The line that holds the cells of the tape from 0 on and blanks everywhere else. -/
def line (t : Tape S) (blank : S) : Line S where
  cell x := if 0 ≤ x then t.storage.toList[x.toNat]?.getD blank else blank
  position := t.head

/-- The tape shows the part of the line that starts `k` cells before the origin; all cells outside
of it are blank. -/
structure Shows (t : Tape S) (blank : S) (l : Line S) (k : Nat) : Prop where
  inside : ∀ j : Nat, j < t.storage.count → t.storage.toList[j]? = some (l.cell (j - k))
  outside : ∀ x : Int, x < -k ∨ t.storage.count - k ≤ x → l.cell x = blank
  position_eq : l.position = t.head - k
  live : t.Live

theorem shows_line {t : Tape S} (blank : S) (h : t.Live) : t.Shows blank (t.line blank) 0 where
  inside j hj := by
    rw [← Sequence.length_toList] at hj
    simp [line, List.getElem?_eq_getElem hj]
  outside x hx := by
    rcases hx with hx | hx
    · simp only [line, if_neg (show ¬ 0 ≤ x by omega)]
    · have : t.storage.toList.length ≤ x.toNat := by rw [Sequence.length_toList]; omega
      simp only [line, List.getElem?_eq_none this, Option.getD_none, ite_self]
  position_eq := by simp [line]
  live := h

variable {t t' : Tape S} {b : S} {l : Line S} {k : Nat}

/-- What a tape shows depends on its cells and its head alone. -/
theorem Shows.congr (h : t.Shows b l k) (hs : t'.storage = t.storage) (hh : t'.head = t.head) :
    t'.Shows b l k := by
  refine ⟨?_, ?_, ?_, ?_⟩
  · rw [hs]; exact h.inside
  · rw [hs]; exact h.outside
  · rw [hh]; exact h.position_eq
  · rw [Live, hs, hh]; exact h.live

theorem Shows.cell_eq (h : t.Shows b l k) : t.storage.toList[t.head]? = some l.read := by
  rw [h.inside t.head h.live, Line.read, h.position_eq]

/-! ## One operation -/

theorem Shows.read_eq (h : t.Shows b l k) :
    ∃ t', t.read = .ok (l.read, t') ∧ t'.Shows b l k ∧
      t'.statistics = { t.statistics with reads := t.statistics.reads + 1 } :=
  ⟨_, read_of_cell h.cell_eq, h.congr rfl rfl, rfl⟩

/-- A tape with one cell replaced shows the line with that cell replaced. -/
theorem Shows.put {v : S} (h : t.Shows b l k)
    (hs : t'.storage.toList = t.storage.toList.set t.head v) (hh : t'.head = t.head) :
    t'.Shows b (l.put v) k := by
  have hc : t'.storage.count = t.storage.count := by
    rw [← Sequence.length_toList, hs, List.length_set, Sequence.length_toList]
  have hl : t.head < t.storage.count := h.live
  refine ⟨fun j hj => ?_, fun x hx => ?_, ?_, ?_⟩
  · rw [hc] at hj
    rw [hs, List.getElem?_set, Line.put, h.position_eq]
    by_cases e : t.head = j
    · subst e
      simp [hl]
    · have : (j : Int) - k ≠ t.head - k := by omega
      simp only [if_neg e, if_neg this, h.inside j hj]
  · rw [hc] at hx
    have : x ≠ l.position := by rw [h.position_eq]; omega
    simp only [Line.put, if_neg this, h.outside x hx]
  · rw [hh]; exact h.position_eq
  · rw [Live, hc, hh]; exact hl

theorem Shows.write_eq [BEq S] (h : t.Shows b l k) (v : S) :
    ∃ t', t.write v = .ok ((l.write v).1, t') ∧ t'.Shows b (l.write v).2 k ∧
      t'.storage.count = t.storage.count ∧ t'.head = t.head ∧
      t'.statistics.reads = t.statistics.reads ∧
      t'.statistics.movesLeft = t.statistics.movesLeft ∧
      t'.statistics.movesRight = t.statistics.movesRight := by
  cases e : l.read == v with
  | true =>
    refine ⟨t, ?_, ?_, rfl, rfl, rfl, rfl, rfl⟩
    · simp only [write_of_equal h.cell_eq e, Line.write, e, ↓reduceIte]
    · simpa only [Line.write, e, ↓reduceIte] using h
  | false =>
    obtain ⟨storage, hw, hs⟩ := write_of_unequal h.cell_eq e
    refine ⟨{ t with storage := storage, statistics.writes := t.statistics.writes + 1 }, ?_, ?_, ?_,
      rfl, rfl, rfl, rfl⟩
    · simp only [hw, Line.write, e, Bool.false_eq_true, ↓reduceIte]
    · simp only [Line.write, e, Bool.false_eq_true, ↓reduceIte]
      exact h.put hs rfl
    · rw [← Sequence.length_toList, hs, List.length_set, Sequence.length_toList]

/-- A cell put behind widens the window upward. -/
theorem Shows.append (h : t.Shows b l k) (hs : t'.storage = t.storage.append b)
    (hh : t'.head = t.head + 1) : t'.Shows b (l.move .left) k := by
  have hc : t'.storage.count = t.storage.count + 1 := by rw [hs, Sequence.count_append]
  have hl : t.head < t.storage.count := h.live
  refine ⟨fun j hj => ?_, fun x hx => ?_, ?_, ?_⟩
  · rw [hs, Sequence.toList_append]
    rcases Nat.lt_or_ge j t.storage.count with hj' | hj'
    · rw [List.getElem?_append_left (by rwa [Sequence.length_toList])]
      exact h.inside j hj'
    · obtain rfl : j = t.storage.count := by omega
      rw [List.getElem?_append_right (Nat.le_of_eq t.storage.length_toList),
        Sequence.length_toList, Nat.sub_self]
      exact congrArg some (h.outside _ (.inr (by omega))).symm
  · exact h.outside x (by omega)
  · rw [hh, Line.position_move_left, h.position_eq]
    omega
  · rw [Live, hc, hh]
    omega

/-- A cell put in front widens the window downward and shifts all positions of the storage. -/
theorem Shows.prepend (h : t.Shows b l k) (h0 : t.head = 0)
    (hs : t'.storage = t.storage.prepend b) (hh : t'.head = 0) :
    t'.Shows b (l.move .right) (k + 1) := by
  have hc : t'.storage.count = t.storage.count + 1 := by rw [hs, Sequence.count_prepend]
  refine ⟨fun j hj => ?_, fun x hx => ?_, ?_, ?_⟩
  · rw [hs, Sequence.toList_prepend]
    cases j with
    | zero => exact congrArg some (h.outside _ (.inl (by omega))).symm
    | succ j =>
      rw [List.getElem?_cons_succ, h.inside j (by omega)]
      have : ((j + 1 : Nat) : Int) - (k + 1 : Nat) = j - k := by omega
      rw [this]
      rfl
  · exact h.outside x (by omega)
  · rw [hh, Line.position_move_right, h.position_eq, h0]
    omega
  · rw [Live, hc, hh]
    omega

/-- A move to a cell of the window leaves the window as it is. -/
theorem Shows.step {d : Direction} (h : t.Shows b l k) (hs : t'.storage = t.storage)
    (hp : (l.move d).position = t'.head - k) (hl : t'.Live) : t'.Shows b (l.move d) k := by
  refine ⟨?_, ?_, hp, hl⟩
  · rw [hs, Line.cell_move]; exact h.inside
  · rw [hs, Line.cell_move]; exact h.outside

/-- What a move does: it needs a new cell exactly if the position leaves the window, and a new cell
in front shifts the window. -/
theorem Shows.move_eq (h : t.Shows b l k) (d : Direction) :
    ∃ shift t' k', t.move d (some b) = .ok (shift, t') ∧ t'.Shows b (l.move d) k' ∧
      (shift = .stepped ↔
        -(k : Int) ≤ (l.move d).position ∧ (l.move d).position < t.storage.count - k) ∧
      k' = (if d = .right ∧ shift = .extended then k + 1 else k) ∧
      t'.storage.count = t.storage.count + (if shift = .extended then 1 else 0) ∧
      t'.statistics = { t.statistics with
        movesLeft := t.statistics.movesLeft + (if d = .left then 1 else 0)
        movesRight := t.statistics.movesRight + (if d = .right then 1 else 0) } := by
  have hl : t.head < t.storage.count := h.live
  cases d with
  | left =>
    have hp : (l.move .left).position = t.head - k + 1 := by
      rw [Line.position_move_left, h.position_eq]
    by_cases he : t.head + 1 = t.storage.count
    · refine ⟨.extended, _, k, (moveLeft_of_live h.live b).trans (if_pos he), h.append rfl rfl, ?_,
        rfl, Sequence.count_append _ _, rfl⟩
      simp only [reduceCtorEq, false_iff]
      omega
    · refine ⟨.stepped, _, k, (moveLeft_of_live h.live b).trans (if_neg he), h.step rfl ?_ ?_, ?_,
        rfl, rfl, rfl⟩
      · rw [hp]
        simp only
        omega
      · simp only [Live]
        omega
      · simp only [true_iff]
        omega
  | right =>
    have hp : (l.move .right).position = t.head - k - 1 := by
      rw [Line.position_move_right, h.position_eq]
    by_cases he : t.head = 0
    · refine ⟨.extended, _, k + 1, (moveRight_of_live h.live b).trans (if_pos he),
        h.prepend he rfl rfl, ?_, rfl, Sequence.count_prepend _ _, rfl⟩
      simp only [reduceCtorEq, false_iff]
      omega
    · refine ⟨.stepped, _, k, (moveRight_of_live h.live b).trans (if_neg he), h.step rfl ?_ ?_, ?_,
        rfl, rfl, rfl⟩
      · rw [hp]
        simp only
        omega
      · simp only [Live]
        omega
      · simp only [true_iff]
        omega

/-- One request: it succeeds, its answer is the one of the line, and the tape shows the line after
it. -/
theorem Shows.serve_eq [BEq S] (h : t.Shows b l k) (request : Request S) :
    ∃ reply t' k', t.serve (some b) request = .ok (reply, t') ∧
      reply = l.answer (-k) (t.storage.count - k) request ∧
      t'.Shows b (l.after request) k' ∧
      k' = k + (if request.movesRight && reply.extended then 1 else 0) ∧
      t'.storage.count = t.storage.count + (if reply.extended then 1 else 0) ∧
      (t'.head : Int) - k' - (t.head - k) =
        (t'.statistics.movesLeft - t.statistics.movesLeft) -
          (t'.statistics.movesRight - t.statistics.movesRight) := by
  cases request with
  | read =>
    obtain ⟨t', hr, hs, hst⟩ := h.read_eq
    have hp := hs.position_eq.symm.trans h.position_eq
    have hc : t'.storage.count = t.storage.count := by
      rw [read_of_cell h.cell_eq] at hr
      cases hr
      rfl
    refine ⟨_, t', k, by rw [serve, hr]; rfl, rfl, hs, rfl, hc, ?_⟩
    have hml := congrArg TapeStatistics.movesLeft hst
    have hmr := congrArg TapeStatistics.movesRight hst
    simp only at hml hmr
    omega
  | write v =>
    obtain ⟨t', hw, hs, hc, hh, -, hml, hmr⟩ := h.write_eq v
    refine ⟨_, t', k, by rw [serve, hw]; rfl, rfl, hs, rfl, hc, ?_⟩
    rw [hh, hml, hmr]
    omega
  | move d =>
    obtain ⟨shift, t', k', hm, hs, hshift, hk, hc, hst⟩ := h.move_eq d
    have hp := hs.position_eq
    have hp' := h.position_eq
    refine ⟨_, t', k', by rw [serve, hm]; rfl, ?_, hs, ?_, ?_, ?_⟩
    · cases shift with
      | stepped => simp only [Line.answer, if_pos (hshift.1 rfl)]
      | extended => simp only [Line.answer, if_neg fun hw => nomatch hshift.2 hw]
    · rw [hk]
      cases d <;> cases shift <;> rfl
    · rw [hc]
      cases shift <;> rfl
    · rw [hst]
      cases d with
      | left =>
        simp only [Line.position_move_left, reduceCtorEq, ↓reduceIte] at hp ⊢
        omega
      | right =>
        simp only [Line.position_move_right, reduceCtorEq, ↓reduceIte] at hp ⊢
        omega

/-! ## Series of requests -/

theorem frontExtensions_cons (request : Request S) (requests : List (Request S)) (reply : Reply S)
    (replies : List (Reply S)) :
    frontExtensions (request :: requests) (reply :: replies) =
      (if request.movesRight && reply.extended then 1 else 0) +
        frontExtensions requests replies := by
  rw [frontExtensions, List.zip_cons_cons, List.countP_cons, Nat.add_comm]
  rfl

theorem extensions_cons (reply : Reply S) (replies : List (Reply S)) :
    extensions (reply :: replies) = (if reply.extended then 1 else 0) + extensions replies := by
  rw [extensions, List.countP_cons, Nat.add_comm]
  rfl

/-- A series of requests: all of them succeed, each answer is the one of the line at that moment,
and the tape shows the line after all of them. -/
theorem Shows.serveAll_eq [BEq S] (h : t.Shows b l k) (requests : List (Request S)) :
    ∃ replies t', t.serveAll (some b) requests = .ok (replies, t') ∧
      replies.length = requests.length ∧
      t'.Shows b (l.afterAll requests) (k + frontExtensions requests replies) ∧
      t'.storage.count = t.storage.count + extensions replies ∧
      (t'.head : Int) - (k + frontExtensions requests replies : Nat) - (t.head - k) =
        (t'.statistics.movesLeft - t.statistics.movesLeft) -
          (t'.statistics.movesRight - t.statistics.movesRight) ∧
      ∀ (i : Nat) (request : Request S), requests[i]? = some request →
        replies[i]? = some ((l.afterAll (requests.take i)).answer
          (-(k + frontExtensions (requests.take i) (replies.take i) : Nat))
          (t.storage.count + extensions (replies.take i) -
            (k + frontExtensions (requests.take i) (replies.take i) : Nat)) request) := by
  induction requests generalizing t l k with
  | nil => exact ⟨[], t, rfl, rfl, h, rfl, by simp [frontExtensions], fun i r hr => nomatch hr⟩
  | cons request rest ih =>
    obtain ⟨reply, t₁, k₁, hserve, hreply, hshows, hk, hcount, hgrowth⟩ := h.serve_eq request
    obtain ⟨replies, t', hall, hlen, hshows', hcount', hgrowth', hanswers⟩ := ih hshows
    have hfront : ∀ (rs : List (Request S)) (as : List (Reply S)),
        k + frontExtensions (request :: rs) (reply :: as) = k₁ + frontExtensions rs as := by
      intro rs as
      rw [frontExtensions_cons, hk, Nat.add_assoc]
    refine ⟨reply :: replies, t', ?_, ?_, ?_, ?_, ?_, ?_⟩
    · simp only [serveAll, hserve, hall]
    · rw [List.length_cons, List.length_cons, hlen]
    · rw [hfront]
      exact hshows'
    · rw [hcount', hcount, extensions_cons, Nat.add_assoc]
    · rw [hfront]
      omega
    · intro i r hr
      cases i with
      | zero =>
        cases hr
        exact congrArg some hreply
      | succ i =>
        rw [List.take_succ_cons, List.take_succ_cons, hfront, extensions_cons]
        have hc : (t.storage.count : Int) + ((if reply.extended then 1 else 0) +
            extensions (replies.take i) : Nat) =
            t₁.storage.count + extensions (replies.take i) := by
          rw [hcount]
          omega
        rw [hc]
        exact hanswers i r hr

/-- A tape whose head is on a cell, used with a blank, behaves as the infinite line that holds its
cells and blanks everywhere else, under every series of requests. All requests succeed. With `k` the
number of cells put in front so far, position `j` of the storage is the cell `j - k` of the line,
cells outside of that window are blank, and the head stands at the position of the line plus `k`. A
move needs a new cell exactly if the position leaves the window that the tape showed before it. -/
theorem serveAll_refines_line [BEq S] (t : Tape S) (b : S) (requests : List (Request S))
    (live : t.head < t.storage.count) :
    ∃ replies t', t.serveAll (some b) requests = .ok (replies, t') ∧
      let k := frontExtensions requests replies
      let final := (t.line b).afterAll requests
      replies.length = requests.length ∧
      (∀ j : Nat, j < t'.storage.count → t'.storage.toList[j]? = some (final.cell (j - k))) ∧
      (∀ x : Int, x < -k ∨ t'.storage.count - k ≤ x → final.cell x = b) ∧
      final.position = t'.head - k ∧ t'.head < t'.storage.count ∧
      (t'.head : Int) - k = t.head + (t'.statistics.movesLeft - t.statistics.movesLeft) -
        (t'.statistics.movesRight - t.statistics.movesRight) ∧
      t'.storage.count = t.storage.count + extensions replies ∧
      ∀ (i : Nat) (request : Request S), requests[i]? = some request →
        let k := frontExtensions (requests.take i) (replies.take i)
        let count := t.storage.count + extensions (replies.take i)
        replies[i]? =
          some (((t.line b).afterAll (requests.take i)).answer (-k) (count - k) request) := by
  obtain ⟨replies, t', hall, hlen, hshows, hcount, hgrowth, hanswers⟩ :=
    (shows_line b live).serveAll_eq requests
  simp only [Nat.zero_add] at hshows hgrowth hanswers
  refine ⟨replies, t', hall, hlen, hshows.inside, hshows.outside, hshows.position_eq, hshows.live,
    by omega, hcount, ?_⟩
  exact hanswers

/-- The two cells 1 and 2, with the head on the second; the moves leave them at both ends. -/
theorem serveAll_refines_line_both_ends :
    let t : Tape Nat := { storage := .ofList [1, 2], head := 1 }
    let requests : List (Request Nat) :=
      [.move .left, .move .right, .move .right, .move .right, .write 7]
    t.head < t.storage.count ∧
    ∃ replies t', t.serveAll (some 0) requests = .ok (replies, t') ∧
      ∀ j : Nat, j < t'.storage.count → t'.storage.toList[j]? =
        some (((t.line 0).afterAll requests).cell (j - frontExtensions requests replies)) := by
  intro t requests
  have live : t.head < t.storage.count := by decide
  obtain ⟨replies, t', hall, -, hinside, -⟩ := serveAll_refines_line t 0 requests live
  exact ⟨live, replies, t', hall, hinside⟩

end Tape

end TapeMachine
