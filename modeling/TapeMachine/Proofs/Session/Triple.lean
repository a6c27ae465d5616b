import TapeMachine.Proofs.Session.Record

/-!
# Triples for runs on record

`Recorded.Kept` tells what every happening keeps, whatever code makes it happen. Where a property
holds only of certain code, and an error and an answer have to be followed from layer to layer, it
is stated as a triple: from a session with its record in which the invariant holds, an evaluation
leads to one in which it holds again, an error is as described, and so is an answer.

The rules below are those of the layers that do not look at code. What is left to whoever uses them
is one case for each form of code.

Results:
1. `Triple.bind`, `Triple.calling`, `Triple.unnoted`: triples are put together like the evaluation.
2. `Triple.drive`, `Triple.advance`: if every admitted action leads to admitted ones, so does a run
   of them, ended or not.
-/

namespace TapeMachine.Recorded

variable {I O W α β : Type}

/-- From a session and a record with the invariant, whatever comes of `x` has it again, an error is
as `err` says of the record then, and an answer is as `post` says of the machine then. -/
def Triple (inv : Recorded I O W → Prop) (err : Recorded I O W → MachineError → Prop)
    (x : Run (Recorded I O W) α) (post : Machine I O W → α → Prop) (r : Recorded I O W) : Prop :=
  inv r → ∀ result r', x r = some (result, r') →
    inv r' ∧ (∀ e, result = .error e → err r' e) ∧ ∀ a, result = .ok a → post r'.session.machine a

/-- A transition leads to nothing but what is admitted. -/
def LeadsTo (admits : Machine I O W → Action I O W → Prop) (m : Machine I O W)
    (t : Transition (Action I O W)) : Prop :=
  ∀ next, t = .enter next → admits m next

namespace Triple

variable {inv : Recorded I O W → Prop} {err : Recorded I O W → MachineError → Prop}
  {post post' : Machine I O W → α → Prop} {r : Recorded I O W}

theorem mono {x : Run (Recorded I O W) α} (h : Triple inv err x post r)
    (imp : ∀ m a, post m a → post' m a) : Triple inv err x post' r := by
  intro hr result r' hx
  obtain ⟨hi, he, hp⟩ := h hr result r' hx
  exact ⟨hi, he, fun a ha => imp _ a (hp a ha)⟩

theorem pure {a : α} (h : post r.session.machine a) :
    Triple inv err (Pure.pure a : Run (Recorded I O W) α) post r := by
  intro hr result r' hx
  cases hx
  refine ⟨hr, nofun, fun b hb => ?_⟩
  cases hb
  exact h

theorem bind {mid : Machine I O W → β → Prop} {x : Run (Recorded I O W) β}
    {f : β → Run (Recorded I O W) α} (first : Triple inv err x mid r)
    (next : ∀ a r', mid r'.session.machine a → Triple inv err (f a) post r') :
    Triple inv err (x >>= f) post r := by
  intro hr result r' h
  cases hx : x r with
  | none =>
    rw [Run.bind_of_none hx] at h
    cases h
  | some p =>
    obtain ⟨e | a, t⟩ := p
    · obtain ⟨hi, he, -⟩ := first hr _ _ hx
      rw [Run.bind_of_error hx] at h
      cases h
      exact ⟨hi, fun e' he' => he e' (by cases he'; rfl), nofun⟩
    · obtain ⟨hi, -, hp⟩ := first hr _ _ hx
      rw [Run.bind_of_ok hx] at h
      exact next a t (hp a rfl) hi result r' h

/-- A call is noted, carried out and noted again. -/
theorem calling {call : Machine.Call I O W} {x : Run (Recorded I O W) α}
    (made : inv r → inv (r.note (.made call)))
    (answered : ∀ r' result, inv r' → (∀ e, result = .error e → err r' e) →
      inv (r'.note (.answered call result)))
    (stays : ∀ r' what e, err r' e → err (r'.note what) e)
    (h : Triple inv err x post (r.note (.made call))) :
    Triple inv err (Recorded.calling call x) post r := by
  intro hr result r' hx
  obtain ⟨⟨result', r''⟩, hx', he⟩ := Option.map_eq_some_iff.1 hx
  cases he
  obtain ⟨hi, herr, hp⟩ := h (made hr) _ _ hx'
  exact ⟨answered _ _ hi fun e he => herr e (eq_error_of_map_eq_error he),
    fun e he => stays _ _ e (herr e he), hp⟩

theorem unnoted {x : Attempt (Session I O W) α}
    (h : ∀ result s', x r.session = (result, s') → inv r →
      inv (r.become s') ∧ (∀ e, result = .error e → err (r.become s') e) ∧
        ∀ a, result = .ok a → post s'.machine a) :
    Triple inv err (Recorded.unnoted (.ofAttempt x)) post r := by
  intro hr result r' hx
  cases hx
  exact h _ _ rfl hr

/-! ## Runs -/

section Runs

variable {invoke : Recorded.Invocation I O W} {admits : Machine I O W → Action I O W → Prop}
  (invoked : ∀ {r : Recorded I O W} {action}, inv r → admits r.session.machine action →
    inv (r.note (.invoked action)))
  (deeper : ∀ {r : Recorded I O W} {action}, inv r → admits r.session.machine action →
    Triple inv err (invoke action) (LeadsTo admits) (r.note (.invoked action)))

include invoked deeper

/-- A run of admitted actions. The induction is on the number of actions that it may take. -/
theorem drive {n : Nat} {action : Action I O W} (admitted : admits r.session.machine action) :
    Triple inv err (Recorded.drive invoke n action) (fun _ _ => True) r := by
  intro hr result r' hx
  induction n generalizing action r with
  | zero => cases hx
  | succ n ih =>
    rw [Recorded.drive] at hx
    cases hi : invoke action (r.note (.invoked action)) with
    | none => simp [hi] at hx
    | some bounced =>
      obtain ⟨found, t⟩ := bounced
      obtain ⟨hinv, herr, hp⟩ := deeper hr admitted (invoked hr admitted) found t hi
      rw [hi] at hx
      cases found with
      | error e =>
        cases hx
        refine ⟨hinv, fun e' he => ?_, fun _ _ => trivial⟩
        cases he
        exact herr e rfl
      | ok transition =>
        cases transition with
        | halt =>
          cases hx
          exact ⟨hinv, fun e he => (by cases he), fun _ _ => trivial⟩
        | enter next => exact ih (hp _ rfl next rfl) hinv hx

/-- A run that need not end, after any number of actions: it is in front of an admitted action or
has ended. -/
theorem advance {n : Nat} {action : Action I O W} {x : Standing (Action I O W) (Recorded I O W)}
    (admitted : admits r.session.machine action) (hr : inv r)
    (h : Recorded.advance invoke n action r = some x) :
    inv x.state ∧ (∀ next t, x = .going next t → admits t.session.machine next) ∧
      ∀ e t, x = .ended (.error e) t → err t e := by
  induction n generalizing action r with
  | zero =>
    cases h
    refine ⟨hr, fun next t hx => ?_, fun e t hx => (by cases hx)⟩
    cases hx
    exact admitted
  | succ n ih =>
    rw [Recorded.advance] at h
    cases hi : invoke action (r.note (.invoked action)) with
    | none => simp [hi] at h
    | some bounced =>
      obtain ⟨found, t⟩ := bounced
      obtain ⟨hinv, herr, hp⟩ := deeper hr admitted (invoked hr admitted) found t hi
      rw [hi] at h
      cases found with
      | error e =>
        cases h
        refine ⟨hinv, fun next t' hx => (by cases hx), fun e' t' hx => ?_⟩
        cases hx
        exact herr e rfl
      | ok transition =>
        cases transition with
        | halt =>
          cases h
          exact ⟨hinv, fun next t' hx => (by cases hx), fun e t' hx => (by cases hx)⟩
        | enter next => exact ih (hp _ rfl next rfl) hinv h

end Runs

/-- A run that need not end, from its start on. -/
theorem underway [BEq I] [BEq O] {fuel n : Nat} {admits : Machine I O W → Action I O W → Prop}
    {start : Start} {x : Standing (Action I O W) (Recorded I O W)}
    (invoked : ∀ {r : Recorded I O W} {action}, inv r → admits r.session.machine action →
      inv (r.note (.invoked action)))
    (deeper : ∀ {r : Recorded I O W} {action}, inv r → admits r.session.machine action →
      Triple inv err (eval fuel action) (LeadsTo admits) (r.note (.invoked action)))
    (begun : Triple inv err (Recorded.unnoted (.ofAttempt (Session.beginRun start))) admits
      (r.note (.made (.execute start))))
    (made : inv (r.note (.made (.execute start)))) (h : Recorded.underway fuel n start r = some x) :
    inv x.state ∧ (∀ next t, x = .going next t → admits t.session.machine next) ∧
      ∀ e t, x = .ended (.error e) t → err t e := by
  simp only [Recorded.underway] at h
  generalize r.note (.made (.execute start)) = r₀ at h made begun
  cases hb : Session.beginRun start r₀.session with
  | mk found entered =>
    have hu : Recorded.unnoted (.ofAttempt (Session.beginRun start)) r₀ =
        some (found, r₀.become entered) := by
      rw [Recorded.unnoted, Run.ofAttempt_apply, hb]
      rfl
    obtain ⟨hinv, herr, hp⟩ := begun made _ _ hu
    rw [hb] at h
    cases found with
    | error e =>
      cases h
      refine ⟨hinv, fun next t hx => (by cases hx), fun e' t hx => ?_⟩
      cases hx
      exact herr e rfl
    | ok action => exact advance invoked deeper (hp action rfl) hinv h

end Triple

end TapeMachine.Recorded
