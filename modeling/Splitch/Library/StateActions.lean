/-
# Running state actions

The equations that execute a `do` block on a state, one for each construct: first for `StateM`,
then for actions that may also throw (`ExceptT` over `StateM`).  What a throwing action has
written before it throws stays written.
-/
import Mathlib.Init

namespace StateActions

variable {σ ε α β : Type}

/-! ## 1. Actions that do not throw -/

@[simp] theorem pure_apply (a : α) (s : σ) : (pure a : StateM σ α) s = (a, s) := rfl

@[simp] theorem bind_apply (x : StateM σ α) (f : α → StateM σ β) (s : σ) :
    (x >>= f) s = f (x s).1 (x s).2 := rfl

@[simp] theorem map_apply (f : α → β) (x : StateM σ α) (s : σ) :
    (f <$> x) s = (f (x s).1, (x s).2) := rfl

@[simp] theorem get_apply (s : σ) : (get : StateM σ σ) s = (s, s) := rfl

@[simp] theorem modify_apply (f : σ → σ) (s : σ) :
    (modify f : StateM σ PUnit) s = (⟨⟩, f s) := rfl

@[simp] theorem ite_apply (c : Prop) [Decidable c] (x y : StateM σ α) (s : σ) :
    (if c then x else y) s = if c then x s else y s := by
  split <;> rfl

/-! ## 2. Actions that may throw -/

@[simp] theorem ok_apply (a : α) (s : σ) :
    (pure a : ExceptT ε (StateM σ) α) s = (.ok a, s) := rfl

@[simp] theorem throw_apply (e : ε) (s : σ) :
    (throw e : ExceptT ε (StateM σ) α) s = (.error e, s) := rfl

@[simp] theorem get_ok_apply (s : σ) : (get : ExceptT ε (StateM σ) σ) s = (.ok s, s) := rfl

@[simp] theorem modify_ok_apply (f : σ → σ) (s : σ) :
    (modify f : ExceptT ε (StateM σ) PUnit) s = (.ok ⟨⟩, f s) := rfl

/-- The second action runs on what the first one has left, unless the first one threw. -/
theorem andThen_apply (x : ExceptT ε (StateM σ) α) (f : α → ExceptT ε (StateM σ) β) (s : σ) :
    (x >>= f) s = match (x s).1 with
      | .ok a => f a (x s).2
      | .error e => (.error e, (x s).2) := by
  change ExceptT.bindCont f (x s).1 (x s).2 = _
  cases (x s).1 <;> rfl

theorem andThen_of_ok {x : ExceptT ε (StateM σ) α} {f : α → ExceptT ε (StateM σ) β} {s s' : σ}
    {a : α} (h : x s = (.ok a, s')) : (x >>= f) s = f a s' := by
  rw [andThen_apply, h]

theorem andThen_of_error {x : ExceptT ε (StateM σ) α} {f : α → ExceptT ε (StateM σ) β}
    {s s' : σ} {e : ε} (h : x s = (.error e, s')) : (x >>= f) s = (.error e, s') := by
  rw [andThen_apply, h]

/-- Whatever follows an action and leaves the state alone, the state is the action's. -/
theorem andThen_state {x : ExceptT ε (StateM σ) α} {f : α → ExceptT ε (StateM σ) β}
    (hf : ∀ a s, (f a s).2 = s) (s : σ) : ((x >>= f) s).2 = (x s).2 := by
  rw [andThen_apply]
  cases (x s).1 with
  | ok a => exact hf a _
  | error e => rfl

@[simp] theorem mapOk_apply (f : α → β) (x : ExceptT ε (StateM σ) α) (s : σ) :
    (f <$> x) s = ((x s).1.map f, (x s).2) := by
  change (match (x s).1 with
    | .ok a => (pure (Except.ok (f a)) : StateM σ (Except ε β))
    | .error e => pure (Except.error e)) (x s).2 = _
  cases (x s).1 <;> rfl

theorem map_eq_ok {f : α → β} {x : ExceptT ε (StateM σ) α} {s s' : σ} {b : β} :
    (f <$> x) s = (.ok b, s') ↔ ∃ a, f a = b ∧ x s = (.ok a, s') := by
  rw [mapOk_apply]
  obtain ⟨r, s''⟩ := x s
  cases r with
  | ok a =>
    refine ⟨fun h => ?_, fun ⟨_, hf, he⟩ => ?_⟩
    · cases h
      exact ⟨a, rfl, rfl⟩
    · cases he
      exact congrArg (fun b => (Except.ok b, s')) hf
  | error e => exact ⟨fun h => (by cases h), fun ⟨_, _, he⟩ => (by cases he)⟩

/-- **Inversion**: a sequence that does not throw has two halves that do not. -/
theorem andThen_eq_ok {x : ExceptT ε (StateM σ) α} {f : α → ExceptT ε (StateM σ) β} {s s'' : σ}
    {b : β} : (x >>= f) s = (.ok b, s'') ↔ ∃ a s', x s = (.ok a, s') ∧ f a s' = (.ok b, s'') := by
  rw [andThen_apply]
  obtain ⟨r, s'⟩ := x s
  cases r with
  | ok a => exact ⟨fun h => ⟨a, s', rfl, h⟩, fun ⟨_, _, he, h⟩ => by cases he; exact h⟩
  | error e => exact ⟨fun h => (by cases h), fun ⟨_, _, he, _⟩ => by cases he⟩

/-! ## 3. Handlers and loops -/

theorem catch_of_ok {x : ExceptT ε (StateM σ) α} {f : ε → ExceptT ε (StateM σ) α} {s s' : σ}
    {a : α} (h : x s = (.ok a, s')) : (tryCatch x f) s = (.ok a, s') := by
  change (match (x s).1 with
    | .ok a => (pure (Except.ok a) : StateM σ (Except ε α))
    | .error e => f e) (x s).2 = _
  rw [h]
  rfl

theorem catch_of_error {x : ExceptT ε (StateM σ) α} {f : ε → ExceptT ε (StateM σ) α} {s s' : σ}
    {e : ε} (h : x s = (.error e, s')) : (tryCatch x f) s = f e s' := by
  change (match (x s).1 with
    | .ok a => (pure (Except.ok a) : StateM σ (Except ε α))
    | .error e => f e) (x s).2 = _
  rw [h]

/-- **The loop rule**: what holds of the elements still to come and the state, and survives each
turn, holds of some rest where the loop stops, thrown or not. -/
theorem forM_invariant {f : α → ExceptT ε (StateM σ) PUnit} {I : List α → σ → Prop}
    (hstep : ∀ a rest s, I (a :: rest) s → I rest (f a s).2) (as : List α) (s : σ)
    (h : I as s) : ∃ rest, I rest (as.forM f s).2 := by
  induction as generalizing s with
  | nil => exact ⟨[], h⟩
  | cons a rest ih =>
    have hturn := hstep a rest s h
    change ∃ rest', I rest' ((f a >>= fun _ => rest.forM f) s).2
    rw [andThen_apply]
    cases (f a s).1 with
    | ok _ => exact ih _ hturn
    | error e => exact ⟨rest, hturn⟩

end StateActions
