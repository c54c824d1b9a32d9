/-
# What an action guarantees

An action that may throw runs between two states whatever happens, and answers only where it does
not throw.  `Guarantees R x s Q` says both at once of the action `x` started in `s`: it moves the
state along `R`, and where it answers, the answer and the state it leaves meet `Q`.  `R` is a
preorder, what any stretch of code may do to the state, so that an invariant that `R` keeps is at
hand in every state between two steps.

The rules follow the constructs of a `do` block.
-/
import Mathlib
import Splitch.Library.StateActions

namespace StateActions

variable {σ ε α β : Type} {R : σ → σ → Prop} {s : σ}

def Guarantees (R : σ → σ → Prop) (x : ExceptT ε (StateM σ) α) (s : σ) (Q : α → σ → Prop) : Prop :=
  R s (x s).2 ∧ ∀ a, (x s).1 = .ok a → Q a (x s).2

/-- **Consequence.** -/
theorem Guarantees.mono {x : ExceptT ε (StateM σ) α} {Q Q' : α → σ → Prop}
    (h : Guarantees R x s Q) (himp : ∀ a s', R s s' → Q a s' → Q' a s') :
    Guarantees R x s Q' := ⟨h.1, fun a ha => himp a _ h.1 (h.2 a ha)⟩

/-- What moves along `R` moves along anything that `R` implies. -/
theorem Guarantees.weaken {R' : σ → σ → Prop} {x : ExceptT ε (StateM σ) α} {Q : α → σ → Prop}
    (h : Guarantees R x s Q) (himp : ∀ s', R s s' → R' s s') : Guarantees R' x s Q :=
  ⟨himp _ h.1, h.2⟩

variable [IsPreorder σ R] {Q : α → σ → Prop}

theorem guarantees_pure {a : α} (h : Q a s) :
    Guarantees R (pure a : ExceptT ε (StateM σ) α) s Q := by
  refine ⟨refl_of R s, fun b hb => ?_⟩
  rw [ok_apply] at hb
  cases hb
  exact h

/-- What throws guarantees every answer. -/
theorem guarantees_throw {e : ε} : Guarantees R (throw e : ExceptT ε (StateM σ) α) s Q :=
  ⟨refl_of R s, fun b hb => by rw [throw_apply] at hb; cases hb⟩

/-- **Sequencing**: what follows starts in a state that the first action may leave. -/
theorem Guarantees.bind {x : ExceptT ε (StateM σ) α} {f : α → ExceptT ε (StateM σ) β}
    {Q' : β → σ → Prop} (h : Guarantees R x s Q)
    (hnext : ∀ a s', R s s' → Q a s' → Guarantees R (f a) s' Q') :
    Guarantees R (x >>= f) s Q' := by
  obtain ⟨hmoves, hanswer⟩ := h
  unfold Guarantees
  rw [andThen_apply]
  cases hx : (x s).1 with
  | error e => exact ⟨hmoves, fun b hb => by cases hb⟩
  | ok a =>
    obtain ⟨hmoves', hanswer'⟩ := hnext a (x s).2 hmoves (hanswer a hx)
    exact ⟨trans_of R hmoves hmoves', hanswer'⟩

/-- The same, where the first action is known to answer. -/
theorem guarantees_andThen {x : ExceptT ε (StateM σ) α} {f : α → ExceptT ε (StateM σ) β} {s' : σ}
    {a : α} {Q' : β → σ → Prop} (hx : x s = (.ok a, s')) (hmoves : R s s')
    (hnext : Guarantees R (f a) s' Q') : Guarantees R (x >>= f) s Q' := by
  unfold Guarantees
  rw [andThen_of_ok hx]
  exact ⟨trans_of R hmoves hnext.1, hnext.2⟩

/-- The same, where the first action only reads. -/
theorem guarantees_read {x : ExceptT ε (StateM σ) α} {f : α → ExceptT ε (StateM σ) β} {a : α}
    {Q' : β → σ → Prop} (hx : x s = (.ok a, s)) (hnext : Guarantees R (f a) s Q') :
    Guarantees R (x >>= f) s Q' := guarantees_andThen hx (refl_of R s) hnext

/-- Where the first action throws and leaves the state, so does the sequence. -/
theorem guarantees_error {x : ExceptT ε (StateM σ) α} {f : α → ExceptT ε (StateM σ) β} {e : ε}
    {Q' : β → σ → Prop} (hx : x s = (.error e, s)) : Guarantees R (x >>= f) s Q' := by
  unfold Guarantees
  rw [andThen_of_error hx]
  exact ⟨refl_of R s, fun b hb => by cases hb⟩

end StateActions
