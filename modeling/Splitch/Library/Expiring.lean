/-
# Tables whose rows expire

A store that deletes a row only when somebody reads it, or when a sweep happens to pass, holds
rows that are already dead.  What its clients see is not the table but the table AGED to the
present: `age expiry t T` keeps the rows that expire strictly after `t`.

Two facts make the aged table the right thing to reason about.  Ageing is an action of time
(`age_age`), and shedding dead rows, in any order and by whoever comes first, is invisible to it
(`Shed.age_eq`).  So an operation that begins by dropping what it finds expired does to the aged
table exactly what it would have done had nothing been dropped.
-/
import Mathlib

namespace Expiring

variable {κ α τ : Type*} [LinearOrder τ] (expiry : α → τ)

/-! ## 1. Ageing -/

/-- The rows that expire strictly after `t`. -/
def age (t : τ) (T : κ → Option α) : κ → Option α :=
  fun k => (T k).filter (fun a => decide (t < expiry a))

theorem age_eq_some {t : τ} {T : κ → Option α} {k : κ} {a : α} :
    age expiry t T k = some a ↔ T k = some a ∧ t < expiry a := by
  simp [age, Option.filter_eq_some_iff]

theorem age_eq_none {t : τ} {T : κ → Option α} {k : κ} :
    age expiry t T k = none ↔ ∀ a, T k = some a → expiry a ≤ t := by
  simp [age, Option.filter_eq_none_iff]

/-- **Time acts on tables**: ageing twice is ageing to the later time. -/
theorem age_age {t t' : τ} (h : t ≤ t') (T : κ → Option α) :
    age expiry t' (age expiry t T) = age expiry t' T := by
  funext k
  ext a
  simp only [age_eq_some, and_assoc, and_congr_right_iff, and_iff_right_iff_imp]
  exact fun _ ha => lt_of_le_of_lt h ha

/-! ## 2. Shedding -/

/-- `Shed expiry t T T'`: the table `T'` is `T` without some of the rows that expired by `t`. -/
def Shed (t : τ) (T T' : κ → Option α) : Prop :=
  ∀ k, T' k = T k ∨ (T' k = none ∧ ∃ a, T k = some a ∧ expiry a ≤ t)

variable {expiry}

theorem Shed.refl (t : τ) (T : κ → Option α) : Shed expiry t T T := fun _ => Or.inl rfl

/-- Shedding loses rows, and only loses rows. -/
theorem Shed.of_some {t : τ} {T T' : κ → Option α} (h : Shed expiry t T T') {k : κ} {a : α}
    (hk : T' k = some a) : T k = some a := by
  rcases h k with he | ⟨hn, _⟩
  · rw [← he, hk]
  · simp [hn] at hk

/-- A row that is still alive is not shed. -/
theorem Shed.of_alive {t : τ} {T T' : κ → Option α} (h : Shed expiry t T T') {k : κ} {a : α}
    (hk : T k = some a) (ha : t < expiry a) : T' k = some a := by
  rcases h k with he | ⟨_, b, hb, hle⟩
  · rw [he, hk]
  · rw [hk] at hb
    cases hb
    exact absurd ha (not_lt.mpr hle)

/-- Shedding, by what it may not do: invent a row, or lose one that is alive. -/
theorem shed_iff {t : τ} {T T' : κ → Option α} :
    Shed expiry t T T' ↔ (∀ k a, T' k = some a → T k = some a) ∧
      ∀ k a, T k = some a → t < expiry a → T' k = some a := by
  refine ⟨fun h => ⟨fun _ _ => h.of_some, fun _ _ => h.of_alive⟩, ?_⟩
  rintro ⟨hsub, hkeep⟩ k
  cases hk : T' k with
  | some a => exact Or.inl (hsub k a hk).symm
  | none =>
    cases hT : T k with
    | none => exact Or.inl rfl
    | some a =>
      refine Or.inr ⟨rfl, a, rfl, not_lt.mp fun ha => ?_⟩
      simp [hkeep k a hT ha] at hk

theorem Shed.trans {t : τ} {T T' T'' : κ → Option α} (h : Shed expiry t T T')
    (h' : Shed expiry t T' T'') : Shed expiry t T T'' := by
  intro k
  rcases h' k with he | ⟨hn, a, ha, hle⟩
  · rw [he]
    exact h k
  · exact Or.inr ⟨hn, a, h.of_some ha, hle⟩

/-- **Shedding is invisible**: from the time of the shedding on, nobody can tell the two tables
apart. -/
theorem Shed.age_eq {t t' : τ} {T T' : κ → Option α} (h : Shed expiry t T T') (ht : t ≤ t') :
    age expiry t' T' = age expiry t' T := by
  funext k
  rcases h k with he | ⟨hn, a, ha, hle⟩
  · simp [age, he]
  · rw [(age_eq_none expiry).mpr (by simp [hn]), eq_comm, age_eq_none]
    intro b hb
    rw [ha] at hb
    cases hb
    exact hle.trans ht

/-! ## 3. Point updates -/

variable [DecidableEq κ]

/-- Deleting one dead row sheds it. -/
theorem shed_erase {t : τ} {T : κ → Option α} {k : κ} {a : α} (hk : T k = some a)
    (ha : expiry a ≤ t) : Shed expiry t T (Function.update T k none) := by
  intro j
  by_cases hj : j = k
  · subst hj
    exact Or.inr ⟨by simp, a, hk, ha⟩
  · exact Or.inl (by simp [hj])

variable (expiry)

@[simp] theorem age_update_none (t : τ) (T : κ → Option α) (k : κ) :
    age expiry t (Function.update T k none) = Function.update (age expiry t T) k none := by
  funext j
  by_cases h : j = k <;> simp [age, h]

theorem age_update_some {t : τ} {a : α} (h : t < expiry a) (T : κ → Option α) (k : κ) :
    age expiry t (Function.update T k (some a))
      = Function.update (age expiry t T) k (some a) := by
  funext j
  by_cases hj : j = k <;> simp [age, hj, h]

end Expiring
