/-
# Computations that agree

Two computations that may fail agree along a relation when both fail in the same way, or both answer
with related values.  They are alike along it when both fail, in whatever way, or both answer with
related values.
-/
import Splitch.Library.Checks

namespace Agreement

variable {ε α β γ δ : Type}

def Agree (R : α → β → Prop) : Except ε α → Except ε β → Prop
  | .ok a, .ok b => R a b
  | .error e, .error e' => e = e'
  | _, _ => False

variable {R : α → β → Prop} {S : γ → δ → Prop}

theorem Agree.refl {R : α → α → Prop} (h : ∀ a, R a a) : ∀ x : Except ε α, Agree R x x
  | .ok a => h a
  | .error _ => rfl

theorem Agree.mono {R' : α → β → Prop} (himp : ∀ a b, R a b → R' a b) :
    ∀ {x : Except ε α} {y : Except ε β}, Agree R x y → Agree R' x y
  | .ok a, .ok b, h => himp a b h
  | .error _, .error _, h => h

/-- **Sequencing**: what follows starts on related values. -/
theorem Agree.bind {f : α → Except ε γ} {g : β → Except ε δ}
    (hnext : ∀ a b, R a b → Agree S (f a) (g b)) :
    ∀ {x : Except ε α} {y : Except ε β}, Agree R x y → Agree S (x >>= f) (y >>= g)
  | .ok a, .ok b, h => hnext a b h
  | .error _, .error _, h => h

/-- Agreement along equality. -/
theorem Agree.eq : ∀ {x y : Except ε α}, Agree (fun a b => a = b) x y → x = y
  | .ok _, .ok _, h => congrArg _ h
  | .error _, .error _, h => congrArg _ h

/-! ## Alike -/

def Alike (R : α → β → Prop) : Except ε α → Except ε β → Prop
  | .ok a, .ok b => R a b
  | .error _, .error _ => True
  | _, _ => False

theorem Alike.refl {R : α → α → Prop} (h : ∀ a, R a a) : ∀ x : Except ε α, Alike R x x
  | .ok a => h a
  | .error _ => trivial

theorem Alike.of_ok {x : Except ε α} {y : Except ε β}
    (hiff : (∃ a, x = .ok a) ↔ ∃ b, y = .ok b)
    (h : ∀ a b, x = .ok a → y = .ok b → R a b) : Alike R x y := by
  cases x with
  | ok a =>
    obtain ⟨b, rfl⟩ := hiff.mp ⟨a, rfl⟩
    exact h a b rfl rfl
  | error e =>
    cases y with
    | ok b => obtain ⟨a, ha⟩ := hiff.mpr ⟨b, rfl⟩; cases ha
    | error e' => exact trivial

theorem Alike.ok_iff {x : Except ε α} {y : Except ε β} (h : Alike R x y) :
    (∃ a, x = .ok a) ↔ ∃ b, y = .ok b := by
  cases x <;> cases y <;> simp_all [Alike]

theorem Alike.rel {x : Except ε α} {y : Except ε β} {a : α} {b : β} (h : Alike R x y)
    (hx : x = .ok a) (hy : y = .ok b) : R a b := by
  rw [hx, hy] at h
  exact h

theorem Alike.bind {f : α → Except ε γ} {g : β → Except ε δ}
    (hnext : ∀ a b, R a b → Alike S (f a) (g b)) :
    ∀ {x : Except ε α} {y : Except ε β}, Alike R x y → Alike S (x >>= f) (y >>= g)
  | .ok a, .ok b, h => hnext a b h
  | .error _, .error _, _ => trivial

/-- A line that refuses, before lines that are alike. -/
theorem Alike.refuse {c c' : Prop} [Decidable c] [Decidable c'] {e e' : ε}
    {f : Unit → Except ε γ} {g : Unit → Except ε δ} (hiff : c ↔ c')
    (h : ¬ c → Alike S (f ⟨⟩) (g ⟨⟩)) :
    Alike S (if c then throw e >>= f else f ⟨⟩) (if c' then throw e' >>= g else g ⟨⟩) := by
  by_cases hc : c
  · rw [if_pos hc, if_pos (hiff.mp hc)]
    trivial
  · rw [if_neg hc, if_neg (mt hiff.mpr hc)]
    exact h hc

/-- Every row of one list is related to a row of the other, and the other way round. -/
def Covers (R : α → β → Prop) (as : List α) (bs : List β) : Prop :=
  (∀ a ∈ as, ∃ b ∈ bs, R a b) ∧ ∀ b ∈ bs, ∃ a ∈ as, R a b

/-- **Loops**: two lists with the same items, and what is done with an item is alike. The order may
differ, so the results are compared as sets: each on one side has its counterpart on the other. -/
theorem Alike.mapM {f : α → Except ε γ} {g : α → Except ε δ} {items items' : List α}
    (hitems : ∀ item, item ∈ items ↔ item ∈ items')
    (h : ∀ item ∈ items, Alike S (f item) (g item)) :
    Alike (Covers S) (items.mapM f) (items'.mapM g) := by
  refine Alike.of_ok ?_ fun cs ds hcs hds => ⟨fun c hc => ?_, fun d hd => ?_⟩
  · rw [Checks.exists_mapM_eq_ok, Checks.exists_mapM_eq_ok]
    constructor
    · intro hall item hitem
      exact (h item ((hitems item).mpr hitem)).ok_iff.mp (hall item ((hitems item).mpr hitem))
    · intro hall item hitem
      exact (h item hitem).ok_iff.mpr (hall item ((hitems item).mp hitem))
  · obtain ⟨item, hitem, hc⟩ := (Checks.mem_of_mapM_eq_ok hcs c).mp hc
    obtain ⟨d, hd⟩ := (h item hitem).ok_iff.mp ⟨c, hc⟩
    exact ⟨d, (Checks.mem_of_mapM_eq_ok hds d).mpr ⟨item, (hitems item).mp hitem, hd⟩,
      (h item hitem).rel hc hd⟩
  · obtain ⟨item, hitem, hd⟩ := (Checks.mem_of_mapM_eq_ok hds d).mp hd
    have hitem' := (hitems item).mpr hitem
    obtain ⟨c, hc⟩ := (h item hitem').ok_iff.mpr ⟨d, hd⟩
    exact ⟨c, (Checks.mem_of_mapM_eq_ok hcs c).mpr ⟨item, hitem', hc⟩, (h item hitem').rel hc hd⟩

end Agreement
