/-
# Checks that passed

A validator is a `do` block of `Except`: each line either throws or hands on.  These equations
turn "the block answered" into what every line of it has established.
-/
import Mathlib

namespace Checks

variable {ε α β : Type}

theorem bind_eq_ok {x : Except ε α} {f : α → Except ε β} {b : β} :
    x >>= f = .ok b ↔ ∃ a, x = .ok a ∧ f a = .ok b := by
  cases x with
  | error e => exact ⟨fun h => (by cases h), fun ⟨_, h, _⟩ => (by cases h)⟩
  | ok a => exact ⟨fun h => ⟨a, rfl, h⟩, fun ⟨_, h, hf⟩ => by cases h; exact hf⟩

theorem pure_eq_ok {a b : α} : (pure a : Except ε α) = .ok b ↔ a = b :=
  ⟨fun h => (by cases h; rfl), fun h => by rw [h]; rfl⟩

theorem map_eq_ok {x : Except ε α} {f : α → β} {b : β} :
    x.map f = .ok b ↔ ∃ a, x = .ok a ∧ f a = b := by
  cases x with
  | error e => exact ⟨fun h => (by cases h), fun ⟨_, h, _⟩ => (by cases h)⟩
  | ok a => exact ⟨fun h => (by cases h; exact ⟨a, rfl, rfl⟩), fun ⟨_, h, hf⟩ => by
      cases h; exact congrArg Except.ok hf⟩

/-- A line that refuses what meets `c`, and the lines behind it. -/
theorem refuse_eq_ok {c : Prop} [Decidable c] {e : ε} {rest : Unit → Except ε β} {b : β} :
    (if c then throw e >>= rest else rest ⟨⟩) = .ok b ↔ ¬ c ∧ rest ⟨⟩ = .ok b := by
  split
  · exact ⟨fun h => (by cases h), fun h => absurd ‹c› h.1⟩
  · exact ⟨fun h => ⟨‹¬ c›, h⟩, fun h => h.2⟩

theorem ite_error_eq_ok {c : Prop} [Decidable c] {e : ε} {x : Except ε α} {a : α} :
    (if c then .error e else x) = .ok a ↔ ¬ c ∧ x = .ok a := by
  split
  · exact ⟨fun h => (by cases h), fun h => absurd ‹c› h.1⟩
  · exact ⟨fun h => ⟨‹¬ c›, h⟩, fun h => h.2⟩

theorem forM_eq_ok {f : α → Except ε Unit} {items : List α} :
    items.forM f = .ok ⟨⟩ ↔ ∀ item ∈ items, f item = .ok ⟨⟩ := by
  induction items with
  | nil => exact ⟨fun _ item h => (by cases h), fun _ => rfl⟩
  | cons item items ih =>
    rw [List.forall_mem_cons, ← ih]
    change f item >>= (fun _ => items.forM f) = _ ↔ _
    rw [bind_eq_ok]
    exact ⟨fun ⟨_, h, hrest⟩ => ⟨h, hrest⟩, fun ⟨h, hrest⟩ => ⟨⟨⟩, h, hrest⟩⟩

theorem mapM_cons_eq_ok {f : α → Except ε β} {item : α} {items : List α} {bs : List β} :
    (item :: items).mapM f = .ok bs ↔
      ∃ b rest, f item = .ok b ∧ items.mapM f = .ok rest ∧ bs = b :: rest := by
  rw [List.mapM_cons, bind_eq_ok]
  constructor
  · rintro ⟨b, hb, h⟩
    obtain ⟨rest, hrest, h⟩ := bind_eq_ok.mp h
    exact ⟨b, rest, hb, hrest, (pure_eq_ok.mp h).symm⟩
  · rintro ⟨b, rest, hb, hrest, rfl⟩
    exact ⟨b, hb, bind_eq_ok.mpr ⟨rest, hrest, rfl⟩⟩

/-- A list is mapped when each of its items is. -/
theorem exists_mapM_eq_ok {f : α → Except ε β} {items : List α} :
    (∃ bs, items.mapM f = .ok bs) ↔ ∀ item ∈ items, ∃ b, f item = .ok b := by
  induction items with
  | nil => exact ⟨fun _ item h => (by cases h), fun _ => ⟨[], rfl⟩⟩
  | cons item items ih =>
    rw [List.forall_mem_cons, ← ih]
    constructor
    · rintro ⟨bs, h⟩
      obtain ⟨b, rest, hb, hrest, -⟩ := mapM_cons_eq_ok.mp h
      exact ⟨⟨b, hb⟩, rest, hrest⟩
    · rintro ⟨⟨b, hb⟩, rest, hrest⟩
      exact ⟨b :: rest, mapM_cons_eq_ok.mpr ⟨b, rest, hb, hrest, rfl⟩⟩

theorem mem_of_mapM_eq_ok {f : α → Except ε β} {items : List α} {bs : List β}
    (h : items.mapM f = .ok bs) (b : β) : b ∈ bs ↔ ∃ item ∈ items, f item = .ok b := by
  induction items generalizing bs with
  | nil =>
    cases h
    exact ⟨fun hb => (by cases hb), fun ⟨_, hitem, _⟩ => (by cases hitem)⟩
  | cons item items ih =>
    obtain ⟨b', rest, hb', hrest, rfl⟩ := mapM_cons_eq_ok.mp h
    rw [List.mem_cons, ih hrest]
    constructor
    · rintro (rfl | ⟨item', hitem, hb⟩)
      · exact ⟨item, .head _, hb'⟩
      · exact ⟨item', .tail _ hitem, hb⟩
    · rintro ⟨item', hitem, hb⟩
      rcases List.mem_cons.mp hitem with rfl | hitem
      · rw [hb'] at hb
        cases hb
        exact .inl rfl
      · exact .inr ⟨item', hitem, hb⟩

/-- What is read off the results of a list can be read off its items. -/
theorem map_of_mapM_eq_ok {γ : Type} {f : α → Except ε β} {g : β → γ} {g' : α → γ} {items : List α}
    {bs : List β} (h : items.mapM f = .ok bs) (hg : ∀ item b, f item = .ok b → g b = g' item) :
    bs.map g = items.map g' := by
  induction items generalizing bs with
  | nil =>
    cases h
    rfl
  | cons item items ih =>
    obtain ⟨b, rest, hb, hrest, rfl⟩ := mapM_cons_eq_ok.mp h
    rw [List.map_cons, List.map_cons, hg item b hb, ih hrest]

end Checks
