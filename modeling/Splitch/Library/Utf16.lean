/-
# UTF-16 code units

A text as its code units, and that different texts have different ones (`units_injective`), so that
the order of the code units is an order of the texts.
-/
import Mathlib

namespace Utf16

/-- A character in the Basic Multilingual Plane is one unit, any other one a surrogate pair. -/
def charUnits (char : Char) : List Nat :=
  if char.toNat < 0x10000 then [char.toNat]
  else [0xD800 + (char.toNat - 0x10000) / 0x400, 0xDC00 + (char.toNat - 0x10000) % 0x400]

/-- `charCodeAt(0)`. -/
def firstUnit (char : Char) : Nat := (charUnits char).headD 0

def units (text : String) : List Nat := text.toList.flatMap charUnits

/-- No character is a surrogate. -/
theorem toNat_not_surrogate (char : Char) : char.toNat < 0xD800 ∨ 0xDFFF < char.toNat := by
  rcases char.valid with h | ⟨h, -⟩
  · exact .inl h
  · exact .inr h

theorem toNat_lt (char : Char) : char.toNat < 0x110000 := by
  rcases char.valid with h | ⟨-, h⟩
  · exact lt_trans h (by decide)
  · exact h

/-- The units of the first character tell where they end. -/
theorem charUnits_append_inj {a b : Char} {s t : List Nat}
    (h : charUnits a ++ s = charUnits b ++ t) : a = b ∧ s = t := by
  have ha := toNat_not_surrogate a
  have hb := toNat_not_surrogate b
  have ha' := toNat_lt a
  have hb' := toNat_lt b
  have hinj (hnat : a.toNat = b.toNat) : a = b := Char.toNat_inj.mp hnat
  unfold charUnits at h
  split at h <;> split at h
  · obtain ⟨hnat, rfl⟩ := List.cons.inj h
    exact ⟨hinj hnat, rfl⟩
  · obtain ⟨hnat, -⟩ := List.cons.inj h
    omega
  · obtain ⟨hnat, -⟩ := List.cons.inj h
    omega
  · obtain ⟨hhigh, h⟩ := List.cons.inj h
    obtain ⟨hlow, rfl⟩ := List.cons.inj h
    exact ⟨hinj (by omega), rfl⟩

theorem flatMap_charUnits_injective : Function.Injective (List.flatMap charUnits) := by
  intro s
  induction s with
  | nil =>
    intro t h
    cases t with
    | nil => rfl
    | cons b t =>
      exfalso
      rw [List.flatMap_nil, List.flatMap_cons] at h
      unfold charUnits at h
      split at h <;> simp at h
  | cons a s ih =>
    intro t h
    cases t with
    | nil =>
      exfalso
      rw [List.flatMap_nil, List.flatMap_cons] at h
      unfold charUnits at h
      split at h <;> simp at h
    | cons b t =>
      rw [List.flatMap_cons, List.flatMap_cons] at h
      obtain ⟨rfl, hrest⟩ := charUnits_append_inj h
      rw [ih hrest]

theorem units_injective : Function.Injective units := fun _ _ h =>
  String.toList_injective (flatMap_charUnits_injective h)

end Utf16
