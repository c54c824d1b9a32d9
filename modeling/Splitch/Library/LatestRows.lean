/-
# The latest row of each key

A map that is filled row by row, each under its key (`Map.set`): a key keeps the place of its first row
and holds its last one.  Where rows of one key have the same image, the images of the rows that are held
are those of all rows (`mem_map_latest`), and so neither depend on the order of the rows nor change with
further ones.
-/
import Mathlib.Data.List.Induction
import Mathlib.Data.List.Nodup

namespace LatestRows

variable {α β κ : Type*} [DecidableEq κ]

/-- `map.set(key(row), row)`, on the values of the map. -/
def set (key : α → κ) (held : List α) (row : α) : List α :=
  if ∃ old ∈ held, key old = key row then held.map fun old => if key old = key row then row else old
  else held ++ [row]

/-- The values of the map, in its order. -/
def latest (key : α → κ) (rows : List α) : List α := rows.foldl (set key) []

variable {key : α → κ} {held rows : List α} {row other : α}

theorem mem_set : other ∈ set key held row ↔ other = row ∨ other ∈ held ∧ key other ≠ key row := by
  unfold set
  split
  · next hex =>
    rw [List.mem_map]
    constructor
    · rintro ⟨old, hold, rfl⟩
      split
      · exact .inl rfl
      · exact .inr ⟨hold, ‹_›⟩
    · rintro (rfl | ⟨hother, hne⟩)
      · obtain ⟨old, hold, hkey⟩ := hex
        exact ⟨old, hold, if_pos hkey⟩
      · exact ⟨other, hother, if_neg hne⟩
  · next hnone =>
    rw [List.mem_append, List.mem_singleton, or_comm]
    refine or_congr_right ⟨fun h => ⟨h, fun hkey => hnone ⟨other, h, hkey⟩⟩, And.left⟩

theorem nodup_set (h : (held.map key).Nodup) (row : α) : ((set key held row).map key).Nodup := by
  unfold set
  split
  · rwa [List.map_map, List.map_congr_left (g := key)]
    intro old hold
    rw [Function.comp_apply]
    split
    · exact (‹key old = key row›).symm
    · rfl
  · next hnone =>
    rw [List.map_append, List.map_singleton, ← List.concat_eq_append, List.nodup_concat]
    refine ⟨fun hmem => hnone ?_, h⟩
    obtain ⟨old, hold, hkey⟩ := List.mem_map.mp hmem
    exact ⟨old, hold, hkey⟩

@[simp] theorem latest_nil : latest key [] = [] := rfl

theorem latest_concat (rows : List α) (row : α) :
    latest key (rows ++ [row]) = set key (latest key rows) row := by
  rw [latest, List.foldl_append]
  rfl

theorem mem_latest_concat :
    other ∈ latest key (rows ++ [row]) ↔
      other = row ∨ other ∈ latest key rows ∧ key other ≠ key row := by
  rw [latest_concat, mem_set]

/-- The last row is held. -/
theorem last_mem_latest (rows : List α) (row : α) : row ∈ latest key (rows ++ [row]) :=
  mem_latest_concat.mpr (.inl rfl)

theorem nodup_latest (rows : List α) : ((latest key rows).map key).Nodup := by
  induction rows using List.reverseRecOn with
  | nil => exact List.nodup_nil
  | append_singleton rows row ih =>
    rw [latest_concat]
    exact nodup_set ih row

/-- No two rows of one key are held. -/
theorem eq_of_key_eq (hrow : row ∈ latest key rows) (hother : other ∈ latest key rows)
    (hkey : key row = key other) : row = other :=
  List.inj_on_of_nodup_map (nodup_latest rows) hrow hother hkey

theorem mem_of_mem_latest (h : row ∈ latest key rows) : row ∈ rows := by
  induction rows using List.reverseRecOn with
  | nil => exact h
  | append_singleton rows last ih =>
    rw [List.mem_append, List.mem_singleton]
    rcases mem_latest_concat.mp h with rfl | ⟨h, -⟩
    · exact .inr rfl
    · exact .inl (ih h)

/-- Every key that has a row holds one. -/
theorem exists_latest (h : row ∈ rows) : ∃ held ∈ latest key rows, key held = key row := by
  induction rows using List.reverseRecOn with
  | nil => cases h
  | append_singleton rows last ih =>
    by_cases hkey : key row = key last
    · exact ⟨last, last_mem_latest rows last, hkey.symm⟩
    · have hrow : row ∈ rows := by
        rcases List.mem_append.mp h with h | h
        · exact h
        · exact absurd (congrArg key (List.mem_singleton.mp h)) hkey
      obtain ⟨held, hheld, heq⟩ := ih hrow
      exact ⟨held, mem_latest_concat.mpr (.inr ⟨hheld, heq ▸ hkey⟩), heq⟩

/-- **Images that the key decides** are those of all rows. -/
theorem mem_map_latest {f : α → β}
    (hf : ∀ row ∈ rows, ∀ other ∈ rows, key row = key other → f row = f other) (b : β) :
    b ∈ (latest key rows).map f ↔ b ∈ rows.map f := by
  rw [List.mem_map, List.mem_map]
  constructor
  · rintro ⟨row, hrow, rfl⟩
    exact ⟨row, mem_of_mem_latest hrow, rfl⟩
  · rintro ⟨row, hrow, rfl⟩
    have hheld : ∃ held ∈ latest key rows, key held = key row := exists_latest hrow
    obtain ⟨held, hheld, hkey⟩ := hheld
    exact ⟨held, hheld, hf held (mem_of_mem_latest hheld) row hrow hkey⟩

end LatestRows
