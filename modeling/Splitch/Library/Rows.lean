/-
# Keyed rows

A table of rows under the keys of an ordered map whose order decides equality: look-ups after a
write in terms of key EQUALITY, and the list of the rows.  Where every row holds its own key
(`Keyed`), no two rows of that list have the same one.
-/
import Mathlib

namespace Rows

variable {κ β : Type*} {cmp : κ → κ → Ordering} [Std.TransCmp cmp] [Std.LawfulEqCmp cmp]
  {t : Std.ExtTreeMap κ β cmp}

/-! ## 1. Look-ups after a write -/

theorem getElem?_insert_eq [DecidableEq κ] (k a : κ) (v : β) :
    (t.insert k v)[a]? = if a = k then some v else t[a]? := by
  rw [Std.ExtTreeMap.getElem?_insert]
  simp only [Std.LawfulEqCmp.compare_eq_iff_eq, @eq_comm _ k a]

theorem getElem?_erase_eq [DecidableEq κ] (k a : κ) :
    (t.erase k)[a]? = if a = k then none else t[a]? := by
  rw [Std.ExtTreeMap.getElem?_erase]
  simp only [Std.LawfulEqCmp.compare_eq_iff_eq, @eq_comm _ k a]

/-- A row that is left was there before. -/
theorem of_getElem?_erase [DecidableEq κ] {k a : κ} {v : β} (h : (t.erase k)[a]? = some v) :
    a ≠ k ∧ t[a]? = some v := by
  rw [getElem?_erase_eq] at h
  split at h
  · cases h
  · exact ⟨‹_›, h⟩

theorem getElem?_filter_eq_some {f : κ → β → Bool} {k : κ} {v : β} :
    (t.filter f)[k]? = some v ↔ t[k]? = some v ∧ f k v = true := by
  rw [Std.ExtTreeMap.getElem?_filter', Option.filter_eq_some_iff]

/-! ## 2. The rows as a list -/

theorem mem_rows {v : β} : v ∈ t.toList.map Prod.snd ↔ ∃ k : κ, t[k]? = some v := by
  rw [List.mem_map]
  constructor
  · rintro ⟨⟨k, _⟩, hmem, rfl⟩
    exact ⟨k, Std.ExtTreeMap.mem_toList_iff_getElem?_eq_some.mp hmem⟩
  · rintro ⟨k, hk⟩
    exact ⟨(k, v), Std.ExtTreeMap.mem_toList_iff_getElem?_eq_some.mpr hk, rfl⟩

theorem mem_keys {k : κ} : k ∈ t.toList.map Prod.fst ↔ (t[k]?).isSome := by
  rw [List.mem_map, Option.isSome_iff_exists]
  constructor
  · rintro ⟨⟨_, v⟩, hmem, rfl⟩
    exact ⟨v, Std.ExtTreeMap.mem_toList_iff_getElem?_eq_some.mp hmem⟩
  · rintro ⟨v, hv⟩
    exact ⟨(k, v), Std.ExtTreeMap.mem_toList_iff_getElem?_eq_some.mpr hv, rfl⟩

/-- The keys come in their order. -/
theorem keys_sorted {κ : Type*} [LinearOrder κ] (t : Std.ExtTreeMap κ β compare) :
    (t.toList.map Prod.fst).Pairwise (· < ·) := by
  rw [List.pairwise_map]
  exact Std.ExtTreeMap.ordered_keys_toList.imp compare_lt_iff_lt.mp

/-- Every row holds its own key. -/
def Keyed (key : β → κ) (t : Std.ExtTreeMap κ β cmp) : Prop :=
  ∀ (k : κ) (v : β), t[k]? = some v → key v = k

omit [Std.LawfulEqCmp cmp] in
theorem Keyed.empty {key : β → κ} : Keyed key (∅ : Std.ExtTreeMap κ β cmp) := fun k v h => by
  rw [Std.ExtTreeMap.getElem?_empty] at h
  cases h

theorem Keyed.rows_distinct {key : β → κ} (h : Keyed key t) :
    (t.toList.map Prod.snd).Pairwise fun a b => key a ≠ key b := by
  rw [List.pairwise_map]
  refine (Std.ExtTreeMap.distinct_keys_toList (t := t)).imp_of_mem fun {a b} ha hb hne heq => hne ?_
  rw [h _ _ (Std.ExtTreeMap.mem_toList_iff_getElem?_eq_some.mp ha),
    h _ _ (Std.ExtTreeMap.mem_toList_iff_getElem?_eq_some.mp hb)] at heq
  exact Std.LawfulEqCmp.compare_eq_iff_eq.mpr heq

theorem Keyed.insert [DecidableEq κ] {key : β → κ} (h : Keyed key t) (v : β) :
    Keyed key (t.insert (key v) v) := by
  intro k w hk
  rw [getElem?_insert_eq] at hk
  split at hk
  · rename_i heq
    rw [← Option.some.inj hk, heq]
  · exact h k w hk

theorem Keyed.erase [DecidableEq κ] {key : β → κ} (h : Keyed key t) (k : κ) :
    Keyed key (t.erase k) := fun a v ha => h a v (of_getElem?_erase ha).2

end Rows
