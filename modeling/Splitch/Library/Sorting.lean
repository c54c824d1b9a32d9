/-
# Sorting by a key

Rows in the order of a key, equal keys in the order they come in.  Where the keys are distinct the
order they come in does not matter (`sortBy_eq_of_perm`); rows that correspond one to one and have
the same keys correspond after sorting too (`forall₂_sortBy`).  Rows in a strict order that come after
all of some others continue those (`continues_of_later`).
-/
import Mathlib

namespace Sorting

variable {α κ : Type*} [LinearOrder κ]

def sortBy (key : α → κ) (rows : List α) : List α :=
  rows.insertionSort fun a b => key a ≤ key b

variable {key : α → κ} {rows rows' : List α}

local instance total_le (key : α → κ) : Std.Total (fun a b => key a ≤ key b) :=
  ⟨fun a b => le_total (key a) (key b)⟩

local instance trans_le (key : α → κ) : IsTrans α (fun a b => key a ≤ key b) := ⟨fun _ _ _ => le_trans⟩

theorem sortBy_perm : (sortBy key rows).Perm rows := List.perm_insertionSort _ rows

theorem pairwise_sortBy : (sortBy key rows).Pairwise fun a b => key a ≤ key b :=
  List.pairwise_insertionSort _ rows

/-- Distinct keys leave one order. -/
theorem sortBy_eq_of_perm (hdistinct : (rows.map key).Nodup) (h : rows.Perm rows') :
    sortBy key rows = sortBy key rows' := by
  refine List.Perm.eq_of_pairwise (fun a b ha hb hab hba => ?_) pairwise_sortBy pairwise_sortBy
    (sortBy_perm.trans (h.trans sortBy_perm.symm))
  refine List.inj_on_of_nodup_map hdistinct (sortBy_perm.mem_iff.mp ha) ?_ (le_antisymm hab hba)
  exact h.mem_iff.mpr (sortBy_perm.mem_iff.mp hb)

/-- Sorting keeps a correspondence of rows that have the same keys. -/
theorem forall₂_sortBy {R : α → α → Prop} (hkey : ∀ a b, R a b → key a = key b)
    (h : List.Forall₂ R rows rows') : List.Forall₂ R (sortBy key rows) (sortBy key rows') := by
  have hinsert {a b : α} (hab : R a b) {l l' : List α} (hl : List.Forall₂ R l l') :
      List.Forall₂ R (l.orderedInsert (fun a b => key a ≤ key b) a)
        (l'.orderedInsert (fun a b => key a ≤ key b) b) := by
    induction hl with
    | nil => exact .cons hab .nil
    | cons hcd hrest ih =>
      rw [List.orderedInsert_cons, List.orderedInsert_cons, hkey _ _ hab, hkey _ _ hcd]
      split
      · exact .cons hab (.cons hcd hrest)
      · exact .cons hcd ih
  induction h with
  | nil => exact .nil
  | cons hab _ ih => exact hinsert hab ih

/-! ## Strict orders -/

/-- A strict order leaves one list of the same rows. -/
theorem eq_of_mem_iff (h : rows.Pairwise fun a b => key a < key b)
    (h' : rows'.Pairwise fun a b => key a < key b) (hmem : ∀ a, a ∈ rows ↔ a ∈ rows') :
    rows = rows' := by
  have hnodup {l : List α} (hl : l.Pairwise fun a b => key a < key b) : l.Nodup :=
    hl.imp fun hlt heq => (heq ▸ hlt).ne rfl
  refine List.Perm.eq_of_pairwise (fun a b _ _ hab hba => absurd hba hab.asymm) h h' ?_
  exact (List.perm_ext_iff_of_nodup (hnodup h) (hnodup h')).mpr hmem

/-- Rows in a strict order that come after all of some others continue those. -/
theorem continues_of_later (h : rows.Pairwise fun a b => key a < key b)
    (h' : rows'.Pairwise fun a b => key a < key b) (hsub : rows ⊆ rows')
    (hlater : ∀ b ∈ rows', b ∉ rows → ∀ a ∈ rows, key a < key b) : rows <+: rows' := by
  classical
  have hrest : (rows ++ rows'.filter (· ∉ rows)).Pairwise fun a b => key a < key b := by
    refine List.pairwise_append.mpr ⟨h, h'.filter _, fun a ha b hb => ?_⟩
    rw [List.mem_filter, decide_eq_true_iff] at hb
    exact hlater b hb.1 hb.2 a ha
  refine ⟨rows'.filter (· ∉ rows), eq_of_mem_iff hrest h' fun a => ?_⟩
  rw [List.mem_append, List.mem_filter, decide_eq_true_iff]
  by_cases ha : a ∈ rows
  · exact ⟨fun _ => hsub ha, fun _ => .inl ha⟩
  · exact ⟨fun hor => (hor.resolve_left ha).1, fun hmem => .inr ⟨hmem, ha⟩⟩

end Sorting
