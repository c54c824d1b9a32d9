/-
# Step-up sets

A family of values with a threshold for every size.  A set of the family is CONSISTENT when each of its
values is within the threshold for the size of the set; the step-up set is the greatest one.

* `consistent_stepUp`, `subset_stepUp`: it is consistent, and has every consistent set in it.
* `stepUp_mono`: it grows with the thresholds, and when values shrink.
* `toFinset_take`: a list in the order of the values, cut after the last rank whose value is within its
  threshold, is the step-up set.

With the thresholds `rank / size * alpha` this is the procedure of Benjamini and Hochberg.
-/
import Mathlib

namespace StepUp

variable {ι K : Type*} [DecidableEq ι] [LinearOrder K]

/-! ## 1. Consistent sets -/

def Consistent (threshold : ℕ → K) (value : ι → K) (s : Finset ι) : Prop :=
  ∀ i ∈ s, value i ≤ threshold s.card

instance (threshold : ℕ → K) (value : ι → K) :
    DecidablePred (Consistent threshold value) :=
  fun s => inferInstanceAs (Decidable (∀ i ∈ s, value i ≤ threshold s.card))

/-- The union of all consistent sets of the family. -/
def stepUp (threshold : ℕ → K) (value : ι → K) (family : Finset ι) : Finset ι :=
  (family.powerset.filter (Consistent threshold value)).biUnion id

variable {threshold threshold' : ℕ → K} {value value' : ι → K} {family s : Finset ι}

theorem mem_stepUp {i : ι} :
    i ∈ stepUp threshold value family ↔ ∃ s ⊆ family, Consistent threshold value s ∧ i ∈ s := by
  simp only [stepUp, Finset.mem_biUnion, Finset.mem_filter, Finset.mem_powerset, id, and_assoc]

theorem stepUp_subset : stepUp threshold value family ⊆ family := by
  intro i hi
  obtain ⟨s, hs, -, his⟩ := mem_stepUp.mp hi
  exact hs his

theorem subset_stepUp (hs : s ⊆ family) (hconsistent : Consistent threshold value s) :
    s ⊆ stepUp threshold value family :=
  fun _ hi => mem_stepUp.mpr ⟨s, hs, hconsistent, hi⟩

/-- **The step-up set is consistent.** -/
theorem consistent_stepUp (hmono : Monotone threshold) :
    Consistent threshold value (stepUp threshold value family) := by
  intro i hi
  obtain ⟨s, hs, hconsistent, his⟩ := mem_stepUp.mp hi
  exact (hconsistent i his).trans (hmono (Finset.card_le_card (subset_stepUp hs hconsistent)))

/-- **It grows** with the thresholds, and when values shrink. -/
theorem stepUp_mono (hmono : Monotone threshold) (hthreshold : ∀ rank ≤ family.card,
    threshold rank ≤ threshold' rank) (hvalue : ∀ i ∈ family, value' i ≤ value i) :
    stepUp threshold value family ⊆ stepUp threshold' value' family := by
  refine subset_stepUp stepUp_subset fun i hi => ?_
  calc value' i ≤ value i := hvalue i (stepUp_subset hi)
    _ ≤ threshold (stepUp threshold value family).card := consistent_stepUp hmono i hi
    _ ≤ threshold' (stepUp threshold value family).card :=
      hthreshold _ (Finset.card_le_card stepUp_subset)

/-! ## 2. Ranks -/

/-- The last rank whose value is within its threshold, or zero. -/
structure LastRank (threshold : ℕ → K) (values : List K) (rank : ℕ) : Prop where
  le_length : rank ≤ values.length
  within : ∀ index (h : index < values.length), rank = index + 1 → values[index] ≤ threshold rank
  beyond : ∀ index (h : index < values.length), rank ≤ index → ¬values[index] ≤ threshold (index + 1)

/-- **The list up to the last rank** is the step-up set. What is in front of that rank is no greater
than the value at it, so it lies within its threshold; and an item behind it that belonged to the set
would make a later rank lie within its own. -/
theorem toFinset_take (hmono : Monotone threshold) {items : List ι} (hnodup : items.Nodup)
    (hsorted : items.Pairwise fun a b => value a ≤ value b) {rank : ℕ}
    (hrank : LastRank threshold (items.map value) rank) :
    (items.take rank).toFinset = stepUp threshold value items.toFinset := by
  have hlength : rank ≤ items.length := by
    have hle := hrank.le_length
    rwa [List.length_map] at hle
  refine Finset.Subset.antisymm (subset_stepUp ?_ ?_) fun i hi => ?_
  · exact fun i hi => List.mem_toFinset.mpr (List.mem_of_mem_take (List.mem_toFinset.mp hi))
  · -- no value of the cut is above the one at its end
    intro i hi
    rw [List.mem_toFinset, List.mem_take_iff_getElem] at hi
    obtain ⟨index, hindex, rfl⟩ := hi
    rw [List.toFinset_card_of_nodup (hnodup.sublist (List.take_sublist _ _)), List.length_take,
      Nat.min_eq_left hlength]
    obtain ⟨last, rfl⟩ : ∃ last, rank = last + 1 := ⟨rank - 1, by omega⟩
    have hwithin := hrank.within last (by rw [List.length_map]; omega) rfl
    rw [List.getElem_map] at hwithin
    refine le_trans ?_ hwithin
    rcases Nat.lt_or_eq_of_le (show index ≤ last by omega) with hlt | rfl
    · exact List.pairwise_iff_getElem.mp hsorted _ _ _ _ hlt
    · exact le_rfl
  · -- the last item of the step-up set is within the threshold for its own rank
    obtain ⟨last, hlast, hmax⟩ := Finset.exists_max_image (stepUp threshold value items.toFinset)
      (fun i => items.idxOf i) ⟨i, hi⟩
    have hmem : ∀ k ∈ stepUp threshold value items.toFinset, k ∈ items :=
      fun k hk => List.mem_toFinset.mp (stepUp_subset hk)
    have hindex : items.idxOf last < items.length := List.idxOf_lt_length_iff.mpr (hmem last hlast)
    have hcut : ∀ k ∈ stepUp threshold value items.toFinset, k ∈ items.take (items.idxOf last + 1) := by
      intro k hk
      have hlt : items.idxOf k < items.length := List.idxOf_lt_length_iff.mpr (hmem k hk)
      refine List.mem_take_iff_getElem.mpr ⟨items.idxOf k, ?_, List.getElem_idxOf hlt⟩
      have hle := hmax k hk
      omega
    have hcard : (stepUp threshold value items.toFinset).card ≤ items.idxOf last + 1 := by
      calc (stepUp threshold value items.toFinset).card
          ≤ (items.take (items.idxOf last + 1)).toFinset.card :=
            Finset.card_le_card fun k hk => List.mem_toFinset.mpr (hcut k hk)
        _ ≤ (items.take (items.idxOf last + 1)).length := List.toFinset_card_le _
        _ ≤ items.idxOf last + 1 := List.length_take_le _ _
    have hwithin : value last ≤ threshold (items.idxOf last + 1) :=
      (consistent_stepUp hmono last hlast).trans (hmono hcard)
    have hrank_gt : items.idxOf last < rank := by
      by_contra hge
      refine hrank.beyond (items.idxOf last) (by rwa [List.length_map]) (Nat.not_lt.mp hge) ?_
      rwa [List.getElem_map, List.getElem_idxOf hindex]
    have hiltlen : items.idxOf i < items.length := List.idxOf_lt_length_iff.mpr (hmem i hi)
    refine List.mem_toFinset.mpr (List.mem_take_iff_getElem.mpr ⟨items.idxOf i, ?_,
      List.getElem_idxOf hiltlen⟩)
    have hle := hmax i hi
    omega

end StepUp
