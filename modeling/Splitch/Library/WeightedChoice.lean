/-
# Choice by cumulative weight

A list of alternatives with weights is walked with a running sum, and the first alternative whose
sum lies above a point is chosen; where none does, the last one is.  Over any ordered group of
weights, an alternative is chosen on one half-open interval (`pick_eq_iff`), which starts at the sum
of the weights before it.
-/
import Mathlib

namespace WeightedChoice

variable {K α : Type*} [AddCommGroup K]

/-- The sum of the weights. -/
def total (shares : List (α × K)) : K := (shares.map Prod.snd).sum

@[simp] theorem total_nil : total ([] : List (α × K)) = 0 := rfl

@[simp] theorem total_cons (share : α × K) (shares : List (α × K)) :
    total (share :: shares) = share.2 + total shares := rfl

@[simp] theorem total_append (before after : List (α × K)) :
    total (before ++ after) = total before + total after := by
  simp [total]

variable [LinearOrder K]

/-- The walk: the sum so far, and the alternative that it has passed last. -/
def pick (point : K) : K → α → List (α × K) → α
  | _, last, [] => last
  | sum, _, (alternative, weight) :: shares =>
    if point < sum + weight then alternative else pick point (sum + weight) alternative shares

variable {point sum : K} {last : α} {share : α × K} {shares before after : List (α × K)}

theorem pick_mem (hshares : shares ≠ []) : pick point sum last shares ∈ shares.map Prod.fst := by
  induction shares generalizing sum last with
  | nil => exact absurd rfl hshares
  | cons share rest ih =>
    rw [pick, List.map_cons]
    split
    · exact List.mem_cons_self
    · cases rest with
      | nil => exact List.mem_cons_self
      | cons => exact List.mem_cons_of_mem _ (ih (List.cons_ne_nil _ _))

variable [IsOrderedAddMonoid K]

theorem total_nonneg (hnonneg : ∀ share ∈ shares, 0 ≤ share.2) : 0 ≤ total shares := by
  refine List.sum_nonneg fun weight hweight => ?_
  obtain ⟨share, hshare, rfl⟩ := List.mem_map.mp hweight
  exact hnonneg share hshare

/-- What lies at or below the point is passed over. -/
theorem pick_append_of_le (last : α) (after : List (α × K))
    (hnonneg : ∀ share ∈ before, 0 ≤ share.2)
    (hle : sum + total before ≤ point) :
    pick point sum last (before ++ after) =
      pick point (sum + total before) ((before.getLast?.map Prod.fst).getD last) after := by
  induction before generalizing sum last with
  | nil => simp
  | cons share rest ih =>
    have hrest : ∀ other ∈ rest, 0 ≤ other.2 := fun other hother =>
      hnonneg other (List.mem_cons_of_mem _ hother)
    have hfirst : ¬ point < sum + share.2 := by
      refine not_lt_of_ge (le_trans ?_ hle)
      rw [total_cons]
      exact add_le_add_right (le_add_of_nonneg_right (total_nonneg hrest)) sum
    rw [List.cons_append, pick, if_neg hfirst, ih _ hrest (by rwa [add_assoc]), total_cons, add_assoc]
    congr 1
    cases rest with
    | nil => rfl
    | cons => rw [List.getLast?_cons_cons, List.getLast?_eq_some_getLast (List.cons_ne_nil _ _)]; rfl

/-- A point below the total is decided before the rest, by an alternative of positive weight. -/
theorem pick_append_of_lt (last : α) (after : List (α × K))
    (hnonneg : ∀ share ∈ before, 0 ≤ share.2) (hsum : sum ≤ point)
    (hlt : point < sum + total before) :
    ∃ share ∈ before, 0 < share.2 ∧ pick point sum last (before ++ after) = share.1 := by
  induction before generalizing sum last with
  | nil =>
    rw [total_nil, add_zero] at hlt
    exact absurd hlt (not_lt_of_ge hsum)
  | cons share rest ih =>
    rw [List.cons_append, pick]
    by_cases hfirst : point < sum + share.2
    · rw [if_pos hfirst]
      exact ⟨share, List.mem_cons_self, pos_of_lt_add_right (hsum.trans_lt hfirst), rfl⟩
    · rw [if_neg hfirst]
      rw [total_cons, ← add_assoc] at hlt
      obtain ⟨found, hfound, hpositive, hpick⟩ := ih _
        (fun other hother => hnonneg other (List.mem_cons_of_mem _ hother)) (le_of_not_gt hfirst) hlt
      exact ⟨found, List.mem_cons_of_mem _ hfound, hpositive, hpick⟩

theorem pick_of_total_le (last : α) (hnonneg : ∀ share ∈ shares, 0 ≤ share.2)
    (hle : sum + total shares ≤ point) :
    pick point sum last shares = (shares.getLast?.map Prod.fst).getD last := by
  have h := pick_append_of_le last [] hnonneg hle
  rwa [List.append_nil] at h

theorem pick_of_lt_total (last : α) (hnonneg : ∀ share ∈ shares, 0 ≤ share.2)
    (hsum : sum ≤ point) (hlt : point < sum + total shares) :
    ∃ share ∈ shares, 0 < share.2 ∧ pick point sum last shares = share.1 := by
  have h := pick_append_of_lt last [] hnonneg hsum hlt
  rwa [List.append_nil] at h

/-- **The interval of an alternative**: from the sum of the weights before it, up to its own, and
without end for the last one. -/
theorem pick_eq_iff (hnonneg : ∀ other ∈ before ++ share :: after, 0 ≤ other.2)
    (hdistinct : ((before ++ share :: after).map Prod.fst).Nodup) (hsum : sum ≤ point) :
    pick point sum last (before ++ share :: after) = share.1 ↔
      sum + total before ≤ point ∧ (point < sum + total before + share.2 ∨ after = []) := by
  have hbefore : ∀ other ∈ before, 0 ≤ other.2 := fun other hother =>
    hnonneg other (List.mem_append_left _ hother)
  rw [List.map_append, List.map_cons] at hdistinct
  obtain ⟨-, hrest, hapart⟩ := List.nodup_append.mp hdistinct
  rcases le_or_gt (sum + total before) point with hle | hlt
  · rw [pick_append_of_le last _ hbefore hle, pick]
    split
    · exact iff_of_true rfl ⟨hle, .inl ‹_›⟩
    · rename_i hpassed
      cases after with
      | nil => exact iff_of_true rfl ⟨hle, .inr rfl⟩
      | cons next rest =>
        refine iff_of_false (fun hpick => ?_) fun h => ?_
        · refine (List.nodup_cons.mp hrest).1 (hpick ▸ pick_mem (List.cons_ne_nil _ _))
        · exact h.2.elim hpassed (List.cons_ne_nil _ _)
  · obtain ⟨found, hfound, -, hpick⟩ :=
      pick_append_of_lt last (share :: after) hbefore hsum hlt
    rw [hpick]
    refine iff_of_false (fun hsame => ?_) fun h => absurd hlt (not_lt_of_ge h.1)
    exact hapart found.1 (List.mem_map_of_mem hfound) share.1 List.mem_cons_self hsame

end WeightedChoice
