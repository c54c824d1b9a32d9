/-
# Paged listings of a sorted sequence

A listing call returns at most `limit` elements of a sorted sequence, starting strictly after a
given key.  A reader that walks the sequence page by page relies on two facts: a SHORT page is
everything that was left (`mem_page_of_short`), and a full page has no gap, it holds all that
lies between its start and its own last element (`mem_page_of_le_last`).  So the pages up to the first
short one are the sequence, each element once and in order (`walk_eq_rest`), and that many pages come
to an end (`exists_walk`).
-/
import Mathlib

namespace Paging

variable {α κ : Type*} [LinearOrder κ] (key : α → κ)

/-- At most `limit` elements of `l`, from the first one strictly after `after` on. -/
def page (limit : Nat) (after : Option κ) (l : List α) : List α :=
  (l.filter (fun a => after.all (fun k => decide (k < key a)))).take limit

variable {key} {limit : Nat} {after : Option κ} {l : List α} {a z : α}

/-- A page invents nothing, and respects its start. -/
theorem of_mem_page (h : a ∈ page key limit after l) : a ∈ l ∧ ∀ k ∈ after, k < key a := by
  have hf := List.mem_of_mem_take h
  rw [List.mem_filter] at hf
  refine ⟨hf.1, fun k hk => ?_⟩
  have hall := hf.2
  rw [Option.mem_def.mp hk] at hall
  simpa using hall

theorem mem_filter_after (ha : a ∈ l) (hk : ∀ k ∈ after, k < key a) :
    a ∈ l.filter (fun a => after.all (fun k => decide (k < key a))) := by
  rw [List.mem_filter]
  refine ⟨ha, ?_⟩
  cases after with
  | none => rfl
  | some k => simpa using hk k rfl

/-- **A short page is the whole rest.** -/
theorem mem_page_of_short (hlen : (page key limit after l).length < limit) (ha : a ∈ l)
    (hk : ∀ k ∈ after, k < key a) : a ∈ page key limit after l := by
  have hmem := mem_filter_after ha hk
  rw [page, List.length_take] at hlen
  rw [page, List.take_of_length_le (by omega)]
  exact hmem

/-- **A page has no gap**: what lies between its start and its last element is in it. -/
theorem mem_page_of_le_last (hs : l.Pairwise (fun a b => key a < key b))
    (hz : (page key limit after l).getLast? = some z) (ha : a ∈ l)
    (hk : ∀ k ∈ after, k < key a) (hle : key a ≤ key z) : a ∈ page key limit after l := by
  have hmem := mem_filter_after ha hk
  have hsf := hs.filter (fun a => after.all (fun k => decide (k < key a)))
  rw [page] at hz ⊢
  have hzmem := List.mem_of_mem_getLast? hz
  rw [← List.take_append_drop limit (l.filter _), List.mem_append] at hmem
  rcases hmem with htake | hdrop
  · exact htake
  · rw [← List.take_append_drop limit (l.filter _), List.pairwise_append] at hsf
    exact absurd (hsf.2.2 z hzmem a hdrop) (not_lt.mpr hle)

/-- **A page splits what was left** into its own elements and those after its last one. -/
theorem left_iff_of_last (hs : l.Pairwise (fun a b => key a < key b))
    (hz : (page key limit after l).getLast? = some z) :
    (a ∈ l ∧ ∀ k ∈ after, k < key a) ↔ a ∈ page key limit after l ∨ (a ∈ l ∧ key z < key a) := by
  constructor
  · rintro ⟨ha, hk⟩
    rcases le_or_gt (key a) (key z) with hle | hlt
    · exact Or.inl (mem_page_of_le_last hs hz ha hk hle)
    · exact Or.inr ⟨ha, hlt⟩
  · rintro (hmem | ⟨ha, hlt⟩)
    · exact of_mem_page hmem
    · have hlast := of_mem_page (List.mem_of_mem_getLast? hz)
      exact ⟨ha, fun k hk => (hlast.2 k hk).trans hlt⟩

/-! ## Walks -/

variable (key) in
/-- What is left of `l` strictly after `after`. -/
def rest (after : Option κ) (l : List α) : List α :=
  l.filter fun a => after.all fun k => decide (k < key a)

variable (key) in
/-- The pages after `after` up to the first short one, `fuel` of them at most. -/
def walk (limit : Nat) (l : List α) : Nat → Option κ → Option (List α)
  | 0, _ => none
  | fuel + 1, after =>
    let found := page key limit after l
    if found.length < limit then some found
    else (walk limit l fuel (found.getLast?.map key)).map (found ++ ·)

theorem walk_short {fuel : Nat} (h : (page key limit after l).length < limit) :
    walk key limit l (fuel + 1) after = some (page key limit after l) :=
  if_pos h

theorem walk_full {fuel : Nat} (h : ¬ (page key limit after l).length < limit) :
    walk key limit l (fuel + 1) after =
      (walk key limit l fuel ((page key limit after l).getLast?.map key)).map
        (page key limit after l ++ ·) :=
  if_neg h

theorem page_eq_take_rest : page key limit after l = (rest key after l).take limit := rfl

/-- After the last element of a page comes what the page left. -/
theorem rest_last (hs : l.Pairwise (fun a b => key a < key b))
    (hz : (page key limit after l).getLast? = some z) :
    rest key (some (key z)) l = (rest key after l).drop limit := by
  have hzmem := of_mem_page (List.mem_of_mem_getLast? hz)
  have hnested : rest key (some (key z)) l =
      (rest key after l).filter fun a => decide (key z < key a) := by
    rw [rest, rest, List.filter_filter]
    refine List.filter_congr fun a _ => ?_
    rw [Option.all_some, Bool.eq_iff_iff, Bool.and_eq_true, decide_eq_true_iff]
    refine ⟨fun hlt => ⟨hlt, ?_⟩, fun h => h.1⟩
    rw [Option.all_eq_true]
    exact fun k hk => decide_eq_true ((hzmem.2 k hk).trans hlt)
  have hsorted : (rest key after l).Pairwise fun a b => key a < key b := hs.filter _
  rw [page_eq_take_rest] at hz
  rw [hnested]
  generalize rest key after l = left at hz hsorted ⊢
  have hz' := List.mem_of_mem_getLast? hz
  conv_lhs => rw [← List.take_append_drop limit left]
  rw [← List.take_append_drop limit left, List.pairwise_append] at hsorted
  rw [List.filter_append, List.filter_eq_nil_iff.mpr, List.nil_append, List.filter_eq_self]
  · exact fun a ha => decide_eq_true (hsorted.2.2 z hz' a ha)
  · intro a ha hlt
    rw [decide_eq_true_iff] at hlt
    obtain ⟨before, hbefore⟩ := List.getLast?_eq_some_iff.mp hz
    rw [hbefore] at ha
    rw [hbefore, List.pairwise_append] at hsorted
    rcases List.mem_append.mp ha with ha | ha
    · exact absurd (hsorted.1.2.2 a ha z (by simp)) (not_lt.mpr hlt.le)
    · exact absurd hlt (by rw [List.mem_singleton.mp ha]; exact lt_irrefl _)

/-- A full page has a last element. -/
theorem exists_last (hlimit : 0 < limit) (hlen : ¬ (page key limit after l).length < limit) :
    ∃ z, (page key limit after l).getLast? = some z := by
  refine Option.isSome_iff_exists.mp ?_
  rw [List.getLast?_isSome]
  rintro hnil
  rw [hnil] at hlen
  exact hlen hlimit

/-- **A walk that ends is the rest**, in order. A full page ends in a key behind which the rest is
what the page has left over, and a short page is all that is left. -/
theorem walk_eq_rest (hs : l.Pairwise (fun a b => key a < key b)) (hlimit : 0 < limit) :
    ∀ {fuel : Nat} {after : Option κ} {found : List α},
      walk key limit l fuel after = some found → found = rest key after l
  | 0, _, _, h => by cases h
  | fuel + 1, after, found, h => by
    by_cases hlen : (page key limit after l).length < limit
    · rw [walk_short hlen, Option.some_inj] at h
      rw [← h, page_eq_take_rest]
      rw [page_eq_take_rest, List.length_take] at hlen
      exact List.take_of_length_le (by omega)
    · obtain ⟨z, hz⟩ := exists_last hlimit hlen
      rw [walk_full hlen, hz, Option.map_some, Option.map_eq_some_iff] at h
      obtain ⟨later, hlater, rfl⟩ := h
      rw [walk_eq_rest hs hlimit hlater, rest_last hs hz, page_eq_take_rest,
        List.take_append_drop]

/-- **A walk ends** within as many pages as the rest fills: a full page takes as many entries from it
as a page holds. -/
theorem exists_walk (hs : l.Pairwise (fun a b => key a < key b)) (hlimit : 0 < limit) :
    ∀ (fuel : Nat) (after : Option κ), (rest key after l).length < limit * fuel →
      ∃ found, walk key limit l fuel after = some found
  | 0, _, h => by simp at h
  | fuel + 1, after, h => by
    by_cases hlen : (page key limit after l).length < limit
    · exact ⟨_, walk_short hlen⟩
    · obtain ⟨z, hz⟩ := exists_last hlimit hlen
      have hleft : (rest key (some (key z)) l).length < limit * fuel := by
        rw [rest_last hs hz, List.length_drop]
        rw [Nat.mul_succ] at h
        rw [page_eq_take_rest, List.length_take] at hlen
        omega
      obtain ⟨later, hlater⟩ := exists_walk hs hlimit fuel _ hleft
      exact ⟨_, by rw [walk_full hlen, hz, Option.map_some, hlater, Option.map_some]⟩

end Paging
