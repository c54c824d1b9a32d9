/-
# Least recently used first

A map as JavaScript keeps it, with its entries in the order of insertion.  To use an entry is to delete it
and to set it again, which puts it last; to make room is to delete from the front.  That this evicts what
was used longest ago is no property of one operation: it is one of the order of the list, compared with the
uses there have been.

`Recent` says it: of two entries the one further back was used after the last use of the other.  A use keeps
it (`touch`), and so does whatever only drops entries, in front or elsewhere (`sublist`).  Then what is shed
from the front was used last before everything that stays (`Recent.shed`).
-/
import Mathlib

namespace LruMap

variable {κ ν : Type*}

/-! ## 1. The map -/

/-- `while (map.size > max)` the oldest entry is deleted. -/
def evict (max : Int) : List (κ × ν) → List (κ × ν)
  | [] => []
  | entry :: map => if ((entry :: map).length : Int) > max then evict max map else entry :: map

theorem evict_suffix (max : Int) (map : List (κ × ν)) : evict max map <:+ map := by
  induction map with
  | nil => exact List.suffix_refl _
  | cons entry map ih =>
    rw [evict]
    split
    · exact ih.trans (List.suffix_cons _ _)
    · exact List.suffix_refl _

theorem length_evict_le {max : Int} (h : 0 ≤ max) (map : List (κ × ν)) :
    ((evict max map).length : Int) ≤ max := by
  induction map with
  | nil => exact h
  | cons entry map ih =>
    rw [evict]
    split
    · exact ih
    · next hle => exact not_lt.mp hle

section Map

variable [DecidableEq κ]

def get (map : List (κ × ν)) (key : κ) : Option ν := (map.find? (·.1 = key)).map (·.2)

def delete (map : List (κ × ν)) (key : κ) : List (κ × ν) := map.filter (·.1 ≠ key)

/-- An entry that is there keeps its place. -/
def set (map : List (κ × ν)) (key : κ) (value : ν) : List (κ × ν) :=
  if key ∈ map.map (·.1) then map.map fun entry => if entry.1 = key then (key, value) else entry
  else map ++ [(key, value)]

/-- `map.delete(map.keys().next().value)`, where there is one. -/
def deleteOldest (map : List (κ × ν)) : List (κ × ν) :=
  match map.head? with
  | none => map
  | some oldest => delete map oldest.1

variable {map : List (κ × ν)} {key other : κ} {value : ν}

theorem notMem_delete : key ∉ (delete map key).map (·.1) := by
  intro h
  obtain ⟨entry, hentry, rfl⟩ := List.mem_map.mp h
  exact of_decide_eq_true (List.mem_filter.mp hentry).2 rfl

/-- To delete an entry and to set it puts it last. -/
theorem set_delete : set (delete map key) key value = delete map key ++ [(key, value)] :=
  if_neg notMem_delete

theorem delete_sublist : (delete map key).Sublist map := List.filter_sublist

theorem mem_delete {entry : κ × ν} : entry ∈ delete map key ↔ entry ∈ map ∧ entry.1 ≠ key := by
  rw [delete, List.mem_filter, decide_eq_true_iff]

theorem mem_set_delete {entry : κ × ν} : entry ∈ set (delete map key) key value ↔
    entry ∈ map ∧ entry.1 ≠ key ∨ entry = (key, value) := by
  rw [set_delete, List.mem_append, mem_delete, List.mem_singleton]

/-- To delete the oldest entry leaves the others. -/
theorem deleteOldest_eq (h : (map.map (·.1)).Nodup) : deleteOldest map = map.tail := by
  cases map with
  | nil => rfl
  | cons entry map =>
    rw [List.map_cons, List.nodup_cons] at h
    rw [deleteOldest, List.head?_cons, List.tail_cons]
    change delete (entry :: map) entry.1 = map
    rw [delete, List.filter_cons_of_neg (by simp), List.filter_eq_self]
    exact fun other hother => decide_eq_true fun heq => h.1 (heq ▸ List.mem_map_of_mem hother)

theorem deleteOldest_sublist : (deleteOldest map).Sublist map := by
  rw [deleteOldest]
  split
  · exact List.Sublist.refl _
  · exact delete_sublist

theorem mem_of_get (h : get map key = some value) : (key, value) ∈ map := by
  obtain ⟨entry, hfind, rfl⟩ := Option.map_eq_some_iff.mp h
  obtain ⟨hkey, -⟩ := List.find?_eq_some_iff_append.mp hfind
  rw [← of_decide_eq_true hkey]
  exact List.mem_of_find?_eq_some hfind

/-- An entry that is set anew takes no more room. -/
theorem length_set_delete_le (h : get map key = some value) (value' : ν) :
    (set (delete map key) key value').length ≤ map.length := by
  rw [set_delete, List.length_append, List.length_singleton]
  refine Nat.succ_le_of_lt (List.length_filter_lt_length_iff_exists.mpr ⟨_, mem_of_get h, ?_⟩)
  simp

theorem length_set_delete_le_succ (value' : ν) :
    (set (delete map key) key value').length ≤ map.length + 1 := by
  rw [set_delete, List.length_append, List.length_singleton]
  exact Nat.succ_le_succ (List.length_filter_le _ _)

end Map

/-! ## 2. The order of use -/

variable {uses : List κ} {map map' : List (κ × ν)} {key other : κ} {value : ν}

/-- `other` was used after the last use of `key`. -/
def UsedSince (uses : List κ) (key other : κ) : Prop :=
  ∃ before after, uses = before ++ after ∧ key ∈ before ∧ key ∉ after ∧ other ∈ after

theorem UsedSince.append (h : UsedSince uses key other) {next : κ} (hne : key ≠ next) :
    UsedSince (uses ++ [next]) key other := by
  obtain ⟨before, after, rfl, hbefore, hafter, hother⟩ := h
  refine ⟨before, after ++ [next], List.append_assoc .., hbefore, ?_, List.mem_append_left _ hother⟩
  rw [List.mem_append, List.mem_singleton]
  rintro (h | h)
  · exact hafter h
  · exact hne h

theorem usedSince_last (h : key ∈ uses) {next : κ} (hne : key ≠ next) :
    UsedSince (uses ++ [next]) key next :=
  ⟨uses, [next], rfl, h, fun hmem => hne (List.mem_singleton.mp hmem), List.mem_singleton_self _⟩

theorem UsedSince.ne (h : UsedSince uses key other) : key ≠ other := by
  rintro rfl
  obtain ⟨before, after, rfl, -, hafter, hother⟩ := h
  exact hafter hother

/-- The entries are in the order of their last use. -/
structure Recent (uses : List κ) (map : List (κ × ν)) : Prop where
  order : (map.map (·.1)).Pairwise (UsedSince uses)
  used : ∀ key ∈ map.map (·.1), key ∈ uses

namespace Recent

theorem nil (uses : List κ) : Recent uses ([] : List (κ × ν)) :=
  ⟨List.Pairwise.nil, fun _ h => absurd h List.not_mem_nil⟩

theorem nodup (h : Recent uses map) : (map.map (·.1)).Nodup := h.order.imp UsedSince.ne

theorem sublist (h : Recent uses map) (hsub : map'.Sublist map) : Recent uses map' :=
  ⟨h.order.sublist (hsub.map _), fun key hkey => h.used key ((hsub.map _).subset hkey)⟩

/-- **A use** puts an entry last: the others keep their order, and each of them was used before this
key was. -/
theorem touch [DecidableEq κ] (h : Recent uses map) (key : κ) (value : ν) :
    Recent (uses ++ [key]) (set (delete map key) key value) := by
  have hkept : Recent uses (delete map key) := h.sublist delete_sublist
  have hne : ∀ other ∈ (delete map key).map (·.1), other ≠ key := by
    rintro other hother rfl
    exact notMem_delete hother
  rw [set_delete]
  constructor
  · rw [List.map_append, List.pairwise_append]
    refine ⟨?_, List.pairwise_singleton _ _, ?_⟩
    · exact hkept.order.imp_of_mem fun ha _ hab => hab.append (hne _ ha)
    · intro other hother last hlast
      rw [List.mem_singleton.mp hlast]
      exact usedSince_last (hkept.used other hother) (hne other hother)
  · intro other hother
    rw [List.map_append, List.mem_append] at hother
    rcases hother with hother | hother
    · exact List.mem_append_left _ (hkept.used other hother)
    · exact List.mem_append_right _ hother

/-- **What is shed** was used last before everything that is kept. -/
theorem shed (h : Recent uses map) (hsuffix : map' <:+ map)
    (hshed : key ∈ map.map (·.1)) (hnot : key ∉ map'.map (·.1)) (hother : other ∈ map'.map (·.1)) :
    UsedSince uses key other := by
  obtain ⟨front, rfl⟩ := hsuffix
  have horder := h.order
  rw [List.map_append, List.pairwise_append] at horder
  rw [List.map_append, List.mem_append] at hshed
  exact horder.2.2 key (hshed.resolve_right hnot) other hother

end Recent

end LruMap
