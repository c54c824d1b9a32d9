/-
# Cutting a sequence into segments

A sequence is cut into segments, in order, of which each must FIT.  Where every part of a segment that
fits does too, a cut in which no segment could have taken the element after it (`Maximal`) has the
fewest segments there can be: `Maximal.length_le`.
-/
import Mathlib.Data.List.Infix
import Mathlib.Data.List.Chain

namespace Segments

variable {α : Type*} (fits : List α → Prop)

/-- The sequence, cut into segments that fit. -/
structure Cut (l : List α) (parts : List (List α)) : Prop where
  join : parts.flatten = l
  fits : ∀ part ∈ parts, fits part

/-- The segment could not have taken the first element of the next one. -/
def Full (part next : List α) : Prop := ∀ a ∈ next.head?, ¬ fits (part ++ [a])

def Maximal (parts : List (List α)) : Prop := parts.IsChain (Full fits)

variable {fits} {parts parts' : List (List α)} {part : List α}

theorem Maximal.snoc (h : Maximal fits parts) (hlast : ∀ p ∈ parts.getLast?, Full fits p part) :
    Maximal fits (parts ++ [part]) := by
  refine List.isChain_append.mpr ⟨h, List.isChain_singleton _, fun p hp q hq => ?_⟩
  rw [List.head?_singleton, Option.mem_some_iff] at hq
  exact hq ▸ hlast p hp

theorem Maximal.init (h : Maximal fits (parts ++ [part])) : Maximal fits parts :=
  (List.isChain_append.mp h).1

theorem Maximal.last (h : Maximal fits (parts ++ [part])) :
    ∀ p ∈ parts.getLast?, Full fits p part := fun p hp =>
  (List.isChain_append.mp h).2.2 p hp part (List.head?_singleton ▸ rfl)

/-- The segment of another cut that goes beyond the end of this one's would hold too much. -/
theorem not_fits_beyond (hsegment : ∀ p q : List α, q <:+: p → fits p → fits q)
    {p s g q : List α} {a : α} (hp : p = s ++ g ++ a :: q) (hfull : ¬ fits (g ++ [a])) : ¬ fits p := by
  refine fun hfits => hfull (hsegment p (g ++ [a]) ⟨s, q, ?_⟩ hfits)
  rw [hp]
  simp

/-- **The fewest segments.**  By induction on the other cut, which may begin before this one. -/
theorem Maximal.length_le_of_suffix (hsegment : ∀ p q : List α, q <:+: p → fits p → fits q) :
    ∀ {others parts : List (List α)} {s : List α}, Maximal fits parts →
      (∀ part ∈ parts, part ≠ []) → (∀ part ∈ others, fits part) →
      others.flatten = s ++ parts.flatten → parts.length ≤ others.length
  | _, [], _, _, _, _, _ => Nat.zero_le _
  | [], g :: parts, s, _, hne, _, hjoin => by
    have hg := hne g (List.mem_cons_self ..)
    rw [List.flatten_nil, List.flatten_cons, List.nil_eq_append_iff, List.append_eq_nil_iff] at hjoin
    exact absurd hjoin.2.1 hg
  | p :: others, g :: parts, s, hmax, hne, hfits, hjoin => by
    have hne' := fun part hpart => hne part (List.mem_cons_of_mem _ hpart)
    have hfits' := fun part hpart => hfits part (List.mem_cons_of_mem _ hpart)
    rw [List.flatten_cons, List.flatten_cons, ← List.append_assoc] at hjoin
    rcases List.append_eq_append_iff.mp hjoin with ⟨rest, -, hrest⟩ | ⟨beyond, hover, hrest⟩
    · have hlen := Maximal.length_le_of_suffix hsegment hmax.tail hne' hfits' hrest
      exact Nat.succ_le_succ hlen
    · cases beyond with
      | nil =>
        have hlen := Maximal.length_le_of_suffix (s := []) hsegment hmax.tail hne' hfits' hrest.symm
        exact Nat.succ_le_succ hlen
      | cons a beyond =>
        cases parts with
        | nil => simp at hrest
        | cons next parts =>
          obtain ⟨b, next', rfl⟩ := List.exists_cons_of_ne_nil (hne' next (List.mem_cons_self ..))
          rw [List.flatten_cons, List.cons_append, List.cons_append, List.cons.injEq] at hrest
          have hfull : ¬ fits (g ++ [a]) := by
            rw [← hrest.1]
            exact hmax.rel b rfl
          exact absurd (hfits p (List.mem_cons_self ..)) (not_fits_beyond hsegment hover hfull)

/-- A maximal cut has the fewest segments of all cuts. -/
theorem Maximal.length_le (hsegment : ∀ p q : List α, q <:+: p → fits p → fits q)
    (hmax : Maximal fits parts) (hne : ∀ part ∈ parts, part ≠ []) {l : List α}
    (hjoin : parts.flatten = l) (hother : Cut fits l parts') : parts.length ≤ parts'.length :=
  Maximal.length_le_of_suffix (s := []) hsegment hmax hne hother.fits (hother.join.trans hjoin.symm)

end Segments
