/-
# The memberships of one user become another's

The two statements that a transfer runs on a table of memberships, over any set of scopes: where the
target has a membership the source's is deleted, elsewhere it is moved (`mem_handOver`).  The keys
stay unique and the memberships of others stay (`keyed_handOver`, `mem_handOver_of_other`); an owner
is left just where `KeepsOwner` says (`owned_handOver_iff`).
-/
import Splitch.DemoClaim.ClaimTables

namespace Splitch

namespace DemoClaim

/-- Both statements, one after the other. -/
def handOver (rows : List MembershipRow) (inScope : String → Bool) (source target : String) :
    List MembershipRow :=
  moveMemberships (deleteOverlap rows inScope source target) inScope source target

def KeyedMemberships (rows : List MembershipRow) : Prop := (rows.map membershipKey).Nodup

def Owned (rows : List MembershipRow) (scopeId : String) : Prop :=
  ∃ row ∈ rows, row.scopeId = scopeId ∧ row.role = .owner

/-- Another user is an owner too, or the target is not a member yet. -/
def KeepsOwner (rows : List MembershipRow) (scopeId source target : String) : Prop :=
  (∃ row ∈ rows, row.scopeId = scopeId ∧ row.role = .owner ∧ row.userId ≠ source) ∨
    ∀ row ∈ rows, row.scopeId = scopeId → row.userId ≠ target

section

variable {rows : List MembershipRow} {inScope : String → Bool} {source target : String}
  {row : MembershipRow} {scopeId : String}

theorem mem_deleteOverlap : row ∈ deleteOverlap rows inScope source target ↔
    row ∈ rows ∧ (row.userId = source → inScope row.scopeId = true →
      ∀ other ∈ rows, other.scopeId = row.scopeId → other.userId ≠ target) := by
  unfold deleteOverlap
  rw [List.mem_filter]
  refine and_congr_right fun _ => ?_
  rw [Bool.not_eq_true', decide_eq_false_iff_not, List.any_eq_true]
  simp only [decide_eq_true_eq, not_and, not_exists]

/-- **What a transfer leaves**: the memberships that are not the source's, and the source's, as the
target's, where the target had none. -/
theorem mem_handOver : row ∈ handOver rows inScope source target ↔
    (row ∈ rows ∧ ¬ (row.userId = source ∧ inScope row.scopeId = true)) ∨
      ∃ old ∈ rows, (old.userId = source ∧ inScope old.scopeId = true) ∧
        (∀ other ∈ rows, other.scopeId = old.scopeId → other.userId ≠ target) ∧
        row = { old with userId := target } := by
  unfold handOver moveMemberships
  rw [List.mem_map]
  constructor
  · rintro ⟨old, hold, rfl⟩
    obtain ⟨hmem, hkept⟩ := mem_deleteOverlap.mp hold
    by_cases hmoved : old.userId = source ∧ inScope old.scopeId = true
    · rw [if_pos hmoved]
      exact .inr ⟨old, hmem, hmoved, hkept hmoved.1 hmoved.2, rfl⟩
    · rw [if_neg hmoved]
      exact .inl ⟨hmem, hmoved⟩
  · rintro (⟨hmem, hstays⟩ | ⟨old, hmem, hmoved, hfree, rfl⟩)
    · refine ⟨row, mem_deleteOverlap.mpr ⟨hmem, fun huser hscope => ?_⟩, if_neg hstays⟩
      exact absurd ⟨huser, hscope⟩ hstays
    · exact ⟨old, mem_deleteOverlap.mpr ⟨hmem, fun _ _ => hfree⟩, if_pos hmoved⟩

/-- The source has nothing left. -/
theorem userId_ne_of_mem_handOver (hmem : row ∈ handOver rows inScope source target)
    (hscope : inScope row.scopeId = true) : row.userId ≠ source := by
  rcases mem_handOver.mp hmem with ⟨-, hstays⟩ | ⟨old, hold, hmoved, hfree, rfl⟩
  · exact fun huser => hstays ⟨huser, hscope⟩
  · rintro rfl
    exact hfree old hold rfl hmoved.1

theorem mem_handOver_of_other (hsource : row.userId ≠ source) (htarget : row.userId ≠ target) :
    row ∈ handOver rows inScope source target ↔ row ∈ rows := by
  rw [mem_handOver]
  constructor
  · rintro (⟨hmem, -⟩ | ⟨old, -, -, -, rfl⟩)
    · exact hmem
    · exact absurd rfl htarget
  · exact fun hmem => .inl ⟨hmem, fun h => hsource h.1⟩

theorem mem_handOver_of_outside (hscope : inScope row.scopeId ≠ true) :
    row ∈ handOver rows inScope source target ↔ row ∈ rows := by
  rw [mem_handOver]
  constructor
  · rintro (⟨hmem, -⟩ | ⟨old, -, hmoved, -, rfl⟩)
    · exact hmem
    · exact absurd hmoved.2 hscope
  · exact fun hmem => .inl ⟨hmem, fun h => hscope h.2⟩

theorem KeyedMemberships.eq (h : KeyedMemberships rows) {a b : MembershipRow} (ha : a ∈ rows)
    (hb : b ∈ rows) (hscope : a.scopeId = b.scopeId) (huser : a.userId = b.userId) : a = b :=
  List.inj_on_of_nodup_map h ha hb (Prod.ext hscope huser)

theorem keyed_handOver (h : KeyedMemberships rows) :
    KeyedMemberships (handOver rows inScope source target) := by
  have hkept : (deleteOverlap rows inScope source target).Nodup :=
    (List.Nodup.of_map _ h).sublist List.filter_sublist
  unfold KeyedMemberships handOver moveMemberships
  rw [List.map_map]
  refine hkept.map_on fun a ha b hb hkey => ?_
  obtain ⟨hamem, hafree⟩ := mem_deleteOverlap.mp ha
  obtain ⟨hbmem, hbfree⟩ := mem_deleteOverlap.mp hb
  simp only [Function.comp_apply, membershipKey] at hkey
  by_cases hamoved : a.userId = source ∧ inScope a.scopeId = true <;>
    by_cases hbmoved : b.userId = source ∧ inScope b.scopeId = true
  · rw [if_pos hamoved, if_pos hbmoved] at hkey
    exact h.eq hamem hbmem (Prod.ext_iff.mp hkey).1 (hamoved.1.trans hbmoved.1.symm)
  · rw [if_pos hamoved, if_neg hbmoved] at hkey
    obtain ⟨hscope, huser⟩ := Prod.ext_iff.mp hkey
    exact absurd huser.symm (hafree hamoved.1 hamoved.2 b hbmem hscope.symm)
  · rw [if_neg hamoved, if_pos hbmoved] at hkey
    obtain ⟨hscope, huser⟩ := Prod.ext_iff.mp hkey
    exact absurd huser (hbfree hbmoved.1 hbmoved.2 a hamem hscope)
  · rw [if_neg hamoved, if_neg hbmoved] at hkey
    exact h.eq hamem hbmem (Prod.ext_iff.mp hkey).1 (Prod.ext_iff.mp hkey).2

/-- **An owner is left** just where the source was not the only one, or could be followed. A row of
the source is deleted where the target has a row of the same scope, and is handed over where it has
none; so the owner is lost exactly when she was alone and the target was a member already. -/
theorem owned_handOver_iff (howned : Owned rows scopeId) (hscope : inScope scopeId = true) :
    Owned (handOver rows inScope source target) scopeId ↔
      KeepsOwner rows scopeId source target := by
  constructor
  · rintro ⟨row, hmem, hrow, hrole⟩
    rcases mem_handOver.mp hmem with ⟨hbefore, hstays⟩ | ⟨old, hold, hmoved, hfree, rfl⟩
    · exact .inl ⟨row, hbefore, hrow, hrole, fun huser => hstays ⟨huser, hrow ▸ hscope⟩⟩
    · exact .inr fun other hother hsame => hfree other hother (hsame.trans hrow.symm)
  · rintro (⟨row, hmem, hrow, hrole, hother⟩ | hfree)
    · exact ⟨row, mem_handOver.mpr (.inl ⟨hmem, fun h => hother h.1⟩), hrow, hrole⟩
    · obtain ⟨row, hmem, hrow, hrole⟩ := howned
      by_cases huser : row.userId = source
      · refine ⟨{ row with userId := target }, mem_handOver.mpr (.inr ⟨row, hmem, ?_, ?_, rfl⟩),
          hrow, hrole⟩
        · exact ⟨huser, hrow ▸ hscope⟩
        · exact fun other hother hsame => hfree other hother (hsame.trans hrow)
      · exact ⟨row, mem_handOver.mpr (.inl ⟨hmem, fun h => huser h.1⟩), hrow, hrole⟩

/-- Outside the scopes an owner stays. -/
theorem Owned.handOver (h : Owned rows scopeId) (hscope : inScope scopeId ≠ true) :
    Owned (handOver rows inScope source target) scopeId := by
  obtain ⟨row, hmem, rfl, hrole⟩ := h
  exact ⟨row, (mem_handOver_of_outside hscope).mpr hmem, rfl, hrole⟩

end

end DemoClaim

end Splitch
