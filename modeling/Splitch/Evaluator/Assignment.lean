/-
# Fresh assignment

The point of a Targeting Key (`hash.ts`), the share it falls into (`fractionalEval`, `assign` of
`assignment.ts`), and the allocations that a Run accepts (`RunSchema`, `leaf-schemas-experiment.ts`).
Weights are exact rationals.

The arms of an allocation are walked in the order of their names, with a running sum of their weights, and
the first arm whose sum exceeds the point is taken.  Each arm is so chosen on one interval, from the weights
before it to its own (`armInterval`).  The schema allows a total that is off by a tolerance, so the last sum
may lie below the last point.  For that case the walk falls back to the LAST arm.

So whether every point lands on an arm with a positive share comes down to the end of the line
(`hasShare_iff_covers`): the weights reach the greatest point there is, which is one step below the whole, or
the last arm has a weight itself.  Points are multiples of a unit, and the greatest one is used, so the
condition is exact (`assigned_shares_iff`).

Where it fails there is a key for it: an accepted allocation whose last arm has no weight, and a Targeting
Key that lands there (`lands_on_empty_arm`).
-/
import Splitch.Library.Sorting
import Splitch.Library.Utf16
import Splitch.Library.WeightedChoice

namespace Splitch

namespace Evaluator

/-! ## 1. The hash -/

def FNV_OFFSET_BASIS : UInt32 := 0x811c9dc5
def FNV_PRIME : UInt32 := 0x01000193
def MIX_1 : UInt32 := 0x7feb352d
def MIX_2 : UInt32 := 0x846ca68b
def UINT32_SPACE : Nat := 0x100000000

def mix32 (value : UInt32) : UInt32 :=
  let hash := value ^^^ (value >>> 16)
  let hash := hash * MIX_1
  let hash := hash ^^^ (hash >>> 15)
  let hash := hash * MIX_2
  hash ^^^ (hash >>> 16)

def fnv1a (bytes : List UInt8) : UInt32 :=
  bytes.foldl (fun hash byte => (hash ^^^ byte.toUInt32) * FNV_PRIME) FNV_OFFSET_BASIS

/-- A function into the points from zero up to one. -/
structure UnitHash where
  point : String → Rat
  nonneg : ∀ text, 0 ≤ point text
  lt_one : ∀ text, point text < 1

/-- The points that the hash of the source has. -/
def HashPoint (point : Rat) : Prop := ∃ number < UINT32_SPACE, point = number / UINT32_SPACE

theorem HashPoint.nonneg {point : Rat} (h : HashPoint point) : 0 ≤ point := by
  obtain ⟨number, -, rfl⟩ := h
  positivity

theorem HashPoint.lt_one {point : Rat} (h : HashPoint point) : point < 1 := by
  obtain ⟨number, hlt, rfl⟩ := h
  rw [div_lt_one (by norm_num [UINT32_SPACE])]
  exact_mod_cast hlt

def hashPointOf (input : String) : Rat :=
  (mix32 (fnv1a (input.toList.flatMap String.utf8EncodeChar))).toNat / UINT32_SPACE

theorem hashPoint_hashPointOf (input : String) : HashPoint (hashPointOf input) :=
  ⟨_, UInt32.toNat_lt _, rfl⟩

def hashToUnitInterval : UnitHash where
  point := hashPointOf
  nonneg := fun input => (hashPoint_hashPointOf input).nonneg
  lt_one := fun input => (hashPoint_hashPointOf input).lt_one

/-! ## 2. Shares -/

/-- A Variant by its name, and its weight. -/
abbrev Share := String × Rat

/-- The walk along the shares, at a point from zero up to one. -/
def fractionalAt (point : Rat) (rollout : List Share) : String :=
  WeightedChoice.pick (point * 100) 0 "" rollout

def fractionalEval (hash : UnitHash) (salt targetingKey : String) (rollout : List Share) : String :=
  fractionalAt (hash.point (salt ++ ":" ++ targetingKey)) rollout

/-- The own properties of a record, in any order. -/
structure Allocation where
  entries : List Share
  nodup : (entries.map Prod.fst).Nodup

/-- The shares of an allocation, in the order of their names. -/
def Allocation.rollout (allocation : Allocation) : List Share :=
  Sorting.sortBy (fun share => Utf16.units share.1) allocation.entries

def assign (hash : UnitHash) (salt : String) (allocation : Allocation) (targetingKey : String) :
    String :=
  fractionalEval hash salt targetingKey allocation.rollout

def ALLOCATION_SUM : Rat := 100
def ALLOCATION_EPSILON : Rat := 1 / 1000000

/-- The allocations that `RunSchema` accepts. -/
structure Allocation.Accepted (allocation : Allocation) : Prop where
  bounds : ∀ share ∈ allocation.entries, 0 ≤ share.2 ∧ share.2 ≤ 100
  sum : |WeightedChoice.total allocation.entries - ALLOCATION_SUM| ≤ ALLOCATION_EPSILON

/-! ## 3. The shares in order -/

section

variable {allocation : Allocation}

theorem Allocation.rollout_perm : allocation.rollout.Perm allocation.entries := Sorting.sortBy_perm

theorem Allocation.rollout_nodup : (allocation.rollout.map Prod.fst).Nodup :=
  (allocation.rollout_perm.map Prod.fst).nodup_iff.mpr allocation.nodup

/-- The order of the keys of a record does not matter. -/
theorem Allocation.rollout_eq_of_perm {other : Allocation}
    (h : allocation.entries.Perm other.entries) : allocation.rollout = other.rollout := by
  refine Sorting.sortBy_eq_of_perm ?_ h
  rw [show (fun share : Share => Utf16.units share.1) = Utf16.units ∘ Prod.fst from rfl,
    ← List.map_map]
  exact allocation.nodup.map Utf16.units_injective

theorem Allocation.Accepted.nonneg (h : allocation.Accepted) :
    ∀ share ∈ allocation.rollout, 0 ≤ share.2 := fun share hshare =>
  (h.bounds share (allocation.rollout_perm.mem_iff.mp hshare)).1

theorem Allocation.Accepted.total (h : allocation.Accepted) :
    |WeightedChoice.total allocation.rollout - 100| ≤ ALLOCATION_EPSILON := by
  have hperm : WeightedChoice.total allocation.rollout = WeightedChoice.total allocation.entries :=
    (allocation.rollout_perm.map Prod.snd).sum_eq
  rw [hperm]
  exact h.sum

/-- An allocation that is accepted has arms. -/
theorem Allocation.Accepted.ne_nil (h : allocation.Accepted) : allocation.rollout ≠ [] := by
  intro hnil
  have htotal := h.total
  rw [hnil] at htotal
  norm_num [ALLOCATION_EPSILON, WeightedChoice.total] at htotal

/-! ## 4. What the claim of an arm is -/

/-- The Variant is an arm with a positive weight. -/
def HasShare (allocation : Allocation) (variant : String) : Prop :=
  ∃ share ∈ allocation.entries, share.1 = variant ∧ 0 < share.2

/-- The interval of points, in percent, on which an arm is chosen. -/
structure ArmInterval (allocation : Allocation) (arm : Share) (first last : Rat) : Prop where
  chosen : ∀ point, 0 ≤ point → point < 1 →
    (fractionalAt point allocation.rollout = arm.1 ↔ first ≤ point * 100 ∧ point * 100 < last)
  length : |last - first - arm.2| ≤ ALLOCATION_EPSILON

/-- The last arm, in the order of the names. -/
def Allocation.lastArm (allocation : Allocation) : Option Share := allocation.rollout.getLast?

/-- The last point, in percent. -/
def LAST_POINT : Rat := (4294967295 / 4294967296) * 100

/-- The shares reach the last point, or the last arm has a share. -/
def Allocation.Covers (allocation : Allocation) : Prop :=
  LAST_POINT < WeightedChoice.total allocation.rollout ∨
    ∃ arm ∈ allocation.lastArm, 0 < arm.2

/-! ## 5. Positive shares -/

theorem hasShare_of_mem {share : Share} (hmem : share ∈ allocation.rollout)
    (hpositive : 0 < share.2) : HasShare allocation share.1 :=
  ⟨share, allocation.rollout_perm.mem_iff.mp hmem, rfl, hpositive⟩

/-- A point past all the shares lands on the last arm. -/
theorem fractionalAt_of_total_le (h : allocation.Accepted) {point : Rat}
    (hle : WeightedChoice.total allocation.rollout ≤ point * 100) :
    ∃ arm ∈ allocation.lastArm, fractionalAt point allocation.rollout = arm.1 := by
  refine ⟨_, List.getLast?_eq_some_getLast h.ne_nil, ?_⟩
  have hpick := WeightedChoice.pick_of_total_le "" h.nonneg
    (by rwa [zero_add] : 0 + WeightedChoice.total allocation.rollout ≤ point * 100)
  rw [List.getLast?_eq_some_getLast h.ne_nil] at hpick
  exact hpick

theorem hasShare_lastArm_iff {arm : Share} (harm : arm ∈ allocation.lastArm) :
    HasShare allocation arm.1 ↔ 0 < arm.2 := by
  have hmem := allocation.rollout_perm.mem_iff.mp (List.mem_of_getLast? harm)
  constructor
  · rintro ⟨share, hshare, hname, hpositive⟩
    cases List.inj_on_of_nodup_map allocation.nodup hshare hmem hname
    exact hpositive
  · exact fun hpositive => ⟨arm, hmem, rfl, hpositive⟩

theorem hashPoint_mul_le {point : Rat} (h : HashPoint point) : point * 100 ≤ LAST_POINT := by
  obtain ⟨number, hlt, rfl⟩ := h
  have hnumber : (number : Rat) ≤ 4294967295 := by
    have : number ≤ 4294967295 := Nat.le_of_lt_succ hlt
    exact_mod_cast this
  unfold LAST_POINT UINT32_SPACE
  push_cast
  linarith

/-- **Every point has a share** just when the shares are covered. Where they are not, the greatest
point a hash can have lies behind all of them and falls to the last arm, whose weight is zero. -/
theorem hasShare_iff_covers (h : allocation.Accepted) :
    (∀ point, HashPoint point → HasShare allocation (fractionalAt point allocation.rollout)) ↔
      allocation.Covers := by
  constructor
  · intro hshares
    by_contra hcovers
    obtain ⟨hshort, hempty⟩ := not_or.mp hcovers
    have hlast : HashPoint (4294967295 / 4294967296) :=
      ⟨4294967295, by decide, by norm_num [UINT32_SPACE]⟩
    obtain ⟨arm, harm, hpick⟩ := fractionalAt_of_total_le h (not_lt.mp hshort)
    have hshare := hshares _ hlast
    rw [hpick, hasShare_lastArm_iff harm] at hshare
    exact hempty ⟨arm, harm, hshare⟩
  · intro hcovers point hpoint
    rcases lt_or_ge (point * 100) (WeightedChoice.total allocation.rollout) with hlt | hle
    · obtain ⟨share, hshare, hpositive, hpick⟩ := WeightedChoice.pick_of_lt_total "" h.nonneg
        (mul_nonneg hpoint.nonneg (by norm_num : (0 : Rat) ≤ 100)) (by rwa [zero_add])
      unfold fractionalAt
      rw [hpick]
      exact hasShare_of_mem hshare hpositive
    · obtain ⟨arm, harm, hpick⟩ := fractionalAt_of_total_le h hle
      rw [hpick, hasShare_lastArm_iff harm]
      rcases hcovers with hreach | ⟨other, hother, hpositive⟩
      · exact absurd ((hreach.trans_le hle).trans_le (hashPoint_mul_le hpoint)) (lt_irrefl _)
      · cases harm.symm.trans hother
        exact hpositive

/-! ## 6. Intervals -/

/-- **The interval of an arm**: from the weights before it to its own, at most one hundred. The last
arm takes what is left of the hundred, so its interval is as long as its weight only up to the
tolerance of the sum. -/
theorem armInterval (h : allocation.Accepted) {before after : List Share} {arm : Share}
    (hsplit : allocation.rollout = before ++ arm :: after) :
    ArmInterval allocation arm (min (WeightedChoice.total before) 100)
      (if after = [] then 100 else min (WeightedChoice.total before + arm.2) 100) where
  chosen := fun point hnonneg hlt => by
    have hall := h.nonneg
    have hnodup := allocation.rollout_nodup
    rw [hsplit] at hall hnodup
    unfold fractionalAt
    rw [hsplit, WeightedChoice.pick_eq_iff hall hnodup (mul_nonneg hnonneg (by norm_num)), zero_add]
    have hpoint : point * 100 < 100 := by linarith
    split
    · rename_i hlast
      simp only [hlast, or_true, and_true, min_le_iff, hpoint]
      exact ⟨.inl, fun hle => hle.resolve_right (not_le_of_gt hpoint)⟩
    · rename_i hnext
      simp only [hnext, or_false, min_le_iff, lt_min_iff, hpoint, and_true]
      exact ⟨fun ⟨hle, hin⟩ => ⟨.inl hle, hin⟩,
        fun ⟨hle, hin⟩ => ⟨hle.resolve_right (not_le_of_gt hpoint), hin⟩⟩
  length := by
    have htotal := abs_le.mp h.total
    have hall := h.nonneg
    rw [hsplit] at htotal hall
    have hafter : 0 ≤ WeightedChoice.total after := WeightedChoice.total_nonneg fun share hshare =>
      hall share (List.mem_append_right _ (List.mem_cons_of_mem _ hshare))
    have harm : 0 ≤ arm.2 := hall arm (List.mem_append_right _ List.mem_cons_self)
    rw [WeightedChoice.total_append, WeightedChoice.total_cons] at htotal
    rw [abs_le]
    split
    · rename_i hlast
      rw [hlast, WeightedChoice.total_nil, add_zero] at htotal
      rcases le_total (WeightedChoice.total before) 100 with hle | hle
      · rw [min_eq_left hle]
        constructor <;> linarith
      · rw [min_eq_right hle]
        constructor <;> linarith
    · rcases le_total (WeightedChoice.total before) 100 with hle | hle <;>
        rcases le_total (WeightedChoice.total before + arm.2) 100 with hle' | hle'
      · rw [min_eq_left hle, min_eq_left hle']
        have hepsilon : (0 : Rat) ≤ ALLOCATION_EPSILON := by norm_num [ALLOCATION_EPSILON]
        constructor <;> linarith
      · rw [min_eq_left hle, min_eq_right hle']
        have hepsilon : (0 : Rat) ≤ ALLOCATION_EPSILON := by norm_num [ALLOCATION_EPSILON]
        constructor <;> linarith
      · rw [min_eq_right hle, min_eq_left hle']
        have hepsilon : (0 : Rat) ≤ ALLOCATION_EPSILON := by norm_num [ALLOCATION_EPSILON]
        constructor <;> linarith
      · rw [min_eq_right hle, min_eq_right hle']
        constructor <;> linarith

end

/-- **Assignment lands on arms with a share, each on an interval of its length**, just when the
shares cover the points: for every hash with the points of the source, every salt and every key. -/
theorem assigned_shares_iff (allocation : Allocation) (h : allocation.Accepted) :
    ((∀ hash : UnitHash, (∀ text, HashPoint (hash.point text)) → ∀ salt targetingKey,
        HasShare allocation (assign hash salt allocation targetingKey)) ∧
      ∀ arm ∈ allocation.entries, ∃ first last, ArmInterval allocation arm first last) ↔
      allocation.Covers := by
  rw [← hasShare_iff_covers h]
  constructor
  · rintro ⟨hassigned, -⟩ point hpoint
    exact hassigned ⟨fun _ => point, fun _ => hpoint.nonneg, fun _ => hpoint.lt_one⟩
      (fun _ => hpoint) "" ""
  · intro hshares
    refine ⟨fun hash hpoints salt targetingKey => hshares _ (hpoints _), fun arm harm => ?_⟩
    obtain ⟨before, after, hsplit⟩ :=
      List.append_of_mem (allocation.rollout_perm.mem_iff.mpr harm)
    exact ⟨_, _, armInterval h hsplit⟩

def evenSplit : Allocation where
  entries := [("control", 50), ("treatment", 50)]
  nodup := by decide

theorem assigned_shares_even :
    ((∀ hash : UnitHash, (∀ text, HashPoint (hash.point text)) → ∀ salt targetingKey,
        HasShare evenSplit (assign hash salt evenSplit targetingKey)) ∧
      ∀ arm ∈ evenSplit.entries, ∃ first last, ArmInterval evenSplit arm first last) ↔
      evenSplit.Covers :=
  assigned_shares_iff evenSplit
    { bounds := by decide +kernel
      sum := by
        norm_num [evenSplit, WeightedChoice.total, ALLOCATION_SUM, ALLOCATION_EPSILON] }

/-! ## 7. A point past the shares -/

/-- All but half of a millionth of a percent goes to control. -/
def shortSplit : Allocation where
  entries := [("control", 999999995 / 10000000), ("treatment", 0)]
  nodup := by decide

/-- **A key that lands on an arm of weight zero.** -/
theorem lands_on_empty_arm : shortSplit.Accepted ∧
    assign hashToUnitInterval "run-salt" shortSplit "user-399615910" = "treatment" ∧
    ¬ HasShare shortSplit
      (assign hashToUnitInterval "run-salt" shortSplit "user-399615910") := by
  have hassigned : assign hashToUnitInterval "run-salt" shortSplit "user-399615910" =
      "treatment" := by
    decide +kernel
  refine ⟨⟨by decide +kernel, ?_⟩, hassigned, ?_⟩
  · norm_num [shortSplit, WeightedChoice.total, ALLOCATION_SUM, ALLOCATION_EPSILON, abs_le]
  · rw [hassigned]
    rintro ⟨share, hshare, hname, hpositive⟩
    simp only [shortSplit, List.mem_cons, List.not_mem_nil, or_false] at hshare
    rcases hshare with rfl | rfl
    · exact absurd hname (by decide)
    · exact lt_irrefl _ hpositive

end Evaluator

end Splitch
