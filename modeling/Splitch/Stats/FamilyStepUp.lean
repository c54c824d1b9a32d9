/-
# What a decision family rejects

The correction of a decision family is a loop over ranks: members are ordered by their p-values, thresholds
grow with the rank, and everything up to the LAST rank whose p-value is within its threshold is rejected,
also what is above its own threshold before it.  Stated without the loop, what is rejected is the step-up set
of the p-values: the greatest set of members each of whose p-values is within the threshold for the size of
the set.  Thresholds need only be monotone for this, so the results hold for any rounding that keeps the
order (`rankThreshold_mono`, `lastRank_lastRejectedRank`).

Around the loop, the code groups rows and members under keys, throws where they do not fit, and writes flags
into every row.  Two loops do this in one way, and it is proved once (`collect`).  A correction that answers
had members that are distinct, with one row each (`Correctable`), and conversely these suffice
(`exists_correction`).  What it answers is every row in its place: those of the family are significant
exactly in the step-up set, those of the Control in a slice of the family are plain, and all others are
exploratory (`corrected_results_step_up`).

A set that is greatest among sets of members does not know the order of rows or members, which gives
`corrected_results_perm`; and it grows with its thresholds and with falling p-values, which gives
`corrected_results_monotone`.
-/
import Splitch.Stats.DecisionFamily

namespace Splitch

namespace Stats

namespace FamilyCorrection

open Checks StepUp

variable {arithmetic : Arithmetic} {collation : Collation}

/-! ## 1. Thresholds -/

theorem harmonicSum_succ (n : Nat) : harmonicSum arithmetic (n + 1) =
    arithmetic.round (harmonicSum arithmetic n + arithmetic.round (1 / ((n + 1 : Nat) : Rat))) := by
  rw [harmonicSum, List.range_succ, List.foldl_append]
  rfl

theorem round_harmonicSum (n : Nat) :
    arithmetic.round (harmonicSum arithmetic n) = harmonicSum arithmetic n := by
  cases n with
  | zero => exact arithmetic.round_zero
  | succ n => rw [harmonicSum_succ, arithmetic.round_round]

theorem round_nonneg {x : Rat} (h : 0 ≤ x) : 0 ≤ arithmetic.round x := by
  have hround := arithmetic.round_mono h
  rwa [arithmetic.round_zero] at hround

/-- The harmonic numbers grow. -/
theorem harmonicSum_le_succ (n : Nat) :
    harmonicSum arithmetic n ≤ harmonicSum arithmetic (n + 1) := by
  have hterm : 0 ≤ arithmetic.round (1 / ((n + 1 : Nat) : Rat)) := round_nonneg (by positivity)
  calc harmonicSum arithmetic n = arithmetic.round (harmonicSum arithmetic n) :=
        (round_harmonicSum n).symm
    _ ≤ arithmetic.round (harmonicSum arithmetic n + arithmetic.round (1 / ((n + 1 : Nat) : Rat))) :=
        arithmetic.round_mono (le_add_of_nonneg_right hterm)
    _ = harmonicSum arithmetic (n + 1) := (harmonicSum_succ n).symm

theorem one_le_harmonicSum (n : Nat) : 1 ≤ harmonicSum arithmetic (n + 1) := by
  induction n with
  | zero =>
    have hone : (1 : Rat) / ((0 + 1 : Nat) : Rat) = 1 := by norm_num
    rw [harmonicSum_succ, hone, arithmetic.round_one, harmonicSum, List.range_zero, List.foldl_nil,
      zero_add, arithmetic.round_one]
  | succ n ih => exact ih.trans (harmonicSum_le_succ (n + 1))

variable (arithmetic) in
/-- The level of a family that is not empty. -/
def correctedAlpha (alpha : Rat) (familySize : Nat) : FamilyCorrectionProcedure → Rat
  | .bh => alpha
  | .bh_g => arithmetic.round (alpha / harmonicSum arithmetic familySize)

theorem familyCorrectionAlpha_eq {alpha : Rat} {familySize : Nat} (h : familySize ≠ 0)
    (procedure : FamilyCorrectionProcedure) :
    familyCorrectionAlpha arithmetic alpha familySize procedure =
      .ok (correctedAlpha arithmetic alpha familySize procedure) := by
  cases procedure with
  | bh => rfl
  | bh_g =>
    rw [familyCorrectionAlpha, harmonicNumber, if_neg (by omega)]
    rfl

theorem correctedAlpha_mono {alpha alpha' : Rat} (h : alpha ≤ alpha') (familySize : Nat)
    (procedure : FamilyCorrectionProcedure) :
    correctedAlpha arithmetic alpha familySize procedure ≤
      correctedAlpha arithmetic alpha' familySize procedure := by
  have hharmonic : 0 ≤ harmonicSum arithmetic familySize := by
    cases familySize with
    | zero => exact le_rfl
    | succ n => exact zero_le_one.trans (one_le_harmonicSum n)
  cases procedure with
  | bh => exact h
  | bh_g => exact arithmetic.round_mono (div_le_div_of_nonneg_right h hharmonic)

theorem correctedAlpha_nonneg {alpha : Rat} (h : 0 ≤ alpha) (familySize : Nat)
    (procedure : FamilyCorrectionProcedure) :
    0 ≤ correctedAlpha arithmetic alpha familySize procedure := by
  have hmono : correctedAlpha arithmetic 0 familySize procedure ≤ _ :=
    correctedAlpha_mono h familySize procedure
  cases procedure with
  | bh => exact hmono
  | bh_g =>
    refine le_trans (le_of_eq ?_) hmono
    rw [correctedAlpha, zero_div, arithmetic.round_zero]

/-- **The thresholds grow with the ranks.** -/
theorem rankThreshold_mono {alpha : Rat} (h : 0 ≤ alpha) (familySize : Nat) :
    Monotone (rankThreshold arithmetic familySize alpha) := by
  intro rank rank' hrank
  refine arithmetic.round_mono (mul_le_mul_of_nonneg_right (arithmetic.round_mono ?_) h)
  exact div_le_div_of_nonneg_right (Nat.cast_le.mpr hrank) (Nat.cast_nonneg familySize)

theorem rankThreshold_le {alpha alpha' : Rat} (h : alpha ≤ alpha') (familySize rank : Nat) :
    rankThreshold arithmetic familySize alpha rank ≤ rankThreshold arithmetic familySize alpha' rank := by
  refine arithmetic.round_mono (mul_le_mul_of_nonneg_left h (round_nonneg ?_))
  positivity

/-! ## 2. The loop -/

/-- The loop finds the last rank. -/
theorem lastRank_lastRejectedRank (threshold : Nat → Rat) (pValues : List Rat) :
    ∀ (before : List Rat) (maxRank : Nat), LastRank threshold before maxRank →
      LastRank threshold (before ++ pValues)
        (lastRejectedRank threshold before.length maxRank pValues) := by
  induction pValues with
  | nil =>
    intro before maxRank h
    rwa [List.append_nil]
  | cons pValue pValues ih =>
    intro before maxRank h
    have hnext : LastRank threshold (before ++ [pValue])
        (if pValue ≤ threshold (before.length + 1) then before.length + 1 else maxRank) := by
      split
      · next hle =>
        refine ⟨?_, fun index hindex heq => ?_, fun index hindex hge => ?_⟩
        · rw [List.length_append, List.length_singleton]
        · obtain rfl : index = before.length := by omega
          rwa [List.getElem_concat_length rfl]
        · rw [List.length_append, List.length_singleton] at hindex
          omega
      · next hgt =>
        have hlength := h.le_length
        refine ⟨?_, fun index hindex heq => ?_, fun index hindex hge => ?_⟩
        · rw [List.length_append, List.length_singleton]
          omega
        · have hlt : index < before.length := by omega
          rw [List.getElem_append_left hlt]
          exact h.within index hlt heq
        · rw [List.length_append, List.length_singleton] at hindex
          rcases Nat.lt_or_eq_of_le (Nat.lt_succ_iff.mp hindex) with hlt | rfl
          · rw [List.getElem_append_left hlt]
            exact h.beyond index hlt hge
          · rwa [List.getElem_concat_length rfl]
    have hrest := ih (before ++ [pValue]) _ hnext
    rw [List.append_assoc, List.singleton_append, List.length_append, List.length_singleton] at hrest
    exact hrest

variable (arithmetic) in
theorem largestRejectedRank_ok {sorted : List Rat} (alpha : Rat) (hne : sorted ≠ [])
    (procedure : FamilyCorrectionProcedure) : ∃ rank,
      largestRejectedRank arithmetic sorted alpha procedure = .ok rank ∧
        LastRank (rankThreshold arithmetic sorted.length
          (correctedAlpha arithmetic alpha sorted.length procedure)) sorted rank := by
  have hlength : sorted.length ≠ 0 := fun h => hne (List.length_eq_zero_iff.mp h)
  refine ⟨_, ?_, lastRank_lastRejectedRank _ sorted [] 0 ⟨le_rfl, ?_, ?_⟩⟩
  · simp only [largestRejectedRank, if_neg hlength, familyCorrectionAlpha_eq hlength]
    rfl
  · exact fun index h => absurd h (Nat.not_lt_zero _)
  · exact fun index h => absurd h (Nat.not_lt_zero _)

/-! ## 3. The family and its rows -/

section Rows

variable {α : Type}

/-- The member has both parts of its Dimension, or none. -/
def DecisionFamilyMember.Paired (member : DecisionFamilyMember) : Prop :=
  member.dimensionId.isSome = member.dimensionValue.isSome

theorem validateDimensionPair_ok {member : DecisionFamilyMember} :
    validateDimensionPair member = .ok () ↔ member.Paired := by
  rw [validateDimensionPair, DecisionFamilyMember.Paired]
  split
  · next h => exact ⟨fun h => (by cases h), fun heq => absurd heq h⟩
  · next h => exact ⟨fun _ => not_not.mp h, fun _ => rfl⟩

/-- What both loops do with an item: check it and, if it is picked, add it under a key that is new. -/
def collect {β : Type} (check : β → Except String Unit) (picked : β → Prop) [DecidablePred picked]
    (key message : β → String) (found : List (String × β)) (item : β) :
    Except String (List (String × β)) := do
  check item
  if ¬picked item then return found
  if key item ∈ found.map (·.1) then throw (message item)
  return found ++ [(key item, item)]

section Collect

variable {β : Type} {check : β → Except String Unit} {picked : β → Prop} [DecidablePred picked]
  {key message : β → String} {found out : List (String × β)}

theorem collect_ok {item : β} {next : List (String × β)} :
    collect check picked key message found item = .ok next ↔
      check item = .ok () ∧ if picked item then key item ∉ found.map (·.1) ∧
        next = found ++ [(key item, item)] else next = found := by
  rw [collect, bind_eq_ok]
  by_cases hpicked : picked item
  · rw [if_neg (not_not.mpr hpicked), if_pos hpicked]
    by_cases hmem : key item ∈ found.map (·.1)
    · rw [if_pos hmem]
      constructor
      · rintro ⟨-, -, h⟩
        cases h
      · exact fun h => absurd hmem h.2.1
    · rw [if_neg hmem]
      constructor
      · rintro ⟨_, hcheck, h⟩
        exact ⟨hcheck, hmem, (pure_eq_ok.mp h).symm⟩
      · rintro ⟨hcheck, -, rfl⟩
        exact ⟨(), hcheck, rfl⟩
  · rw [if_pos hpicked, if_neg hpicked]
    constructor
    · rintro ⟨_, hcheck, h⟩
      exact ⟨hcheck, (pure_eq_ok.mp h).symm⟩
    · rintro ⟨hcheck, rfl⟩
      exact ⟨(), hcheck, rfl⟩

theorem foldlM_collect_ok (items : List β) (hfound : (found.map (·.1)).Nodup) :
    items.foldlM (collect check picked key message) found = .ok out ↔
      out = found ++ (items.filter fun item => picked item).map (fun item => (key item, item)) ∧
        (out.map (·.1)).Nodup ∧ ∀ item ∈ items, check item = .ok () := by
  induction items generalizing found with
  | nil =>
    rw [List.foldlM_nil, pure_eq_ok, List.filter_nil, List.map_nil, List.append_nil]
    constructor
    · rintro rfl
      exact ⟨rfl, hfound, fun item h => absurd h List.not_mem_nil⟩
    · rintro ⟨rfl, -, -⟩
      rfl
  | cons item items ih =>
    rw [List.foldlM_cons, bind_eq_ok, List.forall_mem_cons]
    by_cases hpicked : picked item
    · rw [List.filter_cons_of_pos (by simpa using hpicked), List.map_cons, List.append_cons]
      have hnext : key item ∉ found.map (·.1) →
          ((found ++ [(key item, item)]).map (·.1)).Nodup := by
        intro hnew
        rw [List.map_append, List.map_singleton]
        exact hfound.append (List.nodup_singleton _) (List.disjoint_singleton.mpr hnew)
      constructor
      · rintro ⟨next, hstep, hrest⟩
        rw [collect_ok, if_pos hpicked] at hstep
        obtain ⟨hcheck, hnew, rfl⟩ := hstep
        obtain ⟨hout, hnodup, hrest⟩ := (ih (hnext hnew)).mp hrest
        exact ⟨hout, hnodup, hcheck, hrest⟩
      · rintro ⟨rfl, hnodup, hcheck, hrest⟩
        have hnew : key item ∉ found.map (·.1) := by
          rw [List.map_append, List.map_append, List.map_singleton] at hnodup
          exact List.disjoint_singleton.mp
            (List.disjoint_of_nodup_append (List.Nodup.of_append_left hnodup))
        refine ⟨_, collect_ok.mpr ⟨hcheck, ?_⟩, (ih (hnext hnew)).mpr ⟨rfl, hnodup, hrest⟩⟩
        rw [if_pos hpicked]
        exact ⟨hnew, rfl⟩
    · rw [List.filter_cons_of_neg (by simpa using hpicked)]
      constructor
      · rintro ⟨next, hstep, hrest⟩
        rw [collect_ok, if_neg hpicked] at hstep
        obtain ⟨hcheck, rfl⟩ := hstep
        obtain ⟨hout, hnodup, hrest⟩ := (ih hfound).mp hrest
        exact ⟨hout, hnodup, hcheck, hrest⟩
      · rintro ⟨hout, hnodup, hcheck, hrest⟩
        refine ⟨_, collect_ok.mpr ⟨hcheck, ?_⟩, (ih hfound).mpr ⟨hout, hnodup, hrest⟩⟩
        rw [if_neg hpicked]

/-- A loop with it succeeds if all items pass and no two picked ones have one key. -/
theorem foldlM_collect_nil_ok (items : List β) :
    items.foldlM (collect check picked key message) [] = .ok out ↔
      out = (items.filter fun item => picked item).map (fun item => (key item, item)) ∧
        ((items.filter fun item => picked item).map key).Nodup ∧
          ∀ item ∈ items, check item = .ok () := by
  have hnil : (([] : List (String × β)).map (·.1)).Nodup := List.nodup_nil
  rw [foldlM_collect_ok items hnil, List.nil_append]
  refine and_congr_right fun hout => ?_
  rw [hout, List.map_map]
  rfl

end Collect

/-- The members under their keys. -/
def keyed (family : List DecisionFamilyMember) : List (String × DecisionFamilyMember) :=
  family.map fun member => (decisionFamilyKey member, member)

theorem mem_keys_keyed {family : List DecisionFamilyMember} {member : DecisionFamilyMember} :
    decisionFamilyKey member ∈ (keyed family).map (·.1) ↔ member ∈ family := by
  rw [keyed, List.map_map]
  exact List.mem_map_of_injective decisionFamilyKey_injective

theorem decisionFamilyByKey_ok {family : List DecisionFamilyMember}
    {byKey : List (String × DecisionFamilyMember)} :
    decisionFamilyByKey family = .ok byKey ↔
      byKey = keyed family ∧ family.Nodup ∧ ∀ member ∈ family, member.Paired := by
  have hloop : decisionFamilyByKey family = family.foldlM (collect validateDimensionPair
      (fun _ => True) decisionFamilyKey fun member =>
        "decision_family contains duplicate member " ++ decisionFamilyKey member ++ ".") [] := rfl
  have hall : (family.filter fun _ => decide True) = family := List.filter_eq_self.mpr fun _ _ => rfl
  rw [hloop, foldlM_collect_nil_ok, hall, List.nodup_map_iff decisionFamilyKey_injective]
  simp only [validateDimensionPair_ok, keyed]

/-- The rows of the family. -/
def familyRows (results : List (FamilyArmResult α)) (family : List DecisionFamilyMember) :
    List (FamilyArmResult α) :=
  results.filter (·.toDecisionFamilyMember ∈ family)

theorem lockedResultsByKey_ok {results : List (FamilyArmResult α)}
    {family : List DecisionFamilyMember} {resultByKey : List (String × FamilyArmResult α)} :
    lockedResultsByKey results (keyed family) = .ok resultByKey ↔
      resultByKey = (familyRows results family).map (fun result =>
        (decisionFamilyKey result.toDecisionFamilyMember, result)) ∧
      ((familyRows results family).map (·.toDecisionFamilyMember)).Nodup ∧
      ∀ result ∈ results, result.toDecisionFamilyMember.Paired := by
  have hloop : lockedResultsByKey results (keyed family) = results.foldlM (collect
      (fun result => validateDimensionPair result.toDecisionFamilyMember)
      (fun result => decisionFamilyKey result.toDecisionFamilyMember ∈ (keyed family).map (·.1))
      (fun result => decisionFamilyKey result.toDecisionFamilyMember) fun result =>
        "arm_results contains duplicate decision_family member " ++
          decisionFamilyKey result.toDecisionFamilyMember ++ ".") [] := rfl
  have hkeys : ((familyRows results family).map fun result =>
      decisionFamilyKey result.toDecisionFamilyMember) =
        ((familyRows results family).map (·.toDecisionFamilyMember)).map decisionFamilyKey := by
    rw [List.map_map]
    rfl
  have hrows : (results.filter fun result => decide (result.toDecisionFamilyMember ∈ family)) =
      familyRows results family := rfl
  rw [hloop, foldlM_collect_nil_ok]
  simp only [validateDimensionPair_ok, mem_keys_keyed, hrows]
  rw [hkeys, List.nodup_map_iff decisionFamilyKey_injective]

/-- The row of a member. -/
def rowOf (results : List (FamilyArmResult α)) (member : DecisionFamilyMember) :
    Option (FamilyArmResult α) :=
  results.find? (·.toDecisionFamilyMember = member)

def pValueOf (results : List (FamilyArmResult α)) (member : DecisionFamilyMember) : Rat :=
  ((rowOf results member).map (·.pValue)).getD 0

theorem find_lockedResults {results : List (FamilyArmResult α)} {family : List DecisionFamilyMember}
    {member : DecisionFamilyMember} (hmember : member ∈ family) :
    ((familyRows results family).map fun result =>
        (decisionFamilyKey result.toDecisionFamilyMember, result)).find?
      (·.1 = decisionFamilyKey member) =
        (rowOf results member).map fun result =>
          (decisionFamilyKey result.toDecisionFamilyMember, result) := by
  rw [List.find?_map, familyRows, List.find?_filter, rowOf]
  congr 2
  funext result
  by_cases h : result.toDecisionFamilyMember = member
  · simp [h, hmember]
  · simp [h, decisionFamilyKey_injective.ne h]

instance : Std.Total (fun left right : RankedFamilyMember α => left.le collation right) where
  total left right := by
    rcases lt_trichotomy left.result.pValue right.result.pValue with hlt | heq | hgt
    · exact .inl (.inl hlt)
    · rcases collation.le_total left.key right.key with hle | hle
      · exact .inl (.inr ⟨heq, hle⟩)
      · exact .inr (.inr ⟨heq.symm, hle⟩)
    · exact .inr (.inl hgt)

instance : IsTrans (RankedFamilyMember α) (fun left right => left.le collation right) where
  trans a b c := by
    rintro (hab | ⟨hab, hkab⟩) (hbc | ⟨hbc, hkbc⟩)
    · exact .inl (hab.trans hbc)
    · exact .inl (hbc ▸ hab)
    · exact .inl (hab ▸ hbc)
    · exact .inr ⟨hab.trans hbc, collation.le_trans _ _ _ hkab hkbc⟩

/-- **The ranks** are the family in the order of the p-values. -/
structure Ranks (results : List (FamilyArmResult α)) (family : List DecisionFamilyMember)
    (ranked : List (RankedFamilyMember α)) : Prop where
  perm : (ranked.map (·.member)).Perm family
  keys : ∀ entry ∈ ranked, entry.key = decisionFamilyKey entry.member
  pValues : ∀ entry ∈ ranked, entry.result.pValue = pValueOf results entry.member
  sorted : ranked.Pairwise fun left right => left.result.pValue ≤ right.result.pValue

/-- A member finds its row. -/
theorem rankedMember_ok {results : List (FamilyArmResult α)} {family : List DecisionFamilyMember}
    {member : DecisionFamilyMember} (hmember : member ∈ family) {entry : RankedFamilyMember α} :
    rankedMember ((familyRows results family).map fun result =>
        (decisionFamilyKey result.toDecisionFamilyMember, result))
        (decisionFamilyKey member, member) = .ok entry ↔
      ∃ result, rowOf results member = some result ∧
        entry = ⟨decisionFamilyKey member, member, result⟩ := by
  rw [rankedMember, find_lockedResults hmember]
  cases rowOf results member with
  | none => exact ⟨fun h => (by cases h), fun ⟨_, h, _⟩ => (by cases h)⟩
  | some result =>
    exact ⟨fun h => (by cases h; exact ⟨result, rfl, rfl⟩), fun ⟨_, h, h'⟩ => (by cases h; rw [h']; rfl)⟩

theorem rankedMember_member {resultByKey : List (String × FamilyArmResult α)}
    {item : String × DecisionFamilyMember} {entry : RankedFamilyMember α}
    (h : rankedMember resultByKey item = .ok entry) : entry.member = item.2 := by
  rw [rankedMember] at h
  split at h
  · cases h
  · cases h
    rfl

theorem rankDecisionFamilyMembers_ok {results : List (FamilyArmResult α)}
    {family : List DecisionFamilyMember} {ranked : List (RankedFamilyMember α)}
    (h : rankDecisionFamilyMembers collation (keyed family)
      ((familyRows results family).map fun result =>
        (decisionFamilyKey result.toDecisionFamilyMember, result)) = .ok ranked) :
    Ranks results family ranked := by
  obtain ⟨found, hfound, h⟩ := bind_eq_ok.mp h
  obtain rfl := pure_eq_ok.mp h
  have hperm := List.perm_insertionSort (fun left right => left.le collation right) found
  have hentry : ∀ entry ∈ found, entry.key = decisionFamilyKey entry.member ∧
      entry.result.pValue = pValueOf results entry.member := by
    intro entry hmem
    obtain ⟨item, hitem, hok⟩ := (mem_of_mapM_eq_ok hfound entry).mp hmem
    obtain ⟨member, hmember, rfl⟩ := List.mem_map.mp hitem
    obtain ⟨result, hrow, rfl⟩ := (rankedMember_ok hmember).mp hok
    refine ⟨rfl, ?_⟩
    rw [pValueOf, hrow]
    rfl
  have hmembers : found.map (·.member) = family := by
    rw [map_of_mapM_eq_ok hfound fun _ _ => rankedMember_member, keyed, List.map_map]
    exact List.map_id family
  refine ⟨?_, fun entry h => (hentry entry (hperm.mem_iff.mp h)).1,
    fun entry h => (hentry entry (hperm.mem_iff.mp h)).2, ?_⟩
  · calc ((found.insertionSort fun left right => left.le collation right).map (·.member)).Perm
          (found.map (·.member)) := hperm.map _
      _ = family := hmembers
  · refine (List.pairwise_insertionSort _ found).imp ?_
    rintro left right (hlt | ⟨heq, -⟩)
    · exact hlt.le
    · exact heq.le

variable (collation) in
theorem exists_ranks {results : List (FamilyArmResult α)} {family : List DecisionFamilyMember} :
    (∃ ranked, rankDecisionFamilyMembers collation (keyed family)
      ((familyRows results family).map fun result =>
        (decisionFamilyKey result.toDecisionFamilyMember, result)) = .ok ranked) ↔
      ∀ member ∈ family, ∃ result ∈ results, result.toDecisionFamilyMember = member := by
  have hrow : ∀ member, (∃ result, rowOf results member = some result) ↔
      ∃ result ∈ results, result.toDecisionFamilyMember = member := by
    intro member
    rw [← Option.isSome_iff_exists, rowOf, List.find?_isSome]
    simp only [decide_eq_true_eq]
  constructor
  · rintro ⟨ranked, h⟩ member hmember
    obtain ⟨found, hfound, -⟩ := bind_eq_ok.mp h
    obtain ⟨entry, hentry⟩ := exists_mapM_eq_ok.mp ⟨found, hfound⟩ (decisionFamilyKey member, member)
      (List.mem_map_of_mem hmember)
    obtain ⟨result, hresult, -⟩ := (rankedMember_ok hmember).mp hentry
    exact (hrow member).mp ⟨result, hresult⟩
  · intro h
    obtain ⟨found, hfound⟩ := exists_mapM_eq_ok.mpr (fun item hitem => by
      obtain ⟨member, hmember, rfl⟩ := List.mem_map.mp hitem
      obtain ⟨result, hresult⟩ := (hrow member).mpr (h member hmember)
      exact ⟨_, (rankedMember_ok hmember).mpr ⟨result, hresult, rfl⟩⟩)
    exact ⟨_, bind_eq_ok.mpr ⟨found, hfound, rfl⟩⟩

/-! ## 4. The rejected members -/

/-- What a correction asks of the rows and of the family. -/
structure Correctable (results : List (FamilyArmResult α)) (family : List DecisionFamilyMember) :
    Prop where
  nodup : family.Nodup
  paired : ∀ member ∈ family, member.Paired
  pValues : ∀ result ∈ results, 0 ≤ result.pValue ∧ result.pValue ≤ 1
  rows_paired : family ≠ [] → ∀ result ∈ results, result.toDecisionFamilyMember.Paired
  rows_nodup : ((familyRows results family).map (·.toDecisionFamilyMember)).Nodup
  complete : ∀ member ∈ family, ∃ result ∈ results, result.toDecisionFamilyMember = member

variable (arithmetic) in
/-- The step-up set of the p-values. -/
def rejectedMembers (alpha : Rat) (procedure : FamilyCorrectionProcedure)
    (results : List (FamilyArmResult α)) (family : List DecisionFamilyMember) :
    Finset DecisionFamilyMember :=
  stepUp (rankThreshold arithmetic family.length
    (correctedAlpha arithmetic alpha family.length procedure)) (pValueOf results) family.toFinset

/-- A row of the Control in a slice of the family. -/
def IsLockedControl (controlVariant : Option String) (family : List DecisionFamilyMember)
    (row : DecisionFamilyMember) : Prop :=
  controlVariant = some row.variant ∧ ∃ member ∈ family, row.metricId = member.metricId ∧
    row.dimensionId = member.dimensionId ∧ row.dimensionValue = member.dimensionValue

instance (controlVariant : Option String) (family : List DecisionFamilyMember)
    (row : DecisionFamilyMember) : Decidable (IsLockedControl controlVariant family row) :=
  inferInstanceAs (Decidable (_ ∧ _))

/-- A row after a correction. -/
def corrected (alpha : Rat) (controlVariant : Option String) (family : List DecisionFamilyMember)
    (rejected : Finset DecisionFamilyMember) (result : FamilyArmResult α) : FamilyArmResult α :=
  if result.toDecisionFamilyMember ∈ family then
    { result with
      isSignificant := result.toDecisionFamilyMember ∈ rejected, inBhFamily := true,
      exploratory := false, decisionValid := true }
  else if IsLockedControl controlVariant family result.toDecisionFamilyMember then
    markLockedControl result
  else markExploratoryRaw result alpha

theorem isLockedControlResult_iff {controlVariant : Option String} {family : List DecisionFamilyMember}
    {result : FamilyArmResult α} : isLockedControlResult result controlVariant (keyed family) = true ↔
      IsLockedControl controlVariant family result.toDecisionFamilyMember := by
  simp [isLockedControlResult, isSameMetricSlice, IsLockedControl, keyed, and_assoc]

theorem annotateResult_eq {alpha : Rat} {controlVariant : Option String}
    {family : List DecisionFamilyMember} {rejectedKeys : List String}
    {rejected : Finset DecisionFamilyMember}
    (h : ∀ member, decisionFamilyKey member ∈ rejectedKeys ↔ member ∈ rejected) :
    (annotateResult alpha controlVariant (keyed family) rejectedKeys :
      FamilyArmResult α → FamilyArmResult α) = corrected alpha controlVariant family rejected := by
  funext result
  simp only [annotateResult, corrected, mem_keys_keyed, h, isLockedControlResult_iff]
  by_cases hmember : result.toDecisionFamilyMember ∈ family
  · rw [if_neg (not_not.mpr hmember), if_pos hmember]
  · rw [if_pos hmember, if_neg hmember]

theorem Ranks.length_eq {results : List (FamilyArmResult α)} {family : List DecisionFamilyMember}
    {ranked : List (RankedFamilyMember α)} (h : Ranks results family ranked) :
    ranked.length = family.length := by
  rw [← h.perm.length_eq, List.length_map]

theorem Ranks.pValues_eq {results : List (FamilyArmResult α)} {family : List DecisionFamilyMember}
    {ranked : List (RankedFamilyMember α)} (h : Ranks results family ranked) :
    ranked.map (·.result.pValue) = (ranked.map (·.member)).map (pValueOf results) := by
  rw [List.map_map]
  exact List.map_congr_left h.pValues

/-- **The rejected keys** are those of the step-up set. The members are ranked by p-value and cut at
the last rank that lies within its threshold; ties may be ranked in either order, since the cut never
parts them. -/
theorem rejectedDecisionKeys_ok (arithmetic : Arithmetic) {results : List (FamilyArmResult α)}
    {family : List DecisionFamilyMember} {ranked : List (RankedFamilyMember α)}
    (hranks : Ranks results family ranked) (hnodup : family.Nodup) (hne : family ≠ []) {alpha : Rat}
    (halpha : 0 ≤ alpha) (procedure : FamilyCorrectionProcedure) : ∃ keys,
      rejectedDecisionKeys arithmetic ranked alpha procedure = .ok keys ∧ ∀ member,
        decisionFamilyKey member ∈ keys ↔
          member ∈ rejectedMembers arithmetic alpha procedure results family := by
  have hpValues : ranked.map (·.result.pValue) ≠ [] := by
    intro h
    have hlength := hranks.length_eq
    rw [List.map_eq_nil_iff.mp h] at hlength
    exact hne (List.length_eq_zero_iff.mp hlength.symm)
  obtain ⟨rank, hrank, hlast⟩ := largestRejectedRank_ok arithmetic alpha hpValues procedure
  refine ⟨_, bind_eq_ok.mpr ⟨rank, hrank, rfl⟩, fun member => ?_⟩
  rw [List.length_map, hranks.length_eq, hranks.pValues_eq] at hlast
  have hmono : Monotone (rankThreshold arithmetic family.length
      (correctedAlpha arithmetic alpha family.length procedure)) :=
    rankThreshold_mono (correctedAlpha_nonneg halpha family.length procedure) family.length
  have hsorted : (ranked.map (·.member)).Pairwise fun a b => pValueOf results a ≤ pValueOf results b := by
    refine List.pairwise_map.mpr (hranks.sorted.imp_of_mem fun hleft hright hle => ?_)
    rwa [hranks.pValues _ hleft, hranks.pValues _ hright] at hle
  have htake := toFinset_take hmono (hranks.perm.nodup_iff.mpr hnodup) hsorted hlast
  rw [rejectedMembers, ← List.toFinset_eq_of_perm _ _ hranks.perm, ← htake, List.mem_toFinset,
    ← List.map_take, List.mem_map, List.mem_map]
  constructor
  · rintro ⟨entry, hentry, heq⟩
    rw [hranks.keys entry (List.mem_of_mem_take hentry)] at heq
    exact ⟨entry, hentry, decisionFamilyKey_injective heq⟩
  · rintro ⟨entry, hentry, rfl⟩
    exact ⟨entry, hentry, hranks.keys entry (List.mem_of_mem_take hentry)⟩

theorem alphaFromConfidenceLevel_ok {confidenceLevel alpha : Rat} :
    alphaFromConfidenceLevel arithmetic confidenceLevel = .ok alpha ↔
      (0 < confidenceLevel ∧ confidenceLevel < 1) ∧
        alpha = arithmetic.toPrecision15 (arithmetic.round (1 - confidenceLevel)) := by
  rw [alphaFromConfidenceLevel, ite_error_eq_ok, not_or, not_le, ge_iff_le, not_le,
    Except.ok.injEq, eq_comm]

theorem alpha_nonneg {confidenceLevel : Rat} (h : confidenceLevel < 1) :
    0 ≤ arithmetic.toPrecision15 (arithmetic.round (1 - confidenceLevel)) := by
  have hround : 0 ≤ arithmetic.round (1 - confidenceLevel) := round_nonneg (sub_nonneg.mpr h.le)
  have hmono := arithmetic.toPrecision15_mono hround
  rwa [arithmetic.toPrecision15_zero] at hmono

theorem validatePValues_ok {results : List (FamilyArmResult α)} :
    validatePValues results = .ok () ↔ ∀ result ∈ results, 0 ≤ result.pValue ∧ result.pValue ≤ 1 := by
  rw [validatePValues, forM_eq_ok]
  refine forall₂_congr fun result _ => ?_
  rw [ite_error_eq_ok, not_or, not_lt, gt_iff_lt, not_lt, and_iff_left rfl]

/-- What is known of an output. -/
structure CorrectionOf (arithmetic : Arithmetic) (input : DecisionFamilyCorrectionInput α)
    (output : DecisionFamilyCorrectionOutput α) : Prop where
  alpha : output.summary.alpha =
    arithmetic.toPrecision15 (arithmetic.round (1 - input.confidenceLevel))
  familySizeM : output.summary.familySizeM = input.decisionFamily.length
  rejected_nodup : output.summary.rejected.Nodup
  rejected : output.summary.rejected.toFinset = rejectedMembers arithmetic output.summary.alpha
    (resolveFamilyCorrectionProcedure input.familyCorrection) input.armResults input.decisionFamily
  armResults : output.armResults = input.armResults.map
    (corrected output.summary.alpha input.controlVariant input.decisionFamily
      output.summary.rejected.toFinset)

theorem rejectedMembers_nil {alpha : Rat} {procedure : FamilyCorrectionProcedure}
    {results : List (FamilyArmResult α)} : rejectedMembers arithmetic alpha procedure results [] = ∅ :=
  Finset.subset_empty.mp stepUp_subset

theorem familyRows_nil {results : List (FamilyArmResult α)} : familyRows results [] = [] :=
  List.filter_eq_nil_iff.mpr fun _ _ => by simp

theorem corrected_nil {alpha : Rat} {controlVariant : Option String}
    {rejected : Finset DecisionFamilyMember} {result : FamilyArmResult α} :
    corrected alpha controlVariant [] rejected result = markExploratoryRaw result alpha := by
  rw [corrected, if_neg List.not_mem_nil, if_neg]
  rintro ⟨-, member, hmember, -⟩
  cases hmember

/-- The lines of the correction. -/
theorem applyDecisionFamilyCorrection_eq_ok {input : DecisionFamilyCorrectionInput α}
    {output : DecisionFamilyCorrectionOutput α} :
    applyDecisionFamilyCorrection arithmetic collation input = .ok output ↔
      ∃ alpha, alphaFromConfidenceLevel arithmetic input.confidenceLevel = .ok alpha ∧
      ∃ familyByKey, decisionFamilyByKey input.decisionFamily = .ok familyByKey ∧
      validatePValues input.armResults = .ok () ∧
      (if familyByKey.length = 0 then
        (⟨input.armResults.map fun result => markExploratoryRaw result alpha, ⟨alpha, 0, []⟩⟩ :
          DecisionFamilyCorrectionOutput α) = output
      else
        ∃ resultByKey, lockedResultsByKey input.armResults familyByKey = .ok resultByKey ∧
        ∃ ranked, rankDecisionFamilyMembers collation familyByKey resultByKey = .ok ranked ∧
        ∃ keys, rejectedDecisionKeys arithmetic ranked alpha
          (resolveFamilyCorrectionProcedure input.familyCorrection) = .ok keys ∧
        (⟨input.armResults.map (annotateResult alpha input.controlVariant familyByKey keys),
          ⟨alpha, familyByKey.length, (ranked.filter (·.key ∈ keys)).map (·.member)⟩⟩ :
          DecisionFamilyCorrectionOutput α) = output) := by
  rw [applyDecisionFamilyCorrection]
  rw [bind_eq_ok]
  refine exists_congr fun alpha => and_congr_right fun _ => ?_
  rw [bind_eq_ok]
  refine exists_congr fun familyByKey => and_congr_right fun _ => ?_
  rw [bind_eq_ok]
  constructor
  · rintro ⟨_, hvalid, h⟩
    refine ⟨hvalid, ?_⟩
    split_ifs at h ⊢ with hsize
    · exact pure_eq_ok.mp h
    · simpa only [bind_eq_ok, pure_eq_ok] using h
  · rintro ⟨hvalid, h⟩
    refine ⟨(), hvalid, ?_⟩
    split_ifs at h ⊢ with hsize
    · exact pure_eq_ok.mpr h
    · simpa only [bind_eq_ok, pure_eq_ok] using h

theorem keyed_length {family : List DecisionFamilyMember} :
    (keyed family).length = family.length := List.length_map _

/-- **A correction that answered** had rows and a family that fit, and is the correction of them. The
checks are passed in the order of the source; an empty family ends them early, and corrects nothing. -/
theorem of_applyDecisionFamilyCorrection {input : DecisionFamilyCorrectionInput α}
    {output : DecisionFamilyCorrectionOutput α}
    (h : applyDecisionFamilyCorrection arithmetic collation input = .ok output) :
    (0 < input.confidenceLevel ∧ input.confidenceLevel < 1) ∧
      Correctable input.armResults input.decisionFamily ∧ CorrectionOf arithmetic input output := by
  obtain ⟨alpha, halpha, familyByKey, hfamily, hpValues, h⟩ :=
    applyDecisionFamilyCorrection_eq_ok.mp h
  obtain ⟨hlevel, rfl⟩ := alphaFromConfidenceLevel_ok.mp halpha
  obtain ⟨rfl, hnodup, hpaired⟩ := decisionFamilyByKey_ok.mp hfamily
  rw [validatePValues_ok] at hpValues
  rw [keyed_length] at h
  refine ⟨hlevel, ?_⟩
  by_cases hsize : input.decisionFamily = []
  · rw [if_pos (List.length_eq_zero_iff.mpr hsize)] at h
    subst h
    refine ⟨⟨hnodup, hpaired, hpValues, fun hne => absurd hsize hne, ?_, ?_⟩, rfl, ?_, List.nodup_nil,
      ?_, ?_⟩
    · rw [hsize, familyRows_nil]
      exact List.nodup_nil
    · rw [hsize]
      exact fun member hmember => absurd hmember List.not_mem_nil
    · rw [hsize]
      rfl
    · rw [hsize, rejectedMembers_nil]
      rfl
    · rw [hsize]
      exact List.map_congr_left fun result _ => corrected_nil.symm
  · rw [if_neg (mt List.length_eq_zero_iff.mp hsize)] at h
    obtain ⟨resultByKey, hrows, ranked, hranked, keys, hkeys, rfl⟩ := h
    obtain ⟨rfl, hrowsNodup, hrowsPaired⟩ := lockedResultsByKey_ok.mp hrows
    have hranks := rankDecisionFamilyMembers_ok hranked
    obtain ⟨keys', hkeys', hmem⟩ := rejectedDecisionKeys_ok arithmetic hranks hnodup
      hsize (alpha_nonneg hlevel.2) (resolveFamilyCorrectionProcedure input.familyCorrection)
    obtain rfl : keys' = keys := Except.ok.inj (hkeys'.symm.trans hkeys)
    have hrejected : ((ranked.filter (·.key ∈ keys')).map (·.member)).toFinset =
        rejectedMembers arithmetic (arithmetic.toPrecision15 (arithmetic.round
          (1 - input.confidenceLevel))) (resolveFamilyCorrectionProcedure input.familyCorrection)
          input.armResults input.decisionFamily := by
      ext member
      rw [List.mem_toFinset, List.mem_map, ← hmem]
      constructor
      · rintro ⟨entry, hentry, rfl⟩
        obtain ⟨hentry, hkey⟩ := List.mem_filter.mp hentry
        rw [← hranks.keys entry hentry]
        exact of_decide_eq_true hkey
      · intro hkey
        have hfamily : member ∈ input.decisionFamily :=
          List.mem_toFinset.mp (stepUp_subset ((hmem member).mp hkey))
        obtain ⟨entry, hentry, rfl⟩ := List.mem_map.mp (hranks.perm.mem_iff.mpr hfamily)
        refine ⟨entry, List.mem_filter.mpr ⟨hentry, decide_eq_true ?_⟩, rfl⟩
        rwa [hranks.keys entry hentry]
    refine ⟨⟨hnodup, hpaired, hpValues, fun _ => hrowsPaired, hrowsNodup,
      (exists_ranks collation).mp ⟨ranked, hranked⟩⟩, rfl, rfl, ?_, hrejected, ?_⟩
    · exact ((hranks.perm.nodup_iff.mpr hnodup)).sublist (List.filter_sublist.map _)
    · simp only [hrejected]
      rw [annotateResult_eq hmem]

variable (arithmetic collation) in
theorem exists_correction (input : DecisionFamilyCorrectionInput α)
    (hlevel : 0 < input.confidenceLevel ∧ input.confidenceLevel < 1)
    (h : Correctable input.armResults input.decisionFamily) :
    ∃ output, applyDecisionFamilyCorrection arithmetic collation input = .ok output := by
  have halpha : alphaFromConfidenceLevel arithmetic input.confidenceLevel = .ok _ :=
    alphaFromConfidenceLevel_ok.mpr ⟨hlevel, rfl⟩
  have hfamily := decisionFamilyByKey_ok.mpr ⟨rfl, h.nodup, h.paired⟩
  simp only [applyDecisionFamilyCorrection_eq_ok]
  by_cases hsize : input.decisionFamily = []
  · have hlength : (keyed input.decisionFamily).length = 0 := by rw [keyed_length, hsize]; rfl
    exact ⟨_, _, halpha, _, hfamily, validatePValues_ok.mpr h.pValues, (if_pos hlength).mpr rfl⟩
  · have hrows := lockedResultsByKey_ok.mpr ⟨rfl, h.rows_nodup, h.rows_paired hsize⟩
    obtain ⟨ranked, hranked⟩ := (exists_ranks collation).mpr h.complete
    obtain ⟨keys, hkeys, -⟩ := rejectedDecisionKeys_ok arithmetic
      (rankDecisionFamilyMembers_ok hranked) h.nodup hsize (alpha_nonneg hlevel.2)
      (resolveFamilyCorrectionProcedure input.familyCorrection)
    have hlength : (keyed input.decisionFamily).length ≠ 0 := by
      rw [keyed_length]
      exact mt List.length_eq_zero_iff.mp hsize
    exact ⟨_, _, halpha, _, hfamily, validatePValues_ok.mpr h.pValues,
      (if_neg hlength).mpr ⟨_, hrows, ranked, hranked, keys, hkeys, rfl⟩⟩

/-! ## 5. Metrics and Dimensions -/

/-- The slices of the corrected rows go back to the Dimensions they are of. -/
theorem takeDimensions_flatMap (row : FamilyArmResult α → FamilyArmResult α)
    (dimensionResults : List (RawDimensionResult α)) :
    (takeDimensions dimensionResults
      (dimensionResults.flatMap fun rawResult => rawResult.armResults.map row)).1 =
        dimensionResults.map fun rawResult =>
          correctedDimension rawResult ((rawResult.armResults.map row).map stripDimensionFields) := by
  induction dimensionResults with
  | nil => rfl
  | cons rawResult rawResults ih =>
    rw [List.flatMap_cons, List.map_cons, takeDimensions, ← ih,
      List.take_append_of_le_length (by rw [List.length_map]), List.drop_append_of_le_length
      (by rw [List.length_map]), List.take_of_length_le (by rw [List.length_map]),
      List.drop_of_length_le (by rw [List.length_map]), List.nil_append]

/-- The two halves of the corrected rows. -/
theorem splitRows_ok (row : FamilyArmResult α → FamilyArmResult α) (armResults : List (FamilyArmResult α))
    (dimensionResults : List (RawDimensionResult α)) :
    let correctedRows := (armResults ++ dimensionResults.flatMap (·.armResults)).map row
    correctedRows.take armResults.length = armResults.map row ∧
      dimensionResultsWithCorrectedArms dimensionResults (correctedRows.drop armResults.length) =
        .ok (dimensionResults.map fun rawResult =>
          correctedDimension rawResult ((rawResult.armResults.map row).map stripDimensionFields)) := by
  intro correctedRows
  have hsplit : correctedRows = armResults.map row ++
      dimensionResults.flatMap fun rawResult => rawResult.armResults.map row := by
    rw [← List.map_flatMap, ← List.map_append]
  have hlength : armResults.length = (armResults.map row).length := (List.length_map _).symm
  constructor
  · rw [hsplit, hlength, List.take_left]
  · rw [hsplit, hlength, List.drop_left, dimensionResultsWithCorrectedArms, if_neg,
      takeDimensions_flatMap]
    rw [not_not, List.length_flatMap]
    simp only [List.length_map]

/-- **A correction answers** exactly when the rows and the family fit.  What the family rejects is then
the step-up set of its p-values, and every row of the Metrics and of the Dimensions is in its place. -/
theorem corrected_results_step_up (armResults : List (FamilyArmResult α))
    (dimensionResults : List (RawDimensionResult α)) (decisionFamily : List DecisionFamilyMember)
    (confidenceLevel : Rat) (controlVariant : String) (familyCorrection : FamilyCorrectionProcedure)
    (out : List (FamilyArmResult α) × List (CorrectedDimension α)) :
    let rows := armResults ++ dimensionResults.flatMap (·.armResults)
    let alpha := arithmetic.toPrecision15 (arithmetic.round (1 - confidenceLevel))
    let row := corrected alpha (some controlVariant) decisionFamily
      (rejectedMembers arithmetic alpha familyCorrection rows decisionFamily)
    correctResults arithmetic collation armResults dimensionResults decisionFamily confidenceLevel
        controlVariant familyCorrection = .ok out ↔
      (0 < confidenceLevel ∧ confidenceLevel < 1) ∧ Correctable rows decisionFamily ∧
        out = (armResults.map row, dimensionResults.map fun rawResult =>
          correctedDimension rawResult ((rawResult.armResults.map row).map stripDimensionFields)) := by
  intro rows alpha row
  obtain ⟨hfirst, hsecond⟩ := splitRows_ok row armResults dimensionResults
  rw [correctResults, bind_eq_ok]
  constructor
  · rintro ⟨output, houtput, h⟩
    obtain ⟨hlevel, hcorrectable, hof⟩ := of_applyDecisionFamilyCorrection houtput
    have hrows : output.armResults = rows.map row := by
      rw [hof.armResults, hof.rejected, hof.alpha]
      rfl
    obtain ⟨dimensions, hdimensions, h⟩ := bind_eq_ok.mp h
    rw [hrows, hsecond, Except.ok.injEq] at hdimensions
    rw [hrows, hfirst, ← hdimensions, pure_eq_ok] at h
    exact ⟨hlevel, hcorrectable, h.symm⟩
  · rintro ⟨hlevel, hcorrectable, rfl⟩
    obtain ⟨output, houtput⟩ := exists_correction arithmetic collation ⟨rows, decisionFamily, confidenceLevel,
      some controlVariant, some familyCorrection⟩ hlevel hcorrectable
    obtain ⟨-, -, hof⟩ := of_applyDecisionFamilyCorrection houtput
    have hrows : output.armResults = rows.map row := by
      rw [hof.armResults, hof.rejected, hof.alpha]
      rfl
    refine ⟨output, houtput, ?_⟩
    rw [hrows, hfirst]
    exact bind_eq_ok.mpr ⟨_, hsecond, rfl⟩

/-! ## 6. Order and monotony -/

theorem Correctable.pValueOf_eq {results : List (FamilyArmResult α)}
    {family : List DecisionFamilyMember} (h : Correctable results family) {result : FamilyArmResult α}
    (hresult : result ∈ results) (hmember : result.toDecisionFamilyMember ∈ family) :
    pValueOf results result.toDecisionFamilyMember = result.pValue := by
  obtain ⟨found, hfound⟩ : ∃ found, rowOf results result.toDecisionFamilyMember = some found := by
    rw [← Option.isSome_iff_exists, rowOf, List.find?_isSome]
    exact ⟨result, hresult, decide_eq_true rfl⟩
  have hfind := hfound
  rw [rowOf] at hfind
  have heq : found.toDecisionFamilyMember = result.toDecisionFamilyMember := by
    simpa only [decide_eq_true_eq] using List.find?_some hfind
  have hrow : ∀ {result}, result ∈ results → result.toDecisionFamilyMember ∈ family →
      result ∈ familyRows results family :=
    fun hresult hmember => List.mem_filter.mpr ⟨hresult, decide_eq_true hmember⟩
  have hsame : found = result := List.inj_on_of_nodup_map h.rows_nodup
    (hrow (List.mem_of_find?_eq_some hfind) (heq ▸ hmember)) (hrow hresult hmember) heq
  rw [pValueOf, hfound, hsame]
  rfl

theorem Correctable.exists_pValueOf {results : List (FamilyArmResult α)}
    {family : List DecisionFamilyMember} (h : Correctable results family)
    {member : DecisionFamilyMember} (hmember : member ∈ family) : ∃ result ∈ results,
      result.toDecisionFamilyMember = member ∧ pValueOf results member = result.pValue := by
  obtain ⟨result, hresult, rfl⟩ := h.complete member hmember
  exact ⟨result, hresult, rfl, h.pValueOf_eq hresult hmember⟩

theorem corrected_member {alpha : Rat} {controlVariant : Option String}
    {family : List DecisionFamilyMember} {rejected : Finset DecisionFamilyMember}
    {result : FamilyArmResult α} :
    (corrected alpha controlVariant family rejected result).toDecisionFamilyMember =
      result.toDecisionFamilyMember := by
  rw [corrected]
  split_ifs <;> rfl

/-- A row is significant in the family exactly when its member is rejected. -/
theorem corrected_significant {alpha : Rat} {controlVariant : Option String}
    {family : List DecisionFamilyMember} {rejected : Finset DecisionFamilyMember}
    (hrejected : rejected ⊆ family.toFinset) {result : FamilyArmResult α} :
    (corrected alpha controlVariant family rejected result).inBhFamily = true ∧
        (corrected alpha controlVariant family rejected result).isSignificant = true ↔
      result.toDecisionFamilyMember ∈ rejected := by
  rw [corrected]
  split_ifs with hmember hcontrol
  · simp only [decide_eq_true_eq, true_and]
  · exact ⟨fun h => absurd h.1 Bool.false_ne_true,
      fun h => absurd (List.mem_toFinset.mp (hrejected h)) hmember⟩
  · exact ⟨fun h => absurd h.1 Bool.false_ne_true,
      fun h => absurd (List.mem_toFinset.mp (hrejected h)) hmember⟩

theorem CorrectionOf.rejected_subset {input : DecisionFamilyCorrectionInput α}
    {output : DecisionFamilyCorrectionOutput α} (h : CorrectionOf arithmetic input output) :
    output.summary.rejected.toFinset ⊆ input.decisionFamily.toFinset := by
  rw [h.rejected]
  exact stepUp_subset

/-- Rows and members in any order, a confidence that is not higher, and p-values of the family that are
not higher. -/
structure NotWeaker (input input' : DecisionFamilyCorrectionInput α) : Prop where
  family : input.decisionFamily.Perm input'.decisionFamily
  procedure : resolveFamilyCorrectionProcedure input'.familyCorrection =
    resolveFamilyCorrectionProcedure input.familyCorrection
  level : input'.confidenceLevel ≤ input.confidenceLevel
  pValues : ∀ result ∈ input.armResults, result.toDecisionFamilyMember ∈ input.decisionFamily →
    ∀ result' ∈ input'.armResults, result'.toDecisionFamilyMember = result.toDecisionFamilyMember →
      result'.pValue ≤ result.pValue

theorem NotWeaker.rejected_subset {collation' : Collation}
    {input input' : DecisionFamilyCorrectionInput α} (hweaker : NotWeaker input input')
    {output output' : DecisionFamilyCorrectionOutput α}
    (h : applyDecisionFamilyCorrection arithmetic collation input = .ok output)
    (h' : applyDecisionFamilyCorrection arithmetic collation' input' = .ok output') :
    output.summary.rejected.toFinset ⊆ output'.summary.rejected.toFinset := by
  obtain ⟨hrange, hcorrectable, hof⟩ := of_applyDecisionFamilyCorrection h
  obtain ⟨hrange', hcorrectable', hof'⟩ := of_applyDecisionFamilyCorrection h'
  have halpha : output.summary.alpha ≤ output'.summary.alpha := by
    rw [hof.alpha, hof'.alpha]
    exact arithmetic.toPrecision15_mono (arithmetic.round_mono (sub_le_sub_left hweaker.level 1))
  have hnonneg : 0 ≤ output.summary.alpha := hof.alpha ▸ alpha_nonneg hrange.2
  rw [hof.rejected, hof'.rejected, rejectedMembers, rejectedMembers, hweaker.procedure,
    ← hweaker.family.length_eq, ← List.toFinset_eq_of_perm _ _ hweaker.family]
  refine stepUp_mono (rankThreshold_mono (correctedAlpha_nonneg hnonneg _ _) _)
    (fun rank _ => rankThreshold_le (correctedAlpha_mono halpha _ _) _ _) fun member hmember => ?_
  have hmember := List.mem_toFinset.mp hmember
  obtain ⟨result, hresult, rfl, heq⟩ := hcorrectable.exists_pValueOf hmember
  obtain ⟨result', hresult', hsame, heq'⟩ :=
    hcorrectable'.exists_pValueOf (hweaker.family.mem_iff.mp hmember)
  rw [heq, heq']
  exact hweaker.pValues result hresult hmember result' hresult' hsame

/-- No rounding. -/
def exactArithmetic : Arithmetic where
  round := id
  round_mono := monotone_id
  round_round _ := rfl
  round_zero := rfl
  round_one := rfl
  toPrecision15 := id
  toPrecision15_mono := monotone_id
  toPrecision15_zero := rfl

def codePointCollation : Collation where
  le a b := decide (a ≤ b)
  le_total a b := by
    simp only [decide_eq_true_eq]
    exact le_total a b
  le_trans a b c hab hbc := decide_eq_true ((of_decide_eq_true hab).trans (of_decide_eq_true hbc))

def purchases (variant : String) : DecisionFamilyMember :=
  ⟨"purchases", variant, none, none⟩

/-- A Control and two other Variants, of which the second may be of little weight. -/
def purchaseRows (pValue : Rat) : List (FamilyArmResult Unit) :=
  [⟨purchases "control", 1, false, false, true, false, ()⟩,
    ⟨purchases "red", 1 / 100, false, false, true, false, ()⟩,
    ⟨purchases "blue", pValue, false, false, true, false, ()⟩]

def purchaseCorrection (pValue : Rat) : DecisionFamilyCorrectionInput Unit :=
  ⟨purchaseRows pValue, [purchases "red", purchases "blue"], 19 / 20, some "control", none⟩

theorem purchaseRows_correctable {pValue : Rat} (h : 0 ≤ pValue ∧ pValue ≤ 1) :
    Correctable (purchaseRows pValue) [purchases "red", purchases "blue"] := by
  refine ⟨by decide, ?_, ?_, fun _ => ?_, ?_, ?_⟩
  · simp [purchases, DecisionFamilyMember.Paired]
  · simp only [purchaseRows, List.forall_mem_cons, List.not_mem_nil, false_implies, implies_true,
      and_true]
    exact ⟨by norm_num, by norm_num, h⟩
  · simp [purchaseRows, purchases, DecisionFamilyMember.Paired]
  · simp [familyRows, purchaseRows, purchases]
  · simp [purchaseRows, purchases]

/-- **More evidence keeps what is rejected.** The step-up set grows when p-values shrink and less
confidence is asked for, and nothing else of the rows enters into it. -/
theorem corrected_results_monotone {collation' : Collation}
    {input input' : DecisionFamilyCorrectionInput α} (hweaker : NotWeaker input input')
    {output output' : DecisionFamilyCorrectionOutput α}
    (h : applyDecisionFamilyCorrection arithmetic collation input = .ok output)
    (h' : applyDecisionFamilyCorrection arithmetic collation' input' = .ok output') :
    (∀ member ∈ output.summary.rejected, member ∈ output'.summary.rejected) ∧
      ∀ row ∈ output.armResults, row.inBhFamily = true ∧ row.isSignificant = true →
        ∃ row' ∈ output'.armResults, row'.toDecisionFamilyMember = row.toDecisionFamilyMember ∧
          row'.inBhFamily = true ∧ row'.isSignificant = true := by
  obtain ⟨-, -, hof⟩ := of_applyDecisionFamilyCorrection h
  obtain ⟨-, hcorrectable', hof'⟩ := of_applyDecisionFamilyCorrection h'
  have hsubset := hweaker.rejected_subset h h'
  refine ⟨fun member hmember =>
    List.mem_toFinset.mp (hsubset (List.mem_toFinset.mpr hmember)), fun row hrow hsignificant => ?_⟩
  rw [hof.armResults] at hrow
  obtain ⟨result, hresult, rfl⟩ := List.mem_map.mp hrow
  have hrejected := hsubset ((corrected_significant hof.rejected_subset).mp hsignificant)
  obtain ⟨result', hresult', hsame⟩ := hcorrectable'.complete _
    (List.mem_toFinset.mp (hof'.rejected_subset hrejected))
  refine ⟨_, hof'.armResults ▸ List.mem_map_of_mem hresult', ?_,
    (corrected_significant hof'.rejected_subset).mpr (hsame ▸ hrejected)⟩
  rw [corrected_member, corrected_member, hsame]

theorem corrected_results_monotone_purchases : ∃ output output',
    applyDecisionFamilyCorrection exactArithmetic codePointCollation (purchaseCorrection (1 / 5)) =
      .ok output ∧
    applyDecisionFamilyCorrection exactArithmetic codePointCollation (purchaseCorrection (1 / 25)) =
      .ok output' ∧
    (∀ member ∈ output.summary.rejected, member ∈ output'.summary.rejected) ∧
      ∀ row ∈ output.armResults, row.inBhFamily = true ∧ row.isSignificant = true →
        ∃ row' ∈ output'.armResults, row'.toDecisionFamilyMember = row.toDecisionFamilyMember ∧
          row'.inBhFamily = true ∧ row'.isSignificant = true := by
  have hlevel : (0 : Rat) < 19 / 20 ∧ (19 / 20 : Rat) < 1 := by norm_num
  obtain ⟨output, h⟩ := exists_correction exactArithmetic codePointCollation
    (purchaseCorrection (1 / 5)) hlevel
    (purchaseRows_correctable (by norm_num))
  obtain ⟨output', h'⟩ := exists_correction exactArithmetic codePointCollation
    (purchaseCorrection (1 / 25)) hlevel
    (purchaseRows_correctable (by norm_num))
  have hweaker : NotWeaker (purchaseCorrection (1 / 5)) (purchaseCorrection (1 / 25)) := by
    refine ⟨.refl _, rfl, le_rfl, ?_⟩
    simp [purchaseCorrection, purchaseRows, purchases]
    norm_num
  exact ⟨output, output', h, h', corrected_results_monotone hweaker h h'⟩

theorem Correctable.perm {results results' : List (FamilyArmResult α)}
    {family family' : List DecisionFamilyMember} (h : Correctable results family)
    (hresults : results.Perm results') (hfamily : family.Perm family') :
    Correctable results' family' := by
  have hrows : (familyRows results family).Perm (familyRows results' family') := by
    have hmembers : familyRows results' family' = familyRows results' family := by
      refine List.filter_congr fun result _ => ?_
      rw [decide_eq_decide]
      exact hfamily.mem_iff.symm
    rw [hmembers]
    exact hresults.filter _
  refine ⟨hfamily.nodup_iff.mp h.nodup, fun member hmember => h.paired member
    (hfamily.mem_iff.mpr hmember), fun result hresult => h.pValues result
    (hresults.mem_iff.mpr hresult), fun hne result hresult => h.rows_paired ?_ result
    (hresults.mem_iff.mpr hresult), (hrows.map _).nodup_iff.mp h.rows_nodup, fun member hmember => ?_⟩
  · rintro rfl
    exact hne (hfamily.nil_eq).symm
  · obtain ⟨result, hresult, heq⟩ := h.complete member (hfamily.mem_iff.mpr hmember)
    exact ⟨result, hresults.mem_iff.mp hresult, heq⟩

theorem corrected_congr {alpha : Rat} {controlVariant : Option String}
    {family family' : List DecisionFamilyMember} {rejected : Finset DecisionFamilyMember}
    (h : family.Perm family') (result : FamilyArmResult α) :
    corrected alpha controlVariant family rejected result =
      corrected alpha controlVariant family' rejected result := by
  have hlocked : IsLockedControl controlVariant family result.toDecisionFamilyMember ↔
      IsLockedControl controlVariant family' result.toDecisionFamilyMember := by
    simp only [IsLockedControl, h.mem_iff]
  simp only [corrected, hlocked, h.mem_iff]

/-- **The order of the rows and of the members is of no account**: in another order, or where texts are
collated otherwise, each row in its place is corrected to the same row, and the same members are rejected. -/
theorem corrected_results_perm (collation' : Collation) {input : DecisionFamilyCorrectionInput α}
    {output : DecisionFamilyCorrectionOutput α}
    (h : applyDecisionFamilyCorrection arithmetic collation input = .ok output)
    {armResults : List (FamilyArmResult α)} {decisionFamily : List DecisionFamilyMember}
    (hrows : input.armResults.Perm armResults) (hfamily : input.decisionFamily.Perm decisionFamily) :
    ∃ output', applyDecisionFamilyCorrection arithmetic collation'
        { input with armResults, decisionFamily } = .ok output' ∧
      (∃ row, output.armResults = input.armResults.map row ∧
        output'.armResults = armResults.map row) ∧
      output.summary.rejected.Perm output'.summary.rejected := by
  obtain ⟨hrange, hcorrectable, hof⟩ := of_applyDecisionFamilyCorrection h
  have hcorrectable' := hcorrectable.perm hrows hfamily
  obtain ⟨output', h'⟩ := exists_correction arithmetic collation'
    { input with armResults, decisionFamily } hrange hcorrectable'
  obtain ⟨-, -, hof'⟩ := of_applyDecisionFamilyCorrection h'
  have hsame : ∀ result ∈ input.armResults, ∀ result' ∈ armResults,
      result.toDecisionFamilyMember ∈ input.decisionFamily →
      result.toDecisionFamilyMember = result'.toDecisionFamilyMember →
      result.pValue = result'.pValue := by
    intro result hresult result' hresult' hmember heq
    rw [← hcorrectable.pValueOf_eq hresult hmember,
      ← hcorrectable.pValueOf_eq (hrows.mem_iff.mpr hresult') (heq ▸ hmember), heq]
  have hforth : NotWeaker input { input with armResults, decisionFamily } :=
    ⟨hfamily, rfl, le_rfl, fun result hresult hmember result' hresult' heq =>
      (hsame result hresult result' hresult' hmember heq.symm).ge⟩
  have hback : NotWeaker { input with armResults, decisionFamily } input :=
    ⟨hfamily.symm, rfl, le_rfl, fun result hresult hmember result' hresult' heq =>
      (hsame result' hresult' result hresult (heq ▸ hfamily.mem_iff.mpr hmember) heq).le⟩
  have hrejected : output.summary.rejected.toFinset = output'.summary.rejected.toFinset :=
    (hforth.rejected_subset h h').antisymm (hback.rejected_subset h' h)
  refine ⟨output', h', ⟨_, hof.armResults, ?_⟩, List.perm_of_nodup_nodup_toFinset_eq
    hof.rejected_nodup hof'.rejected_nodup hrejected⟩
  rw [hof'.armResults, hrejected, hof.alpha, hof'.alpha]
  exact List.map_congr_left fun result _ => (corrected_congr hfamily result).symm

theorem corrected_results_perm_purchases : ∃ output output',
    applyDecisionFamilyCorrection exactArithmetic codePointCollation (purchaseCorrection (1 / 5)) =
      .ok output ∧
    applyDecisionFamilyCorrection exactArithmetic codePointCollation
      { purchaseCorrection (1 / 5) with
        armResults := (purchaseRows (1 / 5)).reverse
        decisionFamily := [purchases "blue", purchases "red"] } = .ok output' ∧
    (∃ row, output.armResults = (purchaseRows (1 / 5)).map row ∧
      output'.armResults = (purchaseRows (1 / 5)).reverse.map row) ∧
    output.summary.rejected.Perm output'.summary.rejected := by
  obtain ⟨output, h⟩ := exists_correction exactArithmetic codePointCollation
    (purchaseCorrection (1 / 5))
    (by norm_num [purchaseCorrection]) (purchaseRows_correctable (by norm_num))
  obtain ⟨output', h', hrows, hrejected⟩ := corrected_results_perm codePointCollation h
    (List.reverse_perm _).symm (List.Perm.swap (purchases "blue") (purchases "red") [])
  exact ⟨output, output', h, h', hrows, hrejected⟩

end Rows

end FamilyCorrection

end Stats

end Splitch
