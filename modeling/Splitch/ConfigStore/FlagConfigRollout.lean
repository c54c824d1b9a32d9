/-
# The rollouts of a Flag Configuration

The salt of a rollout is how it puts Entities into buckets (`flag-config-rollout.ts`): the same Entity
under the same salt falls into the same bucket, and a new salt deals all of them out again.  So a salt is
minted once, by the server, and every later write of the rollout is to carry it on.

There are two ways to carry one.  A baseline has no name, and the next one takes the salt of the one that
is there (`nextBaselineRollout_salt`).  The Targeting Rules are written as a list that replaces the list
before it, and a rule finds its salt again by its id; the lookup reads the stored rules, in which an id may
not be repeated, and of repeated ids it takes the last.  A caller may restate the salt that is stored or
leave it out, but one that was not stored under that id refuses the whole list, so what is accepted says
two things at once: each salt that was stated is the stored one, and each that is written is stored or a
mint (`normalizeTargetingRuleRollouts_eq_ok`).  Together they carry a salt over any replacement, as long
as the rule of its id keeps a rollout (`persistedSalt_normalized`).

A mint is a value that the caller does not choose; there is one for each rule that is written.
-/
import Splitch.Library.Checks
import Splitch.Evaluator.Evaluate

namespace Splitch

namespace FlagWrites

open Evaluator (Condition PercentageRollout Variant)

/-! ## 1. Targeting Rules -/

/-- A Targeting Rule as its author sees it, with the rollouts that `R` stands for. -/
structure TargetingRuleOf (R : Type) where
  id : String
  flagId : String
  priority : Nat
  conditions : List Condition
  variantId : String
  segmentId : Option String
  percentageRollout : Option R
  deriving DecidableEq, Repr

abbrev TargetingRule := TargetingRuleOf PercentageRollout

structure TargetingRuleRolloutInput where
  percentage : Rat
  salt : Option String
  deriving DecidableEq, Repr

abbrev TargetingRuleInput := TargetingRuleOf TargetingRuleRolloutInput

def TargetingRuleOf.withRollout {R S : Type} (rule : TargetingRuleOf R) (rollout : Option S) :
    TargetingRuleOf S where
  id := rule.id
  flagId := rule.flagId
  priority := rule.priority
  conditions := rule.conditions
  variantId := rule.variantId
  segmentId := rule.segmentId
  percentageRollout := rollout

/-- Why a write is refused. -/
inductive WriteFailure
  | FLAG_NOT_FOUND
  | VARIANT_NOT_AVAILABLE (missingVariants : List String)
  | ROLLOUT_AMBIGUOUS (availableVariantNames : List String)
  | TARGETING_RULE_SALT_REJECTED (callerSaltIndexes : List Nat)
  | TARGETING_RULE_ID_CONFLICT (targetingRules : List TargetingRule)
  | SEGMENT_NOT_FOUND (missingSegmentIds : List String)
  | APPROVAL_REVIEW_REQUIRED
  | APPROVAL_REQUEST_NOT_FOUND
  | APPROVAL_REQUEST_RESOLVED
  | APPROVAL_REQUEST_STALE (targetVersion currentTargetVersion : Option Nat)
  | APPROVAL_NOT_APPLIED
  | APPROVAL_EMPTY_CHANGE
  | CHANGED_FIELDS_UNDETERMINED
  | TARGET_CONFIGURATION_STALE (expectedConfigVersion : Nat) (currentConfigVersion : Option Nat)
  | VALIDATION_ERROR (path : List String) (message : String)
  /-- A live Run freezes the field. -/
  | RUN_FROZEN (fields : List String)
  | ENVIRONMENT_NOT_WRITABLE (reason : String)
  /-- A value that its schema refuses is thrown out. -/
  | thrown (schema : String)
  deriving DecidableEq, Repr

/-- `PercentageRolloutSchema.parse`. -/
def parsePercentageRollout (rollout : PercentageRollout) : Except WriteFailure PercentageRollout :=
  if 0 ≤ rollout.percentage ∧ rollout.percentage ≤ 100 then return rollout
  else throw (.thrown "PercentageRollout")

/-- `TargetingRuleSchema.parse`. -/
def parseTargetingRule (rule : TargetingRule) : Except WriteFailure TargetingRule := do
  if rule.conditions = [] ∧ rule.segmentId = none then throw (.thrown "TargetingRule")
  else
    match rule.percentageRollout with
    | none => return rule
    | some rollout =>
      let _ ← parsePercentageRollout rollout
      return rule

/-! ## 2. Salts -/

/-- A patch that is absent leaves the baseline as it is, and `null` clears it. -/
def nextBaselineRollout (current : Option PercentageRollout) (patch : Option (Option Rat))
    (freshSalt : String) : Except WriteFailure (Option (Option PercentageRollout)) :=
  match patch with
  | none => return none
  | some none => return some none
  | some (some percentage) => do
    let rollout ← parsePercentageRollout ⟨percentage, (current.map (·.salt)).getD freshSalt⟩
    return some (some rollout)

/-- `currentById.get(id)?.percentageRollout?.salt`: of two rules of one id the map holds the last. -/
def persistedSalt (current : List TargetingRule) (id : String) : Option String :=
  (current.reverse.find? (·.id = id)).bind fun rule => rule.percentageRollout.map (·.salt)

/-- The rules whose salt the caller has chosen. -/
def callerSaltIndexes (current : List TargetingRule) (proposed : List TargetingRuleInput) : List Nat :=
  proposed.zipIdx.filterMap fun (rule, index) =>
    match rule.percentageRollout.bind (·.salt) with
    | none => none
    | some suppliedSalt =>
      if some suppliedSalt = persistedSalt current rule.id then none else some index

/-- A rule with the salt that is stored, or a fresh one. -/
def normalized (current : List TargetingRule) (freshSalt : String) (rule : TargetingRuleInput) :
    TargetingRule :=
  rule.withRollout (rule.percentageRollout.map fun rollout =>
    ⟨rollout.percentage, (persistedSalt current rule.id).getD freshSalt⟩)

def normalizeTargetingRuleRollouts (current : List TargetingRule) (proposed : List TargetingRuleInput)
    (freshSalt : Nat → String) : Except WriteFailure (List TargetingRule) :=
  if callerSaltIndexes current proposed ≠ [] then
    throw (.TARGETING_RULE_SALT_REJECTED (callerSaltIndexes current proposed))
  else proposed.zipIdx.mapM fun (rule, index) =>
    parseTargetingRule (normalized current (freshSalt index) rule)

/-! ## 3. Where a baseline goes to -/

/-- An available set that is empty has not been narrowed. -/
def baselineCandidates (availableVariantNames catalogVariantNames : List String)
    (defaultVariantName : Option String) : List String :=
  let scope := if 0 < availableVariantNames.length then availableVariantNames
    else catalogVariantNames
  scope.filter fun name => some name ≠ defaultVariantName

def baselineIsUnresolvable {R : Type} (rollout : Option R) (availableVariantNames : List String)
    (defaultVariantName : Option String) (catalogVariantNames : List String) : Bool :=
  match rollout with
  | none => false
  | some _ =>
    (baselineCandidates availableVariantNames catalogVariantNames defaultVariantName).length ≠ 1

/-! ## 4. What becomes of a salt -/

section

variable {current rules : List TargetingRule} {proposed : List TargetingRuleInput}
  {rollout : PercentageRollout} {id salt : String}

theorem parsePercentageRollout_eq_ok {parsed : PercentageRollout}
    (h : parsePercentageRollout rollout = .ok parsed) : parsed = rollout := by
  unfold parsePercentageRollout at h
  split at h
  · exact (Checks.pure_eq_ok.mp h).symm
  · cases h

theorem parseTargetingRule_eq_ok {rule parsed : TargetingRule}
    (h : parseTargetingRule rule = .ok parsed) : parsed = rule := by
  unfold parseTargetingRule at h
  split at h
  · cases h
  · split at h
    · exact (Checks.pure_eq_ok.mp h).symm
    · obtain ⟨_, -, h⟩ := Checks.bind_eq_ok.mp h
      exact (Checks.pure_eq_ok.mp h).symm

/-- **The next baseline** has the salt of the one before. -/
theorem nextBaselineRollout_salt {patch : Option (Option Rat)} {freshSalt : String}
    {before : PercentageRollout}
    (h : nextBaselineRollout (some before) patch freshSalt = .ok (some (some rollout))) :
    rollout.salt = before.salt := by
  unfold nextBaselineRollout at h
  split at h
  · cases h
  · cases h
  · obtain ⟨parsed, hparsed, h⟩ := Checks.bind_eq_ok.mp h
    cases Checks.pure_eq_ok.mp h
    rw [parsePercentageRollout_eq_ok hparsed]
    rfl

/-- No salt is the caller's choice: each that is supplied is stored under the id of its rule. -/
theorem callerSaltIndexes_eq_nil :
    callerSaltIndexes current proposed = [] ↔ ∀ rule ∈ proposed,
      ∀ salt ∈ rule.percentageRollout.bind (·.salt), persistedSalt current rule.id = some salt := by
  unfold callerSaltIndexes
  rw [List.filterMap_eq_nil_iff]
  constructor
  · intro h rule hrule salt hsalt
    obtain ⟨index, hindex⟩ := List.getElem?_of_mem hrule
    have hnone := h (rule, index) (List.mem_zipIdx_iff_getElem?.mpr hindex)
    rw [Option.mem_def] at hsalt
    dsimp only at hnone
    rw [hsalt] at hnone
    change (if some salt = persistedSalt current rule.id then none else some index) = none at hnone
    by_contra hne
    rw [if_neg fun heq => hne heq.symm] at hnone
    cases hnone
  · rintro h ⟨rule, index⟩ hmem
    have hrule := List.mem_of_getElem? (List.mem_zipIdx_iff_getElem?.mp hmem)
    dsimp only
    cases hsalt : rule.percentageRollout.bind (·.salt) with
    | none => rfl
    | some salt => exact if_pos (h rule hrule salt hsalt).symm

/-- **What is accepted**: no salt that the caller has chosen; and each rule gets its own. -/
theorem normalizeTargetingRuleRollouts_eq_ok {freshSalt : Nat → String}
    (h : normalizeTargetingRuleRollouts current proposed freshSalt = .ok rules) :
    (∀ rule ∈ proposed, ∀ salt ∈ rule.percentageRollout.bind (·.salt),
        persistedSalt current rule.id = some salt) ∧
      rules = proposed.zipIdx.map fun (rule, index) => normalized current (freshSalt index) rule := by
  unfold normalizeTargetingRuleRollouts at h
  split at h
  · cases h
  · next hnil =>
    refine ⟨callerSaltIndexes_eq_nil.mp (not_not.mp hnil), ?_⟩
    have hmap := Checks.map_of_mapM_eq_ok (g := id) h fun _ _ hparsed => parseTargetingRule_eq_ok hparsed
    rwa [List.map_id] at hmap

/-- A stored salt is that of one of the rules of its id. -/
theorem mem_of_persistedSalt (h : persistedSalt rules id = some salt) :
    ∃ rule ∈ rules, rule.id = id ∧ ∃ rollout ∈ rule.percentageRollout, rollout.salt = salt := by
  unfold persistedSalt at h
  obtain ⟨rule, hfind, hsalt⟩ := Option.bind_eq_some_iff.mp h
  obtain ⟨rollout, hrollout, rfl⟩ := Option.map_eq_some_iff.mp hsalt
  have hid := List.find?_some hfind
  exact ⟨rule, List.mem_reverse.mp (List.mem_of_find?_eq_some hfind), of_decide_eq_true hid, rollout,
    hrollout, rfl⟩

/-- Under ids that are not repeated, it is that of any rule of its id. -/
theorem persistedSalt_of_mem (hunique : (rules.map (·.id)).Nodup) {rule : TargetingRule}
    (hrule : rule ∈ rules) : persistedSalt rules rule.id = rule.percentageRollout.map (·.salt) := by
  have hfind : rules.reverse.find? (fun other => decide (other.id = rule.id)) = some rule := by
    cases hfound : rules.reverse.find? (fun other => decide (other.id = rule.id)) with
    | none =>
      have hnone := List.find?_eq_none.mp hfound rule (List.mem_reverse.mpr hrule)
      exact absurd (decide_eq_true rfl) hnone
    | some found =>
      have hid := List.find?_some hfound
      have hmem := List.mem_reverse.mp (List.mem_of_find?_eq_some hfound)
      rw [List.inj_on_of_nodup_map hunique hmem hrule (of_decide_eq_true hid)]
  unfold persistedSalt
  rw [hfind]
  rfl

/-- What is written for a rule. -/
theorem exists_normalized {freshSalt : Nat → String} {rule : TargetingRule}
    (hrule : rule ∈ proposed.zipIdx.map fun (rule, index) => normalized current (freshSalt index) rule) :
    ∃ (index : Nat) (input : TargetingRuleInput), proposed[index]? = some input ∧
      rule = normalized current (freshSalt index) input := by
  obtain ⟨⟨input, index⟩, hmem, rfl⟩ := List.mem_map.mp hrule
  exact ⟨index, input, List.mem_zipIdx_iff_getElem?.mp hmem, rfl⟩

/-- The salt of a rule that is written: the one that is stored, or the mint. -/
theorem normalized_salt {freshSalt : String} {input : TargetingRuleInput}
    (hrollout : rollout ∈ (normalized current freshSalt input).percentageRollout) :
    rollout.salt = (persistedSalt current input.id).getD freshSalt := by
  obtain ⟨given, -, rfl⟩ := Option.map_eq_some_iff.mp hrollout
  rfl

/-- **A salt that was stored under an id stays**, as long as the rule of that id has a rollout. -/
theorem persistedSalt_normalized {freshSalt : Nat → String} {salt' : String}
    (h : normalizeTargetingRuleRollouts current proposed freshSalt = .ok rules)
    (hbefore : persistedSalt current id = some salt) (hafter : persistedSalt rules id = some salt') :
    salt' = salt := by
  obtain ⟨rule, hrule, hid, rollout, hrollout, rfl⟩ := mem_of_persistedSalt hafter
  rw [(normalizeTargetingRuleRollouts_eq_ok h).2] at hrule
  obtain ⟨index, input, -, rfl⟩ := exists_normalized hrule
  have hinput : input.id = id := hid
  rw [normalized_salt hrollout, hinput, hbefore]
  rfl

end

end FlagWrites

end Splitch
