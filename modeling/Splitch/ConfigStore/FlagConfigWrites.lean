/-
# Writes of a Flag Configuration

One Flag has a Configuration in each Environment, and four functions write it: the update
(`config-store.ts`), the replacement of the Targeting Rules (`config-store-targeting-rules.ts`), the
Promotion from one Environment to another (`config-store-mutations.ts`) and the Sync of a Temporary
Environment (`config-store-sync.ts`).  A fifth only proposes: the Promotion of a concluded Run's winner
(`experiment-conclusion-proposal.ts`), which is never written without a Review.

Each of them reads the row that is there and makes the next one of it, and they differ in where the salts
of the next row come from.  The update takes the salt of the baseline that is there; the replacement takes
the salt of each rule by its id; the Promotion takes percentages of the source and salts of the target for
the baseline, and the rules of the source whole; the Sync takes everything of the source, its salts too.

The update, the replacement and the Promotions also run as PREVIEWS: the same reading and the same making,
and nothing is written.  What is made of a preview, and when, is the next module's.

The Environment's queue runs one write at a time, so a write lands as a whole or not at all.  What it reads
beside the Configurations, what may refuse it, and what it mints are `Surroundings`, and may be different
at every write.  The publication of what has landed is left out.
-/
import Splitch.ConfigStore.FlagConfigRollout

namespace Splitch

namespace FlagWrites

open Evaluator (PercentageRollout Variant)

/-! ## 1. Configurations -/

structure FlagConfigResult where
  version : Nat
  enabled : Bool
  availableVariantNames : List String
  targetingRules : List TargetingRule
  rollout : Option PercentageRollout
  deriving DecidableEq, Repr

/-- A Flag Configuration in D1, where the id of a rule is unique (`targeting_rules_scope_id_unique`). -/
structure FlagConfigRow extends FlagConfigResult where
  unique : (targetingRules.map (·.id)).Nodup

/-- By Environment. -/
abbrev FlagConfigs := String → Option FlagConfigRow

/-- What a write reads beside the Configurations, and what it mints. -/
structure Surroundings where
  variants : List Variant
  defaultVariantId : String
  segmentIds : List String
  /-- A live Run may freeze what the write is about. -/
  frozen : Option WriteFailure
  /-- `requireWritableEnvironment` may refuse. -/
  unwritable : Option WriteFailure
  /-- And so may what is checked of neither: the kind of an Environment, a Policy, the guards under which
  a Review commits. -/
  refused : Option WriteFailure
  freshSalt : String
  /-- A mint for each rule of the list that is written. -/
  freshRuleSalt : Nat → String

def Surroundings.defaultVariantName (surroundings : Surroundings) : Option String :=
  (surroundings.variants.find? (·.id = surroundings.defaultVariantId)).map (·.name)

def refuse : Option WriteFailure → Except WriteFailure Unit
  | none => return
  | some failure => throw failure

/-! ## 2. What is missing -/

def missingSegmentIds (segmentIds : List String) (rules : List TargetingRule) : List String :=
  (rules.filterMap (·.segmentId)).eraseDups.filter (· ∉ segmentIds)

def missingAvailableVariants (names : Option (List String)) (variants : List Variant) : List String :=
  match names with
  | none => []
  | some names => names.filter (· ∉ variants.map (·.name))

def missingRuleVariantNames (rules : List TargetingRule) (variants : List Variant)
    (availableVariantNames : List String) : List String :=
  if availableVariantNames.length = 0 then []
  else (rules.filterMap fun rule =>
    match (variants.reverse.find? (·.id = rule.variantId)).map (·.name) with
    | none | some "" => some rule.variantId
    | some name => if name ∈ availableVariantNames then none else some name).eraseDups

section

variable (surroundings : Surroundings) (configs : FlagConfigs)

def resolveSegments (rules : List TargetingRule) : Except WriteFailure Unit :=
  match missingSegmentIds surroundings.segmentIds rules with
  | [] => return
  | missing => throw (.SEGMENT_NOT_FOUND missing)

def buildSnapshotFromD1 (environmentId : String) : Except WriteFailure (Option FlagConfigRow) :=
  match configs environmentId with
  | none => return none
  | some row => do
    resolveSegments surroundings row.targetingRules
    return some row

def requireConfig : Option FlagConfigRow → Except WriteFailure FlagConfigRow
  | none => throw .FLAG_NOT_FOUND
  | some row => return row

def requireVariants (missingVariants : List String) : Except WriteFailure Unit :=
  if missingVariants ≠ [] then throw (.VARIANT_NOT_AVAILABLE missingVariants)
  else return

def requireResolvable {R : Type} (rollout : Option R) (availableVariantNames : List String) :
    Except WriteFailure Unit :=
  if baselineIsUnresolvable rollout availableVariantNames surroundings.defaultVariantName
    (surroundings.variants.map (·.name)) then throw (.ROLLOUT_AMBIGUOUS availableVariantNames)
  else return

/-- `replaceTargetingRules` of the repository: the Variants of the rules exist, and no id is twice. -/
def replaceRows (result : FlagConfigResult) : Except WriteFailure FlagConfigRow := do
  requireVariants ((result.targetingRules.map (·.variantId)).filter
    (· ∉ surroundings.variants.map (·.id)))
  if h : (result.targetingRules.map (·.id)).Nodup then return ⟨result, h⟩
  else throw (.TARGETING_RULE_ID_CONFLICT result.targetingRules)

/-! ## 3. The update -/

/-- A field that is absent stays as it is, and a `rollout` that is `null` is cleared. -/
structure PatchFlagConfigInput where
  environmentId : String
  enabled : Option Bool
  availableVariantNames : Option (List String)
  rollout : Option (Option Rat)
  deriving DecidableEq, Repr

/-- Whether there is a baseline once the patch has landed. -/
def PatchFlagConfigInput.landedRollout (input : PatchFlagConfigInput) (current : FlagConfigRow) :
    Option Rat :=
  input.rollout.getD (current.rollout.map (·.percentage))

def validateFlagConfigPatch (current : FlagConfigRow) (input : PatchFlagConfigInput) :
    Except WriteFailure Unit := do
  requireVariants (missingAvailableVariants input.availableVariantNames surroundings.variants)
  let available := input.availableVariantNames.getD current.availableVariantNames
  requireVariants (missingRuleVariantNames current.targetingRules surroundings.variants available)
  requireResolvable surroundings (input.landedRollout current) available

def patched (current : FlagConfigRow) (input : PatchFlagConfigInput)
    (rollout : Option (Option PercentageRollout)) : FlagConfigResult where
  version := current.version + 1
  enabled := input.enabled.getD current.enabled
  availableVariantNames := input.availableVariantNames.getD current.availableVariantNames
  targetingRules := current.targetingRules
  rollout := rollout.getD current.rollout

def previewFlagConfig (input : PatchFlagConfigInput) :
    Except WriteFailure (FlagConfigRow × FlagConfigResult) := do
  refuse surroundings.frozen
  let current ← requireConfig (← buildSnapshotFromD1 surroundings configs input.environmentId)
  validateFlagConfigPatch surroundings current input
  let rollout ← nextBaselineRollout current.rollout input.rollout surroundings.freshSalt
  return (current, patched current input rollout)

def writeFlagConfig (input : PatchFlagConfigInput) : Except WriteFailure FlagConfigRow := do
  refuse surroundings.frozen
  let current ← requireConfig (← buildSnapshotFromD1 surroundings configs input.environmentId)
  validateFlagConfigPatch surroundings current input
  let rollout ← nextBaselineRollout current.rollout input.rollout surroundings.freshSalt
  refuse surroundings.unwritable
  return ⟨patched current input rollout, current.unique⟩

/-! ## 4. The replacement of the Targeting Rules -/

structure ReplaceTargetingRulesInput where
  environmentId : String
  targetingRules : List TargetingRuleInput
  deriving DecidableEq, Repr

def normalizedRules (current : FlagConfigRow) (input : ReplaceTargetingRulesInput) :
    Except WriteFailure (List TargetingRule) := do
  let targetingRules ← normalizeTargetingRuleRollouts current.targetingRules input.targetingRules
    surroundings.freshRuleSalt
  requireVariants (missingRuleVariantNames targetingRules surroundings.variants
    current.availableVariantNames)
  resolveSegments surroundings targetingRules
  return targetingRules

def withRules (current : FlagConfigRow) (targetingRules : List TargetingRule) : FlagConfigResult :=
  { current.toFlagConfigResult with version := current.version + 1, targetingRules }

def previewTargetingRules (input : ReplaceTargetingRulesInput) :
    Except WriteFailure (FlagConfigRow × FlagConfigResult) := do
  refuse surroundings.frozen
  let current ← requireConfig (← buildSnapshotFromD1 surroundings configs input.environmentId)
  let targetingRules ← normalizedRules surroundings current input
  return (current, withRules current targetingRules)

def replaceTargetingRules (input : ReplaceTargetingRulesInput) : Except WriteFailure FlagConfigRow := do
  refuse surroundings.frozen
  let current ← requireConfig (configs input.environmentId)
  let targetingRules ← normalizedRules surroundings current input
  refuse surroundings.unwritable
  replaceRows surroundings (withRules current targetingRules)

/-! ## 5. The Promotion -/

structure PromotionSelect where
  availability : Option (List String)
  targeting : Bool
  rollout : Bool
  enabled : Bool
  deriving DecidableEq, Repr

structure PromoteFlagConfigInput where
  fromEnvironmentId : String
  targetEnvironmentId : String
  select : PromotionSelect
  deriving DecidableEq, Repr

structure PreparedPromotion where
  availableVariantNames : List String
  enabled : Bool
  targetingRules : List TargetingRule
  /-- Absent where the baseline is not selected. -/
  rollout : Option (Option PercentageRollout)

/-- The percentage of the source, under the salt of the target. -/
def promotedBaselineRollout (source target : Option PercentageRollout) (freshSalt : String) :
    Option PercentageRollout :=
  source.map fun rollout => ⟨rollout.percentage, (target.map (·.salt)).getD freshSalt⟩

/-- The names of the target and those that are selected of the source, in the order of the catalog. -/
def copySelectedAvailability (target source selected : List String) (variants : List Variant) :
    List String :=
  (variants.map (·.name)).filter fun name =>
    if name ∈ selected then name ∈ source else name ∈ target

def promotedAvailability (selected : Option (List String)) (source target : FlagConfigRow)
    (variants : List Variant) : List String :=
  match selected with
  | none => target.availableVariantNames
  | some selected => copySelectedAvailability target.availableVariantNames
      source.availableVariantNames selected variants

def promotedRules (select : PromotionSelect) (source target : FlagConfigRow) : List TargetingRule :=
  if select.targeting then source.targetingRules else target.targetingRules

def preparePromotion (select : PromotionSelect) (source target : FlagConfigRow) :
    Except WriteFailure PreparedPromotion := do
  requireVariants (missingAvailableVariants select.availability surroundings.variants)
  let availableVariantNames :=
    promotedAvailability select.availability source target surroundings.variants
  let targetingRules := promotedRules select source target
  requireVariants (missingRuleVariantNames targetingRules surroundings.variants availableVariantNames)
  let rollout := if select.rollout then
    some (promotedBaselineRollout source.rollout target.rollout surroundings.freshSalt) else none
  requireResolvable surroundings (rollout.getD target.rollout) availableVariantNames
  return { availableVariantNames, enabled := source.enabled, targetingRules, rollout }

def promotionSelectsNothing (select : PromotionSelect) : Bool :=
  select.availability.isNone && !select.enabled && !select.rollout && !select.targeting

/-- What a Promotion that selects something leaves. -/
def promoted (select : PromotionSelect) (target : FlagConfigRow) (prepared : PreparedPromotion) :
    FlagConfigResult where
  version := target.version + 1
  enabled := if select.enabled then prepared.enabled else target.enabled
  availableVariantNames := prepared.availableVariantNames
  targetingRules := prepared.targetingRules
  rollout := prepared.rollout.getD target.rollout

/-- The source, the target and what is to be promoted. -/
def loadPromotion (input : PromoteFlagConfigInput) :
    Except WriteFailure (FlagConfigRow × FlagConfigRow × PreparedPromotion) := do
  refuse surroundings.frozen
  let source ← buildSnapshotFromD1 surroundings configs input.fromEnvironmentId
  let target ← buildSnapshotFromD1 surroundings configs input.targetEnvironmentId
  let source ← requireConfig source
  let target ← requireConfig target
  let prepared ← preparePromotion surroundings input.select source target
  return (source, target, prepared)

def previewPromotion (input : PromoteFlagConfigInput) :
    Except WriteFailure (FlagConfigRow × FlagConfigResult) := do
  let (_, target, prepared) ← loadPromotion surroundings configs input
  let after := promoted input.select target prepared
  return (target, { after with
    version := if promotionSelectsNothing input.select then target.version else after.version })

def promoteFlagConfig (input : PromoteFlagConfigInput) : Except WriteFailure FlagConfigRow := do
  let (_, target, prepared) ← loadPromotion surroundings configs input
  if promotionSelectsNothing input.select then return target
  else
    refuse surroundings.unwritable
    if input.select.targeting then replaceRows surroundings (promoted input.select target prepared)
    else return ⟨{ promoted input.select target prepared with
      targetingRules := target.targetingRules }, target.unique⟩

/-! ## 6. The Sync -/

structure SyncFlagConfigInput where
  environmentId : String
  fromEnvironmentId : String
  deriving DecidableEq, Repr

/-- What `ensureInitialFlagConfig` inserts. -/
def initialFlagConfig : FlagConfigRow where
  version := 1
  enabled := false
  availableVariantNames := []
  targetingRules := []
  rollout := none
  unique := List.nodup_nil

/-- The Configuration that is there, or the initial one. -/
def ensureInitialFlagConfig (environmentId : String) : Except WriteFailure FlagConfigRow := do
  refuse surroundings.unwritable
  return (configs environmentId).getD initialFlagConfig

/-- `syncConfigPatch` and the rules: the authoring rows of the source, its salts among them. -/
def synced (source : Option FlagConfigRow) (target : FlagConfigRow) : FlagConfigResult where
  version := target.version + 1
  enabled := (source.map (·.enabled)).getD false
  availableVariantNames := (source.map (·.availableVariantNames)).getD []
  targetingRules := (source.map (·.targetingRules)).getD []
  rollout := source.bind (·.rollout)

/-- The head of `syncFlagConfig`: the target is a Temporary Environment and the source has a Default
Variant, or it throws. -/
def prepareSync (input : SyncFlagConfigInput) : Except WriteFailure FlagConfigRow := do
  refuse surroundings.refused
  ensureInitialFlagConfig surroundings configs input.environmentId

def syncFlagConfig (input : SyncFlagConfigInput) (target : FlagConfigRow) :
    Except WriteFailure FlagConfigRow :=
  replaceRows surroundings (synced (configs input.fromEnvironmentId) target)

/-! ## 7. The Promotion of a winner -/

/-- The target of a conclusion, and what of the Run it is judged by. -/
structure ConcludeRunRequest where
  environmentId : String
  flagId : String
  expectedConfigVersion : Nat
  selectedVariant : String
  /-- `frozenVariantNames` of the Run. -/
  runVariantNames : List String
  enabled : Bool
  availableVariantNames : List String
  targetingRules : List TargetingRuleInput
  rollout : Option Rat
  deriving DecidableEq, Repr

def require (condition : Prop) [Decidable condition] (failure : WriteFailure) :
    Except WriteFailure Unit :=
  if condition then return else throw failure

def invalid (path : List String) (message : String) : WriteFailure := .VALIDATION_ERROR ("body" :: path) message

def validateSelectedVariant (body : ConcludeRunRequest) : Except WriteFailure Unit := do
  require (body.selectedVariant ∈ body.runVariantNames)
    (invalid ["selectedVariant"] "selected Variant must belong to the Run's frozen Variant set")
  require (body.selectedVariant ∈ surroundings.variants.map (·.name))
    (invalid ["selectedVariant"]
      "selected Variant must exist in the target Flag's current Variant catalog")
  require (0 < body.availableVariantNames.length →
      body.selectedVariant ∈ body.availableVariantNames)
    (invalid ["target", "proposedConfig", "availableVariantNames"]
      "selected Variant must be available in the proposed Configuration")

/-- The first rule whose id an earlier one has. -/
def duplicateRule (rules : List TargetingRuleInput) : Option TargetingRuleInput :=
  (rules.zipIdx.find? fun (rule, index) => rules.findIdx (·.id = rule.id) ≠ index).map (·.1)

def requireDistinct (rules : List TargetingRuleInput) : Except WriteFailure Unit :=
  match duplicateRule rules with
  | none => return
  | some duplicate => throw (invalid ["target", "proposedConfig", "targetingRules"]
      ("Targeting Rule id " ++ duplicate.id ++ " appears more than once"))

def normalizedWinnerRules (current : FlagConfigRow) (body : ConcludeRunRequest) :
    Except WriteFailure (List TargetingRule) := do
  requireDistinct body.targetingRules
  let targetingRules ← normalizeTargetingRuleRollouts current.targetingRules body.targetingRules
    surroundings.freshRuleSalt
  require (∀ rule ∈ targetingRules, rule.flagId = body.flagId)
    (invalid ["target", "proposedConfig", "targetingRules"]
      "every Targeting Rule must belong to the target Flag")
  requireVariants (missingAvailableVariants (some body.availableVariantNames) surroundings.variants ++
    missingRuleVariantNames targetingRules surroundings.variants body.availableVariantNames).eraseDups
  resolveSegments surroundings targetingRules
  return targetingRules

/-- `winnerChangedFields` names something. -/
def winnerChanges (current proposed : FlagConfigResult) : Bool :=
  current.availableVariantNames ≠ proposed.availableVariantNames ||
    current.targetingRules ≠ proposed.targetingRules || current.rollout ≠ proposed.rollout ||
    current.enabled ≠ proposed.enabled

/-- The baseline of the conclusion: it states one, or `null`. -/
def winnerRollout (current : FlagConfigRow) (body : ConcludeRunRequest) :
    Except WriteFailure (Option PercentageRollout) := do
  let rollout ← nextBaselineRollout current.rollout (some body.rollout) surroundings.freshSalt
  requireResolvable surroundings (rollout.getD none) body.availableVariantNames
  return rollout.getD none

def winnerConfig (current : FlagConfigRow) (body : ConcludeRunRequest)
    (targetingRules : List TargetingRule) (rollout : Option PercentageRollout) : FlagConfigResult where
  version := current.version + 1
  enabled := body.enabled
  availableVariantNames := body.availableVariantNames
  targetingRules := targetingRules
  rollout := rollout

def prepareWinnerProposal (body : ConcludeRunRequest) :
    Except WriteFailure (FlagConfigRow × FlagConfigResult) := do
  -- another Flag than the Experiment's, or a Temporary Environment
  refuse surroundings.refused
  let current ← requireConfig (← buildSnapshotFromD1 surroundings configs body.environmentId)
  require (current.version = body.expectedConfigVersion)
    (.TARGET_CONFIGURATION_STALE body.expectedConfigVersion (some current.version))
  validateSelectedVariant surroundings body
  let targetingRules ← normalizedWinnerRules surroundings current body
  let rollout ← winnerRollout surroundings current body
  require (winnerChanges current.toFlagConfigResult (winnerConfig current body targetingRules rollout))
    (invalid ["target", "proposedConfig"] "proposed Configuration must change at least one field")
  refuse surroundings.frozen
  return (current, winnerConfig current body targetingRules rollout)

end

end FlagWrites

end Splitch
