/-
# Evaluation of a Flag on a configuration snapshot

The snapshot and what it is resolved to (`config-snapshot.ts`), the evaluation of a Flag on it
(`evaluate.ts`, `assignment.ts`), and the details an evaluation answers with (`resolution.ts`).

A JSON value is its text.  Parameters (`EvaluationCore`) are the parse of a payload by its schema,
the match of one Condition (regular expressions, `Object.is`) and the choice of a Variant by weight
(a hash and floating point).  Logging is left out.
-/
import Mathlib

namespace Splitch

namespace Cloudflare

/-! ## 1. Snapshots -/

abbrev JsonText := String

structure Variant where
  id : String
  name : String
  value : JsonText
  deriving DecidableEq, Repr

structure PercentageRollout where
  salt : String
  percentage : Rat
  deriving DecidableEq, Repr

structure Condition where
  attributeName : String
  operator : String
  value : JsonText
  deriving DecidableEq, Repr

structure ResolvedTargetingRule where
  id : String
  priority : Int
  conditions : List Condition
  variantId : String
  percentageRollout : Option PercentageRollout
  deriving DecidableEq, Repr

structure FlagConfigKV where
  key : String
  environmentId : String
  experimentId : Option String
  enabled : Bool
  defaultVariantId : String
  variants : List Variant
  availableVariantNames : List String
  targetingRules : List ResolvedTargetingRule
  rollout : Option PercentageRollout
  deriving DecidableEq, Repr

structure ExperimentConfigKV where
  id : String
  environmentId : String
  targetingKeyType : String
  liveRunId : Option String
  deriving DecidableEq, Repr

structure RunConfigKV where
  id : String
  experimentId : String
  salt : String
  allocation : List (String × Rat)
  targetingRules : List ResolvedTargetingRule
  configHash : String
  deriving DecidableEq, Repr

structure ConfigSnapshot where
  environmentVersion : Nat
  appId : String
  environmentId : String
  flags : List FlagConfigKV
  experiments : List ExperimentConfigKV
  runs : List RunConfigKV
  deriving DecidableEq, Repr

structure EvaluationContext where
  targetingKey : String
  idType : String
  attributes : JsonText
  deriving DecidableEq, Repr

/-- What is thrown on the way of an evaluation, as far as its result tells. -/
structure EvaluationFault where
  message : String
  errorCode : String
  resolutionReason : String
  deriving DecidableEq, Repr

def EvaluationFault.internal (message : String) : EvaluationFault where
  message
  errorCode := "INTERNAL_SERVER_ERROR"
  resolutionReason := "ERROR"

/-- What the evaluation takes from elsewhere. -/
structure EvaluationCore where
  /-- `JSON.parse` and `ConfigSnapshotSchema`. -/
  configSnapshotSchema : String → Option ConfigSnapshot
  matchesCondition : Condition → EvaluationContext → Except EvaluationFault Bool
  /-- Salt, Targeting Key and weights by Variant name. -/
  fractionalEval : String → String → List (String × Rat) → String

/-- `uniqueScopedIds`, and `uniqueRunIds` with the check of its own. -/
def uniqueIds {α : Type} (id : α → String) (check : α → Except String Unit) (kind source : String) :
    List String → List α → Except String Unit
  | _, [] => .ok ()
  | ids, value :: values => do
    check value
    if id value ∈ ids then
      throw ("Duplicate " ++ kind ++ " \"" ++ id value ++ "\" in " ++ source ++ " snapshot")
    uniqueIds id check kind source (id value :: ids) values

def assertInScope (kind id environmentId ofSnapshot : String) : Except String Unit :=
  if environmentId ≠ ofSnapshot then
    .error (kind ++ " \"" ++ id ++ "\" crosses Environment scope")
  else .ok ()

def assertSnapshotReferences (snapshot : ConfigSnapshot) (source : String) :
    Except String Unit := do
  uniqueIds FlagConfigKV.key
    (fun flag => assertInScope "Flag" flag.key flag.environmentId snapshot.environmentId)
    "Flag" source [] snapshot.flags
  uniqueIds ExperimentConfigKV.id
    (fun experiment => assertInScope "Experiment" experiment.id experiment.environmentId
      snapshot.environmentId)
    "Experiment" source [] snapshot.experiments
  let experimentIds := snapshot.experiments.map (·.id)
  uniqueIds RunConfigKV.id
    (fun run =>
      if run.experimentId ∉ experimentIds then
        .error ("Run \"" ++ run.id ++ "\" names an absent Experiment")
      else .ok ())
    "Run" source [] snapshot.runs
  snapshot.flags.forM fun flag =>
    if flag.experimentId.any (· ∉ experimentIds) then
      throw ("Flag \"" ++ flag.key ++ "\" names an absent Experiment")
    else pure ()
  snapshot.experiments.forM fun experiment =>
    if experiment.liveRunId.any (· ∉ snapshot.runs.map (·.id)) then
      throw ("Experiment \"" ++ experiment.id ++ "\" names an absent live Run")
    else pure ()

def parseConfigSnapshot (core : EvaluationCore) (payload source : String) :
    Except String ConfigSnapshot := do
  match core.configSnapshotSchema payload with
  | none => throw ("Stored " ++ source ++ " configuration is invalid")
  | some snapshot =>
    assertSnapshotReferences snapshot source
    return snapshot

/-! ## 2. What a snapshot provides -/

structure RunConfig where
  runId : String
  salt : String
  allocation : List (String × Rat)
  targetingRules : List ResolvedTargetingRule
  deriving DecidableEq, Repr

structure FlagConfig where
  experimentId : Option String
  enabled : Bool
  defaultVariant : String
  variants : List Variant
  availableVariantNames : List String
  targetingRules : List ResolvedTargetingRule
  rollout : Option PercentageRollout
  deriving DecidableEq, Repr

structure ExperimentConfig where
  targetingKeyType : String
  liveRun : Option RunConfig
  deriving DecidableEq, Repr

/-- The maps of `configSnapshotProvider`, and the scope they are read in. -/
structure Provider where
  appId : String
  environmentId : String
  flags : List (String × FlagConfig)
  experiments : List (String × ExperimentConfig)
  deriving DecidableEq, Repr

def resolveFlag (flag : FlagConfigKV) : Except String FlagConfig :=
  match flag.variants.find? (·.id = flag.defaultVariantId) with
  | none => .error ("Flag \"" ++ flag.key ++ "\" defaultVariantId names no Variant")
  | some defaultVariant => .ok
    { experimentId := flag.experimentId
      enabled := flag.enabled
      defaultVariant := defaultVariant.name
      variants := flag.variants
      availableVariantNames := flag.availableVariantNames
      targetingRules := flag.targetingRules
      rollout := flag.rollout }

def resolveRun (experiment : ExperimentConfigKV) (run : RunConfigKV) : Except String RunConfig :=
  if run.experimentId ≠ experiment.id then
    .error ("Run \"" ++ run.id ++ "\" belongs to a different Experiment")
  else .ok
    { runId := run.id
      salt := run.salt
      allocation := run.allocation
      targetingRules := run.targetingRules }

def resolveExperiment (snapshot : ConfigSnapshot) (experiment : ExperimentConfigKV) :
    Except String ExperimentConfig := do
  match experiment.liveRunId with
  | none => return { targetingKeyType := experiment.targetingKeyType, liveRun := none }
  | some liveRunId =>
    match snapshot.runs.find? (·.id = liveRunId) with
    | none => throw ("Experiment \"" ++ experiment.id ++ "\" liveRunId names no Run")
    | some run =>
      let liveRun ← resolveRun experiment run
      return { targetingKeyType := experiment.targetingKeyType, liveRun := some liveRun }

def configSnapshotProvider (snapshot : ConfigSnapshot) : Except String Provider := do
  let flags ← snapshot.flags.mapM fun flag => do return (flag.key, ← resolveFlag flag)
  let experiments ← snapshot.experiments.mapM fun experiment => do
    return (experiment.id, ← resolveExperiment snapshot experiment)
  return { appId := snapshot.appId, environmentId := snapshot.environmentId, flags, experiments }

namespace Provider

def assertScope (provider : Provider) (appId environmentId source : String) :
    Except EvaluationFault Unit :=
  if provider.appId ≠ appId ∨ provider.environmentId ≠ environmentId then
    .error (.internal (source ++ " snapshot scope does not match the installed integration"))
  else .ok ()

def getFlag (provider : Provider) (appId environmentId flagKey source : String) :
    Except EvaluationFault FlagConfig := do
  provider.assertScope appId environmentId source
  match provider.flags.lookup flagKey with
  | none =>
    throw
      { message := "Flag \"" ++ flagKey ++ "\" is absent from the " ++ source ++ " snapshot"
        errorCode := "FLAG_NOT_FOUND"
        resolutionReason := "ERROR" }
  | some flag => return flag

def getExperiment (provider : Provider) (appId environmentId experimentId source : String) :
    Except EvaluationFault ExperimentConfig := do
  provider.assertScope appId environmentId source
  match provider.experiments.lookup experimentId with
  | none =>
    throw (.internal
      ("Experiment \"" ++ experimentId ++ "\" is absent from the " ++ source ++ " snapshot"))
  | some experiment => return experiment

end Provider

/-! ## 3. Evaluation -/

structure AssignmentEntry where
  runId : String
  variant : String
  deriving DecidableEq, Repr

structure EvaluatePathInput where
  appId : String
  environmentId : String
  flagKey : String
  evaluationContext : EvaluationContext
  deriving DecidableEq, Repr

/-- The decision to expose; the App, Environment, idType and Targeting Key are the input's. -/
structure ExposureDecision where
  flagKey : String
  experimentId : String
  liveRunId : String
  variant : String
  deriving DecidableEq, Repr

inductive EvaluateKind
  | disabled
  | fresh_assignment
  | rule_match_direct
  | rule_match_percentage
  | holdover_replay
  | baseline_rollout
  | no_match_default
  deriving DecidableEq, Repr

inductive EvaluateResult
  | resolved (kind : EvaluateKind) (variant : String) (ruleId : Option String)
      (exposure : Option ExposureDecision)
  | error (fault : EvaluationFault)
  deriving DecidableEq, Repr

def EvaluateResult.exposure : EvaluateResult → Option ExposureDecision
  | resolved _ _ _ exposure => exposure
  | error _ => none

def exposureOf (input : EvaluatePathInput) (experimentId runId variant : String) :
    ExposureDecision where
  flagKey := input.flagKey
  experimentId
  liveRunId := runId
  variant

section

variable (core : EvaluationCore)

def assign (run : RunConfig) (targetingKey : String) : String :=
  core.fractionalEval run.salt targetingKey
    (run.allocation.insertionSort (fun left right => left.1 ≤ right.1))

def matchesConditions (conditions : List Condition) (context : EvaluationContext) :
    Except EvaluationFault Bool :=
  if conditions.length = 0 then .error (.internal "resolved Targeting Rule has no Conditions")
  else conditions.allM (core.matchesCondition · context)

def variantNameForId (variants : List Variant) (variantId : String) :
    Except EvaluationFault String :=
  match variants.find? (·.id = variantId) with
  | none => .error (.internal
      ("Targeting Rule variantId \"" ++ variantId ++ "\" names no Variant"))
  | some variant => .ok variant.name

def evaluateTargetingRule (input : EvaluatePathInput) (flag : FlagConfig)
    (experimentId : Option String) (run : Option RunConfig) (rule : ResolvedTargetingRule) :
    Except EvaluationFault (Option EvaluateResult) := do
  if ← matchesConditions core rule.conditions input.evaluationContext then
    let directVariant ← variantNameForId flag.variants rule.variantId
    let variant := match rule.percentageRollout with
      | none => directVariant
      | some rollout => core.fractionalEval rollout.salt input.evaluationContext.targetingKey
        [(directVariant, rollout.percentage), (flag.defaultVariant, 100 - rollout.percentage)]
    let exposure := match experimentId, run with
      | some experimentId, some run => some (exposureOf input experimentId run.runId variant)
      | _, _ => none
    return some (.resolved
      (if rule.percentageRollout = none then .rule_match_direct else .rule_match_percentage)
      variant (some rule.id) exposure)
  else return none

/-- The first rule that matches, by priority. -/
def firstMatch (input : EvaluatePathInput) (flag : FlagConfig) (experimentId : Option String)
    (run : Option RunConfig) :
    List ResolvedTargetingRule → Except EvaluationFault (Option EvaluateResult)
  | [] => return none
  | rule :: rules => do
    match ← evaluateTargetingRule core input flag experimentId run rule with
    | some result => return some result
    | none => firstMatch input flag experimentId run rules

def byPriority (rules : List ResolvedTargetingRule) : List ResolvedTargetingRule :=
  rules.insertionSort (fun left right => left.priority ≤ right.priority)

def unmatchedResult (input : EvaluatePathInput) (flag : FlagConfig) :
    Except EvaluationFault EvaluateResult :=
  match flag.rollout with
  | none => .ok (.resolved .no_match_default flag.defaultVariant none none)
  | some rollout =>
    let scope := if 0 < flag.availableVariantNames.length then flag.availableVariantNames
      else flag.variants.map (·.name)
    match scope.filter (· ≠ flag.defaultVariant) with
    | [target] =>
      let variant := core.fractionalEval rollout.salt input.evaluationContext.targetingKey
        [(target, rollout.percentage), (flag.defaultVariant, 100 - rollout.percentage)]
      .ok (.resolved .baseline_rollout variant none none)
    | candidates => .error (.internal
      ("FlagConfig " ++ input.appId ++ "/" ++ input.environmentId ++ "/" ++ input.flagKey ++
        ": a baseline rollout needs exactly one non-Default Variant to roll into, found " ++
        toString candidates.length))

def evaluateFlagOnly (input : EvaluatePathInput) (flag : FlagConfig)
    (experimentId : Option String) : Except EvaluationFault EvaluateResult := do
  match ← firstMatch core input flag experimentId none (byPriority flag.targetingRules) with
  | some result => return result
  | none => unmatchedResult core input flag

def evaluateLiveRun (input : EvaluatePathInput) (flag : FlagConfig) (experimentId : String)
    (run : RunConfig) : Except EvaluationFault EvaluateResult := do
  if run.targetingRules.length = 0 then
    let variant := assign core run input.evaluationContext.targetingKey
    return .resolved .fresh_assignment variant none
      (some (exposureOf input experimentId run.runId variant))
  else
    match ← firstMatch core input flag (some experimentId) (some run)
      (byPriority run.targetingRules) with
    | some result => return result
    | none =>
      return .resolved .no_match_default flag.defaultVariant none
        (some (exposureOf input experimentId run.runId flag.defaultVariant))

/-- `held` is what the read-only Assignment Store hands out. -/
def evaluateEnabledFlag (input : EvaluatePathInput) (provider : Provider)
    (held : String → Option AssignmentEntry) (flag : FlagConfig) :
    Except EvaluationFault EvaluateResult := do
  match flag.experimentId with
  | none => evaluateFlagOnly core input flag none
  | some experimentId =>
    let experiment ← provider.getExperiment input.appId input.environmentId experimentId
      "Cloudflare"
    if input.evaluationContext.idType ≠ experiment.targetingKeyType then
      throw
        { message := "Evaluation idType \"" ++ input.evaluationContext.idType ++
            "\" does not match Experiment targetingKeyType \"" ++ experiment.targetingKeyType ++
            "\""
          errorCode := "VALIDATION_ERROR"
          resolutionReason := "ERROR" }
    else match held experimentId with
    | some holdover => return .resolved .holdover_replay holdover.variant none none
    | none =>
      match experiment.liveRun with
      | none => evaluateFlagOnly core input flag (some experimentId)
      | some run => evaluateLiveRun core input flag experimentId run

def evaluatePath (input : EvaluatePathInput) (provider : Provider)
    (held : String → Option AssignmentEntry) : EvaluateResult :=
  let result : Except EvaluationFault EvaluateResult := do
    let flag ← provider.getFlag input.appId input.environmentId input.flagKey "Cloudflare"
    if ¬ flag.enabled then return .resolved .disabled flag.defaultVariant none none
    else evaluateEnabledFlag core input provider held flag
  match result with
  | .ok result => result
  | .error fault => .error fault

end

/-! ## 4. Details -/

structure ResolutionDetails where
  value : JsonText
  variantName : Option String
  reason : String
  errorCode : Option String := none
  errorMessage : Option String := none
  ruleId : Option String := none
  deriving DecidableEq, Repr

def failureDetails (defaultValue : JsonText) (reason errorCode errorMessage : String) :
    ResolutionDetails where
  value := defaultValue
  variantName := none
  reason
  errorCode := some errorCode
  errorMessage := some errorMessage

def resolutionReasonFor : EvaluateKind → String
  | .disabled => "DISABLED"
  | .rule_match_direct | .rule_match_percentage => "TARGETING_MATCH"
  | .holdover_replay => "CACHED"
  | .no_match_default => "DEFAULT"
  | .fresh_assignment | .baseline_rollout => "SPLIT"

def detailsFor (snapshot : ConfigSnapshot) (flagKey : String) (result : EvaluateResult)
    (defaultValue : JsonText) : ResolutionDetails :=
  match result with
  | .error fault =>
    failureDetails defaultValue fault.resolutionReason fault.errorCode fault.message
  | .resolved kind variantName ruleId _ =>
    let flag := snapshot.flags.find? (·.key = flagKey)
    match flag.bind fun flag => flag.variants.find? (·.name = variantName) with
    | none => failureDetails defaultValue "ERROR" "INTERNAL_SERVER_ERROR"
      ("Resolved Variant \"" ++ variantName ++ "\" is absent from Flag \"" ++ flagKey ++ "\"")
    | some variant =>
      { value := variant.value
        variantName := some variant.name
        reason := resolutionReasonFor kind
        ruleId }

end Cloudflare

end Splitch
