/-
# Evaluation of a Flag

What an evaluation reads and answers (`types.ts`, `errors.ts`), and the evaluation (`evaluate.ts`): a Flag
that is disabled, a held assignment, a live Run, the Targeting Rules by priority and the baseline rollout.
The provider and the Assignment Store answer or throw; logging is left out.

The order in which these are asked is what the results on evaluations are about.  A disabled Flag answers
its Default Variant and asks nothing else.  A held assignment comes before the Run, and a Run that is live
before the rules of the Flag.  A rule decides when its Conditions hold and no rule before it has matched;
its rollout, or that of the baseline, then chooses between its target and the Default Variant.  An error on
the way ends the evaluation with that error and the Default Variant, and a result that comes of a rule is
one of the rules' own (`ruleResult_of_firstMatch`).
-/
import Splitch.Evaluator.Assignment
import Splitch.Evaluator.Conditions

namespace Splitch

namespace Evaluator

/-! ## 1. Configurations -/

structure Variant where
  id : String
  name : String
  deriving DecidableEq, Repr

structure PercentageRollout where
  percentage : Rat
  salt : String
  deriving DecidableEq, Repr

structure ResolvedTargetingRule where
  id : String
  priority : Nat
  conditions : List Condition
  variantId : String
  percentageRollout : Option PercentageRollout
  deriving DecidableEq, Repr

structure RunConfig where
  runId : String
  salt : String
  allocation : Allocation
  targetingRules : List ResolvedTargetingRule

structure FlagConfig where
  flagKey : String
  appId : String
  environmentId : String
  experimentId : Option String
  enabled : Bool
  defaultVariant : String
  variants : List Variant
  availableVariantNames : List String
  targetingRules : List ResolvedTargetingRule
  rollout : Option PercentageRollout
  deriving DecidableEq, Repr

structure ExperimentConfig where
  targetingKeyType : String
  liveRun : Option RunConfig

structure AssignmentStoreEntry where
  runId : String
  variant : String
  deriving DecidableEq, Repr

structure EvaluatePathInput where
  appId : String
  environmentId : String
  flagKey : String
  evaluationContext : EvaluationContext

structure EvaluatePathDeps where
  hash : UnitHash
  regExp : RegExp
  getFlag : String → String → String → Except EvaluationThrow FlagConfig
  getExperiment : String → String → String → Except EvaluationThrow ExperimentConfig
  /-- By App, idType and Targeting Key: the held assignments by Experiment. -/
  getAll : String → String → String →
    Except EvaluationThrow (String → Option AssignmentStoreEntry)

/-! ## 2. Results -/

structure ExposureDecision where
  appId : String
  environmentId : String
  experimentId : String
  flagKey : String
  idType : String
  liveRunId : String
  targetingKey : String
  variant : String
  deriving DecidableEq, Repr

inductive EvaluateKind
  | disabled
  | holdover_replay
  | rule_match_direct
  | rule_match_percentage
  | fresh_assignment
  | baseline_rollout
  | no_match_default
  | error
  deriving DecidableEq, Repr

inductive RuleSelection
  | direct
  | percentage_rollout
  deriving DecidableEq, Repr

inductive EvaluateReason
  | holdover_replay (priorRunId : String)
  | rule_matched (ruleId : String) (priority : Nat) (selection : RuleSelection)
      (rollout : Option (List Share))
  | fresh_assignment
  | default_disabled
  | baseline_rollout (rollout : List Share)
  | no_match_default
  | failed (reason : FailureReason)
  deriving DecidableEq, Repr

/-- A result: a field that its kind does not have is `none`. -/
structure EvaluateResult where
  kind : EvaluateKind
  variant : Option String
  reason : EvaluateReason
  experimentId : Option String := none
  liveRunId : Option String := none
  exposure : Option ExposureDecision := none
  errorCode : Option String := none
  errorMessage : Option String := none
  deriving DecidableEq, Repr

/-! ## 3. Evaluation -/

def defaultResult (variant : String) : EvaluateResult where
  kind := .disabled
  variant := some variant
  reason := .default_disabled

def exposure (input : EvaluatePathInput) (experimentId runId variant : String) :
    ExposureDecision where
  appId := input.appId
  environmentId := input.environmentId
  experimentId
  flagKey := input.flagKey
  idType := input.evaluationContext.idType
  liveRunId := runId
  targetingKey := input.evaluationContext.targetingKey
  variant

def fresh (input : EvaluatePathInput) (experimentId runId variant : String) :
    EvaluateResult where
  kind := .fresh_assignment
  variant := some variant
  reason := .fresh_assignment
  experimentId := some experimentId
  liveRunId := some runId
  exposure := some (exposure input experimentId runId variant)

def rolloutReason (variantName : String) (rollout : Option PercentageRollout) :
    Option (List Share) :=
  rollout.map fun rollout => [(variantName, rollout.percentage)]

def variantNameForId (variants : List Variant) (variantId : String) :
    Except EvaluationThrow String :=
  match variants.find? (·.id = variantId) with
  | none => throw (.evaluatePathError
      ("Targeting Rule variantId \"" ++ variantId ++ "\" names no Variant")
      "INTERNAL_SERVER_ERROR")
  | some variant => return variant.name

section

variable (deps : EvaluatePathDeps) (input : EvaluatePathInput) (flag : FlagConfig)
  (experimentId : Option String) (run : Option RunConfig)

/-- The target up to the percentage, and the Default Variant from there. -/
def rolloutShares (target : String) (percentage : Rat) : List Share :=
  [(target, percentage), (flag.defaultVariant, 100 - percentage)]

def rolloutVariant (target : String) (rollout : PercentageRollout) : String :=
  fractionalEval deps.hash rollout.salt input.evaluationContext.targetingKey
    (rolloutShares flag target rollout.percentage)

/-- The result of a rule whose Conditions match, with the Variant that it names. -/
def ruleResult (rule : ResolvedTargetingRule) (directVariant : String) : EvaluateResult :=
  let variant := match rule.percentageRollout with
    | none => directVariant
    | some rollout => rolloutVariant deps input flag directVariant rollout
  { kind := if rule.percentageRollout = none then .rule_match_direct else .rule_match_percentage
    variant := some variant
    reason := .rule_matched rule.id rule.priority
      (if rule.percentageRollout = none then .direct else .percentage_rollout)
      (rolloutReason directVariant rule.percentageRollout)
    experimentId
    liveRunId := run.map (·.runId)
    exposure := match experimentId, run with
      | some experimentId, some run => some (exposure input experimentId run.runId variant)
      | _, _ => none }

def evaluateTargetingRule (rule : ResolvedTargetingRule) :
    Except EvaluationThrow (Option EvaluateResult) := do
  if ← matchesConditions deps.regExp rule.conditions input.evaluationContext then
    let directVariant ← variantNameForId flag.variants rule.variantId
    return some (ruleResult deps input flag experimentId run rule directVariant)
  else return none

/-- The loop over the rules. -/
def firstMatch : List ResolvedTargetingRule → Except EvaluationThrow (Option EvaluateResult)
  | [] => return none
  | rule :: rules => do
    match ← evaluateTargetingRule deps input flag experimentId run rule with
    | some result => return some result
    | none => firstMatch rules

def byPriority (rules : List ResolvedTargetingRule) : List ResolvedTargetingRule :=
  Sorting.sortBy ResolvedTargetingRule.priority rules

/-- The Variants that a baseline rollout can go to. -/
def baselineCandidates : List String :=
  let scope := if 0 < flag.availableVariantNames.length then flag.availableVariantNames
    else flag.variants.map (·.name)
  scope.filter (· ≠ flag.defaultVariant)

/-- `candidates[0]`, where it is the only one and no empty text. -/
def baselineTarget : Except EvaluationThrow String :=
  match baselineCandidates flag with
  | [target] =>
    if target = "" then unresolvable 1
    else return target
  | candidates => unresolvable candidates.length
where
  unresolvable (found : Nat) : Except EvaluationThrow String := throw (.evaluatePathError
    ("FlagConfig " ++ flag.appId ++ "/" ++ flag.environmentId ++ "/" ++ flag.flagKey ++
      ": a baseline rollout needs exactly one non-Default Variant to roll into, found " ++
      toString found)
    "INTERNAL_SERVER_ERROR")

def unmatchedResult : Except EvaluationThrow EvaluateResult :=
  match flag.rollout with
  | none => pure
    { kind := .no_match_default
      variant := some flag.defaultVariant
      reason := .no_match_default
      experimentId }
  | some rollout => do
    let target ← baselineTarget flag
    pure
      { kind := .baseline_rollout
        variant := some (rolloutVariant deps input flag target rollout)
        reason := .baseline_rollout (rolloutShares flag target rollout.percentage)
        experimentId }

def evaluateFlagOnly : Except EvaluationThrow EvaluateResult := do
  match ← firstMatch deps input flag experimentId none (byPriority flag.targetingRules) with
  | some result => return result
  | none => unmatchedResult deps input flag experimentId

def evaluateLiveRun (experimentId : String) (run : RunConfig) :
    Except EvaluationThrow EvaluateResult :=
  let rules := byPriority run.targetingRules
  if rules.length = 0 then
    return fresh input experimentId run.runId
      (assign deps.hash run.salt run.allocation input.evaluationContext.targetingKey)
  else do
    match ← firstMatch deps input flag (some experimentId) (some run) rules with
    | some result => return result
    | none =>
      pure
        { kind := .no_match_default
          variant := some flag.defaultVariant
          reason := .no_match_default
          experimentId := some experimentId
          liveRunId := some run.runId
          exposure := some (exposure input experimentId run.runId flag.defaultVariant) }

/-- The assignment that the Store holds; that it cannot be read counts as none, unless the Store
says otherwise. -/
def heldAssignment (experimentId : String) : Except EvaluationThrow (Option AssignmentStoreEntry) :=
  match deps.getAll input.appId input.evaluationContext.idType
      input.evaluationContext.targetingKey with
  | .ok held => return held experimentId
  | .error (.assignmentStoreError message) => throw (.assignmentStoreError message)
  | .error _ => return none

def holdoverResult (holdover : AssignmentStoreEntry) : EvaluateResult where
  kind := .holdover_replay
  variant := some holdover.variant
  reason := .holdover_replay holdover.runId

def idTypeMismatch (experiment : ExperimentConfig) : EvaluationThrow :=
  .evaluatePathError
    ("Evaluation idType \"" ++ input.evaluationContext.idType ++
      "\" does not match Experiment targetingKeyType \"" ++ experiment.targetingKeyType ++ "\"")
    "VALIDATION_ERROR"

/-- What follows once the Flag is bound to an Experiment. -/
def evaluateBound (experimentId : String) (experiment : ExperimentConfig) :
    Except EvaluationThrow EvaluateResult := do
  if input.evaluationContext.idType ≠ experiment.targetingKeyType then
    throw (idTypeMismatch input experiment)
  else
    match ← heldAssignment deps input experimentId with
    | some holdover => return holdoverResult holdover
    | none =>
      match experiment.liveRun with
      | none => evaluateFlagOnly deps input flag (some experimentId)
      | some run => evaluateLiveRun deps input flag experimentId run

/-- What follows once the Flag has been read. -/
def evaluateFlag : Except EvaluationThrow EvaluateResult :=
  if ¬ flag.enabled then return defaultResult flag.defaultVariant
  else
    match flag.experimentId with
    | none => evaluateFlagOnly deps input flag none
    | some experimentId => do
      let experiment ← deps.getExperiment input.appId input.environmentId experimentId
      evaluateBound deps input flag experimentId experiment

end

/-- `errorResult`. -/
def errorResult (defaultVariant : Option String) (cause : EvaluationThrow) : EvaluateResult :=
  let (errorCode, message, reason) := match cause with
    | .evaluatePathError message errorCode | .conditionMatchError message errorCode =>
      (errorCode, message, FailureReason.error)
    | .providerError message errorCode resolutionReason => (errorCode, message, resolutionReason)
    | .assignmentStoreError message => ("INTERNAL_SERVER_ERROR", message, .error)
    | .other message => ("INTERNAL_SERVER_ERROR", message.getD "Evaluation failed", .error)
  { kind := .error
    variant := defaultVariant
    reason := .failed reason
    errorCode := some errorCode
    errorMessage := some message }

/-- A result, or the error as one. -/
def settle (defaultVariant : Option String) :
    Except EvaluationThrow EvaluateResult → EvaluateResult
  | .ok result => result
  | .error cause => errorResult defaultVariant cause

def evaluatePath (deps : EvaluatePathDeps) (input : EvaluatePathInput) : EvaluateResult :=
  match deps.getFlag input.appId input.environmentId input.flagKey with
  | .error cause => errorResult none cause
  | .ok flag => settle (some flag.defaultVariant) (evaluateFlag deps input flag)

/-! ## 4. What the rules come to -/

section

variable {deps : EvaluatePathDeps} {input : EvaluatePathInput} {flag flag' : FlagConfig}
  {experimentId : Option String} {run run' : Option RunConfig}

/-- What the evaluation of a rule reads of a Flag and of a Run. -/
structure SameNames (flag flag' : FlagConfig) (run run' : Option RunConfig) : Prop where
  variants : flag'.variants = flag.variants
  defaultVariant : flag'.defaultVariant = flag.defaultVariant
  runId : run'.map (·.runId) = run.map (·.runId)

theorem rolloutVariant_congr (h : SameNames flag flag' run run') (target : String)
    (rollout : PercentageRollout) :
    rolloutVariant deps input flag' target rollout =
      rolloutVariant deps input flag target rollout := by
  unfold rolloutVariant rolloutShares
  rw [h.defaultVariant]

theorem ruleResult_congr (h : SameNames flag flag' run run') (rule : ResolvedTargetingRule)
    (directVariant : String) :
    ruleResult deps input flag' experimentId run' rule directVariant =
      ruleResult deps input flag experimentId run rule directVariant := by
  have hrun := h.runId
  unfold ruleResult
  simp only [rolloutVariant_congr h, hrun]
  cases experimentId with
  | none => rfl
  | some experimentId =>
    cases run with
    | none =>
      cases run' with
      | none => rfl
      | some => cases hrun
    | some found =>
      cases run' with
      | none => cases hrun
      | some found' => simp only [Option.some.inj hrun]

theorem firstMatch_congr (h : SameNames flag flag' run run') (rules : List ResolvedTargetingRule) :
    firstMatch deps input flag' experimentId run' rules =
      firstMatch deps input flag experimentId run rules := by
  induction rules with
  | nil => rfl
  | cons rule rules ih =>
    unfold firstMatch evaluateTargetingRule
    simp only [ruleResult_congr h, h.variants, ih]

/-- The rules of a Flag are what its own evaluation goes by. -/
theorem evaluateFlagOnly_eq (flag : FlagConfig) (rules : List ResolvedTargetingRule) :
    evaluateFlagOnly deps input { flag with targetingRules := rules } experimentId =
      (firstMatch deps input flag experimentId none (byPriority rules) >>= fun found =>
        match found with
        | some result => pure result
        | none => unmatchedResult deps input flag experimentId) := by
  have hnames : SameNames flag { flag with targetingRules := rules } none none := ⟨rfl, rfl, rfl⟩
  unfold evaluateFlagOnly
  rw [firstMatch_congr hnames]
  rfl

/-- A Run without a match answers with the Default Variant. -/
def unmatchedRun (input : EvaluatePathInput) (flag : FlagConfig) (experimentId : String)
    (run : RunConfig) : EvaluateResult where
  kind := .no_match_default
  variant := some flag.defaultVariant
  reason := .no_match_default
  experimentId := some experimentId
  liveRunId := some run.runId
  exposure := some (exposure input experimentId run.runId flag.defaultVariant)

theorem evaluateLiveRun_eq (experimentId : String) (run : RunConfig)
    (rules : List ResolvedTargetingRule) :
    evaluateLiveRun deps input flag experimentId { run with targetingRules := rules } =
      if (byPriority rules).length = 0 then
        pure (fresh input experimentId run.runId
          (assign deps.hash run.salt run.allocation input.evaluationContext.targetingKey))
      else firstMatch deps input flag (some experimentId) (some run) (byPriority rules) >>=
        fun found => match found with
          | some result => pure result
          | none => pure (unmatchedRun input flag experimentId run) := by
  have hnames : SameNames flag flag (some run) (some { run with targetingRules := rules }) :=
    ⟨rfl, rfl, rfl⟩
  unfold evaluateLiveRun
  rw [← firstMatch_congr hnames]
  rfl

/-- **A match is the result of one of the rules.** -/
theorem ruleResult_of_firstMatch {rules : List ResolvedTargetingRule} {result : EvaluateResult}
    (h : firstMatch deps input flag experimentId run rules = .ok (some result)) :
    ∃ rule ∈ rules, ∃ directVariant,
      result = ruleResult deps input flag experimentId run rule directVariant := by
  induction rules with
  | nil => cases Except.ok.inj h
  | cons rule rules ih =>
    unfold firstMatch evaluateTargetingRule at h
    cases hmatch : matchesConditions deps.regExp rule.conditions input.evaluationContext with
    | error thrown =>
      rw [hmatch] at h
      cases h
    | ok matched =>
      rw [hmatch] at h
      cases matched with
      | false =>
        obtain ⟨found, hfound, directVariant, hresult⟩ := ih h
        exact ⟨found, List.mem_cons_of_mem _ hfound, directVariant, hresult⟩
      | true =>
        cases hnamed : variantNameForId flag.variants rule.variantId with
        | error thrown =>
          rw [hnamed] at h
          cases h
        | ok directVariant =>
          rw [hnamed] at h
          exact ⟨rule, List.mem_cons_self, directVariant, (Option.some.inj (Except.ok.inj h)).symm⟩

end

/-! ## 5. What an evaluation reads of its dependencies -/

section

variable {deps deps' : EvaluatePathDeps} {input : EvaluatePathInput} {flag : FlagConfig}
  {experimentId : Option String} {run : Option RunConfig}

/-- The same hash and the same regular expressions. -/
structure SameRules (deps deps' : EvaluatePathDeps) : Prop where
  hash : deps'.hash = deps.hash
  regExp : deps'.regExp = deps.regExp

theorem rolloutVariant_deps (h : SameRules deps deps') (target : String)
    (rollout : PercentageRollout) :
    rolloutVariant deps' input flag target rollout =
      rolloutVariant deps input flag target rollout := by
  unfold rolloutVariant
  rw [h.hash]

theorem firstMatch_deps (h : SameRules deps deps') (rules : List ResolvedTargetingRule) :
    firstMatch deps' input flag experimentId run rules =
      firstMatch deps input flag experimentId run rules := by
  induction rules with
  | nil => rfl
  | cons rule rules ih =>
    unfold firstMatch evaluateTargetingRule ruleResult
    simp only [h.regExp, rolloutVariant_deps h, ih]

theorem evaluateFlagOnly_deps (h : SameRules deps deps') :
    evaluateFlagOnly deps' input flag experimentId =
      evaluateFlagOnly deps input flag experimentId := by
  unfold evaluateFlagOnly unmatchedResult
  simp only [firstMatch_deps h, rolloutVariant_deps h]

theorem evaluateLiveRun_deps (h : SameRules deps deps') (experimentId : String)
    (run : RunConfig) :
    evaluateLiveRun deps' input flag experimentId run =
      evaluateLiveRun deps input flag experimentId run := by
  unfold evaluateLiveRun
  simp only [firstMatch_deps h, h.hash]

theorem heldAssignment_deps (h : deps'.getAll = deps.getAll) (experimentId : String) :
    heldAssignment deps' input experimentId = heldAssignment deps input experimentId := by
  unfold heldAssignment
  rw [h]

theorem evaluateBound_deps (h : SameRules deps deps') (hheld : deps'.getAll = deps.getAll)
    (experimentId : String) (experiment : ExperimentConfig) :
    evaluateBound deps' input flag experimentId experiment =
      evaluateBound deps input flag experimentId experiment := by
  unfold evaluateBound
  simp only [heldAssignment_deps hheld, evaluateFlagOnly_deps h, evaluateLiveRun_deps h]

theorem evaluateFlag_deps (h : SameRules deps deps') (hheld : deps'.getAll = deps.getAll)
    (hexperiment : deps'.getExperiment = deps.getExperiment) :
    evaluateFlag deps' input flag = evaluateFlag deps input flag := by
  unfold evaluateFlag
  simp only [evaluateFlagOnly_deps h, evaluateBound_deps h hheld, hexperiment]

end

end Evaluator

end Splitch
