/-
# Ramping a rollout

Two configurations that differ in the percentage of one rollout run side by side: every rule before
the changed one decides the same, and where the changed rollout is reached, the point of the key lies
below both percentages, above both, or in between (`rolloutVariant_ramp`).

* `rollout_ramp`: a higher percentage moves entities from the Default Variant to the target, and
  nowhere else; no entity is at the target at zero, and every one at one hundred.

That a rollout decides is read off the result (`EvaluateResult.rolledOut`).  The first rule that matches
does, of the Flag (`flag_rule_decides`) or of the live Run (`run_rule_decides`), and the baseline where
none matches (`baseline_decides`).
-/
import Splitch.Library.Agreement
import Splitch.Evaluator.Evaluate

namespace Splitch

namespace Evaluator

open Agreement

/-! ## 1. One rollout -/

section

variable {deps : EvaluatePathDeps} {input : EvaluatePathInput} {flag flag' : FlagConfig}
  {target : String} {rollout : PercentageRollout}

/-- A rollout goes to its target just below its percentage. -/
theorem rolloutVariant_eq (deps : EvaluatePathDeps) (input : EvaluatePathInput) (flag : FlagConfig)
    (target : String) (rollout : PercentageRollout) :
    rolloutVariant deps input flag target rollout =
      if deps.hash.point (rollout.salt ++ ":" ++ input.evaluationContext.targetingKey) * 100 <
        rollout.percentage then target else flag.defaultVariant := by
  have hbelow : deps.hash.point (rollout.salt ++ ":" ++ input.evaluationContext.targetingKey) * 100 <
      0 + rollout.percentage + (100 - rollout.percentage) := by
    have := deps.hash.lt_one (rollout.salt ++ ":" ++ input.evaluationContext.targetingKey)
    linarith
  unfold rolloutVariant fractionalEval fractionalAt rolloutShares
  rw [WeightedChoice.pick, WeightedChoice.pick, if_pos hbelow, zero_add]

/-- **One rollout at two percentages.** An entity whose point lies below the lower percentage has the
target at both, one between the two is moved to it, and one behind the higher has the Default Variant
at both. -/
theorem rolloutVariant_ramp (deps : EvaluatePathDeps) (input : EvaluatePathInput)
    (flag : FlagConfig) (target salt : String) {percentage₁ percentage₂ : Rat}
    (h : percentage₁ ≤ percentage₂) :
    rolloutVariant deps input flag target ⟨percentage₁, salt⟩ =
        rolloutVariant deps input flag target ⟨percentage₂, salt⟩ ∨
      rolloutVariant deps input flag target ⟨percentage₁, salt⟩ = flag.defaultVariant ∧
        rolloutVariant deps input flag target ⟨percentage₂, salt⟩ = target := by
  rw [rolloutVariant_eq, rolloutVariant_eq]
  dsimp only
  by_cases hlow : deps.hash.point (salt ++ ":" ++ input.evaluationContext.targetingKey) * 100 <
      percentage₁
  · rw [if_pos hlow, if_pos (hlow.trans_le h)]
    exact .inl rfl
  · rw [if_neg hlow]
    split
    · exact .inr ⟨rfl, rfl⟩
    · exact .inl rfl

theorem rolloutVariant_zero (hzero : rollout.percentage = 0) :
    rolloutVariant deps input flag target rollout = flag.defaultVariant := by
  rw [rolloutVariant_eq, hzero, if_neg]
  exact not_lt_of_ge (mul_nonneg (deps.hash.nonneg _) (by norm_num))

theorem rolloutVariant_hundred (hfull : rollout.percentage = 100) :
    rolloutVariant deps input flag target rollout = target := by
  rw [rolloutVariant_eq, hfull, if_pos]
  have := deps.hash.lt_one (rollout.salt ++ ":" ++ input.evaluationContext.targetingKey)
  linarith

/-! ## 2. Rules side by side -/

/-- The same Variant, or the Default Variant and a target of the rollout. -/
def Ramps (defaultVariant : String) (isTarget : String → Prop) (result result' : EvaluateResult) :
    Prop :=
  result.variant = result'.variant ∨
    ∃ target, isTarget target ∧ result.variant = some defaultVariant ∧
      result'.variant = some target

theorem Ramps.refl {defaultVariant : String} {isTarget : String → Prop} (result : EvaluateResult) :
    Ramps defaultVariant isTarget result result := .inl rfl

/-- The same rule, or the rule at the two percentages. -/
def RampedRule (rule : ResolvedTargetingRule) (salt : String) (percentage₁ percentage₂ : Rat)
    (a b : ResolvedTargetingRule) : Prop :=
  a = b ∨ a = { rule with percentageRollout := some ⟨percentage₁, salt⟩ } ∧
    b = { rule with percentageRollout := some ⟨percentage₂, salt⟩ }

/-- What a rule goes to: the Variant that it names. -/
def RuleTarget (flag : FlagConfig) (rule : ResolvedTargetingRule) (target : String) : Prop :=
  variantNameForId flag.variants rule.variantId = .ok target

variable {experimentId : Option String} {run run' : Option RunConfig}
  {rule a b : ResolvedTargetingRule} {salt : String} {percentage₁ percentage₂ : Rat}

theorem variant_ruleResult (rule : ResolvedTargetingRule) (directVariant : String) :
    (ruleResult deps input flag experimentId run rule directVariant).variant =
      some (match rule.percentageRollout with
        | none => directVariant
        | some rollout => rolloutVariant deps input flag directVariant rollout) := rfl

theorem evaluateTargetingRule_ramp (h : SameNames flag flag' run run')
    (hle : percentage₁ ≤ percentage₂) (hab : RampedRule rule salt percentage₁ percentage₂ a b) :
    Agree (Option.Rel (Ramps flag.defaultVariant (RuleTarget flag rule)))
      (evaluateTargetingRule deps input flag experimentId run a)
      (evaluateTargetingRule deps input flag' experimentId run' b) := by
  have hread : a.conditions = b.conditions ∧ a.variantId = b.variantId := by
    rcases hab with rfl | ⟨rfl, rfl⟩ <;> exact ⟨rfl, rfl⟩
  unfold evaluateTargetingRule
  rw [hread.1, hread.2, h.variants]
  refine (Agree.refl (R := fun x y => x = y) (fun _ => rfl) _).bind fun matched _ heq => ?_
  subst heq
  cases matched with
  | false => exact .none
  | true =>
    rw [if_pos rfl, if_pos rfl]
    cases hnamed : variantNameForId flag.variants b.variantId with
    | error thrown => rfl
    | ok directVariant =>
      refine Option.Rel.some ?_
      unfold Ramps
      rw [variant_ruleResult, variant_ruleResult]
      rcases hab with rfl | ⟨rfl, rfl⟩
      · left
        cases a.percentageRollout with
        | none => rfl
        | some rollout => exact congrArg some (rolloutVariant_congr h _ _).symm
      · dsimp only
        rw [rolloutVariant_congr h]
        rcases rolloutVariant_ramp deps input flag directVariant salt hle with
          hsame | ⟨hdefault, htarget⟩
        · exact .inl (congrArg some hsame)
        · exact .inr ⟨directVariant, hnamed, congrArg some hdefault, congrArg some htarget⟩

theorem firstMatch_ramp (h : SameNames flag flag' run run') (hle : percentage₁ ≤ percentage₂)
    {rules rules' : List ResolvedTargetingRule}
    (hrules : List.Forall₂ (RampedRule rule salt percentage₁ percentage₂) rules rules') :
    Agree (Option.Rel (Ramps flag.defaultVariant (RuleTarget flag rule)))
      (firstMatch deps input flag experimentId run rules)
      (firstMatch deps input flag' experimentId run' rules') := by
  induction hrules with
  | nil => exact .none
  | cons hab _ ih =>
    refine (evaluateTargetingRule_ramp h hle hab).bind fun found found' hfound => ?_
    cases hfound with
    | none => exact ih
    | some hramps => exact .some hramps

/-- Sorting keeps the changed rule in its place. -/
theorem forall₂_byPriority {rules rules' : List ResolvedTargetingRule}
    (hrules : List.Forall₂ (RampedRule rule salt percentage₁ percentage₂) rules rules') :
    List.Forall₂ (RampedRule rule salt percentage₁ percentage₂) (byPriority rules)
      (byPriority rules') := by
  refine Sorting.forall₂_sortBy (fun a b hab => ?_) hrules
  rcases hab with rfl | ⟨rfl, rfl⟩ <;> rfl

/-- The rules before and after the changed one are the same. -/
theorem forall₂_ramped (before after : List ResolvedTargetingRule) :
    List.Forall₂ (RampedRule rule salt percentage₁ percentage₂)
      (before ++ { rule with percentageRollout := some ⟨percentage₁, salt⟩ } :: after)
      (before ++ { rule with percentageRollout := some ⟨percentage₂, salt⟩ } :: after) := by
  have hsame (rules : List ResolvedTargetingRule) :
      List.Forall₂ (RampedRule rule salt percentage₁ percentage₂) rules rules :=
    List.forall₂_same.mpr fun _ _ => .inl rfl
  exact List.rel_append (hsame before) (.cons (.inr ⟨rfl, rfl⟩) (hsame after))

/-! ## 3. Configurations side by side -/

/-- The same Flag with one rollout at two percentages, and what that rollout goes to. -/
inductive RampedFlag (percentage₁ percentage₂ : Rat) :
    FlagConfig → FlagConfig → (String → Prop) → Prop
  | rule (flag : FlagConfig) (before : List ResolvedTargetingRule) (rule : ResolvedTargetingRule)
      (salt : String) (after : List ResolvedTargetingRule) :
    RampedFlag percentage₁ percentage₂
      { flag with
        targetingRules :=
          before ++ { rule with percentageRollout := some ⟨percentage₁, salt⟩ } :: after }
      { flag with
        targetingRules :=
          before ++ { rule with percentageRollout := some ⟨percentage₂, salt⟩ } :: after }
      (RuleTarget flag rule)
  | baseline (flag : FlagConfig) (salt : String) :
    RampedFlag percentage₁ percentage₂ { flag with rollout := some ⟨percentage₁, salt⟩ }
      { flag with rollout := some ⟨percentage₂, salt⟩ }
      fun target => baselineTarget flag = .ok target

/-- The same Run with a rule of its own at two percentages. -/
inductive RampedRun (percentage₁ percentage₂ : Rat) (rule : ResolvedTargetingRule) :
    RunConfig → RunConfig → Prop
  | rule (run : RunConfig) (before : List ResolvedTargetingRule) (salt : String)
      (after : List ResolvedTargetingRule) :
    RampedRun percentage₁ percentage₂ rule
      { run with
        targetingRules :=
          before ++ { rule with percentageRollout := some ⟨percentage₁, salt⟩ } :: after }
      { run with
        targetingRules :=
          before ++ { rule with percentageRollout := some ⟨percentage₂, salt⟩ } :: after }

theorem unmatchedResult_ramp (hle : percentage₁ ≤ percentage₂) (salt : String) :
    Agree (Ramps flag.defaultVariant fun target => baselineTarget flag = .ok target)
      (unmatchedResult deps input { flag with rollout := some ⟨percentage₁, salt⟩ } experimentId)
      (unmatchedResult deps input { flag with rollout := some ⟨percentage₂, salt⟩ }
        experimentId) := by
  unfold unmatchedResult
  dsimp only
  rw [show baselineTarget { flag with rollout := some ⟨percentage₁, salt⟩ } = baselineTarget flag
      from rfl,
    show baselineTarget { flag with rollout := some ⟨percentage₂, salt⟩ } = baselineTarget flag
      from rfl]
  cases baselineTarget flag with
  | error thrown => rfl
  | ok target =>
    rcases rolloutVariant_ramp deps input flag target salt hle with hsame | ⟨hdefault, hramped⟩
    · exact .inl (congrArg some hsame)
    · exact .inr ⟨target, rfl, congrArg some hdefault, congrArg some hramped⟩

theorem evaluateFlagOnly_ramp {isTarget : String → Prop} (hle : percentage₁ ≤ percentage₂)
    (hramped : RampedFlag percentage₁ percentage₂ flag flag' isTarget) :
    Agree (Ramps flag.defaultVariant isTarget) (evaluateFlagOnly deps input flag experimentId)
      (evaluateFlagOnly deps input flag' experimentId) := by
  cases hramped with
  | rule flag before rule salt after =>
    rw [evaluateFlagOnly_eq, evaluateFlagOnly_eq]
    have hrules : List.Forall₂ (RampedRule rule salt percentage₁ percentage₂) _ _ :=
      forall₂_byPriority (forall₂_ramped before after)
    refine (firstMatch_ramp ⟨rfl, rfl, rfl⟩ hle hrules).bind fun found found' hfound => ?_
    cases hfound with
    | none => exact Agree.refl Ramps.refl _
    | some hramps => exact hramps
  | baseline flag salt =>
    have hnames : SameNames { flag with rollout := some ⟨percentage₁, salt⟩ }
        { flag with rollout := some ⟨percentage₂, salt⟩ } none none := ⟨rfl, rfl, rfl⟩
    unfold evaluateFlagOnly
    rw [firstMatch_congr hnames]
    refine (Agree.refl (R := fun x y => x = y) (fun _ => rfl) _).bind fun found _ heq => ?_
    subst heq
    cases found with
    | none => exact unmatchedResult_ramp hle salt
    | some result => exact Ramps.refl result

theorem evaluateLiveRun_ramp {experimentId : String} {run run' : RunConfig}
    (hle : percentage₁ ≤ percentage₂) (hramped : RampedRun percentage₁ percentage₂ rule run run') :
    Agree (Ramps flag.defaultVariant (RuleTarget flag rule))
      (evaluateLiveRun deps input flag experimentId run)
      (evaluateLiveRun deps input flag experimentId run') := by
  cases hramped with
  | rule run before salt after =>
    have hrules : List.Forall₂ (RampedRule rule salt percentage₁ percentage₂) _ _ :=
      forall₂_byPriority (forall₂_ramped before after)
    rw [evaluateLiveRun_eq, evaluateLiveRun_eq, hrules.length_eq]
    split
    · exact Ramps.refl _
    · refine (firstMatch_ramp ⟨rfl, rfl, rfl⟩ hle hrules).bind fun found found' hfound => ?_
      cases hfound with
      | none => exact Ramps.refl _
      | some hramps => exact hramps

/-! ## 4. Evaluations side by side -/

/-- What an evaluation reads, with one rollout at two percentages: of the Flag, or of the live
Run. -/
inductive RampedDeps (percentage₁ percentage₂ : Rat) (input : EvaluatePathInput) :
    EvaluatePathDeps → EvaluatePathDeps → String → (String → Prop) → Prop
  | flag {deps : EvaluatePathDeps}
      {getFlag : String → String → String → Except EvaluationThrow FlagConfig}
      {flag flag' : FlagConfig} {isTarget : String → Prop}
      (hflag : deps.getFlag input.appId input.environmentId input.flagKey = .ok flag)
      (hflag' : getFlag input.appId input.environmentId input.flagKey = .ok flag')
      (hramped : RampedFlag percentage₁ percentage₂ flag flag' isTarget) :
    RampedDeps percentage₁ percentage₂ input deps { deps with getFlag } flag.defaultVariant isTarget
  | run {deps : EvaluatePathDeps}
      {getExperiment : String → String → String → Except EvaluationThrow ExperimentConfig}
      {flag : FlagConfig} {experimentId : String} {experiment : ExperimentConfig}
      {run run' : RunConfig} {rule : ResolvedTargetingRule}
      (hflag : deps.getFlag input.appId input.environmentId input.flagKey = .ok flag)
      (hbound : flag.experimentId = some experimentId)
      (hexperiment : deps.getExperiment input.appId input.environmentId experimentId =
        .ok { experiment with liveRun := some run })
      (hexperiment' : getExperiment input.appId input.environmentId experimentId =
        .ok { experiment with liveRun := some run' })
      (hramped : RampedRun percentage₁ percentage₂ rule run run') :
    RampedDeps percentage₁ percentage₂ input deps { deps with getExperiment } flag.defaultVariant
      (RuleTarget flag rule)

theorem settle_ramp {isTarget : String → Prop} {x y : Except EvaluationThrow EvaluateResult}
    {defaultVariant : String} (h : Agree (Ramps defaultVariant isTarget) x y) :
    Ramps defaultVariant isTarget (settle (some defaultVariant) x)
      (settle (some defaultVariant) y) := by
  cases x <;> cases y
  · cases h
    exact Ramps.refl _
  · cases h
  · cases h
  · exact h

theorem RampedFlag.reads {isTarget : String → Prop} (run : Option RunConfig)
    (h : RampedFlag percentage₁ percentage₂ flag flag' isTarget) :
    flag'.enabled = flag.enabled ∧ flag'.experimentId = flag.experimentId ∧
      flag'.defaultVariant = flag.defaultVariant ∧ SameNames flag flag' run run := by
  cases h <;> exact ⟨rfl, rfl, rfl, rfl, rfl, rfl⟩

/-- A live Run has rules of its own, and the Flag's are not read. -/
theorem evaluateLiveRun_congr (h : SameNames flag flag' run run) (experimentId : String)
    (live : RunConfig) :
    evaluateLiveRun deps input flag' experimentId live =
      evaluateLiveRun deps input flag experimentId live := by
  have hnames : SameNames flag flag' (some live) (some live) := ⟨h.variants, h.defaultVariant, rfl⟩
  unfold evaluateLiveRun
  simp only [firstMatch_congr hnames, h.defaultVariant]

theorem evaluateFlag_ramp {isTarget : String → Prop} (hle : percentage₁ ≤ percentage₂)
    (hramped : RampedFlag percentage₁ percentage₂ flag flag' isTarget) :
    Agree (Ramps flag.defaultVariant isTarget) (evaluateFlag deps input flag)
      (evaluateFlag deps input flag') := by
  obtain ⟨henabled, hbound, hdefault, hnames⟩ := hramped.reads none
  unfold evaluateFlag
  rw [henabled, hbound, hdefault]
  split
  · exact Ramps.refl _
  split
  · exact evaluateFlagOnly_ramp hle hramped
  · refine (Agree.refl (R := fun x y => x = y) (fun _ => rfl) _).bind fun experiment _ heq => ?_
    subst heq
    unfold evaluateBound
    split
    · rfl
    refine (Agree.refl (R := fun x y => x = y) (fun _ => rfl) _).bind fun held _ heq => ?_
    subst heq
    cases held with
    | some holdover => exact Ramps.refl _
    | none =>
      cases experiment.liveRun with
      | none => exact evaluateFlagOnly_ramp hle hramped
      | some live =>
        dsimp only
        rw [evaluateLiveRun_congr hnames]
        exact Agree.refl Ramps.refl _

theorem evaluatePath_ramp {deps' : EvaluatePathDeps} {defaultVariant : String}
    {isTarget : String → Prop} (hle : percentage₁ ≤ percentage₂)
    (h : RampedDeps percentage₁ percentage₂ input deps deps' defaultVariant isTarget) :
    Ramps defaultVariant isTarget (evaluatePath deps input) (evaluatePath deps' input) := by
  unfold evaluatePath
  cases h with
  | flag hflag hflag' hramped =>
    rw [hflag]
    dsimp only
    rw [hflag']
    dsimp only
    rw [(hramped.reads none).2.2.1]
    refine settle_ramp ?_
    rename_i getFlag _ flag'
    have hdeps : evaluateFlag { deps with getFlag } input flag' = evaluateFlag deps input flag' :=
      evaluateFlag_deps ⟨rfl, rfl⟩ rfl rfl
    rw [hdeps]
    exact evaluateFlag_ramp hle hramped
  | run hflag hbound hexperiment hexperiment' hramped =>
    rename_i getExperiment flag experimentId experiment run run' rule
    have hrules : SameRules deps { deps with getExperiment } := ⟨rfl, rfl⟩
    have hdeps : evaluateBound { deps with getExperiment } input flag experimentId
        { experiment with liveRun := some run' } =
        evaluateBound deps input flag experimentId { experiment with liveRun := some run' } :=
      evaluateBound_deps hrules rfl _ _
    dsimp only
    rw [hflag]
    refine settle_ramp ?_
    unfold evaluateFlag
    rw [hbound]
    dsimp only
    split
    · exact Ramps.refl _
    rw [hexperiment, hexperiment']
    dsimp only [bind, Except.bind]
    rw [hdeps]
    unfold evaluateBound
    split
    · rfl
    refine (Agree.refl (R := fun x y => x = y) (fun _ => rfl) _).bind fun held _ heq => ?_
    subst heq
    cases held with
    | some holdover => exact Ramps.refl _
    | none => exact evaluateLiveRun_ramp hle hramped

/-! ## 5. Both ends -/

/-- The target and the percentage of the rollout that a result has come from. -/
def EvaluateResult.rolledOut (result : EvaluateResult) : Option Share :=
  match result.reason with
  | .rule_matched _ _ _ (some (share :: _)) | .baseline_rollout (share :: _) => some share
  | _ => none

/-- What the ends of a rollout say of a result. -/
def EndsOk (defaultVariant : String) (result : EvaluateResult) : Prop :=
  ∀ share ∈ result.rolledOut, (share.2 = 0 → result.variant = some defaultVariant) ∧
    (share.2 = 100 → result.variant = some share.1)

theorem endsOk_of_rolledOut {defaultVariant : String} {result : EvaluateResult}
    (h : result.rolledOut = none) : EndsOk defaultVariant result := by
  intro share hshare
  rw [h] at hshare
  cases hshare

theorem endsOk_ruleResult (rule : ResolvedTargetingRule) (directVariant : String) :
    EndsOk flag.defaultVariant
      (ruleResult deps input flag experimentId run rule directVariant) := by
  intro share hshare
  rw [variant_ruleResult]
  unfold EvaluateResult.rolledOut ruleResult rolloutReason at hshare
  cases hrollout : rule.percentageRollout with
  | none =>
    rw [hrollout] at hshare
    cases hshare
  | some rollout =>
    rw [hrollout] at hshare
    cases hshare
    exact ⟨fun hzero => congrArg some (rolloutVariant_zero hzero),
      fun hfull => congrArg some (rolloutVariant_hundred hfull)⟩

theorem endsOk_firstMatch {rules : List ResolvedTargetingRule} {result : EvaluateResult}
    (h : firstMatch deps input flag experimentId run rules = .ok (some result)) :
    EndsOk flag.defaultVariant result := by
  obtain ⟨rule, -, directVariant, rfl⟩ := ruleResult_of_firstMatch h
  exact endsOk_ruleResult rule directVariant

theorem endsOk_unmatchedResult {result : EvaluateResult}
    (h : unmatchedResult deps input flag experimentId = .ok result) :
    EndsOk flag.defaultVariant result := by
  unfold unmatchedResult at h
  split at h
  · cases Except.ok.inj h
    exact endsOk_of_rolledOut rfl
  · rename_i rollout _
    cases htarget : baselineTarget flag with
    | error thrown =>
      rw [htarget] at h
      cases h
    | ok target =>
      rw [htarget] at h
      cases Except.ok.inj h
      intro share hshare
      cases hshare
      exact ⟨fun hzero => congrArg some (rolloutVariant_zero hzero),
        fun hfull => congrArg some (rolloutVariant_hundred hfull)⟩

theorem endsOk_evaluateFlagOnly {result : EvaluateResult}
    (h : evaluateFlagOnly deps input flag experimentId = .ok result) :
    EndsOk flag.defaultVariant result := by
  unfold evaluateFlagOnly at h
  cases hfirst : firstMatch deps input flag experimentId none (byPriority flag.targetingRules) with
  | error thrown =>
    rw [hfirst] at h
    cases h
  | ok found =>
    rw [hfirst] at h
    cases found with
    | none => exact endsOk_unmatchedResult h
    | some matched =>
      cases Except.ok.inj h
      exact endsOk_firstMatch hfirst

theorem endsOk_evaluateLiveRun {experimentId : String} {run : RunConfig} {result : EvaluateResult}
    (h : evaluateLiveRun deps input flag experimentId run = .ok result) :
    EndsOk flag.defaultVariant result := by
  unfold evaluateLiveRun at h
  dsimp only at h
  split at h
  · cases Except.ok.inj h
    exact endsOk_of_rolledOut rfl
  · cases hfirst : firstMatch deps input flag (some experimentId) (some run)
      (byPriority run.targetingRules) with
    | error thrown =>
      rw [hfirst] at h
      cases h
    | ok found =>
      rw [hfirst] at h
      cases found with
      | none =>
        cases Except.ok.inj h
        exact endsOk_of_rolledOut rfl
      | some matched =>
        cases Except.ok.inj h
        exact endsOk_firstMatch hfirst

theorem endsOk_evaluateFlag {result : EvaluateResult}
    (h : evaluateFlag deps input flag = .ok result) : EndsOk flag.defaultVariant result := by
  unfold evaluateFlag at h
  split at h
  · cases Except.ok.inj h
    exact endsOk_of_rolledOut rfl
  split at h
  · exact endsOk_evaluateFlagOnly h
  rename_i experimentId _
  cases hexperiment : deps.getExperiment input.appId input.environmentId experimentId with
  | error thrown =>
    rw [hexperiment] at h
    cases h
  | ok experiment =>
    rw [hexperiment] at h
    change evaluateBound deps input flag experimentId experiment = .ok result at h
    unfold evaluateBound at h
    split at h
    · cases h
    cases hheld : heldAssignment deps input experimentId with
    | error thrown =>
      rw [hheld] at h
      cases h
    | ok held =>
      rw [hheld] at h
      cases held with
      | some holdover =>
        cases Except.ok.inj h
        exact endsOk_of_rolledOut rfl
      | none =>
        cases hlive : experiment.liveRun with
        | none =>
          rw [hlive] at h
          exact endsOk_evaluateFlagOnly h
        | some live =>
          rw [hlive] at h
          exact endsOk_evaluateLiveRun h

theorem endsOk_evaluatePath
    (h : deps.getFlag input.appId input.environmentId input.flagKey = .ok flag) :
    EndsOk flag.defaultVariant (evaluatePath deps input) := by
  unfold evaluatePath
  rw [h]
  dsimp only
  cases hresult : evaluateFlag deps input flag with
  | error thrown =>
    refine endsOk_of_rolledOut ?_
    cases thrown <;> rfl
  | ok result => exact endsOk_evaluateFlag hresult

end

/-! ## 6. What decides

A rollout decides when its rule is the first that matches, among the rules of the Flag or of the live Run;
and the baseline rollout when none matches. -/

section

variable {deps : EvaluatePathDeps} {input : EvaluatePathInput} {flag : FlagConfig}
  {experimentId : Option String} {run : Option RunConfig} {rules : List ResolvedTargetingRule}
  {rule : ResolvedTargetingRule} {rollout : PercentageRollout} {target : String}

/-- The rule matches, and no rule ahead of it does. -/
def Reached (deps : EvaluatePathDeps) (input : EvaluatePathInput) (rules : List ResolvedTargetingRule)
    (rule : ResolvedTargetingRule) : Prop :=
  matchesConditions deps.regExp rule.conditions input.evaluationContext = .ok true ∧
    ∃ before after, byPriority rules = before ++ rule :: after ∧ ∀ ahead ∈ before,
      matchesConditions deps.regExp ahead.conditions input.evaluationContext = .ok false

/-- The Experiment that the Flag is bound to takes the Entity, and does not hold it over. -/
structure Unheld (deps : EvaluatePathDeps) (input : EvaluatePathInput) (flag : FlagConfig)
    (experimentId : String) (experiment : ExperimentConfig) : Prop where
  bound : flag.experimentId = some experimentId
  read : deps.getExperiment input.appId input.environmentId experimentId = .ok experiment
  idType : input.evaluationContext.idType = experiment.targetingKeyType
  held : heldAssignment deps input experimentId = .ok none

/-- The rules of the Flag are read: it has no Experiment, or that has no live Run. -/
inductive ReadsFlag (deps : EvaluatePathDeps) (input : EvaluatePathInput) (flag : FlagConfig) :
    Option String → Prop
  | unbound (hbound : flag.experimentId = none) : ReadsFlag deps input flag none
  | idle {experimentId : String} {experiment : ExperimentConfig}
      (hunheld : Unheld deps input flag experimentId experiment) (hidle : experiment.liveRun = none) :
      ReadsFlag deps input flag (some experimentId)

theorem firstMatch_append {before after : List ResolvedTargetingRule}
    (h : ∀ ahead ∈ before,
      matchesConditions deps.regExp ahead.conditions input.evaluationContext = .ok false) :
    firstMatch deps input flag experimentId run (before ++ after) =
      firstMatch deps input flag experimentId run after := by
  induction before with
  | nil => rfl
  | cons ahead before ih =>
    rw [List.cons_append, firstMatch, evaluateTargetingRule, h ahead List.mem_cons_self]
    exact ih fun other hother => h other (List.mem_cons_of_mem _ hother)

/-- **A rule that is reached decides.** -/
theorem firstMatch_reached (hreached : Reached deps input rules rule)
    (htarget : RuleTarget flag rule target) :
    firstMatch deps input flag experimentId run (byPriority rules) =
      .ok (some (ruleResult deps input flag experimentId run rule target)) := by
  obtain ⟨hmatches, before, after, hrules, hahead⟩ := hreached
  rw [hrules, firstMatch_append hahead, firstMatch, evaluateTargetingRule, hmatches]
  change (variantNameForId flag.variants rule.variantId >>= _) >>= _ = _
  rw [htarget]
  rfl

theorem firstMatch_none (h : ∀ rule ∈ rules,
      matchesConditions deps.regExp rule.conditions input.evaluationContext = .ok false) :
    firstMatch deps input flag experimentId run (byPriority rules) = .ok none := by
  have hahead : ∀ ahead ∈ byPriority rules,
      matchesConditions deps.regExp ahead.conditions input.evaluationContext = .ok false :=
    fun ahead hmem => h ahead (Sorting.sortBy_perm.mem_iff.mp hmem)
  rw [← List.append_nil (byPriority rules), firstMatch_append hahead]
  rfl

theorem rolledOut_ruleResult (hrollout : rule.percentageRollout = some rollout) :
    (ruleResult deps input flag experimentId run rule target).rolledOut =
      some (target, rollout.percentage) := by
  simp [EvaluateResult.rolledOut, ruleResult, rolloutReason, hrollout]

theorem evaluatePath_bound (hflag : deps.getFlag input.appId input.environmentId input.flagKey = .ok flag)
    (henabled : flag.enabled = true) {experimentId : String} {experiment : ExperimentConfig}
    (hunheld : Unheld deps input flag experimentId experiment) {answer : EvaluateResult}
    (hidle : experiment.liveRun = none → evaluateFlagOnly deps input flag (some experimentId) = .ok answer)
    (hlive : ∀ live, experiment.liveRun = some live →
      evaluateLiveRun deps input flag experimentId live = .ok answer) :
    evaluatePath deps input = answer := by
  have hbound : evaluateBound deps input flag experimentId experiment = .ok answer := by
    rw [evaluateBound, if_neg (not_not_intro hunheld.idType), hunheld.held]
    cases hrun : experiment.liveRun with
    | none => exact hidle hrun
    | some live => exact hlive live hrun
  rw [evaluatePath, hflag]
  dsimp only
  rw [evaluateFlag, if_neg (not_not_intro henabled), hunheld.bound]
  dsimp only
  rw [hunheld.read]
  change settle _ (evaluateBound deps input flag experimentId experiment) = _
  rw [hbound, settle]

theorem evaluatePath_flagOnly
    (hflag : deps.getFlag input.appId input.environmentId input.flagKey = .ok flag)
    (henabled : flag.enabled = true) (hreads : ReadsFlag deps input flag experimentId)
    {answer : EvaluateResult} (hanswer : evaluateFlagOnly deps input flag experimentId = .ok answer) :
    evaluatePath deps input = answer := by
  cases hreads with
  | unbound hbound =>
    rw [evaluatePath, hflag]
    dsimp only
    rw [evaluateFlag, if_neg (not_not_intro henabled), hbound]
    dsimp only
    rw [hanswer, settle]
  | idle hunheld hidle =>
    refine evaluatePath_bound hflag henabled hunheld (fun _ => hanswer) fun live hlive => ?_
    rw [hidle] at hlive
    cases hlive

/-- **A rule of the Flag that is reached** decides. -/
theorem flag_rule_decides
    (hflag : deps.getFlag input.appId input.environmentId input.flagKey = .ok flag)
    (henabled : flag.enabled = true) (hreads : ReadsFlag deps input flag experimentId)
    (hreached : Reached deps input flag.targetingRules rule)
    (hrollout : rule.percentageRollout = some rollout) (htarget : RuleTarget flag rule target) :
    (evaluatePath deps input).rolledOut = some (target, rollout.percentage) := by
  have hanswer : evaluateFlagOnly deps input flag experimentId =
      .ok (ruleResult deps input flag experimentId none rule target) := by
    rw [evaluateFlagOnly, firstMatch_reached hreached htarget]
    rfl
  rw [evaluatePath_flagOnly hflag henabled hreads hanswer]
  exact rolledOut_ruleResult hrollout

/-- **A rule of the live Run that is reached** decides: its own Conditions hold, and those of the
rules before it do not. The rules of the Flag are not looked at, and an allocation of the Run neither. -/
theorem run_rule_decides
    (hflag : deps.getFlag input.appId input.environmentId input.flagKey = .ok flag)
    (henabled : flag.enabled = true) {experimentId : String} {experiment : ExperimentConfig}
    (hunheld : Unheld deps input flag experimentId experiment) {live : RunConfig}
    (hlive : experiment.liveRun = some live) (hreached : Reached deps input live.targetingRules rule)
    (hrollout : rule.percentageRollout = some rollout) (htarget : RuleTarget flag rule target) :
    (evaluatePath deps input).rolledOut = some (target, rollout.percentage) := by
  have hanswer : evaluateLiveRun deps input flag experimentId live =
      .ok (ruleResult deps input flag (some experimentId) (some live) rule target) := by
    have hrules : (byPriority live.targetingRules).length ≠ 0 := by
      obtain ⟨-, before, after, hrules, -⟩ := hreached
      rw [hrules, List.length_append, List.length_cons]
      omega
    rw [evaluateLiveRun, if_neg hrules, firstMatch_reached hreached htarget]
    rfl
  have hdecided : evaluatePath deps input = _ := evaluatePath_bound hflag henabled hunheld
    (fun hidle => by cases hlive.symm.trans hidle) fun other hother => by
      obtain rfl : live = other := Option.some.inj (hlive.symm.trans hother)
      exact hanswer
  rw [hdecided]
  exact rolledOut_ruleResult hrollout

/-- **The baseline rollout**, behind rules of which none matches, decides, for a Flag that is
evaluated without a Run. -/
theorem baseline_decides (hflag : deps.getFlag input.appId input.environmentId input.flagKey = .ok flag)
    (henabled : flag.enabled = true) (hreads : ReadsFlag deps input flag experimentId)
    (hnone : ∀ rule ∈ flag.targetingRules,
      matchesConditions deps.regExp rule.conditions input.evaluationContext = .ok false)
    (hrollout : flag.rollout = some rollout) (htarget : baselineTarget flag = .ok target) :
    (evaluatePath deps input).rolledOut = some (target, rollout.percentage) := by
  have hanswer : ∃ answer, evaluateFlagOnly deps input flag experimentId = .ok answer ∧
      answer.rolledOut = some (target, rollout.percentage) := by
    rw [evaluateFlagOnly, firstMatch_none hnone]
    change ∃ answer, unmatchedResult deps input flag experimentId = .ok answer ∧ _
    rw [unmatchedResult, hrollout]
    dsimp only
    rw [htarget]
    exact ⟨_, rfl, rfl⟩
  obtain ⟨answer, hanswer, hrolledOut⟩ := hanswer
  rw [evaluatePath_flagOnly hflag henabled hreads hanswer]
  exact hrolledOut

end

/-- **Ramping a rollout** from one percentage to a higher one leaves every entity its Variant, or
moves it from the Default Variant to the target of the rollout; and wherever a rollout decides, it
gives the Default Variant at zero percent and its target at one hundred. -/
theorem rollout_ramp (deps deps' : EvaluatePathDeps) (input : EvaluatePathInput)
    (percentage₁ percentage₂ : Rat) (defaultVariant : String) (isTarget : String → Prop)
    (hramped : RampedDeps percentage₁ percentage₂ input deps deps' defaultVariant isTarget)
    (hle : percentage₁ ≤ percentage₂) :
    Ramps defaultVariant isTarget (evaluatePath deps input) (evaluatePath deps' input) ∧
      EndsOk defaultVariant (evaluatePath deps input) ∧
      EndsOk defaultVariant (evaluatePath deps' input) := by
  refine ⟨evaluatePath_ramp hle hramped, ?_⟩
  cases hramped with
  | flag hflag hflag' hramped =>
    refine ⟨endsOk_evaluatePath hflag, ?_⟩
    rw [← (hramped.reads none).2.2.1]
    exact endsOk_evaluatePath hflag'
  | run hflag => exact ⟨endsOk_evaluatePath hflag, endsOk_evaluatePath hflag⟩

/-- A Flag with a baseline rollout. -/
def rolledFlag (percentage : Rat) : FlagConfig where
  flagKey := "new-checkout"
  appId := "app_1"
  environmentId := "env_1"
  experimentId := none
  enabled := true
  defaultVariant := "off"
  variants := [⟨"variant_off", "off"⟩, ⟨"variant_on", "on"⟩]
  availableVariantNames := []
  targetingRules := []
  rollout := some ⟨percentage, "salt"⟩

def rolledDeps (percentage : Rat) : EvaluatePathDeps where
  hash := hashToUnitInterval
  regExp := fun _ _ => none
  getFlag := fun _ _ _ => .ok (rolledFlag percentage)
  getExperiment := fun _ _ _ => .error (.providerError "Not found" "EXPERIMENT_NOT_FOUND" .error)
  getAll := fun _ _ _ => .ok fun _ => none

def anyInput : EvaluatePathInput where
  appId := "app_1"
  environmentId := "env_1"
  flagKey := "new-checkout"
  evaluationContext := { targetingKey := "user-1", idType := "user", attributes := [] }

theorem rollout_ramp_baseline :
    Ramps "off" (fun target => baselineTarget (rolledFlag 10) = .ok target)
        (evaluatePath (rolledDeps 10) anyInput) (evaluatePath (rolledDeps 50) anyInput) ∧
      EndsOk "off" (evaluatePath (rolledDeps 10) anyInput) ∧
      EndsOk "off" (evaluatePath (rolledDeps 50) anyInput) :=
  rollout_ramp (rolledDeps 10) (rolledDeps 50) anyInput 10 50 "off" _
    (RampedDeps.flag rfl rfl (.baseline (rolledFlag 10) "salt")) (by norm_num)

end Evaluator

end Splitch
