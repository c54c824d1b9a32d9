/-
# Rollouts under the same salts

Two configurations of a Flag that differ in the percentages of any of their rollouts, and in nothing else,
run side by side on one context.  What is to be shown is that an Entity which changes its Variant does so in
the direction in which the percentage has changed, and not because it was hashed anew.

The evaluation compares one hash with one percentage, at one place.  Which place that is does not depend on
the percentages: rules are matched by Conditions, in the order of their priorities, and a rule that matches
decides even where its rollout leaves the Entity out.  So the two runs come to the same rule, or to the
baseline, and there the same key is hashed under the same salt.  The hash lies below both percentages, above
both, or in between (`rolloutVariant_bands`), and only in the last case do the results differ.

This is lifted through the evaluation by relating two results (`Bands`): they are the same, or a rollout
decided, at two percentages, and the Variant moved between its target and the Default Variant in the
direction of the change.  The relation is reflexive, so all branches that do not look at a rollout are
related for free (`evaluatePath_bands`).
-/
import Splitch.Evaluator.RolloutRamp

namespace Splitch

namespace Evaluator

open Agreement

/-! ## 1. The same salts -/

def SameSalt (rollout rollout' : PercentageRollout) : Prop := rollout'.salt = rollout.salt

/-- The same rule, but for the percentage of its rollout. -/
structure SameRule (rule rule' : ResolvedTargetingRule) : Prop where
  id : rule'.id = rule.id
  priority : rule'.priority = rule.priority
  conditions : rule'.conditions = rule.conditions
  variantId : rule'.variantId = rule.variantId
  rollout : Option.Rel SameSalt rule.percentageRollout rule'.percentageRollout

/-- The same Flag, but for the percentages of its rollouts. -/
structure SameSalts (flag flag' : FlagConfig) : Prop where
  flagKey : flag'.flagKey = flag.flagKey
  appId : flag'.appId = flag.appId
  environmentId : flag'.environmentId = flag.environmentId
  experimentId : flag'.experimentId = flag.experimentId
  enabled : flag'.enabled = flag.enabled
  defaultVariant : flag'.defaultVariant = flag.defaultVariant
  variants : flag'.variants = flag.variants
  availableVariantNames : flag'.availableVariantNames = flag.availableVariantNames
  rules : List.Forall₂ SameRule flag.targetingRules flag'.targetingRules
  rollout : Option.Rel SameSalt flag.rollout flag'.rollout

theorem SameSalts.names {flag flag' : FlagConfig} (h : SameSalts flag flag') (run : Option RunConfig) :
    SameNames flag flag' run run :=
  ⟨h.variants, h.defaultVariant, rfl⟩

/-! ## 2. Results side by side -/

/-- The Default Variant and the target, in the direction of the percentages. -/
def Shifts (defaultVariant target : String) (percentage percentage' : Rat)
    (variant variant' : Option String) : Prop :=
  percentage < percentage' ∧ variant = some defaultVariant ∧ variant' = some target ∨
    percentage' < percentage ∧ variant = some target ∧ variant' = some defaultVariant

/-- The rule that a result names. -/
def EvaluateResult.ruleId (result : EvaluateResult) : Option String :=
  match result.reason with
  | .rule_matched ruleId _ _ _ => some ruleId
  | _ => none

/-- **The same Variant, or a shift** by the rollout that has decided both. -/
structure Bands (defaultVariant : String) (result result' : EvaluateResult) : Prop where
  kind : result'.kind = result.kind
  ruleId : result'.ruleId = result.ruleId
  variant : result'.variant = result.variant ∨ ∃ target percentage percentage',
    result.rolledOut = some (target, percentage) ∧ result'.rolledOut = some (target, percentage') ∧
      Shifts defaultVariant target percentage percentage' result.variant result'.variant

theorem Bands.refl {defaultVariant : String} (result : EvaluateResult) :
    Bands defaultVariant result result := ⟨rfl, rfl, .inl rfl⟩

section

variable {deps : EvaluatePathDeps} {input : EvaluatePathInput} {flag flag' : FlagConfig}
  {experimentId : Option String} {run : Option RunConfig} {rule rule' : ResolvedTargetingRule}
  {rollout rollout' : PercentageRollout}

/-- **One rollout at two percentages.** The point of an entity is that of the salt and its key and
does not move, so the greater percentage takes in all that the smaller one does. -/
theorem rolloutVariant_bands (target : String) (h : SameSalt rollout rollout') :
    rolloutVariant deps input flag target rollout' = rolloutVariant deps input flag target rollout ∨
      Shifts flag.defaultVariant target rollout.percentage rollout'.percentage
        (some (rolloutVariant deps input flag target rollout))
        (some (rolloutVariant deps input flag target rollout')) := by
  obtain ⟨percentage, salt⟩ := rollout
  obtain ⟨percentage', salt'⟩ := rollout'
  cases (h : salt' = salt)
  rcases lt_trichotomy percentage percentage' with hlt | rfl | hlt
  · rcases rolloutVariant_ramp deps input flag target salt hlt.le with hsame | ⟨hdefault, htarget⟩
    · exact .inl hsame.symm
    · exact .inr (.inl ⟨hlt, congrArg some hdefault, congrArg some htarget⟩)
  · exact .inl rfl
  · rcases rolloutVariant_ramp deps input flag target salt hlt.le with hsame | ⟨hdefault, htarget⟩
    · exact .inl hsame
    · exact .inr (.inr ⟨hlt, congrArg some htarget, congrArg some hdefault⟩)

theorem ruleResult_bands (hrule : SameRule rule rule') (directVariant : String) :
    Bands flag.defaultVariant (ruleResult deps input flag experimentId run rule directVariant)
      (ruleResult deps input flag experimentId run rule' directVariant) := by
  have hrollouts := hrule.rollout
  cases hrollout : rule.percentageRollout with
  | none =>
    rw [hrollout] at hrollouts
    generalize hrollout' : rule'.percentageRollout = found at hrollouts
    cases hrollouts
    refine ⟨?_, ?_, .inl ?_⟩
    · unfold ruleResult
      rw [hrollout, hrollout']
    · exact congrArg some hrule.id
    · rw [variant_ruleResult, variant_ruleResult, hrollout, hrollout']
  | some given =>
    rw [hrollout] at hrollouts
    generalize hrollout' : rule'.percentageRollout = found at hrollouts
    cases hrollouts with
    | some hsalt =>
      refine ⟨?_, congrArg some hrule.id, ?_⟩
      · unfold ruleResult
        rw [hrollout, hrollout']
        rfl
      · rw [variant_ruleResult, variant_ruleResult, hrollout, hrollout']
        rcases rolloutVariant_bands directVariant hsalt with hsame | hshifts
        · exact .inl (congrArg some hsame)
        · refine .inr ⟨directVariant, _, _, ?_, ?_, hshifts⟩
          · unfold EvaluateResult.rolledOut ruleResult
            rw [hrollout]
            rfl
          · unfold EvaluateResult.rolledOut ruleResult
            rw [hrollout']
            rfl

/-! ## 3. Rules side by side -/

theorem evaluateTargetingRule_bands (hrule : SameRule rule rule') :
    Agree (Option.Rel (Bands flag.defaultVariant))
      (evaluateTargetingRule deps input flag experimentId run rule)
      (evaluateTargetingRule deps input flag experimentId run rule') := by
  unfold evaluateTargetingRule
  rw [hrule.conditions, hrule.variantId]
  refine (Agree.refl (R := fun x y => x = y) (fun _ => rfl) _).bind fun matched _ heq => ?_
  subst heq
  cases matched with
  | false => exact .none
  | true =>
    rw [if_pos rfl, if_pos rfl]
    refine (Agree.refl (R := fun x y => x = y) (fun _ => rfl) _).bind fun directVariant _ heq => ?_
    subst heq
    exact .some (ruleResult_bands hrule directVariant)

theorem firstMatch_bands {rules rules' : List ResolvedTargetingRule}
    (hrules : List.Forall₂ SameRule rules rules') :
    Agree (Option.Rel (Bands flag.defaultVariant)) (firstMatch deps input flag experimentId run rules)
      (firstMatch deps input flag experimentId run rules') := by
  induction hrules with
  | nil => exact .none
  | cons hrule _ ih =>
    refine (evaluateTargetingRule_bands hrule).bind fun found found' hfound => ?_
    cases hfound with
    | none => exact ih
    | some hbands => exact .some hbands

/-- The rules stay in their order. -/
theorem sameRules_byPriority {rules rules' : List ResolvedTargetingRule}
    (hrules : List.Forall₂ SameRule rules rules') :
    List.Forall₂ SameRule (byPriority rules) (byPriority rules') :=
  Sorting.forall₂_sortBy (fun _ _ h => h.priority.symm) hrules

/-! ## 4. Evaluations side by side -/

theorem baselineTarget_congr (h : SameSalts flag flag') : baselineTarget flag' = baselineTarget flag := by
  have hcandidates : baselineCandidates flag' = baselineCandidates flag := by
    unfold baselineCandidates
    rw [h.availableVariantNames, h.variants, h.defaultVariant]
  have hunresolvable : baselineTarget.unresolvable flag' = baselineTarget.unresolvable flag := by
    funext found
    unfold baselineTarget.unresolvable
    rw [h.appId, h.environmentId, h.flagKey]
  unfold baselineTarget
  rw [hcandidates, hunresolvable]

/-- **The baseline** shifts in the direction of its percentage. -/
theorem unmatchedResult_bands (h : SameSalts flag flag') :
    Agree (Bands flag.defaultVariant) (unmatchedResult deps input flag experimentId)
      (unmatchedResult deps input flag' experimentId) := by
  have hrollouts := h.rollout
  unfold unmatchedResult
  generalize flag.rollout = rollout at hrollouts
  generalize flag'.rollout = rollout' at hrollouts
  cases hrollouts with
  | none =>
    rw [h.defaultVariant]
    exact Bands.refl _
  | some hsalt =>
    dsimp only
    rw [baselineTarget_congr h]
    refine (Agree.refl (R := fun x y => x = y) (fun _ => rfl) _).bind fun target _ heq => ?_
    subst heq
    refine ⟨rfl, rfl, ?_⟩
    have hnames := h.names none
    rw [rolloutVariant_congr hnames]
    rcases rolloutVariant_bands target hsalt with hsame | hshifts
    · exact .inl (congrArg some hsame)
    · exact .inr ⟨target, _, _, rfl, rfl, hshifts⟩

theorem evaluateFlagOnly_bands (h : SameSalts flag flag') :
    Agree (Bands flag.defaultVariant) (evaluateFlagOnly deps input flag experimentId)
      (evaluateFlagOnly deps input flag' experimentId) := by
  unfold evaluateFlagOnly
  rw [firstMatch_congr (h.names none)]
  refine (firstMatch_bands (sameRules_byPriority h.rules)).bind fun found found' hfound => ?_
  cases hfound with
  | none => exact unmatchedResult_bands h
  | some hbands => exact hbands

theorem evaluateFlag_bands (h : SameSalts flag flag') :
    Agree (Bands flag.defaultVariant) (evaluateFlag deps input flag)
      (evaluateFlag deps input flag') := by
  unfold evaluateFlag
  rw [h.enabled, h.experimentId, h.defaultVariant]
  split
  · exact Bands.refl _
  split
  · exact evaluateFlagOnly_bands h
  · refine (Agree.refl (R := fun x y => x = y) (fun _ => rfl) _).bind fun experiment _ heq => ?_
    subst heq
    unfold evaluateBound
    split
    · rfl
    refine (Agree.refl (R := fun x y => x = y) (fun _ => rfl) _).bind fun held _ heq => ?_
    subst heq
    cases held with
    | some holdover => exact Bands.refl _
    | none =>
      cases experiment.liveRun with
      | none => exact evaluateFlagOnly_bands h
      | some live =>
        dsimp only
        rw [evaluateLiveRun_congr (h.names none)]
        exact Agree.refl Bands.refl _

/-- What an evaluation reads, with the Flag in one configuration. -/
def EvaluatePathDeps.withFlag (deps : EvaluatePathDeps) (flag : FlagConfig) : EvaluatePathDeps :=
  { deps with getFlag := fun _ _ _ => .ok flag }

theorem evaluatePath_withFlag (deps : EvaluatePathDeps) (flag : FlagConfig) (input : EvaluatePathInput) :
    evaluatePath (deps.withFlag flag) input =
      settle (some flag.defaultVariant) (evaluateFlag deps input flag) := by
  have hdeps : evaluateFlag (deps.withFlag flag) input flag = evaluateFlag deps input flag :=
    evaluateFlag_deps ⟨rfl, rfl⟩ rfl rfl
  rw [← hdeps]
  rfl

/-- **Two configurations under the same salts**, for every context. Rules are reached in the same
order and match alike, since the two differ in percentages alone; so both evaluations throw the same,
or decide by one rollout. -/
theorem evaluatePath_bands (deps : EvaluatePathDeps) (input : EvaluatePathInput)
    (h : SameSalts flag flag') :
    Bands flag.defaultVariant (evaluatePath (deps.withFlag flag) input)
      (evaluatePath (deps.withFlag flag') input) := by
  rw [evaluatePath_withFlag, evaluatePath_withFlag, h.defaultVariant]
  have hagree : Agree (Bands flag.defaultVariant) (evaluateFlag deps input flag)
      (evaluateFlag deps input flag') := evaluateFlag_bands h
  generalize evaluateFlag deps input flag = x at hagree
  generalize evaluateFlag deps input flag' = y at hagree
  cases x with
  | error thrown =>
    cases y with
    | error thrown' =>
      cases (hagree : thrown = thrown')
      exact Bands.refl _
    | ok result' => cases (hagree : False)
  | ok result =>
    cases y with
    | error thrown' => cases (hagree : False)
    | ok result' => exact hagree

end

end Evaluator

end Splitch
