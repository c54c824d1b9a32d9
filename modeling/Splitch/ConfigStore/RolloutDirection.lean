/-
# No Entity moves against a percentage

Here the two halves meet: what the writes of a Flag do to its salts (`RolloutRuns`), and what the evaluation
does under the same salts at other percentages (`Evaluator.RolloutBands`).  Between them stands the
Configuration as the evaluation reads it (`targeting-rule-resolution.ts`, and `resolve.ts` of the Evaluation
API): the rules with the Conditions of their Segments, and the baseline as it is.

Writes of percentages are writes that leave the SHAPE of a Configuration, all of it but percentages and
salts.  Where the shape stays and no salt changes, two Configurations differ in percentages alone
(`salts_of_shape`), and are published so (`sameSalts_of_salts`).  The evaluation then compares one hash with
two bounds, and an Entity that changes sides does so in the direction of the change.

The claim of the whole is one structure, `NeverReshuffled`: the salt of a baseline stays, that of a rule
stays, a caller states none but stored ones, every salt was there or has been minted, and an Entity moves
in one direction only.  It holds of every run whose steps are timely (`rollouts_never_reshuffled`).  Without
that it does not hold: a baseline that is set between a preview and the creation of its Request loses its
salt when the Request is applied (`rollouts_reshuffled`).
-/
import Splitch.ConfigStore.RolloutRuns
import Splitch.Evaluator.RolloutBands

namespace Splitch

namespace FlagWrites

open Evaluator (Condition PercentageRollout Variant EvaluatePathDeps EvaluatePathInput)

/-! ## 1. Configurations without their percentages -/

/-- A Configuration with `S` in place of its rollouts. -/
structure FlagConfigView (S : Type) where
  enabled : Bool
  availableVariantNames : List String
  targetingRules : List (TargetingRuleOf S)
  rollout : Option S

def TargetingRuleOf.view {S : Type} (f : PercentageRollout → S) (rule : TargetingRule) :
    TargetingRuleOf S := rule.withRollout (rule.percentageRollout.map f)

def FlagConfigResult.view {S : Type} (f : PercentageRollout → S) (config : FlagConfigResult) :
    FlagConfigView S where
  enabled := config.enabled
  availableVariantNames := config.availableVariantNames
  targetingRules := config.targetingRules.map (TargetingRuleOf.view f)
  rollout := config.rollout.map f

/-- Without percentages and salts. -/
def FlagConfigResult.shape : FlagConfigResult → FlagConfigView Unit := FlagConfigResult.view fun _ => ⟨⟩

/-- Without percentages. -/
def FlagConfigResult.salts : FlagConfigResult → FlagConfigView String :=
  FlagConfigResult.view (·.salt)

section

variable {rules rules' : List TargetingRule} {rule rule' : TargetingRule}

theorem rollout_salts {rollout rollout' : Option PercentageRollout}
    (hshape : rollout'.map (fun _ => ()) = rollout.map fun _ => ())
    (hsalt : ∀ old ∈ rollout, ∀ new ∈ rollout', new.salt = old.salt) :
    rollout'.map (·.salt) = rollout.map (·.salt) := by
  cases rollout with
  | none =>
    cases rollout' with
    | none => rfl
    | some new => cases hshape
  | some old =>
    cases rollout' with
    | none => cases hshape
    | some new => exact congrArg some (hsalt old rfl new rfl)

theorem rule_salts (hshape : rule'.view (fun _ => ()) = rule.view fun _ => ())
    (hsalt : ∀ old ∈ rule.percentageRollout, ∀ new ∈ rule'.percentageRollout, new.salt = old.salt) :
    rule'.view (·.salt) = rule.view (·.salt) := by
  cases rule
  cases rule'
  obtain ⟨rfl, rfl, rfl, rfl, rfl, rfl, hrollout⟩ := TargetingRuleOf.mk.inj hshape
  exact congrArg (TargetingRuleOf.mk _ _ _ _ _ _) (rollout_salts hrollout hsalt)

theorem rules_salts
    (hshape : rules'.map (TargetingRuleOf.view fun _ => ()) = rules.map (TargetingRuleOf.view fun _ => ()))
    (hsalt : ∀ rule ∈ rules, ∀ rule' ∈ rules', rule'.id = rule.id →
      ∀ old ∈ rule.percentageRollout, ∀ new ∈ rule'.percentageRollout, new.salt = old.salt) :
    rules'.map (TargetingRuleOf.view (·.salt)) = rules.map (TargetingRuleOf.view (·.salt)) := by
  induction rules generalizing rules' with
  | nil => rw [List.map_eq_nil_iff.mp hshape]
  | cons rule rules ih =>
    cases rules' with
    | nil => cases hshape
    | cons rule' rules' =>
      obtain ⟨hhead, htail⟩ := List.cons_eq_cons.mp hshape
      have hid := congrArg TargetingRuleOf.id hhead
      have hrest := ih htail fun other hother other' hother' =>
        hsalt other (List.mem_cons_of_mem _ hother) other' (List.mem_cons_of_mem _ hother')
      rw [List.map_cons, List.map_cons, hrest, rule_salts hhead]
      exact hsalt rule List.mem_cons_self rule' List.mem_cons_self hid

theorem flagConfigView_eq {S : Type} {view view' : FlagConfigView S} (henabled : view'.enabled = view.enabled)
    (havailable : view'.availableVariantNames = view.availableVariantNames)
    (hrules : view'.targetingRules = view.targetingRules) (hrollout : view'.rollout = view.rollout) :
    view' = view := by
  cases view
  cases view'
  cases henabled
  cases havailable
  cases hrules
  cases hrollout
  rfl

/-- **The salts stay** where the shape does, and those of the baseline and of each id do. The shape
keeps the ids in their places and tells which rules have a rollout at all, so the salts by id are the
salts by place. -/
theorem salts_of_shape {row row' : FlagConfigRow} (hshape : row'.shape = row.shape)
    (hbaseline : KeepsBaseline row.toFlagConfigResult row'.toFlagConfigResult)
    (hrules : KeepsRules row.toFlagConfigResult row'.toFlagConfigResult ∨
      row'.salts.targetingRules = row.salts.targetingRules) :
    row'.salts = row.salts := by
  have hlist : row'.salts.targetingRules = row.salts.targetingRules := by
    refine hrules.elim (fun hkeeps => ?_) id
    refine rules_salts (congrArg FlagConfigView.targetingRules hshape) ?_
    intro rule hrule rule' hrule' hid old hold new hnew
    refine hkeeps rule.id old.salt new.salt ?_ ?_
    · rw [persistedSalt_of_mem row.unique hrule, hold]
      rfl
    · rw [← hid, persistedSalt_of_mem row'.unique hrule', hnew]
      rfl
  have hrollout : row'.salts.rollout = row.salts.rollout :=
    rollout_salts (congrArg FlagConfigView.rollout hshape) hbaseline
  have henabled := congrArg FlagConfigView.enabled hshape
  have havailable := congrArg FlagConfigView.availableVariantNames hshape
  exact flagConfigView_eq henabled havailable hlist hrollout

end

/-! ## 2. What the evaluation reads -/

/-- What is published with a Configuration. -/
structure Publication where
  appId : String
  environmentId : String
  flagKey : String
  experimentId : Option String
  variants : List Variant
  defaultVariantId : String
  segments : String → Option (List Condition)

def segmentConditionsOf (segments : String → Option (List Condition)) :
    Option String → Except WriteFailure (List Condition)
  | none => return []
  | some segmentId => match segments segmentId with
    | none => throw (.SEGMENT_NOT_FOUND [segmentId])
    | some conditions => return conditions

/-- The Conditions of the Segment stand behind those of the rule. -/
def resolveTargetingRule (segments : String → Option (List Condition)) (rule : TargetingRule) :
    Except WriteFailure Evaluator.ResolvedTargetingRule := do
  let segmentConditions ← segmentConditionsOf segments rule.segmentId
  let conditions := rule.conditions ++ segmentConditions
  if conditions = [] then throw (.thrown "ResolvedTargetingRule")
  else return ⟨rule.id, rule.priority, conditions, rule.variantId, rule.percentageRollout⟩

def flagConfigFromKV (publication : Publication) (config : FlagConfigResult) :
    Except WriteFailure Evaluator.FlagConfig := do
  let targetingRules ← config.targetingRules.mapM (resolveTargetingRule publication.segments)
  match publication.variants.find? (·.id = publication.defaultVariantId) with
  | none => throw (.thrown ("FlagConfig " ++ publication.appId ++ "/" ++ publication.environmentId ++
      "/" ++ publication.flagKey ++ ": defaultVariantId \"" ++ publication.defaultVariantId ++
      "\" names no Variant in the catalog"))
  | some defaultVariant => return {
      flagKey := publication.flagKey
      appId := publication.appId
      environmentId := publication.environmentId
      experimentId := publication.experimentId
      enabled := config.enabled
      defaultVariant := defaultVariant.name
      variants := publication.variants
      availableVariantNames := config.availableVariantNames
      targetingRules
      rollout := config.rollout }

section

variable {publication : Publication} {config config' : FlagConfigResult}
  {flag flag' : Evaluator.FlagConfig}

theorem rel_of_map_salt {rollout rollout' : Option PercentageRollout}
    (h : rollout'.map (·.salt) = rollout.map (·.salt)) :
    Option.Rel Evaluator.SameSalt rollout rollout' := by
  cases rollout with
  | none =>
    cases rollout' with
    | none => exact .none
    | some new => cases h
  | some old =>
    cases rollout' with
    | none => cases h
    | some new => exact .some (Option.some.inj h)

theorem sameRule_of_view {segments : String → Option (List Condition)} {rule rule' : TargetingRule}
    {resolved resolved' : Evaluator.ResolvedTargetingRule}
    (hview : rule'.view (·.salt) = rule.view (·.salt))
    (h : resolveTargetingRule segments rule = .ok resolved)
    (h' : resolveTargetingRule segments rule' = .ok resolved') :
    Evaluator.SameRule resolved resolved' := by
  cases rule
  cases rule'
  obtain ⟨rfl, rfl, rfl, rfl, rfl, rfl, hrollout⟩ := TargetingRuleOf.mk.inj hview
  unfold resolveTargetingRule at h h'
  obtain ⟨conditions, hfound, h⟩ := Checks.bind_eq_ok.mp h
  obtain ⟨conditions', hfound', h'⟩ := Checks.bind_eq_ok.mp h'
  cases hfound.symm.trans hfound'
  dsimp only at h h'
  split at h
  · cases h
  next hne =>
  rw [if_neg hne] at h'
  cases Checks.pure_eq_ok.mp h
  cases Checks.pure_eq_ok.mp h'
  exact ⟨rfl, rfl, rfl, rfl, rel_of_map_salt hrollout⟩

theorem sameRules_of_view {segments : String → Option (List Condition)}
    {rules rules' : List TargetingRule} {resolved resolved' : List Evaluator.ResolvedTargetingRule}
    (hview : rules'.map (TargetingRuleOf.view (·.salt)) = rules.map (TargetingRuleOf.view (·.salt)))
    (h : rules.mapM (resolveTargetingRule segments) = .ok resolved)
    (h' : rules'.mapM (resolveTargetingRule segments) = .ok resolved') :
    List.Forall₂ Evaluator.SameRule resolved resolved' := by
  induction rules generalizing rules' resolved resolved' with
  | nil =>
    cases List.map_eq_nil_iff.mp hview
    cases h
    cases h'
    exact .nil
  | cons rule rules ih =>
    cases rules' with
    | nil => cases hview
    | cons rule' rules' =>
      obtain ⟨hhead, htail⟩ := List.cons_eq_cons.mp hview
      obtain ⟨first, rest, hfirst, hrest, rfl⟩ := Checks.mapM_cons_eq_ok.mp h
      obtain ⟨first', rest', hfirst', hrest', rfl⟩ := Checks.mapM_cons_eq_ok.mp h'
      exact .cons (sameRule_of_view hhead hfirst hfirst') (ih htail hrest hrest')

/-- Configurations under the same salts are published under the same salts. -/
theorem sameSalts_of_salts (hsalts : config'.salts = config.salts)
    (h : flagConfigFromKV publication config = .ok flag)
    (h' : flagConfigFromKV publication config' = .ok flag') : Evaluator.SameSalts flag flag' := by
  unfold flagConfigFromKV at h h'
  obtain ⟨resolved, hresolved, h⟩ := Checks.bind_eq_ok.mp h
  obtain ⟨resolved', hresolved', h'⟩ := Checks.bind_eq_ok.mp h'
  cases hdefault : publication.variants.find? (·.id = publication.defaultVariantId) with
  | none =>
    rw [hdefault] at h
    cases h
  | some defaultVariant =>
    rw [hdefault] at h h'
    cases Checks.pure_eq_ok.mp h
    cases Checks.pure_eq_ok.mp h'
    have henabled := congrArg FlagConfigView.enabled hsalts
    have havailable := congrArg FlagConfigView.availableVariantNames hsalts
    have hrules := congrArg FlagConfigView.targetingRules hsalts
    have hrollout := congrArg FlagConfigView.rollout hsalts
    exact ⟨rfl, rfl, rfl, rfl, henabled, rfl, rfl, havailable,
      sameRules_of_view hrules hresolved hresolved', rel_of_map_salt hrollout⟩

end

/-! ## 3. Writes of percentages -/

/-- The write changes no more of the Environment's Configuration than percentages.  A Promotion that moves
the rules brings their salts with it, and these must be the same. -/
def PercentagesOnly (environmentId : String) (world : FlagWorld) (write : FlagWrite) : Prop :=
  ∀ row row', world.configs environmentId = some row →
    (flagStep world write).2.configs environmentId = some row' →
      row'.shape = row.shape ∧ (MovesRules environmentId world write →
        row'.salts.targetingRules = row.salts.targetingRules)

/-- **Writes of percentages** keep the salts. They keep the shape, and the salts by id are kept by
every timely write; only a write that moves rules onto another Environment is asked to keep them by
itself. -/
theorem salts_stay {configs : FlagConfigs} {environmentId : String} {world : FlagWorld}
    (hsound : Sound world) {row : FlagConfigRow} (hrow : world.configs environmentId = some row)
    {writes : List FlagWrite} (htimely : (flagWrites configs).Guarded Timely world writes)
    (honly : (flagWrites configs).Guarded (PercentagesOnly environmentId) world writes) :
    ∃ row', ((flagWrites configs).exec world writes).configs environmentId = some row' ∧
      row'.salts = row.salts := by
  refine row_exec (P := fun row' => row'.salts = row.salts)
    (fun world write found row' hguard hfound hrow' hbaseline hrules hsalts => ?_) hsound hrow rfl htimely
    honly
  obtain ⟨hshape, hmoved⟩ := hguard found row' hfound hrow'
  refine (salts_of_shape hshape hbaseline ?_).trans hsalts
  by_cases hmoves : MovesRules environmentId world write
  · exact .inr (hmoved hmoves)
  · exact .inl (hrules hmoves)

/-! ## 4. Any sequence of writes -/

/-- **Rollouts are never reshuffled** by writes that meet the condition. -/
structure NeverReshuffled (Meets : FlagWorld → FlagWrite → Prop) (configs : FlagConfigs) : Prop where
  /-- The salt of a baseline that stays. -/
  baseline : ∀ (earlier later : List FlagWrite) (environmentId : String) (row row' : FlagConfigRow)
    (old new : PercentageRollout),
    ((flagWrites configs).run earlier).configs environmentId = some row → row.rollout = some old →
    (flagWrites configs).Guarded Meets ((flagWrites configs).run earlier) later →
    (flagWrites configs).Guarded (BaselineStays environmentId) ((flagWrites configs).run earlier)
      later →
    ((flagWrites configs).run (earlier ++ later)).configs environmentId = some row' →
    row'.rollout = some new → new.salt = old.salt
  /-- The salt of a rule that stays, under writes that move no rules. -/
  rules : ∀ (earlier later : List FlagWrite) (environmentId id : String) (row row' : FlagConfigRow)
    (old new : String),
    ((flagWrites configs).run earlier).configs environmentId = some row →
    persistedSalt row.targetingRules id = some old →
    (flagWrites configs).Guarded Meets ((flagWrites configs).run earlier) later →
    (flagWrites configs).Guarded (RuleStays environmentId id) ((flagWrites configs).run earlier)
      later →
    ((flagWrites configs).run (earlier ++ later)).configs environmentId = some row' →
    persistedSalt row'.targetingRules id = some new → new = old
  /-- The salts that a caller may state, written at once or proposed. -/
  caller : ∀ (earlier : List FlagWrite) (operation : Operation) (current : FlagConfigResult)
    (surroundings : Surroundings) (write : FlagWrite),
    write ∈ [.write operation surroundings, .preview operation current surroundings] →
    (flagStep ((flagWrites configs).run earlier) write).1 = .ok ⟨⟩ →
    ∀ rule ∈ operation.callerRules, ∀ salt ∈ rule.percentageRollout.bind (·.salt),
      ∃ row, ((flagWrites configs).run earlier).configs operation.environmentId = some row ∧
        persistedSalt row.targetingRules rule.id = some salt
  /-- Every salt of a rule was there at the start, or has been minted for a rule of its id. -/
  minted : ∀ (writes : List FlagWrite) (environmentId id salt : String) (row : FlagConfigRow),
    ((flagWrites configs).run writes).configs environmentId = some row →
    HoldsSalt row.toFlagConfigResult id salt →
    (∃ environmentId row, configs environmentId = some row ∧
      HoldsSalt row.toFlagConfigResult id salt) ∨ ∃ write ∈ writes, write.Mints id salt
  /-- Writes of percentages move an Entity in the direction of the change. -/
  direction : ∀ (earlier later : List FlagWrite) (environmentId : String) (row row' : FlagConfigRow)
    (publication : Publication) (flag flag' : Evaluator.FlagConfig) (deps : EvaluatePathDeps)
    (input : EvaluatePathInput),
    ((flagWrites configs).run earlier).configs environmentId = some row →
    (flagWrites configs).Guarded Meets ((flagWrites configs).run earlier) later →
    (flagWrites configs).Guarded (PercentagesOnly environmentId) ((flagWrites configs).run earlier)
      later →
    ((flagWrites configs).run (earlier ++ later)).configs environmentId = some row' →
    flagConfigFromKV publication row.toFlagConfigResult = .ok flag →
    flagConfigFromKV publication row'.toFlagConfigResult = .ok flag' →
    Evaluator.Bands flag.defaultVariant (Evaluator.evaluatePath (deps.withFlag flag) input)
      (Evaluator.evaluatePath (deps.withFlag flag') input)

/-- What is accepted states no salt but stored ones. -/
theorem stored_of_written {surroundings : Surroundings} {configs : FlagConfigs} {operation : Operation}
    {current : FlagConfigRow} {result : FlagConfigResult}
    (h : Written surroundings configs operation current result) :
    ∀ rule ∈ operation.callerRules, ∀ salt ∈ rule.percentageRollout.bind (·.salt),
      ∃ row, configs operation.environmentId = some row ∧
        persistedSalt row.targetingRules rule.id = some salt := by
  intro rule hrule salt hsalt
  refine ⟨current, h.found, ?_⟩
  cases h with
  | update | promote | nothing => cases hrule
  | replace _ hrules =>
    exact (normalizeTargetingRuleRollouts_eq_ok (normalizedRules_eq_ok hrules)).1 rule hrule salt hsalt
  | conclude _ hrules =>
    have hnormalized := normalizedWinnerRules_eq_ok hrules
    exact (normalizeTargetingRuleRollouts_eq_ok hnormalized).1 rule hrule salt hsalt

theorem rollouts_never_reshuffled (configs : FlagConfigs) : NeverReshuffled Timely configs := by
  constructor
  case baseline =>
    intro earlier later environmentId row row' old new hrow hold htimely hstays hrow' hnew
    obtain ⟨found, kept, hfound, hkept, hsalt⟩ :=
      baseline_salt_stays (sound_run earlier) hrow hold htimely hstays
    rw [Machine.run_append, hfound] at hrow'
    cases hrow'
    rw [← hsalt, Option.some.inj (hnew.symm.trans hkept)]
  case rules =>
    intro earlier later environmentId id row row' old new hrow hold htimely hstays hrow' hnew
    obtain ⟨found, hfound, hkept⟩ := rule_salt_stays (sound_run earlier) hrow hold htimely hstays
    rw [Machine.run_append, hfound] at hrow'
    cases hrow'
    exact Option.some.inj (hnew.symm.trans hkept)
  case caller =>
    intro earlier operation current surroundings write hwrite haccepted
    rcases List.mem_pair.mp hwrite with rfl | rfl
    · cases hrow : writeOperation surroundings ((flagWrites configs).run earlier).configs operation with
      | error failure =>
        rw [flagStep, hrow] at haccepted
        cases haccepted
      | ok row =>
        obtain ⟨found, hwritten, -⟩ := write_written hrow
        exact stored_of_written hwritten
    · cases hpreview : previewOperation surroundings ((flagWrites configs).run earlier).configs
        operation with
      | error failure =>
        rw [flagStep, hpreview] at haccepted
        cases haccepted
      | ok found => exact stored_of_written (preview_written hpreview)
  case minted =>
    intro writes environmentId id salt row hrow hholds
    exact salts_minted writes (.inl ⟨environmentId, row, hrow, hholds⟩)
  case direction =>
    intro earlier later environmentId row row' publication flag flag' deps input hrow htimely honly
      hrow' h h'
    obtain ⟨found, hfound, hsalts⟩ := salts_stay (sound_run earlier) hrow htimely honly
    rw [Machine.run_append, hfound] at hrow'
    cases hrow'
    exact Evaluator.evaluatePath_bands deps input (sameSalts_of_salts hsalts h h')

/-! ## 5. A baseline that is set behind a preview

Two updates of a Flag that has no baseline, each with its own Review.  Both are previewed, and each mints a
salt.  The second is created, checked and applied; then the first is.  Its Request records the version that
the second has left, so its Review finds nothing changed, and the application writes the salt that the first
has minted over the one that stands. -/

def unrolledRow : FlagConfigRow := ⟨⟨1, true, [], [], none⟩, List.nodup_nil⟩

def unrolledConfigs : FlagConfigs := Function.update (fun _ => none) "env_production" (some unrolledRow)

def twoVariants (freshSalt : String) : Surroundings where
  variants := [⟨"variant_off", "off"⟩, ⟨"variant_on", "on"⟩]
  defaultVariantId := "variant_off"
  segmentIds := []
  frozen := none
  unwritable := none
  refused := none
  freshSalt := freshSalt
  freshRuleSalt := fun _ => freshSalt

def rollOut (percentage : Rat) : Operation :=
  .flag_config_update ⟨"env_production", none, none, some (some percentage)⟩

def secondApplied : List FlagWrite :=
  [.preview (rollOut 10) unrolledRow.toFlagConfigResult (twoVariants "5f1d0c9e2b7a4836"),
    .preview (rollOut 20) unrolledRow.toFlagConfigResult (twoVariants "c04e93a1d85b6f27"),
    .create 1 (twoVariants ""), .review 0 (twoVariants ""), .apply 0 (twoVariants "")]

def thenTheFirst : List FlagWrite :=
  [.create 0 (twoVariants ""), .review 1 (twoVariants ""), .apply 1 (twoVariants "")]

def baselineAt (world : FlagWorld) : Option PercentageRollout :=
  (world.configs "env_production").bind (·.rollout)

theorem baselineAt_of_isSome {world : FlagWorld} {write : FlagWrite}
    (h : (baselineAt (flagStep world write).2).isSome = true) :
    BaselineStays "env_production" world write := by
  intro row hrow hnone
  unfold baselineAt at h
  rw [hrow, Option.bind_some, hnone] at h
  cases h

/-- **The salt of a baseline that stays does change** where nothing is asked of the writes. -/
theorem rollouts_reshuffled : ¬ NeverReshuffled (fun _ _ => True) unrolledConfigs := by
  intro h
  have hold : baselineAt ((flagWrites unrolledConfigs).run secondApplied) =
      some ⟨20, "c04e93a1d85b6f27"⟩ := by decide +kernel
  have hnew : baselineAt ((flagWrites unrolledConfigs).run
      (secondApplied ++ thenTheFirst)) = some ⟨10, "5f1d0c9e2b7a4836"⟩ := by
    decide +kernel
  have hstays : (flagWrites unrolledConfigs).Guarded
      (fun world write => (baselineAt (flagStep world write).2).isSome = true)
      ((flagWrites unrolledConfigs).run secondApplied) thenTheFirst := by
    decide +kernel
  obtain ⟨row, hrow, hold⟩ := Option.bind_eq_some_iff.mp hold
  obtain ⟨row', hrow', hnew⟩ := Option.bind_eq_some_iff.mp hnew
  have hsalt := h.baseline secondApplied thenTheFirst "env_production" row row' _ _ hrow
    hold ⟨trivial, trivial, trivial, trivial⟩
    (hstays.mono _ fun _ _ => baselineAt_of_isSome) hrow' hnew
  exact absurd hsalt (by decide)

end FlagWrites

end Splitch
