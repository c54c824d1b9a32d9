/-
# Exposures of an evaluation

An evaluation exposes the Entity just where a live Run decides for it.  The evaluation of a Flag
without its Run never exposes (`unexposed_evaluateFlagOnly`), and that of a live Run always does, with
the Variant that it answers with (`exposes_evaluateLiveRun`); every other branch answers without an
exposure or fails (`evaluatePath_cases`).

What an exposure names can then be compared with what was read.  The Run is live and belongs to the
Experiment, and one Run decides at most (`Decides.unique`).  A held assignment comes first: where the
Assignment Store holds a Variant of the Run for the Entity, the evaluation answers with it, whatever the rules
and shares say (`evaluatePath_of_bound`).

The second half is about orders.  Rules are sorted by priority before they are matched, so rules of distinct
priorities may be listed in any order (`ReorderedRules.byPriority`).  The arms of an allocation are walked in
the order of their names, so the order of its keys is of no account either.  All of this is one result
(`exposure_consistent`).
-/
import Splitch.Library.Agreement
import Splitch.Evaluator.Evaluate

namespace Splitch

namespace Evaluator

open Agreement

/-! ## 1. What a provider and the Assignment Store say -/

/-- The Flag is enabled and bound to the Experiment, whose Targeting Keys are of the idType. -/
structure Bound (deps : EvaluatePathDeps) (input : EvaluatePathInput) (experimentId : String)
    (experiment : ExperimentConfig) : Prop where
  enabled : ∃ flag, deps.getFlag input.appId input.environmentId input.flagKey = .ok flag ∧
    flag.enabled = true ∧ flag.experimentId = some experimentId
  found : deps.getExperiment input.appId input.environmentId experimentId = .ok experiment
  idType : input.evaluationContext.idType = experiment.targetingKeyType

/-- The entity has the assignment in the Experiment. -/
def Holds (deps : EvaluatePathDeps) (input : EvaluatePathInput) (experimentId : String)
    (entry : AssignmentStoreEntry) : Prop :=
  ∃ held, deps.getAll input.appId input.evaluationContext.idType
      input.evaluationContext.targetingKey = .ok held ∧ held experimentId = some entry

/-- A live Run decides: the Flag is bound to its Experiment, and the entity holds no assignment. -/
structure Decides (deps : EvaluatePathDeps) (input : EvaluatePathInput) (experimentId : String)
    (run : RunConfig) : Prop where
  bound : ∃ experiment, Bound deps input experimentId experiment ∧ experiment.liveRun = some run
  free : ∀ entry, ¬ Holds deps input experimentId entry

/-- One Run decides at most. -/
theorem Decides.unique {deps : EvaluatePathDeps} {input : EvaluatePathInput}
    {experimentId experimentId' : String} {run run' : RunConfig}
    (h : Decides deps input experimentId run) (h' : Decides deps input experimentId' run') :
    experimentId = experimentId' ∧ run = run' := by
  obtain ⟨experiment, ⟨⟨flag, hflag, -, hbound⟩, hfound, -⟩, hlive⟩ := h.bound
  obtain ⟨experiment', ⟨⟨flag', hflag', -, hbound'⟩, hfound', -⟩, hlive'⟩ := h'.bound
  cases hflag.symm.trans hflag'
  cases hbound.symm.trans hbound'
  cases hfound.symm.trans hfound'
  exact ⟨rfl, Option.some.inj (hlive.symm.trans hlive')⟩

/-! ## 2. The exposure of a result -/

def Unexposed (result : EvaluateResult) : Prop := result.exposure = none ∧ result.kind ≠ .error

/-- The result exposes its own Variant. -/
def ExposesAs (input : EvaluatePathInput) (experimentId runId : String) (result : EvaluateResult) :
    Prop :=
  result.kind ≠ .error ∧ result.experimentId = some experimentId ∧ result.liveRunId = some runId ∧
    ∃ variant, result.variant = some variant ∧
      result.exposure = some (exposure input experimentId runId variant)

section

variable {deps : EvaluatePathDeps} {input : EvaluatePathInput} {flag : FlagConfig}
  {result : EvaluateResult}

theorem kind_ruleResult {experimentId : Option String} {run : Option RunConfig}
    (rule : ResolvedTargetingRule) (directVariant : String) :
    (ruleResult deps input flag experimentId run rule directVariant).kind ≠ .error := by
  unfold ruleResult
  dsimp only
  split <;> nofun

theorem unexposed_firstMatch {experimentId : Option String} {rules : List ResolvedTargetingRule}
    (h : firstMatch deps input flag experimentId none rules = .ok (some result)) :
    Unexposed result := by
  obtain ⟨rule, -, directVariant, rfl⟩ := ruleResult_of_firstMatch h
  refine ⟨?_, kind_ruleResult rule directVariant⟩
  cases experimentId <;> rfl

theorem exposes_firstMatch {experimentId : String} {run : RunConfig}
    {rules : List ResolvedTargetingRule}
    (h : firstMatch deps input flag (some experimentId) (some run) rules = .ok (some result)) :
    ExposesAs input experimentId run.runId result := by
  obtain ⟨rule, -, directVariant, rfl⟩ := ruleResult_of_firstMatch h
  exact ⟨kind_ruleResult rule directVariant, rfl, rfl, _, rfl, rfl⟩

theorem unexposed_unmatchedResult {experimentId : Option String}
    (h : unmatchedResult deps input flag experimentId = .ok result) : Unexposed result := by
  unfold unmatchedResult at h
  split at h
  · cases Except.ok.inj h
    exact ⟨rfl, nofun⟩
  · cases htarget : baselineTarget flag with
    | error thrown =>
      rw [htarget] at h
      cases h
    | ok target =>
      rw [htarget] at h
      cases Except.ok.inj h
      exact ⟨rfl, nofun⟩

/-- **Without its Run**, a Flag never exposes. -/
theorem unexposed_evaluateFlagOnly {experimentId : Option String}
    (h : evaluateFlagOnly deps input flag experimentId = .ok result) : Unexposed result := by
  unfold evaluateFlagOnly at h
  cases hfirst : firstMatch deps input flag experimentId none (byPriority flag.targetingRules) with
  | error thrown =>
    rw [hfirst] at h
    cases h
  | ok found =>
    rw [hfirst] at h
    cases found with
    | none => exact unexposed_unmatchedResult h
    | some matched =>
      cases Except.ok.inj h
      exact unexposed_firstMatch hfirst

/-- **A live Run** exposes, whichever way it decides. -/
theorem exposes_evaluateLiveRun {experimentId : String} {run : RunConfig}
    (h : evaluateLiveRun deps input flag experimentId run = .ok result) :
    ExposesAs input experimentId run.runId result := by
  unfold evaluateLiveRun at h
  dsimp only at h
  split at h
  · cases Except.ok.inj h
    exact ⟨nofun, rfl, rfl, _, rfl, rfl⟩
  · cases hfirst : firstMatch deps input flag (some experimentId) (some run)
      (byPriority run.targetingRules) with
    | error thrown =>
      rw [hfirst] at h
      cases h
    | ok found =>
      rw [hfirst] at h
      cases found with
      | none =>
        cases Except.ok.inj h
        exact ⟨nofun, rfl, rfl, _, rfl, rfl⟩
      | some matched =>
        cases Except.ok.inj h
        exact exposes_firstMatch hfirst

/-! ## 3. Held assignments -/

theorem heldAssignment_of_holds {experimentId : String} {entry : AssignmentStoreEntry}
    (h : Holds deps input experimentId entry) :
    heldAssignment deps input experimentId = .ok (some entry) := by
  obtain ⟨held, hread, hentry⟩ := h
  unfold heldAssignment
  rw [hread]
  exact congrArg Except.ok hentry

theorem holds_iff_of_heldAssignment {experimentId : String} {found : Option AssignmentStoreEntry}
    (h : heldAssignment deps input experimentId = .ok found) (entry : AssignmentStoreEntry) :
    Holds deps input experimentId entry ↔ found = some entry := by
  refine ⟨fun hholds => Except.ok.inj (h.symm.trans (heldAssignment_of_holds hholds)), ?_⟩
  rintro rfl
  unfold heldAssignment at h
  split at h
  · exact ⟨_, ‹_›, Except.ok.inj h⟩
  · cases h
  · cases h

theorem evaluateBound_of_holds {experimentId : String} {experiment : ExperimentConfig}
    {entry : AssignmentStoreEntry}
    (htype : input.evaluationContext.idType = experiment.targetingKeyType)
    (h : Holds deps input experimentId entry) :
    evaluateBound deps input flag experimentId experiment = .ok (holdoverResult entry) := by
  unfold evaluateBound
  rw [if_neg (not_not_intro htype), heldAssignment_of_holds h]
  rfl

theorem evaluatePath_of_bound {experimentId : String} {experiment : ExperimentConfig}
    (h : Bound deps input experimentId experiment) :
    ∃ flag, evaluatePath deps input = settle (some flag.defaultVariant)
      (evaluateBound deps input flag experimentId experiment) := by
  obtain ⟨⟨flag, hflag, henabled, hbound⟩, hexperiment, -⟩ := h
  refine ⟨flag, ?_⟩
  unfold evaluatePath evaluateFlag
  rw [hflag]
  dsimp only
  rw [if_neg (not_not_intro henabled), hbound]
  dsimp only
  rw [hexperiment]
  rfl

/-! ## 4. The branches of an evaluation -/

theorem unexposed_errorResult (defaultVariant : Option String) (cause : EvaluationThrow) :
    (errorResult defaultVariant cause).exposure = none ∧
      (errorResult defaultVariant cause).kind = .error := by
  unfold errorResult
  exact ⟨rfl, rfl⟩

/-- What an answer of the evaluation says of the live Run. -/
def Exposure (deps : EvaluatePathDeps) (input : EvaluatePathInput) (result : EvaluateResult) :
    Prop :=
  Unexposed result ∧ (∀ experimentId run, ¬ Decides deps input experimentId run) ∨
    ∃ experimentId run, Decides deps input experimentId run ∧
      ExposesAs input experimentId run.runId result

theorem exposure_evaluateBound {experimentId : String} {experiment : ExperimentConfig}
    (hflag : deps.getFlag input.appId input.environmentId input.flagKey = .ok flag)
    (henabled : flag.enabled = true) (hbound : flag.experimentId = some experimentId)
    (hexperiment : deps.getExperiment input.appId input.environmentId experimentId =
      .ok experiment)
    (h : evaluateBound deps input flag experimentId experiment = .ok result) :
    Exposure deps input result := by
  have honly {run : RunConfig} {otherId : String} (hdecides : Decides deps input otherId run) :
      otherId = experimentId ∧ experiment.liveRun = some run := by
    obtain ⟨other, ⟨⟨flag', hflag', -, hbound'⟩, hother, -⟩, hlive⟩ := hdecides.bound
    cases hflag.symm.trans hflag'
    cases hbound.symm.trans hbound'
    cases hexperiment.symm.trans hother
    exact ⟨rfl, hlive⟩
  unfold evaluateBound at h
  split at h
  · cases h
  rename_i htype
  cases hheld : heldAssignment deps input experimentId with
  | error thrown =>
    rw [hheld] at h
    cases h
  | ok found =>
    rw [hheld] at h
    cases found with
    | some holdover =>
      cases Except.ok.inj h
      refine .inl ⟨⟨rfl, nofun⟩, fun otherId run hdecides => ?_⟩
      cases (honly hdecides).1
      exact hdecides.free holdover ((holds_iff_of_heldAssignment hheld holdover).mpr rfl)
    | none =>
      cases hlive : experiment.liveRun with
      | none =>
        rw [hlive] at h
        refine .inl ⟨unexposed_evaluateFlagOnly h, fun otherId run hdecides => ?_⟩
        cases hlive.symm.trans (honly hdecides).2
      | some run =>
        rw [hlive] at h
        refine .inr ⟨experimentId, run, ⟨⟨experiment, ⟨⟨flag, hflag, henabled, hbound⟩, hexperiment,
          not_not.mp htype⟩, hlive⟩, fun entry hholds => ?_⟩, exposes_evaluateLiveRun h⟩
        cases (holds_iff_of_heldAssignment hheld entry).mp hholds

theorem exposure_evaluateFlag
    (hflag : deps.getFlag input.appId input.environmentId input.flagKey = .ok flag)
    (h : evaluateFlag deps input flag = .ok result) : Exposure deps input result := by
  have hflags {experimentId : String} {run : RunConfig}
      (hdecides : Decides deps input experimentId run) :
      flag.enabled = true ∧ flag.experimentId = some experimentId := by
    obtain ⟨other, ⟨⟨flag', hflag', henabled, hbound⟩, -, -⟩, -⟩ := hdecides.bound
    cases hflag.symm.trans hflag'
    exact ⟨henabled, hbound⟩
  unfold evaluateFlag at h
  split at h
  · rename_i hdisabled
    cases Except.ok.inj h
    exact .inl ⟨⟨rfl, nofun⟩, fun _ _ hdecides => hdisabled (hflags hdecides).1⟩
  rename_i henabled
  cases hbound : flag.experimentId with
  | none =>
    rw [hbound] at h
    refine .inl ⟨unexposed_evaluateFlagOnly h, fun _ _ hdecides => ?_⟩
    cases hbound.symm.trans (hflags hdecides).2
  | some experimentId =>
    rw [hbound] at h
    cases hexperiment : deps.getExperiment input.appId input.environmentId experimentId with
    | error thrown =>
      simp only [hexperiment] at h
      cases h
    | ok experiment =>
      simp only [hexperiment] at h
      exact exposure_evaluateBound hflag (not_not.mp henabled) hbound hexperiment h

/-- **An evaluation** fails without an exposure, or its exposure is as the live Run has it. -/
theorem evaluatePath_cases (deps : EvaluatePathDeps) (input : EvaluatePathInput) :
    ((evaluatePath deps input).exposure = none ∧ (evaluatePath deps input).kind = .error) ∨
      Exposure deps input (evaluatePath deps input) := by
  unfold evaluatePath
  cases hflag : deps.getFlag input.appId input.environmentId input.flagKey with
  | error cause => exact .inl (unexposed_errorResult none cause)
  | ok flag =>
    dsimp only
    cases hresult : evaluateFlag deps input flag with
    | error cause => exact .inl (unexposed_errorResult _ cause)
    | ok result => exact .inr (exposure_evaluateFlag hflag hresult)

end

/-! ## 5. Orders that do not matter -/

/-- The same rules in any order; their priorities are distinct. -/
def ReorderedRules (rules rules' : List ResolvedTargetingRule) : Prop :=
  rules.Perm rules' ∧ (rules.map (·.priority)).Nodup

def ReorderedFlag (flag flag' : FlagConfig) : Prop :=
  ∃ rules, ReorderedRules flag.targetingRules rules ∧
    flag' = { flag with targetingRules := rules }

/-- The rules of a Run or the keys of its allocation in another order. -/
def ReorderedRun (run run' : RunConfig) : Prop :=
  ∃ rules allocation, ReorderedRules run.targetingRules rules ∧
    run.allocation.entries.Perm allocation.entries ∧
    run' = { run with targetingRules := rules, allocation }

def ReorderedExperiment (experiment experiment' : ExperimentConfig) : Prop :=
  experiment'.targetingKeyType = experiment.targetingKeyType ∧
    Option.Rel ReorderedRun experiment.liveRun experiment'.liveRun

/-- The same answers of the provider, up to those orders. -/
structure ReorderedDeps (deps deps' : EvaluatePathDeps) : Prop where
  hash : deps'.hash = deps.hash
  regExp : deps'.regExp = deps.regExp
  getAll : deps'.getAll = deps.getAll
  getFlag : ∀ appId environmentId flagKey, Agree ReorderedFlag
    (deps.getFlag appId environmentId flagKey) (deps'.getFlag appId environmentId flagKey)
  getExperiment : ∀ appId environmentId experimentId, Agree ReorderedExperiment
    (deps.getExperiment appId environmentId experimentId)
    (deps'.getExperiment appId environmentId experimentId)

section

variable {deps deps' : EvaluatePathDeps} {input : EvaluatePathInput} {flag flag' : FlagConfig}

theorem ReorderedRules.byPriority {rules rules' : List ResolvedTargetingRule}
    (h : ReorderedRules rules rules') : byPriority rules' = byPriority rules :=
  (Sorting.sortBy_eq_of_perm h.2 h.1).symm

theorem evaluateFlagOnly_reordered (h : ReorderedFlag flag flag') (experimentId : Option String) :
    evaluateFlagOnly deps input flag' experimentId =
      evaluateFlagOnly deps input flag experimentId := by
  obtain ⟨rules, hrules, rfl⟩ := h
  rw [evaluateFlagOnly_eq, hrules.byPriority]
  exact (evaluateFlagOnly_eq flag flag.targetingRules).symm

theorem evaluateLiveRun_reordered (h : ReorderedFlag flag flag') {run run' : RunConfig}
    (hrun : ReorderedRun run run') (experimentId : String) :
    evaluateLiveRun deps input flag' experimentId run' =
      evaluateLiveRun deps input flag experimentId run := by
  obtain ⟨flagRules, -, rfl⟩ := h
  obtain ⟨rules, allocation, hrules, hallocation, rfl⟩ := hrun
  have hnames : SameNames flag { flag with targetingRules := flagRules }
      (some run) (some { run with targetingRules := rules, allocation }) := ⟨rfl, rfl, rfl⟩
  unfold evaluateLiveRun assign
  simp only [hrules.byPriority, firstMatch_congr hnames,
    Allocation.rollout_eq_of_perm hallocation.symm]

theorem evaluateBound_reordered (h : ReorderedFlag flag flag')
    {experiment experiment' : ExperimentConfig}
    (hexperiment : ReorderedExperiment experiment experiment') (experimentId : String) :
    evaluateBound deps input flag' experimentId experiment' =
      evaluateBound deps input flag experimentId experiment := by
  obtain ⟨htype, hlive⟩ := hexperiment
  obtain ⟨targetingKeyType, liveRun⟩ := experiment
  obtain ⟨targetingKeyType', liveRun'⟩ := experiment'
  cases htype
  unfold evaluateBound
  cases hlive with
  | none => simp only [evaluateFlagOnly_reordered h]
  | some hrun =>
    simp only [evaluateLiveRun_reordered h hrun]
    rfl

theorem evaluateFlag_reordered (h : ReorderedFlag flag flag') (hdeps : ReorderedDeps deps deps') :
    evaluateFlag deps' input flag' = evaluateFlag deps input flag := by
  have hrules : SameRules deps deps' := ⟨hdeps.hash, hdeps.regExp⟩
  have hexperiment (experimentId : String) := hdeps.getExperiment input.appId input.environmentId
    experimentId
  have hreads : flag'.enabled = flag.enabled ∧ flag'.experimentId = flag.experimentId ∧
      flag'.defaultVariant = flag.defaultVariant := by
    obtain ⟨rules, -, rfl⟩ := h
    exact ⟨rfl, rfl, rfl⟩
  unfold evaluateFlag
  rw [hreads.1, hreads.2.1, hreads.2.2]
  split
  · rfl
  split
  · rw [evaluateFlagOnly_deps hrules, evaluateFlagOnly_reordered h]
  · rename_i experimentId _
    refine (Agree.eq ((hexperiment experimentId).bind fun experiment experiment' hsame => ?_)).symm
    rw [evaluateBound_deps hrules hdeps.getAll, evaluateBound_reordered h hsame]
    exact Agree.refl (fun _ => rfl) _

theorem evaluatePath_reordered (hdeps : ReorderedDeps deps deps') (input : EvaluatePathInput) :
    evaluatePath deps' input = evaluatePath deps input := by
  have hflag := hdeps.getFlag input.appId input.environmentId input.flagKey
  unfold evaluatePath
  cases hread : deps.getFlag input.appId input.environmentId input.flagKey with
  | error cause =>
    cases hread' : deps'.getFlag input.appId input.environmentId input.flagKey with
    | error cause' =>
      rw [hread, hread'] at hflag
      cases hflag
      rfl
    | ok flag' =>
      rw [hread, hread'] at hflag
      cases hflag
  | ok flag =>
    cases hread' : deps'.getFlag input.appId input.environmentId input.flagKey with
    | error cause' =>
      rw [hread, hread'] at hflag
      cases hflag
    | ok flag' =>
      rw [hread, hread'] at hflag
      dsimp only
      rw [evaluateFlag_reordered hflag hdeps]
      obtain ⟨rules, -, rfl⟩ := hflag
      rfl

/-! ## 6. Consistency -/

/-- What an exposure and a held assignment say of an evaluation. -/
structure Consistent (deps : EvaluatePathDeps) (input : EvaluatePathInput) (result : EvaluateResult) :
    Prop where
  /-- An exposure is present exactly when a live Run decides and the evaluation does not fail. -/
  exposed_iff : result.exposure ≠ none ↔
    (∃ experimentId run, Decides deps input experimentId run) ∧ result.kind ≠ .error
  /-- It names that Experiment, that Run, the entity and the Variant of the result. -/
  named : ∀ experimentId run, Decides deps input experimentId run → ∀ decision,
    result.exposure = some decision → ∃ variant, result.variant = some variant ∧
      decision = exposure input experimentId run.runId variant
  /-- A held assignment comes before rules and allocation, and does not expose. -/
  held : ∀ experimentId experiment entry, Bound deps input experimentId experiment →
    Holds deps input experimentId entry → result = holdoverResult entry ∧ result.exposure = none

theorem consistent_evaluatePath (deps : EvaluatePathDeps) (input : EvaluatePathInput) :
    Consistent deps input (evaluatePath deps input) where
  exposed_iff := by
    rcases evaluatePath_cases deps input with ⟨hnone, hkind⟩ |
      ⟨⟨hnone, -⟩, hundecided⟩ | ⟨experimentId, run, hdecides, hkind, -, -, variant, -, hexposed⟩
    · rw [hnone, hkind]
      exact iff_of_false (not_not_intro rfl) fun h => h.2 rfl
    · rw [hnone]
      exact iff_of_false (not_not_intro rfl) fun ⟨⟨experimentId, run, h⟩, _⟩ =>
        hundecided experimentId run h
    · rw [hexposed]
      exact iff_of_true (Option.some_ne_none _) ⟨⟨experimentId, run, hdecides⟩, hkind⟩
  named := by
    intro experimentId run hdecides decision hdecision
    rcases evaluatePath_cases deps input with ⟨hnone, -⟩ |
      ⟨⟨hnone, -⟩, -⟩ | ⟨experimentId', run', hdecides', -, -, -, variant, hvariant, hexposed⟩
    · cases hnone.symm.trans hdecision
    · cases hnone.symm.trans hdecision
    · obtain ⟨rfl, rfl⟩ := hdecides.unique hdecides'
      exact ⟨variant, hvariant, Option.some.inj (hdecision.symm.trans hexposed)⟩
  held := by
    intro experimentId experiment entry hbound hholds
    obtain ⟨flag, hpath⟩ := evaluatePath_of_bound hbound
    rw [hpath, evaluateBound_of_holds hbound.idType hholds]
    exact ⟨rfl, rfl⟩

end

/-- **Exposures and Variants are consistent** in every evaluation, and neither the order of rules of
distinct priorities nor the order of the keys of an allocation changes its result. -/
theorem exposure_consistent (deps : EvaluatePathDeps) (input : EvaluatePathInput) :
    Consistent deps input (evaluatePath deps input) ∧
      ∀ deps', ReorderedDeps deps deps' → evaluatePath deps' input = evaluatePath deps input :=
  ⟨consistent_evaluatePath deps input, fun _ hdeps => evaluatePath_reordered hdeps input⟩

/-- A Flag with an Experiment, whose Run has its arms in either order. -/
def boundFlag : FlagConfig where
  flagKey := "new-checkout"
  appId := "app_1"
  environmentId := "env_1"
  experimentId := some "exp_1"
  enabled := true
  defaultVariant := "control"
  variants := [⟨"variant_control", "control"⟩, ⟨"variant_treatment", "treatment"⟩]
  availableVariantNames := []
  targetingRules := []
  rollout := none

theorem nodup_armsInOrder : ([("control", 50), ("treatment", 50)].map Prod.fst).Nodup := by decide

def armsInOrder : Allocation where
  entries := [("control", 50), ("treatment", 50)]
  nodup := nodup_armsInOrder

def armsReversed : Allocation where
  entries := [("treatment", 50), ("control", 50)]
  nodup := by decide

def boundDeps (allocation : Allocation) : EvaluatePathDeps where
  hash := hashToUnitInterval
  regExp := fun _ _ => none
  getFlag := fun _ _ _ => .ok boundFlag
  getExperiment := fun _ _ _ =>
    .ok { targetingKeyType := "user", liveRun := some ⟨"run_1", "run-salt", allocation, []⟩ }
  getAll := fun _ _ _ => .ok fun _ => none

def boundInput : EvaluatePathInput where
  appId := "app_1"
  environmentId := "env_1"
  flagKey := "new-checkout"
  evaluationContext := { targetingKey := "user-1", idType := "user", attributes := [] }

theorem exposure_consistent_reversed :
    Consistent (boundDeps armsInOrder) boundInput (evaluatePath (boundDeps armsInOrder) boundInput) ∧
      evaluatePath (boundDeps armsReversed) boundInput =
        evaluatePath (boundDeps armsInOrder) boundInput := by
  obtain ⟨hconsistent, hreordered⟩ := exposure_consistent (boundDeps armsInOrder) boundInput
  refine ⟨hconsistent, hreordered _ ⟨rfl, rfl, rfl, fun _ _ _ => ?_, fun _ _ _ => ?_⟩⟩
  · exact ⟨[], ⟨.refl _, List.nodup_nil⟩, rfl⟩
  · exact ⟨rfl, .some ⟨[], armsReversed, ⟨.refl _, List.nodup_nil⟩, .swap _ _ _, rfl⟩⟩

end Evaluator

end Splitch
