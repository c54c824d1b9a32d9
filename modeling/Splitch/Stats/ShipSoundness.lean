/-
# A recommendation to ship is sound

What holds of a Run whenever the recommendation on its results is to ship, what cannot turn another
verdict into that one, and on what the verdict does not depend.

The verdict was taken apart into its links, and the combined effect into a rule on effects.  What is missing
is the way back to the ARMS: the rule works on rows that stand for arms, and a promise about arms must be
about the rows of the Run.  `Stands` says that the rows a rule combines are the classifications of exactly
the Treatment arms that it is about, and each rule is shown to work on such rows (`stands_combined`).  A
combined win then names arms that have won, as many as the rule demands (`arms_of_beneficial`), and none that
is harmful.

An arm on the harmful side may still be among them, in three ways that are part of the design: it is not
eligible, so it is undecided; the rule does not look at it, as under `primary_wins` at the other goals; or
it clears its margin with the simultaneous interval.  The result names them (`ship_recommendation_sound`),
and an example ships a Variant that harms another locked goal (`shipped_harmful_goal`).

Alarms, breaches and a closed gate are links before the effect, so adding one never leaves a verdict to
ship.  The order of rows is of no account as long as the Control rows of a Metric agree; the last example has
two that do not, and the first of them decides.
-/
import Splitch.Stats.ShipVerdict

namespace Splitch

namespace Stats

/-! ## 1. The arms that decide -/

namespace ResultsRead

variable (read : ResultsRead) (registration : PreRegistration)

def lockedIds : List String :=
  lockedGoalMetricIds read.stats.armResults (read.stats.guardrailResults.map (·.metricId))

/-- The comparisons that can ship under the conflict rule. -/
def comparisons : Nat :=
  if registration.shipRule.conflictResolution = .primaryWins then 1
  else countShipMarginComparisons read.lockedIds read.stats.armResults read.controlVariant

/-- The Treatment arms that the conflict rule combines, each with its Metric as it was registered:
those of the primary Metric when it decides alone, else those of every locked goal. -/
def Combined (arm : ArmResult) (metric : PreRegistrationMetric) : Prop :=
  if registration.shipRule.conflictResolution = .primaryWins then
    requirePrimaryMetric registration = .ok metric ∧
      arm ∈ treatmentArmsFor registration.primaryMetricId read.stats.armResults read.controlVariant
  else
    ∃ id ∈ read.lockedIds, metricById registration id = some metric ∧
      arm ∈ treatmentArmsFor id read.stats.armResults read.controlVariant

/-- The arm clears the margin as the conflict rule requires. -/
def Clears (margin : CiBound) (arm : ArmResult) (metric : PreRegistrationMetric) : Prop :=
  ClearsMargin metric.desirability registration.shipRule.marginScale
    (read.comparisons registration) margin arm

/-- The arm is eligible in the corrected decision family and clears its margin. -/
def Wins (margin : CiBound) (arm : ArmResult) (metric : PreRegistrationMetric) : Prop :=
  decisionEligible arm = true ∧ read.Clears registration margin arm metric

/-- **Sound**: what a recommendation to ship promises. -/
structure Sound (numbers : Numbers) : Prop where
  registered : read.preRegistration = some registration
  gate : ∃ gate, evaluateExperimentDecisionGate numbers read.stats read.control read.duration
    read.persistedAlarms = .ok gate ∧ gate.shipAllowed = true
  guardrails : ∀ row ∈ read.stats.guardrailResults, row.isBreached ≠ some true
  alarms : read.persistedAlarms = []
  arms : ∃ margin, marginOnIntervalScale numbers registration.shipRule.requiredMargin
      registration.shipRule.marginScale = .ok margin ∧
    (∃ arm metric, read.Combined registration arm metric ∧
      read.Wins registration margin arm metric) ∧
    (registration.shipRule.conflictResolution ≠ .anyGoal → ∀ arm metric,
      read.Combined registration arm metric → read.Wins registration margin arm metric) ∧
    ∀ arm metric, read.Combined registration arm metric → decisionEligible arm = true →
      WhollyHarmful metric.desirability registration.shipRule.marginScale arm →
        1 < read.comparisons registration ∧ read.Clears registration margin arm metric

/-! ## 2. What the arms that decide have found -/

/-- The row that an arm is classified as. -/
def Classified (numbers : Numbers) (margin : CiBound) (arm : ArmResult)
    (metric : PreRegistrationMetric) (row : ClassifiedEffect) : Prop :=
  ∃ subject, classifyOneTreatmentArm numbers arm
    { desirability := metric.desirability
      scale := registration.shipRule.marginScale
      marginOnScale := margin
      subject
      shipMarginComparisonCount := read.comparisons registration } = .ok row

/-- The effect of a rule on the effects of the arms that it combines. -/
def ruleEffect (resolution : ShipConflictResolution) (effects : List MetricEffectVerdict) :
    MetricEffectVerdict :=
  if resolution = .anyGoal then anyGoalEffect effects else worstEffect effects

/-- Rows that stand for the arms that a rule combines. -/
structure Stands (numbers : Numbers) (margin : CiBound) (rows : List ClassifiedEffect) :
    Prop where
  onScale : marginOnIntervalScale numbers registration.shipRule.requiredMargin
    registration.shipRule.marginScale = .ok margin
  nonempty : rows ≠ []
  ofRow : ∀ row ∈ rows, ∃ arm metric, read.Combined registration arm metric ∧
    read.Classified registration numbers margin arm metric row
  ofArm : ∀ arm metric, read.Combined registration arm metric →
    ∃ row ∈ rows, read.Classified registration numbers margin arm metric row

variable {read registration} {numbers : Numbers} {primary combined : ClassifiedEffect}

theorem stands_primary (hrule : registration.shipRule.conflictResolution = .primaryWins)
    (h : resolvePrimaryEffect numbers registration read.stats.armResults read.controlVariant =
      .ok primary) :
    ∃ margin rows, read.Stands registration numbers margin rows ∧
      primary.effect = worstEffect (rows.map (·.effect)) := by
  obtain ⟨metric, margin, rows, hmetric, hmargin, hne, hrows, heffect⟩ := primary_effect h
  have hcount : read.comparisons registration = 1 := if_pos hrule
  have hmem := Checks.mem_of_mapM_eq_ok hrows
  have hall := Checks.exists_mapM_eq_ok.mp ⟨rows, hrows⟩
  refine ⟨margin, rows, ⟨hmargin, ?_, fun row hrow => ?_, fun arm metric' hcombined => ?_⟩, heffect⟩
  · rintro rfl
    obtain ⟨arm, harm⟩ := List.exists_mem_of_ne_nil _ hne
    obtain ⟨row, hrow⟩ := hall arm harm
    cases (hmem row).mpr ⟨arm, harm, hrow⟩
  · obtain ⟨arm, harm, hclassified⟩ := (hmem row).mp hrow
    refine ⟨arm, metric, ?_, .primaryMetric, ?_⟩
    · rw [Combined, if_pos hrule]
      exact ⟨hmetric, harm⟩
    · rw [hcount]
      exact hclassified
  · rw [Combined, if_pos hrule] at hcombined
    cases hmetric.symm.trans hcombined.1
    obtain ⟨row, hrow⟩ := hall arm hcombined.2
    refine ⟨row, (hmem row).mpr ⟨arm, hcombined.2, hrow⟩, .primaryMetric, ?_⟩
    rw [hcount]
    exact hrow

theorem stands_goals (hrule : registration.shipRule.conflictResolution ≠ .primaryWins)
    {goals : List ClassifiedEffect}
    (h : classifyLockedGoalMetrics numbers registration read.stats.armResults
      read.controlVariant (read.stats.guardrailResults.map (·.metricId)) = .ok goals) :
    ∃ margin, read.Stands registration numbers margin goals := by
  obtain ⟨hne, margin, hmargin, groups, rfl, hgroups⟩ := lockedGoals_ok h
  have hcount : read.comparisons registration =
      countShipMarginComparisons read.lockedIds read.stats.armResults read.controlVariant :=
    if_neg hrule
  have hmem := Checks.mem_of_mapM_eq_ok hgroups
  have hall := Checks.exists_mapM_eq_ok.mp ⟨groups, hgroups⟩
  refine ⟨margin, hmargin, hne, fun row hrow => ?_, fun arm metric hcombined => ?_⟩
  · obtain ⟨rows, hin, hrow⟩ := List.mem_flatten.mp hrow
    obtain ⟨id, hid, hone⟩ := (hmem rows).mp hin
    obtain ⟨-, metric, hmetric, hrows⟩ := oneLockedGoal_ok hone
    obtain ⟨arm, harm, hclassified⟩ := (Checks.mem_of_mapM_eq_ok hrows row).mp hrow
    refine ⟨arm, metric, ?_,
      if id = registration.primaryMetricId then .primaryMetric else .goalMetric, ?_⟩
    · rw [Combined, if_neg hrule]
      exact ⟨id, hid, hmetric, harm⟩
    · rw [hcount]
      exact hclassified
  · rw [Combined, if_neg hrule] at hcombined
    obtain ⟨id, hid, hmetric, harm⟩ := hcombined
    obtain ⟨rows, hone⟩ := hall id hid
    obtain ⟨-, metric', hmetric', hrows⟩ := oneLockedGoal_ok hone
    cases hmetric.symm.trans hmetric'
    obtain ⟨row, hclassified⟩ := Checks.exists_mapM_eq_ok.mp ⟨rows, hrows⟩ arm harm
    refine ⟨row, List.mem_flatten.mpr ⟨rows, (hmem rows).mpr ⟨id, hid, hone⟩,
      (Checks.mem_of_mapM_eq_ok hrows row).mpr ⟨arm, harm, hclassified⟩⟩,
      if id = registration.primaryMetricId then .primaryMetric else .goalMetric, ?_⟩
    rw [hcount]
    exact hclassified

/-- **The combined effect** is the rule's on rows that stand for the arms it combines: those of the
primary Metric under the rule that it wins, and those of all locked goals under the other two. -/
theorem stands_combined
    (h : combinedEffect numbers registration read.stats read.controlVariant = .ok combined) :
    ∃ margin rows, read.Stands registration numbers margin rows ∧
      combined.effect = ruleEffect registration.shipRule.conflictResolution
        (rows.map (·.effect)) := by
  obtain ⟨primary, hprimary, h⟩ := Checks.bind_eq_ok.mp h
  obtain ⟨goals, hgoals, h⟩ := Checks.bind_eq_ok.mp h
  cases h
  rw [goalEffects] at hgoals
  split at hgoals
  · rename_i hrule
    obtain ⟨margin, rows, hstands, heffect⟩ := stands_primary hrule hprimary
    refine ⟨margin, rows, hstands, ?_⟩
    rw [hrule]
    exact heffect
  · rename_i hrule
    obtain ⟨margin, hstands⟩ := stands_goals hrule hgoals
    refine ⟨margin, goals, hstands, ?_⟩
    rw [combineEffects_effect hstands.nonempty]
    cases hres : registration.shipRule.conflictResolution with
    | primaryWins => exact absurd hres hrule
    | unanimousGoals => rfl
    | anyGoal => rfl

theorem ruleEffect_beneficial {resolution : ShipConflictResolution}
    {effects : List MetricEffectVerdict} (hne : effects ≠ [])
    (h : ruleEffect resolution effects = .beneficial) :
    MetricEffectVerdict.harmful ∉ effects ∧ MetricEffectVerdict.beneficial ∈ effects ∧
      (resolution ≠ .anyGoal → ∀ effect ∈ effects, effect = .beneficial) := by
  rw [ruleEffect] at h
  split at h
  · rename_i hany
    obtain ⟨hharm, hben⟩ := anyGoalEffect_eq_beneficial.mp h
    exact ⟨hharm, hben, fun hnot => absurd hany hnot⟩
  · have hall := worstEffect_eq_beneficial.mp h
    obtain ⟨effect, hmem⟩ := List.exists_mem_of_ne_nil effects hne
    exact ⟨fun hharm => (by cases hall _ hharm), hall effect hmem ▸ hmem, fun _ => hall⟩

/-- **The arms** behind a combined win. A win leaves no harmful row among them; so an eligible arm
that lies wholly on the harmful side was judged among several comparisons, and clears the margin all
the same. -/
theorem arms_of_beneficial
    (h : combinedEffect numbers registration read.stats read.controlVariant = .ok combined)
    (hwin : combined.effect = .beneficial) :
    ∃ margin, marginOnIntervalScale numbers registration.shipRule.requiredMargin
        registration.shipRule.marginScale = .ok margin ∧
      (∃ arm metric, read.Combined registration arm metric ∧
        read.Wins registration margin arm metric) ∧
      (registration.shipRule.conflictResolution ≠ .anyGoal → ∀ arm metric,
        read.Combined registration arm metric → read.Wins registration margin arm metric) ∧
      ∀ arm metric, read.Combined registration arm metric → decisionEligible arm = true →
        WhollyHarmful metric.desirability registration.shipRule.marginScale arm →
          1 < read.comparisons registration ∧ read.Clears registration margin arm metric := by
  obtain ⟨margin, rows, hstands, heffect⟩ := stands_combined h
  obtain ⟨hharm, hben, hall⟩ := ruleEffect_beneficial
    (mt List.map_eq_nil_iff.mp hstands.nonempty) (heffect.symm.trans hwin)
  refine ⟨margin, hstands.onScale, ?_, fun hrule arm metric hcombined => ?_,
    fun arm metric hcombined heligible hwholly => ?_⟩
  · obtain ⟨row, hrow, hbeneficial⟩ := List.mem_map.mp hben
    obtain ⟨arm, metric, hcombined, _, hclassified⟩ := hstands.ofRow row hrow
    exact ⟨arm, metric, hcombined, wins_of_beneficial hclassified hbeneficial⟩
  · obtain ⟨row, hrow, _, hclassified⟩ := hstands.ofArm arm metric hcombined
    exact wins_of_beneficial hclassified (hall hrule _ (List.mem_map_of_mem hrow))
  · obtain ⟨row, hrow, _, hclassified⟩ := hstands.ofArm arm metric hcombined
    have hclears : read.Clears registration margin arm metric := by
      by_contra hnot
      have hharmful := harmful_of_whollyHarmful hclassified heligible hwholly hnot
      exact hharm (List.mem_map.mpr ⟨row, hrow, hharmful⟩)
    exact ⟨several_of_clears_of_harm hclassified hwholly hclears, hclears⟩

end ResultsRead

/-! ## 3. Sound recommendations -/

section Recommendation

variable {numbers : Numbers} {read : ResultsRead}

/-- **Soundness**: what stands behind a verdict to ship. The verdict is taken apart into the answers
on its way, and an alarm is excluded by the check that it would have failed. -/
theorem sound_of_ship (h : verdict numbers read = some .ship) :
    ∃ registration, read.Sound registration numbers := by
  rw [verdict, produceRecommendation] at h
  cases hgate : evaluateExperimentDecisionGate numbers read.stats read.control read.duration
      read.persistedAlarms with
  | error message => rw [hgate] at h; cases h
  | ok gate =>
    rw [hgate] at h
    obtain ⟨hchecks, hguards, registration, combined, hreg, hcombined, hwin⟩ := ship_parts h
    refine ⟨registration, hreg, ⟨gate, hgate, (shipAllowed_iff hgate).mpr hchecks⟩, hguards, ?_,
      ResultsRead.arms_of_beneficial hcombined hwin⟩
    refine List.eq_nil_iff_forall_not_mem.mpr fun alarm halarm => ?_
    obtain ⟨check, hcheck, hfail⟩ := fails_of_alarm halarm hgate
    exact hchecks check hcheck hfail

/-- **Recommendations to ship** are sound, whatever the rows, the rule and the gate are.  Alarms,
breaches and a closed gate never leave one, and it does not depend on the order of rows as long as
the Control rows of a Metric agree. -/
theorem ship_recommendation_sound (numbers : Numbers) (read : ResultsRead) :
    (verdict numbers read = some .ship → ∃ registration, read.Sound registration numbers) ∧
    (∀ stats', SameRows read.stats stats' →
      (∀ registration, read.preRegistration = some registration →
        ControlsAgree registration.shipRule.marginScale read.stats.armResults
          read.controlVariant) →
      verdict numbers { read with stats := stats' } = verdict numbers read) ∧
    (∀ alarms' alarm, alarm ∈ alarms' →
      verdict numbers { read with persistedAlarms := alarms' } ≠ some .ship) ∧
    (∀ guardrails' row, row ∈ guardrails' → row.isBreached = some true →
      verdict numbers { read with
        stats := { read.stats with guardrailResults := guardrails' } } ≠ some .ship) ∧
    ∀ (gate : ExperimentDecisionGate) (check : DecisionGateCheck),
      check ∈ gate.checks → check.status = .fail →
        verdictOf (computeShipRecommendation numbers read.preRegistration gate read.stats
          read.controlVariant read.horizon) ≠ some .ship := by
  refine ⟨sound_of_ship, fun stats' hrows hcontrols => verdict_same hrows hcontrols,
    fun alarms' alarm halarm hship => ?_, fun guardrails' row hrow hbreached hship => ?_,
    fun gate check hcheck hfail hship => (ship_parts hship).1 check hcheck hfail⟩
  · obtain ⟨registration, hsound⟩ := sound_of_ship hship
    have hnone : alarms' = [] := hsound.alarms
    rw [hnone] at halarm
    cases halarm
  · obtain ⟨registration, hsound⟩ := sound_of_ship hship
    exact hsound.guardrails row hrow hbreached

/-! ## 4. A goal that is harmed, and two Control rows -/

/-- The numbers of the examples are whole. -/
def wholeNumbers : Numbers where
  timesHundred value := some (value * 100)
  string value := toString value.num
  toFixed1 value := toString value.num ++ ".0"
  toPrecision6 value := value
  dateParse _ := none
  isoString _ := none

def exampleArm (metricId variant : String) (mean lower upper : Rat) : ArmResult where
  variant := variant
  metricId := metricId
  pointEstimate := mean
  relativeLiftPct := none
  ciLower := some (.finite lower)
  ciUpper := some (.finite upper)
  isSignificant := true
  inBhFamily := true
  decisionValid := true
  status := .ready
  absoluteCiLower := some (some (.finite lower))
  absoluteCiUpper := some (some (.finite upper))

def exampleStats (arms : List ArmResult) : StatsOutput where
  armResults := arms
  srm :=
    { srmPValue := 1
      srmIsMismatch := false
      observedCounts := []
      expectedCounts := []
      activatedSrmPValue := none
      activatedSrmMismatch := none }
  guardrailResults := []
  health :=
    { activationBalancePValue := none
      activationBalanceMismatch := none
      lowNWarning := false }
  dimensionResults := none

/-- A read of a Run that has registered two goals and lets the first one decide. -/
def exampleRead (scale : RopeScale) (arms : List ArmResult) : ResultsRead where
  preRegistration := some
    { primaryMetricId := "orders"
      metrics := [⟨"orders", .higherIsBetter⟩, ⟨"returns", .higherIsBetter⟩]
      shipRule := ⟨2, scale, .primaryWins⟩ }
  stats := exampleStats arms
  control := .frozen "v0" "control"
  duration := ⟨none, none, "", none⟩
  persistedAlarms := []
  controlVariant := "control"
  horizon := some .fixed

/-- The primary goal wins and the other locked goal is harmed. -/
def harmfulRead : ResultsRead :=
  exampleRead .absolute
    [exampleArm "orders" "treatment" 10 3 8, exampleArm "returns" "treatment" 10 (-8) (-3)]

/-- Two rows of Control, of which one has a positive mean. -/
def twoControls : List ArmResult :=
  [exampleArm "orders" "control" 10 0 0, exampleArm "orders" "control" (-10) 0 0,
    exampleArm "orders" "treatment" 1000 300 800]

/-- The same rows with the other Control first. -/
def otherControlFirst : List ArmResult :=
  [exampleArm "orders" "control" (-10) 0 0, exampleArm "orders" "control" 10 0 0,
    exampleArm "orders" "treatment" 1000 300 800]

theorem twoControls_perm : twoControls.Perm otherControlFirst := .swap _ _ _

/-- A harmed goal is shipped, and rows in another order lose their verdict. -/
theorem shipped_harmful_goal :
    verdict wholeNumbers harmfulRead = some .ship ∧
    (∃ arm ∈ harmfulRead.stats.armResults, arm.metricId ∈ harmfulRead.lockedIds ∧
      arm.variant ≠ harmfulRead.controlVariant ∧ decisionEligible arm = true ∧
      WhollyHarmful .higherIsBetter .absolute arm) ∧
    verdict wholeNumbers (exampleRead .relative twoControls) = some .ship ∧
    twoControls.Perm otherControlFirst ∧
    verdict wholeNumbers (exampleRead .relative otherControlFirst) = none := by
  refine ⟨by decide +kernel, ⟨exampleArm "returns" "treatment" 10 (-8) (-3), .tail _ (.head _),
    by decide, by decide, by decide, ⟨⟨-8, -3⟩, rfl, by decide +kernel⟩⟩, by decide +kernel,
    twoControls_perm, by decide +kernel⟩

end Recommendation

end Stats

end Splitch
