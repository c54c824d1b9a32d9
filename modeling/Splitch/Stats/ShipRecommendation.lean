/-
# The ship recommendation

The effect of the primary Metric (`ship-recommendation-primary.ts`), of the locked goals
(`ship-recommendation-locked-goals.ts`), how a conflict rule combines them, and the verdict
(`ship-recommendation-compute.ts`) behind the gate of a read (`results-producer.ts`).

A conflict rule combines the effects of many arms into one, and the code does so on ROWS: it looks for the
first row with the worst effect, and carries that row on for the sentence in which it is cited.  What decides
is nevertheless the set of effects that occur.  Under `primary_wins` and `unanimous_goals` it is the worst
one, and under `any_goal` harm first and then a win; each combination, whatever row it has chosen, has the
effect that its rule makes of the effects (`combineEffects_effect`).

The rows that are combined are found first.  The primary Metric has those of its Treatment arms
(`primary_effect`).  The locked goals are the Metrics with a row in the corrected family, less the
Guardrails, in the order in which they first occur, and their rows are those of all their Treatment arms
(`lockedGoals_ok`).

An effect may stop on the way, and a stop is an answer of its own; the verdict of an answer that has one is
`verdictOf`.
-/
import Splitch.Library.TrimmedText
import Splitch.Stats.DecisionGate
import Splitch.Stats.MetricEffect

namespace Splitch

namespace Stats

open TrimmedText

/-! ## 1. The primary Metric -/

section Goals

variable (numbers : Numbers)

def worstEffect (effects : List MetricEffectVerdict) : MetricEffectVerdict :=
  if .harmful ∈ effects then .harmful
  else if ∀ effect ∈ effects, effect = .beneficial then .beneficial
  else .undecided

def firstWithEffect (goals : List ClassifiedEffect) (effect : MetricEffectVerdict) :
    Option ClassifiedEffect :=
  goals.find? (·.effect = effect)

def requirePrimaryMetric (preRegistration : PreRegistration) :
    Except String PreRegistrationMetric :=
  match preRegistration.metrics.find? (·.metricId = preRegistration.primaryMetricId) with
  | none => .error "pre-registration primary_metric_id is missing from metrics"
  | some metric => .ok metric

/-- The row that stands for a list of rows: the first with the worst effect. -/
def decidingRow (rows : List ClassifiedEffect) : Except String ClassifiedEffect :=
  match (firstWithEffect rows (worstEffect (rows.map (·.effect)))).or rows.head? with
  | none => .error "primary treatment arms empty after classify"
  | some deciding => .ok deciding

def resolvePrimaryEffect (preRegistration : PreRegistration) (arms : List ArmResult)
    (controlVariant : String) : Except Stop ClassifiedEffect := do
  let primaryMetric ← orThrow (requirePrimaryMetric preRegistration)
  let treatmentArms := treatmentArmsFor preRegistration.primaryMetricId arms controlVariant
  if treatmentArms.length = 0 then throw (.unavailable .primaryResultUnavailable)
  let scale := preRegistration.shipRule.marginScale
  relativeControlMeanGate scale preRegistration.primaryMetricId arms controlVariant
  let marginOnScale ← orThrow
    (marginOnIntervalScale numbers preRegistration.shipRule.requiredMargin scale)
  let rows ← classifyTreatmentArms numbers treatmentArms
    { desirability := primaryMetric.desirability
      scale, marginOnScale
      subject := .primaryMetric
      shipMarginComparisonCount := 1 }
  orThrow (decidingRow rows)

/-! ## 2. The locked goals -/

/-- `Set.add` on a set that keeps the order of insertion. -/
def addMetricId (ids : List String) (id : String) : List String :=
  if id ∈ ids then ids else ids ++ [id]

/-- A row that makes its Metric a locked goal. -/
def isLockedRow (guardrailMetricIds : List String) (arm : ArmResult) : Bool :=
  arm.inBhFamily && decide (arm.metricId ∉ guardrailMetricIds)

def lockedGoalMetricIds (arms : List ArmResult) (guardrailMetricIds : List String) : List String :=
  (arms.filter (isLockedRow guardrailMetricIds)).foldl
    (fun ids arm => addMetricId ids arm.metricId) []

def countShipMarginComparisons (lockedIds : List String) (arms : List ArmResult)
    (controlVariant : String) : Nat :=
  let count := (lockedIds.map fun id => (treatmentArmsFor id arms controlVariant).length).sum
  if 0 < count then count else 1

/-- `metricsById.get(metricId)`: of several entries the last stays. -/
def metricById (preRegistration : PreRegistration) (metricId : String) :
    Option PreRegistrationMetric :=
  preRegistration.metrics.reverse.find? (·.metricId = metricId)

def orUnavailableForScale {α : Type} (scale : RopeScale) : Except Stop α → Except Stop α
  | .ok a => .ok a
  | .error stop => .error (unavailableForScale scale stop)

def classifyOneLockedGoal (preRegistration : PreRegistration) (arms : List ArmResult)
    (controlVariant : String) (marginOnScale : CiBound) (shipMarginComparisonCount : Nat)
    (metricId : String) : Except Stop (List ClassifiedEffect) := do
  let scale := preRegistration.shipRule.marginScale
  let metric ← orUnavailable .lockedGoalDesirabilityMissing (metricById preRegistration metricId)
  relativeControlMeanGate scale metricId arms controlVariant
  let rows ← orUnavailableForScale scale <|
    classifyTreatmentArms numbers (treatmentArmsFor metricId arms controlVariant)
      { desirability := metric.desirability
        scale, marginOnScale
        subject :=
          if metricId = preRegistration.primaryMetricId then .primaryMetric else .goalMetric
        shipMarginComparisonCount }
  if rows.length = 0 then throw (.unavailable .primaryResultUnavailable)
  return rows

def classifyLockedGoalMetrics (preRegistration : PreRegistration) (arms : List ArmResult)
    (controlVariant : String) (guardrailMetricIds : List String) :
    Except Stop (List ClassifiedEffect) := do
  let marginOnScale ← orThrow (marginOnIntervalScale numbers
    preRegistration.shipRule.requiredMargin preRegistration.shipRule.marginScale)
  let lockedIds := lockedGoalMetricIds arms guardrailMetricIds
  let shipMarginComparisonCount := countShipMarginComparisons lockedIds arms controlVariant
  let goals ← lockedIds.mapM (classifyOneLockedGoal numbers preRegistration arms controlVariant
    marginOnScale shipMarginComparisonCount)
  if goals.flatten.length = 0 then throw (.unavailable .primaryResultUnavailable)
  return goals.flatten

def goalEffects (preRegistration : PreRegistration) (arms : List ArmResult)
    (controlVariant : String) (primary : ClassifiedEffect) (guardrailMetricIds : List String) :
    Except Stop (List ClassifiedEffect) :=
  if preRegistration.shipRule.conflictResolution = .primaryWins then .ok [primary]
  else classifyLockedGoalMetrics numbers preRegistration arms controlVariant guardrailMetricIds

end Goals

/-! ## 3. The combination -/

def combineUnanimous (primary : ClassifiedEffect) (goals : List ClassifiedEffect) :
    ClassifiedEffect :=
  if ∀ goal ∈ goals, goal.effect = .beneficial then
    (firstWithEffect goals .beneficial).getD primary
  else (firstWithEffect goals .undecided).getD primary

def combineAnyGoal (primary : ClassifiedEffect) (goals : List ClassifiedEffect) :
    ClassifiedEffect :=
  ((firstWithEffect goals .beneficial).or (firstWithEffect goals .undecided)).getD primary

def combineEffects (resolution : ShipConflictResolution) (primary : ClassifiedEffect)
    (goals : List ClassifiedEffect) : ClassifiedEffect :=
  match resolution with
  | .primaryWins => primary
  | .unanimousGoals =>
    (firstWithEffect goals .harmful).getD (combineUnanimous primary goals)
  | .anyGoal => (firstWithEffect goals .harmful).getD (combineAnyGoal primary goals)

/-! ## 4. The verdict -/

inductive ShipRecommendationVerdict
  | ship
  | doNotShip
  | keepRunning
  | invalid
  deriving DecidableEq, Repr

inductive ShipRecommendationResult
  | recommendation (verdict : ShipRecommendationVerdict) (because : String)
  | recommendationUnavailable (reason : RecommendationUnavailableReason)
  deriving DecidableEq, Repr

def INVALID_CHECK_IDS : List DecisionGateCheckId :=
  [.controlIdentity, .exposureSrm, .activatedSrm, .activationBalance, .engineStatus,
    .decisionValidResult]

def NOT_READY_CHECK_IDS : List DecisionGateCheckId := [.underpowered, .plannedDuration]

def firstFailedCheck (gate : ExperimentDecisionGate) (ids : List DecisionGateCheckId) :
    Option DecisionGateCheck :=
  gate.checks.find? fun check => check.status = .fail ∧ check.id ∈ ids

def firstBreachedGuardrail (rows : List GuardrailResult) : Option GuardrailResult :=
  rows.find? (·.isBreached = some true)

/-- `text.replace(/\.$/, "")`. -/
def withoutFinalDot (text : String) : String :=
  if text.toList.getLast? = some '.' then String.ofList text.toList.dropLast else text

section Verdict

variable (numbers : Numbers)

def guardrailBecause (ciLower : Option CiBound) (threshold : Rat) (breachReason : Option String) :
    String :=
  match breachReason.filter fun reason => ! reason.toList.all isTrimmed with
  | some reason => "A Guardrail is breached: " ++ reason
  | none =>
    match ciLower with
    | none => "A Guardrail is breached."
    | some lower =>
      "A Guardrail is breached: relative lift lower bound " ++ numbers.trimNumber lower ++
        "% is below the " ++ numbers.trimNumber (.finite threshold) ++ "% threshold."

/-- The verdict on a combined effect. -/
def verdictOnEffect (combined : ClassifiedEffect) : ShipRecommendationResult :=
  match combined.effect with
  | .harmful => .recommendation .doNotShip combined.because
  | .undecided => .recommendation .keepRunning combined.because
  | .beneficial =>
    .recommendation .ship (withoutFinalDot combined.because ++ " with no Guardrail breach.")

/-- An effect that stopped for a reason is an answer, one that threw is not. -/
def orRecommendationUnavailable :
    Except Stop ShipRecommendationResult → Except String ShipRecommendationResult
  | .ok result => .ok result
  | .error (.unavailable reason) => .ok (.recommendationUnavailable reason)
  | .error (.thrown message) => .error message

/-- The effect that the primary Metric and the goals combine to. -/
def combinedEffect (preRegistration : PreRegistration) (stats : StatsOutput)
    (controlVariant : String) : Except Stop ClassifiedEffect := do
  let primary ← resolvePrimaryEffect numbers preRegistration stats.armResults controlVariant
  let goals ← goalEffects numbers preRegistration stats.armResults controlVariant primary
    (stats.guardrailResults.map (·.metricId))
  return combineEffects preRegistration.shipRule.conflictResolution primary goals

def computeShipRecommendation (preRegistration : Option PreRegistration)
    (gate : ExperimentDecisionGate) (stats : StatsOutput) (controlVariant : String)
    (horizon : Option RunHorizon) : Except String ShipRecommendationResult :=
  match preRegistration with
  | none => .ok (.recommendationUnavailable .noPreRegistration)
  | some preRegistration =>
    match firstFailedCheck gate INVALID_CHECK_IDS with
    | some invalid => .ok (.recommendation .invalid invalid.detail)
    | none =>
      match firstFailedCheck gate NOT_READY_CHECK_IDS with
      | some notReady => .ok (.recommendation .keepRunning notReady.detail)
      | none =>
        match firstBreachedGuardrail stats.guardrailResults with
        | some breached =>
          .ok (.recommendation .doNotShip
            (guardrailBecause numbers breached.ciLower breached.threshold breached.breachReason))
        | none =>
          if preRegistration.shipRule.marginScale = .relative ∧ horizon = some .sequential then
            .ok (.recommendationUnavailable .relativeSequentialCoverageUnproven)
          else
            orRecommendationUnavailable do
              let combined ← combinedEffect numbers preRegistration stats controlVariant
              return verdictOnEffect combined

/-- What a read of results has before it. -/
structure ResultsRead where
  preRegistration : Option PreRegistration
  stats : StatsOutput
  control : FrozenControlIdentity
  duration : PlannedDurationEvidence
  persistedAlarms : List PersistedSrmAlarm
  controlVariant : String
  horizon : Option RunHorizon

/-- `produceExperimentResults` on results that are ready: the gate, and the recommendation. -/
def produceRecommendation (read : ResultsRead) : Except String ShipRecommendationResult := do
  let gate ← evaluateExperimentDecisionGate numbers read.stats read.control read.duration
    read.persistedAlarms
  computeShipRecommendation numbers read.preRegistration gate read.stats read.controlVariant
    read.horizon

end Verdict

/-! ## 5. Rules on the effects that occur -/

/-- The rule of `any_goal`: harm first, then a win. -/
def anyGoalEffect (effects : List MetricEffectVerdict) : MetricEffectVerdict :=
  if .harmful ∈ effects then .harmful
  else if .beneficial ∈ effects then .beneficial
  else .undecided

section Rules

variable {effects effects' : List MetricEffectVerdict} {rows goals : List ClassifiedEffect}
  {primary row : ClassifiedEffect} {resolution : ShipConflictResolution}

theorem worstEffect_congr (h : ∀ effect, effect ∈ effects ↔ effect ∈ effects') :
    worstEffect effects = worstEffect effects' := by
  simp only [worstEffect, h]

theorem anyGoalEffect_congr (h : ∀ effect, effect ∈ effects ↔ effect ∈ effects') :
    anyGoalEffect effects = anyGoalEffect effects' := by
  simp only [anyGoalEffect, h]

theorem worstEffect_mem (hne : effects ≠ []) : worstEffect effects ∈ effects := by
  rw [worstEffect]
  split
  · assumption
  · rename_i hharmful
    split
    · obtain ⟨effect, hmem⟩ := List.exists_mem_of_ne_nil effects hne
      have hben := ‹∀ effect ∈ effects, effect = .beneficial› effect hmem
      exact hben ▸ hmem
    · rename_i hall
      push Not at hall
      obtain ⟨effect, hmem, hnot⟩ := hall
      cases effect with
      | beneficial => exact absurd rfl hnot
      | harmful => exact absurd hmem hharmful
      | undecided => exact hmem

theorem worstEffect_eq_beneficial :
    worstEffect effects = .beneficial ↔ ∀ effect ∈ effects, effect = .beneficial := by
  rw [worstEffect]
  split
  · rename_i hharmful
    exact ⟨fun h => (by cases h), fun h => (by cases h _ hharmful)⟩
  · split
    · exact ⟨fun _ => ‹_›, fun _ => rfl⟩
    · exact ⟨fun h => (by cases h), fun h => absurd h ‹_›⟩

theorem anyGoalEffect_eq_beneficial :
    anyGoalEffect effects = .beneficial ↔
      MetricEffectVerdict.harmful ∉ effects ∧ MetricEffectVerdict.beneficial ∈ effects := by
  rw [anyGoalEffect]
  split
  · exact ⟨fun h => (by cases h), fun h => absurd ‹_› h.1⟩
  · split
    · exact ⟨fun _ => ⟨‹_›, ‹_›⟩, fun _ => rfl⟩
    · exact ⟨fun h => (by cases h), fun h => absurd h.2 ‹_›⟩

theorem firstWithEffect_eq_some {effect : MetricEffectVerdict}
    (h : firstWithEffect rows effect = some row) : row ∈ rows ∧ row.effect = effect :=
  ⟨List.mem_of_find?_eq_some h, of_decide_eq_true (List.find?_some h :)⟩

theorem exists_firstWithEffect {effect : MetricEffectVerdict} (h : effect ∈ rows.map (·.effect)) :
    ∃ row, firstWithEffect rows effect = some row ∧ row.effect = effect := by
  obtain ⟨row, hrow, rfl⟩ := List.mem_map.mp h
  have hsome : (firstWithEffect rows row.effect).isSome = true := by
    rw [firstWithEffect, List.find?_isSome]
    exact ⟨row, hrow, decide_eq_true rfl⟩
  obtain ⟨first, hfirst⟩ := Option.isSome_iff_exists.mp hsome
  exact ⟨first, hfirst, (firstWithEffect_eq_some hfirst).2⟩

theorem firstWithEffect_eq_none {effect : MetricEffectVerdict}
    (h : effect ∉ rows.map (·.effect)) : firstWithEffect rows effect = none := by
  rw [firstWithEffect, List.find?_eq_none]
  intro row hrow heq
  exact h (List.mem_map.mpr ⟨row, hrow, of_decide_eq_true heq⟩)

/-- The deciding row has the worst effect. -/
theorem decidingRow_eq_ok (h : decidingRow rows = .ok row) :
    row.effect = worstEffect (rows.map (·.effect)) := by
  rw [decidingRow] at h
  by_cases hne : rows = []
  · subst hne
    cases h
  · obtain ⟨first, hfirst, heq⟩ :=
      exists_firstWithEffect (worstEffect_mem (mt List.map_eq_nil_iff.mp hne))
    rw [hfirst] at h
    cases h
    exact heq

theorem exists_decidingRow : (∃ row, decidingRow rows = .ok row) ↔ rows ≠ [] := by
  constructor
  · rintro ⟨row, h⟩ rfl
    cases h
  · intro hne
    obtain ⟨first, hfirst, -⟩ :=
      exists_firstWithEffect (worstEffect_mem (mt List.map_eq_nil_iff.mp hne))
    exact ⟨first, by rw [decidingRow, hfirst]; rfl⟩

theorem combineUnanimous_effect (hne : goals ≠ [])
    (hharm : MetricEffectVerdict.harmful ∉ goals.map (·.effect)) :
    (combineUnanimous primary goals).effect = worstEffect (goals.map (·.effect)) := by
  obtain ⟨first, hfirst, heq⟩ :=
    exists_firstWithEffect (worstEffect_mem (mt List.map_eq_nil_iff.mp hne))
  rw [combineUnanimous]
  split
  · rename_i hall
    have hworst : worstEffect (goals.map (·.effect)) = .beneficial := by
      rw [worstEffect_eq_beneficial]
      intro effect hin
      obtain ⟨goal, hgoal, rfl⟩ := List.mem_map.mp hin
      exact hall goal hgoal
    rw [hworst] at hfirst heq ⊢
    rw [hfirst]
    exact heq
  · rename_i hall
    have hworst : worstEffect (goals.map (·.effect)) = .undecided := by
      rw [worstEffect, if_neg hharm, if_neg]
      intro hben
      exact hall fun goal hgoal => hben _ (List.mem_map_of_mem hgoal)
    rw [hworst] at hfirst heq ⊢
    rw [hfirst]
    exact heq

theorem combineAnyGoal_effect (hne : goals ≠ [])
    (hharm : MetricEffectVerdict.harmful ∉ goals.map (·.effect)) :
    (combineAnyGoal primary goals).effect = anyGoalEffect (goals.map (·.effect)) := by
  rw [combineAnyGoal, anyGoalEffect, if_neg hharm]
  split
  · rename_i hben
    obtain ⟨first, hfirst, heq⟩ := exists_firstWithEffect hben
    rw [hfirst]
    exact heq
  · rename_i hben
    have hund : MetricEffectVerdict.undecided ∈ goals.map (·.effect) := by
      obtain ⟨goal, hgoal⟩ := List.exists_mem_of_ne_nil goals hne
      have hmem := List.mem_map_of_mem (f := (·.effect)) hgoal
      cases heffect : goal.effect with
      | beneficial => exact absurd (heffect ▸ hmem) hben
      | harmful => exact absurd (heffect ▸ hmem) hharm
      | undecided => exact heffect ▸ hmem
    obtain ⟨first, hfirst, heq⟩ := exists_firstWithEffect hund
    rw [firstWithEffect_eq_none hben, hfirst]
    exact heq

/-- **The combined effect** is a function of the effects that occur. The texts and the deciding row
are those of the first row with the effect, but the effect itself asks only which ones there are. -/
theorem combineEffects_effect (hne : goals ≠ []) :
    (combineEffects resolution primary goals).effect =
      match resolution with
      | .primaryWins => primary.effect
      | .unanimousGoals => worstEffect (goals.map (·.effect))
      | .anyGoal => anyGoalEffect (goals.map (·.effect)) := by
  cases resolution with
  | primaryWins => rfl
  | unanimousGoals =>
    by_cases hharm : MetricEffectVerdict.harmful ∈ goals.map (·.effect)
    · obtain ⟨first, hfirst, heq⟩ := exists_firstWithEffect hharm
      simp only [combineEffects, hfirst, Option.getD_some, heq, worstEffect, if_pos hharm]
    · simp only [combineEffects, firstWithEffect_eq_none hharm, Option.getD_none]
      exact combineUnanimous_effect hne hharm
  | anyGoal =>
    by_cases hharm : MetricEffectVerdict.harmful ∈ goals.map (·.effect)
    · obtain ⟨first, hfirst, heq⟩ := exists_firstWithEffect hharm
      simp only [combineEffects, hfirst, Option.getD_some, heq, anyGoalEffect, if_pos hharm]
    · simp only [combineEffects, firstWithEffect_eq_none hharm, Option.getD_none]
      exact combineAnyGoal_effect hne hharm

end Rules

/-! ## 6. What the rows that are combined have found -/

section Found

variable {numbers : Numbers} {preRegistration : PreRegistration} {arms : List ArmResult}
  {controlVariant : String} {guardrailMetricIds : List String}

theorem mem_addMetricId {ids : List String} {id id' : String} :
    id' ∈ addMetricId ids id ↔ id' ∈ ids ∨ id' = id := by
  rw [addMetricId]
  split
  · exact ⟨.inl, fun h => h.elim (fun h => h) fun h => h ▸ ‹_›⟩
  · rw [List.mem_append, List.mem_singleton]

theorem nodup_addMetricId {ids : List String} {id : String} (h : ids.Nodup) :
    (addMetricId ids id).Nodup := by
  rw [addMetricId]
  split
  · exact h
  · exact h.append (List.nodup_singleton id) (List.disjoint_singleton.mpr ‹_›)

theorem mem_foldl_addMetricId {rows : List ArmResult} {ids : List String} {id : String} :
    id ∈ rows.foldl (fun ids arm => addMetricId ids arm.metricId) ids ↔
      id ∈ ids ∨ ∃ arm ∈ rows, arm.metricId = id := by
  induction rows generalizing ids with
  | nil => simp
  | cons row rows ih =>
    rw [List.foldl_cons, ih, mem_addMetricId, List.exists_mem_cons_iff, or_assoc, eq_comm]

theorem nodup_foldl_addMetricId {rows : List ArmResult} {ids : List String} (h : ids.Nodup) :
    (rows.foldl (fun ids arm => addMetricId ids arm.metricId) ids).Nodup := by
  induction rows generalizing ids with
  | nil => exact h
  | cons row rows ih => exact ih (nodup_addMetricId h)

/-- The locked goals are the Metrics with a row in the corrected family, less the Guardrails. -/
theorem mem_lockedGoalMetricIds {id : String} :
    id ∈ lockedGoalMetricIds arms guardrailMetricIds ↔
      ∃ arm ∈ arms, isLockedRow guardrailMetricIds arm = true ∧ arm.metricId = id := by
  rw [lockedGoalMetricIds, mem_foldl_addMetricId]
  simp only [List.not_mem_nil, false_or, List.mem_filter, and_assoc]

theorem nodup_lockedGoalMetricIds : (lockedGoalMetricIds arms guardrailMetricIds).Nodup :=
  nodup_foldl_addMetricId List.nodup_nil

/-- What the arms of the primary Metric are classified against. -/
def primaryInput (preRegistration : PreRegistration) (metric : PreRegistrationMetric)
    (marginOnScale : CiBound) : ClassifyInput where
  desirability := metric.desirability
  scale := preRegistration.shipRule.marginScale
  marginOnScale := marginOnScale
  subject := .primaryMetric
  shipMarginComparisonCount := 1

/-- What the arms of a locked goal are classified against. -/
def lockedInput (preRegistration : PreRegistration) (metric : PreRegistrationMetric)
    (marginOnScale : CiBound) (count : Nat) (metricId : String) : ClassifyInput where
  desirability := metric.desirability
  scale := preRegistration.shipRule.marginScale
  marginOnScale := marginOnScale
  subject := if metricId = preRegistration.primaryMetricId then .primaryMetric else .goalMetric
  shipMarginComparisonCount := count

theorem orUnavailableForScale_eq_ok {α : Type} {scale : RopeScale} {x : Except Stop α} {a : α} :
    orUnavailableForScale scale x = .ok a ↔ x = .ok a := by
  cases x with
  | error stop => exact ⟨fun h => (by cases h), fun h => (by cases h)⟩
  | ok b => exact ⟨fun h => (by cases h; rfl), fun h => (by cases h; rfl)⟩

/-- **The primary effect** is the worst one among the Treatment arms of the primary Metric. -/
theorem primary_effect {primary : ClassifiedEffect}
    (h : resolvePrimaryEffect numbers preRegistration arms controlVariant = .ok primary) :
    ∃ metric margin rows, requirePrimaryMetric preRegistration = .ok metric ∧
      marginOnIntervalScale numbers preRegistration.shipRule.requiredMargin
        preRegistration.shipRule.marginScale = .ok margin ∧
      treatmentArmsFor preRegistration.primaryMetricId arms controlVariant ≠ [] ∧
      classifyTreatmentArms numbers
        (treatmentArmsFor preRegistration.primaryMetricId arms controlVariant)
        (primaryInput preRegistration metric margin) = .ok rows ∧
      primary.effect = worstEffect (rows.map (·.effect)) := by
  obtain ⟨metric, hmetric, h⟩ := Checks.bind_eq_ok.mp h
  obtain ⟨hne, h⟩ := Checks.refuse_eq_ok.mp h
  obtain ⟨⟨⟩, -, h⟩ := Checks.bind_eq_ok.mp h
  obtain ⟨margin, hmargin, h⟩ := Checks.bind_eq_ok.mp h
  obtain ⟨rows, hrows, h⟩ := Checks.bind_eq_ok.mp h
  exact ⟨metric, margin, rows, orThrow_eq_ok.mp hmetric, orThrow_eq_ok.mp hmargin,
    mt List.length_eq_zero_iff.mpr hne, hrows, decidingRow_eq_ok (orThrow_eq_ok.mp h)⟩

theorem oneLockedGoal_ok {margin : CiBound} {count : Nat} {metricId : String}
    {rows : List ClassifiedEffect}
    (h : classifyOneLockedGoal numbers preRegistration arms controlVariant margin count metricId =
      .ok rows) :
    rows ≠ [] ∧ ∃ metric, metricById preRegistration metricId = some metric ∧
      classifyTreatmentArms numbers (treatmentArmsFor metricId arms controlVariant)
        (lockedInput preRegistration metric margin count metricId) = .ok rows := by
  obtain ⟨metric, hmetric, h⟩ := Checks.bind_eq_ok.mp h
  obtain ⟨⟨⟩, -, h⟩ := Checks.bind_eq_ok.mp h
  obtain ⟨rows', hrows, h⟩ := Checks.bind_eq_ok.mp h
  obtain ⟨hne, h⟩ := Checks.refuse_eq_ok.mp h
  cases h
  exact ⟨mt List.length_eq_zero_iff.mpr hne, metric, orUnavailable_eq_ok.mp hmetric,
    orUnavailableForScale_eq_ok.mp hrows⟩

/-- **The goals** that are combined are the rows of the Treatment arms of every locked goal. -/
theorem lockedGoals_ok {goals : List ClassifiedEffect}
    (h : classifyLockedGoalMetrics numbers preRegistration arms controlVariant
      guardrailMetricIds = .ok goals) :
    goals ≠ [] ∧ ∃ margin, marginOnIntervalScale numbers preRegistration.shipRule.requiredMargin
      preRegistration.shipRule.marginScale = .ok margin ∧
      ∃ groups, goals = groups.flatten ∧
        (lockedGoalMetricIds arms guardrailMetricIds).mapM (classifyOneLockedGoal numbers
          preRegistration arms controlVariant margin (countShipMarginComparisons
            (lockedGoalMetricIds arms guardrailMetricIds) arms controlVariant)) = .ok groups := by
  obtain ⟨margin, hmargin, h⟩ := Checks.bind_eq_ok.mp h
  obtain ⟨groups, hgroups, h⟩ := Checks.bind_eq_ok.mp h
  obtain ⟨hne, h⟩ := Checks.refuse_eq_ok.mp h
  cases h
  exact ⟨mt List.length_eq_zero_iff.mpr hne, margin, orThrow_eq_ok.mp hmargin, groups, rfl,
    hgroups⟩

end Found

/-- The verdict of an answer, if it has one. -/
def verdictOf : Except String ShipRecommendationResult → Option ShipRecommendationVerdict
  | .ok (.recommendation verdict _) => some verdict
  | _ => none

end Stats

end Splitch
