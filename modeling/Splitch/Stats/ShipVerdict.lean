/-
# The verdict and the order of rows

The verdict on a Run is the first answer of a chain: alarms and closed checks, breached guardrails, and the
combined effect of the arms.  Here the chain is read as what it is (`verdictOf_compute`), and two things are
drawn from it.

What stands behind a verdict to ship is that every link before the last has passed, so the gate is open,
nothing is breached, and the combined effect is a win (`ship_parts`).

And the verdict does not depend on the order of the rows (`verdict_same`).  That is not plain from the code,
which takes the FIRST row with the worst effect, the first breached guardrail and the first check that
fails, and puts them into sentences.  The texts do differ.  But each decision is a function of the SET of
rows: a check of the gate fails or not whatever rows it names (`gate_same`), the worst effect of a list is
that of its effects (`combined_same`), and a guardrail is breached or none is (`breached_same`).

One place remains where the order counts: under a relative rule the sign of the Control's mean is read off
the first Control row of a Metric.  The result therefore asks that the Control rows of a Metric agree on it
(`ControlsAgree`), and without that it is false.
-/
import Splitch.Stats.ShipRecommendation

namespace Splitch

namespace Stats

/-! ## 1. The verdict by its parts -/

def verdictFor : MetricEffectVerdict → ShipRecommendationVerdict
  | .harmful => .doNotShip
  | .undecided => .keepRunning
  | .beneficial => .ship

def effectVerdict : Except Stop ClassifiedEffect → Option ShipRecommendationVerdict
  | .ok combined => some (verdictFor combined.effect)
  | .error _ => none

section Verdict

variable {numbers : Numbers} {registration : PreRegistration} {gate : ExperimentDecisionGate}
  {stats : StatsOutput} {controlVariant : String} {horizon : Option RunHorizon}

theorem verdictOf_orRecommendationUnavailable (x : Except Stop ClassifiedEffect) :
    verdictOf (orRecommendationUnavailable (x >>= fun combined =>
      pure (verdictOnEffect combined))) = effectVerdict x := by
  cases x with
  | error stop => cases stop <;> rfl
  | ok combined =>
    change verdictOf (.ok (verdictOnEffect combined)) = some (verdictFor combined.effect)
    rw [verdictOnEffect]
    cases combined.effect <;> rfl

/-- **The verdict** on a registered Run, by the first part that has an answer. -/
theorem verdictOf_compute :
    verdictOf (computeShipRecommendation numbers (some registration) gate stats controlVariant
      horizon) =
      if (firstFailedCheck gate INVALID_CHECK_IDS).isSome then some .invalid
      else if (firstFailedCheck gate NOT_READY_CHECK_IDS).isSome then some .keepRunning
      else if (firstBreachedGuardrail stats.guardrailResults).isSome then some .doNotShip
      else if registration.shipRule.marginScale = .relative ∧ horizon = some .sequential then none
      else effectVerdict (combinedEffect numbers registration stats controlVariant) := by
  rw [computeShipRecommendation]
  cases firstFailedCheck gate INVALID_CHECK_IDS with
  | some invalid => rfl
  | none =>
    cases firstFailedCheck gate NOT_READY_CHECK_IDS with
    | some notReady => rfl
    | none =>
      cases firstBreachedGuardrail stats.guardrailResults with
      | some breached => rfl
      | none =>
        simp only [Option.isSome_none, Bool.false_eq_true, if_false]
        split
        · rfl
        · exact verdictOf_orRecommendationUnavailable _

theorem firstFailedCheck_isSome {ids : List DecisionGateCheckId} :
    (firstFailedCheck gate ids).isSome = true ↔
      ∃ check ∈ gate.checks, check.status = .fail ∧ check.id ∈ ids := by
  rw [firstFailedCheck, List.find?_isSome]
  simp only [decide_eq_true_eq]

/-- A check that fails is of one kind or the other. -/
theorem invalid_or_notReady (id : DecisionGateCheckId) :
    id ∈ INVALID_CHECK_IDS ∨ id ∈ NOT_READY_CHECK_IDS := by
  cases id <;> decide

/-- What stands behind a verdict to ship. -/
theorem ship_parts {preRegistration : Option PreRegistration}
    (h : verdictOf (computeShipRecommendation numbers preRegistration gate stats controlVariant
      horizon) = some .ship) :
    (∀ check ∈ gate.checks, check.status ≠ .fail) ∧
      (∀ row ∈ stats.guardrailResults, row.isBreached ≠ some true) ∧
      ∃ registration combined, preRegistration = some registration ∧
        combinedEffect numbers registration stats controlVariant = .ok combined ∧
        combined.effect = .beneficial := by
  cases preRegistration with
  | none => cases h
  | some registration =>
    rw [verdictOf_compute] at h
    split at h
    · cases h
    · rename_i hinvalid
      split at h
      · cases h
      · rename_i hready
        split at h
        · cases h
        · rename_i hbreach
          split at h
          · cases h
          · refine ⟨fun check hcheck hfail => ?_, fun row hrow hbreached => ?_, registration, ?_⟩
            · rcases invalid_or_notReady check.id with hid | hid
              · exact hinvalid (firstFailedCheck_isSome.mpr ⟨check, hcheck, hfail, hid⟩)
              · exact hready (firstFailedCheck_isSome.mpr ⟨check, hcheck, hfail, hid⟩)
            · exact hbreach (List.find?_isSome.mpr ⟨row, hrow, decide_eq_true hbreached⟩)
            · cases hcombined : combinedEffect numbers registration stats controlVariant with
              | error stop => rw [hcombined] at h; cases h
              | ok combined =>
                rw [hcombined] at h
                refine ⟨combined, rfl, rfl, ?_⟩
                cases heffect : combined.effect with
                | beneficial => rfl
                | harmful => simp [effectVerdict, heffect, verdictFor] at h
                | undecided => simp [effectVerdict, heffect, verdictFor] at h

end Verdict

/-! ## 2. Rows in another order -/

structure SameDimension (dimension dimension' : DimensionResult) : Prop where
  dimensionId : dimension.dimensionId = dimension'.dimensionId
  dimensionValue : dimension.dimensionValue = dimension'.dimensionValue
  dimensionClass : dimension.dimensionClass = dimension'.dimensionClass
  arms : dimension.armResults.Perm dimension'.armResults

/-- The same results, with every list of rows in some order. -/
structure SameRows (stats stats' : StatsOutput) : Prop where
  arms : stats.armResults.Perm stats'.armResults
  guardrails : stats.guardrailResults.Perm stats'.guardrailResults
  dimensions : ∃ middle, (stats.dimensionResults.getD []).Perm middle ∧
    List.Forall₂ SameDimension middle (stats'.dimensionResults.getD [])
  srm : stats.srm = stats'.srm
  health : stats.health = stats'.health

/-- Under a relative rule the Control rows of a Metric agree on whether their mean is positive. -/
def ControlsAgree (scale : RopeScale) (arms : List ArmResult) (controlVariant : String) : Prop :=
  scale = .relative → ∀ arm ∈ arms, ∀ arm' ∈ arms, arm.metricId = arm'.metricId →
    arm.variant = controlVariant → arm'.variant = controlVariant →
      (0 < arm.pointEstimate ↔ 0 < arm'.pointEstimate)

section Gate

variable {numbers : Numbers} {stats stats' : StatsOutput} {control : FrozenControlIdentity}
  {duration : PlannedDurationEvidence} {alarms : List PersistedSrmAlarm}

variable (alarms) in
theorem SameRows.overlay (h : SameRows stats stats') :
    SameRows (overlayPersistedSrmAlarms stats alarms) (overlayPersistedSrmAlarms stats' alarms) := by
  simp only [overlayPersistedSrmAlarms]
  split
  · exact h
  · split
    · exact h
    · exact ⟨h.arms, h.guardrails, h.dimensions, by rw [h.srm], h.health⟩

theorem sameDimensions_members {dimensions dimensions' : List DimensionResult}
    (h : List.Forall₂ SameDimension dimensions dimensions') :
    ((dimensions.filter (·.dimensionClass = .primary)).flatMap fun dimension =>
      dimension.armResults.map fun result => (⟨result, metricLabel result ++ " [" ++
        dimension.dimensionId ++ "=" ++ dimension.dimensionValue ++ "]"⟩ :
          DecisionFamilyMember)).Perm
      ((dimensions'.filter (·.dimensionClass = .primary)).flatMap fun dimension =>
        dimension.armResults.map fun result => ⟨result, metricLabel result ++ " [" ++
          dimension.dimensionId ++ "=" ++ dimension.dimensionValue ++ "]"⟩) := by
  induction h with
  | nil => exact .refl _
  | cons hdim _ ih =>
    rw [List.filter_cons, List.filter_cons, hdim.dimensionClass]
    split
    · rw [List.flatMap_cons, List.flatMap_cons, hdim.dimensionId, hdim.dimensionValue]
      exact (hdim.arms.map _).append ih
    · exact ih

theorem SameRows.family (h : SameRows stats stats') :
    (decisionFamily stats).Perm (decisionFamily stats') := by
  obtain ⟨middle, hperm, hsame⟩ := h.dimensions
  exact (h.arms.map _).append
    (((hperm.filter _).flatMap_right _).trans (sameDimensions_members hsame))

theorem SameRows.engineStatus (h : SameRows stats stats') :
    (engineStatusCheck stats).status = (engineStatusCheck stats').status := by
  have hvalid : (decisionValidMembers stats).Perm (decisionValidMembers stats') := h.family.filter _
  simp only [engineStatusCheck, hvalid.length_eq, (hvalid.filter _).length_eq]
  split
  · rfl
  · split <;> rfl

theorem SameRows.underpowered (h : SameRows stats stats') :
    (underpoweredCheck stats).status = (underpoweredCheck stats').status := by
  have hvalid : (decisionValidMembers stats).Perm (decisionValidMembers stats') := h.family.filter _
  simp only [underpoweredCheck, hvalid.length_eq, (hvalid.filter _).length_eq, h.health]
  split
  · rfl
  · split
    · rfl
    · split <;> rfl

theorem SameRows.decisionValid (h : SameRows stats stats') :
    (decisionValidCheck stats).status = (decisionValidCheck stats').status := by
  have hlocked : (lockedFamilyMembers stats).Perm (lockedFamilyMembers stats') := h.family.filter _
  simp only [decisionValidCheck, hlocked.length_eq]

theorem engineStatusCheck_id : (engineStatusCheck stats).id = .engineStatus := by
  simp only [engineStatusCheck]
  split
  · rfl
  · split <;> rfl

theorem underpoweredCheck_id : (underpoweredCheck stats).id = .underpowered := by
  simp only [underpoweredCheck]
  split
  · rfl
  · split
    · rfl
    · split <;> rfl

theorem decisionValidCheck_id : (decisionValidCheck stats).id = .decisionValidResult := by
  simp only [decisionValidCheck]
  split <;> rfl

/-- The checks of a gate, less what they say. -/
def signature (gate : ExperimentDecisionGate) : List (DecisionGateCheckId × CheckStatus) :=
  gate.checks.map fun check => (check.id, check.status)

variable (numbers control duration alarms) in
/-- **The gate** does not depend on the order of rows. -/
theorem gate_same (h : SameRows stats stats') :
    Agreement.Alike (fun gate gate' => signature gate = signature gate')
      (evaluateExperimentDecisionGate numbers stats control duration alarms)
      (evaluateExperimentDecisionGate numbers stats' control duration alarms) := by
  have hover := h.overlay alarms
  refine Agreement.Alike.bind (fun check check' hcheck => ?_)
    (Agreement.Alike.refl (R := Eq) (fun _ => rfl) (plannedDurationCheck numbers duration))
  subst hcheck
  change signature _ = signature _
  simp only [signature, gateOf, experimentSrmDiagnostics, List.map_cons, List.map_nil, hover.srm,
    hover.health, engineStatusCheck_id, underpoweredCheck_id, decisionValidCheck_id,
    hover.engineStatus, hover.underpowered, hover.decisionValid]

theorem firstFailedCheck_same {gate gate' : ExperimentDecisionGate}
    (h : signature gate = signature gate') (ids : List DecisionGateCheckId) :
    (firstFailedCheck gate ids).isSome = (firstFailedCheck gate' ids).isSome := by
  have hiff : ∀ gate : ExperimentDecisionGate, (firstFailedCheck gate ids).isSome = true ↔
      ∃ entry ∈ signature gate, entry.2 = .fail ∧ entry.1 ∈ ids := by
    intro gate
    rw [firstFailedCheck_isSome, signature]
    simp only [List.mem_map, exists_exists_and_eq_and]
  rw [Bool.eq_iff_iff, hiff, hiff, h]

end Gate

section Effects

variable {numbers : Numbers} {registration : PreRegistration} {stats stats' : StatsOutput}
  {controlVariant : String} {scale : RopeScale} {arms arms' : List ArmResult}

variable (controlVariant) in
theorem treatmentArmsFor_perm (h : arms.Perm arms') (metricId : String) :
    (treatmentArmsFor metricId arms controlVariant).Perm
      (treatmentArmsFor metricId arms' controlVariant) := h.filter _

theorem controlGate_same (h : arms.Perm arms')
    (hcontrols : ControlsAgree scale arms controlVariant) (metricId : String) :
    Agreement.Alike (fun _ _ => True) (relativeControlMeanGate scale metricId arms controlVariant)
      (relativeControlMeanGate scale metricId arms' controlVariant) := by
  cases scale with
  | absolute => trivial
  | relative =>
    have hmem := fun (as : List ArmResult) (arm : ArmResult)
        (h : as.find? (fun arm => decide (arm.metricId = metricId ∧ arm.variant = controlVariant)) =
          some arm) =>
      And.intro (List.mem_of_find?_eq_some h) (of_decide_eq_true (List.find?_some h :))
    simp only [relativeControlMeanGate]
    cases hfind : arms.find? fun arm => decide (arm.metricId = metricId ∧
        arm.variant = controlVariant) with
    | none =>
      have hnone : arms'.find? (fun arm => decide (arm.metricId = metricId ∧
          arm.variant = controlVariant)) = none := by
        rw [List.find?_eq_none] at hfind ⊢
        exact fun arm harm => hfind arm (h.mem_iff.mpr harm)
      rw [hnone]
      trivial
    | some arm =>
      cases hfind' : arms'.find? fun arm => decide (arm.metricId = metricId ∧
          arm.variant = controlVariant) with
      | none =>
        rw [List.find?_eq_none] at hfind'
        obtain ⟨harm, hboth⟩ := hmem arms arm hfind
        exact absurd (decide_eq_true hboth) (hfind' arm (h.mem_iff.mp harm))
      | some arm' =>
        obtain ⟨harm, hid, hvariant⟩ := hmem arms arm hfind
        obtain ⟨harm', hid', hvariant'⟩ := hmem arms' arm' hfind'
        have hsign := hcontrols rfl arm harm arm' (h.mem_iff.mpr harm') (hid.trans hid'.symm)
          hvariant hvariant'
        by_cases hpos : 0 < arm.pointEstimate
        · simp only [not_le.mpr hpos, not_le.mpr (hsign.mp hpos), if_false]
          trivial
        · simp only [not_lt.mp hpos, not_lt.mp (mt hsign.mpr hpos), if_true]
          trivial

theorem SameEffects.length_eq_zero {rows rows' : List ClassifiedEffect}
    (h : SameEffects rows rows') : rows.length = 0 ↔ rows'.length = 0 := by
  rw [List.length_eq_zero_iff, List.length_eq_zero_iff, List.eq_nil_iff_forall_not_mem,
    List.eq_nil_iff_forall_not_mem]
  constructor
  · intro hnone row' hrow'
    obtain ⟨row, hrow, -⟩ := h.2 row' hrow'
    exact hnone row hrow
  · intro hnone row hrow
    obtain ⟨row', hrow', -⟩ := h.1 row hrow
    exact hnone row' hrow'

theorem primary_same (h : arms.Perm arms')
    (hcontrols : ControlsAgree registration.shipRule.marginScale arms controlVariant) :
    Agreement.Alike (fun primary primary' => primary.effect = primary'.effect)
      (resolvePrimaryEffect numbers registration arms controlVariant)
      (resolvePrimaryEffect numbers registration arms' controlVariant) := by
  refine Agreement.Alike.bind (fun metric metric' hmetric => ?_)
    (Agreement.Alike.refl (R := Eq) (fun _ => rfl) (orThrow (requirePrimaryMetric registration)))
  subst hmetric
  have htreatment := treatmentArmsFor_perm controlVariant h
    registration.primaryMetricId
  refine Agreement.Alike.refuse (by rw [htreatment.length_eq]) fun _ => ?_
  refine Agreement.Alike.bind (fun _ _ _ => ?_) (controlGate_same h hcontrols _)
  refine Agreement.Alike.bind (fun margin margin' hmargin => ?_)
    (Agreement.Alike.refl (R := Eq) (fun _ => rfl) (orThrow (marginOnIntervalScale numbers
      registration.shipRule.requiredMargin registration.shipRule.marginScale)))
  subst hmargin
  refine Agreement.Alike.bind (fun rows rows' hrows => ?_) (classifyTreatmentArms_same htreatment _)
  refine Agreement.Alike.of_ok ?_ fun row row' hrow hrow' => ?_
  · simp only [orThrow_eq_ok, exists_decidingRow]
    have hnil := hrows.length_eq_zero
    rw [List.length_eq_zero_iff, List.length_eq_zero_iff] at hnil
    exact not_congr hnil
  · rw [decidingRow_eq_ok (orThrow_eq_ok.mp hrow), decidingRow_eq_ok (orThrow_eq_ok.mp hrow')]
    exact worstEffect_congr fun effect => by simpa using hrows.mem effect

variable {guardrailMetricIds guardrailMetricIds' : List String}

/-- The locked goals are the same set of Metrics. -/
theorem lockedIds_perm (h : arms.Perm arms')
    (hguards : ∀ id, id ∈ guardrailMetricIds ↔ id ∈ guardrailMetricIds') :
    (lockedGoalMetricIds arms guardrailMetricIds).Perm
      (lockedGoalMetricIds arms' guardrailMetricIds') := by
  rw [List.perm_ext_iff_of_nodup nodup_lockedGoalMetricIds nodup_lockedGoalMetricIds]
  intro id
  have hlocked : isLockedRow guardrailMetricIds = isLockedRow guardrailMetricIds' := by
    funext arm
    simp only [isLockedRow, hguards]
  simp only [mem_lockedGoalMetricIds, hlocked, h.mem_iff]

theorem countShipMarginComparisons_perm {ids ids' : List String} (h : arms.Perm arms')
    (hids : ids.Perm ids') : countShipMarginComparisons ids arms controlVariant =
      countShipMarginComparisons ids' arms' controlVariant := by
  have hcount : (fun id => (treatmentArmsFor id arms controlVariant).length) =
      fun id => (treatmentArmsFor id arms' controlVariant).length := by
    funext id
    exact (treatmentArmsFor_perm _ h id).length_eq
  simp only [countShipMarginComparisons, hcount, (hids.map _).sum_nat]

theorem SameEffects.flatten {groups groups' : List (List ClassifiedEffect)}
    (h : Agreement.Covers SameEffects groups groups') :
    SameEffects groups.flatten groups'.flatten := by
  constructor
  · intro row hrow
    obtain ⟨rows, hrows, hrow⟩ := List.mem_flatten.mp hrow
    obtain ⟨rows', hrows', hsame⟩ := h.1 rows hrows
    obtain ⟨row', hrow', heq⟩ := hsame.1 row hrow
    exact ⟨row', List.mem_flatten.mpr ⟨rows', hrows', hrow'⟩, heq⟩
  · intro row' hrow'
    obtain ⟨rows', hrows', hrow'⟩ := List.mem_flatten.mp hrow'
    obtain ⟨rows, hrows, hsame⟩ := h.2 rows' hrows'
    obtain ⟨row, hrow, heq⟩ := hsame.2 row' hrow'
    exact ⟨row, List.mem_flatten.mpr ⟨rows, hrows, hrow⟩, heq⟩

theorem orUnavailableForScale_same {x y : Except Stop (List ClassifiedEffect)}
    (h : Agreement.Alike SameEffects x y) :
    Agreement.Alike SameEffects (orUnavailableForScale scale x) (orUnavailableForScale scale y) := by
  cases x <;> cases y <;> exact h

theorem oneLockedGoal_same (h : arms.Perm arms')
    (hcontrols : ControlsAgree registration.shipRule.marginScale arms controlVariant)
    (margin : CiBound) (count : Nat) (metricId : String) :
    Agreement.Alike SameEffects
      (classifyOneLockedGoal numbers registration arms controlVariant margin count metricId)
      (classifyOneLockedGoal numbers registration arms' controlVariant margin count metricId) := by
  refine Agreement.Alike.bind (fun metric metric' hmetric => ?_)
    (Agreement.Alike.refl (R := Eq) (fun _ => rfl)
      (orUnavailable .lockedGoalDesirabilityMissing (metricById registration metricId)))
  subst hmetric
  refine Agreement.Alike.bind (fun _ _ _ => ?_) (controlGate_same h hcontrols _)
  refine Agreement.Alike.bind (fun rows rows' hrows => ?_)
    (orUnavailableForScale_same (classifyTreatmentArms_same (treatmentArmsFor_perm _ h _) _))
  exact Agreement.Alike.refuse hrows.length_eq_zero fun _ => hrows

variable (numbers) in
theorem lockedGoals_same (h : arms.Perm arms')
    (hcontrols : ControlsAgree registration.shipRule.marginScale arms controlVariant)
    (hguards : ∀ id, id ∈ guardrailMetricIds ↔ id ∈ guardrailMetricIds') :
    Agreement.Alike SameEffects
      (classifyLockedGoalMetrics numbers registration arms controlVariant guardrailMetricIds)
      (classifyLockedGoalMetrics numbers registration arms' controlVariant
        guardrailMetricIds') := by
  have hids := lockedIds_perm h hguards
  refine Agreement.Alike.bind (fun margin margin' hmargin => ?_)
    (Agreement.Alike.refl (R := Eq) (fun _ => rfl) (orThrow (marginOnIntervalScale numbers
      registration.shipRule.requiredMargin registration.shipRule.marginScale)))
  subst hmargin
  refine Agreement.Alike.bind (R := Agreement.Covers SameEffects) (fun groups groups' hgroups => ?_)
    (Agreement.Alike.mapM (fun _ => hids.mem_iff) fun id _ => ?_)
  · have hflat := SameEffects.flatten hgroups
    exact Agreement.Alike.refuse hflat.length_eq_zero fun _ => hflat
  · rw [countShipMarginComparisons_perm h hids]
    exact oneLockedGoal_same h hcontrols _ _ id

variable (numbers) in
/-- **The combined effect** does not depend on the order of rows. The loops go over the same arms in
another order, and the effect is a function of the effects that occur; the Control rows must agree
because the first of them is read. -/
theorem combined_same (h : SameRows stats stats')
    (hcontrols : ControlsAgree registration.shipRule.marginScale stats.armResults controlVariant) :
    Agreement.Alike (fun combined combined' => combined.effect = combined'.effect)
      (combinedEffect numbers registration stats controlVariant)
      (combinedEffect numbers registration stats' controlVariant) := by
  refine Agreement.Alike.bind (fun primary primary' hprimary => ?_) (primary_same h.arms hcontrols)
  by_cases hrule : registration.shipRule.conflictResolution = .primaryWins
  · simp only [goalEffects, hrule, if_true]
    exact hprimary
  · simp only [goalEffects, hrule, if_false]
    have hguards := fun id => (h.guardrails.map (·.metricId)).mem_iff (a := id)
    refine Agreement.Alike.of_ok ?_ fun combined combined' hcombined hcombined' => ?_
    · have hiff := (lockedGoals_same numbers h.arms hcontrols hguards).ok_iff
      simp only [Checks.bind_eq_ok, Checks.pure_eq_ok]
      constructor
      · rintro ⟨combined, goals, hgoals, -⟩
        obtain ⟨goals', hgoals'⟩ := hiff.mp ⟨goals, hgoals⟩
        exact ⟨_, goals', hgoals', rfl⟩
      · rintro ⟨combined, goals', hgoals', -⟩
        obtain ⟨goals, hgoals⟩ := hiff.mpr ⟨goals', hgoals'⟩
        exact ⟨_, goals, hgoals, rfl⟩
    · obtain ⟨goals, hgoals, hcombined⟩ := Checks.bind_eq_ok.mp hcombined
      obtain ⟨goals', hgoals', hcombined'⟩ := Checks.bind_eq_ok.mp hcombined'
      cases hcombined
      cases hcombined'
      have hsame := (lockedGoals_same numbers h.arms hcontrols hguards).rel hgoals hgoals'
      have hmem : ∀ effect, effect ∈ goals.map (·.effect) ↔ effect ∈ goals'.map (·.effect) :=
        fun effect => by simpa using hsame.mem effect
      rw [combineEffects_effect (lockedGoals_ok hgoals).1,
        combineEffects_effect (lockedGoals_ok hgoals').1]
      cases registration.shipRule.conflictResolution with
      | primaryWins => exact hprimary
      | unanimousGoals => exact worstEffect_congr hmem
      | anyGoal => exact anyGoalEffect_congr hmem

theorem breached_same (h : SameRows stats stats') :
    (firstBreachedGuardrail stats.guardrailResults).isSome =
      (firstBreachedGuardrail stats'.guardrailResults).isSome := by
  rw [Bool.eq_iff_iff, firstBreachedGuardrail, firstBreachedGuardrail, List.find?_isSome,
    List.find?_isSome]
  simp only [h.guardrails.mem_iff]

theorem effectVerdict_same {x y : Except Stop ClassifiedEffect}
    (h : Agreement.Alike (fun combined combined' => combined.effect = combined'.effect) x y) :
    effectVerdict x = effectVerdict y := by
  cases x with
  | error stop =>
    cases y with
    | error stop' => rfl
    | ok combined => cases h
  | ok combined =>
    cases y with
    | error stop => cases h
    | ok combined' => exact congrArg (some <| verdictFor ·) h

/-- The verdict of a read. -/
def verdict (numbers : Numbers) (read : ResultsRead) : Option ShipRecommendationVerdict :=
  verdictOf (produceRecommendation numbers read)

/-- **Order independence**: rows in another order have the same verdict. They pass the same gate,
breach the same guardrails and combine to the same effect, or throw on both sides. -/
theorem verdict_same {read : ResultsRead} (h : SameRows read.stats stats')
    (hcontrols : ∀ registration, read.preRegistration = some registration →
      ControlsAgree registration.shipRule.marginScale read.stats.armResults read.controlVariant) :
    verdict numbers { read with stats := stats' } = verdict numbers read := by
  have hgates := gate_same numbers read.control read.duration read.persistedAlarms h
  rw [verdict, verdict, produceRecommendation, produceRecommendation]
  cases hgate : evaluateExperimentDecisionGate numbers read.stats read.control read.duration
      read.persistedAlarms with
  | error message =>
    rw [hgate] at hgates
    cases hgate' : evaluateExperimentDecisionGate numbers stats' read.control read.duration
        read.persistedAlarms with
    | error message' => rfl
    | ok gate' => rw [hgate'] at hgates; cases hgates
  | ok gate =>
    rw [hgate] at hgates
    cases hgate' : evaluateExperimentDecisionGate numbers stats' read.control read.duration
        read.persistedAlarms with
    | error message' => rw [hgate'] at hgates; cases hgates
    | ok gate' =>
      rw [hgate'] at hgates
      change verdictOf (computeShipRecommendation _ _ gate' stats' _ _) =
        verdictOf (computeShipRecommendation _ _ gate read.stats _ _)
      cases hreg : read.preRegistration with
      | none => rfl
      | some registration =>
        have hsignature : signature gate = signature gate' := hgates
        simp only [verdictOf_compute, firstFailedCheck_same hsignature, breached_same h,
          effectVerdict_same (combined_same numbers h (hcontrols registration hreg))]

end Effects

end Stats

end Splitch
