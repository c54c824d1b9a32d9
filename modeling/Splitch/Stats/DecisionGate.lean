/-
# The decision gate

The eight checks that permit a decision on a Run (`decision-gate.ts`, `decision-gate-checks.ts`,
`decision-gate-family.ts`, `decision-gate-control-identity.ts`, `decision-gate-duration.ts`).

Each check is a status, a code and a sentence, made from the rows of the results and the diagnostics of the
Run.  The sentences are kept as the source has them, since a verdict cites them.  Three checks are about
sample ratio mismatches, each from a signal of the read and from the ALARMS that were persisted before: an
alarm is laid over the signal, so that a mismatch that was once recorded stays one although the present
counts look balanced (`overlay_mismatch`).  Three are about the results of the decision family, one about the
Control that the Run has frozen, and one about its planned duration.

The gate is open just when no check fails (`shipAllowed_iff`); a check that does not apply does not close it.
An alarm of a kind fails the check of its kind (`fails_of_alarm`), and so closes the gate whatever else the
read has found.
-/
import Splitch.Stats.StatsResults
import Splitch.Library.Checks

namespace Splitch

namespace Stats

/-! ## 1. Checks and diagnostics -/

inductive SrmTier
  | clean
  | possibleImbalance
  | confirmed
  deriving DecidableEq, Repr

inductive DecisionGateCheckId
  | controlIdentity
  | exposureSrm
  | activatedSrm
  | activationBalance
  | engineStatus
  | underpowered
  | plannedDuration
  | decisionValidResult
  deriving DecidableEq, Repr

inductive CheckStatus
  | pass
  | fail
  | notApplicable
  deriving DecidableEq, Repr

structure DecisionGateCheck where
  id : DecisionGateCheckId
  status : CheckStatus
  title : String
  detail : String
  deriving DecidableEq, Repr

structure SrmDeviation where
  variant : String
  observed : Int
  expected : Int
  delta : Int
  deriving DecidableEq, Repr

structure SrmSignal where
  tier : SrmTier
  pValue : Option Rat
  deviations : List SrmDeviation
  firstCrossedAt : Option String

structure BalanceSignal where
  tier : SrmTier
  pValue : Option Rat

structure ExperimentSrmDiagnostics where
  exposure : SrmSignal
  activated : Option SrmSignal
  activationBalance : Option BalanceSignal

structure ExperimentDecisionGate where
  shipAllowed : Bool
  blockedBy : List DecisionGateCheckId
  checks : List DecisionGateCheck
  enforcedBy : String := "control-plane-api"

/-! ## 2. Mismatches -/

def SRM_MISMATCH_P_VALUE : Rat := 1 / 1000
def SRM_CAUTION_P : Rat := 1 / 100

def srmIsFiring (pValue : Option Rat) (isMismatch : Option Bool) : Bool :=
  match isMismatch with
  | some mismatch => mismatch
  | none => pValue.any (· < SRM_MISMATCH_P_VALUE)

def srmTierFor (pValue : Option Rat) (isMismatch : Option Bool) : SrmTier :=
  if srmIsFiring pValue isMismatch then .confirmed
  else if pValue.any (· < SRM_CAUTION_P) then .possibleImbalance
  else .clean

def alarmFor (alarms : List PersistedSrmAlarm) (kind : SrmKind) : Option PersistedSrmAlarm :=
  alarms.find? (·.srmKind = kind)

def countOf (counts : VariantCounts) (variant : String) : Int := (counts.lookup variant).getD 0

def srmDeviations (observed expected : VariantCounts) : List SrmDeviation :=
  let variants := (observed.map Prod.fst ++ expected.map Prod.fst).dedup
  (Sorting.sortBy Utf16.units variants).map fun variant =>
    { variant
      observed := countOf observed variant
      expected := countOf expected variant
      delta := countOf observed variant - countOf expected variant }

def experimentSrmDiagnostics (stats : StatsOutput) (persistedAlarms : List PersistedSrmAlarm) :
    ExperimentSrmDiagnostics :=
  let exposureAlarm := alarmFor persistedAlarms .exposure
  let activatedAlarm := alarmFor persistedAlarms .activated
  let exposureMismatch := stats.srm.srmIsMismatch || exposureAlarm.isSome
  let activatedMismatch := stats.srm.activatedSrmMismatch == some true || activatedAlarm.isSome
  let hasActivationGate := stats.srm.activatedSrmPValue.isSome ||
    stats.srm.activatedSrmMismatch.isSome || activatedAlarm.isSome
  let hasActivationBalance := stats.health.activationBalancePValue.isSome ||
    stats.health.activationBalanceMismatch.isSome
  { exposure :=
      { tier := srmTierFor (some stats.srm.srmPValue) (some exposureMismatch)
        pValue := some stats.srm.srmPValue
        deviations := srmDeviations stats.srm.observedCounts stats.srm.expectedCounts
        firstCrossedAt := exposureAlarm.map (·.firstCrossedAt) }
    activated :=
      if hasActivationGate then
        some
          { tier := srmTierFor stats.srm.activatedSrmPValue (some activatedMismatch)
            pValue := stats.srm.activatedSrmPValue
            deviations := []
            firstCrossedAt := activatedAlarm.map (·.firstCrossedAt) }
      else none
    activationBalance :=
      if hasActivationBalance then
        some
          { tier := srmTierFor stats.health.activationBalancePValue
              stats.health.activationBalanceMismatch
            pValue := stats.health.activationBalancePValue }
      else none }

def overlayPersistedSrmAlarms (stats : StatsOutput) (persistedAlarms : List PersistedSrmAlarm) :
    StatsOutput :=
  if persistedAlarms = [] then stats
  else
    let exposureAlarm := alarmFor persistedAlarms .exposure
    let activatedAlarm := alarmFor persistedAlarms .activated
    if exposureAlarm.isNone && activatedAlarm.isNone then stats
    else
      { stats with
        srm :=
          { stats.srm with
            srmIsMismatch := stats.srm.srmIsMismatch || exposureAlarm.isSome
            activatedSrmMismatch :=
              if activatedAlarm.isSome then some true else stats.srm.activatedSrmMismatch } }

section Checks

variable (numbers : Numbers)

def formatP : Option Rat → String
  | none => "unavailable"
  | some value => numbers.formatPValue value

def exposureSrmCheck (signal : SrmSignal) (isMismatch : Option Bool) : DecisionGateCheck :=
  let p := formatP numbers signal.pValue
  if srmIsFiring signal.pValue isMismatch then
    { id := .exposureSrm
      status := .fail
      title := "Sample Ratio Mismatch is firing"
      detail := "Exposures are split differently than allocated (chi-square p = " ++ p ++
        "). Assignment is untrustworthy, so no Variant can be called a winner. Diagnose the " ++
        "cause and start a new Run." }
  else if signal.tier = .possibleImbalance then
    { id := .exposureSrm
      status := .pass
      title := "Exposure split is within tolerance, with a caution"
      detail := "Chi-square p = " ++ p ++ " sits in the 0.001-0.01 caution band. That is worth " ++
        "watching and often self-resolves, but it is not a Sample Ratio Mismatch and does not " ++
        "block a decision." }
  else
    { id := .exposureSrm
      status := .pass
      title := "Exposure split matches allocation"
      detail := "Chi-square p = " ++ p ++ ", above the 0.01 caution band." }

def activatedSrmCheck (signal : Option SrmSignal) (isMismatch : Option Bool) :
    DecisionGateCheck :=
  match signal with
  | none =>
    { id := .activatedSrm
      status := .notApplicable
      title := "Activated-population SRM"
      detail :=
        "This Experiment has no activation gate, so there is no activated population." }
  | some signal =>
    let p := formatP numbers signal.pValue
    if srmIsFiring signal.pValue isMismatch then
      { id := .activatedSrm
        status := .fail
        title := "Activated-population SRM is firing"
        detail := "The activated subpopulation is skewed (chi-square p = " ++ p ++ "). This is " ++
          "the fingerprint of a Treatment-affected activation gate, and it biases the gated " ++
          "result even when the full exposure split looks clean." }
    else if signal.tier = .possibleImbalance then
      { id := .activatedSrm
        status := .pass
        title := "Activated population is balanced, with a caution"
        detail := "Chi-square p = " ++ p ++ " on activated Entities sits in the caution band. " ++
          "Worth watching, not a mismatch." }
    else
      { id := .activatedSrm
        status := .pass
        title := "Activated population is balanced"
        detail := "Chi-square p = " ++ p ++ " on activated Entities." }

def activationBalanceCheck (balance : Option BalanceSignal) (isMismatch : Option Bool) :
    DecisionGateCheck :=
  match balance with
  | none =>
    { id := .activationBalance
      status := .notApplicable
      title := "Per-Variant activation rate"
      detail :=
        "This Experiment has no activation gate, so there is no activation rate to compare." }
  | some balance =>
    let p := formatP numbers balance.pValue
    if srmIsFiring balance.pValue isMismatch then
      { id := .activationBalance
        status := .fail
        title := "Per-Variant activation rate differs"
        detail := "Variants are activating at different rates (chi-square p = " ++ p ++
          "). The gap explains why the gated population is skewed and makes the gated result " ++
          "untrusted." }
    else if balance.tier = .possibleImbalance then
      { id := .activationBalance
        status := .pass
        title := "Activation rates match across Variants, with a caution"
        detail := "Chi-square p = " ++ p ++ " on activated vs not-activated by Variant sits in " ++
          "the caution band." }
    else
      { id := .activationBalance
        status := .pass
        title := "Activation rates match across Variants"
        detail := "Chi-square p = " ++ p ++ " on activated vs not-activated by Variant." }

end Checks

/-! ## 3. The decision family -/

structure DecisionFamilyMember where
  result : ArmResult
  label : String

def metricLabel (result : ArmResult) : String := result.metricId ++ " / " ++ result.variant

def topLevelMembers (stats : StatsOutput) : List DecisionFamilyMember :=
  stats.armResults.map fun result => ⟨result, metricLabel result⟩

def primaryDimensionMembers (stats : StatsOutput) : List DecisionFamilyMember :=
  ((stats.dimensionResults.getD []).filter (·.dimensionClass = .primary)).flatMap fun dimension =>
    dimension.armResults.map fun result =>
      ⟨result, metricLabel result ++ " [" ++ dimension.dimensionId ++ "=" ++
        dimension.dimensionValue ++ "]"⟩

def decisionFamily (stats : StatsOutput) : List DecisionFamilyMember :=
  topLevelMembers stats ++ primaryDimensionMembers stats

def decisionValidMembers (stats : StatsOutput) : List DecisionFamilyMember :=
  (decisionFamily stats).filter (·.result.decisionValid)

def lockedFamilyMembers (stats : StatsOutput) : List DecisionFamilyMember :=
  (decisionFamily stats).filter fun member =>
    member.result.inBhFamily && member.result.decisionValid

def named (members : List DecisionFamilyMember) : String :=
  ", ".intercalate (members.map (·.label))

/-- How far a result is from supporting a decision. -/
inductive StatusClass
  | decidable
  | collecting
  | starved
  | errored
  deriving DecidableEq, Repr

def classifyStatus : StatsResultStatus → StatusClass
  | .ready => .decidable
  | .stopped => .decidable
  | .running => .collecting
  | .insufficientN => .starved
  | .insufficientDenominator => .starved
  | .error => .errored

def plural (count : Nat) (one many : String) : String := if count = 1 then one else many

def engineStatusCheck (stats : StatsOutput) : DecisionGateCheck :=
  let decisionValid := decisionValidMembers stats
  let errored := decisionValid.filter fun member => classifyStatus member.result.status = .errored
  if decisionValid.length = 0 then
    { id := .engineStatus
      status := .notApplicable
      title := "Engine result status"
      detail := "This Run has no decision-valid Metric result to report a status for." }
  else if errored.length = 0 then
    { id := .engineStatus
      status := .pass
      title := "Every decision-valid Metric returned a usable result"
      detail := "The stats engine reported no estimation error across " ++
        toString decisionValid.length ++ " decision-valid " ++
        plural decisionValid.length "result" "results" ++ "." }
  else
    { id := .engineStatus
      status := .fail
      title := "Stats engine reported an error"
      detail := "The estimator failed on " ++ named errored ++ ". There is no interval to decide " ++
        "on, and waiting will not produce one. Investigate the Metric definition and the Run's " ++
        "inputs." }

def underpoweredCheck (stats : StatsOutput) : DecisionGateCheck :=
  let decisionValid := decisionValidMembers stats
  let starved := decisionValid.filter fun member => classifyStatus member.result.status = .starved
  let collecting :=
    decisionValid.filter fun member => classifyStatus member.result.status = .collecting
  if decisionValid.length = 0 ∧ ¬ stats.health.lowNWarning then
    { id := .underpowered
      status := .notApplicable
      title := "Sample size not assessed"
      detail := "This Run has no decision-valid Metric result to size." }
  else if 0 < starved.length ∨ stats.health.lowNWarning then
    { id := .underpowered
      status := .fail
      title := "Result is underpowered"
      detail :=
        if 0 < starved.length then
          "Not enough data to decide on " ++ named starved ++
            ". Let the Run collect more Exposures."
        else
          "At least one Variant is below the minimum Entity count for a decision. Let the Run " ++
            "collect more Exposures." }
  else if 0 < collecting.length then
    { id := .underpowered
      status := .fail
      title := "Run has not reached its locked sample size"
      detail := named collecting ++ " " ++ plural collecting.length "is" "are" ++
        " still collecting. A fixed-horizon Run may only be decided at the sample size its Run " ++
        "froze." }
  else
    { id := .underpowered
      status := .pass
      title := "No low-n warning"
      detail := "The stats engine raised no low-sample warning, and every decision-valid Metric " ++
        "returned a decidable result. This is an absence of a warning, not a power calculation." }

def decisionValidCheck (stats : StatsOutput) : DecisionGateCheck :=
  let family := lockedFamilyMembers stats
  if 0 < family.length then
    { id := .decisionValidResult
      status := .pass
      title := "A locked decision family exists"
      detail := toString family.length ++ " FDR-corrected goal Metric " ++
        plural family.length "result belongs" "results belong" ++
        " to the Run's locked decision spec." }
  else
    { id := .decisionValidResult
      status := .fail
      title := "No decision-valid result"
      detail := "This Run has no FDR-corrected goal Metric in its locked decision family, so " ++
        "there is nothing a decision could be made on. Exploratory results cannot call an " ++
        "Experiment." }

/-! ## 4. The Control of the Run and its duration -/

inductive UnresolvableControlReason
  | absentFromFrozenVariantSet
  | unreadableFrozenVariantSet
  deriving DecidableEq, Repr

def unresolvableControlReasonMessages : UnresolvableControlReason → String
  | .absentFromFrozenVariantSet => "it is absent from the Variant set this Run froze"
  | .unreadableFrozenVariantSet => "the frozen Variant set could not be read"

inductive FrozenControlIdentity
  | frozen (variantId variant : String)
  | disagreement (variantId variant analysisVariant : String)
  | unresolvable (variantId : String) (reason : UnresolvableControlReason)
      (frozenVariantNames : List String) (analysisVariant : String)
  deriving DecidableEq, Repr

def controlIdentityCheck : FrozenControlIdentity → DecisionGateCheck
  | .frozen _ variant =>
    { id := .controlIdentity
      status := .pass
      title := "Analysis Control matches the one the Run froze"
      detail := "Every lift is measured against \"" ++ variant ++ "\", the Control this Run froze " ++
        "at Start and Analysis reported for this read. Editing the Experiment's default Variant " ++
        "since then did not move it." }
  | .disagreement _ variant analysisVariant =>
    { id := .controlIdentity
      status := .fail
      title := "Analysis Control disagrees with the Run"
      detail := "This Run's frozen Control is \"" ++ variant ++ "\", but the Run Snapshot measured " ++
        "lift against \"" ++ analysisVariant ++ "\". The Run Snapshot cannot be rewritten, so no " ++
        "ship decision can be made for this Run. Start a new Run to get a Control that agrees " ++
        "across both stores." }
  | .unresolvable variantId reason frozenVariantNames _ =>
    let froze :=
      if 0 < frozenVariantNames.length then
        "The Run froze " ++ ", ".intercalate (frozenVariantNames.map fun name =>
          "\"" ++ name ++ "\"") ++ ". "
      else ""
    let relationshipToRun :=
      if reason = .unreadableFrozenVariantSet then "may never have carried" else "never froze"
    { id := .controlIdentity
      status := .fail
      title := "Control Variant cannot be identified"
      detail := "This Run's frozen Control cannot be identified because " ++
        unresolvableControlReasonMessages reason ++ ". " ++ froze ++ "The Experiment's default " ++
        "Variant was backfilled onto this Run as \"" ++ variantId ++ "\", which the Run itself " ++
        relationshipToRun ++ ". The Run Snapshot's Control anchors the lift, but nothing can be " ++
        "promoted against a Control this Run " ++ relationshipToRun ++ ". Start a new Run to get " ++
        "a Control that is frozen and validated." }

def MAX_PLANNED_DURATION_DAYS : Rat := 365
def DAY_MS : Int := 86400000

structure PlannedDurationEvidence where
  plannedDurationDays : Option Rat
  overrideReason : Option String
  runStartedAt : String
  dataWatermark : Option String

section Duration

variable (numbers : Numbers)

def observedEvidenceDays (runStartedAt dataWatermark : String) : Except String Rat :=
  match numbers.dateParse runStartedAt, numbers.dateParse dataWatermark with
  | none, _ => .error ("Run start " ++ runStartedAt ++ " is not a timestamp")
  | some _, none => .error ("evidence watermark " ++ dataWatermark ++ " is not a timestamp")
  | some started, some watermark => .ok ((max 0 (watermark - started) : Int) / (DAY_MS : Rat))

def earliestDecisionWatermark (runStartedAt : String) (plannedDurationDays : Rat) :
    Except String String :=
  match (numbers.dateParse runStartedAt).bind fun started =>
      numbers.isoString (started + (plannedDurationDays * DAY_MS).floor) with
  | none => .error "Invalid time value"
  | some text => .ok text

def dayCount (days : Rat) : String :=
  numbers.string days ++ " " ++ if days = 1 then "day" else "days"

def formatDays (days : Rat) : String :=
  let rounded : Rat := (days * 10).floor / 10
  numbers.string rounded ++ " " ++ if rounded = 1 then "day" else "days"

def plannedDurationCheck (evidence : PlannedDurationEvidence) :
    Except String DecisionGateCheck :=
  match evidence.plannedDurationDays with
  | none =>
    .ok
      { id := .plannedDuration
        status := .notApplicable
        title := "No planned duration recorded"
        detail := "This Run started before planned durations were recorded at Start, so there is " ++
          "no duration commitment to measure. None is invented for it." }
  | some planned =>
    if ¬ (planned.isInt ∧ 0 < planned ∧ planned ≤ MAX_PLANNED_DURATION_DAYS) then
      .error ("planned duration " ++ numbers.string planned ++
        " is not a whole number of days from 1 to 365")
    else
      -- an empty reason is no override
      let override :=
        match evidence.overrideReason with
        | none => ""
        | some reason =>
          if reason = "" then ""
          else " The " ++ numbers.string planned ++ "-day plan is a labeled override: " ++ reason
      match evidence.dataWatermark with
      | none =>
        .ok
          { id := .plannedDuration
            status := .fail
            title := "No evidence watermark to measure duration against"
            detail := "The planned duration is " ++ dayCount numbers planned ++ ", measured from " ++
              "Run start to the evidence watermark. Analysis reported no watermark, so the " ++
              "observed window is unknown." ++ override }
      | some dataWatermark => do
        let observed ← observedEvidenceDays numbers evidence.runStartedAt dataWatermark
        if observed < planned then
          let earliest ← earliestDecisionWatermark numbers evidence.runStartedAt planned
          return {
            id := .plannedDuration
            status := .fail
            title := "Run has not reached its planned duration"
            detail := "The selected evidence covers " ++ formatDays numbers observed ++ " of the " ++
              dayCount numbers planned ++ " this Run planned at Start. Select evidence with a " ++
              "watermark at or after " ++ earliest ++ "." ++ override }
        else
          return {
            id := .plannedDuration
            status := .pass
            title := "Planned duration reached"
            detail := "The selected evidence covers " ++ formatDays numbers observed ++
              ", at least the " ++ dayCount numbers planned ++ " this Run planned at Start." ++
              override }

end Duration

/-! ## 5. The gate -/

section Gate

variable (numbers : Numbers)

/-- The gate that a list of checks makes. -/
def gateOf (checks : List DecisionGateCheck) : ExperimentDecisionGate :=
  let blockedBy := (checks.filter (·.status = .fail)).map (·.id)
  { shipAllowed := blockedBy.length = 0, blockedBy, checks }

def evaluateExperimentDecisionGate (stats : StatsOutput) (control : FrozenControlIdentity)
    (duration : PlannedDurationEvidence) (persistedAlarms : List PersistedSrmAlarm) :
    Except String ExperimentDecisionGate := do
  let effective := overlayPersistedSrmAlarms stats persistedAlarms
  let srm := experimentSrmDiagnostics effective persistedAlarms
  let durationCheck ← plannedDurationCheck numbers duration
  return gateOf
    [ controlIdentityCheck control,
      exposureSrmCheck numbers srm.exposure (some effective.srm.srmIsMismatch),
      activatedSrmCheck numbers srm.activated effective.srm.activatedSrmMismatch,
      activationBalanceCheck numbers srm.activationBalance
        effective.health.activationBalanceMismatch,
      engineStatusCheck effective,
      underpoweredCheck effective,
      durationCheck,
      decisionValidCheck effective ]

variable {numbers} {stats : StatsOutput} {control : FrozenControlIdentity}
  {duration : PlannedDurationEvidence} {alarms : List PersistedSrmAlarm}
  {gate : ExperimentDecisionGate}

theorem gateOf_shipAllowed {checks : List DecisionGateCheck} :
    (gateOf checks).shipAllowed = true ↔ ∀ check ∈ checks, check.status ≠ .fail := by
  simp only [gateOf, List.length_map, decide_eq_true_eq, List.length_eq_zero_iff,
    List.filter_eq_nil_iff]

/-- The gate is open just when no check fails. -/
theorem shipAllowed_iff
    (h : evaluateExperimentDecisionGate numbers stats control duration alarms = .ok gate) :
    gate.shipAllowed = true ↔ ∀ check ∈ gate.checks, check.status ≠ .fail := by
  obtain ⟨durationCheck, -, h⟩ := Checks.bind_eq_ok.mp h
  cases h
  exact gateOf_shipAllowed

theorem alarmFor_isSome {alarm : PersistedSrmAlarm} (h : alarm ∈ alarms) :
    (alarmFor alarms alarm.srmKind).isSome = true := by
  rw [alarmFor, List.find?_isSome]
  exact ⟨alarm, h, decide_eq_true rfl⟩

variable (stats) in
/-- What an overlay with an alarm of a kind says of that kind. -/
theorem overlay_mismatch {alarm : PersistedSrmAlarm} (h : alarm ∈ alarms) :
    match alarm.srmKind with
    | .exposure => (overlayPersistedSrmAlarms stats alarms).srm.srmIsMismatch = true
    | .activated =>
      (overlayPersistedSrmAlarms stats alarms).srm.activatedSrmMismatch = some true := by
  have hsome := alarmFor_isSome h
  have hne : alarms ≠ [] := List.ne_nil_of_mem h
  cases hkind : alarm.srmKind with
  | exposure =>
    rw [hkind] at hsome
    simp [overlayPersistedSrmAlarms, hne, hsome, Option.isNone_eq_false_iff.mpr hsome]
  | activated =>
    rw [hkind] at hsome
    simp [overlayPersistedSrmAlarms, hne, hsome, Option.isNone_eq_false_iff.mpr hsome]

/-- **Alarms close the gate.** A persisted alarm is laid over the diagnostics of its kind, whatever
the statistics of this read say, and the check of that kind fails then. -/
theorem fails_of_alarm {alarm : PersistedSrmAlarm} (halarm : alarm ∈ alarms)
    (h : evaluateExperimentDecisionGate numbers stats control duration alarms = .ok gate) :
    ∃ check ∈ gate.checks, check.status = .fail := by
  obtain ⟨durationCheck, -, h⟩ := Checks.bind_eq_ok.mp h
  cases h
  have hover := overlay_mismatch stats halarm
  have hsome := alarmFor_isSome halarm
  cases hkind : alarm.srmKind with
  | exposure =>
    rw [hkind] at hover
    refine ⟨_, .tail _ (.head _), ?_⟩
    rw [exposureSrmCheck, if_pos (by rw [hover]; rfl)]
  | activated =>
    rw [hkind] at hover hsome
    refine ⟨_, .tail _ (.tail _ (.head _)), ?_⟩
    simp only [experimentSrmDiagnostics, hsome, Bool.or_true, if_true, activatedSrmCheck]
    rw [if_pos (by rw [hover]; rfl)]

end Gate

end Stats

end Splitch
