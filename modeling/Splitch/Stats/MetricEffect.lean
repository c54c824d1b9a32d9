/-
# The effect of a Treatment arm

How the interval of an arm is classified against the ship rule (`ship-recommendation-effect.ts`,
`ship-recommendation-arms.ts`) and the sentences that cite it (`ship-recommendation-because.ts`).

An arm wins when its interval clears the margin on the beneficial side, it is harmful when its interval lies
wholly on the other side, and it is undecided otherwise.  The two intervals need not be the same one: with
several comparisons the margin has to be cleared by the SIMULTANEOUS interval, while harm is read off the
decision interval.  So an arm may clear its margin and show harm, but only among several comparisons
(`several_of_clears_of_harm`), and then it counts as a win.

Before any of this an arm has to be eligible in the corrected decision family: one that is not is undecided,
whatever its interval is (`classifyOneTreatmentArm_ok`).  A classification may also stop, for a reason that
is an answer, or by throwing; what one that does not stop has found is `classifyMetricEffect_eq`.

Lists of arms are classified one by one, so the effects that occur do not depend on the order
(`classifyTreatmentArms_same`).
-/
import Splitch.Stats.StatsResults
import Splitch.Library.Checks
import Splitch.Library.Agreement

namespace Splitch

namespace Stats

/-! ## 1. Intervals and margins -/

inductive MetricEffectVerdict
  | beneficial
  | harmful
  | undecided
  deriving DecidableEq, Repr

inductive RecommendationUnavailableReason
  | noPreRegistration
  | absoluteIntervalUnavailable
  | primaryResultUnavailable
  | relativeSequentialCoverageUnproven
  | relativeControlMeanNonPositive
  | lockedGoalDesirabilityMissing
  deriving DecidableEq, Repr

/-- How a computation ends without an effect: it answers a reason, or throws. -/
inductive Stop
  | unavailable (reason : RecommendationUnavailableReason)
  | thrown (message : String)
  deriving DecidableEq, Repr

structure Interval where
  lower : Rat
  upper : Rat
  deriving DecidableEq

structure MetricEffectInput where
  desirability : MetricDirection
  requiredMargin : CiBound
  scale : RopeScale
  ciLower : Rat
  ciUpper : Rat
  marginCiLower : Option Rat
  marginCiUpper : Option Rat

def clearsMargin (desirability : MetricDirection) (requiredMargin lower upper : Rat) : Bool :=
  match desirability with
  | .higherIsBetter => requiredMargin < lower
  | .lowerIsBetter => upper < -requiredMargin

def showsHarm (desirability : MetricDirection) (lower upper : Rat) : Bool :=
  match desirability with
  | .higherIsBetter => upper < 0
  | .lowerIsBetter => 0 < lower

/-- An interval that clears a margin is not one of harm. -/
theorem not_showsHarm_of_clearsMargin {desirability : MetricDirection} {margin lower upper : Rat}
    (hmargin : 0 < margin) (hordered : lower ≤ upper)
    (h : clearsMargin desirability margin lower upper = true) :
    showsHarm desirability lower upper = false := by
  cases desirability with
  | higherIsBetter =>
    have hlt := of_decide_eq_true h
    exact decide_eq_false (by linarith)
  | lowerIsBetter =>
    have hlt := of_decide_eq_true h
    exact decide_eq_false (by linarith)

section Effects

variable (numbers : Numbers)

/-- `assertFiniteMargin`, which hands on the margin it has found finite. -/
def assertFiniteMargin (margin : CiBound) : Except String Rat :=
  match margin with
  | .finite value =>
    if 0 < value then .ok value
    else .error ("requiredMargin must be a positive finite number; received " ++
      numbers.boundString margin)
  | _ => .error ("requiredMargin must be a positive finite number; received " ++
      numbers.boundString margin)

def assertOrderedInterval (lower upper : Rat) : Except String Unit :=
  if upper < lower then
    .error ("interval lower (" ++ numbers.string lower ++ ") must be <= upper (" ++
      numbers.string upper ++ ")")
  else .ok ⟨⟩

/-- Relative intervals are published in percent, a relative margin is a fraction. -/
def marginOnIntervalScale (requiredMargin : Rat) (scale : RopeScale) : Except String CiBound := do
  let margin ← assertFiniteMargin numbers (.finite requiredMargin)
  return match scale with
  | .relative => (numbers.timesHundred margin).elim .posInf .finite
  | .absolute => .finite margin

def clearsRequiredMargin (input : MetricEffectInput) : Except String Bool := do
  let requiredMargin ← assertFiniteMargin numbers input.requiredMargin
  let marginLower := input.marginCiLower.getD input.ciLower
  let marginUpper := input.marginCiUpper.getD input.ciUpper
  assertOrderedInterval numbers marginLower marginUpper
  return clearsMargin input.desirability requiredMargin marginLower marginUpper

def classifyMetricEffect (input : MetricEffectInput) : Except String MetricEffectVerdict := do
  let requiredMargin ← assertFiniteMargin numbers input.requiredMargin
  assertOrderedInterval numbers input.ciLower input.ciUpper
  let marginLower := input.marginCiLower.getD input.ciLower
  let marginUpper := input.marginCiUpper.getD input.ciUpper
  assertOrderedInterval numbers marginLower marginUpper
  return if clearsMargin input.desirability requiredMargin marginLower marginUpper then .beneficial
  else if showsHarm input.desirability input.ciLower input.ciUpper then .harmful
  else .undecided

variable {numbers}

theorem assertFiniteMargin_eq_ok {bound : CiBound} {margin : Rat} :
    assertFiniteMargin numbers bound = .ok margin ↔ bound = .finite margin ∧ 0 < margin := by
  constructor
  · intro h
    cases bound with
    | negInf => cases h
    | posInf => cases h
    | finite value =>
      rw [assertFiniteMargin] at h
      split at h
      · cases h; exact ⟨rfl, ‹_›⟩
      · cases h
  · rintro ⟨rfl, hpos⟩
    exact if_pos hpos

theorem assertOrderedInterval_eq_ok {lower upper : Rat} :
    assertOrderedInterval numbers lower upper = .ok ⟨⟩ ↔ lower ≤ upper := by
  rw [assertOrderedInterval, Checks.ite_error_eq_ok, not_lt, and_iff_left rfl]

/-- What a classification that does not throw has found. -/
theorem classifyMetricEffect_eq {input : MetricEffectInput} {effect : MetricEffectVerdict}
    (h : classifyMetricEffect numbers input = .ok effect) :
    ∃ margin, input.requiredMargin = .finite margin ∧ 0 < margin ∧
      input.ciLower ≤ input.ciUpper ∧
      effect = if clearsMargin input.desirability margin
          (input.marginCiLower.getD input.ciLower) (input.marginCiUpper.getD input.ciUpper)
        then .beneficial
        else if showsHarm input.desirability input.ciLower input.ciUpper then .harmful
        else .undecided := by
  obtain ⟨margin, hmargin, h⟩ := Checks.bind_eq_ok.mp h
  obtain ⟨⟨⟩, hordered, h⟩ := Checks.bind_eq_ok.mp h
  obtain ⟨⟨⟩, -, h⟩ := Checks.bind_eq_ok.mp h
  obtain ⟨hfinite, hpos⟩ := assertFiniteMargin_eq_ok.mp hmargin
  exact ⟨margin, hfinite, hpos, assertOrderedInterval_eq_ok.mp hordered,
    (Checks.pure_eq_ok.mp h).symm⟩

end Effects

/-! ## 2. The interval of an arm -/

def finitePair (lower upper : Option CiBound) : Option Interval :=
  match lower, upper with
  | some (.finite lower), some (.finite upper) => some ⟨lower, upper⟩
  | _, _ => none

/-- `finitePair` of two fields that may be absent. -/
def presentPair (lower upper : Option (Option CiBound)) : Option Interval :=
  match lower, upper with
  | some lower, some upper => finitePair lower upper
  | _, _ => none

def intervalForScale (arm : ArmResult) : RopeScale → Option Interval
  | .relative => finitePair arm.ciLower arm.ciUpper
  | .absolute => presentPair arm.absoluteCiLower arm.absoluteCiUpper

def simultaneousIntervalForScale (arm : ArmResult) : RopeScale → Option Interval
  | .relative => presentPair arm.simultaneousCiLower arm.simultaneousCiUpper
  | .absolute => presentPair arm.simultaneousAbsoluteCiLower arm.simultaneousAbsoluteCiUpper

/-- The interval that has to clear the margin among so many comparisons. -/
def marginInterval (arm : ArmResult) (scale : RopeScale) (shipMarginComparisonCount : Nat) :
    Option Interval :=
  if 1 < shipMarginComparisonCount then simultaneousIntervalForScale arm scale
  else intervalForScale arm scale

def missingIntervalReason : RopeScale → RecommendationUnavailableReason
  | .absolute => .absoluteIntervalUnavailable
  | .relative => .primaryResultUnavailable

def decisionEligible (arm : ArmResult) : Bool :=
  (arm.status = .ready ∨ arm.status = .stopped) && arm.isSignificant && arm.inBhFamily &&
    arm.decisionValid

/-! ## 3. Sentences -/

inductive Subject
  | primaryMetric
  | goalMetric
  deriving DecidableEq, Repr

def Subject.text : Subject → String
  | .primaryMetric => "Primary Metric"
  | .goalMetric => "Goal Metric"

section Sentences

variable (numbers : Numbers)

def formatBound (value : CiBound) : RopeScale → String
  | .relative => numbers.trimNumber value ++ "%"
  | .absolute => numbers.trimNumber value

def formatInterval (interval : Interval) (scale : RopeScale) : String :=
  "[" ++ formatBound numbers (.finite interval.lower) scale ++ ", " ++
    formatBound numbers (.finite interval.upper) scale ++ "]"

/-- The sentence on an effect; `lacksEvidence` stands for `fdr_decision_evidence_missing`. -/
def effectBecause (effect : MetricEffectVerdict) (desirability : MetricDirection)
    (scale : RopeScale) (cited : Interval) (marginOnScale : CiBound)
    (relativeLiftPct : Option Rat) (subject : Subject) (lacksEvidence : Bool) : String :=
  let interval := formatInterval numbers cited scale
  let margin := formatBound numbers marginOnScale scale
  let direction :=
    match desirability with
    | .higherIsBetter => "higher-is-better"
    | .lowerIsBetter => "lower-is-better"
  match effect with
  | .harmful =>
    match desirability, relativeLiftPct with
    | .lowerIsBetter, some lift =>
      if 0 < lift then
        subject.text ++ " shows a positive lift of " ++ numbers.trimNumber (.finite lift) ++
          "% (interval " ++ interval ++ ") against a " ++ direction ++ " goal."
      else subject.text ++ " interval " ++ interval ++ " shows harm for a " ++ direction ++ " goal."
    | _, _ => subject.text ++ " interval " ++ interval ++ " shows harm for a " ++ direction ++ " goal."
  | .beneficial =>
    subject.text ++ " interval " ++ interval ++ " clears the required " ++ margin ++
      " margin for a " ++ direction ++ " goal."
  | .undecided =>
    if lacksEvidence then
      subject.text ++ " interval " ++ interval ++ " clears the required " ++ margin ++
        " margin but lacks FDR-corrected decision evidence."
    else
      subject.text ++ " interval " ++ interval ++ " has not cleared the required " ++ margin ++
        " margin."

end Sentences

/-! ## 4. Arms -/

structure ClassifiedEffect where
  effect : MetricEffectVerdict
  because : String
  arm : ArmResult
  interval : Interval

/-- What the arms of one Metric are classified against. -/
structure ClassifyInput where
  desirability : MetricDirection
  scale : RopeScale
  marginOnScale : CiBound
  subject : Subject
  shipMarginComparisonCount : Nat

def orThrow {α : Type} : Except String α → Except Stop α
  | .ok a => .ok a
  | .error message => .error (.thrown message)

def orUnavailable {α : Type} (reason : RecommendationUnavailableReason) : Option α → Except Stop α
  | some a => .ok a
  | none => .error (.unavailable reason)

theorem orThrow_eq_ok {α : Type} {x : Except String α} {a : α} :
    orThrow x = .ok a ↔ x = .ok a := by
  cases x with
  | error message => exact ⟨fun h => (by cases h), fun h => (by cases h)⟩
  | ok b => exact ⟨fun h => (by cases h; rfl), fun h => (by cases h; rfl)⟩

theorem orUnavailable_eq_ok {α : Type} {reason : RecommendationUnavailableReason} {x : Option α}
    {a : α} : orUnavailable reason x = .ok a ↔ x = some a := by
  cases x with
  | none => exact ⟨fun h => (by cases h), fun h => (by cases h)⟩
  | some b => exact ⟨fun h => (by cases h; rfl), fun h => (by cases h; rfl)⟩

/-- Treatments are every arm of the Metric that is not Control. -/
def treatmentArmsFor (metricId : String) (arms : List ArmResult) (controlVariant : String) :
    List ArmResult :=
  arms.filter fun arm => arm.metricId = metricId ∧ arm.variant ≠ controlVariant

def relativeControlMeanGate (scale : RopeScale) (metricId : String) (arms : List ArmResult)
    (controlVariant : String) : Except Stop Unit :=
  match scale with
  | .absolute => .ok ⟨⟩
  | .relative =>
    match arms.find? fun arm => arm.metricId = metricId ∧ arm.variant = controlVariant with
    | none => .error (.unavailable .primaryResultUnavailable)
    | some control =>
      if control.pointEstimate ≤ 0 then .error (.unavailable .relativeControlMeanNonPositive)
      else .ok ⟨⟩

def unavailableForScale (scale : RopeScale) : Stop → Stop
  | .unavailable reason =>
    if scale = .absolute ∧ reason = .absoluteIntervalUnavailable then .unavailable reason
    else .unavailable .primaryResultUnavailable
  | .thrown message => .thrown message

section Arms

variable (numbers : Numbers)

/-- A win requires eligible evidence, whatever margin the arm clears. -/
def eligibleEffect (eligible : Bool) (input : MetricEffectInput) :
    Except String MetricEffectVerdict :=
  if eligible then classifyMetricEffect numbers input else .ok .undecided

def classifyOneTreatmentArm (arm : ArmResult) (input : ClassifyInput) :
    Except Stop ClassifiedEffect := do
  let interval ← orUnavailable (missingIntervalReason input.scale)
    (intervalForScale arm input.scale)
  let margin ← orUnavailable (missingIntervalReason input.scale)
    (marginInterval arm input.scale input.shipMarginComparisonCount)
  let effectInput : MetricEffectInput :=
    { desirability := input.desirability
      requiredMargin := input.marginOnScale
      scale := input.scale
      ciLower := interval.lower
      ciUpper := interval.upper
      marginCiLower := some margin.lower
      marginCiUpper := some margin.upper }
  let eligible := decisionEligible arm
  let clearedMargin ← orThrow (clearsRequiredMargin numbers effectInput)
  let effect ← orThrow (eligibleEffect numbers eligible effectInput)
  let cited := if effect = .harmful then interval else margin
  return {
    arm, effect
    interval := cited
    because := effectBecause numbers effect input.desirability input.scale cited
      input.marginOnScale arm.relativeLiftPct input.subject (! eligible && clearedMargin) }

def classifyTreatmentArms (arms : List ArmResult) (input : ClassifyInput) :
    Except Stop (List ClassifiedEffect) :=
  arms.mapM fun arm => classifyOneTreatmentArm numbers arm input

variable {numbers}

/-- The arm clears a margin with the interval that its comparisons ask for. -/
def ClearsMargin (desirability : MetricDirection) (scale : RopeScale) (count : Nat)
    (marginOnScale : CiBound) (arm : ArmResult) : Prop :=
  ∃ margin interval, marginOnScale = .finite margin ∧ marginInterval arm scale count = some interval ∧
    clearsMargin desirability margin interval.lower interval.upper = true

/-- The decision interval of the arm lies wholly on the harmful side. -/
def WhollyHarmful (desirability : MetricDirection) (scale : RopeScale) (arm : ArmResult) : Prop :=
  ∃ interval, intervalForScale arm scale = some interval ∧
    showsHarm desirability interval.lower interval.upper = true

/-- What an arm that is classified has: its intervals, and its effect by eligibility. -/
theorem classifyOneTreatmentArm_ok {arm : ArmResult} {input : ClassifyInput}
    {row : ClassifiedEffect} (h : classifyOneTreatmentArm numbers arm input = .ok row) :
    ∃ margin interval cleared, input.marginOnScale = .finite margin ∧ 0 < margin ∧
      intervalForScale arm input.scale = some interval ∧
      marginInterval arm input.scale input.shipMarginComparisonCount = some cleared ∧
      cleared.lower ≤ cleared.upper ∧ row.effect =
        if decisionEligible arm = true then
          if clearsMargin input.desirability margin cleared.lower cleared.upper then .beneficial
          else if showsHarm input.desirability interval.lower interval.upper then .harmful
          else .undecided
        else .undecided := by
  obtain ⟨interval, hinterval, h⟩ := Checks.bind_eq_ok.mp h
  obtain ⟨cleared, hcleared, h⟩ := Checks.bind_eq_ok.mp h
  obtain ⟨clearedMargin, hclears, h⟩ := Checks.bind_eq_ok.mp h
  obtain ⟨effect, heffect, h⟩ := Checks.bind_eq_ok.mp h
  obtain ⟨margin, hmargin, hclears⟩ := Checks.bind_eq_ok.mp (orThrow_eq_ok.mp hclears)
  obtain ⟨⟨⟩, hordered, -⟩ := Checks.bind_eq_ok.mp hclears
  obtain ⟨hfinite, hpos⟩ := assertFiniteMargin_eq_ok.mp hmargin
  refine ⟨margin, interval, cleared, hfinite, hpos, orUnavailable_eq_ok.mp hinterval,
    orUnavailable_eq_ok.mp hcleared, assertOrderedInterval_eq_ok.mp hordered, ?_⟩
  have hrow : row.effect = effect := by cases h; rfl
  have heffect := orThrow_eq_ok.mp heffect
  rw [eligibleEffect] at heffect
  rw [hrow]
  split at heffect
  · obtain ⟨margin', hfinite', -, -, heq⟩ := classifyMetricEffect_eq heffect
    cases hfinite.symm.trans hfinite'
    rw [if_pos ‹_›]
    exact heq
  · rw [if_neg ‹_›]
    cases heffect
    rfl

/-- **A win** is an eligible arm that has cleared its margin. -/
theorem wins_of_beneficial {arm : ArmResult} {input : ClassifyInput} {row : ClassifiedEffect}
    (h : classifyOneTreatmentArm numbers arm input = .ok row) (hwin : row.effect = .beneficial) :
    decisionEligible arm = true ∧ ClearsMargin input.desirability input.scale
      input.shipMarginComparisonCount input.marginOnScale arm := by
  obtain ⟨margin, interval, cleared, hmargin, -, -, hcleared, -, heq⟩ :=
    classifyOneTreatmentArm_ok h
  rw [hwin] at heq
  split at heq
  · split at heq
    · exact ⟨‹_›, margin, cleared, hmargin, hcleared, ‹_›⟩
    · split at heq <;> cases heq
  · cases heq

/-- An eligible arm on the harmful side that has not cleared its margin is harmful. -/
theorem harmful_of_whollyHarmful {arm : ArmResult} {input : ClassifyInput}
    {row : ClassifiedEffect} (h : classifyOneTreatmentArm numbers arm input = .ok row)
    (heligible : decisionEligible arm = true)
    (hharm : WhollyHarmful input.desirability input.scale arm)
    (hclears : ¬ ClearsMargin input.desirability input.scale input.shipMarginComparisonCount
      input.marginOnScale arm) : row.effect = .harmful := by
  obtain ⟨margin, interval, cleared, hmargin, -, hinterval, hcleared, -, heq⟩ :=
    classifyOneTreatmentArm_ok h
  obtain ⟨interval', hinterval', hshows⟩ := hharm
  cases hinterval.symm.trans hinterval'
  rw [heq, if_pos heligible, if_neg, if_pos hshows]
  intro hclear
  exact hclears ⟨margin, cleared, hmargin, hcleared, hclear⟩

/-- An arm that clears its margin on the harmful side does so among several comparisons: its
simultaneous interval lies elsewhere than its decision interval. -/
theorem several_of_clears_of_harm {arm : ArmResult} {input : ClassifyInput}
    {row : ClassifiedEffect} (h : classifyOneTreatmentArm numbers arm input = .ok row)
    (hharm : WhollyHarmful input.desirability input.scale arm)
    (hclears : ClearsMargin input.desirability input.scale input.shipMarginComparisonCount
      input.marginOnScale arm) : 1 < input.shipMarginComparisonCount := by
  by_contra hone
  obtain ⟨margin, interval, cleared, hmargin, hpos, -, hcleared, hordered, -⟩ :=
    classifyOneTreatmentArm_ok h
  obtain ⟨interval', hinterval', hshows⟩ := hharm
  obtain ⟨margin', cleared', hmargin', hcleared', hclear⟩ := hclears
  cases hmargin.symm.trans hmargin'
  cases hcleared.symm.trans hcleared'
  rw [marginInterval, if_neg hone, hinterval'] at hcleared
  cases hcleared
  rw [not_showsHarm_of_clearsMargin hpos hordered hclear] at hshows
  cases hshows

/-- Two lists of effects in which the same effects occur. -/
def SameEffects (rows rows' : List ClassifiedEffect) : Prop :=
  Agreement.Covers (fun row row' => row.effect = row'.effect) rows rows'

theorem SameEffects.mem {rows rows' : List ClassifiedEffect} (h : SameEffects rows rows')
    (effect : MetricEffectVerdict) :
    (∃ row ∈ rows, row.effect = effect) ↔ ∃ row ∈ rows', row.effect = effect := by
  constructor
  · rintro ⟨row, hrow, rfl⟩
    obtain ⟨row', hrow', heq⟩ := h.1 row hrow
    exact ⟨row', hrow', heq.symm⟩
  · rintro ⟨row', hrow', rfl⟩
    obtain ⟨row, hrow, heq⟩ := h.2 row' hrow'
    exact ⟨row, hrow, heq⟩

/-- The effects of a list of arms do not depend on its order. -/
theorem classifyTreatmentArms_same {arms arms' : List ArmResult} (h : arms.Perm arms')
    (input : ClassifyInput) :
    Agreement.Alike SameEffects (classifyTreatmentArms numbers arms input)
      (classifyTreatmentArms numbers arms' input) :=
  Agreement.Alike.mapM (fun _ => h.mem_iff) fun arm _ =>
    Agreement.Alike.refl (R := fun row row' => row.effect = row'.effect) (fun _ => rfl)
      (classifyOneTreatmentArm numbers arm input)

end Arms

end Stats

end Splitch
