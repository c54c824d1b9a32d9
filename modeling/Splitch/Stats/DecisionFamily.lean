/-
# The correction of a decision family

`family-correction.ts`, `decision-family-fdr.ts` and what `stats-engine.ts` and `dimension-slicing.ts` do
with it: the p-values that a Run has locked are ranked, and all up to the last one within its threshold are
significant.  The rows of the Metrics and of the Dimensions are corrected together and taken apart again.

A number is an exact rational, and what the arithmetic of the language does to it is `Arithmetic`: every
quotient and every product is rounded.  What a row has besides is handed on (`other`).
-/
import Splitch.Library.Checks
import Splitch.Library.JsonText
import Splitch.Library.StepUp
import Splitch.Stats.StatsResults

namespace Splitch

namespace Stats

namespace FamilyCorrection

open Checks JsonText

/-! ## 1. Arithmetic -/

/-- The rounding of the language: it keeps the order, and leaves what is rounded as it is. -/
structure Arithmetic where
  round : Rat → Rat
  round_mono : Monotone round
  round_round : ∀ x, round (round x) = round x
  round_zero : round 0 = 0
  round_one : round 1 = 1
  /-- `Number(value.toPrecision(15))`. -/
  toPrecision15 : Rat → Rat
  toPrecision15_mono : Monotone toPrecision15
  toPrecision15_zero : toPrecision15 0 = 0

/-- `localeCompare`: an order of the texts, in which different ones may be alike. -/
structure Collation where
  le : String → String → Bool
  le_total : ∀ a b, le a b = true ∨ le b a = true
  le_trans : ∀ a b c, le a b = true → le b c = true → le a c = true

/-! ## 2. Procedures -/

inductive FamilyCorrectionProcedure
  | bh
  | bh_g
  deriving DecidableEq, Repr

def resolveFamilyCorrectionProcedure (procedure : Option FamilyCorrectionProcedure) :
    FamilyCorrectionProcedure := procedure.getD .bh

section Procedures

variable (arithmetic : Arithmetic)

/-- The loop of `harmonicNumber`. -/
def harmonicSum (familySize : Nat) : Rat :=
  (List.range familySize).foldl (fun sum index =>
    arithmetic.round (sum + arithmetic.round (1 / ((index + 1 : Nat) : Rat)))) 0

def harmonicNumber (familySize : Nat) : Except String Rat :=
  if familySize < 1 then .error "harmonic number requires a positive integer family size."
  else .ok (harmonicSum arithmetic familySize)

def familyCorrectionAlpha (alpha : Rat) (familySize : Nat) (procedure : FamilyCorrectionProcedure) :
    Except String Rat :=
  match procedure with
  | .bh => .ok alpha
  | .bh_g => do return arithmetic.round (alpha / (← harmonicNumber arithmetic familySize))

/-- `(rank / familySize) * correctedAlpha`. -/
def rankThreshold (familySize : Nat) (correctedAlpha : Rat) (rank : Nat) : Rat :=
  arithmetic.round (arithmetic.round (rank / familySize) * correctedAlpha)

/-- The loop over the p-values, from an index on. -/
def lastRejectedRank (threshold : Nat → Rat) : (index maxRank : Nat) → List Rat → Nat
  | _, maxRank, [] => maxRank
  | index, maxRank, pValue :: pValues =>
    lastRejectedRank threshold (index + 1)
      (if pValue ≤ threshold (index + 1) then index + 1 else maxRank) pValues

def largestRejectedRank (sortedAscendingPValues : List Rat) (alpha : Rat)
    (procedure : FamilyCorrectionProcedure) : Except String Nat :=
  let familySize := sortedAscendingPValues.length
  if familySize = 0 then .ok 0
  else do
    let correctedAlpha ← familyCorrectionAlpha arithmetic alpha familySize procedure
    return lastRejectedRank (rankThreshold arithmetic familySize correctedAlpha) 0 0
      sortedAscendingPValues

end Procedures

/-! ## 3. Members and rows -/

structure DecisionFamilyMember where
  metricId : String
  variant : String
  dimensionId : Option String
  dimensionValue : Option String
  deriving DecidableEq, Repr

/-- A row of results, as far as the correction reads and writes it. -/
structure FamilyArmResult (α : Type) extends DecisionFamilyMember where
  pValue : Rat
  isSignificant : Bool
  inBhFamily : Bool
  exploratory : Bool
  decisionValid : Bool
  other : α

def optionalText : Option String → Json Nat
  | none => .null
  | some text => .str text

def decisionFamilyKey (member : DecisionFamilyMember) : String :=
  String.ofList (stringify (.arr [.str member.metricId, .str member.variant,
    optionalText member.dimensionId, optionalText member.dimensionValue] : Json Nat))

theorem decisionFamilyKey_injective : Function.Injective decisionFamilyKey := by
  intro a b h
  have hjson := stringify_injective (String.ofList_inj.mp h)
  have htext : Function.Injective optionalText := by
    intro a b h
    cases a <;> cases b <;> cases h <;> rfl
  simp only [Json.arr.injEq, List.cons.injEq, Json.str.injEq, and_true] at hjson
  obtain ⟨hmetric, hvariant, hid, hvalue⟩ := hjson
  cases a
  cases b
  simp only at hmetric hvariant hid hvalue
  rw [hmetric, hvariant, htext hid, htext hvalue]

def validateDimensionPair (member : DecisionFamilyMember) : Except String Unit :=
  if member.dimensionId.isSome ≠ member.dimensionValue.isSome then
    .error "decision_family dimension_id and dimension_value must be provided together."
  else .ok ()

/-! ## 4. The correction -/

section Correction

variable {α : Type} (arithmetic : Arithmetic) (collation : Collation)

structure DecisionFamilyCorrectionInput (α : Type) where
  armResults : List (FamilyArmResult α)
  decisionFamily : List DecisionFamilyMember
  confidenceLevel : Rat
  controlVariant : Option String
  familyCorrection : Option FamilyCorrectionProcedure

structure DecisionFamilyCorrectionSummary where
  alpha : Rat
  familySizeM : Nat
  rejected : List DecisionFamilyMember

structure DecisionFamilyCorrectionOutput (α : Type) where
  armResults : List (FamilyArmResult α)
  summary : DecisionFamilyCorrectionSummary

def alphaFromConfidenceLevel (confidenceLevel : Rat) : Except String Rat :=
  if confidenceLevel ≤ 0 ∨ confidenceLevel ≥ 1 then
    .error "confidence_level must be finite and in (0, 1)."
  else .ok (arithmetic.toPrecision15 (arithmetic.round (1 - confidenceLevel)))

/-- The members by their keys, in their order. -/
def decisionFamilyByKey (decisionFamily : List DecisionFamilyMember) :
    Except String (List (String × DecisionFamilyMember)) :=
  decisionFamily.foldlM (fun byKey member => do
    validateDimensionPair member
    let key := decisionFamilyKey member
    if key ∈ byKey.map (·.1) then
      throw ("decision_family contains duplicate member " ++ key ++ ".")
    return byKey ++ [(key, member)]) []

def validatePValues (results : List (FamilyArmResult α)) : Except String Unit :=
  results.forM fun result =>
    if result.pValue < 0 ∨ result.pValue > 1 then
      .error ("p_value for " ++ result.metricId ++ "/" ++ result.variant ++ " must be in [0, 1].")
    else .ok ()

def lockedResultsByKey (results : List (FamilyArmResult α))
    (familyByKey : List (String × DecisionFamilyMember)) :
    Except String (List (String × FamilyArmResult α)) :=
  results.foldlM (fun resultByKey result => do
    validateDimensionPair result.toDecisionFamilyMember
    let key := decisionFamilyKey result.toDecisionFamilyMember
    if key ∉ familyByKey.map (·.1) then return resultByKey
    if key ∈ resultByKey.map (·.1) then
      throw ("arm_results contains duplicate decision_family member " ++ key ++ ".")
    return resultByKey ++ [(key, result)]) []

structure RankedFamilyMember (α : Type) where
  key : String
  member : DecisionFamilyMember
  result : FamilyArmResult α

/-- The order of the ranks. -/
def RankedFamilyMember.le (left right : RankedFamilyMember α) : Prop :=
  left.result.pValue < right.result.pValue ∨
    left.result.pValue = right.result.pValue ∧ collation.le left.key right.key = true

instance (left right : RankedFamilyMember α) : Decidable (left.le collation right) :=
  inferInstanceAs (Decidable (_ ∨ _))

/-- The body of the loop over the family. -/
def rankedMember (resultByKey : List (String × FamilyArmResult α))
    (entry : String × DecisionFamilyMember) : Except String (RankedFamilyMember α) :=
  match resultByKey.find? (·.1 = entry.1) with
  | none => .error ("arm_results is missing locked decision_family member " ++ entry.1 ++ ".")
  | some found => .ok ⟨entry.1, entry.2, found.2⟩

def rankDecisionFamilyMembers (familyByKey : List (String × DecisionFamilyMember))
    (resultByKey : List (String × FamilyArmResult α)) :
    Except String (List (RankedFamilyMember α)) := do
  let ranked ← familyByKey.mapM (rankedMember resultByKey)
  return ranked.insertionSort (fun left right => left.le collation right)

def rejectedDecisionKeys (ranked : List (RankedFamilyMember α)) (alpha : Rat)
    (procedure : FamilyCorrectionProcedure) : Except String (List String) := do
  let maxRejectedRank ←
    largestRejectedRank arithmetic (ranked.map (·.result.pValue)) alpha procedure
  return (ranked.take maxRejectedRank).map (·.key)

def markExploratoryRaw (result : FamilyArmResult α) (alpha : Rat) : FamilyArmResult α :=
  { result with
    isSignificant := result.pValue < alpha, inBhFamily := false, exploratory := true,
    decisionValid := false }

def markLockedControl (result : FamilyArmResult α) : FamilyArmResult α :=
  { result with
    isSignificant := false, inBhFamily := false, exploratory := false, decisionValid := true }

def isSameMetricSlice (result member : DecisionFamilyMember) : Bool :=
  result.metricId = member.metricId && result.dimensionId = member.dimensionId &&
    result.dimensionValue = member.dimensionValue

def isLockedControlResult (result : FamilyArmResult α) (controlVariant : Option String)
    (familyByKey : List (String × DecisionFamilyMember)) : Bool :=
  controlVariant = some result.variant &&
    familyByKey.any fun entry => isSameMetricSlice result.toDecisionFamilyMember entry.2

/-- A row once it is known which keys are rejected. -/
def annotateResult (alpha : Rat) (controlVariant : Option String)
    (familyByKey : List (String × DecisionFamilyMember)) (rejectedKeys : List String)
    (result : FamilyArmResult α) : FamilyArmResult α :=
  let key := decisionFamilyKey result.toDecisionFamilyMember
  if key ∉ familyByKey.map (·.1) then
    if isLockedControlResult result controlVariant familyByKey then markLockedControl result
    else markExploratoryRaw result alpha
  else
    { result with
      isSignificant := key ∈ rejectedKeys, inBhFamily := true, exploratory := false,
      decisionValid := true }

def applyDecisionFamilyCorrection (input : DecisionFamilyCorrectionInput α) :
    Except String (DecisionFamilyCorrectionOutput α) := do
  let alpha ← alphaFromConfidenceLevel arithmetic input.confidenceLevel
  let procedure := resolveFamilyCorrectionProcedure input.familyCorrection
  let familyByKey ← decisionFamilyByKey input.decisionFamily
  validatePValues input.armResults
  if familyByKey.length = 0 then
    return {
      armResults := input.armResults.map fun result => markExploratoryRaw result alpha
      summary := { alpha, familySizeM := 0, rejected := [] } }
  let resultByKey ← lockedResultsByKey input.armResults familyByKey
  let ranked ← rankDecisionFamilyMembers collation familyByKey resultByKey
  let rejectedKeys ← rejectedDecisionKeys arithmetic ranked alpha procedure
  return {
    armResults := input.armResults.map
      (annotateResult alpha input.controlVariant familyByKey rejectedKeys)
    summary :=
      { alpha
        familySizeM := familyByKey.length
        rejected := (ranked.filter (·.key ∈ rejectedKeys)).map (·.member) } }

/-! ## 5. Dimensions -/

structure RawDimensionResult (α : Type) where
  dimensionId : String
  dimensionValue : String
  dimensionClass : DimensionClass
  armResults : List (FamilyArmResult α)

/-- A Dimension with its rows, which have lost their Dimension fields. -/
structure CorrectedDimension (α : Type) extends RawDimensionResult α where
  inBhFamily : Bool
  exploratory : Bool
  decisionValid : Bool

def stripDimensionFields (result : FamilyArmResult α) : FamilyArmResult α :=
  { result with dimensionId := none, dimensionValue := none }

/-- The three flags: whether it is in the family, is exploratory, and is valid for a decision. -/
def dimensionDecisionFlags (dimensionClass : DimensionClass) (arms : List (FamilyArmResult α)) :
    Bool × Bool × Bool :=
  match dimensionClass with
  | .secondary => (false, true, false)
  | .primary => (arms.any (·.inBhFamily), arms.all (·.exploratory),
      arms.any fun arm => arm.decisionValid && !arm.exploratory)

def correctedDimension (rawResult : RawDimensionResult α) (arms : List (FamilyArmResult α)) :
    CorrectedDimension α :=
  let flags := dimensionDecisionFlags rawResult.dimensionClass arms
  { rawResult with
    armResults := arms, inBhFamily := flags.1, exploratory := flags.2.1, decisionValid := flags.2.2 }

/-- The loop, with the rows from the offset on. -/
def takeDimensions : List (RawDimensionResult α) → List (FamilyArmResult α) →
    List (CorrectedDimension α) × List (FamilyArmResult α)
  | [], rest => ([], rest)
  | rawResult :: rawResults, rest =>
    let arms := (rest.take rawResult.armResults.length).map stripDimensionFields
    let (results, left) := takeDimensions rawResults (rest.drop rawResult.armResults.length)
    (correctedDimension rawResult arms :: results, left)

def dimensionResultsWithCorrectedArms (rawResults : List (RawDimensionResult α))
    (correctedArms : List (FamilyArmResult α)) : Except String (List (CorrectedDimension α)) :=
  let offset := (rawResults.map (·.armResults.length)).sum
  if offset ≠ correctedArms.length then
    .error "corrected Dimension arm result count does not match raw Dimension results."
  else .ok (takeDimensions rawResults correctedArms).1

/-- What `analyzeStats` does between the raw results and the guardrails. -/
def correctResults (armResults : List (FamilyArmResult α))
    (dimensionResults : List (RawDimensionResult α)) (decisionFamily : List DecisionFamilyMember)
    (confidenceLevel : Rat) (controlVariant : String)
    (familyCorrection : FamilyCorrectionProcedure) :
    Except String (List (FamilyArmResult α) × List (CorrectedDimension α)) := do
  let corrected ← applyDecisionFamilyCorrection arithmetic collation
    { armResults := armResults ++ dimensionResults.flatMap (·.armResults)
      decisionFamily, confidenceLevel, controlVariant := some controlVariant
      familyCorrection := some familyCorrection }
  let correctedDimensions ← dimensionResultsWithCorrectedArms dimensionResults
    (corrected.armResults.drop armResults.length)
  return (corrected.armResults.take armResults.length, correctedDimensions)

end Correction

end FamilyCorrection

end Stats

end Splitch
