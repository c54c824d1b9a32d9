/-
# The results of a Run

What the stats engine reports on a Run (`stats-result-arm.ts`, `stats-result-contract.ts`), what the
Run has registered at its start (`run-preregistration.ts`), and how their numbers are printed.

A number is an exact rational, and a bound of an interval may be infinite.  A bound that is absent
and one that is null are different values.  What the language does to print a number, to round a
product and to read a time is `Numbers`.
-/
import Splitch.Library.Sorting
import Splitch.Library.Utf16

namespace Splitch

namespace Stats

/-! ## 1. Numbers -/

/-- A bound of `CiBoundSchema` that is not null. -/
inductive CiBound
  | negInf
  | finite (value : Rat)
  | posInf
  deriving DecidableEq

/-- What the language does with numbers and times. -/
structure Numbers where
  /-- `value * 100`; none when the product is infinite. -/
  timesHundred : Rat → Option Rat
  /-- `String(value)`. -/
  string : Rat → String
  /-- `value.toFixed(1)`. -/
  toFixed1 : Rat → String
  /-- `Number(value.toPrecision(6))`. -/
  toPrecision6 : Rat → Rat
  /-- `Date.parse(text)`; none when it is not a number. -/
  dateParse : String → Option Int
  /-- `new Date(time).toISOString()`; none when it throws. -/
  isoString : Int → Option String

namespace Numbers

variable (numbers : Numbers)

def boundString : CiBound → String
  | .negInf => "-Infinity"
  | .finite value => numbers.string value
  | .posInf => "Infinity"

def trimNumber : CiBound → String
  | .finite value => numbers.string (numbers.toPrecision6 value)
  | bound => numbers.boundString bound

def formatPValue (value : Rat) : String :=
  if value.isInt then numbers.toFixed1 value else numbers.string value

end Numbers

/-! ## 2. Results -/

inductive StatsResultStatus
  | running
  | ready
  | stopped
  | insufficientDenominator
  | insufficientN
  | error
  deriving DecidableEq, Repr

/-- A row of results: one Metric in one Variant. -/
structure ArmResult where
  variant : String
  metricId : String
  pointEstimate : Rat
  relativeLiftPct : Option Rat
  ciLower : Option CiBound
  ciUpper : Option CiBound
  isSignificant : Bool
  inBhFamily : Bool
  decisionValid : Bool
  status : StatsResultStatus
  absoluteCiLower : Option (Option CiBound) := none
  absoluteCiUpper : Option (Option CiBound) := none
  simultaneousAbsoluteCiLower : Option (Option CiBound) := none
  simultaneousAbsoluteCiUpper : Option (Option CiBound) := none
  simultaneousCiLower : Option (Option CiBound) := none
  simultaneousCiUpper : Option (Option CiBound) := none
  deriving DecidableEq

/-- A record from Variants to counts, by its entries. -/
abbrev VariantCounts := List (String × Int)

structure SrmResult where
  srmPValue : Rat
  srmIsMismatch : Bool
  observedCounts : VariantCounts
  expectedCounts : VariantCounts
  activatedSrmPValue : Option Rat
  activatedSrmMismatch : Option Bool

structure GuardrailResult where
  metricId : String
  variant : String
  ciLower : Option CiBound
  threshold : Rat
  isBreached : Option Bool
  breachReason : Option String
  deriving DecidableEq

structure HealthMetrics where
  activationBalancePValue : Option Rat
  activationBalanceMismatch : Option Bool
  lowNWarning : Bool

inductive DimensionClass
  | primary
  | secondary
  deriving DecidableEq, Repr

structure DimensionResult where
  dimensionId : String
  dimensionValue : String
  dimensionClass : DimensionClass
  armResults : List ArmResult

structure StatsOutput where
  armResults : List ArmResult
  srm : SrmResult
  guardrailResults : List GuardrailResult
  health : HealthMetrics
  dimensionResults : Option (List DimensionResult)

/-! ## 3. What the Run has registered -/

inductive MetricDirection
  | higherIsBetter
  | lowerIsBetter
  deriving DecidableEq, Repr

inductive RopeScale
  | absolute
  | relative
  deriving DecidableEq, Repr

inductive ShipConflictResolution
  | primaryWins
  | unanimousGoals
  | anyGoal
  deriving DecidableEq, Repr

structure PreRegistrationMetric where
  metricId : String
  desirability : MetricDirection
  deriving DecidableEq

structure ShipRule where
  requiredMargin : Rat
  marginScale : RopeScale
  conflictResolution : ShipConflictResolution

structure PreRegistration where
  primaryMetricId : String
  metrics : List PreRegistrationMetric
  shipRule : ShipRule

/-- Whether a Run has a locked sample size. -/
inductive RunHorizon
  | sequential
  | fixed
  deriving DecidableEq, Repr

/-- A mismatch that was recorded on an earlier read. -/
inductive SrmKind
  | exposure
  | activated
  deriving DecidableEq, Repr

structure PersistedSrmAlarm where
  srmKind : SrmKind
  firstCrossedAt : String
  pValue : Rat

end Stats

end Splitch
