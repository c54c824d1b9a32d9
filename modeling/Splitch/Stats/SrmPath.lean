/-
# The observation path of the SRM check

The rows of a Run that the check reads (`stats-input-contract.ts`), when an Entity becomes eligible
(`srm-activated-arrival.ts`, `exposure-denominator.ts`), and the Entities of a Run in the order of their
arrival (`srm-checker.ts`, `srm-observation-path.ts`), for the Exposure check and for the activated one.

`Date.parse` is a parameter.  An absent and a null clock are both `none`.
-/
import Splitch.Library.LatestRows
import Splitch.Library.Sorting
import Splitch.Library.Utf16

namespace Splitch

namespace Srm

/-! ## 1. Rows -/

structure DedupeExposureRow where
  targetingKeyHash : String
  runId : String
  variant : String
  firstExposureTs : String
  firstIngestTs : Option String
  windowAnchor : String
  deriving DecidableEq

structure ActivationRow where
  targetingKeyHash : String
  runId : String
  activationTs : String
  activationIngestTs : Option String
  activated : Bool
  deriving DecidableEq

structure SrmPathEntity where
  targetingKeyHash : String
  variant : String
  arrivalTs : String
  deriving DecidableEq

/-- The own properties of a record, in their order. -/
structure Allocation where
  entries : List (String × Rat)
  nodup : (entries.map Prod.fst).Nodup

structure SrmCheckerInput where
  runId : String
  allocation : Allocation
  exposures : List DedupeExposureRow
  activationRows : List ActivationRow

def MULTIPLE_VARIANT : String := "__multiple__"

section

variable (dateParse : String → Option Int)

/-! ## 2. The order of arrival -/

def arrivalMs (arrivalTs : String) : Except String Int :=
  match dateParse arrivalTs with
  | some parsed => return parsed
  | none => throw ("arrival_ts must be an ISO timestamp; got " ++ arrivalTs)

def compareSrmPathEntities (left right : SrmPathEntity) : Except String Int := do
  let leftMs ← arrivalMs dateParse left.arrivalTs
  let rightMs ← arrivalMs dateParse right.arrivalTs
  if leftMs ≠ rightMs then return leftMs - rightMs
  else if Utf16.units left.targetingKeyHash < Utf16.units right.targetingKeyHash then return -1
  else if Utf16.units right.targetingKeyHash < Utf16.units left.targetingKeyHash then return 1
  else if left.variant ≠ right.variant then
    throw ("SRM observation path saw conflicting variants for " ++ left.targetingKeyHash ++ ".")
  else return 0

/-- Where an Entity falls: by the instant of its arrival, then by its pseudonym. -/
def place (entity : SrmPathEntity) : Int ×ₗ List Nat :=
  toLex ((dateParse entity.arrivalTs).getD 0, Utf16.units entity.targetingKeyHash)

/-- What the comparison of two of the Entities throws. -/
def conflict (entities : List SrmPathEntity) : Option String :=
  entities.findSome? fun left => entities.findSome? fun right =>
    match compareSrmPathEntities dateParse left right with
    | .error message => some message
    | .ok _ => none

/-- Every timestamp is read first.  A sort compares the Entities that fall on one place. -/
def sortEntitiesByArrival (entities : List SrmPathEntity) : Except String (List SrmPathEntity) := do
  entities.forM fun entity => do
    let _ ← arrivalMs dateParse entity.arrivalTs
  match conflict dateParse entities with
  | some message => throw message
  | none => return Sorting.sortBy (place dateParse) entities

/-! ## 3. Activation -/

def timestampMs (value field : String) : Except String Int :=
  match dateParse value with
  | some parsed => return parsed
  | none => throw (field ++ " must be an ISO timestamp.")

def requiredTimestamp (value : Option String) (field : String) : Except String String :=
  match value with
  | none | some "" => throw (field ++ " is required for analysis-v2 SRM eligibility.")
  | some value => return value

/-- The Activation rows of an Entity of a Run (`activationRowsByEntityForRun`). -/
def activationsOf (runId : String) (rows : List ActivationRow) (targetingKeyHash : String) :
    List ActivationRow :=
  rows.filter fun row =>
    row.runId = runId ∧ row.activated ∧ row.targetingKeyHash = targetingKeyHash

/-- The Exposure rows of an Entity of a Run (`exposuresByEntityForRun`). -/
def exposuresOf (runId : String) (rows : List DedupeExposureRow) (targetingKeyHash : String) :
    List DedupeExposureRow :=
  rows.filter fun row => row.runId = runId ∧ row.targetingKeyHash = targetingKeyHash

def isActivatedAfterExposure (exposure : DedupeExposureRow) :
    List ActivationRow → Except String Bool
  | [] => return false
  | activation :: activations => do
    let activationMs ← timestampMs dateParse activation.activationTs "activation_ts"
    let exposureMs ← timestampMs dateParse exposure.firstExposureTs "first_exposure_ts"
    if activationMs > exposureMs then return true
    else isActivatedAfterExposure exposure activations

/-- The loop of `earliestValidActivationTs`. -/
def earliestAfter (exposureMs : Int) :
    Option (String × Int) → List ActivationRow → Except String (Option (String × Int))
  | earliest, [] => return earliest
  | earliest, row :: rows => do
    if ¬ row.activated then earliestAfter exposureMs earliest rows
    else
      let activationMs ← timestampMs dateParse row.activationTs "activation_ts"
      if activationMs > exposureMs ∧ ∀ held ∈ earliest, activationMs < held.2 then
        earliestAfter exposureMs (some (row.activationTs, activationMs)) rows
      else earliestAfter exposureMs earliest rows

def earliestValidActivationTs (exposure : DedupeExposureRow) (rows : List ActivationRow) :
    Except String String := do
  let exposureMs ← timestampMs dateParse exposure.firstExposureTs "first_exposure_ts"
  match ← earliestAfter dateParse exposureMs none rows with
  | some (earliestTs, _) => return earliestTs
  | none => throw ("activated SRM entity " ++ exposure.targetingKeyHash ++
      " has no post-Exposure activation_ts.")

def qualifyingPairEligibilityTs (exposure : DedupeExposureRow) (row : ActivationRow) :
    Except String (Option String) := do
  if ¬ row.activated then return none
  else
    let exposureEventMs ← timestampMs dateParse exposure.firstExposureTs "first_exposure_ts"
    let activationMs ← timestampMs dateParse row.activationTs "activation_ts"
    if ¬ exposureEventMs < activationMs then return none
    else
      let exposureIngestTs ← requiredTimestamp exposure.firstIngestTs "first_ingest_ts"
      let activationIngestTs ← requiredTimestamp row.activationIngestTs "activation_ingest_ts"
      let exposureIngestMs ← timestampMs dateParse exposureIngestTs "first_ingest_ts"
      let activationIngestMs ← timestampMs dateParse activationIngestTs "activation_ingest_ts"
      return some (if exposureIngestMs ≥ activationIngestMs then exposureIngestTs
        else activationIngestTs)

/-- The loops of `minQualifyingPairEligibilityTs`, along the pairs. -/
def minEligibility :
    Option (String × Int) → List (DedupeExposureRow × ActivationRow) →
      Except String (Option (String × Int))
  | earliest, [] => return earliest
  | earliest, (exposure, row) :: pairs => do
    match ← qualifyingPairEligibilityTs dateParse exposure row with
    | none => minEligibility earliest pairs
    | some pairTs =>
      let pairMs ← timestampMs dateParse pairTs "eligibility_ingest_ts"
      if ∃ held ∈ earliest, pairMs ≥ held.2 then minEligibility earliest pairs
      else minEligibility (some (pairTs, pairMs)) pairs

def minQualifyingPairEligibilityTs (exposures : List DedupeExposureRow)
    (activationRows : List ActivationRow) : Except String (Option String) := do
  let earliest ← minEligibility dateParse none (exposures.product activationRows)
  return earliest.map Prod.fst

def earliestValidActivationIngestTs (exposures : List DedupeExposureRow)
    (activationRows : List ActivationRow) : Except String String := do
  match ← minQualifyingPairEligibilityTs dateParse exposures activationRows with
  | some earliestEligibilityTs => return earliestEligibilityTs
  | none =>
    let entity := (exposures.head?.map (·.targetingKeyHash)).getD "unknown"
    throw ("activated SRM entity " ++ entity ++
      " has no qualifying Exposure/Activation ingest pair.")

/-! ## 4. The Entities of a Run -/

def dedupedExposureRowsForVariant (runId variant : String) (exposures : List DedupeExposureRow) :
    List DedupeExposureRow :=
  LatestRows.latest (·.targetingKeyHash) (exposures.filter fun exposure =>
    exposure.runId = runId ∧ exposure.variant = variant ∧ exposure.variant ≠ MULTIPLE_VARIANT)

/-- The rows that `activatedExposureRows` puts into its map, each anchored to its Activation. -/
def activatedRows (runId : String) (activationRows : List ActivationRow) :
    List DedupeExposureRow → Except String (List DedupeExposureRow)
  | [] => return []
  | exposure :: exposures => do
    if exposure.runId ≠ runId ∨ exposure.variant = MULTIPLE_VARIANT then
      activatedRows runId activationRows exposures
    else
      let activations := activationsOf runId activationRows exposure.targetingKeyHash
      if ¬ (← isActivatedAfterExposure dateParse exposure activations) then
        activatedRows runId activationRows exposures
      else
        let windowAnchor ← earliestValidActivationTs dateParse exposure activations
        let rows ← activatedRows runId activationRows exposures
        return { exposure with windowAnchor } :: rows

/-- Its map is by Variant and Entity. -/
def activatedKey (exposure : DedupeExposureRow) : String :=
  exposure.variant ++ "/" ++ exposure.targetingKeyHash

def activatedExposureRows (input : SrmCheckerInput) : Except String (List DedupeExposureRow) := do
  let rows ← activatedRows dateParse input.runId input.activationRows input.exposures
  return LatestRows.latest activatedKey rows

def allocationVariants (allocation : Allocation) : Except String (List String) := do
  if allocation.entries.length < 2 then throw "SRM allocation requires at least two variants."
  else
    allocation.entries.forM fun (variant, weight) =>
      if weight ≤ 0 then throw ("SRM allocation for " ++ variant ++ " must be positive.")
      else return
    return allocation.entries.map Prod.fst

def assertExposureVariantsAreDeclared (input : SrmCheckerInput) (variants : List String) :
    Except String Unit :=
  input.exposures.forM fun exposure =>
    if exposure.runId = input.runId ∧ exposure.variant ≠ MULTIPLE_VARIANT ∧
      exposure.variant ∉ variants then
      throw ("SRM exposure variant " ++ exposure.variant ++ " is missing from allocation.")
    else return

def dedupedPathEntity (exposure : DedupeExposureRow) : Except String SrmPathEntity :=
  match exposure.firstIngestTs with
  | none | some "" => throw ("first_ingest_ts is required for analysis-v2 SRM entity " ++
      exposure.targetingKeyHash ++ ".")
  | some firstIngestTs => return ⟨exposure.targetingKeyHash, exposure.variant, firstIngestTs⟩

def dedupedPathEntities (input : SrmCheckerInput) (variants : List String) :
    Except String (List SrmPathEntity) :=
  (variants.flatMap fun variant =>
    dedupedExposureRowsForVariant input.runId variant input.exposures).mapM dedupedPathEntity

def activatedPathEntity (input : SrmCheckerInput) (exposure : DedupeExposureRow) :
    Except String SrmPathEntity := do
  let exposures := exposuresOf input.runId input.exposures exposure.targetingKeyHash
  let arrivalTs ← earliestValidActivationIngestTs dateParse
    (if exposures = [] then [exposure] else exposures)
    (activationsOf input.runId input.activationRows exposure.targetingKeyHash)
  return ⟨exposure.targetingKeyHash, exposure.variant, arrivalTs⟩

def activatedPathEntities (input : SrmCheckerInput) (variants : List String) :
    Except String (List SrmPathEntity) := do
  let rows ← activatedExposureRows dateParse input
  (rows.filter (·.variant ∈ variants)).mapM (activatedPathEntity dateParse input)

/-- The Entities of the Exposure check, once the allocation and the rows have been checked. -/
def exposureEntities (input : SrmCheckerInput) : Except String (List SrmPathEntity) := do
  let variants ← allocationVariants input.allocation
  assertExposureVariantsAreDeclared input variants
  dedupedPathEntities input variants

/-- The Entities of the activated check. -/
def activatedEntities (input : SrmCheckerInput) : Except String (List SrmPathEntity) := do
  let variants ← allocationVariants input.allocation
  assertExposureVariantsAreDeclared input variants
  activatedPathEntities dateParse input variants

/-- The observation path of the Exposure check. -/
def exposurePath (input : SrmCheckerInput) : Except String (List SrmPathEntity) := do
  sortEntitiesByArrival dateParse (← exposureEntities input)

/-- The observation path of the activated check. -/
def activatedPath (input : SrmCheckerInput) : Except String (List SrmPathEntity) := do
  sortEntitiesByArrival dateParse (← activatedEntities dateParse input)

end

end Srm

end Splitch
