/-
# Flag Configurations under Approval

Where a Policy asks for a Review, a write of a Flag Configuration is taken apart
(`flag-config-approval-flow.ts`, `approval-service.ts`).  First it is PREVIEWED: the row that is there is
read, and the next row is made of it, mints included.  Then it is CREATED as an Approval Request, with the
version that the Configuration has at that moment.  Later a Review CHECKS the Request against the version
that there is by then, and where they agree the Request is APPLIED: the row is read once more, and the
fields in which the preview differs from what was read beside it replace those of the row.

These are four readings of one Configuration, and other writes may land between any two of them.  The
version guards the stretch from the second to the third only.  A write between the preview and the creation
is not seen, since the Request records the version that this write has left; and a write between the check
and the application is not seen either, since the application compares with the row that it has just read.
What the two stretches can do to a salt is the matter of `RolloutSalts`.

The Promotion of a winner is created under a guard of its own, the version that its caller expects, which is
the version that its preview has read.  A Request of it that has become stale may be replaced by one that
proposes the same Configuration over again.

A Flag is then a machine: a step is a write, a Sync, the initial row of an Environment, or one of the steps
of an Approval.  Each is one section of the Environment's queue, or one transaction of the Approval tables.
-/
import Splitch.Library.Runs
import Splitch.ConfigStore.FlagConfigWrites

namespace Splitch

namespace FlagWrites

/-! ## 1. Operations -/

inductive Operation
  | flag_config_update (input : PatchFlagConfigInput)
  | flag_targeting_rules_replace (input : ReplaceTargetingRulesInput)
  | flags_promote (input : PromoteFlagConfigInput)
  | experiment_winner_promote (body : ConcludeRunRequest)
  deriving DecidableEq, Repr

/-- The Environment that is written to. -/
def Operation.environmentId : Operation → String
  | .flag_config_update input => input.environmentId
  | .flag_targeting_rules_replace input => input.environmentId
  | .flags_promote input => input.targetEnvironmentId
  | .experiment_winner_promote body => body.environmentId

/-- The rules that the caller states, with or without their salts. -/
def Operation.callerRules : Operation → List TargetingRuleInput
  | .flag_targeting_rules_replace input => input.targetingRules
  | .experiment_winner_promote body => body.targetingRules
  | _ => []

section

variable (surroundings : Surroundings) (configs : FlagConfigs)

/-- A winner's Promotion has a floor in every Policy (`winnerConfirmFloor`): it is never written at once. -/
def writeOperation : Operation → Except WriteFailure FlagConfigRow
  | .flag_config_update input => writeFlagConfig surroundings configs input
  | .flag_targeting_rules_replace input => replaceTargetingRules surroundings configs input
  | .flags_promote input => promoteFlagConfig surroundings configs input
  | .experiment_winner_promote _ => throw .APPROVAL_REVIEW_REQUIRED

def previewOperation : Operation → Except WriteFailure (FlagConfigRow × FlagConfigResult)
  | .flag_config_update input => previewFlagConfig surroundings configs input
  | .flag_targeting_rules_replace input => previewTargetingRules surroundings configs input
  | .flags_promote input => previewPromotion surroundings configs input
  | .experiment_winner_promote body => prepareWinnerProposal surroundings configs body

/-! ## 2. Approval Requests -/

/-- What has been previewed. -/
structure Proposal where
  operation : Operation
  /-- The row that the preview has read. -/
  before : FlagConfigRow
  /-- What the diff is taken against: `readFlagConfig` answers beside the preview. -/
  current : FlagConfigResult
  proposed : FlagConfigResult

inductive ApprovalStatus
  | pending
  | applied
  | declined
  | stale
  deriving DecidableEq, Repr

structure ApprovalRequest extends Proposal where
  targetVersion : Option Nat
  status : ApprovalStatus

/-- A Configuration that is absent has a version of its own. -/
def approvalTargetVersion (environmentId : String) : Option Nat :=
  (configs environmentId).map (·.version)

/-- The winner's Promotion alone is created at the version that its caller expects. -/
def requireExpectedVersion : Operation → Except WriteFailure Unit
  | .experiment_winner_promote body =>
    require (approvalTargetVersion configs body.environmentId = some body.expectedConfigVersion)
      (.TARGET_CONFIGURATION_STALE body.expectedConfigVersion
        (approvalTargetVersion configs body.environmentId))
  | _ => return

def createApproval (proposal : Proposal) : Except WriteFailure ApprovalRequest := do
  refuse surroundings.refused
  requireExpectedVersion configs proposal.operation
  return { proposal with
    targetVersion := approvalTargetVersion configs proposal.operation.environmentId
    status := .pending }

/-- Only a conclusion has Requests that replace one another. -/
def requireConclusion : Operation → Except WriteFailure Unit
  | .experiment_winner_promote _ => return
  | _ => throw .APPROVAL_REQUEST_NOT_FOUND

/-- The Configuration of the conclusion, at the version that follows. -/
def restated (request : ApprovalRequest) (current : FlagConfigRow) : FlagConfigResult :=
  { request.proposed with version := current.version + 1 }

/-- `createConclusionPromotionRequest`: a winner's Promotion that has become stale is proposed again. -/
def replacePromotionRequest (request : ApprovalRequest) (expectedConfigVersion : Nat) :
    Except WriteFailure ApprovalRequest := do
  refuse surroundings.refused
  requireConclusion request.operation
  let targetVersion := approvalTargetVersion configs request.operation.environmentId
  require ((request.status = .pending ∨ request.status = .stale) ∧ targetVersion ≠ request.targetVersion)
    (invalid ["expectedConfigVersion"]
      "a replacement Promotion Request is allowed only after the previous request is stale")
  let current ← requireConfig
    (← buildSnapshotFromD1 surroundings configs request.operation.environmentId)
  require (current.version = expectedConfigVersion)
    (.TARGET_CONFIGURATION_STALE expectedConfigVersion (some current.version))
  require (winnerChanges current.toFlagConfigResult (restated request current))
    (invalid ["expectedConfigVersion"] "target already matches the concluded Configuration")
  return { request with
    current := current.toFlagConfigResult
    proposed := restated request current
    targetVersion := some current.version
    status := .pending }

/-- What a Review checks before it applies. -/
def reviewApproval (request : ApprovalRequest) : Except WriteFailure Unit := do
  require (request.status = .pending) .APPROVAL_REQUEST_RESOLVED
  refuse surroundings.refused
  let currentVersion := approvalTargetVersion configs request.operation.environmentId
  require (currentVersion = request.targetVersion)
    (.APPROVAL_REQUEST_STALE request.targetVersion currentVersion)

/-! ## 3. What an approved Request writes -/

def validateProposal (proposed : FlagConfigResult) : Except WriteFailure Unit := do
  requireVariants (missingAvailableVariants (some proposed.availableVariantNames)
      surroundings.variants ++
    missingRuleVariantNames proposed.targetingRules surroundings.variants
      proposed.availableVariantNames).eraseDups
  resolveSegments surroundings proposed.targetingRules
  requireResolvable surroundings proposed.rollout proposed.availableVariantNames

section

variable (proposal : Proposal)

/-- `diffEntriesTouch`. -/
def Proposal.Touches {F : Type} (field : FlagConfigResult → F) : Prop :=
  field proposal.current ≠ field proposal.proposed

instance {F : Type} [DecidableEq F] (field : FlagConfigResult → F) :
    Decidable (proposal.Touches field) :=
  inferInstanceAs (Decidable (field proposal.current ≠ field proposal.proposed))

/-- A field that the diff touches is that of the proposal. -/
def touched {F : Type} [DecidableEq F] (current : FlagConfigRow) (field : FlagConfigResult → F) : F :=
  if proposal.Touches field then field proposal.proposed else field current.toFlagConfigResult

/-- `approvedConfigPatch`, and the rules where the diff touches them. -/
def approved (current : FlagConfigRow) : FlagConfigResult where
  version := current.version + 1
  enabled := touched proposal current (·.enabled)
  availableVariantNames := touched proposal current (·.availableVariantNames)
  targetingRules := touched proposal current (·.targetingRules)
  rollout := touched proposal current (·.rollout)

def approvedPatchMovesConfig : Bool :=
  proposal.Touches (·.enabled) || proposal.Touches (·.availableVariantNames) ||
    proposal.Touches (·.rollout)

end

def applyApprovedFlagConfig (request : ApprovalRequest) : Except WriteFailure FlagConfigRow := do
  let current ← requireConfig
    (← buildSnapshotFromD1 surroundings configs request.operation.environmentId)
  validateProposal surroundings request.proposed
  require (request.current ≠ request.proposed) .CHANGED_FIELDS_UNDETERMINED
  refuse surroundings.frozen
  require (request.Touches (·.targetingRules) ∨ approvedPatchMovesConfig request.toProposal)
    .APPROVAL_EMPTY_CHANGE
  refuse surroundings.unwritable
  -- the Review commits with the row: it is pending yet, and no guard is lost
  require (request.status = .pending) .APPROVAL_NOT_APPLIED
  refuse surroundings.refused
  if request.Touches (·.targetingRules) then
    replaceRows surroundings (approved request.toProposal current)
  else return ⟨{ approved request.toProposal current with targetingRules := current.targetingRules },
    current.unique⟩

end

/-! ## 4. The writes of a Flag -/

structure FlagWorld where
  configs : FlagConfigs
  /-- What has been previewed, and may be created. -/
  proposals : List Proposal
  requests : List ApprovalRequest
  /-- The Requests that a Review has found at their version. -/
  checked : List Nat

inductive FlagWrite
  | write (operation : Operation) (surroundings : Surroundings)
  | sync (input : SyncFlagConfigInput) (surroundings : Surroundings)
  | ensureInitial (environmentId : String) (surroundings : Surroundings)
  | preview (operation : Operation) (current : FlagConfigResult) (surroundings : Surroundings)
  | create (number : Nat) (surroundings : Surroundings)
  | replace (number expectedConfigVersion : Nat) (surroundings : Surroundings)
  | review (number : Nat) (surroundings : Surroundings)
  | apply (number : Nat) (surroundings : Surroundings)
  /-- A Review declines, or its application can never succeed. -/
  | resolve (number : Nat) (stale : Bool)

namespace FlagWorld

variable (world : FlagWorld)

def land (environmentId : String) (row : FlagConfigRow) : FlagWorld :=
  { world with configs := Function.update world.configs environmentId (some row) }

@[simp] theorem land_self (environmentId : String) (row : FlagConfigRow) :
    (world.land environmentId row).configs environmentId = some row := Function.update_self ..

theorem land_of_ne {environmentId other : String} (row : FlagConfigRow) (h : other ≠ environmentId) :
    (world.land environmentId row).configs other = world.configs other := Function.update_of_ne h ..

theorem land_land (environmentId : String) (row row' : FlagConfigRow) :
    (world.land environmentId row).land environmentId row' = world.land environmentId row' := by
  unfold land
  rw [Function.update_idem]

/-- A Request that is pending is resolved. -/
def resolve (number : Nat) (status : ApprovalStatus) : FlagWorld :=
  { world with requests := world.requests.modify number fun request =>
      if request.status = .pending then { request with status } else request }

end FlagWorld

def landed (world : FlagWorld) (environmentId : String) :
    Except WriteFailure FlagConfigRow → Except WriteFailure Unit × FlagWorld
  | .error failure => (.error failure, world)
  | .ok row => (.ok ⟨⟩, world.land environmentId row)

/-- A Request that a Review finds stale is resolved as stale. -/
def reviewed (world : FlagWorld) (number : Nat) :
    Except WriteFailure Unit → Except WriteFailure Unit × FlagWorld
  | .error (.APPROVAL_REQUEST_STALE targetVersion currentTargetVersion) =>
    (.error (.APPROVAL_REQUEST_STALE targetVersion currentTargetVersion), world.resolve number .stale)
  | .error failure => (.error failure, world)
  | .ok _ => (.ok ⟨⟩, { world with checked := number :: world.checked })

/-- One more Request. -/
def requested (world : FlagWorld) :
    Except WriteFailure ApprovalRequest → Except WriteFailure Unit × FlagWorld
  | .error failure => (.error failure, world)
  | .ok request => (.ok ⟨⟩, { world with requests := world.requests ++ [request] })

/-- What a preview is diffed against: the conclusion of a Run diffs against the row itself. -/
def diffedAgainst (before : FlagConfigRow) (current : FlagConfigResult) : Operation → FlagConfigResult
  | .experiment_winner_promote _ => before.toFlagConfigResult
  | _ => current

def previewed (world : FlagWorld) (operation : Operation) (current : FlagConfigResult) :
    Except WriteFailure (FlagConfigRow × FlagConfigResult) → Except WriteFailure Unit × FlagWorld
  | .error failure => (.error failure, world)
  | .ok (before, proposed) => (.ok ⟨⟩, { world with proposals := world.proposals ++
      [⟨operation, before, diffedAgainst before current operation, proposed⟩] })

/-- The initial row stays, also where the rows of the source are refused. -/
def syncStep (world : FlagWorld) (input : SyncFlagConfigInput) (surroundings : Surroundings) :
    Except WriteFailure Unit × FlagWorld :=
  match prepareSync surroundings world.configs input with
  | .error failure => (.error failure, world)
  | .ok target => landed (world.land input.environmentId target) input.environmentId
      (syncFlagConfig surroundings world.configs input target)

/-- A Request is applied behind a check, however long ago, and once. -/
def applyStep (world : FlagWorld) (number : Nat) (request : ApprovalRequest)
    (surroundings : Surroundings) : Except WriteFailure Unit × FlagWorld :=
  if number ∈ world.checked then
    match applyApprovedFlagConfig surroundings world.configs request with
    | .error failure => (.error failure, world)
    | .ok row =>
      (.ok ⟨⟩, (world.land request.operation.environmentId row).resolve number .applied)
  else (.error .APPROVAL_REVIEW_REQUIRED, world)

def onRequest (world : FlagWorld) (number : Nat)
    (next : ApprovalRequest → Except WriteFailure Unit × FlagWorld) :
    Except WriteFailure Unit × FlagWorld :=
  match world.requests[number]? with
  | none => (.error .APPROVAL_REQUEST_NOT_FOUND, world)
  | some request => next request

def flagStep (world : FlagWorld) : FlagWrite → Except WriteFailure Unit × FlagWorld
  | .write operation surroundings =>
    landed world operation.environmentId (writeOperation surroundings world.configs operation)
  | .sync input surroundings => syncStep world input surroundings
  | .ensureInitial environmentId surroundings =>
    landed world environmentId (ensureInitialFlagConfig surroundings world.configs environmentId)
  | .preview operation current surroundings =>
    previewed world operation current (previewOperation surroundings world.configs operation)
  | .create number surroundings =>
    match world.proposals[number]? with
    | none => (.error .FLAG_NOT_FOUND, world)
    | some proposal => requested world (createApproval surroundings world.configs proposal)
  | .replace number expectedConfigVersion surroundings => onRequest world number fun request =>
    requested world (replacePromotionRequest surroundings world.configs request expectedConfigVersion)
  | .review number surroundings => onRequest world number fun request =>
    reviewed world number (reviewApproval surroundings world.configs request)
  | .apply number surroundings => onRequest world number fun request =>
    applyStep world number request surroundings
  | .resolve number stale => (.ok ⟨⟩, world.resolve number (if stale then .stale else .declined))

/-- The writes of a Flag, from Configurations without Requests. -/
def flagWrites (configs : FlagConfigs) : Machine FlagWorld FlagWrite (Except WriteFailure Unit) where
  init := ⟨configs, [], [], []⟩
  step := flagStep

end FlagWrites

end Splitch
