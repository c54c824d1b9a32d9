/-
# Redeeming one Exposure

`redeemOne` of `exposures.ts` with its helpers (`exposures-helpers.ts`, `exposure-claim-fault.ts`,
`evaluate/exposure-assembly.ts`), as a program over the calls it awaits: the identity admission,
the claim store, the ingest sink and the holdover coordinator.  Every call may fail; what a
failing call throws is part of its reply, and a `try … catch` of the source is a case distinction
on it.

Logging changes nothing the program can see, and is left out.
-/
import Splitch.Assignment.AssignmentStore
import Splitch.Library.Calls
import Splitch.Redemption.ClaimCore
import Splitch.Redemption.Ticket

namespace Splitch

/-! ## 1. Requests and results -/

/-- The rejection codes of this route. -/
inductive ErrorCode
  | VALIDATION_ERROR
  | SERVICE_UNAVAILABLE
  | INTERNAL_SERVER_ERROR
  | EVENT_ID_CONFLICT
  | EXPOSURE_TICKET_EXPIRED
  | EXPOSURE_TICKET_INVALID
  deriving DecidableEq, Repr

/-- The one code on which the SDK retries. -/
def RETRYABLE_EXPOSURE_REJECTION_CODE : ErrorCode := .SERVICE_UNAVAILABLE

/-- The code is there exactly when the item is rejected. -/
inductive ExposureBatchResultStatus
  | accepted
  | deduplicated
  | suppressed
  | rejected (code : ErrorCode)
  deriving DecidableEq, Repr

structure ExposureBatchResult where
  exposureId : String
  status : ExposureBatchResultStatus
  deriving DecidableEq, Repr

/-- One item of the batch, the scope of its credential and the admission it runs under. -/
structure RedemptionRequest where
  exposureId : String
  exposureTicket : String
  clientTimestamp : String
  appId : String
  environmentId : String
  /-- The identity version the App was admitted with. -/
  identityVersion : String
  deriving DecidableEq, Repr

/-- What `redeemOne` computes with. -/
structure RedeemPlatform extends TicketPlatform where
  /-- SHA-256 of the text, in hexadecimal. -/
  sha256Hex : String → String
  toISOString : Int → String
  /-- The configured ticket keys. -/
  keys : VerifyExposureTicketDeps

def ticketFingerprint (platform : RedeemPlatform) (ticket : String) : String :=
  platform.sha256Hex ticket

/-! ## 2. The calls -/

/-- Why a claim-store call threw. -/
inductive ClaimStoreFault
  | transport
  | http (status : Nat)
  | protocol
  | other
  deriving DecidableEq, Repr

/-- Why the ingest sink threw: its own error, with the HTTP status if there was one, or another. -/
inductive IngestFault
  | sinkError (status : Option Nat)
  | other
  deriving DecidableEq, Repr

inductive HoldoverWriteStatus
  | completed
  | owned
  | poisoned
  | suppressed
  deriving DecidableEq, Repr

structure AssembledExposure where
  appId : String
  environmentId : String
  experimentId : String
  runId : String
  idType : String
  targetingKeyHash : String
  entityFamilyHash : String
  variantName : String
  eventId : String
  dedupKey : String
  sourceId : String
  clientTimestamp : String
  exposureAt : String
  serverReceivedAt : String
  deriving DecidableEq, Repr

/-- The exposureId and fingerprint a claim-store call is about; its clock is the callee's. -/
structure RedemptionClaimContext where
  appId : String
  environmentId : String
  exposureId : String
  ticketFingerprint : String
  deriving DecidableEq, Repr

inductive RedeemCall
  /-- The handler's clock. -/
  | now
  /-- Is the App still on the identity version it was admitted with? -/
  | admissionCurrent
  | claim (input : RedemptionClaimContext)
  | release (input : RedemptionClaimContext)
  | markSealed (input : RedemptionClaimContext)
  | acknowledge (input : RedemptionClaimContext)
  | sourceId
  | ingest (exposure : AssembledExposure)
  | ensureHoldover (input : HashedAssignmentPutInput) (sourceCreatedAtMs : Option Int)

/-- What a call answers.  Where it can throw, the fault is the error case. -/
@[reducible] def RedeemCall.Reply : RedeemCall → Type
  | now => Int
  | admissionCurrent => Bool
  | claim _ => Except ClaimStoreFault ExposureRedemptionClaimOutcome
  | release _ => Except ClaimStoreFault Unit
  | markSealed _ => Except ClaimStoreFault Unit
  | acknowledge _ => Except ClaimStoreFault ExposureRedemptionAcknowledgeOutcome
  | sourceId => Except Unit String
  | ingest _ => Except IngestFault Unit
  | ensureHoldover _ _ => Except Unit HoldoverWriteStatus

abbrev RedeemM := Calls RedeemCall RedeemCall.Reply

abbrev clockNow : RedeemM Int := Calls.perform RedeemCall.now

abbrev admissionCurrent : RedeemM Bool := Calls.perform RedeemCall.admissionCurrent

abbrev claimsClaim (input : RedemptionClaimContext) :
    RedeemM (Except ClaimStoreFault ExposureRedemptionClaimOutcome) :=
  Calls.perform (RedeemCall.claim input)

abbrev claimsRelease (input : RedemptionClaimContext) :
    RedeemM (Except ClaimStoreFault Unit) := Calls.perform (RedeemCall.release input)

abbrev claimsMarkSealed (input : RedemptionClaimContext) :
    RedeemM (Except ClaimStoreFault Unit) := Calls.perform (RedeemCall.markSealed input)

abbrev claimsAcknowledge (input : RedemptionClaimContext) :
    RedeemM (Except ClaimStoreFault ExposureRedemptionAcknowledgeOutcome) :=
  Calls.perform (RedeemCall.acknowledge input)

abbrev newSourceId : RedeemM (Except Unit String) := Calls.perform RedeemCall.sourceId

abbrev ingestWrite (exposure : AssembledExposure) : RedeemM (Except IngestFault Unit) :=
  Calls.perform (RedeemCall.ingest exposure)

abbrev holdoverEnsure (input : HashedAssignmentPutInput) (sourceCreatedAtMs : Option Int) :
    RedeemM (Except Unit HoldoverWriteStatus) :=
  Calls.perform (RedeemCall.ensureHoldover input sourceCreatedAtMs)

/-! ## 3. Helpers -/

def rejected (exposureId : String) (code : ErrorCode) : ExposureBatchResult :=
  ⟨exposureId, .rejected code⟩

/-- Deterministic only for the statuses the claim object itself emits. -/
def exposureClaimFaultCode : ClaimStoreFault → ErrorCode
  | .transport => RETRYABLE_EXPOSURE_REJECTION_CODE
  | .http status =>
    if status = 400 ∨ status = 404 ∨ status = 409 then .INTERNAL_SERVER_ERROR
    else RETRYABLE_EXPOSURE_REJECTION_CODE
  | .protocol => .INTERNAL_SERVER_ERROR
  | .other => .INTERNAL_SERVER_ERROR

def rejectClaimStoreFault (exposureId : String) (cause : ClaimStoreFault) : ExposureBatchResult :=
  rejected exposureId (exposureClaimFaultCode cause)

def ingestFailureCode : IngestFault → ErrorCode
  | .sinkError (some 400) => .VALIDATION_ERROR
  | _ => RETRYABLE_EXPOSURE_REJECTION_CODE

def verifyTicketForScope (platform : RedeemPlatform) (request : RedemptionRequest) :
    RedeemM (Option (Except ErrorCode ExposureTicketPayload)) := do
  let nowMs ← clockNow
  match verifyExposureTicket platform.toTicketPlatform platform.keys request.exposureTicket
      nowMs with
  -- a weak key is a thrown Error, which nothing catches
  | .error _ => return none
  | .ok (.rejected .expired _) => return some (.error .EXPOSURE_TICKET_EXPIRED)
  | .ok (.rejected .invalid _) => return some (.error .EXPOSURE_TICKET_INVALID)
  | .ok (.ok payload) =>
    if payload.app_id ≠ request.appId ∨ payload.environment_id ≠ request.environmentId then
      return some (.error .EXPOSURE_TICKET_INVALID)
    else if request.identityVersion ≠ payload.identity_version then
      return some (.error .EXPOSURE_TICKET_INVALID)
    else return some (.ok payload)

def releaseClaimQuietly (claimInput : RedemptionClaimContext) : RedeemM Unit := do
  let _ ← claimsRelease claimInput
  return ()

/-- A result, if the App's identity generation has moved on. -/
def staleExposure (exposureId : String) : RedeemM (Option ExposureBatchResult) := do
  if ← admissionCurrent then return none
  else return some (rejected exposureId RETRYABLE_EXPOSURE_REJECTION_CODE)

/-- The put that the ticket entitles its Entity to. -/
def holdoverInput (ticket : ExposureTicketPayload) (request : RedemptionRequest) :
    HashedAssignmentPutInput where
  appId := request.appId
  experimentId := ticket.experiment_id
  idType := ticket.id_type
  targetingKeyHash := ticket.targeting_key_hash
  identityVersion := some ticket.identity_version
  runId := ticket.run_id
  sourceCreatedAtMs := none
  variant := ticket.variant

/-- A result, if the holdover is neither complete nor durably owned. -/
def ensureHoldoverWrite (platform : RedeemPlatform) (ticket : ExposureTicketPayload)
    (request : RedemptionRequest) : RedeemM (Option ExposureBatchResult) := do
  match ← holdoverEnsure (holdoverInput ticket request)
      (platform.dateParse ticket.issued_at) with
  | .error _ => return some (rejected request.exposureId RETRYABLE_EXPOSURE_REJECTION_CODE)
  | .ok .poisoned => return some (rejected request.exposureId .INTERNAL_SERVER_ERROR)
  | .ok .suppressed => return some ⟨request.exposureId, .suppressed⟩
  | .ok .completed => return none
  | .ok .owned => return none

def exposureDedupKey (platform : RedeemPlatform) (ticket : ExposureTicketPayload)
    (request : RedemptionRequest) (sourceId : String) : String :=
  "sha256:" ++ platform.sha256Hex (String.intercalate ":"
    ["exposure", request.appId, ticket.experiment_id, ticket.run_id, ticket.id_type,
      ticket.targeting_key_hash, sourceId, request.exposureId])

def assembleExposureFromTicket (platform : RedeemPlatform) (ticket : ExposureTicketPayload)
    (request : RedemptionRequest) (sourceId : String) : RedeemM AssembledExposure := do
  let serverReceivedAt := platform.toISOString (← clockNow)
  return {
    appId := request.appId
    environmentId := request.environmentId
    experimentId := ticket.experiment_id
    runId := ticket.run_id
    idType := ticket.id_type
    targetingKeyHash := ticket.targeting_key_hash
    entityFamilyHash := ticket.entity_family_hash
    variantName := ticket.variant
    eventId := request.exposureId
    dedupKey := exposureDedupKey platform ticket request sourceId
    sourceId
    clientTimestamp := request.clientTimestamp
    exposureAt := serverReceivedAt
    serverReceivedAt }

/-! ## 4. The redemption -/

def completeDeduplicated (platform : RedeemPlatform) (ticket : ExposureTicketPayload)
    (request : RedemptionRequest) : RedeemM ExposureBatchResult := do
  if let some stale ← staleExposure request.exposureId then return stale
  if let some holdoverFault ← ensureHoldoverWrite platform ticket request then
    return holdoverFault
  if let some staleBeforeSuccess ← staleExposure request.exposureId then
    return staleBeforeSuccess
  return ⟨request.exposureId, .deduplicated⟩

/-- What follows a successful acknowledge, on both paths that make one. -/
def completeAcknowledged (platform : RedeemPlatform) (ticket : ExposureTicketPayload)
    (request : RedemptionRequest) (ack : ExposureRedemptionAcknowledgeOutcome) :
    RedeemM ExposureBatchResult := do
  if let some holdoverFault ← ensureHoldoverWrite platform ticket request then
    return holdoverFault
  if let some staleBeforeSuccess ← staleExposure request.exposureId then
    return staleBeforeSuccess
  return ⟨request.exposureId, if ack = .alreadyAccepted then .deduplicated else .accepted⟩

/-- What follows a claim-store fault after the ingest: the holdover is ensured all the same. -/
def confirmFault (platform : RedeemPlatform) (ticket : ExposureTicketPayload)
    (request : RedemptionRequest) (cause : ClaimStoreFault) : RedeemM ExposureBatchResult := do
  if let some holdoverFault ← ensureHoldoverWrite platform ticket request then
    return holdoverFault
  return rejectClaimStoreFault request.exposureId cause

def completeAcknowledgeOnly (platform : RedeemPlatform) (claimInput : RedemptionClaimContext)
    (ticket : ExposureTicketPayload) (request : RedemptionRequest) :
    RedeemM ExposureBatchResult := do
  if let some stale ← staleExposure request.exposureId then return stale
  match ← claimsAcknowledge claimInput with
  | .error cause => confirmFault platform ticket request cause
  | .ok ack => completeAcknowledged platform ticket request ack

def assembleClaimedExposure (platform : RedeemPlatform) (claimInput : RedemptionClaimContext)
    (ticket : ExposureTicketPayload) (request : RedemptionRequest) :
    RedeemM (Except ExposureBatchResult AssembledExposure) := do
  if let some stale ← staleExposure request.exposureId then return .error stale
  match ← newSourceId with
  | .error _ =>
    releaseClaimQuietly claimInput
    return .error (rejected request.exposureId RETRYABLE_EXPOSURE_REJECTION_CODE)
  | .ok sourceId => return .ok (← assembleExposureFromTicket platform ticket request sourceId)

def ingestExposure (exposure : AssembledExposure) (claimInput : RedemptionClaimContext)
    (exposureId : String) : RedeemM (Option ExposureBatchResult) := do
  if let some stale ← staleExposure exposureId then return some stale
  match ← ingestWrite exposure with
  | .ok _ => return none
  | .error cause =>
    releaseClaimQuietly claimInput
    return some (rejected exposureId (ingestFailureCode cause))

def sealIngestAndConfirm (platform : RedeemPlatform) (claimInput : RedemptionClaimContext)
    (ticket : ExposureTicketPayload) (request : RedemptionRequest) :
    RedeemM ExposureBatchResult := do
  match ← assembleClaimedExposure platform claimInput ticket request with
  | .error result => return result
  | .ok exposure =>
    if let some ingestFailure ← ingestExposure exposure claimInput request.exposureId then
      return ingestFailure
    if let some staleBeforeConfirm ← staleExposure request.exposureId then
      return staleBeforeConfirm
    match ← claimsMarkSealed claimInput with
    | .error cause => confirmFault platform ticket request cause
    | .ok _ =>
      match ← claimsAcknowledge claimInput with
      | .error cause => confirmFault platform ticket request cause
      | .ok ack => completeAcknowledged platform ticket request ack

def completeClaim (platform : RedeemPlatform) (claim : ExposureRedemptionClaimOutcome)
    (claimInput : RedemptionClaimContext) (ticket : ExposureTicketPayload)
    (request : RedemptionRequest) : RedeemM ExposureBatchResult :=
  match claim with
  | .conflict => return rejected request.exposureId .EVENT_ID_CONFLICT
  | .busy => return rejected request.exposureId RETRYABLE_EXPOSURE_REJECTION_CODE
  | .deduplicated => completeDeduplicated platform ticket request
  | .resumeAck => completeAcknowledgeOnly platform claimInput ticket request
  | .acquired => sealIngestAndConfirm platform claimInput ticket request

def claimInputOf (platform : RedeemPlatform) (request : RedemptionRequest) :
    RedemptionClaimContext where
  appId := request.appId
  environmentId := request.environmentId
  exposureId := request.exposureId
  ticketFingerprint := ticketFingerprint platform request.exposureTicket

/-- `none` when the request dies of an error nobody catches. -/
def redeemOne (platform : RedeemPlatform) (request : RedemptionRequest) :
    RedeemM (Option ExposureBatchResult) := do
  match ← verifyTicketForScope platform request with
  | none => return none
  | some (.error code) => return some (rejected request.exposureId code)
  | some (.ok ticket) =>
    if let some stale ← staleExposure request.exposureId then return some stale
    match ← claimsClaim (claimInputOf platform request) with
    | .error cause => return some (rejectClaimStoreFault request.exposureId cause)
    | .ok claim =>
      return some (← completeClaim platform claim (claimInputOf platform request) ticket request)

end Splitch
