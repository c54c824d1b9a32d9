/-
# The redemption claim state machine

`exposure-redemption-claim-core.ts`, function by function.  Every function runs inside one
storage transaction, so it is a state action on `ClaimStorage`: it reads the rows it needs,
dropping on the way those it finds expired, and writes at most one row of each kind.
-/
import Splitch.Redemption.ClaimStorage

namespace Splitch

/-! ## 1. Constants, inputs and outcomes -/

/-- How long sealed/accepted ownership is remembered. -/
def EXPOSURE_REDEMPTION_CLAIM_TTL_MS : Int := 24 * 60 * 60 * 1000

/-- How long a `pending` claim may block the ticket. -/
def EXPOSURE_REDEMPTION_PENDING_LEASE_MS : Int := 30000

inductive ExposureRedemptionClaimOutcome
  | acquired
  | resumeAck
  | deduplicated
  | conflict
  | busy
  deriving DecidableEq, Repr

inductive ExposureRedemptionAcknowledgeOutcome
  | accepted
  | alreadyAccepted
  deriving DecidableEq, Repr

structure ClaimInput where
  exposureId : String
  ticketFingerprint : String
  nowMs : Int
  deriving DecidableEq, Repr

/-- A function of the state machine, inside its transaction. -/
abbrev ClaimM := StateM ClaimStorage

/-! ## 2. Lazy expiry on read -/

def liveExposure (exposureId : String) (nowMs : Int) :
    ClaimM (Option ExposureBindingRecord) := do
  match (← get).exposureRow exposureId with
  | none => return none
  | some record =>
    if record.expiresAt ≤ nowMs then
      modify (·.deleteExposure exposureId)
      return none
    else
      return some record

def liveTicket (ticketFingerprint : String) (nowMs : Int) :
    ClaimM (Option TicketBindingRecord) := do
  match (← get).ticketRow ticketFingerprint with
  | none => return none
  | some record =>
    if record.expiresAt ≤ nowMs then
      modify (·.deleteTicket ticketFingerprint)
      return none
    else
      return some record

/-! ## 3. Claim -/

def claimAgainstExistingExposure (input : ClaimInput) (existingExposure : ExposureBindingRecord) :
    ClaimM ExposureRedemptionClaimOutcome := do
  if existingExposure.ticketFingerprint ≠ input.ticketFingerprint then
    return .conflict
  else if existingExposure.delivery = .accepted then
    return .deduplicated
  else if existingExposure.delivery = .pending then
    return .busy
  else
    match ← liveTicket input.ticketFingerprint input.nowMs with
    | some ticket =>
      if ticket.ownerExposureId = input.exposureId then return .resumeAck
      else return .deduplicated
    | none => return .deduplicated

def claimAgainstExistingTicket (input : ClaimInput) (existingTicket : TicketBindingRecord) :
    ClaimM ExposureRedemptionClaimOutcome := do
  if existingTicket.delivery = .pending then
    return .busy
  else
    modify (·.putExposure input.exposureId
      ⟨input.ticketFingerprint, existingTicket.delivery, existingTicket.expiresAt⟩)
    return .deduplicated

/-- The pending lease arms no alarm. -/
def acquirePendingClaim (input : ClaimInput) : ClaimM ExposureRedemptionClaimOutcome := do
  let expiresAt := input.nowMs + EXPOSURE_REDEMPTION_PENDING_LEASE_MS
  modify (·.putExposure input.exposureId ⟨input.ticketFingerprint, .pending, expiresAt⟩)
  modify (·.putTicket input.ticketFingerprint ⟨input.exposureId, .pending, expiresAt⟩)
  return .acquired

def applyExposureRedemptionClaim (input : ClaimInput) :
    ClaimM ExposureRedemptionClaimOutcome := do
  match ← liveExposure input.exposureId input.nowMs with
  | some existingExposure => claimAgainstExistingExposure input existingExposure
  | none =>
    match ← liveTicket input.ticketFingerprint input.nowMs with
    | some existingTicket => claimAgainstExistingTicket input existingTicket
    | none => acquirePendingClaim input

/-! ## 4. Release, seal, acknowledge -/

def applyExposureRedemptionRelease (input : ClaimInput) : ClaimM Unit := do
  match ← liveExposure input.exposureId input.nowMs with
  | none => return
  | some existingExposure =>
    if existingExposure.ticketFingerprint ≠ input.ticketFingerprint
        ∨ existingExposure.delivery ≠ .pending then
      return
    else
      modify (·.deleteExposure input.exposureId)
      match ← liveTicket input.ticketFingerprint input.nowMs with
      | none => return
      | some existingTicket =>
        if existingTicket.ownerExposureId = input.exposureId
            ∧ existingTicket.delivery = .pending then
          modify (·.deleteTicket input.ticketFingerprint)

def applyExposureRedemptionMarkSealed (input : ClaimInput) : ClaimM (Except String Unit) := do
  match ← liveExposure input.exposureId input.nowMs with
  | none => return .error "exposure redemption claim is missing or mismatched at markSealed"
  | some existingExposure =>
    if existingExposure.ticketFingerprint ≠ input.ticketFingerprint then
      return .error "exposure redemption claim is missing or mismatched at markSealed"
    else if existingExposure.delivery = .accepted ∨ existingExposure.delivery = .sealed then
      return .ok ()
    else
      match ← liveTicket input.ticketFingerprint input.nowMs with
      | none =>
        return .error
          "exposure redemption ticket binding missing while exposure claim is live at markSealed"
      | some existingTicket =>
        if existingTicket.ownerExposureId ≠ input.exposureId then
          return .error
            "exposure redemption ticket owner mismatches exposure claim at markSealed"
        else
          let expiresAt := input.nowMs + EXPOSURE_REDEMPTION_CLAIM_TTL_MS
          modify (·.putExposure input.exposureId ⟨input.ticketFingerprint, .sealed, expiresAt⟩)
          modify (·.putTicket input.ticketFingerprint
            ⟨existingTicket.ownerExposureId, .sealed, expiresAt⟩)
          modify (·.setExpiryAlarm expiresAt)
          return .ok ()

def applyExposureRedemptionAcknowledge (input : ClaimInput) :
    ClaimM (Except String ExposureRedemptionAcknowledgeOutcome) := do
  match ← liveExposure input.exposureId input.nowMs with
  | none => return .error "exposure redemption claim is missing or mismatched at acknowledge"
  | some existingExposure =>
    if existingExposure.ticketFingerprint ≠ input.ticketFingerprint then
      return .error "exposure redemption claim is missing or mismatched at acknowledge"
    else if existingExposure.delivery = .accepted then
      return .ok .alreadyAccepted
    else if existingExposure.delivery ≠ .sealed then
      return .error "exposure redemption claim must be sealed before acknowledge"
    else
      match ← liveTicket input.ticketFingerprint input.nowMs with
      | none =>
        return .error
          "exposure redemption ticket binding missing while exposure claim is live at acknowledge"
      | some existingTicket =>
        if existingTicket.ownerExposureId ≠ input.exposureId then
          return .error
            "exposure redemption ticket owner mismatches exposure claim at acknowledge"
        else
          let expiresAt := existingTicket.expiresAt
          modify (·.putExposure input.exposureId ⟨input.ticketFingerprint, .accepted, expiresAt⟩)
          modify (·.putTicket input.ticketFingerprint
            ⟨existingTicket.ownerExposureId, .accepted, expiresAt⟩)
          modify (·.setExpiryAlarm expiresAt)
          return .ok .accepted

end Splitch
