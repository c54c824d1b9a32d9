/-
# What a redemption knows

A redemption earns the right to append by acquiring the claim, spends it on the write, and gives
it back by releasing the claim; it may seal, acknowledge and succeed only on the knowledge that
the ticket has been appended.  `redeemProtocol` states these rules for one request, and
`redeemOne_follows` shows that the code keeps to them on every reply, faults included.

The lemmas go function by function, callees first; each says on what knowledge the function may
be entered and what it returns with.
-/
import Splitch.Redemption.RedeemPool

namespace Splitch

/-! ## 1. The rules -/

/-- What a redemption has learned so far. -/
structure Knowledge where
  /-- It holds the right to append. -/
  holds : Bool
  /-- Its ticket's Exposure has been appended, by this redemption or another. -/
  appended : Bool
  /-- Its ticket's holdover is complete or durably owned. -/
  owned : Bool

/-- What a redemption starts with. -/
def Knowledge.start : Knowledge := ⟨false, false, false⟩

/-- The payload is the ticket's own and belongs to the request's scope. -/
structure PayloadOf (platform : RedeemPlatform) (request : RedemptionRequest)
    (payload : ExposureTicketPayload) : Prop where
  authentic : ticketPayload platform.toTicketPlatform platform.keys request.exposureTicket
    = some payload
  app : payload.app_id = request.appId
  environment : payload.environment_id = request.environmentId

/-- What a reply teaches. -/
def Knowledge.learn (k : Knowledge) : (call : RedeemCall) → call.Reply → Knowledge
  | .claim _, .ok .acquired => { k with holds := true }
  | .claim _, .ok .resumeAck => { k with appended := true }
  | .claim _, .ok .deduplicated => { k with appended := true }
  | .release _, _ => { k with holds := false }
  | .ingest _, .ok _ => { k with holds := false, appended := true }
  | .ensureHoldover _ _, .ok .completed => { k with owned := true }
  | .ensureHoldover _ _, .ok .owned => { k with owned := true }
  | _, _ => k

theorem Knowledge.learn_ensureHoldover_appended (k : Knowledge)
    (input : HashedAssignmentPutInput) (sourceCreatedAtMs : Option Int)
    (reply : Except Unit HoldoverWriteStatus) :
    (k.learn (.ensureHoldover input sourceCreatedAtMs) reply).appended = k.appended := by
  rcases reply with _ | (_ | _ | _ | _) <;> rfl

theorem Knowledge.learn_ensureHoldover_holds (k : Knowledge)
    (input : HashedAssignmentPutInput) (sourceCreatedAtMs : Option Int)
    (reply : Except Unit HoldoverWriteStatus) :
    (k.learn (.ensureHoldover input sourceCreatedAtMs) reply).holds = k.holds := by
  rcases reply with _ | (_ | _ | _ | _) <;> rfl

theorem Knowledge.learn_claim_owned (k : Knowledge) (input : RedemptionClaimContext)
    (reply : Except ClaimStoreFault ExposureRedemptionClaimOutcome) :
    (k.learn (.claim input) reply).owned = k.owned := by
  rcases reply with _ | (_ | _ | _ | _ | _) <;> rfl

/-- Only an acquired claim gives the right to append. -/
theorem Knowledge.learn_claim_holds {k : Knowledge} {input : RedemptionClaimContext}
    {reply : Except ClaimStoreFault ExposureRedemptionClaimOutcome} (h : reply ≠ .ok .acquired) :
    (k.learn (.claim input) reply).holds = k.holds := by
  rcases reply with _ | (_ | _ | _ | _ | _) <;> first | rfl | exact absurd rfl h

theorem Knowledge.learn_ingest_owned (k : Knowledge) (exposure : AssembledExposure)
    (reply : Except IngestFault Unit) : (k.learn (.ingest exposure) reply).owned = k.owned := by
  rcases reply with _ | _ <;> rfl

/-- Which calls a redemption of `request` may make. -/
def Knowledge.Allowed (platform : RedeemPlatform) (request : RedemptionRequest)
    (k : Knowledge) : RedeemCall → Prop
  | .claim input => input = claimInputOf platform request ∧ k.holds = false ∧
      ∃ payload, PayloadOf platform request payload
  | .release input => input = claimInputOf platform request ∧ k.holds = true
  | .markSealed input => input = claimInputOf platform request ∧ k.appended = true
  | .acknowledge input => input = claimInputOf platform request ∧ k.appended = true
  | .ingest _ => k.holds = true ∧ ∃ payload, PayloadOf platform request payload
  | .ensureHoldover input _ =>
    ∃ payload, PayloadOf platform request payload ∧ input = holdoverInput payload request
  | _ => True

def redeemProtocol (platform : RedeemPlatform) (request : RedemptionRequest) :
    Calls.Protocol RedeemCall RedeemCall.Reply Knowledge where
  allowed := Knowledge.Allowed platform request
  learn := Knowledge.learn

/-- The statuses that tell the SDK to drop the item as redeemed. -/
def ExposureBatchResultStatus.Success : ExposureBatchResultStatus → Prop
  | accepted => True
  | deduplicated => True
  | _ => False

/-- A success is reported only on the knowledge that backs it. -/
def Honest (k : Knowledge) (result : ExposureBatchResult) : Prop :=
  result.status.Success → k.appended = true ∧ k.owned = true

/-! ## 2. The helpers -/

section Follows

open Calls

variable {platform : RedeemPlatform} {request : RedemptionRequest}
  {payload : ExposureTicketPayload} {k : Knowledge}

theorem honest_rejected (exposureId : String) (code : ErrorCode) :
    Honest k (rejected exposureId code) := fun h => absurd h (by simp [rejected,
      ExposureBatchResultStatus.Success])

/-- The admission check teaches nothing, and what it returns is no success. -/
theorem staleExposure_follows {post : Knowledge → Option ExposureBatchResult → Prop}
    {exposureId : String} (hnone : post k none)
    (hstale : ∀ result, Honest k result → post k (some result)) :
    Follows (redeemProtocol platform request) post k (staleExposure exposureId) := by
  refine follows_perform_bind.mpr ⟨trivial, fun current => ?_⟩
  cases current
  · exact hstale _ (honest_rejected _ _)
  · exact hnone

/-- The holdover is ensured, or what is returned is no success. -/
theorem ensureHoldoverWrite_follows {post : Knowledge → Option ExposureBatchResult → Prop}
    (hp : PayloadOf platform request payload) (hnone : post { k with owned := true } none)
    (hfault : ∀ result, Honest k result → post k (some result)) :
    Follows (redeemProtocol platform request) post k
      (ensureHoldoverWrite platform payload request) := by
  refine follows_perform_bind.mpr ⟨⟨payload, hp, rfl⟩, fun reply => ?_⟩
  rcases reply with _ | (_ | _ | _ | _)
  · exact hfault _ (honest_rejected _ _)
  · exact hnone
  · exact hnone
  · exact hfault _ (honest_rejected _ _)
  · exact hfault _ fun h => absurd h (by simp [ExposureBatchResultStatus.Success])

/-! ## 3. The success paths -/

theorem completeDeduplicated_follows (hp : PayloadOf platform request payload)
    (hk : k.appended = true) :
    Follows (redeemProtocol platform request) Honest k
      (completeDeduplicated platform payload request) := by
  refine follows_bind.mpr ?_
  refine staleExposure_follows ?_ fun result h => h
  refine follows_bind.mpr ?_
  refine ensureHoldoverWrite_follows hp ?_ fun result h => h
  refine follows_bind.mpr ?_
  refine staleExposure_follows ?_ fun result h => h
  exact fun _ => ⟨hk, rfl⟩

theorem completeAcknowledged_follows (hp : PayloadOf platform request payload)
    (hk : k.appended = true) (ack : ExposureRedemptionAcknowledgeOutcome) :
    Follows (redeemProtocol platform request) Honest k
      (completeAcknowledged platform payload request ack) := by
  refine follows_bind.mpr ?_
  refine ensureHoldoverWrite_follows hp ?_ fun result h => h
  refine follows_bind.mpr ?_
  refine staleExposure_follows ?_ fun result h => h
  exact fun _ => ⟨hk, rfl⟩

theorem confirmFault_follows (hp : PayloadOf platform request payload)
    (cause : ClaimStoreFault) :
    Follows (redeemProtocol platform request) Honest k
      (confirmFault platform payload request cause) := by
  refine follows_bind.mpr ?_
  refine ensureHoldoverWrite_follows hp ?_ fun result h => h
  exact honest_rejected _ _

theorem completeAcknowledgeOnly_follows (hp : PayloadOf platform request payload)
    (hk : k.appended = true) :
    Follows (redeemProtocol platform request) Honest k
      (completeAcknowledgeOnly platform (claimInputOf platform request) payload request) := by
  refine follows_bind.mpr ?_
  refine staleExposure_follows ?_ fun result h => h
  refine follows_perform_bind.mpr ⟨⟨rfl, hk⟩, fun reply => ?_⟩
  cases reply with
  | error cause => exact confirmFault_follows hp cause
  | ok ack => exact completeAcknowledged_follows hp hk ack

/-! ## 4. The acquired path -/

theorem releaseClaimQuietly_follows {post : Knowledge → Unit → Prop} (hk : k.holds = true)
    (hpost : post { k with holds := false } ()) :
    Follows (redeemProtocol platform request) post k
      (releaseClaimQuietly (claimInputOf platform request)) := by
  exact follows_perform_bind.mpr ⟨⟨rfl, hk⟩, fun _ => hpost⟩

/-- The Exposure is assembled with the right to append still in hand. -/
theorem assembleClaimedExposure_follows
    {post : Knowledge → Except ExposureBatchResult AssembledExposure → Prop}
    (hk : k.holds = true) (hok : ∀ exposure, post k (.ok exposure))
    (herror : ∀ k' result, Honest k' result → post k' (.error result)) :
    Follows (redeemProtocol platform request) post k
      (assembleClaimedExposure platform (claimInputOf platform request) payload request) := by
  refine follows_bind.mpr ?_
  refine staleExposure_follows ?_ fun result h => herror k result h
  refine follows_perform_bind.mpr ⟨trivial, fun reply => ?_⟩
  cases reply with
  | error _ =>
    refine follows_bind.mpr ?_
    exact releaseClaimQuietly_follows hk (herror _ _ (honest_rejected _ _))
  | ok sourceId =>
    refine follows_bind.mpr ?_
    exact follows_perform_bind.mpr ⟨trivial, fun _ => hok _⟩

/-- The write spends the right to append; where it fails, the right is given back. -/
theorem ingestExposure_follows {post : Knowledge → Option ExposureBatchResult → Prop}
    {exposure : AssembledExposure} {exposureId : String}
    (hp : PayloadOf platform request payload) (hk : k.holds = true)
    (hnone : post { k with holds := false, appended := true } none)
    (hfault : ∀ k' result, Honest k' result → post k' (some result)) :
    Follows (redeemProtocol platform request) post k
      (ingestExposure exposure (claimInputOf platform request) exposureId) := by
  refine follows_bind.mpr ?_
  refine staleExposure_follows ?_ fun result h => hfault k result h
  refine follows_perform_bind.mpr ⟨⟨hk, payload, hp⟩, fun reply => ?_⟩
  cases reply with
  | ok _ => exact hnone
  | error cause =>
    refine follows_bind.mpr ?_
    exact releaseClaimQuietly_follows hk (hfault _ _ (honest_rejected _ _))

theorem sealIngestAndConfirm_follows (hp : PayloadOf platform request payload)
    (hk : k.holds = true) :
    Follows (redeemProtocol platform request) Honest k
      (sealIngestAndConfirm platform (claimInputOf platform request) payload request) := by
  refine follows_bind.mpr ?_
  refine assembleClaimedExposure_follows hk (fun exposure => ?_) fun k' result h => h
  refine follows_bind.mpr ?_
  refine ingestExposure_follows hp hk ?_ fun k' result h => h
  refine follows_bind.mpr ?_
  refine staleExposure_follows ?_ fun result h => h
  refine follows_perform_bind.mpr ⟨⟨rfl, rfl⟩, fun reply => ?_⟩
  cases reply with
  | error cause => exact confirmFault_follows hp cause
  | ok _ =>
    refine follows_perform_bind.mpr ⟨⟨rfl, rfl⟩, fun reply => ?_⟩
    cases reply with
    | error cause => exact confirmFault_follows hp cause
    | ok ack => exact completeAcknowledged_follows hp rfl ack

/-! ## 5. The redemption -/

/-- A redemption that has an answer from the claim store. -/
theorem completeClaim_follows (hp : PayloadOf platform request payload)
    (claim : ExposureRedemptionClaimOutcome) :
    Follows (redeemProtocol platform request) Honest
      (k.learn (.claim (claimInputOf platform request)) (.ok claim))
      (completeClaim platform claim (claimInputOf platform request) payload request) := by
  cases claim with
  | acquired => exact sealIngestAndConfirm_follows hp rfl
  | resumeAck => exact completeAcknowledgeOnly_follows hp rfl
  | deduplicated => exact completeDeduplicated_follows hp rfl
  | conflict => exact honest_rejected _ _
  | busy => exact honest_rejected _ _

/-- A redemption that has died of an error reports nothing. -/
def HonestIfAny (k : Knowledge) (result : Option ExposureBatchResult) : Prop :=
  ∀ r, result = some r → Honest k r

/-- Verification teaches nothing, and hands on only the ticket's own payload. -/
theorem verifyTicketForScope_follows
    {post : Knowledge → Option (Except ErrorCode ExposureTicketPayload) → Prop}
    (hnone : post k none) (herror : ∀ code, post k (some (.error code)))
    (hok : ∀ payload, PayloadOf platform request payload → post k (some (.ok payload))) :
    Follows (redeemProtocol platform request) post k
      (verifyTicketForScope platform request) := by
  refine follows_perform_bind.mpr ⟨trivial, fun nowMs => ?_⟩
  cases hv : verifyExposureTicket platform.toTicketPlatform platform.keys
      request.exposureTicket nowMs with
  | error message => exact hnone
  | ok verified =>
    cases verified with
    | rejected reason issuedAt => cases reason <;> exact herror _
    | ok payload =>
      dsimp only
      by_cases hscope : payload.app_id ≠ request.appId ∨
          payload.environment_id ≠ request.environmentId
      · rw [if_pos hscope]
        exact herror _
      · by_cases hversion : request.identityVersion ≠ payload.identity_version
        · rw [if_neg hscope, if_pos hversion]
          exact herror _
        · rw [if_neg hscope, if_neg hversion]
          push Not at hscope
          exact hok payload ⟨ticketPayload_of_verified hv, hscope.1, hscope.2⟩

/-- **A redemption keeps to the protocol**, whatever it is answered. It calls for nothing before its
ticket is verified and fresh, and each later call is made with the claim it has been given, so the
protocol can be checked branch by branch along the program. -/
theorem redeemOne_follows :
    Follows (redeemProtocol platform request) HonestIfAny Knowledge.start
      (redeemOne platform request) := by
  have hany : ∀ k r, Honest k r → HonestIfAny k (some r) := by
    rintro k r h _ ⟨⟩
    exact h
  refine follows_bind.mpr ?_
  refine verifyTicketForScope_follows ?_ ?_ ?_
  · intro r hr
    cases hr
  · exact fun code => hany _ _ (honest_rejected _ _)
  · intro payload hp
    refine follows_bind.mpr ?_
    refine staleExposure_follows ?_ fun result h => hany _ _ h
    refine follows_perform_bind.mpr ⟨⟨rfl, rfl, payload, hp⟩, fun reply => ?_⟩
    cases reply with
    | error cause => exact hany _ _ (honest_rejected _ _)
    | ok claim =>
      refine follows_bind.mpr ?_
      exact (completeClaim_follows hp claim).mono hany

end Follows

end Splitch
