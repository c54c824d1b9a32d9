/-
# No Exposure is lost or doubled

The result about concurrent redemptions, put together from its two halves: what a redemption
reports is real (`RedeemSafety`), and the right to append is a single token (`RedeemToken`).

The first half follows a redemption back.  One that reports success has acted on answers of the claim object,
and each of these is backed by a row, and the row by a write that the sink has confirmed.  The claim store
knows tickets by their fingerprints, so the write is one for a ticket of the same fingerprint; that it is the
same ticket supposes that the tickets of the run have different ones, as SHA-256 promises.

The second half does not need that.  It counts the writes for the fingerprint of one ticket in one claim
object.  The token that allows a write is acquired with the row, and spent by the write.  It comes back only
where the row is let go of: by a release, or by its expiry.  A release comes before the sink is asked, or
behind a sink that threw, so the sink must be truthful, that is, have committed nothing where it threw; and
no claim of the ticket may expire in the run.

The last section redeems a minted ticket three times, with two of the redemptions at once, under the real
SHA-256 and HMAC.
-/
import Splitch.Redemption.RedeemToken
import Splitch.Redemption.SingleRedemption
import Splitch.Redemption.TicketRoundTrip

namespace Splitch

/-! ## 1. What is supposed -/

/-- No two tickets of the run share a fingerprint. -/
def FingerprintsDistinguish (platform : RedeemPlatform) (world : RedeemWorld) : Prop :=
  ∀ id r id' r', world.redemptions id = some r → world.redemptions id' = some r' →
    ticketFingerprint platform r.request.exposureTicket
      = ticketFingerprint platform r'.request.exposureTicket →
    r.request.exposureTicket = r'.request.exposureTicket

/-- No lease and no sealed claim of the ticket expires in the run: whenever a clock is read, the
row of the ticket at its claim object is live, if it is there. -/
def NoClaimExpires (platform : RedeemPlatform) (ticket : String) (es : List RedeemEvent) : Prop :=
  ∀ payload, ticketPayload platform.toTicketPlatform platform.keys ticket = some payload →
    (redeemPool platform).Guarded
      (fun world event => ∀ now ∈ event.nowMs, RowLive
        (RedeemWorld.exposureRedemptionClaimScopeName payload.app_id payload.environment_id)
        (ticketFingerprint platform ticket) world now)
      RedeemWorld.empty es

/-- The sink has confirmed every write it has committed. -/
def SinkTruthful (world : RedeemWorld) : Prop :=
  ∀ write ∈ world.ingested, write.returned = true

instance (world : RedeemWorld) : Decidable (SinkTruthful world) :=
  inferInstanceAs (Decidable (∀ write ∈ world.ingested, write.returned = true))

/-- The redemption is one of the ticket. -/
def ofTicket (ticket : String) : Option Redemption → Bool
  | none => false
  | some r => decide (r.request.exposureTicket = ticket)

/-! ## 2. At most one write -/

/-- The token stays single over a run whose sink is truthful to its end. -/
theorem tokenInv_exec {platform : RedeemPlatform} {N F : String} {world : RedeemWorld}
    {es : List RedeemEvent} (h : TokenInv platform N F world)
    (hlive : (redeemPool platform).Guarded
      (fun world event => ∀ now, event.nowMs = some now → RowLive N F world now) world es)
    (hsink : SinkTruthful ((redeemPool platform).exec world es)) :
    TokenInv platform N F ((redeemPool platform).exec world es) := by
  induction es generalizing world with
  | nil => exact h
  | cons event es ih =>
    have hnow : SinkTruthful (world.step platform event) :=
      fun write hw => hsink write ((exec_grows _ es).ingested write hw)
    exact ih (h.step hlive.1 hnow) hlive.2 hsink

/-- A write for the ticket counts against the token of the ticket's own scope. -/
theorem concerns_of_ofTicket {platform : RedeemPlatform} {world : RedeemWorld}
    {write : IngestWrite} {ticket : String} {payload : ExposureTicketPayload}
    (ha : Authentic platform world write)
    (hpayload : ticketPayload platform.toTicketPlatform platform.keys ticket = some payload)
    (ht : ofTicket ticket (world.redemptions write.redemption) = true) :
    concerns platform
      (RedeemWorld.exposureRedemptionClaimScopeName payload.app_id payload.environment_id)
      (ticketFingerprint platform ticket) (world.redemptions write.redemption) = true := by
  obtain ⟨r, payload', hr, hp⟩ := ha
  rw [hr] at ht ⊢
  have ht : r.request.exposureTicket = ticket := of_decide_eq_true ht
  have hsame : payload = payload' := by
    have := hp.authentic
    rw [ht, hpayload] at this
    exact Option.some.inj this
  subst hsame ht
  exact decide_eq_true ⟨by rw [hp.app, hp.environment]; rfl, rfl⟩

theorem ingested_at_most_once {platform : RedeemPlatform} {es : List RedeemEvent}
    {ticket : String} (hlive : NoClaimExpires platform ticket es)
    (hsink : SinkTruthful ((redeemPool platform).run es)) :
    ((redeemPool platform).run es).ingested.countP
      (fun write => ofTicket ticket
        (((redeemPool platform).run es).redemptions write.redemption)) ≤ 1 := by
  have hbacked := redeemPool_backed platform es
  cases hpayload : ticketPayload platform.toTicketPlatform platform.keys ticket with
  | none =>
    -- nobody verifies the ticket, so nobody writes for it
    have hzero : ∀ write ∈ ((redeemPool platform).run es).ingested, ¬ ofTicket ticket
        (((redeemPool platform).run es).redemptions write.redemption) = true := by
      intro write hw ht
      obtain ⟨r, payload, hr, hp⟩ := hbacked.authentic write hw
      rw [hr] at ht
      have ht : r.request.exposureTicket = ticket := of_decide_eq_true ht
      have hsome := hp.authentic
      rw [ht, hpayload] at hsome
      cases hsome
    rw [List.countP_eq_zero.mpr hzero]
    exact Nat.zero_le 1
  | some payload =>
    obtain ⟨token, hledger, _⟩ := tokenInv_exec tokenInv_empty (hlive payload hpayload) hsink
    calc ((redeemPool platform).run es).ingested.countP _
        ≤ ((redeemPool platform).run es).ingested.countP (fun write => concerns platform
            (RedeemWorld.exposureRedemptionClaimScopeName payload.app_id payload.environment_id)
            (ticketFingerprint platform ticket)
            (((redeemPool platform).run es).redemptions write.redemption)) :=
          List.countP_mono_left fun write hw ht =>
            concerns_of_ofTicket (hbacked.authentic write hw) hpayload ht
      _ = if token = .spent then 1 else 0 := hledger.writes
      _ ≤ 1 := by split <;> omega

/-! ## 3. The result -/

/-- **What is reported as redeemed was appended and is held over.** A redemption that ends in success
has learned both from replies, and what a reply has taught is true of the world. The append is known
of a fingerprint; that it is this ticket's is where fingerprints must distinguish tickets. -/
theorem success_backed {platform : RedeemPlatform} {es : List RedeemEvent} {id : Nat}
    {r : Redemption} {result : ExposureBatchResult}
    (hdistinct : FingerprintsDistinguish platform ((redeemPool platform).run es))
    (hr : ((redeemPool platform).run es).redemptions id = some r)
    (hdone : r.program = .done (some result)) (hsuccess : result.status.Success) :
    (∃ write ∈ ((redeemPool platform).run es).ingested, write.returned = true ∧
        ofTicket r.request.exposureTicket
          (((redeemPool platform).run es).redemptions write.redemption) = true) ∧
      HoldoverOwned platform ((redeemPool platform).run es) id r.request := by
  obtain ⟨k, hf, ha, ho⟩ := (redeemPool_backed platform es).informed id r hr
  rw [hdone] at hf
  obtain ⟨happended, howned⟩ := hf result rfl hsuccess
  obtain ⟨write, hw, hreturned, r', hr', hfp⟩ := ha happended
  refine ⟨⟨write, hw, hreturned, ?_⟩, ho howned⟩
  rw [hr']
  exact decide_eq_true (hdistinct _ r' id r hr' hr hfp)

/-- **No Exposure is lost or doubled**, in any run of any number of redemptions, whatever fails.

An item reported `accepted` or `deduplicated` has its ticket's Exposure appended by a write that
the sink confirmed, and the holdover of its ticket confirmed to this very redemption.  And if no
claim of a ticket expires in the run and the sink never throws after committing, at most one
write for the ticket is ever committed. -/
theorem exposure_exactly_once (platform : RedeemPlatform) (es : List RedeemEvent) :
    (FingerprintsDistinguish platform ((redeemPool platform).run es) →
      ∀ id r result, ((redeemPool platform).run es).redemptions id = some r →
        r.program = .done (some result) → result.status.Success →
        (∃ write ∈ ((redeemPool platform).run es).ingested, write.returned = true ∧
            ofTicket r.request.exposureTicket
              (((redeemPool platform).run es).redemptions write.redemption) = true) ∧
          HoldoverOwned platform ((redeemPool platform).run es) id r.request) ∧
      ∀ ticket, NoClaimExpires platform ticket es →
        SinkTruthful ((redeemPool platform).run es) →
        ((redeemPool platform).run es).ingested.countP
          (fun write => ofTicket ticket
            (((redeemPool platform).run es).redemptions write.redemption)) ≤ 1 :=
  ⟨fun hdistinct _ _ _ hr hdone hsuccess => success_backed hdistinct hr hdone hsuccess,
    fun _ hlive hsink => ingested_at_most_once hlive hsink⟩

/-! ## 4. A retried redemption -/

def julyPayload : ExposureTicketPayload where
  app_id := "app_1"
  environment_id := "env_1"
  experiment_id := "exp_1"
  run_id := "run_1"
  flag_key := "checkout"
  variant := "treatment"
  id_type := "user"
  targeting_key_hash := "app-v1:72cca62b445c44e3f65ade3c66912c779dac8b4ae8fd0e95e193c270fbbbd217"
  entity_family_hash := "app-v1:72cca62b445c44e3f65ade3c66912c779dac8b4ae8fd0e95e193c270fbbbd217"
  identity_version := "app-v1"
  issued_at := "2026-07-03T00:00:00.000Z"

example : exposurePayload sha256Hmac thirdOfJuly julyDeps checkoutExposure = .ok julyPayload := by
  decide +kernel

/-- The ticket of the third of July. -/
def julyTicket : String :=
  (mintPayload Nat sha256Hmac julyDeps.ticketKey julyPayload).exposureTicket

def julyFingerprint : String :=
  "501a38731154acbce5550393bdb410a9f76175c99101d87b8d2f8b9a92e08649"

theorem hex_julyTicket : Sha256.hex julyTicket = julyFingerprint := by
  -- the ticket is hashed as the list of its characters
  simp only [Sha256.hex, julyTicket, mintPayload, String.toList_append, payloadText, encodeFields, sign,
    utf8Bytes, bytesToBase64Url, String.toList_ofList]
  decide +kernel

def julyRedeemPlatform : RedeemPlatform where
  toTicketPlatform := ticketPlatform Nat sha256Hmac thirdOfJuly
  sha256Hex := Sha256.hex
  toISOString _ := "2026-07-03T00:00:01.000Z"
  keys := ⟨julyDeps.ticketKey, none⟩

def julyRequest (ticket exposureId : String) : RedemptionRequest where
  exposureId
  exposureTicket := ticket
  clientTimestamp := "2026-07-03T00:00:00.500Z"
  appId := "app_1"
  environmentId := "env_1"
  identityVersion := "app-v1"

/-- What `redeemOne` does with a ticket that is verified and hashed. -/
def julyProgram (ticket exposureId : String) : RedeemM (Option ExposureBatchResult) := do
  let nowMs ← clockNow
  if nowMs - julyDeps.now > EXPOSURE_TICKET_TTL_MS then
    return some (rejected exposureId .EXPOSURE_TICKET_EXPIRED)
  else if julyDeps.now - nowMs > TICKET_FUTURE_SKEW_MS then
    return some (rejected exposureId .EXPOSURE_TICKET_INVALID)
  else
    if let some stale ← staleExposure exposureId then return some stale
    let claimInput : RedemptionClaimContext := ⟨"app_1", "env_1", exposureId, julyFingerprint⟩
    match ← claimsClaim claimInput with
    | .error cause => return some (rejectClaimStoreFault exposureId cause)
    | .ok claim =>
      return some (← completeClaim julyRedeemPlatform claim claimInput julyPayload
        (julyRequest ticket exposureId))

theorem redeemOne_verified {ticket : String}
    (hverify : ∀ nowMs, verifyExposureTicket julyRedeemPlatform.toTicketPlatform
        julyRedeemPlatform.keys ticket nowMs =
      .ok (if nowMs - julyDeps.now > EXPOSURE_TICKET_TTL_MS then
          .rejected .expired (some julyPayload.issued_at)
        else if julyDeps.now - nowMs > TICKET_FUTURE_SKEW_MS then .rejected .invalid none
        else .ok julyPayload))
    (hfingerprint : Sha256.hex ticket = julyFingerprint) (exposureId : String) :
    redeemOne julyRedeemPlatform (julyRequest ticket exposureId) = julyProgram ticket exposureId := by
  have hclaim : claimInputOf julyRedeemPlatform (julyRequest ticket exposureId) =
      ⟨"app_1", "env_1", exposureId, julyFingerprint⟩ := by
    rw [← hfingerprint]
    rfl
  have hticket : (julyRequest ticket exposureId).exposureTicket = ticket := rfl
  simp only [redeemOne, verifyTicketForScope, hclaim, hticket, hverify, julyProgram]
  refine congrArg (Calls.call RedeemCall.now) (funext fun nowMs => ?_)
  simp only [Calls.bind]
  split_ifs <;> rfl

theorem redeemOne_july (exposureId : String) :
    redeemOne julyRedeemPlatform (julyRequest julyTicket exposureId) =
      julyProgram julyTicket exposureId :=
  redeemOne_verified (verifyExposureTicket_minted (by decide) (by decide)
    (List.mem_singleton_self _) (by decide)) hex_julyTicket exposureId

/-- Nothing fails. -/
def calmFate : Fate where
  nowMs := 1783036801000
  admissionCurrent := true
  rpc := .replied
  sourceId := .ok "source"
  ingest := .succeeded
  holdover := .ok .completed

/-- Three redemptions of one ticket arrive. -/
def arrivals (ticket : String) : List RedeemEvent :=
  [.submit 0 (julyRequest ticket "exposure-1"), .submit 1 (julyRequest ticket "exposure-2"),
    .submit 2 (julyRequest ticket "exposure-3")]

/-- Two of them race for the claim; the third one is a retry, and starts when the first has ended. -/
def race : List RedeemEvent :=
  List.replicate 3 (.advance 0 calmFate) ++ List.replicate 3 (.advance 1 calmFate)
    ++ List.replicate 10 (.advance 0 calmFate) ++ List.replicate 6 (.advance 2 calmFate)

def arrived (ticket : String) (program : String → RedeemM (Option ExposureBatchResult)) :
    RedeemWorld :=
  ((RedeemWorld.empty.setRedemption 0
      ⟨julyRequest ticket "exposure-1", program "exposure-1"⟩).setRedemption 1
      ⟨julyRequest ticket "exposure-2", program "exposure-2"⟩).setRedemption 2
      ⟨julyRequest ticket "exposure-3", program "exposure-3"⟩

theorem run_arrivals (ticket : String) : (redeemPool julyRedeemPlatform).run (arrivals ticket) =
    arrived ticket fun exposureId => redeemOne julyRedeemPlatform (julyRequest ticket exposureId) :=
  rfl

theorem run_arrivals_july : (redeemPool julyRedeemPlatform).run (arrivals julyTicket) =
    arrived julyTicket (julyProgram julyTicket) := by
  rw [run_arrivals, funext redeemOne_july]

theorem request_of_arrivals {ticket : String} {id : Nat} {r : Redemption}
    (h : ((redeemPool julyRedeemPlatform).run (arrivals ticket ++ race)).redemptions id = some r) :
    r.request.exposureTicket = ticket := by
  have hsubmitted := submitted_of_redemptions h
  simp only [arrivals, race, List.mem_append, List.mem_cons, List.mem_replicate, List.not_mem_nil,
    RedeemEvent.submit.injEq, reduceCtorEq, and_false, or_false] at hsubmitted
  rcases hsubmitted with ⟨-, hrequest⟩ | ⟨-, hrequest⟩ | ⟨-, hrequest⟩ <;> rw [hrequest] <;> rfl

/-- The retry is reported as a duplicate, and rightly so: one write was made. -/
theorem exposure_exactly_once_raced :
    ((((redeemPool julyRedeemPlatform).run (arrivals julyTicket ++ race)).redemptions 2).map
        fun r => r.program.result?) = some (some (some ⟨"exposure-3", .deduplicated⟩)) ∧
      (∃ write ∈ ((redeemPool julyRedeemPlatform).run (arrivals julyTicket ++ race)).ingested,
        write.returned = true ∧ ofTicket julyTicket
          (((redeemPool julyRedeemPlatform).run (arrivals julyTicket ++ race)).redemptions
            write.redemption) = true) ∧
      ((redeemPool julyRedeemPlatform).run (arrivals julyTicket ++ race)).ingested.countP
        (fun write => ofTicket julyTicket
          (((redeemPool julyRedeemPlatform).run (arrivals julyTicket ++ race)).redemptions
            write.redemption)) ≤ 1 := by
  obtain ⟨hbacked, honce⟩ := exposure_exactly_once julyRedeemPlatform (arrivals julyTicket ++ race)
  have hrun : (redeemPool julyRedeemPlatform).run (arrivals julyTicket ++ race) =
      (redeemPool julyRedeemPlatform).exec (arrived julyTicket (julyProgram julyTicket)) race := by
    rw [Machine.run_append, run_arrivals_july]
  have hdone : ((((redeemPool julyRedeemPlatform).run (arrivals julyTicket ++ race)).redemptions 2).map
      fun r => r.program.result?) = some (some (some ⟨"exposure-3", .deduplicated⟩)) := by
    rw [hrun]
    decide +kernel
  have hsink : SinkTruthful
      ((redeemPool julyRedeemPlatform).run (arrivals julyTicket ++ race)) := by
    rw [hrun]
    decide +kernel
  have hlive : NoClaimExpires julyRedeemPlatform julyTicket (arrivals julyTicket ++ race) := by
    intro payload hpayload
    have hjuly := (ticketPayload_minted (List.mem_singleton_self _) julyPayload).symm.trans hpayload
    rw [if_pos (by decide), Option.some_inj] at hjuly
    have hfingerprint : ticketFingerprint julyRedeemPlatform julyTicket = julyFingerprint :=
      hex_julyTicket
    rw [← hjuly, hfingerprint]
    refine (Machine.guarded_append _).mpr ⟨⟨nofun, nofun, nofun, trivial⟩, ?_⟩
    change Machine.Guarded _ _ ((redeemPool julyRedeemPlatform).run (arrivals julyTicket)) race
    rw [run_arrivals_july]
    decide +kernel
  refine ⟨hdone, ?_, honce julyTicket hlive hsink⟩
  obtain ⟨r, hr, hresult⟩ := Option.map_eq_some_iff.mp hdone
  have h := (hbacked (fun _ _ _ _ hr hr' _ => (request_of_arrivals hr).trans
    (request_of_arrivals hr').symm) 2 r _ hr (Calls.result?_eq_some.mp hresult) trivial).1
  rwa [request_of_arrivals hr] at h

end Splitch
