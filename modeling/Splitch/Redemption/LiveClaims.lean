/-
# What the claim object is for

Seen from outside, the claim object is two tables of LIVE rows, and each operation reads them
once, answers, and makes at most one `Edit`.  This file states that abstract object: no storage
keys, no lazy deletion, no sweep, no alarm.  The decision is a function of the live tables
(`LiveClaims.decide`), and `Decides` lists its cases once, with everything each of them has read.

`ClaimRefinement` connects this to the code.
-/
import Splitch.Redemption.ClaimSweep

namespace Splitch

open Expiring

/-! ## 1. Live tables and edits -/

/-- The live rows at some instant. -/
@[ext] structure LiveClaims where
  exposure : String → Option ExposureBindingRecord
  ticket : String → Option TicketBindingRecord

/-- What an operation changes. -/
inductive Edit
  | keep
  /-- The exposureId is bound to a ticket that somebody else owns. -/
  | rebind (exposureId ticketFingerprint : String) (delivery : ExposureRedemptionDelivery)
    (expiresAt : Int)
  /-- The exposureId and the ticket are bound to each other. -/
  | bind (exposureId ticketFingerprint : String) (delivery : ExposureRedemptionDelivery)
    (expiresAt : Int)
  | unbindExposure (exposureId : String)
  | unbind (exposureId ticketFingerprint : String)

/-- The edit, on the live tables. -/
def Edit.apply : Edit → LiveClaims → LiveClaims
  | keep, c => c
  | rebind E F delivery expiresAt, c =>
    { c with exposure := Function.update c.exposure E (some ⟨F, delivery, expiresAt⟩) }
  | bind E F delivery expiresAt, c =>
    { exposure := Function.update c.exposure E (some ⟨F, delivery, expiresAt⟩)
      ticket := Function.update c.ticket F (some ⟨E, delivery, expiresAt⟩) }
  | unbindExposure E, c => { c with exposure := Function.update c.exposure E none }
  | unbind E F, c =>
    { exposure := Function.update c.exposure E none
      ticket := Function.update c.ticket F none }

/-- The edit, on the storage.  Binding arms the alarm, unless the binding is only a lease. -/
def Edit.commit : Edit → ClaimStorage → ClaimStorage
  | keep, st => st
  | rebind E F delivery expiresAt, st => st.putExposure E ⟨F, delivery, expiresAt⟩
  | bind E F delivery expiresAt, st =>
    let bound := (st.putExposure E ⟨F, delivery, expiresAt⟩).putTicket F ⟨E, delivery, expiresAt⟩
    if delivery = .pending then bound else bound.setExpiryAlarm expiresAt
  | unbindExposure E, st => st.deleteExposure E
  | unbind E F, st => (st.deleteExposure E).deleteTicket F

namespace LiveClaims

/-- No row. -/
def empty : LiveClaims := ⟨fun _ => none, fun _ => none⟩

/-- The rows that are still live at `t`. -/
def age (t : Int) (c : LiveClaims) : LiveClaims :=
  ⟨Expiring.age ExposureBindingRecord.expiresAt t c.exposure,
    Expiring.age TicketBindingRecord.expiresAt t c.ticket⟩

theorem age_age {t t' : Int} (h : t ≤ t') (c : LiveClaims) :
    (c.age t).age t' = c.age t' := by
  simp only [age, Expiring.age_age _ h]

/-! ## 2. The decisions -/

/-- A claim on an exposureId that is already bound changes nothing.  Otherwise the ticket
decides: unclaimed, it is acquired; in flight, the caller must wait; redeemed, the exposureId
joins it. -/
def claim (c : LiveClaims) (input : ClaimInput) : ExposureRedemptionClaimOutcome × Edit :=
  match c.exposure input.exposureId with
  | some e =>
    if e.ticketFingerprint ≠ input.ticketFingerprint then (.conflict, .keep)
    else match e.delivery with
      | .accepted => (.deduplicated, .keep)
      | .pending => (.busy, .keep)
      | .sealed =>
        match c.ticket input.ticketFingerprint with
        | some t =>
          (if t.ownerExposureId = input.exposureId then .resumeAck else .deduplicated, .keep)
        | none => (.deduplicated, .keep)
  | none =>
    match c.ticket input.ticketFingerprint with
    | some t =>
      if t.delivery = .pending then (.busy, .keep)
      else (.deduplicated,
        .rebind input.exposureId input.ticketFingerprint t.delivery t.expiresAt)
    | none =>
      (.acquired, .bind input.exposureId input.ticketFingerprint .pending
        (input.nowMs + EXPOSURE_REDEMPTION_PENDING_LEASE_MS))

/-- A pending binding is dissolved, on both sides if the ticket is the caller's. -/
def release (c : LiveClaims) (input : ClaimInput) : Edit :=
  match c.exposure input.exposureId with
  | none => .keep
  | some e =>
    if e.ticketFingerprint ≠ input.ticketFingerprint ∨ e.delivery ≠ .pending then .keep
    else match c.ticket input.ticketFingerprint with
      | none => .unbindExposure input.exposureId
      | some t =>
        if t.ownerExposureId = input.exposureId ∧ t.delivery = .pending then
          .unbind input.exposureId input.ticketFingerprint
        else .unbindExposure input.exposureId

/-- A pending binding of the caller's becomes a sealed one, for a full claim TTL. -/
def markSealed (c : LiveClaims) (input : ClaimInput) : Except String Unit × Edit :=
  match c.exposure input.exposureId with
  | none => (.error "exposure redemption claim is missing or mismatched at markSealed", .keep)
  | some e =>
    if e.ticketFingerprint ≠ input.ticketFingerprint then
      (.error "exposure redemption claim is missing or mismatched at markSealed", .keep)
    else if e.delivery = .accepted ∨ e.delivery = .sealed then (.ok (), .keep)
    else match c.ticket input.ticketFingerprint with
      | none =>
        (.error
          "exposure redemption ticket binding missing while exposure claim is live at markSealed",
          .keep)
      | some t =>
        if t.ownerExposureId ≠ input.exposureId then
          (.error "exposure redemption ticket owner mismatches exposure claim at markSealed",
            .keep)
        else (.ok (), .bind input.exposureId input.ticketFingerprint .sealed
          (input.nowMs + EXPOSURE_REDEMPTION_CLAIM_TTL_MS))

/-- A sealed binding of the caller's becomes an accepted one, for as long as it had left. -/
def acknowledge (c : LiveClaims) (input : ClaimInput) :
    Except String ExposureRedemptionAcknowledgeOutcome × Edit :=
  match c.exposure input.exposureId with
  | none => (.error "exposure redemption claim is missing or mismatched at acknowledge", .keep)
  | some e =>
    if e.ticketFingerprint ≠ input.ticketFingerprint then
      (.error "exposure redemption claim is missing or mismatched at acknowledge", .keep)
    else if e.delivery = .accepted then (.ok .alreadyAccepted, .keep)
    else if e.delivery ≠ .sealed then
      (.error "exposure redemption claim must be sealed before acknowledge", .keep)
    else match c.ticket input.ticketFingerprint with
      | none =>
        (.error
          "exposure redemption ticket binding missing while exposure claim is live at acknowledge",
          .keep)
      | some t =>
        if t.ownerExposureId ≠ input.exposureId then
          (.error "exposure redemption ticket owner mismatches exposure claim at acknowledge",
            .keep)
        else (.ok .accepted,
          .bind input.exposureId input.ticketFingerprint .accepted t.expiresAt)

/-- The answer to an event and the edit it makes, read off the live tables. -/
def decide (c : LiveClaims) : ClaimEvent → ClaimResponse × Edit
  | .request .claim input => (.claim (c.claim input).1, (c.claim input).2)
  | .request .release input => (.release, c.release input)
  | .request .markSealed input => (.markSealed (c.markSealed input).1, (c.markSealed input).2)
  | .request .acknowledge input =>
    (.acknowledge (c.acknowledge input).1, (c.acknowledge input).2)
  | .alarm _ => (.alarm, .keep)

end LiveClaims

/-- The abstract object: time passes, then the event's edit is applied. -/
def liveClaimObject : Machine LiveClaims ClaimEvent ClaimResponse where
  init := .empty
  step c event :=
    let present := c.age event.nowMs
    ((present.decide event).1, (present.decide event).2.apply present)

/-! ## 3. The cases of a decision -/

/-- The decision table, one constructor for each way an event can be answered. -/
inductive Decides (c : LiveClaims) : ClaimEvent → ClaimResponse → Edit → Prop
  | acquire {input} (he : c.exposure input.exposureId = none)
      (ht : c.ticket input.ticketFingerprint = none) :
      Decides c (.request .claim input) (.claim .acquired)
        (.bind input.exposureId input.ticketFingerprint .pending
          (input.nowMs + EXPOSURE_REDEMPTION_PENDING_LEASE_MS))
  | rebind {input t} (he : c.exposure input.exposureId = none)
      (ht : c.ticket input.ticketFingerprint = some t) (hd : t.delivery ≠ .pending) :
      Decides c (.request .claim input) (.claim .deduplicated)
        (.rebind input.exposureId input.ticketFingerprint t.delivery t.expiresAt)
  | resume {input e t} (he : c.exposure input.exposureId = some e)
      (hf : e.ticketFingerprint = input.ticketFingerprint) (hd : e.delivery = .sealed)
      (ht : c.ticket input.ticketFingerprint = some t)
      (ho : t.ownerExposureId = input.exposureId) :
      Decides c (.request .claim input) (.claim .resumeAck) .keep
  | deduplicate {input e} (he : c.exposure input.exposureId = some e)
      (hf : e.ticketFingerprint = input.ticketFingerprint) (hd : e.delivery ≠ .pending) :
      Decides c (.request .claim input) (.claim .deduplicated) .keep
  | refuse {input o} (ho : o = .conflict ∨ o = .busy) :
      Decides c (.request .claim input) (.claim o) .keep
  | sealPending {input e t} (he : c.exposure input.exposureId = some e)
      (hf : e.ticketFingerprint = input.ticketFingerprint) (hd : e.delivery = .pending)
      (ht : c.ticket input.ticketFingerprint = some t)
      (ho : t.ownerExposureId = input.exposureId) :
      Decides c (.request .markSealed input) (.markSealed (.ok ()))
        (.bind input.exposureId input.ticketFingerprint .sealed
          (input.nowMs + EXPOSURE_REDEMPTION_CLAIM_TTL_MS))
  | sealAgain {input e} (he : c.exposure input.exposureId = some e)
      (hf : e.ticketFingerprint = input.ticketFingerprint) (hd : e.delivery ≠ .pending) :
      Decides c (.request .markSealed input) (.markSealed (.ok ())) .keep
  | sealError {input error} :
      Decides c (.request .markSealed input) (.markSealed (.error error)) .keep
  | acceptSealed {input e t} (he : c.exposure input.exposureId = some e)
      (hf : e.ticketFingerprint = input.ticketFingerprint) (hd : e.delivery = .sealed)
      (ht : c.ticket input.ticketFingerprint = some t)
      (ho : t.ownerExposureId = input.exposureId) :
      Decides c (.request .acknowledge input) (.acknowledge (.ok .accepted))
        (.bind input.exposureId input.ticketFingerprint .accepted t.expiresAt)
  | acceptAgain {input e} (he : c.exposure input.exposureId = some e)
      (hf : e.ticketFingerprint = input.ticketFingerprint) (hd : e.delivery = .accepted) :
      Decides c (.request .acknowledge input) (.acknowledge (.ok .alreadyAccepted)) .keep
  | acceptError {input error} :
      Decides c (.request .acknowledge input) (.acknowledge (.error error)) .keep
  | dissolve {input e t} (he : c.exposure input.exposureId = some e)
      (hf : e.ticketFingerprint = input.ticketFingerprint) (hd : e.delivery = .pending)
      (ht : c.ticket input.ticketFingerprint = some t)
      (ho : t.ownerExposureId = input.exposureId) (htd : t.delivery = .pending) :
      Decides c (.request .release input) .release
        (.unbind input.exposureId input.ticketFingerprint)
  | dissolveExposure {input e} (he : c.exposure input.exposureId = some e)
      (hf : e.ticketFingerprint = input.ticketFingerprint) (hd : e.delivery = .pending)
      (ht : ∀ t, c.ticket input.ticketFingerprint = some t →
        ¬ (t.ownerExposureId = input.exposureId ∧ t.delivery = .pending)) :
      Decides c (.request .release input) .release (.unbindExposure input.exposureId)
  | nothing {input} : Decides c (.request .release input) .release .keep
  | sweep {nowMs} : Decides c (.alarm nowMs) .alarm .keep

theorem LiveClaims.decides_claim (c : LiveClaims) (input : ClaimInput) :
    Decides c (.request .claim input) (.claim (c.claim input).1) (c.claim input).2 := by
  unfold LiveClaims.claim
  cases he : c.exposure input.exposureId with
  | none =>
    cases ht : c.ticket input.ticketFingerprint with
    | none => exact .acquire he ht
    | some t =>
      by_cases hd : t.delivery = .pending
      · simpa [hd] using Decides.refuse (Or.inr rfl)
      · simpa [hd] using Decides.rebind he ht hd
  | some e =>
    by_cases hf : e.ticketFingerprint = input.ticketFingerprint
    · cases hd : e.delivery with
      | pending => simpa [hf, hd] using Decides.refuse (Or.inr rfl)
      | accepted => simpa [hf, hd] using Decides.deduplicate he hf (by simp [hd])
      | sealed =>
        cases ht : c.ticket input.ticketFingerprint with
        | none => simpa [hf, hd] using Decides.deduplicate he hf (by simp [hd])
        | some t =>
          by_cases ho : t.ownerExposureId = input.exposureId
          · simpa [hf, hd, ho] using Decides.resume he hf hd ht ho
          · simpa [hf, hd, ho] using Decides.deduplicate he hf (by simp [hd])
    · simpa [hf] using Decides.refuse (Or.inl rfl)

theorem LiveClaims.decides_markSealed (c : LiveClaims) (input : ClaimInput) :
    Decides c (.request .markSealed input) (.markSealed (c.markSealed input).1)
      (c.markSealed input).2 := by
  unfold LiveClaims.markSealed
  cases he : c.exposure input.exposureId with
  | none => exact .sealError
  | some e =>
    by_cases hf : e.ticketFingerprint = input.ticketFingerprint
    · by_cases hd : e.delivery = .pending
      · cases ht : c.ticket input.ticketFingerprint with
        | none => simpa [hf, hd] using Decides.sealError
        | some t =>
          by_cases ho : t.ownerExposureId = input.exposureId
          · simpa [hf, hd, ho] using Decides.sealPending he hf hd ht ho
          · simpa [hf, hd, ho] using Decides.sealError
      · have hdone : e.delivery = .accepted ∨ e.delivery = .sealed := by
          cases h : e.delivery <;> simp_all
        simpa [hf, hdone] using Decides.sealAgain he hf hd
    · simpa [hf] using Decides.sealError

theorem LiveClaims.decides_acknowledge (c : LiveClaims) (input : ClaimInput) :
    Decides c (.request .acknowledge input) (.acknowledge (c.acknowledge input).1)
      (c.acknowledge input).2 := by
  unfold LiveClaims.acknowledge
  cases he : c.exposure input.exposureId with
  | none => exact .acceptError
  | some e =>
    by_cases hf : e.ticketFingerprint = input.ticketFingerprint
    · cases hd : e.delivery with
      | pending => simpa [hf, hd] using Decides.acceptError
      | accepted => simpa [hf, hd] using Decides.acceptAgain he hf hd
      | sealed =>
        cases ht : c.ticket input.ticketFingerprint with
        | none => simpa [hf, hd] using Decides.acceptError
        | some t =>
          by_cases ho : t.ownerExposureId = input.exposureId
          · simpa [hf, hd, ho] using Decides.acceptSealed he hf hd ht ho
          · simpa [hf, hd, ho] using Decides.acceptError
    · simpa [hf] using Decides.acceptError

theorem LiveClaims.decides_release (c : LiveClaims) (input : ClaimInput) :
    Decides c (.request .release input) .release (c.release input) := by
  unfold LiveClaims.release
  cases he : c.exposure input.exposureId with
  | none => exact .nothing
  | some e =>
    by_cases hk : e.ticketFingerprint ≠ input.ticketFingerprint ∨ e.delivery ≠ .pending
    · simpa [hk] using Decides.nothing
    · obtain ⟨hf, hd⟩ : e.ticketFingerprint = input.ticketFingerprint ∧ e.delivery = .pending := by
        simpa using hk
      cases ht : c.ticket input.ticketFingerprint with
      | none => simpa [hf, hd] using Decides.dissolveExposure he hf hd (by simp [ht])
      | some t =>
        by_cases ho : t.ownerExposureId = input.exposureId ∧ t.delivery = .pending
        · simpa [hf, hd, ho] using Decides.dissolve he hf hd ht ho.1 ho.2
        · have hno : Decides c (.request .release input) .release
              (.unbindExposure input.exposureId) := by
            refine .dissolveExposure he hf hd fun t' ht' => ?_
            rw [ht] at ht'
            cases ht'
            exact ho
          simpa [hf, hd, ho] using hno

/-- **Every decision is one of the table's.** -/
theorem LiveClaims.decides (c : LiveClaims) (event : ClaimEvent) :
    Decides c event (c.decide event).1 (c.decide event).2 := by
  cases event with
  | alarm nowMs => exact .sweep
  | request route input =>
    cases route with
    | claim => exact c.decides_claim input
    | release => exact c.decides_release input
    | markSealed => exact c.decides_markSealed input
    | acknowledge => exact c.decides_acknowledge input

end Splitch
