/-
# The claim object refines its abstraction

Every step of the claim object is the decision taken on the live tables, committed to a storage
from which nothing but expired rows has been dropped (`claimStep_request`); a tick of the sweep
drops expired rows and decides nothing (`claimStep_alarm_shed`).  So what a client can see of the
object over a whole run is the abstract object's run (`claimObject_refines`).

All later arguments about the claims start from these theorems and never open the code of an
operation again.
-/
import Splitch.Library.StateActions
import Splitch.Redemption.LiveClaims
import Splitch.Redemption.SweepPage

namespace Splitch

open Expiring

/-! ## 1. Reading drops expired rows and nothing else -/

namespace ClaimStorage

/-- The live tables of a storage. -/
def live (st : ClaimStorage) (t : Int) : LiveClaims := ⟨st.exposureAt t, st.ticketAt t⟩

/-- `Purged t st st'`: `st'` is `st` without some claim rows that expired by `t`. -/
structure Purged (t : Int) (st st' : ClaimStorage) : Prop where
  exposures : Shed ExposureBindingRecord.expiresAt t st.exposureRow st'.exposureRow
  tickets : Shed TicketBindingRecord.expiresAt t st.ticketRow st'.ticketRow
  sweepAfter : st'.sweepAfter = st.sweepAfter
  pendingExpiryFloor : st'.pendingExpiryFloor = st.pendingExpiryFloor
  alarm : st'.alarm = st.alarm

theorem Purged.refl (t : Int) (st : ClaimStorage) : Purged t st st :=
  ⟨.refl _ _, .refl _ _, rfl, rfl, rfl⟩

theorem Purged.trans {t : Int} {st st' st'' : ClaimStorage} (h : Purged t st st')
    (h' : Purged t st' st'') : Purged t st st'' :=
  ⟨h.exposures.trans h'.exposures, h.tickets.trans h'.tickets,
    h'.sweepAfter.trans h.sweepAfter, h'.pendingExpiryFloor.trans h.pendingExpiryFloor,
    h'.alarm.trans h.alarm⟩

/-- Nobody can tell a storage from a purged one. -/
theorem live_congr {t t' : Int} {st st' : ClaimStorage}
    (he : Shed ExposureBindingRecord.expiresAt t st.exposureRow st'.exposureRow)
    (ht : Shed TicketBindingRecord.expiresAt t st.ticketRow st'.ticketRow) (h : t ≤ t') :
    st'.live t' = st.live t' := by
  simp only [live, exposureAt, ticketAt, he.age_eq h, ht.age_eq h]

theorem live_age {t t' : Int} (h : t ≤ t') (st : ClaimStorage) :
    (st.live t).age t' = st.live t' := by
  simp only [live, LiveClaims.age, exposureAt, ticketAt, Expiring.age_age _ h]

end ClaimStorage

open ClaimStorage

/-- `liveExposure` answers with the live row, and purges. -/
theorem liveExposure_spec (E : String) (now : Int) (st : ClaimStorage) :
    ∃ st', Purged now st st' ∧ liveExposure E now st = (st.exposureAt now E, st') := by
  cases hrow : st.exposureRow E with
  | none =>
    refine ⟨st, .refl _ _, ?_⟩
    rw [exposureAt, (age_eq_none _).mpr (by simp [hrow])]
    simp [liveExposure, hrow]
  | some record =>
    by_cases h : record.expiresAt ≤ now
    · refine ⟨st.deleteExposure E, ⟨?_, .refl _ _, rfl, rfl, rfl⟩, ?_⟩
      · rw [deleteExposure_exposureRow]
        exact shed_erase hrow h
      · rw [exposureAt, (age_eq_none _).mpr (by simp [hrow, h])]
        simp [liveExposure, hrow, h]
    · refine ⟨st, .refl _ _, ?_⟩
      rw [exposureAt, (age_eq_some _).mpr ⟨hrow, not_le.mp h⟩]
      simp [liveExposure, hrow, h]

/-- `liveTicket` answers with the live row, and purges. -/
theorem liveTicket_spec (F : String) (now : Int) (st : ClaimStorage) :
    ∃ st', Purged now st st' ∧ liveTicket F now st = (st.ticketAt now F, st') := by
  cases hrow : st.ticketRow F with
  | none =>
    refine ⟨st, .refl _ _, ?_⟩
    rw [ticketAt, (age_eq_none _).mpr (by simp [hrow])]
    simp [liveTicket, hrow]
  | some record =>
    by_cases h : record.expiresAt ≤ now
    · refine ⟨st.deleteTicket F, ⟨.refl _ _, ?_, rfl, rfl, rfl⟩, ?_⟩
      · rw [deleteTicket_ticketRow]
        exact shed_erase hrow h
      · rw [ticketAt, (age_eq_none _).mpr (by simp [hrow, h])]
        simp [liveTicket, hrow, h]
    · refine ⟨st, .refl _ _, ?_⟩
      rw [ticketAt, (age_eq_some _).mpr ⟨hrow, not_le.mp h⟩]
      simp [liveTicket, hrow, h]

theorem ClaimStorage.Purged.ticketAt {t : Int} {st st' : ClaimStorage}
    (h : Purged t st st') : st'.ticketAt t = st.ticketAt t := h.tickets.age_eq le_rfl

/-- Reading a ticket does not touch the exposure rows. -/
theorem liveTicket_deleteExposure (E F : String) (now : Int) (st : ClaimStorage) :
    liveTicket F now (st.deleteExposure E)
      = ((liveTicket F now st).1, (liveTicket F now st).2.deleteExposure E) := by
  cases hrow : st.ticketRow F with
  | none => simp [liveTicket, hrow]
  | some record =>
    by_cases h : record.expiresAt ≤ now
    · simp [liveTicket, hrow, h]
      rfl
    · simp [liveTicket, hrow, h]

/-! ## 2. Every operation is its decision -/

theorem applyExposureRedemptionClaim_spec (input : ClaimInput) (st : ClaimStorage) :
    ∃ st', Purged input.nowMs st st' ∧
      applyExposureRedemptionClaim input st
        = (((st.live input.nowMs).claim input).1,
            ((st.live input.nowMs).claim input).2.commit st') := by
  obtain ⟨st₁, h₁, hexp⟩ := liveExposure_spec input.exposureId input.nowMs st
  obtain ⟨st₂, h₂, htic⟩ := liveTicket_spec input.ticketFingerprint input.nowMs st₁
  rw [h₁.ticketAt] at htic
  cases he : st.exposureAt input.nowMs input.exposureId with
  | none =>
    refine ⟨st₂, h₁.trans h₂, ?_⟩
    cases ht : st.ticketAt input.nowMs input.ticketFingerprint with
    | none =>
      simp [applyExposureRedemptionClaim, acquirePendingClaim, LiveClaims.claim, live,
        Edit.commit, hexp, htic, he, ht]
    | some t =>
      by_cases hd : t.delivery = .pending <;>
        simp [applyExposureRedemptionClaim, claimAgainstExistingTicket, LiveClaims.claim, live,
          Edit.commit, hexp, htic, he, ht, hd]
  | some e =>
    by_cases hf : e.ticketFingerprint = input.ticketFingerprint
    · cases hd : e.delivery with
      | pending =>
        refine ⟨st₁, h₁, ?_⟩
        simp [applyExposureRedemptionClaim, claimAgainstExistingExposure, LiveClaims.claim,
          live, Edit.commit, hexp, he, hf, hd]
      | accepted =>
        refine ⟨st₁, h₁, ?_⟩
        simp [applyExposureRedemptionClaim, claimAgainstExistingExposure, LiveClaims.claim,
          live, Edit.commit, hexp, he, hf, hd]
      | sealed =>
        refine ⟨st₂, h₁.trans h₂, ?_⟩
        cases ht : st.ticketAt input.nowMs input.ticketFingerprint with
        | none =>
          simp [applyExposureRedemptionClaim, claimAgainstExistingExposure, LiveClaims.claim,
            live, Edit.commit, hexp, htic, he, ht, hf, hd]
        | some t =>
          by_cases ho : t.ownerExposureId = input.exposureId <;>
            simp [applyExposureRedemptionClaim, claimAgainstExistingExposure, LiveClaims.claim,
              live, Edit.commit, hexp, htic, he, ht, hf, hd, ho]
    · refine ⟨st₁, h₁, ?_⟩
      simp [applyExposureRedemptionClaim, claimAgainstExistingExposure, LiveClaims.claim, live,
        Edit.commit, hexp, he, hf]

theorem applyExposureRedemptionRelease_spec (input : ClaimInput) (st : ClaimStorage) :
    ∃ st', Purged input.nowMs st st' ∧
      applyExposureRedemptionRelease input st
        = ((), ((st.live input.nowMs).release input).commit st') := by
  obtain ⟨st₁, h₁, hexp⟩ := liveExposure_spec input.exposureId input.nowMs st
  obtain ⟨st₂, h₂, htic⟩ := liveTicket_spec input.ticketFingerprint input.nowMs st₁
  rw [h₁.ticketAt] at htic
  cases he : st.exposureAt input.nowMs input.exposureId with
  | none =>
    refine ⟨st₁, h₁, ?_⟩
    simp [applyExposureRedemptionRelease, LiveClaims.release, live, Edit.commit, hexp, he]
  | some e =>
    by_cases hk : e.ticketFingerprint ≠ input.ticketFingerprint ∨ e.delivery ≠ .pending
    · refine ⟨st₁, h₁, ?_⟩
      simp [applyExposureRedemptionRelease, LiveClaims.release, live, Edit.commit, hexp, he, hk]
    · refine ⟨st₂, h₁.trans h₂, ?_⟩
      cases ht : st.ticketAt input.nowMs input.ticketFingerprint with
      | none =>
        simp [applyExposureRedemptionRelease, LiveClaims.release, live, Edit.commit, hexp, htic,
          he, ht, hk, liveTicket_deleteExposure]
      | some t =>
        by_cases ho : t.ownerExposureId = input.exposureId ∧ t.delivery = .pending <;>
          simp [applyExposureRedemptionRelease, LiveClaims.release, live, Edit.commit, hexp,
            htic, he, ht, hk, ho, liveTicket_deleteExposure]

theorem applyExposureRedemptionMarkSealed_spec (input : ClaimInput) (st : ClaimStorage) :
    ∃ st', Purged input.nowMs st st' ∧
      applyExposureRedemptionMarkSealed input st
        = (((st.live input.nowMs).markSealed input).1,
            ((st.live input.nowMs).markSealed input).2.commit st') := by
  obtain ⟨st₁, h₁, hexp⟩ := liveExposure_spec input.exposureId input.nowMs st
  obtain ⟨st₂, h₂, htic⟩ := liveTicket_spec input.ticketFingerprint input.nowMs st₁
  rw [h₁.ticketAt] at htic
  cases he : st.exposureAt input.nowMs input.exposureId with
  | none =>
    refine ⟨st₁, h₁, ?_⟩
    simp [applyExposureRedemptionMarkSealed, LiveClaims.markSealed, live, Edit.commit, hexp, he]
  | some e =>
    by_cases hf : e.ticketFingerprint = input.ticketFingerprint
    · by_cases hd : e.delivery = .accepted ∨ e.delivery = .sealed
      · refine ⟨st₁, h₁, ?_⟩
        simp [applyExposureRedemptionMarkSealed, LiveClaims.markSealed, live, Edit.commit, hexp,
          he, hf, hd]
      · refine ⟨st₂, h₁.trans h₂, ?_⟩
        cases ht : st.ticketAt input.nowMs input.ticketFingerprint with
        | none =>
          simp [applyExposureRedemptionMarkSealed, LiveClaims.markSealed, live, Edit.commit,
            hexp, htic, he, ht, hf, hd]
        | some t =>
          by_cases ho : t.ownerExposureId = input.exposureId <;>
            simp [applyExposureRedemptionMarkSealed, LiveClaims.markSealed, live, Edit.commit,
              hexp, htic, he, ht, hf, hd, ho]
    · refine ⟨st₁, h₁, ?_⟩
      simp [applyExposureRedemptionMarkSealed, LiveClaims.markSealed, live, Edit.commit, hexp,
        he, hf]

theorem applyExposureRedemptionAcknowledge_spec (input : ClaimInput) (st : ClaimStorage) :
    ∃ st', Purged input.nowMs st st' ∧
      applyExposureRedemptionAcknowledge input st
        = (((st.live input.nowMs).acknowledge input).1,
            ((st.live input.nowMs).acknowledge input).2.commit st') := by
  obtain ⟨st₁, h₁, hexp⟩ := liveExposure_spec input.exposureId input.nowMs st
  obtain ⟨st₂, h₂, htic⟩ := liveTicket_spec input.ticketFingerprint input.nowMs st₁
  rw [h₁.ticketAt] at htic
  cases he : st.exposureAt input.nowMs input.exposureId with
  | none =>
    refine ⟨st₁, h₁, ?_⟩
    simp [applyExposureRedemptionAcknowledge, LiveClaims.acknowledge, live, Edit.commit, hexp,
      he]
  | some e =>
    by_cases hf : e.ticketFingerprint = input.ticketFingerprint
    · cases hd : e.delivery with
      | pending =>
        refine ⟨st₁, h₁, ?_⟩
        simp [applyExposureRedemptionAcknowledge, LiveClaims.acknowledge, live, Edit.commit,
          hexp, he, hf, hd]
      | accepted =>
        refine ⟨st₁, h₁, ?_⟩
        simp [applyExposureRedemptionAcknowledge, LiveClaims.acknowledge, live, Edit.commit,
          hexp, he, hf, hd]
      | sealed =>
        refine ⟨st₂, h₁.trans h₂, ?_⟩
        cases ht : st.ticketAt input.nowMs input.ticketFingerprint with
        | none =>
          simp [applyExposureRedemptionAcknowledge, LiveClaims.acknowledge, live, Edit.commit,
            hexp, htic, he, ht, hf, hd]
        | some t =>
          by_cases ho : t.ownerExposureId = input.exposureId <;>
            simp [applyExposureRedemptionAcknowledge, LiveClaims.acknowledge, live,
              Edit.commit, hexp, htic, he, ht, hf, hd, ho]
    · refine ⟨st₁, h₁, ?_⟩
      simp [applyExposureRedemptionAcknowledge, LiveClaims.acknowledge, live, Edit.commit, hexp,
        he, hf]

/-! ## 3. Edits on the storage -/

/-- The rows an edit writes expire after `t`. -/
def Edit.Fresh (t : Int) : Edit → Prop
  | rebind _ _ _ expiresAt => t < expiresAt
  | bind _ _ _ expiresAt => t < expiresAt
  | _ => True

theorem Edit.age_apply {t : Int} {edit : Edit} (h : edit.Fresh t) (c : LiveClaims) :
    (edit.apply c).age t = edit.apply (c.age t) := by
  cases edit with
  | keep => rfl
  | rebind E F delivery expiresAt =>
    simp only [apply, LiveClaims.age]
    rw [age_update_some _ (by exact h)]
  | bind E F delivery expiresAt =>
    simp only [apply, LiveClaims.age]
    rw [age_update_some _ (by exact h), age_update_some _ (by exact h)]
  | unbindExposure E => simp only [apply, LiveClaims.age, age_update_none]
  | unbind E F => simp only [apply, LiveClaims.age, age_update_none]

/-- All rows of a storage, expired or not. -/
def ClaimStorage.rows (st : ClaimStorage) : LiveClaims := ⟨st.exposureRow, st.ticketRow⟩

theorem ClaimStorage.live_eq (st : ClaimStorage) (t : Int) : st.live t = st.rows.age t := rfl

@[simp] theorem ClaimStorage.setExpiryAlarm_rows (st : ClaimStorage) (x : Int) :
    (st.setExpiryAlarm x).rows = st.rows := by
  unfold setExpiryAlarm rememberPendingExpiryFloor
  repeat' split
  all_goals rfl

/-- Committing an edit edits the rows. -/
theorem Edit.commit_rows (edit : Edit) (st : ClaimStorage) :
    (edit.commit st).rows = edit.apply st.rows := by
  cases edit with
  | keep => rfl
  | rebind E F delivery expiresAt => simp [commit, apply, rows]
  | bind E F delivery expiresAt =>
    by_cases hd : delivery = .pending
    · simp [commit, apply, hd, rows]
    · simp only [commit, hd, if_false, setExpiryAlarm_rows]
      simp [apply, rows]
  | unbindExposure E => simp [commit, apply, rows]
  | unbind E F => simp [commit, apply, rows]

/-- A binding past its pending phase arms the alarm. -/
theorem Edit.commit_bind {delivery : ExposureRedemptionDelivery} (h : delivery ≠ .pending)
    (E F : String) (x : Int) (st : ClaimStorage) :
    (Edit.bind E F delivery x).commit st
      = ((st.putExposure E ⟨F, delivery, x⟩).putTicket F ⟨E, delivery, x⟩).setExpiryAlarm x := by
  simp only [commit, h, if_false]

/-- What is decided on live rows is fresh. -/
theorem ClaimStorage.decide_fresh (st : ClaimStorage) (event : ClaimEvent) :
    ((st.live event.nowMs).decide event).2.Fresh event.nowMs := by
  have h := (st.live event.nowMs).decides event
  generalize ((st.live event.nowMs).decide event).1 = response at h
  generalize ((st.live event.nowMs).decide event).2 = edit at h
  cases h with
  | acquire => exact Int.lt_add_of_pos_right _ (by decide)
  | rebind _ ht _ => exact ((age_eq_some _).mp ht).2
  | sealPending => exact Int.lt_add_of_pos_right _ (by decide)
  | acceptSealed _ _ _ ht _ => exact ((age_eq_some _).mp ht).2
  | _ => trivial

/-- **A request is its decision**, committed to a storage from which some expired rows may have
been dropped. -/
theorem claimStep_request (route : ClaimRoute) (input : ClaimInput) (st : ClaimStorage) :
    ∃ st', Purged input.nowMs st st' ∧
      claimStep (.request route input) st
        = (((st.live input.nowMs).decide (.request route input)).1,
            ((st.live input.nowMs).decide (.request route input)).2.commit st') := by
  cases route with
  | claim =>
    obtain ⟨st', h, heq⟩ := applyExposureRedemptionClaim_spec input st
    exact ⟨st', h, by simp [claimStep, dispatchClaimRoute, LiveClaims.decide, heq]⟩
  | release =>
    obtain ⟨st', h, heq⟩ := applyExposureRedemptionRelease_spec input st
    exact ⟨st', h, by simp [claimStep, dispatchClaimRoute, LiveClaims.decide, heq]⟩
  | markSealed =>
    obtain ⟨st', h, heq⟩ := applyExposureRedemptionMarkSealed_spec input st
    exact ⟨st', h, by simp [claimStep, dispatchClaimRoute, LiveClaims.decide, heq]⟩
  | acknowledge =>
    obtain ⟨st', h, heq⟩ := applyExposureRedemptionAcknowledge_spec input st
    exact ⟨st', h, by simp [claimStep, dispatchClaimRoute, LiveClaims.decide, heq]⟩

/-- **A tick only drops expired rows.** It drops those of its page alone, so the two storages are told
apart by nobody who reads with the time of the tick or a later one. -/
theorem claimStep_alarm_shed (nowMs : Int) (st : ClaimStorage) :
    Shed ExposureBindingRecord.expiresAt nowMs st.exposureRow
        (claimStep (.alarm nowMs) st).2.exposureRow ∧
      Shed TicketBindingRecord.expiresAt nowMs st.ticketRow
        (claimStep (.alarm nowMs) st).2.ticketRow := by
  have hrows : (claimStep (.alarm nowMs) st).2.rows = (st.swept nowMs).rows := by
    rcases lt_or_ge st.sweepPage.length EXPOSURE_REDEMPTION_SWEEP_PAGE_SIZE with h | h
    · rw [alarm_step_short st nowMs h]
      rfl
    · obtain ⟨last, _, heq⟩ := alarm_step_full st nowMs h
      rw [heq]
      rfl
  rw [show (claimStep (.alarm nowMs) st).2.exposureRow = (st.swept nowMs).exposureRow from
      congrArg LiveClaims.exposure hrows,
    show (claimStep (.alarm nowMs) st).2.ticketRow = (st.swept nowMs).ticketRow from
      congrArg LiveClaims.ticket hrows]
  refine ⟨shed_iff.mpr ⟨?_, ?_⟩, shed_iff.mpr ⟨?_, ?_⟩⟩
  · exact fun E record h => (swept_exposureRow.mp h).1
  · exact fun E record h ha => swept_exposureRow.mpr ⟨h, fun _ => ha⟩
  · exact fun F record h => (swept_ticketRow.mp h).1
  · exact fun F record h ha => swept_ticketRow.mpr ⟨h, fun _ => ha⟩

/-! ## 4. Steps and runs -/

/-- **One step, as a client sees it.**  The answer is the decision's, and from the time of the
step on the live rows are those the edit leaves. -/
theorem claimObject_step (st : ClaimStorage) (event : ClaimEvent) :
    claimObject.out st event = ((st.live event.nowMs).decide event).1 ∧
      ∀ t, event.nowMs ≤ t → (claimObject.next st event).live t
        = (((st.live event.nowMs).decide event).2.apply (st.live event.nowMs)).age t := by
  cases event with
  | alarm nowMs =>
    refine ⟨rfl, fun t ht => ?_⟩
    have hshed := claimStep_alarm_shed nowMs st
    exact (live_congr hshed.1 hshed.2 ht).trans (live_age ht st).symm
  | request route input =>
    obtain ⟨st', hpurged, heq⟩ := claimStep_request route input st
    refine ⟨congrArg Prod.fst heq, fun t ht => ?_⟩
    have ht : input.nowMs ≤ t := ht
    have hfresh : ((st.live input.nowMs).decide (.request route input)).2.Fresh input.nowMs :=
      st.decide_fresh (.request route input)
    have hnext : claimObject.next st (.request route input)
        = ((st.live input.nowMs).decide (.request route input)).2.commit st' :=
      congrArg Prod.snd heq
    have hlive : st'.live input.nowMs = st.live input.nowMs :=
      live_congr hpurged.exposures hpurged.tickets le_rfl
    rw [hnext, live_eq, Edit.commit_rows, ← LiveClaims.age_age ht, Edit.age_apply hfresh,
      ← live_eq, hlive]
    rfl

/-- **What a step can be**: one case of the decision table, whose edit is what a client sees at
the time of the step, and sees aged afterwards. -/
theorem claimObject_decides (st : ClaimStorage) (event : ClaimEvent) :
    ∃ edit, Decides (st.live event.nowMs) event (claimObject.out st event) edit ∧
      (claimObject.next st event).live event.nowMs = edit.apply (st.live event.nowMs) ∧
      ∀ t, event.nowMs ≤ t →
        (claimObject.next st event).live t = (edit.apply (st.live event.nowMs)).age t := by
  obtain ⟨hout, hnext⟩ := claimObject_step st event
  refine ⟨((st.live event.nowMs).decide event).2, ?_, ?_, hnext⟩
  · rw [hout]
    exact (st.live event.nowMs).decides event
  · rw [hnext _ le_rfl, Edit.age_apply (st.decide_fresh event), live_age le_rfl]

/-- **The object refines its abstraction over whole runs**: however the sweep and the lazy
deletions fell, a client sees the abstract object's answers and the abstract object's rows. -/
theorem claimObject_refines (es : List ClaimEvent)
    (hes : Machine.Timed ClaimEvent.nowMs es) :
    ∀ t, Machine.Before ClaimEvent.nowMs es t →
      (claimObject.run es).live t = (liveClaimObject.run es).age t := by
  refine Machine.timed_induction ClaimEvent.nowMs
    (I := fun es t => (claimObject.run es).live t = (liveClaimObject.run es).age t)
    ?_ ?_ ?_ es hes
  · intro t
    rfl
  · intro es t t' h hI
    rw [← live_age h, hI, LiveClaims.age_age h]
  · intro es event _ hI
    rw [Machine.run_concat, Machine.run_concat, (claimObject_step _ event).2 _ le_rfl, hI]
    rfl

end Splitch
