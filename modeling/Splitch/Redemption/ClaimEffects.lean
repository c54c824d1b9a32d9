/-
# What a call can do to one ticket

The claim object seen from a single fingerprint: whether some stored row says that the ticket was
REDEEMED, whether its row is HELD, and which calls can change either.  Stored rows count here
whether or not they have expired; where expiry matters it is an assumption on the row.

Only a seal redeems a ticket.  The other calls that write a redeemed row, joining and accepting, do so for a
ticket that was redeemed before (`Decides.redeems`), and dropping rows redeems nothing.  So a stored row that
redeems a ticket was there before the call, or is a seal's (`redeemed_step`), and an answer that reports an
earlier redemption is backed by such a row (`redeemed_of_claim`).

Only a release lets go of a ticket's row, as long as the row has not expired (`ticketRow_step`).  Together
with the first section, by which a claim on a live ticket is not acquired, this makes a held row a lock: as
long as its holder does not release it, nobody else acquires the ticket.
-/
import Splitch.Redemption.ClaimRefinement

namespace Splitch

open Expiring ClaimStorage

/-! ## 1. Claims -/

/-- A claim on a live ticket is not acquired. -/
theorem not_acquired_of_ticket {st : ClaimStorage} {E F : String} {now : Int}
    {r : TicketBindingRecord} (hr : st.ticketAt now F = some r) :
    claimObject.out st (.request .claim ⟨E, F, now⟩) ≠ .claim .acquired := by
  intro hout
  obtain ⟨edit, hd, _⟩ := claimObject_decides st (.request .claim ⟨E, F, now⟩)
  rw [hout] at hd
  cases hd with
  | acquire _ ht =>
    have hnone : st.ticketAt now F = none := ht
    rw [hr] at hnone
    exact Option.some_ne_none _ hnone
  | refuse ho => simp at ho

/-- A claim that finds neither row live is acquired. -/
theorem acquired_of_none {st : ClaimStorage} {E F : String} {now : Int}
    (he : st.exposureAt now E = none) (ht : st.ticketAt now F = none) :
    claimObject.out st (.request .claim ⟨E, F, now⟩) = .claim .acquired := by
  rw [(claimObject_step st (.request .claim ⟨E, F, now⟩)).1]
  have hc : ((st.live now).claim ⟨E, F, now⟩).1 = .acquired := by
    simp [LiveClaims.claim, live, he, ht]
  simp [LiveClaims.decide, ClaimEvent.nowMs, hc]

/-- A claim that is acquired leaves a row for its ticket. -/
theorem ticketRow_of_acquired {st : ClaimStorage} {input : ClaimInput}
    (hout : claimObject.out st (.request .claim input) = .claim .acquired) :
    (claimObject.next st (.request .claim input)).ticketRow input.ticketFingerprint ≠ none := by
  obtain ⟨edit, hd, hnow, _⟩ := claimObject_decides st (.request .claim input)
  rw [hout] at hd
  have hlive : ∀ c, ((claimObject.next st (.request .claim input)).live input.nowMs) = c →
      ∀ t, c.ticket input.ticketFingerprint = some t →
        (claimObject.next st (.request .claim input)).ticketRow input.ticketFingerprint
          = some t := by
    rintro c rfl t ht
    exact ((age_eq_some _).mp ht).1
  cases hd with
  | acquire _ _ =>
    rw [hlive _ hnow _ (Function.update_self ..)]
    simp
  | refuse ho => simp at ho

/-! ## 2. Redeemed tickets -/

/-- Some row says that the ticket was sealed or accepted. -/
def LiveClaims.Redeemed (c : LiveClaims) (F : String) : Prop :=
  (∃ t, c.ticket F = some t ∧ t.delivery ≠ .pending) ∨
    ∃ E e, c.exposure E = some e ∧ e.ticketFingerprint = F ∧ e.delivery ≠ .pending

/-- The edit writes a sealed or accepted row for `F`. -/
def Edit.Redeems (F : String) : Edit → Prop
  | rebind _ F' delivery _ => F' = F ∧ delivery ≠ .pending
  | bind _ F' delivery _ => F' = F ∧ delivery ≠ .pending
  | _ => False

theorem Edit.redeemed_apply {edit : Edit} {c : LiveClaims} {F : String}
    (h : (edit.apply c).Redeemed F) : c.Redeemed F ∨ edit.Redeems F := by
  have hexp : ∀ {E E' : String} {row : Option ExposureBindingRecord}
      {e : ExposureBindingRecord}, Function.update c.exposure E' row E = some e →
      e.ticketFingerprint = F → e.delivery ≠ .pending →
      c.Redeemed F ∨ row = some e := by
    intro E E' row e he hf hd
    by_cases hE : E = E'
    · subst hE
      exact Or.inr (by rwa [Function.update_self] at he)
    · rw [Function.update_of_ne hE] at he
      exact Or.inl (Or.inr ⟨E, e, he, hf, hd⟩)
  have htic : ∀ {F' : String} {row : Option TicketBindingRecord} {t : TicketBindingRecord},
      Function.update c.ticket F' row F = some t → t.delivery ≠ .pending →
      c.Redeemed F ∨ (F' = F ∧ row = some t) := by
    intro F' row t ht hd
    by_cases hF : F = F'
    · subst hF
      exact Or.inr ⟨rfl, by rwa [Function.update_self] at ht⟩
    · rw [Function.update_of_ne hF] at ht
      exact Or.inl (Or.inl ⟨t, ht, hd⟩)
  cases edit with
  | keep => exact Or.inl h
  | rebind E F' delivery x =>
    rcases h with ⟨t, ht, hd⟩ | ⟨E', e, he, hf, hd⟩
    · exact Or.inl (Or.inl ⟨t, ht, hd⟩)
    · refine (hexp he hf hd).imp_right fun hrow => ?_
      cases hrow
      exact ⟨hf, hd⟩
  | bind E F' delivery x =>
    rcases h with ⟨t, ht, hd⟩ | ⟨E', e, he, hf, hd⟩
    · refine (htic ht hd).imp_right fun hrow => ?_
      obtain ⟨hF, hrow⟩ := hrow
      cases hrow
      exact ⟨hF, hd⟩
    · refine (hexp he hf hd).imp_right fun hrow => ?_
      cases hrow
      exact ⟨hf, hd⟩
  | unbindExposure E =>
    rcases h with ⟨t, ht, hd⟩ | ⟨E', e, he, hf, hd⟩
    · exact Or.inl (Or.inl ⟨t, ht, hd⟩)
    · exact (hexp he hf hd).imp_right fun hrow => by cases hrow
  | unbind E F' =>
    rcases h with ⟨t, ht, hd⟩ | ⟨E', e, he, hf, hd⟩
    · exact (htic ht hd).imp_right fun hrow => by cases hrow.2
    · exact (hexp he hf hd).imp_right fun hrow => by cases hrow

/-- **Only a seal redeems a ticket**: joining and accepting need one that was redeemed before. -/
theorem Decides.redeems {c : LiveClaims} {event : ClaimEvent} {response : ClaimResponse}
    {edit : Edit} (hd : Decides c event response edit) {F : String} (h : edit.Redeems F) :
    c.Redeemed F ∨ ∃ input, event = .request .markSealed input ∧ input.ticketFingerprint = F := by
  cases hd with
  | acquire => exact absurd rfl h.2
  | @rebind input t _ ht hdel => exact Or.inl (Or.inl ⟨t, h.1 ▸ ht, hdel⟩)
  | @sealPending input => exact Or.inr ⟨input, rfl, h.1⟩
  | @acceptSealed input e t he hf hdel _ _ =>
    exact Or.inl (Or.inr ⟨_, e, he, hf.trans h.1, by simp [hdel]⟩)
  | _ => exact absurd h (by simp [Edit.Redeems])

theorem redeemed_of_live {st : ClaimStorage} {t : Int} {F : String}
    (h : (st.live t).Redeemed F) : st.rows.Redeemed F := by
  rcases h with ⟨r, hr, hd⟩ | ⟨E, e, he, hrest⟩
  · exact Or.inl ⟨r, ((age_eq_some _).mp hr).1, hd⟩
  · exact Or.inr ⟨E, e, ((age_eq_some _).mp he).1, hrest⟩

/-- Dropping rows redeems nothing. -/
theorem redeemed_of_shed {st st' : ClaimStorage} {t : Int}
    (he : Shed ExposureBindingRecord.expiresAt t st.exposureRow st'.exposureRow)
    (ht : Shed TicketBindingRecord.expiresAt t st.ticketRow st'.ticketRow) {F : String}
    (h : st'.rows.Redeemed F) : st.rows.Redeemed F := by
  rcases h with ⟨r, hr, hd⟩ | ⟨E, e, hrow, hrest⟩
  · exact Or.inl ⟨r, ht.of_some hr, hd⟩
  · exact Or.inr ⟨E, e, he.of_some hrow, hrest⟩

/-- **A stored row that redeems a ticket was there before, or is a seal's.** Purges and ticks only
take rows away, and of the decisions only a seal takes a row out of `pending`. -/
theorem redeemed_step {st : ClaimStorage} {event : ClaimEvent} {F : String}
    (h : (claimStep event st).2.rows.Redeemed F) :
    st.rows.Redeemed F ∨
      ∃ input, event = .request .markSealed input ∧ input.ticketFingerprint = F := by
  cases event with
  | alarm now =>
    have hshed := claimStep_alarm_shed now st
    exact Or.inl (redeemed_of_shed hshed.1 hshed.2 h)
  | request route input =>
    obtain ⟨st', hpurged, heq⟩ := claimStep_request route input st
    rw [heq, Edit.commit_rows] at h
    rcases Edit.redeemed_apply h with hold | hnew
    · exact Or.inl (redeemed_of_shed hpurged.exposures hpurged.tickets hold)
    · exact ((LiveClaims.decides _ _).redeems hnew).imp_left redeemed_of_live

/-- **An answer that reports an earlier redemption is backed by a row.** -/
theorem redeemed_of_claim {st : ClaimStorage} {input : ClaimInput}
    {outcome : ExposureRedemptionClaimOutcome}
    (hout : (claimStep (.request .claim input) st).1 = .claim outcome)
    (ho : outcome = .resumeAck ∨ outcome = .deduplicated) :
    st.rows.Redeemed input.ticketFingerprint := by
  obtain ⟨edit, hd, _⟩ := claimObject_decides st (.request .claim input)
  have hout : claimObject.out st (.request .claim input) = .claim outcome := hout
  rw [hout] at hd
  refine redeemed_of_live (t := input.nowMs) ?_
  cases hd with
  | acquire => simp at ho
  | rebind _ ht hdel => exact Or.inl ⟨_, ht, hdel⟩
  | resume he hf hdel _ _ => exact Or.inr ⟨_, _, he, hf, by simp [hdel]⟩
  | deduplicate he hf hdel => exact Or.inr ⟨_, _, he, hf, hdel⟩
  | refuse hr => rcases hr with rfl | rfl <;> simp at ho

/-! ## 3. Held tickets -/

/-- **Only a release lets go of a ticket's row**, as long as the row has not expired. A purge and a
tick spare it, since they drop what has expired at their own time. -/
theorem ticketRow_step {st : ClaimStorage} {event : ClaimEvent} {F : String}
    {t : TicketBindingRecord} (ht : st.ticketRow F = some t) (hlive : event.nowMs < t.expiresAt) :
    (claimStep event st).2.ticketRow F ≠ none ∨
      ∃ input, event = .request .release input ∧ input.ticketFingerprint = F := by
  cases event with
  | alarm now =>
    rw [(claimStep_alarm_shed now st).2.of_alive ht hlive]
    exact Or.inl (by simp)
  | request route input =>
    obtain ⟨st', hpurged, heq⟩ := claimStep_request route input st
    have hd := (st.live input.nowMs).decides (.request route input)
    have hrows := Edit.commit_rows
      ((st.live input.nowMs).decide (.request route input)).2 st'
    rw [heq]
    generalize ((st.live input.nowMs).decide (.request route input)).1 = response at hd
    generalize ((st.live input.nowMs).decide (.request route input)).2 = edit at hd hrows ⊢
    have hold : st'.ticketRow F = some t := hpurged.tickets.of_alive ht hlive
    have hrow : (edit.commit st').ticketRow F = (edit.apply st'.rows).ticket F :=
      congrFun (congrArg LiveClaims.ticket hrows) F
    rw [hrow]
    have hput : ∀ {F' : String} {r : TicketBindingRecord},
        Function.update st'.ticketRow F' (some r) F ≠ none := by
      intro F' r
      by_cases hF : F = F'
      · simp [hF]
      · simp [hF, hold]
    cases hd with
    | acquire => exact Or.inl hput
    | sealPending => exact Or.inl hput
    | acceptSealed => exact Or.inl hput
    | @dissolve =>
      by_cases hF : input.ticketFingerprint = F
      · exact Or.inr ⟨input, rfl, hF⟩
      · exact Or.inl (by simp [Edit.apply, rows, Ne.symm hF, hold])
    | _ => exact Or.inl (by simp [Edit.apply, rows, hold])

end Splitch
