/-
# The two claim tables agree

An exposureId is bound to a ticket fingerprint and a ticket fingerprint is owned by an
exposureId, in two tables that are written, expired and deleted separately.  The invariant that
keeps them together speaks of LIVE rows only (`LiveClaims.Consistent`): an owner's row is the
mirror image of its ticket, and a row that is bound to a ticket expires with it.

That is stronger than it looks.  Because the two rows of a pair carry the same expiry, time
removes both or neither, so ageing keeps the invariant for free; and because a pending row
belongs to its ticket's owner, nobody else is bound to a ticket while its seal is in flight.

From it: what a step can do to a live row (`live_exposure_step`, `live_ticket_step`), and what a
`deduplicated` answer is worth (`sealed_history`).
-/
import Splitch.Redemption.ClaimRefinement

namespace Splitch

open Expiring ClaimStorage

/-! ## 1. The invariant -/

structure LiveClaims.Consistent (c : LiveClaims) : Prop where
  /-- The owner's row mirrors the ticket's. -/
  owner : ∀ F t, c.ticket F = some t →
    c.exposure t.ownerExposureId = some ⟨F, t.delivery, t.expiresAt⟩
  /-- A bound exposureId expires with its ticket, and shares its pending phase only as the
  owner. -/
  bound : ∀ E e, c.exposure E = some e → ∃ t, c.ticket e.ticketFingerprint = some t ∧
    t.expiresAt = e.expiresAt ∧ (t.delivery = .pending ↔ e.delivery = .pending) ∧
    (e.delivery = .pending → t.ownerExposureId = E)

namespace LiveClaims

theorem Consistent.empty : LiveClaims.empty.Consistent :=
  ⟨fun _ _ h => by simp [LiveClaims.empty] at h, fun _ _ h => by simp [LiveClaims.empty] at h⟩

/-- **Time keeps the tables together**: paired rows expire at the same moment. -/
theorem Consistent.age {c : LiveClaims} (h : c.Consistent) (t : Int) :
    (c.age t).Consistent := by
  constructor
  · intro F r hr
    obtain ⟨hrow, hlive⟩ := (age_eq_some _).mp hr
    exact (age_eq_some _).mpr ⟨h.owner F r hrow, hlive⟩
  · intro E e he
    obtain ⟨hrow, hlive⟩ := (age_eq_some _).mp he
    obtain ⟨r, hr, hx, hd, ho⟩ := h.bound E e hrow
    exact ⟨r, (age_eq_some _).mpr ⟨hr, hx ▸ hlive⟩, hx, hd, ho⟩

/-- The ticket an exposureId is bound to. -/
theorem Consistent.ticket_of_bound {c : LiveClaims} (h : c.Consistent) {E : String}
    {e : ExposureBindingRecord} {F : String} {t : TicketBindingRecord}
    (he : c.exposure E = some e) (hf : e.ticketFingerprint = F) (ht : c.ticket F = some t) :
    t.expiresAt = e.expiresAt ∧ (t.delivery = .pending ↔ e.delivery = .pending) ∧
      (e.delivery = .pending → t.ownerExposureId = E) := by
  obtain ⟨t', ht', hrest⟩ := h.bound E e he
  rw [hf, ht] at ht'
  cases ht'
  exact hrest

/-- **A ticket whose seal is in flight is bound to its owner alone.** -/
theorem Consistent.pending_alone {c : LiveClaims} (h : c.Consistent) {E E' F : String}
    {e e' : ExposureBindingRecord} (he : c.exposure E = some e) (hf : e.ticketFingerprint = F)
    (hd : e.delivery = .pending) (he' : c.exposure E' = some e')
    (hf' : e'.ticketFingerprint = F) : E' = E := by
  obtain ⟨t, ht, _, hpend, howner⟩ := h.bound E e he
  rw [hf] at ht
  obtain ⟨_, hpend', howner'⟩ := h.ticket_of_bound he' hf' ht
  exact (howner' (hpend'.mp (hpend.mpr hd))).symm.trans (howner hd)

/-- The owner of a live ticket is not bound to another one. -/
theorem Consistent.owner_fingerprint {c : LiveClaims} (h : c.Consistent) {F : String}
    {t : TicketBindingRecord} {e : ExposureBindingRecord} (ht : c.ticket F = some t)
    (he : c.exposure t.ownerExposureId = some e) : e.ticketFingerprint = F := by
  rw [h.owner F t ht] at he
  cases he
  rfl

/-! ## 2. Every decision keeps it -/

/-- Writing a pair keeps the tables together, if nobody else is bound to the ticket in its
pending phase and the exposureId does not own another ticket. -/
theorem Consistent.bind {c : LiveClaims} (h : c.Consistent) {E F : String}
    {delivery : ExposureRedemptionDelivery} {expiresAt : Int}
    (hE : ∀ F' t, c.ticket F' = some t → t.ownerExposureId = E → F' = F)
    (hF : ∀ E' e, c.exposure E' = some e → e.ticketFingerprint = F → E' ≠ E →
      delivery ≠ .pending ∧ e.delivery ≠ .pending ∧ e.expiresAt = expiresAt) :
    ((Edit.bind E F delivery expiresAt).apply c).Consistent := by
  constructor
  · intro F' t ht
    by_cases hFF : F' = F
    · subst hFF
      simp only [Edit.apply, Function.update_self, Option.some.injEq] at ht
      subst ht
      simp [Edit.apply]
    · simp only [Edit.apply, Function.update_of_ne hFF] at ht ⊢
      have hne : t.ownerExposureId ≠ E := fun ho => hFF (hE F' t ht ho)
      rw [Function.update_of_ne hne]
      exact h.owner F' t ht
  · intro E' e he
    by_cases hEE : E' = E
    · subst hEE
      simp only [Edit.apply, Function.update_self, Option.some.injEq] at he
      subst he
      exact ⟨⟨E', delivery, expiresAt⟩, by simp [Edit.apply], rfl, Iff.rfl, fun _ => rfl⟩
    · simp only [Edit.apply, Function.update_of_ne hEE] at he ⊢
      by_cases hf : e.ticketFingerprint = F
      · obtain ⟨hd, hed, hx⟩ := hF E' e he hf hEE
        refine ⟨⟨E, delivery, expiresAt⟩, by simp [hf], hx.symm, ?_, fun hp => absurd hp hed⟩
        exact ⟨fun hp => absurd hp hd, fun hp => absurd hp hed⟩
      · rw [Function.update_of_ne hf]
        exact h.bound E' e he

/-- Joining a redeemed ticket keeps the tables together. -/
theorem Consistent.rebind {c : LiveClaims} (h : c.Consistent) {E F : String}
    {t : TicketBindingRecord} (he : c.exposure E = none) (ht : c.ticket F = some t)
    (hd : t.delivery ≠ .pending) :
    ((Edit.rebind E F t.delivery t.expiresAt).apply c).Consistent := by
  constructor
  · intro F' t' ht'
    have hne : t'.ownerExposureId ≠ E := by
      intro ho
      have := h.owner F' t' ht'
      rw [ho, he] at this
      exact Option.some_ne_none _ this.symm
    simp only [Edit.apply] at ht' ⊢
    rw [Function.update_of_ne hne]
    exact h.owner F' t' ht'
  · intro E' e' he'
    by_cases hEE : E' = E
    · subst hEE
      simp only [Edit.apply, Function.update_self, Option.some.injEq] at he'
      subst he'
      exact ⟨t, ht, rfl, Iff.rfl, fun hp => absurd hp hd⟩
    · simp only [Edit.apply, Function.update_of_ne hEE] at he' ⊢
      exact h.bound E' e' he'

/-- Dissolving a pending pair keeps the tables together. -/
theorem Consistent.unbind {c : LiveClaims} (h : c.Consistent) {E F : String}
    {e : ExposureBindingRecord} (he : c.exposure E = some e) (hf : e.ticketFingerprint = F)
    (hd : e.delivery = .pending) : ((Edit.unbind E F).apply c).Consistent := by
  constructor
  · intro F' t' ht'
    by_cases hFF : F' = F
    · subst hFF
      simp [Edit.apply] at ht'
    · simp only [Edit.apply, Function.update_of_ne hFF] at ht' ⊢
      have hne : t'.ownerExposureId ≠ E := by
        intro ho
        rw [← ho] at he
        exact hFF ((h.owner_fingerprint ht' he).symm.trans hf)
      rw [Function.update_of_ne hne]
      exact h.owner F' t' ht'
  · intro E' e' he'
    by_cases hEE : E' = E
    · subst hEE
      simp [Edit.apply] at he'
    · simp only [Edit.apply, Function.update_of_ne hEE] at he' ⊢
      have hne : e'.ticketFingerprint ≠ F := fun hf' => hEE (h.pending_alone he hf hd he' hf')
      rw [Function.update_of_ne hne]
      exact h.bound E' e' he'

/-- **Every decision keeps the tables together.** A decision writes the row of its Exposure and that
of its ticket at once, or neither; what it has found in the two says that no third row refers to
either of them. -/
theorem Consistent.step {c : LiveClaims} (h : c.Consistent) {event : ClaimEvent}
    {response : ClaimResponse} {edit : Edit} (hd : Decides c event response edit) :
    (edit.apply c).Consistent := by
  cases hd with
  | @acquire input he ht =>
    refine h.bind ?_ ?_
    · intro F' t' ht' ho
      have := h.owner F' t' ht'
      rw [ho, he] at this
      exact absurd this.symm (Option.some_ne_none _)
    · intro E' e' he' hf' _
      obtain ⟨t, ht', _⟩ := h.bound E' e' he'
      rw [hf', ht] at ht'
      exact absurd ht'.symm (Option.some_ne_none _)
  | rebind he ht hdel => exact h.rebind he ht hdel
  | @sealPending input e t he hf hdel ht ho =>
    refine h.bind ?_ ?_
    · intro F' t' ht' ho'
      rw [← ho'] at he
      exact (h.owner_fingerprint ht' he).symm.trans hf
    · intro E' e' he' hf' hne
      exact absurd (h.pending_alone he hf hdel he' hf') hne
  | @acceptSealed input e t he hf hdel ht ho =>
    have hsealed : t.delivery ≠ .pending := by
      rw [Ne, (h.ticket_of_bound he hf ht).2.1, hdel]
      simp
    refine h.bind ?_ ?_
    · intro F' t' ht' ho'
      rw [← ho'] at he
      exact (h.owner_fingerprint ht' he).symm.trans hf
    · intro E' e' he' hf' _
      obtain ⟨hx, hp, _⟩ := h.ticket_of_bound he' hf' ht
      exact ⟨by simp, fun hp' => hsealed (hp.mpr hp'), hx.symm⟩
  | dissolve he hf hdel _ _ _ => exact h.unbind he hf hdel
  | @dissolveExposure input e he hf hdel hno =>
    obtain ⟨t, ht, _, hp, ho⟩ := h.bound _ e he
    rw [hf] at ht
    exact absurd ⟨ho hdel, hp.mpr hdel⟩ (hno t ht)
  | _ => exact h

end LiveClaims

/-- **In every reachable state, at every time not before its last event, the live tables are
consistent.** Time is carried through the induction: between two events rows only expire, and a
ticket's row does not outlive its owner's, so what is left live is consistent again. -/
theorem claimObject_consistent (es : List ClaimEvent)
    (hes : Machine.Timed ClaimEvent.nowMs es) :
    ∀ t, Machine.Before ClaimEvent.nowMs es t →
      ((claimObject.run es).live t).Consistent := by
  refine Machine.timed_induction ClaimEvent.nowMs
    (I := fun es t => ((claimObject.run es).live t).Consistent) ?_ ?_ ?_ es hes
  · exact fun t => LiveClaims.Consistent.empty
  · intro es t t' h hI
    rw [← live_age h]
    exact hI.age t'
  · intro es event _ hI
    obtain ⟨edit, hd, hnow, _⟩ := claimObject_decides (claimObject.run es) event
    rw [Machine.run_concat, hnow]
    exact hI.step hd

/-! ## 3. What a step does to a live row -/

/-- A delivery moves from `pending` to `sealed` to `accepted`, one stage at a time. -/
def ExposureRedemptionDelivery.Advances : ExposureRedemptionDelivery →
    ExposureRedemptionDelivery → Prop
  | pending, d => d = pending ∨ d = sealed
  | sealed, d => d = sealed ∨ d = accepted
  | accepted, d => d = accepted

theorem ExposureRedemptionDelivery.Advances.refl (d : ExposureRedemptionDelivery) :
    d.Advances d := by cases d <;> simp [Advances]

/-- **An edit never changes the fingerprint of a live exposure row.** Where it writes a row that was
live, it has found the fingerprint of the request in it. -/
theorem LiveClaims.decides_fingerprint {c : LiveClaims} {event : ClaimEvent}
    {response : ClaimResponse} {edit : Edit} (hd : Decides c event response edit) {E : String}
    {e e' : ExposureBindingRecord} (he : c.exposure E = some e)
    (he' : (edit.apply c).exposure E = some e') :
    e'.ticketFingerprint = e.ticketFingerprint := by
  have hkeep : c.exposure E = some e' → e'.ticketFingerprint = e.ticketFingerprint := by
    intro h
    rw [he] at h
    cases h
    rfl
  -- a row that is written anew was absent, or was bound to the ticket it is written with
  have hput : ∀ {E' F : String} {delivery : ExposureRedemptionDelivery} {x : Int},
      (∀ r, c.exposure E' = some r → r.ticketFingerprint = F) →
      Function.update c.exposure E' (some ⟨F, delivery, x⟩) E = some e' →
      e'.ticketFingerprint = e.ticketFingerprint := by
    intro E' F delivery x hF hup
    by_cases hE : E = E'
    · subst hE
      rw [Function.update_self] at hup
      cases hup
      exact (hF e he).symm
    · rw [Function.update_of_ne hE] at hup
      exact hkeep hup
  have hdrop : ∀ {E' : String}, Function.update c.exposure E' none E = some e' →
      e'.ticketFingerprint = e.ticketFingerprint := by
    intro E' hup
    by_cases hE : E = E'
    · subst hE
      simp at hup
    · rw [Function.update_of_ne hE] at hup
      exact hkeep hup
  cases hd with
  | acquire he₀ _ => exact hput (fun r hr => by simp [he₀] at hr) he'
  | rebind he₀ _ _ => exact hput (fun r hr => by simp [he₀] at hr) he'
  | sealPending he₀ hf _ _ _ =>
    refine hput (fun r hr => ?_) he'
    rw [he₀] at hr
    cases hr
    exact hf
  | acceptSealed he₀ hf _ _ _ =>
    refine hput (fun r hr => ?_) he'
    rw [he₀] at hr
    cases hr
    exact hf
  | dissolve => exact hdrop he'
  | dissolveExposure => exact hdrop he'
  | _ => exact hkeep he'

/-- **An edit moves a live ticket row forward, and never to another owner.** -/
theorem LiveClaims.Consistent.decides_ticket {c : LiveClaims} (h : c.Consistent)
    {event : ClaimEvent} {response : ClaimResponse} {edit : Edit}
    (hd : Decides c event response edit) {F : String} {t t' : TicketBindingRecord}
    (ht : c.ticket F = some t) (ht' : (edit.apply c).ticket F = some t') :
    t'.ownerExposureId = t.ownerExposureId ∧ t.delivery.Advances t'.delivery := by
  have hkeep : c.ticket F = some t' →
      t'.ownerExposureId = t.ownerExposureId ∧ t.delivery.Advances t'.delivery := by
    intro hsame
    rw [ht] at hsame
    cases hsame
    exact ⟨rfl, .refl _⟩
  have hput : ∀ {E F' : String} {delivery : ExposureRedemptionDelivery} {x : Int},
      (∀ r, c.ticket F' = some r → r.ownerExposureId = E ∧ r.delivery.Advances delivery) →
      Function.update c.ticket F' (some ⟨E, delivery, x⟩) F = some t' →
      t'.ownerExposureId = t.ownerExposureId ∧ t.delivery.Advances t'.delivery := by
    intro E F' delivery x hF hup
    by_cases hFF : F = F'
    · subst hFF
      rw [Function.update_self] at hup
      cases hup
      exact ⟨(hF t ht).1.symm, (hF t ht).2⟩
    · rw [Function.update_of_ne hFF] at hup
      exact hkeep hup
  cases hd with
  | acquire _ ht₀ => exact hput (fun r hr => by simp [ht₀] at hr) ht'
  | sealPending he hf hdel ht₀ ho =>
    refine hput (fun r hr => ?_) ht'
    rw [ht₀] at hr
    cases hr
    have hpend := (h.ticket_of_bound he hf ht₀).2.1.mpr hdel
    exact ⟨ho, by simp [hpend, ExposureRedemptionDelivery.Advances]⟩
  | @acceptSealed input e r he hf hdel ht₀ ho =>
    refine hput (fun r' hr => ?_) ht'
    rw [ht₀] at hr
    cases hr
    -- the owner's row mirrors the ticket, so the ticket is sealed as well
    have hmirror := h.owner _ _ ht₀
    rw [ho, he, Option.some.injEq] at hmirror
    have hsealed : r.delivery = .sealed := by rw [← hdel, hmirror]
    exact ⟨ho, by simp [hsealed, ExposureRedemptionDelivery.Advances]⟩
  | @dissolve input =>
    by_cases hFF : F = input.ticketFingerprint
    · subst hFF
      simp [Edit.apply] at ht'
    · simp only [Edit.apply, Function.update_of_ne hFF] at ht'
      exact hkeep ht'
  | _ => exact hkeep ht'

/-! ## 4. What the tables remember -/

/-- The run has answered a `markSealed` of `F` by `E` with success, at the instant whose claim
TTL ends at `expiresAt`. -/
def SealedBy (es : List ClaimEvent) (F E : String) (expiresAt : Int) : Prop :=
  ∃ pre input, pre ++ [.request .markSealed input] <+: es ∧
    input.ticketFingerprint = F ∧ input.exposureId = E ∧
    input.nowMs + EXPOSURE_REDEMPTION_CLAIM_TTL_MS = expiresAt ∧
    claimObject.out (claimObject.run pre) (.request .markSealed input) = .markSealed (.ok ())

theorem SealedBy.mono {es fs : List ClaimEvent} {F E : String} {x : Int}
    (h : SealedBy es F E x) (hp : es <+: fs) : SealedBy fs F E x := by
  obtain ⟨pre, input, hpre, hrest⟩ := h
  exact ⟨pre, input, hpre.trans hp, hrest⟩

/-- **A live row that is not pending proves an earlier successful seal**, and its expiry tells
when that was. -/
theorem sealed_history (es : List ClaimEvent) (hes : Machine.Timed ClaimEvent.nowMs es) :
    ∀ now, Machine.Before ClaimEvent.nowMs es now → ∀ F t,
      (claimObject.run es).ticketAt now F = some t → t.delivery ≠ .pending →
        SealedBy es F t.ownerExposureId t.expiresAt := by
  refine Machine.timed_induction ClaimEvent.nowMs
    (I := fun es now => ∀ F t, (claimObject.run es).ticketAt now F = some t →
      t.delivery ≠ .pending → SealedBy es F t.ownerExposureId t.expiresAt) ?_ ?_ ?_ es hes
  · intro now F t ht
    simp [ticketAt, claimObject, ClaimStorage.empty, ticketRow, age_eq_some] at ht
  · intro es t t' h hI F r hr
    obtain ⟨hrow, hlive⟩ := (age_eq_some _).mp hr
    exact hI F r ((age_eq_some _).mpr ⟨hrow, lt_of_le_of_lt h hlive⟩)
  · intro es event htimed hI F t' ht' hdel'
    have hes' := (Machine.timed_concat _).mp htimed
    have hcons := claimObject_consistent es hes'.1 event.nowMs hes'.2
    obtain ⟨edit, hd, hnow, _⟩ := claimObject_decides (claimObject.run es) event
    have hrow : ((claimObject.run (es ++ [event])).live event.nowMs).ticket F = some t' := ht'
    rw [Machine.run_concat, hnow] at hrow
    generalize hresp : claimObject.out (claimObject.run es) event = response at hd
    have hold : ((claimObject.run es).live event.nowMs).ticket F = some t' →
        SealedBy (es ++ [event]) F t'.ownerExposureId t'.expiresAt :=
      fun h => (hI F t' h hdel').mono (List.prefix_append _ _)
    cases hd with
    | @acquire input =>
      by_cases hF : F = input.ticketFingerprint
      · subst hF
        simp only [Edit.apply, Function.update_self, Option.some.injEq] at hrow
        subst hrow
        exact absurd rfl hdel'
      · simp only [Edit.apply, Function.update_of_ne hF] at hrow
        exact hold hrow
    | @sealPending input =>
      by_cases hF : F = input.ticketFingerprint
      · subst hF
        simp only [Edit.apply, Function.update_self, Option.some.injEq] at hrow
        subst hrow
        exact ⟨es, input, List.prefix_rfl, rfl, rfl, rfl, hresp⟩
      · simp only [Edit.apply, Function.update_of_ne hF] at hrow
        exact hold hrow
    | @acceptSealed input e t he hf hdel ht ho =>
      by_cases hF : F = input.ticketFingerprint
      · subst hF
        simp only [Edit.apply, Function.update_self, Option.some.injEq] at hrow
        subst hrow
        have hpast : t.delivery ≠ .pending := by
          rw [Ne, (hcons.ticket_of_bound he hf ht).2.1, hdel]
          simp
        exact ho ▸ (hI _ t ht hpast).mono (List.prefix_append _ _)
      · simp only [Edit.apply, Function.update_of_ne hF] at hrow
        exact hold hrow
    | @dissolve input =>
      by_cases hF : F = input.ticketFingerprint
      · subst hF
        simp [Edit.apply] at hrow
      · simp only [Edit.apply, Function.update_of_ne hF] at hrow
        exact hold hrow
    | _ => exact hold hrow

/-! ## 5. The binding of claims -/

/-- **Claim binding consistency.**  Whatever requests and sweeps came before:

* a live pending ticket is mirrored by its owner's row, and nobody else is pending on it;
* no step changes the fingerprint of a row that stays live;
* no step changes the owner of a ticket that stays live, and its delivery only advances;
* `resume_ack` goes to the owner of a live sealed ticket, and `deduplicated` is answered only
  over a live ticket row that an earlier successful `markSealed` has written. -/
theorem claim_binding_consistency (es : List ClaimEvent)
    (hes : Machine.Timed ClaimEvent.nowMs es) :
    (∀ now, Machine.Before ClaimEvent.nowMs es now → ∀ F t,
      (claimObject.run es).ticketAt now F = some t → t.delivery = .pending →
        (claimObject.run es).exposureAt now t.ownerExposureId
            = some ⟨F, .pending, t.expiresAt⟩ ∧
          ∀ E e, (claimObject.run es).exposureAt now E = some e → e.ticketFingerprint = F →
            e.delivery = .pending → E = t.ownerExposureId) ∧
    ∀ event, Machine.Before ClaimEvent.nowMs es event.nowMs →
      (∀ E e e', (claimObject.run es).exposureAt event.nowMs E = some e →
        (claimObject.run (es ++ [event])).exposureAt event.nowMs E = some e' →
          e'.ticketFingerprint = e.ticketFingerprint) ∧
      (∀ F t t', (claimObject.run es).ticketAt event.nowMs F = some t →
        (claimObject.run (es ++ [event])).ticketAt event.nowMs F = some t' →
          t'.ownerExposureId = t.ownerExposureId ∧ t.delivery.Advances t'.delivery) ∧
      (claimObject.out (claimObject.run es) event = .claim .resumeAck →
        ∃ input t, event = .request .claim input ∧
          (claimObject.run es).ticketAt input.nowMs input.ticketFingerprint = some t ∧
          t.delivery = .sealed ∧ t.ownerExposureId = input.exposureId) ∧
      (claimObject.out (claimObject.run es) event = .claim .deduplicated →
        ∃ input t, event = .request .claim input ∧
          (claimObject.run es).ticketAt input.nowMs input.ticketFingerprint = some t ∧
          t.delivery ≠ .pending ∧
          SealedBy es input.ticketFingerprint t.ownerExposureId t.expiresAt) := by
  refine ⟨fun now hnow F t ht hd => ?_, fun event hb => ?_⟩
  · have hcons := claimObject_consistent es hes now hnow
    have howner := hcons.owner F t ht
    rw [hd] at howner
    exact ⟨howner, fun E e he hf hde => hcons.pending_alone howner rfl rfl he hf⟩
  · have hcons := claimObject_consistent es hes event.nowMs hb
    obtain ⟨edit, hd, hnow, _⟩ := claimObject_decides (claimObject.run es) event
    rw [← Machine.run_concat] at hnow
    refine ⟨fun E e e' he he' => ?_, fun F t t' ht ht' => ?_, fun hr => ?_, fun hr => ?_⟩
    · have hnew : ((claimObject.run (es ++ [event])).live event.nowMs).exposure E = some e' := he'
      rw [hnow] at hnew
      exact LiveClaims.decides_fingerprint hd he hnew
    · have hnew : ((claimObject.run (es ++ [event])).live event.nowMs).ticket F = some t' := ht'
      rw [hnow] at hnew
      exact hcons.decides_ticket hd ht hnew
    · rw [hr] at hd
      cases hd with
      | @resume input e t he hf hdel ht ho =>
        have hmirror := hcons.owner _ _ ht
        rw [ho, he, Option.some.injEq] at hmirror
        exact ⟨input, t, rfl, ht, by rw [← hdel, hmirror], ho⟩
      | refuse ho => simp at ho
    · rw [hr] at hd
      have hsealed := sealed_history es hes event.nowMs hb
      cases hd with
      | @rebind input t he ht hdel => exact ⟨input, t, rfl, ht, hdel, hsealed _ t ht hdel⟩
      | @deduplicate input e he hf hdel =>
        obtain ⟨t, ht, _, hp, _⟩ := hcons.bound _ e he
        rw [hf] at ht
        have htd : t.delivery ≠ .pending := fun h => hdel (hp.mp h)
        exact ⟨input, t, rfl, ht, htd, hsealed _ t ht htd⟩
      | refuse ho => simp at ho

/-- A second exposureId joins a sealed ticket, and the answer it gets is backed by the seal. -/
theorem claim_binding_consistency_rebound :
    ∃ t, (claimObject.run [.request .claim ⟨"e1", "f", 0⟩,
        .request .markSealed ⟨"e1", "f", 5⟩]).ticketAt 10 "f" = some t ∧ t.delivery ≠ .pending ∧
      SealedBy [.request .claim ⟨"e1", "f", 0⟩, .request .markSealed ⟨"e1", "f", 5⟩] "f"
        t.ownerExposureId t.expiresAt := by
  obtain ⟨input, t, heq, ht, hd, hs⟩ :=
    ((claim_binding_consistency [.request .claim ⟨"e1", "f", 0⟩,
      .request .markSealed ⟨"e1", "f", 5⟩] (by simp [Machine.Timed, ClaimEvent.nowMs])).2
        (.request .claim ⟨"e2", "f", 10⟩)
        (by simp [Machine.Before, ClaimEvent.nowMs])).2.2.2 (by decide +kernel)
  cases heq
  exact ⟨t, ht, hd, hs⟩

end Splitch
