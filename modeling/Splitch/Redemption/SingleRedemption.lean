/-
# How long a sealed claim outlives its ticket

A sealed claim is what stops a ticket from being redeemed again, and it is kept for
`EXPOSURE_REDEMPTION_CLAIM_TTL_MS` from the instant it was SEALED.  The ticket is accepted for
`EXPOSURE_TICKET_TTL_MS` from the instant it was ISSUED.  Both are twenty-four hours, but the
claim is gone AT the end of its span (`expiresAt <= now`) while the ticket is still accepted at
the end of its own (`now - issued_at > TTL` rejects), and a ticket may carry an `issued_at` up to
five minutes ahead of the clock that seals it.

So a claim covers its ticket exactly when the ticket was issued strictly before the seal:
`single_redemption_iff`.
-/
import Splitch.Redemption.ClaimBinding
import Splitch.Redemption.ClaimEffects
import Splitch.Redemption.Ticket

namespace Splitch

open Expiring ClaimStorage

/-! ## 1. A redeemed ticket stays redeemed until its claim expires -/

/-- An edit keeps a live ticket that is past its pending phase, and its expiry. -/
theorem LiveClaims.Consistent.decides_redeemed {c : LiveClaims} (h : c.Consistent)
    {event : ClaimEvent} {response : ClaimResponse} {edit : Edit}
    (hd : Decides c event response edit) {F : String} {t : TicketBindingRecord}
    (ht : c.ticket F = some t) (hdel : t.delivery ≠ .pending) :
    ∃ t', (edit.apply c).ticket F = some t' ∧ t'.delivery ≠ .pending ∧
      t'.expiresAt = t.expiresAt := by
  have hother : ∀ {F' : String} {row : Option TicketBindingRecord}, F ≠ F' →
      ∃ t', Function.update c.ticket F' row F = some t' ∧ t'.delivery ≠ .pending ∧
        t'.expiresAt = t.expiresAt := by
    intro F' row hne
    exact ⟨t, by rw [Function.update_of_ne hne, ht], hdel, rfl⟩
  cases hd with
  | acquire _ ht₀ =>
    refine hother fun hF => ?_
    rw [← hF, ht] at ht₀
    exact Option.some_ne_none _ ht₀
  | sealPending he hf hpend ht₀ _ =>
    refine hother fun hF => hdel ?_
    rw [← hF] at hf
    exact (h.ticket_of_bound he hf ht).2.1.mpr hpend
  | @acceptSealed input e r he hf hs ht₀ _ =>
    by_cases hF : F = input.ticketFingerprint
    · subst hF
      rw [ht] at ht₀
      cases ht₀
      exact ⟨⟨_, .accepted, t.expiresAt⟩, Function.update_self .., by simp, rfl⟩
    · exact hother hF
  | dissolve _ _ _ ht₀ _ hpend =>
    refine hother fun hF => hdel ?_
    rw [← hF, ht] at ht₀
    cases ht₀
    exact hpend
  | _ => exact ⟨t, ht, hdel, rfl⟩

/-- **A redeemed ticket stays redeemed**: whatever happens next, its row stands until it expires. No
decision moves a row that is sealed back to pending or gives it another expiry, and ticks spare what
is live. -/
theorem redeemed_until_expiry {es cont : List ClaimEvent}
    (hes : Machine.Timed ClaimEvent.nowMs (es ++ cont)) {F : String} {x : Int}
    (hbase : ∀ t, Machine.Before ClaimEvent.nowMs es t → t < x →
      ∃ r, (claimObject.run es).ticketAt t F = some r ∧ r.delivery ≠ .pending ∧
        r.expiresAt = x) {t : Int}
    (hb : Machine.Before ClaimEvent.nowMs (es ++ cont) t) (hx : t < x) :
    ∃ r, (claimObject.run (es ++ cont)).ticketAt t F = some r ∧ r.delivery ≠ .pending ∧
      r.expiresAt = x := by
  induction cont using List.reverseRecOn generalizing t with
  | nil =>
    rw [List.append_nil] at hb ⊢
    exact hbase t hb hx
  | append_singleton cont event ih =>
    rw [← List.append_assoc] at hes hb ⊢
    obtain ⟨hes', hb'⟩ := (Machine.timed_concat _).mp hes
    have hlast : event.nowMs ≤ t := hb event (by simp)
    obtain ⟨r, hr, hdel, hrx⟩ := ih hes' hb' (lt_of_le_of_lt hlast hx)
    have hcons := claimObject_consistent (es ++ cont) hes' event.nowMs hb'
    obtain ⟨edit, hd, _, hlater⟩ := claimObject_decides (claimObject.run (es ++ cont)) event
    obtain ⟨r', hr', hdel', hrx'⟩ := hcons.decides_redeemed hd hr hdel
    refine ⟨r', ?_, hdel', hrx'.trans hrx⟩
    have hrow : ((claimObject.run (es ++ cont ++ [event])).live t).ticket F = some r' := by
      rw [Machine.run_concat, hlater t hlast]
      exact (age_eq_some _).mpr ⟨hr', by rw [hrx', hrx]; exact hx⟩
    exact hrow

/-! ## 2. What a successful seal leaves behind -/

/-- The instant at which the claim behind a successful `markSealed` was sealed: this one, or the
earlier one when the claim was sealed already. -/
def sealInstant (st : ClaimStorage) (input : ClaimInput) : Int :=
  match st.ticketAt input.nowMs input.ticketFingerprint with
  | some t =>
    if t.delivery = .pending then input.nowMs
    else t.expiresAt - EXPOSURE_REDEMPTION_CLAIM_TTL_MS
  | none => input.nowMs

/-- After a successful seal both rows are live, past their pending phase, and expire one claim
TTL after the seal instant. -/
theorem markSealed_leaves {pre : List ClaimEvent} {input : ClaimInput}
    (hes : Machine.Timed ClaimEvent.nowMs (pre ++ [.request .markSealed input]))
    (hok : claimObject.out (claimObject.run pre) (.request .markSealed input)
      = .markSealed (.ok ())) :
    ∃ r e, (claimObject.run (pre ++ [.request .markSealed input])).ticketAt input.nowMs
        input.ticketFingerprint = some r ∧ r.delivery ≠ .pending ∧
      r.expiresAt = sealInstant (claimObject.run pre) input + EXPOSURE_REDEMPTION_CLAIM_TTL_MS ∧
      (claimObject.run (pre ++ [.request .markSealed input])).exposureAt input.nowMs
        input.exposureId = some e ∧ e.expiresAt = r.expiresAt := by
  obtain ⟨hpre, hb⟩ := (Machine.timed_concat _).mp hes
  have hcons := claimObject_consistent pre hpre _ hb
  obtain ⟨edit, hd, hnow, _⟩ :=
    claimObject_decides (claimObject.run pre) (.request .markSealed input)
  rw [← Machine.run_concat] at hnow
  simp only [ClaimEvent.nowMs] at hd hnow hcons
  have hrow : (claimObject.run (pre ++ [.request .markSealed input])).ticketAt input.nowMs
      = ((claimObject.run (pre ++ [.request .markSealed input])).live input.nowMs).ticket := rfl
  have herow : (claimObject.run (pre ++ [.request .markSealed input])).exposureAt input.nowMs
      = ((claimObject.run (pre ++ [.request .markSealed input])).live input.nowMs).exposure := rfl
  have hold : (claimObject.run pre).ticketAt input.nowMs
      = ((claimObject.run pre).live input.nowMs).ticket := rfl
  rw [hrow, herow, hnow, sealInstant, hold]
  rw [hok] at hd
  cases hd with
  | @sealPending _ e t he hf hpend ht _ =>
    have htd : t.delivery = .pending := (hcons.ticket_of_bound he hf ht).2.1.mpr hpend
    refine ⟨_, _, Function.update_self .., by simp, ?_, Function.update_self .., rfl⟩
    simp [ht, htd]
  | @sealAgain _ e he hf hdel =>
    obtain ⟨t, ht, hx, hp, _⟩ := hcons.bound _ e he
    rw [hf] at ht
    have htd : t.delivery ≠ .pending := fun h => hdel (hp.mp h)
    refine ⟨t, e, ht, htd, ?_, he, hx.symm⟩
    simp [ht, htd]

/-! ## 3. The exact condition -/

/-- From the state `es` leaves on, no claim of `F` is acquired while the ticket is accepted. -/
def RedeemedForGood (platform : TicketPlatform) (deps : VerifyExposureTicketDeps)
    (ticket : String) (es : List ClaimEvent) (F : String) : Prop :=
  ∀ cont E now, Machine.Timed ClaimEvent.nowMs (es ++ cont) →
    Machine.Before ClaimEvent.nowMs (es ++ cont) now →
    TicketAccepted platform deps ticket now →
    claimObject.out (claimObject.run (es ++ cont)) (.request .claim ⟨E, F, now⟩)
      ≠ .claim .acquired

/-- **A sealed ticket is redeemed for good exactly when it was issued before it was sealed.**
A ticket whose `issued_at` is the seal instant, or later than it by clock skew, outlives the
claim that should have stopped its second redemption. -/
theorem single_redemption_iff (platform : TicketPlatform) (deps : VerifyExposureTicketDeps)
    (ticket : String) (pre : List ClaimEvent) (input : ClaimInput)
    (hes : Machine.Timed ClaimEvent.nowMs (pre ++ [.request .markSealed input]))
    (hok : claimObject.out (claimObject.run pre) (.request .markSealed input)
      = .markSealed (.ok ())) :
    RedeemedForGood platform deps ticket (pre ++ [.request .markSealed input])
        input.ticketFingerprint ↔
      ∀ issuedAtMs, TicketIssuedAt platform deps ticket issuedAtMs →
        issuedAtMs < sealInstant (claimObject.run pre) input := by
  obtain ⟨r, e, hr, hdel, hrx, he, hex⟩ := markSealed_leaves hes hok
  have hlive : input.nowMs < r.expiresAt := ((age_eq_some _).mp hr).2
  constructor
  · intro hgood issuedAtMs hissued
    by_contra hlate
    -- one ticket TTL after its issue the ticket is still accepted, and both rows are gone
    have hx : r.expiresAt ≤ issuedAtMs + EXPOSURE_TICKET_TTL_MS := by
      rw [hrx]
      exact Int.add_le_add_right (not_lt.mp hlate) _
    have hb : Machine.Before ClaimEvent.nowMs (pre ++ [.request .markSealed input] ++ [])
        (issuedAtMs + EXPOSURE_TICKET_TTL_MS) := by
      rw [List.append_nil]
      intro event hmem
      have hle : event.nowMs ≤ input.nowMs := by
        rcases List.mem_append.mp hmem with h | h
        · exact ((Machine.timed_concat _).mp hes).2 event h
        · rw [List.mem_singleton.mp h]
          exact le_rfl
      exact hle.trans (hlive.le.trans hx)
    refine hgood [] input.exposureId _ (by rwa [List.append_nil]) hb ?_ ?_
    · refine ticketAccepted_iff.mpr ⟨issuedAtMs, hissued, by omega, ?_⟩
      simp only [EXPOSURE_TICKET_TTL_MS, TICKET_FUTURE_SKEW_MS]
      omega
    · rw [List.append_nil]
      refine acquired_of_none ?_ ?_
      · refine (age_eq_none _).mpr fun e' he' => ?_
        rw [((age_eq_some _).mp he).1] at he'
        cases he'
        exact hex ▸ hx
      · refine (age_eq_none _).mpr fun r' hr' => ?_
        rw [((age_eq_some _).mp hr).1] at hr'
        cases hr'
        exact hx
  · intro hissue cont E now htimed hb haccepted
    obtain ⟨issuedAtMs, hissued, hage, _⟩ := ticketAccepted_iff.mp haccepted
    have hnow : now < r.expiresAt := by
      have := hissue issuedAtMs hissued
      rw [hrx]
      have httl : EXPOSURE_TICKET_TTL_MS = EXPOSURE_REDEMPTION_CLAIM_TTL_MS := rfl
      omega
    obtain ⟨r', hr', _⟩ := redeemed_until_expiry htimed (x := r.expiresAt)
      (fun t ht htx => ⟨r, (age_eq_some _).mpr ⟨((age_eq_some _).mp hr).1, htx⟩, hdel, rfl⟩)
      hb hnow
    exact not_acquired_of_ticket hr'

/-! ## 4. The boundary is reachable -/

/-- A platform on which the ticket `payload.mac` carries the `issued_at` of the turn of a year. -/
def turnOfYearPlatform : TicketPlatform where
  sign _ _ := "mac"
  parseRecord _ := some fun field =>
    some (if field = "issued_at" then "2026-01-01T00:00:00.000Z" else field)
  dateParse text := if text = "2026-01-01T00:00:00.000Z" then some 1767225600000 else none

/-- The payload of that ticket. -/
def turnOfYearPayload : ExposureTicketPayload where
  app_id := "app_id"
  environment_id := "environment_id"
  experiment_id := "experiment_id"
  run_id := "run_id"
  flag_key := "flag_key"
  variant := "variant"
  id_type := "id_type"
  targeting_key_hash := "targeting_key_hash"
  entity_family_hash := "entity_family_hash"
  identity_version := "identity_version"
  issued_at := "2026-01-01T00:00:00.000Z"

def turnOfYearDeps : VerifyExposureTicketDeps where
  ticketKey := "0123456789abcdef0123456789abcdef"
  previousTicketKey := none

/-- **A ticket sealed at its very `issued_at` is acquired again while it is still accepted**:
twenty-four hours later the claim has expired and the ticket has not. -/
theorem single_redemption_boundary :
    ¬ ∀ (platform : TicketPlatform) (deps : VerifyExposureTicketDeps) (ticket : String)
        (pre : List ClaimEvent) (input : ClaimInput),
      Machine.Timed ClaimEvent.nowMs (pre ++ [.request .markSealed input]) →
      claimObject.out (claimObject.run pre) (.request .markSealed input) = .markSealed (.ok ()) →
      RedeemedForGood platform deps ticket (pre ++ [.request .markSealed input])
        input.ticketFingerprint := by
  intro h
  have hgood := h turnOfYearPlatform turnOfYearDeps "payload.mac"
    [.request .claim ⟨"exposure-1", "fp", 1767225600000⟩] ⟨"exposure-1", "fp", 1767225600000⟩
    (by simp [Machine.Timed, ClaimEvent.nowMs]) (by decide +kernel)
  refine hgood [] "exposure-2" 1767312000000 (by simp [Machine.Timed, ClaimEvent.nowMs])
    (by simp [Machine.Before, ClaimEvent.nowMs]) ?_ (by decide +kernel)
  exact ticketAccepted_iff.mpr ⟨1767225600000,
    ⟨by decide +kernel, turnOfYearPayload, by decide +kernel, by decide +kernel⟩,
    by decide, by decide⟩

/-- The same ticket, sealed one second after its issue, is redeemed for good. -/
theorem single_redemption_one_second_later :
    RedeemedForGood turnOfYearPlatform turnOfYearDeps "payload.mac"
      [.request .claim ⟨"exposure-1", "fp", 1767225601000⟩,
        .request .markSealed ⟨"exposure-1", "fp", 1767225601000⟩] "fp" := by
  refine (single_redemption_iff turnOfYearPlatform turnOfYearDeps "payload.mac"
    [.request .claim ⟨"exposure-1", "fp", 1767225601000⟩]
    ⟨"exposure-1", "fp", 1767225601000⟩ (by simp [Machine.Timed, ClaimEvent.nowMs])
    (by decide +kernel)).mpr ?_
  have hseal : sealInstant (claimObject.run [.request .claim ⟨"exposure-1", "fp", 1767225601000⟩])
      ⟨"exposure-1", "fp", 1767225601000⟩ = 1767225601000 := by decide +kernel
  rintro issuedAtMs ⟨_, payload, _, hparse⟩
  rw [hseal]
  simp only [turnOfYearPlatform] at hparse
  split at hparse
  · cases hparse
    decide
  · cases hparse

end Splitch
