/-
# The transfer of a demo Organization

A call of `completeClaim` is one batch of statements, each of which is guarded: it tests again what the one
that acquires the Organization tests, on tables that the earlier statements have changed.  Two things could
go wrong.  A guard may fail late, when the Organization has changed hands already; and two calls may both be
told that they have claimed it.

A call whose guard fails at the start changes nothing (`completeClaim_of_not_acquires`).  One whose guard
holds runs to its end (`completeClaim_of_acquires`), since each statement leaves what the later guards test:
they look for the Organization under the call's own token and for a verification and a consent that were
given, and to consume these takes neither away.  What the tables are afterwards is one function of what they
were (`transferred`), and each table has a lemma that says what it has become.

In a run of calls and other statements at most one call for an Organization returns true: it leaves the
Organization permanent, and a permanent one is acquired by nobody.  And every call does what it promises
just when every call meets `TransferWhole` (`demo_claim_transfers`), which is a condition on the tables
before it.

The condition fails in one way.  A provisional user who verifies her own address claims from herself: the
overlapping memberships are deleted, being the claimant's, and then there are none to hand over
(`claimed_by_itself`).
-/
import Splitch.DemoClaim.MembershipTransfer

namespace Splitch

namespace DemoClaim

open ClaimDatabase

/-! ## 1. What a call promises -/

/-- The primary keys that a transfer rests on. -/
structure Keyed (db : ClaimDatabase) : Prop where
  organizations : (db.organizations.map (·.id)).Nodup
  apps : (db.apps.map (·.id)).Nodup
  orgMemberships : KeyedMemberships db.orgMemberships
  appMemberships : KeyedMemberships db.appMemberships

/-- The Organization and each of its Apps have an owner. -/
def OrganizationOwned (db : ClaimDatabase) (orgId : String) : Prop :=
  Owned db.orgMemberships orgId ∧
    ∀ app ∈ db.apps, app.organizationId = orgId → Owned db.appMemberships app.id

/-- What a call that returns true has done. -/
structure Transferred (before after : ClaimDatabase) (input : CompleteClaimInput) : Prop where
  permanent : ∃ row ∈ after.organizations, row.id = input.orgId ∧ row.isProvisional = false
  verification : ∀ row ∈ after.claimVerifications, row.id = input.verificationId →
    row.consumedAt ≠ none
  consent : ∀ id ∈ input.consent, ∀ row ∈ after.claimConsentAttempts, row.id = id →
    row.consumedAt ≠ none
  reservation : ∃ row ∈ after.claimIdempotency, ofKey input.keyHash input.hashes row = true ∧
    row.completedAt ≠ none
  orgLeft : ∀ row ∈ after.orgMemberships, row.scopeId = input.orgId →
    row.userId ≠ input.provisionalUserId
  appsLeft : ∀ row ∈ after.appMemberships, before.ofOrganization input row.scopeId = true →
    row.userId ≠ input.provisionalUserId
  keyed : Keyed after
  others : ∀ row : MembershipRow, row.userId ≠ input.provisionalUserId →
    row.userId ≠ input.verifiedUserId →
      (row ∈ after.orgMemberships ↔ row ∈ before.orgMemberships) ∧
      (row ∈ after.appMemberships ↔ row ∈ before.appMemberships)
  owned : OrganizationOwned after input.orgId

/-- A call that returns false changes nothing, and one that returns true transfers. -/
def KeepsPromise (db : ClaimDatabase) : ClaimEvent → Prop
  | .completeClaim input =>
    ((db.run (.completeClaim input)).1 = false → (db.run (.completeClaim input)).2 = db) ∧
      ((db.run (.completeClaim input)).1 = true →
        Transferred db (db.run (.completeClaim input)).2 input)
  | _ => True

/-! ## 2. When it keeps it -/

/-- The guard of the acquisition, on the Organization that it sets. -/
def Acquires (db : ClaimDatabase) (input : CompleteClaimInput) : Prop :=
  ∃ row ∈ db.organizations, db.acquirable input row = true

/-- The reservation of the call is there, and completed or of its verification; and the provisional
user is nowhere the only owner beside a membership of the verified user. -/
structure TransferWhole (db : ClaimDatabase) (input : CompleteClaimInput) : Prop where
  reservation : ∃ row ∈ db.claimIdempotency, ofKey input.keyHash input.hashes row = true ∧
    (row.completedAt ≠ none ∨ row.verificationId = input.verificationId)
  org : KeepsOwner db.orgMemberships input.orgId input.provisionalUserId input.verifiedUserId
  apps : ∀ app ∈ db.apps, app.organizationId = input.orgId →
    KeepsOwner db.appMemberships app.id input.provisionalUserId input.verifiedUserId

def MeetsGuard (db : ClaimDatabase) : ClaimEvent → Prop
  | .completeClaim input => Acquires db input → TransferWhole db input
  | _ => True

/-! ## 3. A call that acquires nothing -/

section

variable {db : ClaimDatabase} {input : CompleteClaimInput}

/-- The token of the call is not stored. -/
def Unused (db : ClaimDatabase) (token : String) : Prop :=
  ∀ row ∈ db.organizations, row.claimAcquisitionToken ≠ some token

theorem updateRows_eq_self {α : Type} {rows : List α} {hits : α → Bool} {set : α → α}
    (h : ∀ row ∈ rows, hits row = false) : updateRows rows hits set = (0, rows) := by
  unfold updateRows
  refine Prod.ext (List.countP_eq_zero.mpr fun row hrow => by simp [h row hrow]) ?_
  exact (List.map_congr_left fun row hrow => by simp [h row hrow]).trans (List.map_id rows)

theorem acquiredGuard_eq_false (hunused : Unused db input.acquisitionToken) :
    db.acquiredGuard input = false := by
  unfold acquiredGuard
  rw [Bool.and_eq_false_iff, Bool.and_eq_false_iff]
  refine .inl (.inl (List.any_eq_false.mpr fun row hrow h => ?_))
  exact hunused row hrow (of_decide_eq_true h).2.2

theorem completeClaim_of_not_acquires (hkeyed : Keyed db)
    (hunused : Unused db input.acquisitionToken) (h : ¬ Acquires db input) :
    db.completeClaim input = some (false, db) := by
  have hacquire : db.acquireOrganization input = (0, db) := by
    unfold acquireOrganization
    rw [updateRows_eq_self fun row hrow => Bool.eq_false_iff.mpr fun hset => h ⟨row, hrow, hset⟩]
  have hguard := acquiredGuard_eq_false hunused
  have horgs : db.transferOrgMemberships input = some db := by
    have hnodup := hkeyed.orgMemberships
    unfold KeyedMemberships at hnodup
    simp [transferOrgMemberships, hguard, hnodup]
  have happs : db.transferAppMemberships input = some db := by
    have hnodup := hkeyed.appMemberships
    unfold KeyedMemberships at hnodup
    simp [transferAppMemberships, hguard, hnodup]
  have hverification : db.consumeVerification input = db := by
    unfold consumeVerification
    rw [updateRows_eq_self fun row _ => by simp [hguard]]
  have hconsent : db.consumeConsent input = db := by
    unfold consumeConsent
    split
    · rfl
    · rw [updateRows_eq_self fun row _ => by simp [hguard]]
  have hreservation : db.completeReservation input = db := by
    unfold completeReservation
    rw [updateRows_eq_self fun row _ => by simp [hguard]]
  have hkey : db.clearAcquisitionKey input = db := by
    unfold clearAcquisitionKey
    rw [updateRows_eq_self fun row hrow => ?_]
    exact decide_eq_false fun hset => hunused row hrow hset.2
  simp [completeClaim, hacquire, horgs, happs, hverification, hconsent, hreservation, hkey]

/-! ## 4. A call that acquires the Organization -/

theorem consumeConsent_eq (db : ClaimDatabase) (input : CompleteClaimInput) :
    db.consumeConsent input =
      { db with claimConsentAttempts := (db.consumeConsent input).claimConsentAttempts } := by
  unfold consumeConsent
  split <;> rfl

/-- What the guard reads, the consumption of the verification leaves. -/
theorem acquiredGuard_consumeVerification :
    (db.consumeVerification input).acquiredGuard input = db.acquiredGuard input := by
  unfold acquiredGuard consumeVerification updateRows
  simp only [List.any_map]
  congr 3
  funext row
  simp only [Function.comp_apply]
  split <;> rfl

theorem acquiredGuard_consumeConsent :
    (db.consumeConsent input).acquiredGuard input = db.acquiredGuard input := by
  unfold consumeConsent
  split
  · rfl
  · unfold acquiredGuard updateRows
    simp only [List.any_map]
    congr 3
    funext id
    congr 1
    funext row
    simp only [Function.comp_apply]
    split <;> rfl

theorem transferOrgMemberships_eq (hguard : db.acquiredGuard input = true)
    (hkeyed : KeyedMemberships db.orgMemberships) :
    db.transferOrgMemberships input = some
      { db with
        orgMemberships := handOver db.orgMemberships (fun scopeId => scopeId = input.orgId)
          input.provisionalUserId input.verifiedUserId } := by
  have hkept (rows : List MembershipRow) :
      acquiredGuard { db with orgMemberships := rows } input = true := hguard
  unfold transferOrgMemberships
  dsimp only
  rw [if_pos hguard, if_pos (hkept _)]
  exact if_pos (keyed_handOver hkeyed)

theorem transferAppMemberships_eq (hguard : db.acquiredGuard input = true)
    (hkeyed : KeyedMemberships db.appMemberships) :
    db.transferAppMemberships input = some
      { db with
        appMemberships := handOver db.appMemberships (db.ofOrganization input)
          input.provisionalUserId input.verifiedUserId } := by
  have hkept (rows : List MembershipRow) :
      acquiredGuard { db with appMemberships := rows } input = true := hguard
  unfold transferAppMemberships
  dsimp only
  rw [if_pos hguard, if_pos (hkept _)]
  exact if_pos (keyed_handOver hkeyed)

/-- Both tables of memberships after a transfer. -/
def handedOver (db : ClaimDatabase) (input : CompleteClaimInput) : ClaimDatabase :=
  { (db.acquireOrganization input).2 with
    orgMemberships := handOver db.orgMemberships (fun scopeId => scopeId = input.orgId)
      input.provisionalUserId input.verifiedUserId
    appMemberships := handOver db.appMemberships (db.ofOrganization input)
      input.provisionalUserId input.verifiedUserId }

/-- The tables after a call that acquires the Organization. -/
def transferred (db : ClaimDatabase) (input : CompleteClaimInput) : ClaimDatabase :=
  ((((handedOver db input).consumeVerification input).consumeConsent input).completeReservation
    input).clearAcquisitionKey input

/-- The acquisition leaves what the later guards test. -/
theorem acquiredGuard_acquireOrganization (h : Acquires db input) :
    (db.acquireOrganization input).2.acquiredGuard input = true := by
  obtain ⟨row, hrow, hset⟩ := h
  obtain ⟨hid, -, -, hverification, hconsent, -⟩ := of_decide_eq_true hset
  unfold acquiredGuard
  rw [Bool.and_eq_true, Bool.and_eq_true]
  refine ⟨⟨?_, ?_⟩, ?_⟩
  · refine List.any_eq_true.mpr ⟨_, List.mem_map.mpr ⟨row, hrow, if_pos hset⟩, ?_⟩
    exact decide_eq_true ⟨hid, rfl, rfl⟩
  · obtain ⟨found, hmem, hfound⟩ := List.any_eq_true.mp hverification
    obtain ⟨hfid, hhashes, hverified, -, hlive⟩ := of_decide_eq_true hfound
    exact List.any_eq_true.mpr ⟨found, hmem, decide_eq_true ⟨hfid, hhashes, hverified, hlive⟩⟩
  · unfold consentGuard at hconsent
    cases hgiven : input.consent with
    | none => rfl
    | some id =>
      rw [hgiven] at hconsent
      obtain ⟨found, hmem, hfound⟩ := List.any_eq_true.mp hconsent
      obtain ⟨hfid, hof, happroved, -⟩ := of_decide_eq_true hfound
      exact List.any_eq_true.mpr ⟨found, hmem, decide_eq_true ⟨hfid, hof, happroved⟩⟩

theorem acquireOrganization_changes (hkeyed : Keyed db) (h : Acquires db input) :
    (db.acquireOrganization input).1 = 1 := by
  obtain ⟨row, hrow, hset⟩ := h
  have hsome : 0 < db.organizations.countP (db.acquirable input) :=
    List.countP_pos_iff.mpr ⟨row, hrow, hset⟩
  have hone : db.organizations.countP (db.acquirable input) ≤ 1 := by
    calc db.organizations.countP (db.acquirable input)
        ≤ db.organizations.countP fun row => row.id == input.orgId := by
          refine List.countP_mono_left fun row _ hset => ?_
          exact beq_iff_eq.mpr (of_decide_eq_true hset).1
      _ = (db.organizations.map (·.id)).count input.orgId := by
          rw [List.count, List.countP_map]
          rfl
      _ ≤ 1 := List.nodup_iff_count_le_one.mp hkeyed.organizations _
  exact le_antisymm hone hsome

theorem completeClaim_of_acquires (hkeyed : Keyed db) (h : Acquires db input) :
    db.completeClaim input = some (true, transferred db input) := by
  have hguard := acquiredGuard_acquireOrganization h
  obtain ⟨orgs, horgs, happs⟩ : ∃ orgs,
      (db.acquireOrganization input).2.transferOrgMemberships input = some orgs ∧
        orgs.transferAppMemberships input = some (handedOver db input) :=
    ⟨_, transferOrgMemberships_eq hguard hkeyed.orgMemberships,
      transferAppMemberships_eq hguard hkeyed.appMemberships⟩
  have hchanges := acquireOrganization_changes hkeyed h
  unfold completeClaim
  rw [show db.acquireOrganization input = (1, (db.acquireOrganization input).2) from
    Prod.ext hchanges rfl]
  dsimp only
  rw [horgs]
  dsimp only [bind, Option.bind]
  rw [happs]
  rfl

/-! ## 5. What a transfer has done -/

theorem organizations_transferred : (transferred db input).organizations =
    (updateRows (db.acquireOrganization input).2.organizations
      (fun row => row.id = input.orgId ∧ row.claimAcquisitionToken = some input.acquisitionToken)
      fun row => { row with claimAcquisitionKeyHash := none }).2 := by
  unfold transferred
  rw [consumeConsent_eq]
  rfl

theorem orgMemberships_transferred : (transferred db input).orgMemberships =
    handOver db.orgMemberships (fun scopeId => scopeId = input.orgId) input.provisionalUserId
      input.verifiedUserId := by
  unfold transferred
  rw [consumeConsent_eq]
  rfl

theorem apps_transferred (db : ClaimDatabase) (input : CompleteClaimInput) :
    (transferred db input).apps = db.apps := by
  unfold transferred
  rw [consumeConsent_eq]
  rfl

theorem appMemberships_transferred : (transferred db input).appMemberships =
    handOver db.appMemberships (db.ofOrganization input) input.provisionalUserId
      input.verifiedUserId := by
  unfold transferred
  rw [consumeConsent_eq]
  rfl

/-- The rows of an Organization before and after a transfer have the same ids. -/
theorem ids_transferred (db : ClaimDatabase) (input : CompleteClaimInput) :
    (transferred db input).organizations.map (·.id) = db.organizations.map (·.id) := by
  rw [organizations_transferred]
  unfold acquireOrganization updateRows
  dsimp only
  rw [List.map_map, List.map_map]
  refine List.map_congr_left fun row _ => ?_
  simp only [Function.comp_apply]
  split <;> split <;> rfl

theorem keyed_transferred (hkeyed : Keyed db) : Keyed (transferred db input) where
  organizations := (ids_transferred db input).symm ▸ hkeyed.organizations
  apps := apps_transferred db input ▸ hkeyed.apps
  orgMemberships := orgMemberships_transferred ▸ keyed_handOver hkeyed.orgMemberships
  appMemberships := appMemberships_transferred ▸ keyed_handOver hkeyed.appMemberships

theorem ofOrganization_iff {appId : String} : db.ofOrganization input appId = true ↔
    ∃ app ∈ db.apps, app.id = appId ∧ app.organizationId = input.orgId := by
  unfold ofOrganization
  rw [List.any_eq_true]
  simp only [decide_eq_true_eq]

/-- **Who owns the Organization after a transfer.** -/
theorem owned_transferred_iff (howned : OrganizationOwned db input.orgId) :
    OrganizationOwned (transferred db input) input.orgId ↔
      KeepsOwner db.orgMemberships input.orgId input.provisionalUserId input.verifiedUserId ∧
        ∀ app ∈ db.apps, app.organizationId = input.orgId →
          KeepsOwner db.appMemberships app.id input.provisionalUserId input.verifiedUserId := by
  unfold OrganizationOwned
  rw [orgMemberships_transferred, apps_transferred, appMemberships_transferred,
    owned_handOver_iff howned.1 (decide_eq_true rfl)]
  refine and_congr_right fun _ => forall₂_congr fun app happ => forall_congr' fun horg => ?_
  exact owned_handOver_iff (howned.2 app happ horg)
    (ofOrganization_iff.mpr ⟨app, happ, rfl, horg⟩)

/-- A transfer leaves the other Organizations their owners. -/
theorem owned_transferred_of_ne (hkeyed : Keyed db) {orgId : String} (hother : orgId ≠ input.orgId)
    (howned : OrganizationOwned db orgId) : OrganizationOwned (transferred db input) orgId := by
  unfold OrganizationOwned
  rw [orgMemberships_transferred, apps_transferred, appMemberships_transferred]
  refine ⟨howned.1.handOver fun h => hother (of_decide_eq_true h), fun app happ horg => ?_⟩
  refine (howned.2 app happ horg).handOver fun h => hother ?_
  obtain ⟨other, hmem, hid, hof⟩ := ofOrganization_iff.mp h
  cases List.inj_on_of_nodup_map hkeyed.apps hmem happ hid
  exact horg.symm.trans hof

theorem acquiredGuard_handedOver (h : Acquires db input) :
    (handedOver db input).acquiredGuard input = true := acquiredGuard_acquireOrganization h

/-- **Which reservation a transfer completes.** -/
theorem reservation_transferred_iff (h : Acquires db input) :
    (∃ row ∈ (transferred db input).claimIdempotency, ofKey input.keyHash input.hashes row = true ∧
        row.completedAt ≠ none) ↔
      ∃ row ∈ db.claimIdempotency, ofKey input.keyHash input.hashes row = true ∧
        (row.completedAt ≠ none ∨ row.verificationId = input.verificationId) := by
  have hguard : (((handedOver db input).consumeVerification input).consumeConsent
      input).acquiredGuard input = true := by
    rw [acquiredGuard_consumeConsent, acquiredGuard_consumeVerification]
    exact acquiredGuard_handedOver h
  have hrows : (transferred db input).claimIdempotency = (updateRows db.claimIdempotency
      (fun row => ofKey input.keyHash input.hashes row ∧
        row.verificationId = input.verificationId ∧ row.completedAt = none)
      fun row => { row with completedAt := some input.now, expiresAt := input.replayExpiresAt }).2 := by
    unfold transferred completeReservation
    simp only [hguard, and_true]
    rw [consumeConsent_eq]
    rfl
  rw [hrows]
  unfold updateRows
  constructor
  · rintro ⟨_, hmem, hkey, hcompleted⟩
    obtain ⟨row, hrow, rfl⟩ := List.mem_map.mp hmem
    split at hkey
    · rename_i hset
      have hset := of_decide_eq_true hset
      exact ⟨row, hrow, hset.1, .inr hset.2.1⟩
    · rename_i hkept
      rw [if_neg hkept] at hcompleted
      exact ⟨row, hrow, hkey, .inl hcompleted⟩
  · rintro ⟨row, hrow, hkey, hof⟩
    refine ⟨_, List.mem_map.mpr ⟨row, hrow, rfl⟩, ?_⟩
    split
    · exact ⟨hkey, Option.some_ne_none _⟩
    · rename_i hkept
      refine ⟨hkey, fun hnone => hkept (decide_eq_true ⟨hkey, ?_, hnone⟩)⟩
      exact hof.resolve_left fun hdone => hdone hnone

theorem verification_transferred (h : Acquires db input) :
    ∀ row ∈ (transferred db input).claimVerifications, row.id = input.verificationId →
      row.consumedAt ≠ none := by
  have hrows : (transferred db input).claimVerifications = (updateRows db.claimVerifications
      (fun row => row.id = input.verificationId ∧ row.consumedAt = none)
      fun row => { row with consumedAt := some input.now }).2 := by
    unfold transferred consumeVerification
    simp only [acquiredGuard_handedOver h, and_true]
    rw [consumeConsent_eq]
    rfl
  rw [hrows]
  intro _ hmem hid
  obtain ⟨row, -, rfl⟩ := List.mem_map.mp hmem
  split
  · exact Option.some_ne_none _
  · rename_i hkept
    rw [if_neg hkept] at hid
    exact fun hnone => hkept (decide_eq_true ⟨hid, hnone⟩)

theorem consent_transferred (h : Acquires db input) :
    ∀ id ∈ input.consent, ∀ row ∈ (transferred db input).claimConsentAttempts, row.id = id →
      row.consumedAt ≠ none := by
  intro id hgiven
  have hguard : ((handedOver db input).consumeVerification input).acquiredGuard input = true := by
    rw [acquiredGuard_consumeVerification]
    exact acquiredGuard_handedOver h
  have hrows : (transferred db input).claimConsentAttempts = (updateRows db.claimConsentAttempts
      (fun row => row.id = id ∧ row.consumedAt = none)
      fun row => { row with consumedAt := some input.now }).2 := by
    unfold transferred consumeConsent
    simp only [Option.mem_def.mp hgiven, hguard, and_true]
    rfl
  rw [hrows]
  intro _ hmem hid
  obtain ⟨row, -, rfl⟩ := List.mem_map.mp hmem
  split
  · exact Option.some_ne_none _
  · rename_i hkept
    rw [if_neg hkept] at hid
    exact fun hnone => hkept (decide_eq_true ⟨hid, hnone⟩)

theorem permanent_transferred (h : Acquires db input) :
    ∃ row ∈ (transferred db input).organizations,
      row.id = input.orgId ∧ row.isProvisional = false := by
  obtain ⟨row, hrow, hset⟩ := h
  have hid := (of_decide_eq_true hset).1
  rw [organizations_transferred]
  refine ⟨_, List.mem_map.mpr ⟨_, List.mem_map.mpr ⟨row, hrow, rfl⟩, rfl⟩, ?_⟩
  rw [if_pos hset]
  split <;> exact ⟨hid, rfl⟩

theorem transferred_iff (hkeyed : Keyed db) (howned : OrganizationOwned db input.orgId)
    (h : Acquires db input) :
    Transferred db (transferred db input) input ↔ TransferWhole db input := by
  constructor
  · intro hdone
    obtain ⟨horg, happs⟩ := (owned_transferred_iff howned).mp hdone.owned
    exact ⟨(reservation_transferred_iff h).mp hdone.reservation, horg, happs⟩
  · intro hwhole
    exact
      { permanent := permanent_transferred h
        verification := verification_transferred h
        consent := consent_transferred h
        reservation := (reservation_transferred_iff h).mpr hwhole.reservation
        orgLeft := fun row hmem hscope => userId_ne_of_mem_handOver
          (orgMemberships_transferred ▸ hmem) (decide_eq_true hscope)
        appsLeft := fun row hmem hscope => userId_ne_of_mem_handOver
          (appMemberships_transferred ▸ hmem) hscope
        keyed := keyed_transferred hkeyed
        others := fun row hsource htarget =>
          ⟨orgMemberships_transferred ▸ mem_handOver_of_other hsource htarget,
            appMemberships_transferred ▸ mem_handOver_of_other hsource htarget⟩
        owned := (owned_transferred_iff howned).mpr ⟨hwhole.org, hwhole.apps⟩ }

/-- **A call keeps its promise just when it meets the guard.** A call that cannot acquire the
Organization returns false and promises nothing. One that acquires it transfers in one batch, and what
its statements leave is compared with what they should leave, statement by statement. -/
theorem keepsPromise_iff (hkeyed : Keyed db) (howned : ∀ row ∈ db.organizations,
    OrganizationOwned db row.id) (hunused : Unused db input.acquisitionToken) :
    KeepsPromise db (.completeClaim input) ↔ MeetsGuard db (.completeClaim input) := by
  unfold KeepsPromise MeetsGuard ClaimDatabase.run
  dsimp only
  by_cases h : Acquires db input
  · obtain ⟨row, hrow, hset⟩ := h
    have hown : OrganizationOwned db input.orgId := (of_decide_eq_true hset).1 ▸ howned row hrow
    have h : Acquires db input := ⟨row, hrow, hset⟩
    rw [completeClaim_of_acquires hkeyed h]
    simp only [Option.getD_some, reduceCtorEq, false_implies, true_and, forall_const, h]
    exact transferred_iff hkeyed hown h
  · rw [completeClaim_of_not_acquires hkeyed hunused h]
    simp [h]

/-! ## 6. Runs -/

/-- The token that a call acquires with. -/
def ClaimEvent.token : ClaimEvent → Option String
  | .completeClaim input => some input.acquisitionToken
  | _ => none

theorem completeClaim_of_token {event : ClaimEvent} {token : String}
    (h : event.token = some token) : ∃ input, event = .completeClaim input := by
  cases event with
  | completeClaim input => exact ⟨input, rfl⟩
  | _ => cases h

/-- A statement of the ceremony leaves the Organizations, the Apps and the memberships. -/
theorem run_ceremony (db : ClaimDatabase) {event : ClaimEvent} (h : event.token = none) :
    (db.run event).2.organizations = db.organizations ∧ (db.run event).2.apps = db.apps ∧
      (db.run event).2.orgMemberships = db.orgMemberships ∧
      (db.run event).2.appMemberships = db.appMemberships := by
  cases event with
  | completeClaim => cases h
  | createVerification =>
    unfold ClaimDatabase.run createVerification
    dsimp only
    split <;> exact ⟨rfl, rfl, rfl, rfl⟩
  | createConsentAttempt =>
    unfold ClaimDatabase.run createConsentAttempt
    dsimp only
    split <;> exact ⟨rfl, rfl, rfl, rfl⟩
  | reserveClaim =>
    unfold ClaimDatabase.run reserveClaim
    dsimp only
    split <;> exact ⟨rfl, rfl, rfl, rfl⟩
  | _ => exact ⟨rfl, rfl, rfl, rfl⟩

/-- What a call leaves: the tables as they were, or the transfer. -/
theorem run_completeClaim (hkeyed : Keyed db) (hunused : Unused db input.acquisitionToken) :
    (¬ Acquires db input ∧ db.run (.completeClaim input) = (false, db)) ∨
      (Acquires db input ∧ db.run (.completeClaim input) = (true, transferred db input)) := by
  unfold ClaimDatabase.run
  dsimp only
  by_cases h : Acquires db input
  · rw [completeClaim_of_acquires hkeyed h]
    exact .inr ⟨h, rfl⟩
  · rw [completeClaim_of_not_acquires hkeyed hunused h]
    exact .inl ⟨h, rfl⟩

theorem token_of_mem_transferred {row : OrganizationRow}
    (hmem : row ∈ (transferred db input).organizations) :
    ∃ old ∈ db.organizations, row.id = old.id ∧
      (old.isProvisional = false → row.isProvisional = false) ∧
      (row.claimAcquisitionToken = old.claimAcquisitionToken ∨
        row.claimAcquisitionToken = some input.acquisitionToken) := by
  rw [organizations_transferred] at hmem
  obtain ⟨acquired, hacquired, rfl⟩ := List.mem_map.mp hmem
  obtain ⟨old, hold, rfl⟩ := List.mem_map.mp hacquired
  refine ⟨old, hold, ?_⟩
  split <;> split
  · exact ⟨rfl, fun _ => rfl, .inr rfl⟩
  · exact ⟨rfl, fun _ => rfl, .inr rfl⟩
  · exact ⟨rfl, id, .inl rfl⟩
  · exact ⟨rfl, id, .inl rfl⟩

/-- What a run rests on: the keys, and tokens that are not stored. -/
structure RunInv (db : ClaimDatabase) (events : List ClaimEvent) : Prop where
  keyed : Keyed db
  distinct : (events.filterMap ClaimEvent.token).Nodup
  unused : ∀ token ∈ events.filterMap ClaimEvent.token, Unused db token

theorem RunInv.next {event : ClaimEvent} {events : List ClaimEvent}
    (h : RunInv db (event :: events)) : RunInv (db.run event).2 events := by
  obtain ⟨hkeyed, hdistinct, hunused⟩ := h
  cases htoken : event.token with
  | none =>
    obtain ⟨horganizations, happs, horgs, hmemberships⟩ := run_ceremony db htoken
    rw [List.filterMap_cons_none htoken] at hdistinct hunused
    refine ⟨⟨?_, ?_, ?_, ?_⟩, hdistinct, ?_⟩
    · rw [horganizations]
      exact hkeyed.organizations
    · rw [happs]
      exact hkeyed.apps
    · rw [horgs]
      exact hkeyed.orgMemberships
    · rw [hmemberships]
      exact hkeyed.appMemberships
    · unfold Unused
      rw [horganizations]
      exact hunused
  | some token =>
    obtain ⟨input, rfl⟩ := completeClaim_of_token htoken
    cases htoken
    rw [List.filterMap_cons_some (show (ClaimEvent.completeClaim input).token = some _ from rfl)]
      at hdistinct hunused
    obtain ⟨hfresh, hdistinct⟩ := List.nodup_cons.mp hdistinct
    rcases run_completeClaim hkeyed (hunused _ List.mem_cons_self) with ⟨-, hrun⟩ | ⟨-, hrun⟩
    · rw [hrun]
      exact ⟨hkeyed, hdistinct, fun token hmem => hunused token (List.mem_cons_of_mem _ hmem)⟩
    · rw [hrun]
      refine ⟨keyed_transferred hkeyed, hdistinct, fun token hmem row hrow hstored => ?_⟩
      obtain ⟨old, hold, -, -, hkept | hacquired⟩ := token_of_mem_transferred hrow
      · exact hunused token (List.mem_cons_of_mem _ hmem) old hold (hkept ▸ hstored)
      · cases hacquired.symm.trans hstored
        exact hfresh hmem

/-- A call that keeps its promise leaves every Organization with its owners. -/
theorem owned_next {event : ClaimEvent} {events : List ClaimEvent}
    (h : RunInv db (event :: events))
    (howned : ∀ row ∈ db.organizations, OrganizationOwned db row.id)
    (hpromise : KeepsPromise db event) :
    ∀ row ∈ (db.run event).2.organizations, OrganizationOwned (db.run event).2 row.id := by
  cases htoken : event.token with
  | none =>
    obtain ⟨horganizations, happs, horgs, hmemberships⟩ := run_ceremony db htoken
    unfold OrganizationOwned at howned ⊢
    rw [horganizations, happs, horgs, hmemberships]
    exact howned
  | some token =>
    obtain ⟨input, rfl⟩ := completeClaim_of_token htoken
    have hunused : Unused db input.acquisitionToken :=
      h.unused _ (List.mem_filterMap.mpr ⟨_, List.mem_cons_self, rfl⟩)
    rcases run_completeClaim h.keyed hunused with ⟨-, hrun⟩ | ⟨-, hrun⟩
    · rw [hrun]
      exact howned
    · have hown := (hpromise.2 (by rw [hrun])).owned
      rw [hrun] at hown ⊢
      intro row hrow
      obtain ⟨old, hold, hid, -⟩ := token_of_mem_transferred hrow
      by_cases horg : row.id = input.orgId
      · exact horg ▸ hown
      · exact hid ▸ owned_transferred_of_ne h.keyed (hid ▸ horg) (howned old hold)

/-- **A run keeps its promises just when its calls meet the guard.** Both sides are about each call at
its own state. That every Organization still has an owner is what carries the equivalence on to the
next call, and a call that has kept its promise leaves it so. -/
theorem promises_iff_guarded (events : List ClaimEvent) (h : RunInv db events)
    (howned : ∀ row ∈ db.organizations, OrganizationOwned db row.id) (initial : ClaimDatabase) :
    (claimCeremony initial).Guarded KeepsPromise db events ↔
      (claimCeremony initial).Guarded MeetsGuard db events := by
  induction events generalizing db with
  | nil => exact Iff.rfl
  | cons event events ih =>
    have hstep : KeepsPromise db event ↔ MeetsGuard db event := by
      cases htoken : event.token with
      | none =>
        cases event with
        | completeClaim => cases htoken
        | _ => exact Iff.rfl
      | some token =>
        obtain ⟨input, rfl⟩ := completeClaim_of_token htoken
        exact keepsPromise_iff h.keyed howned
          (h.unused _ (List.mem_filterMap.mpr ⟨_, List.mem_cons_self, rfl⟩))
    constructor
    · rintro ⟨hpromise, hrest⟩
      exact ⟨hstep.mp hpromise, (ih h.next (owned_next h howned hpromise)).mp hrest⟩
    · rintro ⟨hguard, hrest⟩
      have hpromise := hstep.mpr hguard
      exact ⟨hpromise, (ih h.next (owned_next h howned hpromise)).mpr hrest⟩

/-- An Organization that is permanent. -/
def Permanent (db : ClaimDatabase) (orgId : String) : Prop :=
  ∀ row ∈ db.organizations, row.id = orgId → row.isProvisional = false

theorem Permanent.next {event : ClaimEvent} {events : List ClaimEvent} {orgId : String}
    (hinv : RunInv db (event :: events)) (h : Permanent db orgId) :
    Permanent (db.run event).2 orgId := by
  cases htoken : event.token with
  | none =>
    unfold Permanent
    rw [(run_ceremony db htoken).1]
    exact h
  | some token =>
    obtain ⟨input, rfl⟩ := completeClaim_of_token htoken
    have hunused : Unused db input.acquisitionToken :=
      hinv.unused _ (List.mem_filterMap.mpr ⟨_, List.mem_cons_self, rfl⟩)
    rcases run_completeClaim hinv.keyed hunused with ⟨-, hrun⟩ | ⟨-, hrun⟩
    · rw [hrun]
      exact h
    · rw [hrun]
      intro row hrow hid
      obtain ⟨old, hold, hsame, hkept, -⟩ := token_of_mem_transferred hrow
      exact hkept (h old hold (hsame.symm.trans hid))

/-- A call that returns true finds its Organization provisional, and leaves it permanent. -/
theorem permanent_of_won (hkeyed : Keyed db) (hunused : Unused db input.acquisitionToken)
    (hwon : (db.run (.completeClaim input)).1 = true) :
    ¬ Permanent db input.orgId ∧ Permanent (db.run (.completeClaim input)).2 input.orgId := by
  rcases run_completeClaim hkeyed hunused with ⟨-, hrun⟩ | ⟨hacquires, hrun⟩
  · rw [hrun] at hwon
    cases hwon
  rw [hrun]
  constructor
  · obtain ⟨row, hrow, hset⟩ := hacquires
    intro h
    have hprovisional := (of_decide_eq_true hset).2.1
    rw [h row hrow (of_decide_eq_true hset).1] at hprovisional
    cases hprovisional
  · obtain ⟨found, hfound, hid, hpermanent⟩ := permanent_transferred hacquires
    intro row hrow hsame
    cases List.inj_on_of_nodup_map (keyed_transferred hkeyed).organizations hrow hfound
      (hsame.trans hid.symm)
    exact hpermanent

theorem RunInv.exec {initial : ClaimDatabase} {before events : List ClaimEvent}
    (h : RunInv db (before ++ events)) : RunInv ((claimCeremony initial).exec db before) events := by
  induction before generalizing db with
  | nil => exact h
  | cons event before ih => exact ih h.next

theorem Permanent.exec (initial : ClaimDatabase) {before events : List ClaimEvent} {orgId : String}
    (hinv : RunInv db (before ++ events)) (h : Permanent db orgId) :
    Permanent ((claimCeremony initial).exec db before) orgId := by
  induction before generalizing db with
  | nil => exact h
  | cons event before ih => exact ih hinv.next (h.next hinv)

end

/-- **Claims transfer a demo Organization once, and whole.**  Of the calls of a run for one
Organization at most one returns true; and all its calls keep their promises just when all of them
meet the guard. -/
theorem demo_claim_transfers (db : ClaimDatabase) (events : List ClaimEvent) (hkeyed : Keyed db)
    (howned : ∀ row ∈ db.organizations, OrganizationOwned db row.id)
    (hdistinct : (events.filterMap ClaimEvent.token).Nodup)
    (hunused : ∀ token ∈ events.filterMap ClaimEvent.token, Unused db token) :
    let reached := (claimCeremony db).run
    ((∀ before event, before ++ [event] <+: events → KeepsPromise (reached before) event) ↔
        ∀ before event, before ++ [event] <+: events → MeetsGuard (reached before) event) ∧
      ∀ before middle input later,
        before ++ .completeClaim input :: middle ++ [.completeClaim later] <+: events →
        later.orgId = input.orgId →
        ((reached before).run (.completeClaim input)).1 = true →
        ((reached (before ++ .completeClaim input :: middle)).run (.completeClaim later)).1 =
          false := by
  intro reached
  have hinv : RunInv db events := ⟨hkeyed, hdistinct, hunused⟩
  constructor
  · have hpromises := promises_iff_guarded events hinv howned db
    rw [Machine.guarded_iff_prefix, Machine.guarded_iff_prefix] at hpromises
    exact hpromises
  · rintro before middle input later ⟨rest, rfl⟩ hsame hwon
    have hsplit : before ++ .completeClaim input :: middle ++ [.completeClaim later] ++ rest =
        before ++ (.completeClaim input :: (middle ++ (.completeClaim later :: rest))) := by
      simp
    rw [hsplit] at hinv
    have hfirst : RunInv (reached before) _ := hinv.exec
    obtain ⟨-, hpermanent⟩ := permanent_of_won hfirst.keyed
      (hfirst.unused _ (List.mem_filterMap.mpr ⟨_, List.mem_cons_self, rfl⟩)) hwon
    have hlast : RunInv ((claimCeremony db).exec ((reached before).run (.completeClaim input)).2
        middle) (.completeClaim later :: rest) := hfirst.next.exec
    have hkept := hpermanent.exec db hfirst.next
    rw [show reached (before ++ .completeClaim input :: middle) =
      (claimCeremony db).exec ((reached before).run (.completeClaim input)).2 middle from
        (claimCeremony db).run_append before (.completeClaim input :: middle)]
    by_contra hwins
    rw [Bool.not_eq_false] at hwins
    refine (permanent_of_won hlast.keyed ?_ hwins).1 (hsame ▸ hkept)
    exact hlast.unused _ (List.mem_filterMap.mpr ⟨_, List.mem_cons_self, rfl⟩)

/-! ## 7. A claim by the provisional user herself -/

/-- A demo Organization whose only member has verified an address that nobody else has. -/
def demoOrganization : ClaimDatabase where
  organizations :=
    [{ id := "org_demo"
       isProvisional := true
       demoExpiresAt := some 90000
       claimAcquisitionToken := none
       claimAcquisitionKeyHash := none
       updatedAt := 0 }]
  orgMemberships := [{ scopeId := "org_demo", userId := "user_a", role := .owner, createdAt := 0 }]
  apps := [{ id := "app_demo", organizationId := "org_demo" }]
  appMemberships := [{ scopeId := "app_demo", userId := "user_a", role := .owner, createdAt := 0 }]
  claimVerifications :=
    [{ id := "verification_1"
       hashes := ⟨"hash_user_a", "hash_email"⟩
       selectedResource := some "https://cp.splitch.test"
       expiresAt := 50000
       attempts := 1
       verifiedAt := some 1000
       consumedAt := none
       createdAt := 0 }]
  claimConsentAttempts := []
  claimIdempotency :=
    [{ keyHash := "hash_key"
       hashes := ⟨⟨"hash_user_a", "hash_email"⟩, "hash_org_demo", "hash_app_demo", "hash_user_a"⟩
       verificationId := "verification_1"
       selectedResource := some "https://cp.splitch.test"
       completedAt := none
       providerConfirmationStartedAt := some 1000
       expiresAt := 40000 }]

def claimTransfer (verifiedUserId : String) : CompleteClaimInput where
  hashes := ⟨⟨"hash_user_a", "hash_email"⟩, "hash_org_demo", "hash_app_demo", "hash_user_a"⟩
  verificationId := "verification_1"
  consentAttemptId := none
  keyHash := "hash_key"
  provisionalUserId := "user_a"
  verifiedUserId
  orgId := "org_demo"
  appId := "app_demo"
  acquisitionToken := "b0a5e7c2-4d0f-4f3e-9f0e-4c1f0a2b7d11"
  acquisitionKeyHash := "hash_key"
  replayExpiresAt := 100000
  now := 1000

theorem demoOrganization_keyed : Keyed demoOrganization where
  organizations := by decide
  apps := by decide
  orgMemberships := by
    unfold KeyedMemberships
    decide
  appMemberships := by
    unfold KeyedMemberships
    decide

theorem demoOrganization_owned :
    ∀ row ∈ demoOrganization.organizations, OrganizationOwned demoOrganization row.id := by
  intro row hrow
  obtain rfl := List.mem_singleton.mp hrow
  refine ⟨⟨_, List.mem_singleton.mpr rfl, rfl, rfl⟩, fun app happ _ => ?_⟩
  obtain rfl := List.mem_singleton.mp happ
  exact ⟨_, List.mem_singleton.mpr rfl, rfl, rfl⟩

/-- Another call for the same Organization, by someone else. -/
def competingTransfer : CompleteClaimInput :=
  { claimTransfer "user_c" with
    acquisitionToken := "5b1f8c1e-7a52-4b86-9d0b-0e6f4f7c2d90"
    now := 1001 }

/-- Two users claim it: the first is told that she has claimed it, and the second is not. -/
theorem demo_claim_transfers_once :
    let events := [ClaimEvent.completeClaim (claimTransfer "user_b"), .completeClaim competingTransfer]
    let reached := (claimCeremony demoOrganization).run
    ((∀ before event, before ++ [event] <+: events → KeepsPromise (reached before) event) ↔
        ∀ before event, before ++ [event] <+: events → MeetsGuard (reached before) event) ∧
      ((reached []).run (.completeClaim (claimTransfer "user_b"))).1 = true ∧
      ((reached [.completeClaim (claimTransfer "user_b")]).run
        (.completeClaim competingTransfer)).1 = false := by
  intro events reached
  have hunused : ∀ token ∈ events.filterMap ClaimEvent.token, Unused demoOrganization token := by
    intro token _ row hrow
    obtain rfl := List.mem_singleton.mp hrow
    exact nofun
  have hwon : ((reached []).run (.completeClaim (claimTransfer "user_b"))).1 = true := by decide
  obtain ⟨hpromises, honce⟩ := demo_claim_transfers demoOrganization events demoOrganization_keyed
    demoOrganization_owned (by decide) hunused
  exact ⟨hpromises, hwon, honce [] [] (claimTransfer "user_b") competingTransfer List.prefix_rfl rfl hwon⟩

/-- **The provisional user who has verified her own address** is told that she has claimed the
Organization, and is a member of nothing. -/
theorem claimed_by_itself :
    (demoOrganization.run (.completeClaim (claimTransfer "user_a"))).1 = true ∧
      (demoOrganization.run (.completeClaim (claimTransfer "user_a"))).2.orgMemberships = [] ∧
      (demoOrganization.run (.completeClaim (claimTransfer "user_a"))).2.appMemberships = [] ∧
      ¬ KeepsPromise demoOrganization (.completeClaim (claimTransfer "user_a")) := by
  have hwon : (demoOrganization.run (.completeClaim (claimTransfer "user_a"))).1 = true := by
    decide
  have hleft : (demoOrganization.run
      (.completeClaim (claimTransfer "user_a"))).2.orgMemberships = [] := by decide
  refine ⟨hwon, hleft, by decide, fun h => ?_⟩
  obtain ⟨row, hrow, -⟩ := (h.2 hwon).owned.1
  rw [hleft] at hrow
  exact List.not_mem_nil hrow

end DemoClaim

end Splitch
