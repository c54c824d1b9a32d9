/-
# The claim of a demo Organization

The rows that the claim of a provisional Organization reads and writes, the transitions of a
verification, of a consent attempt (`claim-state.ts`) and of a reservation (`claim-reservation.ts`),
and the batch that transfers the memberships (`completeClaim`, `claim-transfer.ts`).

A time is the instant that its ISO text stands for.  A statement runs on the tables that the
statement before it has left, and a batch that would store a second row under a primary key is
rolled back.
-/
import Splitch.Library.Runs

namespace Splitch

namespace DemoClaim

/-! ## 1. Rows -/

inductive UserRole
  | owner
  | admin
  | member
  deriving DecidableEq, Repr

structure OrganizationRow where
  id : String
  isProvisional : Bool
  demoExpiresAt : Option Int
  claimAcquisitionToken : Option String
  claimAcquisitionKeyHash : Option String
  updatedAt : Int
  deriving DecidableEq, Repr

structure AppRow where
  id : String
  organizationId : String
  deriving DecidableEq, Repr

/-- A row of `org_memberships` or of `app_memberships`: `scopeId` is `org_id` or `app_id`. -/
structure MembershipRow where
  scopeId : String
  userId : String
  role : UserRole
  createdAt : Int
  deriving DecidableEq, Repr

structure ClaimHashes where
  provisionalUserHash : String
  emailHash : String
  deriving DecidableEq, Repr

structure ClaimIdentityHashes extends ClaimHashes where
  organizationHash : String
  appHash : String
  verifiedUserHash : String
  deriving DecidableEq, Repr

structure ClaimVerification where
  id : String
  hashes : ClaimHashes
  selectedResource : Option String
  expiresAt : Int
  attempts : Nat
  verifiedAt : Option Int
  consumedAt : Option Int
  createdAt : Int
  deriving DecidableEq, Repr

structure ConsentAttempt where
  id : String
  verificationId : String
  existingUserHash : String
  expiresAt : Int
  approvedAt : Option Int
  consumedAt : Option Int
  createdAt : Int
  deriving DecidableEq, Repr

/-- A row of `claim_idempotency`. -/
structure ClaimReservation where
  keyHash : String
  hashes : ClaimIdentityHashes
  verificationId : String
  selectedResource : Option String
  completedAt : Option Int
  providerConfirmationStartedAt : Option Int
  expiresAt : Int
  deriving DecidableEq, Repr

structure ClaimDatabase where
  organizations : List OrganizationRow
  orgMemberships : List MembershipRow
  apps : List AppRow
  appMemberships : List MembershipRow
  claimVerifications : List ClaimVerification
  claimConsentAttempts : List ConsentAttempt
  claimIdempotency : List ClaimReservation
  deriving DecidableEq, Repr

/-- An `UPDATE`: the rows it sets, in place, and how many they are. -/
def updateRows {α : Type} (rows : List α) (hits : α → Bool) (set : α → α) : Nat × List α :=
  (rows.countP hits, rows.map fun row => if hits row then set row else row)

namespace ClaimDatabase

/-! ## 2. Verifications and consents -/

section

variable (db : ClaimDatabase)

/-- The statements that set a verification, under its id and its hashes. -/
def updateVerification (id : String) (hashes : ClaimHashes) (when_ : ClaimVerification → Bool)
    (set : ClaimVerification → ClaimVerification) : Bool × ClaimDatabase :=
  let (changes, claimVerifications) := updateRows db.claimVerifications
    (fun row => row.id = id ∧ row.hashes = hashes ∧ when_ row) set
  (changes = 1, { db with claimVerifications })

def createVerification (id : String) (hashes : ClaimHashes) (selectedResource : Option String)
    (expiresAt now : Int) : Option ClaimDatabase :=
  if db.claimVerifications.any (·.id = id) then none
  else some
    { db with
      claimVerifications := db.claimVerifications ++
        [{ id, hashes, selectedResource, expiresAt, attempts := 0, verifiedAt := none,
           consumedAt := none, createdAt := now }] }

def incrementAttempt (id : String) (hashes : ClaimHashes) (now : Int) (maxAttempts : Nat) :
    Bool × ClaimDatabase :=
  db.updateVerification id hashes
    (fun row => row.consumedAt = none ∧ row.expiresAt > now ∧ row.attempts < maxAttempts)
    fun row => { row with attempts := row.attempts + 1 }

def markVerified (id : String) (hashes : ClaimHashes) (now : Int) : Bool × ClaimDatabase :=
  db.updateVerification id hashes (fun row => row.consumedAt = none ∧ row.expiresAt > now)
    fun row => { row with verifiedAt := row.verifiedAt.or (some now) }

/-- The consent that a transfer or a verification goes by: approved, not consumed, live. -/
def approvedConsent (id verificationId : String) (now : Int) : Bool :=
  db.claimConsentAttempts.any fun row => row.id = id ∧ row.verificationId = verificationId ∧
    row.approvedAt ≠ none ∧ row.consumedAt = none ∧ row.expiresAt > now

def markVerifiedFromConsent (id : String) (hashes : ClaimHashes) (consentAttemptId : String)
    (now : Int) : Bool × ClaimDatabase :=
  db.updateVerification id hashes
    (fun row => row.verifiedAt = none ∧ row.consumedAt = none ∧ row.expiresAt > now ∧
      db.approvedConsent consentAttemptId id now)
    fun row => { row with verifiedAt := some now }

def createConsentAttempt (id verificationId existingUserHash : String) (expiresAt now : Int) :
    Option ClaimDatabase :=
  if db.claimConsentAttempts.any (·.id = id) ∨
      !db.claimVerifications.any (·.id = verificationId) then none
  else some
    { db with
      claimConsentAttempts := db.claimConsentAttempts ++
        [{ id, verificationId, existingUserHash, expiresAt, approvedAt := none,
           consumedAt := none, createdAt := now }] }

/-- An attempt that the existing user has not answered yet. -/
def openConsent (id existingUserHash : String) (now : Int) (row : ConsentAttempt) : Bool :=
  row.id = id ∧ row.existingUserHash = existingUserHash ∧ row.approvedAt = none ∧
    row.consumedAt = none ∧ row.expiresAt > now

def approveConsent (id existingUserHash : String) (now : Int) : Bool × ClaimDatabase :=
  let (changes, claimConsentAttempts) := updateRows db.claimConsentAttempts
    (openConsent id existingUserHash now) fun row => { row with approvedAt := some now }
  (changes = 1, { db with claimConsentAttempts })

def refuseConsent (id existingUserHash : String) (now : Int) : Bool × ClaimDatabase :=
  let (changes, claimConsentAttempts) := updateRows db.claimConsentAttempts
    (openConsent id existingUserHash now) fun row => { row with consumedAt := some now }
  (changes = 1, { db with claimConsentAttempts })

/-! ## 3. Reservations -/

/-- The primary key of a reservation. -/
def ofKey (keyHash : String) (hashes : ClaimIdentityHashes) (row : ClaimReservation) : Bool :=
  row.keyHash = keyHash ∧ row.hashes = hashes

def reserveClaim (keyHash : String) (hashes : ClaimIdentityHashes) (verificationId : String)
    (selectedResource : Option String) (expiresAt : Int) : Bool × ClaimDatabase :=
  if db.claimIdempotency.any (ofKey keyHash hashes) then (false, db)
  else
    (true,
      { db with
        claimIdempotency := db.claimIdempotency ++
          [{ keyHash, hashes, verificationId, selectedResource, completedAt := none,
             providerConfirmationStartedAt := none, expiresAt }] })

def releaseClaimReservation (keyHash : String) (hashes : ClaimIdentityHashes) : ClaimDatabase :=
  { db with
    claimIdempotency := db.claimIdempotency.filter fun row =>
      !(ofKey keyHash hashes row ∧ row.completedAt = none) }

def markProviderConfirmationStarted (keyHash : String) (hashes : ClaimIdentityHashes) (now : Int) :
    Bool × ClaimDatabase :=
  let (changes, claimIdempotency) := updateRows db.claimIdempotency
    (fun row => ofKey keyHash hashes row ∧ row.completedAt = none ∧
      row.providerConfirmationStartedAt = none)
    fun row => { row with providerConfirmationStartedAt := some now }
  (changes = 1, { db with claimIdempotency })

end

end ClaimDatabase

/-! ## 4. The transfer -/

structure CompleteClaimInput where
  hashes : ClaimIdentityHashes
  verificationId : String
  consentAttemptId : Option String
  keyHash : String
  provisionalUserId : String
  verifiedUserId : String
  orgId : String
  appId : String
  acquisitionToken : String
  acquisitionKeyHash : String
  replayExpiresAt : Int
  now : Int
  deriving DecidableEq, Repr

/-- The consent attempt that an input names: the empty text names none. -/
def CompleteClaimInput.consent (input : CompleteClaimInput) : Option String :=
  input.consentAttemptId.filter (!·.isEmpty)

/-- `DELETE` of the memberships of the provisional user where the verified user has one. -/
def deleteOverlap (rows : List MembershipRow) (inScope : String → Bool)
    (provisionalUserId verifiedUserId : String) : List MembershipRow :=
  rows.filter fun row => !(row.userId = provisionalUserId ∧ inScope row.scopeId ∧
    rows.any fun target => target.scopeId = row.scopeId ∧ target.userId = verifiedUserId)

/-- `UPDATE` of the memberships of the provisional user, which become the verified user's. -/
def moveMemberships (rows : List MembershipRow) (inScope : String → Bool)
    (provisionalUserId verifiedUserId : String) : List MembershipRow :=
  rows.map fun row => if row.userId = provisionalUserId ∧ inScope row.scopeId then
    { row with userId := verifiedUserId } else row

def membershipKey (row : MembershipRow) : String × String := (row.scopeId, row.userId)

namespace ClaimDatabase

variable (db : ClaimDatabase) (input : CompleteClaimInput)

def verificationGuard : Bool :=
  db.claimVerifications.any fun row => row.id = input.verificationId ∧
    row.hashes = input.hashes.toClaimHashes ∧ row.verifiedAt ≠ none ∧ row.consumedAt = none ∧
    row.expiresAt > input.now

def consentGuard : Bool :=
  input.consent.all fun id => db.approvedConsent id input.verificationId input.now

def membershipGuard : Bool :=
  (db.orgMemberships.any fun row =>
      row.scopeId = input.orgId ∧ row.userId = input.provisionalUserId) &&
    db.appMemberships.any fun row =>
      row.scopeId = input.appId ∧ row.userId = input.provisionalUserId ∧
        db.apps.any fun app => app.id = row.scopeId ∧ app.organizationId = input.orgId

/-- The Organization is this call's, and so are the verification and the consent, consumed or not. -/
def acquiredGuard : Bool :=
  (db.organizations.any fun row => row.id = input.orgId ∧ row.isProvisional = false ∧
      row.claimAcquisitionToken = some input.acquisitionToken) &&
    (db.claimVerifications.any fun row => row.id = input.verificationId ∧
      row.hashes = input.hashes.toClaimHashes ∧ row.verifiedAt ≠ none ∧
      row.expiresAt > input.now) &&
    input.consent.all fun id => db.claimConsentAttempts.any fun row => row.id = id ∧
      row.verificationId = input.verificationId ∧ row.approvedAt ≠ none

/-- The Organization that the first statement acquires. -/
def acquirable (row : OrganizationRow) : Bool :=
  row.id = input.orgId ∧ row.isProvisional ∧ row.claimAcquisitionToken = none ∧
    db.verificationGuard input ∧ db.consentGuard input ∧ db.membershipGuard input

def acquireOrganization : Nat × ClaimDatabase :=
  let (changes, organizations) := updateRows db.organizations (db.acquirable input) fun row =>
    { row with
      isProvisional := false
      demoExpiresAt := none
      claimAcquisitionToken := some input.acquisitionToken
      claimAcquisitionKeyHash := some input.acquisitionKeyHash
      updatedAt := input.now }
  (changes, { db with organizations })

/-- The Apps of the Organization. -/
def ofOrganization (appId : String) : Bool :=
  db.apps.any fun app => app.id = appId ∧ app.organizationId = input.orgId

def transferOrgMemberships : Option ClaimDatabase :=
  let isOrg (scopeId : String) : Bool := scopeId = input.orgId
  let kept := { db with
    orgMemberships := if db.acquiredGuard input then
      deleteOverlap db.orgMemberships isOrg input.provisionalUserId input.verifiedUserId
      else db.orgMemberships }
  let moved := if kept.acquiredGuard input then
    moveMemberships kept.orgMemberships isOrg input.provisionalUserId input.verifiedUserId
    else kept.orgMemberships
  if (moved.map membershipKey).Nodup then some { kept with orgMemberships := moved } else none

def transferAppMemberships : Option ClaimDatabase :=
  let kept := { db with
    appMemberships := if db.acquiredGuard input then
      deleteOverlap db.appMemberships (db.ofOrganization input) input.provisionalUserId
        input.verifiedUserId
      else db.appMemberships }
  let moved := if kept.acquiredGuard input then
    moveMemberships kept.appMemberships (db.ofOrganization input) input.provisionalUserId
      input.verifiedUserId
    else kept.appMemberships
  if (moved.map membershipKey).Nodup then some { kept with appMemberships := moved } else none

def consumeVerification : ClaimDatabase :=
  { db with
    claimVerifications := (updateRows db.claimVerifications
      (fun row => row.id = input.verificationId ∧ row.consumedAt = none ∧ db.acquiredGuard input)
      fun row => { row with consumedAt := some input.now }).2 }

def consumeConsent : ClaimDatabase :=
  match input.consent with
  | none => db
  | some id =>
    { db with
      claimConsentAttempts := (updateRows db.claimConsentAttempts
        (fun row => row.id = id ∧ row.consumedAt = none ∧ db.acquiredGuard input)
        fun row => { row with consumedAt := some input.now }).2 }

def completeReservation : ClaimDatabase :=
  { db with
    claimIdempotency := (updateRows db.claimIdempotency
      (fun row => ofKey input.keyHash input.hashes row ∧
        row.verificationId = input.verificationId ∧ row.completedAt = none ∧
        db.acquiredGuard input)
      fun row => { row with completedAt := some input.now, expiresAt := input.replayExpiresAt }).2 }

def clearAcquisitionKey : ClaimDatabase :=
  { db with
    organizations := (updateRows db.organizations
      (fun row => row.id = input.orgId ∧ row.claimAcquisitionToken = some input.acquisitionToken)
      fun row => { row with claimAcquisitionKeyHash := none }).2 }

/-- The batch.  `none`: a primary key has rolled it back, and the call throws. -/
def completeClaim : Option (Bool × ClaimDatabase) := do
  let (changes, acquired) := db.acquireOrganization input
  let orgs ← acquired.transferOrgMemberships input
  let transferred ← orgs.transferAppMemberships input
  let consumed := (transferred.consumeVerification input).consumeConsent input
  return (changes = 1, (consumed.completeReservation input).clearAcquisitionKey input)

end ClaimDatabase

/-! ## 5. The machine -/

inductive ClaimEvent
  | createVerification (id : String) (hashes : ClaimHashes) (selectedResource : Option String)
      (expiresAt now : Int)
  | incrementAttempt (id : String) (hashes : ClaimHashes) (now : Int) (maxAttempts : Nat)
  | markVerified (id : String) (hashes : ClaimHashes) (now : Int)
  | markVerifiedFromConsent (id : String) (hashes : ClaimHashes) (consentAttemptId : String)
      (now : Int)
  | createConsentAttempt (id verificationId existingUserHash : String) (expiresAt now : Int)
  | approveConsent (id existingUserHash : String) (now : Int)
  | refuseConsent (id existingUserHash : String) (now : Int)
  | reserveClaim (keyHash : String) (hashes : ClaimIdentityHashes) (verificationId : String)
      (selectedResource : Option String) (expiresAt : Int)
  | releaseClaimReservation (keyHash : String) (hashes : ClaimIdentityHashes)
  | markProviderConfirmationStarted (keyHash : String) (hashes : ClaimIdentityHashes) (now : Int)
  | completeClaim (input : CompleteClaimInput)

/-- A statement that throws leaves the tables, and answers `false` here. -/
def ClaimDatabase.run (db : ClaimDatabase) : ClaimEvent → Bool × ClaimDatabase
  | .createVerification id hashes selectedResource expiresAt now =>
    ((db.createVerification id hashes selectedResource expiresAt now).map (true, ·)).getD (false, db)
  | .incrementAttempt id hashes now maxAttempts => db.incrementAttempt id hashes now maxAttempts
  | .markVerified id hashes now => db.markVerified id hashes now
  | .markVerifiedFromConsent id hashes consentAttemptId now =>
    db.markVerifiedFromConsent id hashes consentAttemptId now
  | .createConsentAttempt id verificationId existingUserHash expiresAt now =>
    ((db.createConsentAttempt id verificationId existingUserHash expiresAt now).map
      (true, ·)).getD (false, db)
  | .approveConsent id existingUserHash now => db.approveConsent id existingUserHash now
  | .refuseConsent id existingUserHash now => db.refuseConsent id existingUserHash now
  | .reserveClaim keyHash hashes verificationId selectedResource expiresAt =>
    db.reserveClaim keyHash hashes verificationId selectedResource expiresAt
  | .releaseClaimReservation keyHash hashes => (true, db.releaseClaimReservation keyHash hashes)
  | .markProviderConfirmationStarted keyHash hashes now =>
    db.markProviderConfirmationStarted keyHash hashes now
  | .completeClaim input => (db.completeClaim input).getD (false, db)

def claimCeremony (db : ClaimDatabase) : Machine ClaimDatabase ClaimEvent Bool where
  init := db
  step := ClaimDatabase.run

end DemoClaim

end Splitch
