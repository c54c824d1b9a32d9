/-
# The delivery rows of Cloudflare installations

The installations and the deliveries of configuration versions to them, with the statements on both
(`cloudflare-integrations.ts`, `cloudflare-deliveries.ts`, `delivery-lease.ts`,
`scheduled-due-predicates.ts`) and the trigger that follows a new version of an Environment.

A batch is one transaction.  A lease is owned by the number of the dispatch that has claimed the row.
-/
import Splitch.Library.Sorting

namespace Splitch

namespace CloudflarePush

/-! ## 1. Rows -/

inductive InstallationStatus
  | active
  | revoked
  deriving DecidableEq, Repr

inductive DeliveryState
  | pending
  | leased
  | delivered
  | terminal
  | suppressed
  deriving DecidableEq, Repr

inductive DeliveryErrorKind
  | internal
  | transport
  | protocol
  | http
  deriving DecidableEq, Repr

/-- What `errorJson` says. -/
structure DeliveryError where
  kind : DeliveryErrorKind
  code : String
  httpStatus : Option Nat := none
  causeName : Option String := none
  occurredAt : Int
  deriving DecidableEq, Repr

structure CloudflareInstallation where
  installationId : String
  appId : String
  environmentId : String
  endpoint : String
  status : InstallationStatus
  lastAppliedVersion : Option Int
  lastAppliedAt : Option Int
  latestDeliveryErrorJson : Option DeliveryError
  createdAt : Int
  updatedAt : Int
  revokedAt : Option Int
  deriving DecidableEq, Repr

structure CloudflareDelivery where
  deliveryId : String
  installationId : String
  appId : String
  environmentId : String
  environmentVersion : Nat
  state : DeliveryState
  attemptCount : Nat
  nextAttemptAt : Int
  leaseOwner : Option Nat
  leaseExpiresAt : Option Int
  lastErrorJson : Option DeliveryError
  createdAt : Int
  deliveredAt : Option Int
  deriving DecidableEq, Repr

structure DeliveryDatabase where
  /-- The `config_version` of an Environment, by App and id. -/
  environments : String → String → Option Nat
  installations : List CloudflareInstallation
  deliveries : List CloudflareDelivery

/-- `pending` or `leased`. -/
def DeliveryState.outstanding : DeliveryState → Bool
  | .pending | .leased => true
  | .delivered | .terminal | .suppressed => false

/-! ## 2. Writes -/

def updateRows {α : Type} (rows : List α) (selected : α → Prop) [DecidablePred selected]
    (update : α → α) : List α :=
  rows.map fun row => if selected row then update row else row

/-- `INSERT OR IGNORE`: the id of a delivery is unique, and so are its installation and version
together. -/
def insertDelivery (rows : List CloudflareDelivery) (row : CloudflareDelivery) :
    List CloudflareDelivery :=
  if ∃ other ∈ rows, other.deliveryId = row.deliveryId ∨
      other.installationId = row.installationId ∧
        other.environmentVersion = row.environmentVersion then rows
  else rows ++ [row]

def pendingDelivery (deliveryId installationId appId environmentId : String)
    (environmentVersion : Nat) (now : Int) : CloudflareDelivery where
  deliveryId
  installationId
  appId
  environmentId
  environmentVersion
  state := .pending
  attemptCount := 0
  nextAttemptAt := now
  leaseOwner := none
  leaseExpiresAt := none
  lastErrorJson := none
  createdAt := now
  deliveredAt := none

namespace DeliveryDatabase

variable (db : DeliveryDatabase)

structure InstallationWrite where
  installationId : String
  endpoint : String
  now : Int
  deriving DecidableEq, Repr

/-- The batch that inserts an installation, unless it is there, and the delivery of the current
version. -/
def createInstallation (appId environmentId : String) (input : InstallationWrite)
    (deliveryId : String) : DeliveryDatabase :=
  { db with
    installations :=
      if ∃ row ∈ db.installations, row.installationId = input.installationId then db.installations
      else db.installations ++
        [{ installationId := input.installationId
           appId
           environmentId
           endpoint := input.endpoint
           status := .active
           lastAppliedVersion := none
           lastAppliedAt := none
           latestDeliveryErrorJson := none
           createdAt := input.now
           updatedAt := input.now
           revokedAt := none }]
    deliveries := match db.environments appId environmentId with
      | none => db.deliveries
      | some configVersion =>
        insertDelivery db.deliveries
          (pendingDelivery deliveryId input.installationId appId environmentId configVersion
            input.now) }

def revokeInstallation (appId environmentId installationId : String) (now : Int) :
    DeliveryDatabase :=
  { db with
    installations := updateRows db.installations
      (fun row => row.appId = appId ∧ row.environmentId = environmentId ∧
        row.installationId = installationId)
      fun row => { row with
        status := .revoked
        revokedAt := row.revokedAt.or (some now)
        updatedAt := now }
    deliveries := updateRows db.deliveries
      (fun row => row.appId = appId ∧ row.environmentId = environmentId ∧
        row.installationId = installationId ∧ row.state.outstanding)
      fun row => { row with state := .suppressed, leaseOwner := none, leaseExpiresAt := none } }

/-- The id of a delivery that the trigger inserts: the first digits of the installation id and the
version in hexadecimal. -/
def versionDeliveryId (installationId : String) (configVersion : Nat) : String :=
  let digits := installationId.toList.filter (· ≠ '-')
  let part (first length : Nat) : String := String.ofList ((digits.drop first).take length)
  let hex := Nat.toDigits 16 configVersion
  part 0 8 ++ "-" ++ part 8 4 ++ "-" ++ part 12 4 ++ "-" ++ part 16 4 ++ "-" ++ part 20 4 ++
    String.ofList (List.replicate (8 - hex.length) '0' ++ hex)

/-- `config_version = config_version + 1`, with the trigger
`cloudflare_environment_version_delivery_after_update`: what is pending is superseded by the version
that every active installation is now to be sent. -/
def bumpConfigVersion (appId environmentId : String) (now : Int) : DeliveryDatabase :=
  match db.environments appId environmentId with
  | none => db
  | some configVersion =>
    let superseded := updateRows db.deliveries
      (fun row => row.appId = appId ∧ row.environmentId = environmentId ∧ row.state = .pending)
      fun row => { row with state := .suppressed }
    let active := db.installations.filter fun row =>
      row.appId = appId ∧ row.environmentId = environmentId ∧ row.status = .active
    { db with
      environments := Function.update db.environments appId
        (Function.update (db.environments appId) environmentId (some (configVersion + 1)))
      deliveries := active.foldl (fun rows installation => insertDelivery rows
        (pendingDelivery (versionDeliveryId installation.installationId (configVersion + 1))
          installation.installationId appId environmentId (configVersion + 1) now)) superseded }

/-- The version of a delivery is sent anew, also where its row has been pruned. -/
def retryTerminalDelivery (appId environmentId installationId deliveryId : String) (now : Int) :
    DeliveryDatabase :=
  match db.environments appId environmentId with
  | none => db
  | some configVersion =>
    if ∃ row ∈ db.installations, row.appId = appId ∧ row.environmentId = environmentId ∧
        row.installationId = installationId ∧ row.status = .active then
      { db with
        deliveries := updateRows
          (insertDelivery db.deliveries
            (pendingDelivery deliveryId installationId appId environmentId configVersion now))
          (fun row => row.appId = appId ∧ row.environmentId = environmentId ∧
            row.installationId = installationId ∧ row.state = .terminal ∧
            row.environmentVersion = configVersion)
          fun row => { row with
            state := .pending
            attemptCount := 0
            nextAttemptAt := now
            leaseOwner := none
            leaseExpiresAt := none
            lastErrorJson := none
            deliveredAt := none } }
    else db

/-- Deliveries that are completed are deleted after a time. -/
def pruneDeliveries (deliveryIds : List String) : DeliveryDatabase :=
  { db with
    deliveries := db.deliveries.filter fun row =>
      ¬ (row.deliveryId ∈ deliveryIds ∧ row.state.outstanding = false) }

/-! ## 3. Claims -/

structure TenantScope where
  appId : String
  environmentId : Option String
  deriving DecidableEq, Repr

def inScope (scope : Option TenantScope) (row : CloudflareDelivery) : Prop :=
  ∀ minted ∈ scope, row.appId = minted.appId ∧
    ∀ environmentId ∈ minted.environmentId, row.environmentId = environmentId

instance decidableInScope (scope : Option TenantScope) (row : CloudflareDelivery) :
    Decidable (inScope scope row) :=
  inferInstanceAs (Decidable (∀ minted ∈ scope, _))

/-- `buildDueCloudflareDeliveriesQuery`. -/
def Due (now : Int) (scope : Option TenantScope) (row : CloudflareDelivery) : Prop :=
  (∃ installation ∈ db.installations,
    installation.installationId = row.installationId ∧ installation.status = .active) ∧
  inScope scope row ∧
  (row.state = .pending ∧ row.nextAttemptAt ≤ now ∨
    row.state = .leased ∧ row.leaseExpiresAt.any (· ≤ now)) ∧
  ¬ ∃ newer ∈ db.deliveries, newer.installationId = row.installationId ∧
    newer.environmentVersion > row.environmentVersion ∧ newer.state.outstanding

instance decidableDue (now : Int) (scope : Option TenantScope) (row : CloudflareDelivery) :
    Decidable (db.Due now scope row) :=
  inferInstanceAs (Decidable (_ ∧ _ ∧ _ ∧ _))

/-- The order of `next_attempt_at, delivery_id`. -/
def attemptOrder (row : CloudflareDelivery) : Int ×ₗ String :=
  toLex (row.nextAttemptAt, row.deliveryId)

def dueIds (now : Int) (scope : Option TenantScope) (limit : Nat) : List String :=
  ((Sorting.sortBy attemptOrder (db.deliveries.filter (db.Due now scope ·))).take limit).map
    (·.deliveryId)

/-- The rows after a claim. -/
def leased (now : Int) (leaseOwner : Nat) (leaseExpiresAt : Int) (limit : Nat)
    (scope : Option TenantScope) : DeliveryDatabase :=
  { db with
    deliveries := updateRows db.deliveries (·.deliveryId ∈ db.dueIds now scope limit)
      fun row => { row with
        state := .leased
        leaseOwner := some leaseOwner
        leaseExpiresAt := some leaseExpiresAt } }

/-- What a claim reads of a delivery and its installation. -/
structure ClaimedDelivery where
  deliveryId : String
  installationId : String
  appId : String
  environmentId : String
  endpoint : String
  environmentVersion : Nat
  attemptCount : Nat
  lastAppliedVersion : Option Int
  registeredAt : Int
  deriving DecidableEq, Repr

def claimedDelivery (row : CloudflareDelivery) (installation : CloudflareInstallation) :
    ClaimedDelivery where
  deliveryId := row.deliveryId
  installationId := row.installationId
  appId := row.appId
  environmentId := row.environmentId
  endpoint := installation.endpoint
  environmentVersion := row.environmentVersion
  attemptCount := row.attemptCount
  lastAppliedVersion := installation.lastAppliedVersion
  registeredAt := installation.createdAt

/-- The rows that an owner has leased, joined with their active installations. -/
def ownedDeliveries (leaseOwner : Nat) : List ClaimedDelivery :=
  (Sorting.sortBy attemptOrder (db.deliveries.filter fun row =>
    row.state = .leased ∧ row.leaseOwner = some leaseOwner)).flatMap fun row =>
    (db.installations.filter fun installation =>
      installation.installationId = row.installationId ∧ installation.status = .active).map
        (claimedDelivery row)

/-- `claimDueCloudflareDeliveries`. -/
def claimDueDeliveries (now : Int) (leaseOwner : Nat) (leaseExpiresAt : Int) (limit : Nat)
    (scope : Option TenantScope) : List ClaimedDelivery × DeliveryDatabase :=
  let after := db.leased now leaseOwner leaseExpiresAt limit scope
  ((after.ownedDeliveries leaseOwner).filter (·.deliveryId ∈ db.dueIds now scope limit), after)

/-- The lease is owned and has not expired. -/
def Renewable (deliveryId : String) (leaseOwner : Nat) (now : Int) (row : CloudflareDelivery) :
    Prop :=
  row.deliveryId = deliveryId ∧ row.state = .leased ∧ row.leaseOwner = some leaseOwner ∧
    row.leaseExpiresAt.any (now < ·)

instance decidableRenewable (deliveryId : String) (leaseOwner : Nat) (now : Int)
    (row : CloudflareDelivery) : Decidable (Renewable deliveryId leaseOwner now row) :=
  inferInstanceAs (Decidable (_ ∧ _ ∧ _ ∧ _))

/-- The rows after a renewal, and whether it has renewed the lease. -/
def renewDeliveryLease (deliveryId : String) (leaseOwner : Nat) (now leaseExpiresAt : Int) :
    Bool × DeliveryDatabase :=
  (db.deliveries.any (Renewable deliveryId leaseOwner now ·),
    { db with
      deliveries := updateRows db.deliveries (Renewable deliveryId leaseOwner now)
        fun row => { row with leaseExpiresAt := some leaseExpiresAt } })

/-! ## 4. The end of a delivery -/

inductive FinishState
  | delivered
  | pending
  | terminal
  deriving DecidableEq, Repr

def FinishState.toState : FinishState → DeliveryState
  | .delivered => .delivered
  | .pending => .pending
  | .terminal => .terminal

structure DeliveryFinish where
  state : FinishState
  now : Int
  appliedVersion : Option Int := none
  nextAttemptAt : Option Int := none
  errorJson : Option DeliveryError := none
  deriving DecidableEq, Repr

/-- The dispatch owns the lease of the delivery. -/
def Owns (deliveryId : String) (leaseOwner : Nat) : Prop :=
  ∃ row ∈ db.deliveries, row.deliveryId = deliveryId ∧ row.leaseOwner = some leaseOwner

instance decidableOwns (deliveryId : String) (leaseOwner : Nat) :
    Decidable (db.Owns deliveryId leaseOwner) :=
  inferInstanceAs (Decidable (∃ row ∈ db.deliveries, _))

/-- `(SELECT … FROM cloudflare_config_deliveries WHERE delivery_id = ?)`. -/
def delivery? (deliveryId : String) : Option CloudflareDelivery :=
  db.deliveries.find? (·.deliveryId = deliveryId)

/-- The first statement of the batch, on an installation. -/
def settledInstallation (deliveryId : String) (input : DeliveryFinish)
    (row : CloudflareInstallation) : CloudflareInstallation :=
  if input.state = .delivered then
    { row with
      lastAppliedVersion := some
        (max (row.lastAppliedVersion.getD 0) (input.appliedVersion.getD 0))
      lastAppliedAt := some input.now
      latestDeliveryErrorJson := none
      updatedAt := input.now }
  else
    { row with
      latestDeliveryErrorJson :=
        if (db.delivery? deliveryId).any
            fun delivery => row.lastAppliedVersion.getD 0 ≤ delivery.environmentVersion then
          input.errorJson
        else row.latestDeliveryErrorJson
      updatedAt := input.now }

/-- The second statement suppresses what the applied version covers. -/
def Covered (deliveryId : String) (input : DeliveryFinish) (row : CloudflareDelivery) : Prop :=
  some row.installationId = (db.delivery? deliveryId).map (·.installationId) ∧
    row.state = .pending ∧
    (row.environmentVersion : Int) ≤ if input.state = .delivered then input.appliedVersion.getD 0 else -1

instance decidableCovered (deliveryId : String) (input : DeliveryFinish)
    (row : CloudflareDelivery) : Decidable (db.Covered deliveryId input row) :=
  inferInstanceAs (Decidable (_ ∧ _ ∧ _))

/-- `finishCloudflareDelivery`: every statement of the batch asks whether the lease is owned. -/
def finishDelivery (deliveryId : String) (leaseOwner : Nat) (input : DeliveryFinish) :
    DeliveryDatabase :=
  { db with
    installations := updateRows db.installations
      (fun row => some row.installationId = (db.delivery? deliveryId).map (·.installationId) ∧
        db.Owns deliveryId leaseOwner)
      (db.settledInstallation deliveryId input)
    deliveries := updateRows
      (updateRows db.deliveries
        (fun row => db.Covered deliveryId input row ∧ db.Owns deliveryId leaseOwner)
        fun row => { row with state := .suppressed })
      (fun row => row.deliveryId = deliveryId ∧ row.leaseOwner = some leaseOwner)
      fun row => { row with
        state := input.state.toState
        attemptCount := row.attemptCount + 1
        nextAttemptAt := input.nextAttemptAt.getD row.nextAttemptAt
        lastErrorJson := input.errorJson
        deliveredAt := if input.state = .delivered then some input.now else none
        leaseOwner := none
        leaseExpiresAt := none } }

end DeliveryDatabase

end CloudflarePush

end Splitch
