/-
# The tables of the Convex component

The tables (`schema.ts`), the scheduled functions of the platform, and what every mutation uses of
them: the installation row (`integration_state.ts`), the lease of a delivery and the jitter of a
delay (`delivery_policy.ts`), the job of retention (`retention.ts`), of the Exposure drain
(`exposure_batch.ts`), of the backstop (`integration_backstop.ts`) and of the adoption of existing
work (`integration_recovery.ts`).

A mutation is atomic: it either commits what it returns or throws and leaves the tables.  A table is
the list of its rows in the order of their insertion, and an instant is a number of milliseconds.  A
scheduled function is listed until it has run or is cancelled; only an action is seen in progress.
-/
import Splitch.Library.Utf16
import Splitch.Library.Checks
import Splitch.Cloudflare.EvaluatePath

namespace Splitch

namespace Convex

open Cloudflare (JsonText ResolutionDetails)

/-! ## 1. Rows -/

inductive InstallState
  | pending
  | active
  | revoked
  deriving DecidableEq, Repr

structure IntegrationRow where
  installationId : String
  webhookSecret : String
  componentIdentityKey : String
  endpoint : String
  callbackUrl : String
  appId : Option String
  environmentId : Option String
  announcedVersion : Nat
  snapshotVersion : Option Nat
  syncBackstopJobId : Option Nat
  syncBackstopDueAt : Option Int
  syncRecoveryJobId : Option Nat
  syncRecoveryVersion : Option Nat
  syncOverdueVersion : Option Nat
  recoveryAdoptionJobId : Option Nat
  recoveryGeneration : Option Nat
  retentionJobId : Option Nat
  retentionDueAt : Option Int
  exposureDrainJobId : Option Nat
  exposureDrainDueAt : Option Int
  state : InstallState
  deriving DecidableEq, Repr

structure SnapshotRow where
  environmentVersion : Nat
  payload : String
  deriving DecidableEq, Repr

structure AssignmentRow where
  experimentId : String
  idType : String
  targetingKeyHash : String
  runId : String
  variant : String
  deriving DecidableEq, Repr

structure EvaluationClaimRow where
  idempotencyKey : String
  fingerprint : String
  result : ResolutionDetails
  createdAt : Int
  deriving DecidableEq, Repr

inductive MetricEventState
  | queued
  | accepted
  | terminal
  | suppressed
  deriving DecidableEq, Repr

structure MetricEventClaimRow where
  eventId : String
  fingerprint : String
  createdAt : Int
  state : MetricEventState
  completedAt : Option Int
  lastError : Option String
  deriving DecidableEq, Repr

structure EntityDeletionRow where
  idType : String
  targetingKeyHash : String
  deriving DecidableEq, Repr

inductive DeliveryState
  | pending
  | delivering
  | accepted
  | terminal
  | suppressed
  deriving DecidableEq, Repr

structure ExposureRow where
  exposureId : String
  installationId : String
  evaluationFingerprint : String
  flagKey : String
  experimentId : String
  runId : String
  runConfigHash : String
  idType : String
  targetingKeyHash : Option String
  targetingKey : Option String
  attributesJson : Option JsonText
  variantName : String
  exposedAtCommitTs : Int
  createdAt : Int
  state : DeliveryState
  attemptCount : Nat
  nextAttemptAt : Int
  recoveryWatchGeneration : Option Nat
  terminalAt : Option Int
  lastError : Option String
  deriving DecidableEq, Repr

structure MetricEventRow where
  eventId : String
  installationId : String
  fingerprint : String
  eventName : String
  idType : String
  targetingKeyHash : String
  targetingKey : String
  fieldsJson : JsonText
  dimensionsJson : JsonText
  createdAt : Int
  state : DeliveryState
  attemptCount : Nat
  nextAttemptAt : Int
  recoveryWatchGeneration : Option Nat
  lastError : Option String
  deriving DecidableEq, Repr

structure WebhookClaimRow where
  deliveryId : String
  claimedAt : Int
  deriving DecidableEq, Repr

/-! ## 2. Scheduled functions -/

inductive ScheduledFunction
  | sync
  | recoverSync (environmentVersion : Nat)
  | markSyncOverdue (installationId : String) (environmentVersion : Nat)
  | syncBackstop (installationId : String) (dueAt : Int)
  | purgeExpired (dueAt : Int)
  | drain
  | deliver (exposureId : String)
  | watchDelivery (exposureId : String)
  | deliverMetricEvent (eventId : String)
  | watchMetricEvent (eventId : String)
  | continueDeleteEntity (idType targetingKeyHash : String)
  | adoptExistingWork (generation : Nat)
  deriving DecidableEq, Repr

inductive JobState
  | pending
  | inProgress
  deriving DecidableEq, Repr

structure ScheduledJob where
  id : Nat
  function : ScheduledFunction
  dueAt : Int
  state : JobState
  deriving DecidableEq, Repr

structure ComponentTables where
  integration : Option IntegrationRow
  snapshot : Option SnapshotRow
  assignments : List AssignmentRow
  evaluationClaims : List EvaluationClaimRow
  metricEventClaims : List MetricEventClaimRow
  entityDeletions : List EntityDeletionRow
  exposureOutbox : List ExposureRow
  metricEventOutbox : List MetricEventRow
  webhookClaims : List WebhookClaimRow
  scheduled : List ScheduledJob
  nextJobId : Nat
  deriving DecidableEq, Repr

/-- `.unique()` of a query. -/
def unique {α : Type} (p : α → Bool) (rows : List α) : Except String (Option α) :=
  match rows.filter p with
  | [] => .ok none
  | [row] => .ok (some row)
  | _ => .error "unique() query returned more than one result"

namespace ComponentTables

/-- `db.system.get`. -/
def job (db : ComponentTables) (id : Option Nat) : Option ScheduledJob :=
  id.bind fun id => db.scheduled.find? (·.id = id)

/-- `scheduler.runAfter`: the job and the tables with it. -/
def runAfter (db : ComponentTables) (now delay : Int) (function : ScheduledFunction) :
    Nat × ComponentTables :=
  (db.nextJobId,
    { db with
      scheduled := db.scheduled ++
        [{ id := db.nextJobId, function, dueAt := now + max 0 delay, state := .pending }]
      nextJobId := db.nextJobId + 1 })

/-- `scheduler.cancel`. -/
def cancel (db : ComponentTables) (id : Nat) : ComponentTables :=
  { db with scheduled := db.scheduled.filter (·.id ≠ id) }

/-- A patch of the installation row. -/
def patchIntegration (db : ComponentTables) (f : IntegrationRow → IntegrationRow) :
    ComponentTables :=
  { db with integration := db.integration.map f }

def requiredIntegration (db : ComponentTables) : Except String IntegrationRow :=
  match db.integration with
  | none => .error "@splitch/convex is not initialized"
  | some integration => .ok integration

end ComponentTables

/-! ## 3. Delays -/

def DELIVERY_LEASE_MS : Int := 60000

def SYNC_BACKSTOP_INTERVAL_MS : Int := 600000

def RECOVERY_GENERATION : Nat := 2

def RETENTION_MS : Int := 30 * 86400000

/-- The source computes it in floating point. -/
def deterministicJitter (baseDelayMs : Int) (seed : String) : Int :=
  let hash : Nat := seed.toList.foldl
    (fun value character => (value * 31 + Utf16.firstUnit character) % 2 ^ 32) 0
  round ((baseDelayMs : Rat) * (4 / 5 + (hash : Rat) / 0xffffffff * (2 / 5)))

/-! ## 4. Retention -/

namespace ComponentTables

/-- When the first row of a state is due, by an index on a time that every row of it must have. -/
def firstDue {α : Type} (time : α → Option Int) (missing : String) (rows : List α) :
    Except String (Option Int) :=
  if ∃ row ∈ rows, time row = none then .error missing
  else .ok ((rows.filterMap time).min?.map (· + RETENTION_MS))

def nextRetentionDueAt (db : ComponentTables) : Except String (Option Int) := do
  let completed := fun state => firstDue (·.completedAt)
    "Completed Convex Metric Event claim is missing completedAt"
    (db.metricEventClaims.filter (·.state = state))
  let terminalExposure ← firstDue (·.terminalAt) "Terminal Convex Exposure is missing terminalAt"
    (db.exposureOutbox.filter (·.state = .terminal))
  let accepted ← completed .accepted
  let terminal ← completed .terminal
  let suppressed ← completed .suppressed
  let due := [(db.evaluationClaims.map (·.createdAt)).min?.map (· + RETENTION_MS),
    (db.webhookClaims.map (·.claimedAt)).min?.map (· + RETENTION_MS),
    terminalExposure, accepted, terminal, suppressed]
  return (due.filterMap id).min?

def ensureRetentionScheduled (db : ComponentTables) (now : Int) :
    Except String ComponentTables := do
  match db.integration with
  | none => return db
  | some integration =>
    if (db.job integration.retentionJobId).isSome then return db
    else match ← db.nextRetentionDueAt with
      | none => return db
      | some dueAt =>
        let (jobId, db) := db.runAfter now (dueAt - now) (.purgeExpired dueAt)
        return db.patchIntegration fun integration =>
          { integration with retentionJobId := some jobId, retentionDueAt := some dueAt }

/-! ## 5. Drain, backstop and adoption -/

def ensureExposureDrainScheduled (db : ComponentTables) (now dueAt : Int) : ComponentTables :=
  match db.integration with
  | none => db
  | some integration =>
    if integration.state ≠ .active then db
    else
      let schedule := fun (db : ComponentTables) =>
        let (jobId, db) := db.runAfter now (dueAt - now) .drain
        db.patchIntegration fun integration =>
          { integration with exposureDrainJobId := some jobId, exposureDrainDueAt := some dueAt }
      match db.job integration.exposureDrainJobId with
      | none => schedule db
      | some existing =>
        if existing.state = .inProgress then db
        else if integration.exposureDrainDueAt.any (· ≤ dueAt) then db
        else schedule (db.cancel existing.id)

/-- `scheduleNext`. -/
def scheduleNextBackstop (db : ComponentTables) (now : Int) (integration : IntegrationRow) :
    ComponentTables :=
  let delay := min SYNC_BACKSTOP_INTERVAL_MS (deterministicJitter SYNC_BACKSTOP_INTERVAL_MS
    (integration.installationId ++ ":" ++ toString now))
  let dueAt := now + delay
  let (jobId, db) := db.runAfter now delay (.syncBackstop integration.installationId dueAt)
  db.patchIntegration fun row =>
    { row with syncBackstopJobId := some jobId, syncBackstopDueAt := some dueAt }

def ensureSyncBackstopScheduled (db : ComponentTables) (now : Int) : ComponentTables :=
  match db.integration with
  | none => db
  | some integration =>
    if integration.state ≠ .active then db
    else if (db.job integration.syncBackstopJobId).isSome then db
    else db.scheduleNextBackstop now integration

def scheduleRecoveryAdoption (db : ComponentTables) (now : Int) (integration : IntegrationRow) :
    ComponentTables :=
  if RECOVERY_GENERATION ≤ integration.recoveryGeneration.getD 0 then db
  else if (db.job integration.recoveryAdoptionJobId).isSome then db
  else
    let (jobId, db) := db.runAfter now 0 (.adoptExistingWork RECOVERY_GENERATION)
    db.patchIntegration fun row => { row with recoveryAdoptionJobId := some jobId }

end ComponentTables

end Convex

end Splitch
