/-
# The synchronization of the configuration

`activate`, `recoverSync` and `markSyncOverdue` (`integration_recovery.ts`), `announce` and
`commitSnapshot` (`integration_sync.ts`).

The action `sync` pulls a snapshot and commits it, or fails: what it does to the tables is a
`commitSnapshot` of any payload, at any time.
-/
import Splitch.Library.Runs
import Splitch.Convex.LocalEvaluation

namespace Splitch

namespace Convex

open Cloudflare (ConfigSnapshot ResolutionDetails parseConfigSnapshot)

def SYNC_RECOVERY_DELAY_MS : Int := 60000

def SYNC_DEADLINE_MS : Int := 5000

/-- `(integration.snapshotVersion ?? -1) < version`. -/
def IntegrationRow.isBehind (integration : IntegrationRow) (version : Nat) : Bool :=
  match integration.snapshotVersion with
  | none => true
  | some snapshotVersion => snapshotVersion < version

namespace ComponentTables

/-! ## 1. Recovery and deadline -/

def scheduleSyncRecovery (db : ComponentTables) (now : Int) (integration : IntegrationRow)
    (delay : Int) : ComponentTables :=
  let schedule := fun (db : ComponentTables) =>
    let (jobId, db) := db.runAfter now delay (.recoverSync integration.announcedVersion)
    db.patchIntegration fun row =>
      { row with
        syncRecoveryJobId := some jobId
        syncRecoveryVersion := some integration.announcedVersion }
  match db.job integration.syncRecoveryJobId with
  | none => schedule db
  | some existing =>
    if integration.syncRecoveryVersion = some integration.announcedVersion then db
    else if existing.state = .pending then schedule (db.cancel existing.id)
    else schedule db

def scheduleSyncDeadline (db : ComponentTables) (now : Int) (integration : IntegrationRow) :
    ComponentTables :=
  if ¬ integration.isBehind integration.announcedVersion then db
  else (db.runAfter now SYNC_DEADLINE_MS
    (.markSyncOverdue integration.installationId integration.announcedVersion)).2

def cancelPendingSyncRecovery (db : ComponentTables) (integration : IntegrationRow) :
    ComponentTables :=
  match db.job integration.syncRecoveryJobId with
  | none => db
  | some existing => if existing.state = .pending then db.cancel existing.id else db

def recoverSyncHandler (db : ComponentTables) (now : Int) (environmentVersion : Nat) :
    ComponentTables :=
  match db.integration with
  | none => db
  | some integration =>
    if integration.state ≠ .active ∨
        integration.syncRecoveryVersion ≠ some environmentVersion then db
    else if ¬ integration.isBehind environmentVersion then
      db.patchIntegration fun row =>
        { row with syncRecoveryJobId := none, syncRecoveryVersion := none }
    else
      let synced := (db.runAfter now 0 .sync).2
      let (jobId, scheduled) :=
        synced.runAfter now SYNC_RECOVERY_DELAY_MS (.recoverSync environmentVersion)
      scheduled.patchIntegration fun row =>
        { row with
          syncRecoveryJobId := some jobId
          syncRecoveryVersion := some environmentVersion }

def markSyncOverdueHandler (db : ComponentTables) (installationId : String)
    (environmentVersion : Nat) : ComponentTables :=
  match db.integration with
  | none => db
  | some integration =>
    if integration.state ≠ .active ∨ integration.installationId ≠ installationId ∨
        integration.syncOverdueVersion.isSome then db
    else if ¬ integration.isBehind environmentVersion then db
    else db.patchIntegration fun row => { row with syncOverdueVersion := some environmentVersion }

/-! ## 2. Activation and announcement -/

def activateHandler (db : ComponentTables) (now : Int) (appId environmentId : String)
    (environmentVersion : Nat) : Except String ComponentTables := do
  let integration ← db.requiredIntegration
  let announcedVersion := max integration.announcedVersion environmentVersion
  let patched := db.patchIntegration fun row =>
    { row with
      appId := some appId
      environmentId := some environmentId
      announcedVersion
      state := .active }
  let recovering := patched.scheduleSyncRecovery now
    { integration with announcedVersion, state := .active } SYNC_RECOVERY_DELAY_MS
  let bounded := recovering.scheduleSyncDeadline now { integration with announcedVersion }
  let backed := bounded.ensureSyncBackstopScheduled now
  let retained ← backed.ensureRetentionScheduled now
  return retained.scheduleRecoveryAdoption now { integration with state := .active }

inductive Announcement
  | scheduled
  | duplicate
  deriving DecidableEq, Repr

def announceHandler (db : ComponentTables) (now : Int) (deliveryId appId environmentId : String)
    (environmentVersion : Nat) : Except String (Announcement × ComponentTables) := do
  let integration ← db.requiredIntegration
  if integration.state ≠ .active ∨ integration.appId ≠ some appId ∨
      integration.environmentId ≠ some environmentId then
    throw "Config nudge does not match the active Convex installation"
  else
    let prior ← unique (·.deliveryId = deliveryId) db.webhookClaims
    if prior.isSome ∨ environmentVersion ≤ integration.announcedVersion then
      return (.duplicate, db)
    else
      let claimed : ComponentTables :=
        { db with webhookClaims := db.webhookClaims ++ [{ deliveryId, claimedAt := now }] }
      let retained ← claimed.ensureRetentionScheduled now
      let announced := retained.patchIntegration fun row =>
        { row with announcedVersion := environmentVersion }
      let synced := (announced.runAfter now 0 .sync).2
      let next := { integration with announcedVersion := environmentVersion }
      let recovering := synced.scheduleSyncRecovery now next SYNC_RECOVERY_DELAY_MS
      return (.scheduled, recovering.scheduleSyncDeadline now next)

/-! ## 3. Commit -/

def commitSnapshotHandler (env : ConvexEnv) (db : ComponentTables) (payload : String) :
    Except String ComponentTables := do
  let snapshot ← parseConfigSnapshot env.core payload "Convex"
  let integration ← db.requiredIntegration
  if integration.state ≠ .active then throw "@splitch/convex is not active"
  else if integration.appId ≠ some snapshot.appId ∨
      integration.environmentId ≠ some snapshot.environmentId then
    throw "Convex snapshot App or Environment does not match the installation"
  else if snapshot.environmentVersion < integration.announcedVersion then
    throw ("Convex snapshot version " ++ toString snapshot.environmentVersion ++
      " is below announced version " ++ toString integration.announcedVersion)
  else if db.snapshot.any (snapshot.environmentVersion < ·.environmentVersion) then
    throw "Convex snapshot cannot move backwards"
  else
    let stored : ComponentTables :=
      { db with snapshot := some { environmentVersion := snapshot.environmentVersion, payload } }
    let cancelled := stored.cancelPendingSyncRecovery integration
    return cancelled.patchIntegration fun row =>
      { row with
        snapshotVersion := some snapshot.environmentVersion
        syncRecoveryJobId := none
        syncRecoveryVersion := none
        syncOverdueVersion := none }

end ComponentTables

/-! ## 4. The machine -/

structure InitializeArgs where
  installationId : String
  webhookSecret : String
  componentIdentityKey : String
  callbackUrl : String
  endpoint : String
  deriving DecidableEq, Repr

/-- The row that `initialize` inserts. -/
def initializedRow (args : InitializeArgs) : IntegrationRow where
  installationId := args.installationId
  webhookSecret := args.webhookSecret
  componentIdentityKey := args.componentIdentityKey
  endpoint := args.endpoint
  callbackUrl := args.callbackUrl
  appId := none
  environmentId := none
  announcedVersion := 0
  snapshotVersion := none
  syncBackstopJobId := none
  syncBackstopDueAt := none
  syncRecoveryJobId := none
  syncRecoveryVersion := none
  syncOverdueVersion := none
  recoveryAdoptionJobId := none
  recoveryGeneration := none
  retentionJobId := none
  retentionDueAt := none
  exposureDrainJobId := none
  exposureDrainDueAt := none
  state := .pending

/-- The tables of a component that holds nothing but its installation row. -/
def initialTables (integration : Option IntegrationRow) : ComponentTables where
  integration
  snapshot := none
  assignments := []
  evaluationClaims := []
  metricEventClaims := []
  entityDeletions := []
  exposureOutbox := []
  metricEventOutbox := []
  webhookClaims := []
  scheduled := []
  nextJobId := 0

inductive SyncAction
  | activate (appId environmentId : String) (environmentVersion : Nat)
  | announce (deliveryId appId environmentId : String) (environmentVersion : Nat)
  | commitSnapshot (payload : String)
  | runScheduled (id : Nat)
  | evaluate (args : EvaluateArgs)
  deriving DecidableEq, Repr

structure SyncEvent where
  now : Int
  action : SyncAction
  deriving DecidableEq, Repr

namespace ComponentTables

/-- A scheduled mutation that is due runs, once.  `sync` is over when it is started: its commit is an
event of its own.  The backstop, retention, the adoption of existing work, the drain, the deliveries and
the continued deletion of an Entity do not run: their jobs stay listed. -/
def runScheduled (db : ComponentTables) (now : Int) (id : Nat) : ComponentTables :=
  match db.scheduled.find? (·.id = id) with
  | none => db
  | some job =>
    if now < job.dueAt then db
    else match job.function with
    | .recoverSync environmentVersion =>
      (db.cancel id).recoverSyncHandler now environmentVersion
    | .markSyncOverdue installationId environmentVersion =>
      (db.cancel id).markSyncOverdueHandler installationId environmentVersion
    | .sync => db.cancel id
    | _ => db

/-- What throws leaves the tables. -/
def committing {α : Type} (db : ComponentTables) (outcome : Except String (α × ComponentTables)) :
    Except String α × ComponentTables :=
  match outcome with
  | .error message => (.error message, db)
  | .ok (answer, after) => (.ok answer, after)

def syncStep (env : ConvexEnv) (db : ComponentTables) (event : SyncEvent) :
    Except String (Option ResolutionDetails) × ComponentTables :=
  match event.action with
  | .activate appId environmentId environmentVersion =>
    db.committing ((db.activateHandler event.now appId environmentId environmentVersion).map
      (none, ·))
  | .announce deliveryId appId environmentId environmentVersion =>
    db.committing ((db.announceHandler event.now deliveryId appId environmentId
      environmentVersion).map fun announced => (none, announced.2))
  | .commitSnapshot payload =>
    db.committing ((db.commitSnapshotHandler env payload).map (none, ·))
  | .runScheduled id => (.ok none, db.runScheduled event.now id)
  | .evaluate args =>
    db.committing ((evaluateHandler env db event.now args).map fun evaluated =>
      (some evaluated.1, evaluated.2))

end ComponentTables

/-- The component of one installation, from the installation row on. -/
def configurationSync (env : ConvexEnv) (args : InitializeArgs) :
    Machine ComponentTables SyncEvent (Except String (Option ResolutionDetails)) where
  init := initialTables (some (initializedRow args))
  step := ComponentTables.syncStep env

end Convex

end Splitch
