/-
# Installation and removal of the component

`install` (`integration.ts`), `initialize` (`integration_initialize.ts`), the pull of `sync`
(`integration_remote.ts`), `uninstall` with the mutations it runs (`integration_cleanup.ts`), and
`queueMetricEvent` (`metric_event_state.ts`), which makes the rows that an uninstall purges.

An action is not atomic: it runs step by step, a step being one query, mutation or request, and it
may stop between any two of them.  One installation or removal runs at a time.  What a pull of `sync`
does to the tables is its `commitSnapshot`, at any time.
-/
import Splitch.Convex.ConfigurationSync

namespace Splitch

namespace Convex

open Cloudflare (JsonText EvaluationContext ResolutionDetails)

structure LifecycleEnv extends ConvexEnv where
  /-- `configurationCallbackUrlError`. -/
  callbackUrlError : String → Option String
  /-- `canonicalJson` of the name, the type and the hash of the key, the fields and dimensions. -/
  metricEventJson : String → String → String → JsonText → JsonText → String
  /-- The App and the Environment of the API Key. -/
  remoteAppId : String
  remoteEnvironmentId : String

/-! ## 1. Metric Events -/

structure TrackRequest where
  eventName : String
  targetingKey : String
  idType : String
  eventId : String
  fields : JsonText
  dimensions : JsonText
  deriving DecidableEq, Repr

/-- The state in the text of an error, `toUpperCase`. -/
def MetricEventState.name : MetricEventState → String
  | .queued => "QUEUED"
  | .accepted => "ACCEPTED"
  | .terminal => "TERMINAL"
  | .suppressed => "SUPPRESSED"

namespace ComponentTables

def metricEventClaimOf (db : ComponentTables) (eventId : String) :
    Except String (Option MetricEventClaimRow) :=
  unique (·.eventId = eventId) db.metricEventClaims

def metricEventRow (db : ComponentTables) (eventId : String) :
    Except String (Option MetricEventRow) :=
  unique (·.eventId = eventId) db.metricEventOutbox

def replayMetricEventClaim (db : ComponentTables) (now : Int) (eventId fingerprint : String) :
    Except String (Option ComponentTables) := do
  match ← db.metricEventClaimOf eventId with
  | none => return none
  | some claim =>
    if claim.fingerprint ≠ fingerprint then
      throw "EVENT_ID_CONFLICT: eventId was reused for different Metric Event content"
    else if claim.state = .terminal ∨ claim.state = .suppressed then
      throw ("METRIC_EVENT_DELIVERY_" ++ claim.state.name ++ ": " ++
        claim.lastError.getD "Metric Event delivery stopped")
    else
      let delivery ← if claim.state = .queued then db.metricEventRow eventId
        else pure none
      if claim.state = .queued ∧ delivery.isNone then
        throw "METRIC_EVENT_OUTBOX_MISSING: Queued Metric Event has no delivery row"
      else
        let retained ← db.ensureRetentionScheduled now
        return some retained

def insertMetricEvent (db : ComponentTables) (claim : MetricEventClaimRow) (row : MetricEventRow) :
    ComponentTables :=
  { db with
    metricEventClaims := db.metricEventClaims ++ [claim]
    metricEventOutbox := db.metricEventOutbox ++ [row] }

def queueMetricEventHandler (env : LifecycleEnv) (db : ComponentTables) (now : Int)
    (args : TrackRequest) : Except String ComponentTables := do
  let integration ← db.requiredIntegration
  if integration.state ≠ .active then throw "@splitch/convex is not installed"
  else
    let targetingKeyHash := localTargetingKeyHash env.toConvexEnv integration.componentIdentityKey
      { targetingKey := args.targetingKey, idType := args.idType, attributes := "\x7b\x7d" }
    let fingerprint := env.sha256Hex (env.metricEventJson args.eventName args.idType
      targetingKeyHash args.fields args.dimensions)
    match ← db.replayMetricEventClaim now args.eventId fingerprint with
    | some replay => return replay
    | none =>
      match ← db.metricEventRow args.eventId with
      | some orphanedDelivery =>
        if orphanedDelivery.fingerprint ≠ fingerprint then
          throw "EVENT_ID_CONFLICT: eventId was reused for different Metric Event content"
        else throw "METRIC_EVENT_CLAIM_MISSING: Metric Event delivery has no idempotency claim"
      | none =>
        let deletion ← db.deletionOf args.idType targetingKeyHash
        if deletion.isSome then throw "ENTITY_DELETION_IN_PROGRESS"
        else
          let inserted := db.insertMetricEvent
            { eventId := args.eventId
              fingerprint
              createdAt := now
              state := .queued
              completedAt := none
              lastError := none }
            { eventId := args.eventId
              installationId := integration.installationId
              fingerprint
              eventName := args.eventName
              idType := args.idType
              targetingKeyHash
              targetingKey := args.targetingKey
              fieldsJson := args.fields
              dimensionsJson := args.dimensions
              createdAt := now
              state := .pending
              attemptCount := 0
              nextAttemptAt := now
              recoveryWatchGeneration := some 1
              lastError := none }
          let delivering := (inserted.runAfter now 0 (.deliverMetricEvent args.eventId)).2
          let watched :=
            (delivering.runAfter now DELIVERY_LEASE_MS (.watchMetricEvent args.eventId)).2
          watched.ensureRetentionScheduled now

end ComponentTables

/-! ## 2. Initialization -/

def needsCallbackRepair (env : LifecycleEnv) (existing : IntegrationRow) : Bool :=
  existing.state = InstallState.pending ∧ (env.callbackUrlError existing.callbackUrl).isSome

/-- `derive` is the callback of the site, if it has one. -/
def installCallbackUrl (env : LifecycleEnv) (existing : Option IntegrationRow)
    (derive : Except String String) : Except String String :=
  match existing with
  | none => derive
  | some existing =>
    if needsCallbackRepair env existing then derive else .ok existing.callbackUrl

namespace ComponentTables

def initializeHandler (env : LifecycleEnv) (db : ComponentTables) (now : Int)
    (args : InitializeArgs) : Option IntegrationRow × ComponentTables :=
  match db.integration with
  | some existing =>
    let backed := db.ensureSyncBackstopScheduled now
    if needsCallbackRepair env existing ∧ existing.callbackUrl ≠ args.callbackUrl then
      let repaired := backed.patchIntegration fun row => { row with callbackUrl := args.callbackUrl }
      (repaired.integration, repaired)
    else (some existing, backed)
  | none =>
    let inserted : ComponentTables := { db with integration := some (initializedRow args) }
    (inserted.integration, inserted)

/-! ## 3. Removal -/

def cancelSyncBackstop (db : ComponentTables) (integration : IntegrationRow) : ComponentTables :=
  let cancelled : ComponentTables := match db.job integration.syncBackstopJobId with
    | none => db
    | some job => if job.state = JobState.pending then db.cancel job.id else db
  cancelled.patchIntegration fun row =>
    { row with syncBackstopJobId := none, syncBackstopDueAt := none }

def revokeLocalHandler (db : ComponentTables) : Except String ComponentTables := do
  let integration ← db.requiredIntegration
  let cancelled := db.cancelSyncBackstop integration
  return cancelled.patchIntegration fun row => { row with state := .revoked }

def PURGE_BATCH : Nat := 100

/-- The first table that has rows loses a batch of them; the number of rows that are deleted. -/
def purgeBatchHandler (db : ComponentTables) : Nat × ComponentTables :=
  if db.metricEventOutbox ≠ [] then
    (min PURGE_BATCH db.metricEventOutbox.length,
      { db with metricEventOutbox := db.metricEventOutbox.drop PURGE_BATCH })
  else if db.exposureOutbox ≠ [] then
    (min PURGE_BATCH db.exposureOutbox.length,
      { db with exposureOutbox := db.exposureOutbox.drop PURGE_BATCH })
  else if db.metricEventClaims ≠ [] then
    (min PURGE_BATCH db.metricEventClaims.length,
      { db with metricEventClaims := db.metricEventClaims.drop PURGE_BATCH })
  else if db.assignments ≠ [] then
    (min PURGE_BATCH db.assignments.length,
      { db with assignments := db.assignments.drop PURGE_BATCH })
  else if db.evaluationClaims ≠ [] then
    (min PURGE_BATCH db.evaluationClaims.length,
      { db with evaluationClaims := db.evaluationClaims.drop PURGE_BATCH })
  else if db.entityDeletions ≠ [] then
    (min PURGE_BATCH db.entityDeletions.length,
      { db with entityDeletions := db.entityDeletions.drop PURGE_BATCH })
  else if db.webhookClaims ≠ [] then
    (min PURGE_BATCH db.webhookClaims.length,
      { db with webhookClaims := db.webhookClaims.drop PURGE_BATCH })
  else if db.snapshot.isSome then (1, { db with snapshot := none })
  else if db.integration.isSome then (1, { db with integration := none })
  else (0, db)

end ComponentTables

/-! ## 4. The machine -/

structure InstallArgs where
  installationId : String
  webhookSecret : String
  componentIdentityKey : String
  endpoint : String
  /-- `configurationCallbackUrl` of the site. -/
  siteCallbackUrl : Except String String

/-- What an `install` does next. -/
inductive InstallStage
  | initializing (callbackUrl : String)
  | registering (initialized : IntegrationRow)
  | activating (environmentVersion : Nat)
  | reading (environmentVersion : Nat)
  | pulling (integration : IntegrationRow) (environmentVersion : Nat)
  | committing (payload : String) (environmentVersion : Nat)

/-- What an `uninstall` does next. -/
inductive UninstallStage
  | deleting (integration : IntegrationRow)
  | revoking
  | purging

inductive RunningAction
  | install (args : InstallArgs) (stage : InstallStage)
  | uninstall (stage : UninstallStage)

/-- What the request of a step meets: it fails, or it is answered, a pull that finds a new version
with this payload. -/
inductive RemoteAnswer
  | failed
  | answered (payload : String)
  deriving DecidableEq, Repr

inductive LifecycleAction
  | install (args : InstallArgs)
  | uninstall
  | proceed (answer : RemoteAnswer)
  | stop
  | publish (environmentVersion : Nat)
  | announce (deliveryId appId environmentId : String) (environmentVersion : Nat)
  | commitSnapshot (payload : String)
  | runScheduled (id : Nat)
  | evaluate (args : EvaluateArgs)
  | queueMetricEvent (args : TrackRequest)

structure LifecycleEvent where
  now : Int
  action : LifecycleAction

/-- The component, the version of the remote Environment and the action that runs. -/
structure LifecycleWorld where
  db : ComponentTables
  environmentVersion : Nat
  running : Option RunningAction

inductive LifecycleAnswer
  | idle
  | rejected
  /-- `install` resolves and returns this version. -/
  | installed (environmentVersion : Nat)
  deriving DecidableEq, Repr

namespace LifecycleWorld

/-- The action goes on to a stage of its own. -/
def goOn (world : LifecycleWorld) (db : ComponentTables) (running : RunningAction) :
    LifecycleAnswer × LifecycleWorld :=
  (.idle, { world with db, running := some running })

def rejected (world : LifecycleWorld) : LifecycleAnswer × LifecycleWorld :=
  (.rejected, { world with running := none })

/-- The remote registers the installation, or the one it already has, in the Environment. -/
def installStep (env : LifecycleEnv) (world : LifecycleWorld) (now : Int) (args : InstallArgs)
    (answer : RemoteAnswer) : InstallStage → LifecycleAnswer × LifecycleWorld
  | .initializing callbackUrl =>
    match world.db.initializeHandler env now
        { installationId := args.installationId
          webhookSecret := args.webhookSecret
          componentIdentityKey := args.componentIdentityKey
          callbackUrl
          endpoint := args.endpoint } with
    | (none, db) => { world with db }.rejected
    | (some initialized, db) => world.goOn db (.install args (.registering initialized))
  | .registering _ =>
    match answer with
    | .failed => world.rejected
    | .answered _ => world.goOn world.db (.install args (.activating world.environmentVersion))
  | .activating environmentVersion =>
    match world.db.activateHandler now env.remoteAppId env.remoteEnvironmentId environmentVersion with
    | .error _ => world.rejected
    | .ok db => world.goOn db (.install args (.reading environmentVersion))
  | .reading environmentVersion =>
    match world.db.integration with
    | none => world.rejected
    | some integration =>
      if integration.state = .revoked then world.rejected
      else world.goOn world.db (.install args (.pulling integration environmentVersion))
  | .pulling integration environmentVersion =>
    match answer with
    | .failed => world.rejected
    | .answered payload =>
      if integration.snapshotVersion = some world.environmentVersion then
        (.installed environmentVersion, { world with running := none })
      else world.goOn world.db (.install args (.committing payload environmentVersion))
  | .committing payload environmentVersion =>
    match world.db.commitSnapshotHandler env.toConvexEnv payload with
    | .error _ => world.rejected
    | .ok db => (.installed environmentVersion, { world with db, running := none })

def uninstallStep (world : LifecycleWorld) (answer : RemoteAnswer) :
    UninstallStage → LifecycleAnswer × LifecycleWorld
  | .deleting _ =>
    match answer with
    | .failed => world.rejected
    | .answered _ => world.goOn world.db (.uninstall .revoking)
  | .revoking =>
    match world.db.revokeLocalHandler with
    | .error _ => world.rejected
    | .ok db => world.goOn db (.uninstall .purging)
  | .purging =>
    match world.db.purgeBatchHandler with
    | (0, db) => (.idle, { world with db, running := none })
    | (_ + 1, db) => world.goOn db (.uninstall .purging)

/-- A mutation that throws leaves the tables. -/
def committed (world : LifecycleWorld) (outcome : Except String ComponentTables) :
    LifecycleAnswer × LifecycleWorld :=
  match outcome with
  | .error _ => (.idle, world)
  | .ok db => (.idle, { world with db })

def component (env : LifecycleEnv) (world : LifecycleWorld) (event : SyncEvent) :
    LifecycleAnswer × LifecycleWorld :=
  (.idle, { world with db := (world.db.syncStep env.toConvexEnv event).2 })

def step (env : LifecycleEnv) (world : LifecycleWorld) (event : LifecycleEvent) :
    LifecycleAnswer × LifecycleWorld :=
  match event.action with
  | .install args =>
    if world.running.isSome then (.idle, world)
    else match installCallbackUrl env world.db.integration args.siteCallbackUrl with
      | .error _ => (.rejected, world)
      | .ok callbackUrl => world.goOn world.db (.install args (.initializing callbackUrl))
  | .uninstall =>
    if world.running.isSome then (.idle, world)
    else match world.db.integration with
      | none => (.idle, world)
      | some integration => world.goOn world.db (.uninstall (.deleting integration))
  | .proceed answer =>
    match world.running with
    | none => (.idle, world)
    | some (.install args stage) => world.installStep env event.now args answer stage
    | some (.uninstall stage) => world.uninstallStep answer stage
  | .stop => (.idle, { world with running := none })
  | .publish environmentVersion =>
    (.idle, { world with environmentVersion := max world.environmentVersion environmentVersion })
  | .announce deliveryId appId environmentId environmentVersion =>
    world.component env
      { now := event.now, action := .announce deliveryId appId environmentId environmentVersion }
  | .commitSnapshot payload =>
    world.component env { now := event.now, action := .commitSnapshot payload }
  | .runScheduled id => world.component env { now := event.now, action := .runScheduled id }
  | .evaluate args => world.component env { now := event.now, action := .evaluate args }
  | .queueMetricEvent args => world.committed (world.db.queueMetricEventHandler env event.now args)

end LifecycleWorld

/-- A component that was never installed. -/
def installLifecycle (env : LifecycleEnv) :
    Machine LifecycleWorld LifecycleEvent LifecycleAnswer where
  init := { db := initialTables none, environmentVersion := 0, running := none }
  step := LifecycleWorld.step env

end Convex

end Splitch
