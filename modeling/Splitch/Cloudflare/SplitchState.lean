/-
# The Durable Object of the Cloudflare runtime

`SplitchState` (`state.ts`) over its SQL tables (`state-storage.ts`, `state-schema.ts`), with the
delivery of its Exposures (`exposure-delivery.ts`).

An event is one turn of the object: what runs between two awaits.  `evaluateDetails` awaits three
times, the hash of its request, the hash of its Entity and its evaluation, and what it keeps across
an await is an `EvaluationCall`; an alarm awaits each of its deliveries, and keeps an `AlarmRun`.
The runtime never runs two alarms of one object at once.

A table is the list of its rows in the order of their insertion.  An instant is a number of
milliseconds, also where the source stores it as ISO text.  The hashes, and the canonical JSON of a
request, are parameters.  `serial`, `idempotencyKey`, `idType` and `targetingKeyHash` of an Exposure
row and the log are not stored by the source; nothing of the code reads them.
-/
import Splitch.Library.Utf16
import Splitch.Library.Runs
import Splitch.Cloudflare.EvaluatePath

namespace Splitch

namespace Cloudflare

/-! ## 1. Tables -/

def RETENTION_MS : Int := 30 * 86400000

def PRIVACY_DEADLINE_MS : Int := 24 * 60 * 60 * 1000

structure IntegrationRow where
  installationId : String
  appId : String
  environmentId : String
  identityKey : String
  announcedVersion : Nat
  snapshotVersion : Nat
  deriving DecidableEq, Repr

structure EvaluationClaim where
  idempotencyKey : String
  fingerprint : String
  result : ResolutionDetails
  createdAt : Int
  deriving DecidableEq, Repr

inductive ExposureState
  | pending
  | terminal
  deriving DecidableEq, Repr

structure ExposureRow where
  serial : Nat
  idempotencyKey : String
  idType : String
  targetingKeyHash : String
  exposureId : String
  installationId : String
  flagKey : String
  experimentId : String
  runId : String
  runConfigHash : String
  context : Option EvaluationContext
  variantName : String
  exposedAt : Int
  state : ExposureState
  attemptCount : Nat
  nextAttemptAt : Int
  createdAt : Int
  deriving DecidableEq, Repr

structure PushClaim where
  deliveryId : String
  environmentVersion : Nat
  appliedAt : Int
  deriving DecidableEq, Repr

/-- The alarm of the object, and when it was set. -/
structure ArmedAlarm where
  time : Int
  setAt : Int
  deriving DecidableEq, Repr

structure SplitchStorage where
  integration : Option IntegrationRow
  /-- The payload of the snapshot. -/
  snapshot : Option String
  /-- By Experiment, idType and Entity. -/
  assignments : String → String → String → Option AssignmentEntry
  evaluationClaims : List EvaluationClaim
  exposureOutbox : List ExposureRow
  pushClaims : List PushClaim
  /-- How many Exposure rows have been inserted. -/
  inserted : Nat
  alarm : Option ArmedAlarm

namespace SplitchStorage

def claim (storage : SplitchStorage) (idempotencyKey : String) : Option EvaluationClaim :=
  storage.evaluationClaims.find? (·.idempotencyKey = idempotencyKey)

def insertClaim (storage : SplitchStorage) (claim : EvaluationClaim) : SplitchStorage :=
  { storage with evaluationClaims := storage.evaluationClaims ++ [claim] }

/-- `INSERT OR IGNORE`. -/
def recordPushClaim (storage : SplitchStorage) (deliveryId : String) (version : Nat) (now : Int) :
    SplitchStorage :=
  if ∃ claim ∈ storage.pushClaims, claim.deliveryId = deliveryId then storage
  else { storage with
    pushClaims := storage.pushClaims ++
      [{ deliveryId, environmentVersion := version, appliedAt := now }] }

def announceVersion (storage : SplitchStorage) (version : Nat) : SplitchStorage :=
  { storage with
    integration := storage.integration.map fun row =>
      { row with announcedVersion := max row.announcedVersion version } }

def pendingExposures (storage : SplitchStorage) : List ExposureRow :=
  storage.exposureOutbox.filter (·.state = .pending)

def terminalExposures (storage : SplitchStorage) : List ExposureRow :=
  storage.exposureOutbox.filter (·.state = .terminal)

/-- At most 25 rows, the earliest first; rows of one instant in the order of their insertion. -/
def dueExposures (storage : SplitchStorage) (now : Int) : List ExposureRow :=
  ((storage.pendingExposures.filter (fun row => row.nextAttemptAt ≤ now ∧ row.context.isSome))
    |>.insertionSort (fun left right => left.nextAttemptAt ≤ right.nextAttemptAt)).take 25

def pruneExpired (storage : SplitchStorage) (now : Int) : SplitchStorage :=
  { storage with
    evaluationClaims := storage.evaluationClaims.filter
      (fun claim => ¬ claim.createdAt ≤ now - RETENTION_MS)
    exposureOutbox := storage.exposureOutbox.filter
      (fun row => ¬ (row.state = .terminal ∧ row.createdAt ≤ now - RETENTION_MS))
    pushClaims := storage.pushClaims.filter
      (fun claim => ¬ claim.appliedAt ≤ now - RETENTION_MS) }

/-- What the alarm is due for. -/
def alarmCandidates (storage : SplitchStorage) : List Int :=
  (storage.pendingExposures.map (·.nextAttemptAt)).min?.toList ++
    ([(storage.evaluationClaims.map (·.createdAt)).min?,
      (storage.terminalExposures.map (·.createdAt)).min?,
      (storage.pushClaims.map (·.appliedAt)).min?].filterMap id).map (· + RETENTION_MS)

def ensureAlarm (storage : SplitchStorage) (now : Int) : SplitchStorage :=
  match storage.alarmCandidates.min? with
  | none => storage
  | some earliest => { storage with alarm := some { time := max now earliest, setAt := now } }

end SplitchStorage

/-! ## 2. Delivery of an Exposure -/

/-- What comes back of a delivery; a body is as far as its first result can be read. -/
inductive ExposureResponse
  | failed
  | answered (status : Nat) (first : Option (String × Bool))
  deriving DecidableEq, Repr

inductive ExposureOutcome
  | accepted
  | retry
  | terminal
  deriving DecidableEq, Repr

def deliverExposure : ExposureResponse → ExposureOutcome
  | .failed => .retry
  | .answered status first =>
    if ¬ (200 ≤ status ∧ status < 300) then
      if status = 408 ∨ status = 429 ∨ 500 ≤ status then .retry else .terminal
    else match first with
    | none => .retry
    | some (status, retryable) =>
      if status = "accepted" ∨ status = "deduplicated" then .accepted
      else if retryable then .retry else .terminal

/-- The delay before an attempt, jittered by the row; the source computes it in floating point. -/
def nextExposureAttempt (exposureId : String) (attempt : Nat) : Int :=
  let delays := [1000, 5000, 30000, 120000, 600000, 1800000]
  let base : Int := delays.getD (min attempt (delays.length - 1)) 1800000
  let seed : Nat := (exposureId ++ ":" ++ toString attempt).toList.foldl
    (fun value character => (value * 31 + Utf16.firstUnit character) % 2 ^ 32) 0
  round ((base : Rat) * (4 / 5 + (seed : Rat) / 0xffffffff * (2 / 5)))

def exceededPrivacyDeadline (row : ExposureRow) (now : Int) : Bool :=
  PRIVACY_DEADLINE_MS ≤ now - row.createdAt

namespace SplitchStorage

def finishExposure (storage : SplitchStorage) (row : ExposureRow) (outcome : ExposureOutcome)
    (now : Int) : SplitchStorage :=
  match outcome with
  | .accepted => { storage with
      exposureOutbox := storage.exposureOutbox.filter (·.exposureId ≠ row.exposureId) }
  | .terminal => { storage with
      exposureOutbox := storage.exposureOutbox.map fun stored =>
        if stored.exposureId = row.exposureId then
          { stored with state := .terminal, context := none }
        else stored }
  | .retry =>
    let attempt := row.attemptCount + 1
    { storage with
      exposureOutbox := storage.exposureOutbox.map fun stored =>
        if stored.exposureId = row.exposureId then
          { stored with
            attemptCount := attempt
            nextAttemptAt := now + nextExposureAttempt row.exposureId attempt }
        else stored }

end SplitchStorage

/-! ## 3. The object -/

structure SplitchEnv where
  core : EvaluationCore
  /-- `SPLITCH_INSTALLATION_ID`. -/
  installationId : String
  sha256Hex : String → String
  hmacHex : String → String → String
  /-- `canonicalJson` of a Flag key, a context and a default. -/
  canonicalJson : String → EvaluationContext → JsonText → String

structure CloudflareEvaluationContext where
  targetingKey : String
  idType : Option String := none
  attributes : Option JsonText := none
  defaultValue : Option JsonText := none
  idempotencyKey : String
  deriving DecidableEq, Repr

structure EvaluationRequest where
  flagKey : String
  idempotencyKey : String
  context : EvaluationContext
  defaultValue : JsonText
  deriving DecidableEq, Repr

def requestOf (flagKey : String) (raw : CloudflareEvaluationContext) : EvaluationRequest where
  flagKey
  idempotencyKey := raw.idempotencyKey
  context :=
    { targetingKey := raw.targetingKey
      idType := raw.idType.getD "user"
      attributes := raw.attributes.getD "{}" }
  defaultValue := raw.defaultValue.getD "false"

structure Configuration where
  snapshotVersion : Nat
  snapshot : ConfigSnapshot
  provider : Provider
  deriving DecidableEq, Repr

/-- What `commitEvaluation` is called with, and the Assignments it was evaluated with. -/
structure CommitInput where
  fingerprint : String
  targetingKeyHash : String
  held : String → Option AssignmentEntry
  result : EvaluateResult
  details : ResolutionDetails
  exposureId : String

/-- What an evaluation waits for. -/
inductive EvaluationStage
  | fingerprinting
  | hashing (fingerprint : String)
  | committing (input : CommitInput)

structure EvaluationCall where
  request : EvaluationRequest
  integration : IntegrationRow
  configuration : Configuration
  stage : EvaluationStage

structure AlarmRun where
  startedAt : Int
  sending : ExposureRow
  rest : List ExposureRow
  deriving DecidableEq, Repr

inductive LeaveCause
  | accepted
  | rejected
  | deadline
  deriving DecidableEq, Repr

inductive SplitchEntry
  /-- An evaluation is committed. -/
  | committed (call : EvaluationCall) (details : ResolutionDetails)
  /-- A call returns what was committed under its key. -/
  | answered (request : EvaluationRequest) (details : ResolutionDetails)
  | sent (serial : Nat) (createdAt sentAt : Int)
  | left (serial : Nat) (cause : LeaveCause)

inductive SplitchAnswer
  | applied (environmentVersion : Nat)
  | scope_mismatch
  | announced
  | details (details : ResolutionDetails)
  | threw (message : String)
  deriving DecidableEq, Repr

structure SplitchWorld where
  storage : SplitchStorage
  cachedConfiguration : Option Configuration
  calls : Nat → Option EvaluationCall
  alarmRun : Option AlarmRun
  log : List SplitchEntry

namespace SplitchWorld

def note (world : SplitchWorld) (entry : SplitchEntry) : SplitchWorld :=
  { world with log := world.log ++ [entry] }

def withStorage (world : SplitchWorld) (f : SplitchStorage → SplitchStorage) : SplitchWorld :=
  { world with storage := f world.storage }

def setCall (world : SplitchWorld) (id : Nat) (call : Option EvaluationCall) : SplitchWorld :=
  { world with calls := Function.update world.calls id call }

/-! ## 4. Snapshots -/

/-- The transaction of `applySnapshot`. -/
def applyTransaction (env : SplitchEnv) (snapshot : ConfigSnapshot)
    (payload deliveryId identityKey : String) (now : Int) (storage : SplitchStorage) :
    SplitchAnswer × SplitchStorage :=
  match storage.integration with
  | none =>
    (.applied snapshot.environmentVersion,
      { storage with
        integration := some
          { installationId := env.installationId
            appId := snapshot.appId
            environmentId := snapshot.environmentId
            identityKey
            announcedVersion := snapshot.environmentVersion
            snapshotVersion := snapshot.environmentVersion }
        snapshot := some payload }.recordPushClaim deliveryId snapshot.environmentVersion now)
  | some existing =>
    if existing.appId ≠ snapshot.appId ∨ existing.environmentId ≠ snapshot.environmentId then
      (.scope_mismatch, storage)
    else if snapshot.environmentVersion ≤ existing.snapshotVersion then
      (.applied existing.snapshotVersion,
        storage.recordPushClaim deliveryId snapshot.environmentVersion now)
    else
      (.applied snapshot.environmentVersion,
        { storage with
          integration := some
            { existing with
              announcedVersion := max existing.announcedVersion snapshot.environmentVersion
              snapshotVersion := snapshot.environmentVersion }
          snapshot := some payload }.recordPushClaim deliveryId snapshot.environmentVersion now)

/-- `identityKey` is the random secret of a first snapshot. -/
def applySnapshot (env : SplitchEnv) (payload deliveryId identityKey : String) (now : Int)
    (world : SplitchWorld) : SplitchAnswer × SplitchWorld :=
  match parseConfigSnapshot env.core payload "Cloudflare" with
  | .error message => (.threw message, world)
  | .ok snapshot =>
    let (answer, storage) :=
      applyTransaction env snapshot payload deliveryId identityKey now world.storage
    (answer, { world with storage := storage.ensureAlarm now, cachedConfiguration := none })

def announceSnapshot (appId environmentId : String) (environmentVersion : Nat)
    (world : SplitchWorld) : SplitchAnswer × SplitchWorld :=
  match world.storage.integration with
  | none => (.announced, world)
  | some integration =>
    if integration.appId ≠ appId ∨ integration.environmentId ≠ environmentId then
      (.scope_mismatch, world)
    else (.announced, world.withStorage (·.announceVersion environmentVersion))

/-! ## 5. Evaluation -/

/-- `StateStorage.configuration`: the cached one where it is of this version, or the stored
payload, parsed and cached. -/
def configuration (env : SplitchEnv) (snapshotVersion : Nat) (world : SplitchWorld) :
    Except String (Option Configuration) :=
  match world.cachedConfiguration.filter (·.snapshotVersion = snapshotVersion) with
  | some cached => .ok (some cached)
  | none =>
    match world.storage.snapshot with
    | none => .ok none
    | some payload => do
      let snapshot ← parseConfigSnapshot env.core payload "Cloudflare"
      let provider ← configSnapshotProvider snapshot
      return some { snapshotVersion, snapshot, provider }

def notReady (defaultValue : JsonText) : ResolutionDetails :=
  failureDetails defaultValue "ERROR" "PROVIDER_NOT_READY"
    "@splitch/cloudflare has no applied configuration snapshot"

def stale (defaultValue : JsonText) (integration : IntegrationRow) : ResolutionDetails :=
  failureDetails defaultValue "STALE" "PROVIDER_NOT_READY"
    ("@splitch/cloudflare snapshot " ++ toString integration.snapshotVersion ++
      " is behind announced version " ++ toString integration.announcedVersion)

/-- The first turn of `evaluateDetails`. -/
def evaluateDetails (env : SplitchEnv) (id : Nat) (flagKey : String)
    (raw : CloudflareEvaluationContext) (world : SplitchWorld) :
    Option SplitchAnswer × SplitchWorld :=
  let request := requestOf flagKey raw
  if raw.idempotencyKey.isEmpty then
    (some (.details (failureDetails request.defaultValue "ERROR" "INTERNAL_SERVER_ERROR"
      "idempotencyKey is required for Cloudflare evaluation")), world)
  else match world.storage.integration with
  | none => (some (.details (notReady request.defaultValue)), world)
  | some integration =>
    match world.configuration env integration.snapshotVersion with
    | .error message => (some (.threw message), world)
    | .ok none => (some (.details (notReady request.defaultValue)), world)
    | .ok (some configuration) =>
      (none, { world with cachedConfiguration := some configuration }.setCall id
        (some { request, integration, configuration, stage := .fingerprinting }))

def conflict (idempotencyKey : String) : String :=
  "IDEMPOTENCY_KEY_CONFLICT: " ++ idempotencyKey ++ " was reused for a different evaluation"

def replayClaim (claim : EvaluationClaim) (fingerprint idempotencyKey : String) :
    Except String ResolutionDetails :=
  if claim.fingerprint ≠ fingerprint then .error (conflict idempotencyKey)
  else .ok claim.result

/-- Behind the hash of the request: the key is claimed, the snapshot is stale, or the Entity is
hashed. -/
def fingerprinted (env : SplitchEnv) (id : Nat) (call : EvaluationCall) (now : Int)
    (world : SplitchWorld) : Option SplitchAnswer × SplitchWorld :=
  let request := call.request
  let fingerprint :=
    env.sha256Hex (env.canonicalJson request.flagKey request.context request.defaultValue)
  match world.storage.claim request.idempotencyKey with
  | some prior =>
    match replayClaim prior fingerprint request.idempotencyKey with
    | .error message => (some (.threw message), world.setCall id none)
    | .ok replayed =>
      (some (.details replayed),
        ((world.setCall id none).note (.answered request replayed)).withStorage
          (·.ensureAlarm now))
  | none =>
    if call.integration.snapshotVersion < call.integration.announcedVersion then
      (some (.details (stale request.defaultValue call.integration)), world.setCall id none)
    else (none, world.setCall id (some { call with stage := .hashing fingerprint }))

def stableUuid (hex : String) : String :=
  let slice (start stop : Nat) := String.ofList ((hex.toList.take stop).drop start)
  slice 0 8 ++ "-" ++ slice 8 12 ++ "-5" ++ slice 13 16 ++ "-a" ++ slice 17 20 ++ "-" ++
    slice 20 32

/-- Behind the hash of the Entity: its Assignments are read, and the Flag is evaluated. -/
def hashed (env : SplitchEnv) (id : Nat) (call : EvaluationCall) (fingerprint : String)
    (world : SplitchWorld) : SplitchWorld :=
  let request := call.request
  let snapshot := call.configuration.snapshot
  let targetingKeyHash := env.hmacHex call.integration.identityKey
    (request.context.idType ++ ":" ++ request.context.targetingKey)
  let held := fun experimentId =>
    world.storage.assignments experimentId request.context.idType targetingKeyHash
  let result := evaluatePath env.core
    { appId := snapshot.appId
      environmentId := snapshot.environmentId
      flagKey := request.flagKey
      evaluationContext := request.context }
    call.configuration.provider held
  let details := detailsFor snapshot request.flagKey result request.defaultValue
  let exposureId := stableUuid
    (env.sha256Hex (call.integration.installationId ++ ":" ++ request.idempotencyKey))
  world.setCall id (some { call with
    stage := .committing { fingerprint, targetingKeyHash, held, result, details, exposureId } })

/-- `INSERT OR IGNORE`. -/
def keepAssignment (storage : SplitchStorage) (experimentId idType targetingKeyHash : String)
    (entry : AssignmentEntry) : SplitchStorage :=
  if (storage.assignments experimentId idType targetingKeyHash).isSome then storage
  else { storage with
    assignments := fun experiment type hash =>
      if experiment = experimentId ∧ type = idType ∧ hash = targetingKeyHash then some entry
      else storage.assignments experiment type hash }

def exposureRowOf (env : SplitchEnv) (call : EvaluationCall) (input : CommitInput)
    (exposure : ExposureDecision) (run : RunConfigKV) (serial : Nat) (now : Int) : ExposureRow where
  serial
  idempotencyKey := call.request.idempotencyKey
  idType := call.request.context.idType
  targetingKeyHash := input.targetingKeyHash
  exposureId := input.exposureId
  installationId := env.installationId
  flagKey := exposure.flagKey
  experimentId := exposure.experimentId
  runId := exposure.liveRunId
  runConfigHash := run.configHash
  context := some call.request.context
  variantName := exposure.variant
  exposedAt := now
  state := .pending
  attemptCount := 0
  nextAttemptAt := now
  createdAt := now

def writeExposure (env : SplitchEnv) (call : EvaluationCall) (input : CommitInput) (now : Int)
    (storage : SplitchStorage) : Except String SplitchStorage :=
  match input.result.exposure with
  | none => .ok storage
  | some exposure =>
    match call.configuration.snapshot.runs.find? (·.id = exposure.liveRunId) with
    | none =>
      .error ("Live Run \"" ++ exposure.liveRunId ++ "\" is absent from the snapshot")
    | some run =>
      if ∃ row ∈ storage.exposureOutbox, row.exposureId = input.exposureId then
        .error "UNIQUE constraint failed: exposure_outbox.exposure_id"
      else
        let kept := keepAssignment storage exposure.experimentId call.request.context.idType
          input.targetingKeyHash { runId := exposure.liveRunId, variant := exposure.variant }
        .ok { kept with
          exposureOutbox := kept.exposureOutbox ++
            [exposureRowOf env call input exposure run kept.inserted now]
          inserted := kept.inserted + 1 }

/-- Behind the evaluation: its transaction. -/
def commitEvaluation (env : SplitchEnv) (id : Nat) (call : EvaluationCall) (input : CommitInput)
    (now : Int) (world : SplitchWorld) : SplitchAnswer × SplitchWorld :=
  let request := call.request
  match world.storage.claim request.idempotencyKey with
  | some existing =>
    match replayClaim existing input.fingerprint request.idempotencyKey with
    | .error message => (.threw message, world.setCall id none)
    | .ok replayed =>
      (.details replayed,
        ((world.setCall id none).note (.answered request replayed)).withStorage
          (·.ensureAlarm now))
  | none =>
    match writeExposure env call input now world.storage with
    | .error message => (.threw message, world.setCall id none)
    | .ok written =>
      let storage := written.insertClaim
        { idempotencyKey := request.idempotencyKey
          fingerprint := input.fingerprint
          result := input.details
          createdAt := now }
      let done := ((world.setCall id none).note (.committed call input.details)).note
        (.answered request input.details)
      (.details input.details, { done with storage := storage.ensureAlarm now })

/-- A turn of a call that is under way. -/
def resume (env : SplitchEnv) (id : Nat) (now : Int) (world : SplitchWorld) :
    Option SplitchAnswer × SplitchWorld :=
  match world.calls id with
  | none => (none, world)
  | some call =>
    match call.stage with
    | .fingerprinting => fingerprinted env id call now world
    | .hashing fingerprint => (none, hashed env id call fingerprint world)
    | .committing input =>
      let (answer, world) := commitEvaluation env id call input now world
      (some answer, world)

/-! ## 6. The alarm -/

/-- The rows still to be delivered, from the next one that is sent or to the end. -/
def deliverRest (now startedAt : Int) : List ExposureRow → SplitchWorld → SplitchWorld
  | [], world =>
    { world with
      alarmRun := none
      storage := (world.storage.pruneExpired startedAt).ensureAlarm startedAt }
  | row :: rest, world =>
    if exceededPrivacyDeadline row startedAt then
      deliverRest now startedAt rest
        ((world.withStorage (·.finishExposure row .terminal startedAt)).note
          (.left row.serial .deadline))
    else
      { world with alarmRun := some { startedAt, sending := row, rest } }.note
        (.sent row.serial row.createdAt now)

def alarm (now : Int) (world : SplitchWorld) : SplitchWorld :=
  if world.alarmRun.isSome then world
  else
    let fired : SplitchStorage := { world.storage with alarm := none }
    let storage := fired.pruneExpired now
    deliverRest now now (storage.dueExposures now) { world with storage }

def leaveOf : ExposureOutcome → Option LeaveCause
  | .accepted => some .accepted
  | .terminal => some .rejected
  | .retry => none

/-- The response to the delivery under way. -/
def delivered (response : ExposureResponse) (now : Int) (world : SplitchWorld) : SplitchWorld :=
  match world.alarmRun with
  | none => world
  | some run =>
    let outcome := deliverExposure response
    let finished := world.withStorage (·.finishExposure run.sending outcome run.startedAt)
    let noted := match leaveOf outcome with
      | none => finished
      | some cause => finished.note (.left run.sending.serial cause)
    deliverRest now run.startedAt run.rest noted

end SplitchWorld

/-! ## 7. The machine -/

/-- The calls of the runtime. -/
inductive RpcEvent
  | applySnapshot (payload deliveryId identityKey : String) (now : Int)
  | announceSnapshot (appId environmentId : String) (environmentVersion : Nat)
  | evaluateDetails (id : Nat) (flagKey : String) (context : CloudflareEvaluationContext)
  | resume (id : Nat) (now : Int)
  deriving DecidableEq, Repr

inductive SplitchEvent
  | rpc (event : RpcEvent)
  | alarm (now : Int)
  | delivered (response : ExposureResponse) (now : Int)
  deriving DecidableEq, Repr

namespace SplitchWorld

def stepRpc (env : SplitchEnv) (world : SplitchWorld) :
    RpcEvent → Option SplitchAnswer × SplitchWorld
  | .applySnapshot payload deliveryId identityKey now =>
    (applySnapshot env payload deliveryId identityKey now world).map some id
  | .announceSnapshot appId environmentId environmentVersion =>
    (announceSnapshot appId environmentId environmentVersion world).map some id
  | .evaluateDetails id flagKey context =>
    -- An id names one call.
    if (world.calls id).isSome then (none, world) else evaluateDetails env id flagKey context world
  | .resume id now => resume env id now world

def step (env : SplitchEnv) (world : SplitchWorld) :
    SplitchEvent → Option SplitchAnswer × SplitchWorld
  | .rpc event => stepRpc env world event
  | .alarm now => (none, alarm now world)
  | .delivered response now => (none, delivered response now world)

def empty : SplitchWorld where
  storage :=
    { integration := none
      snapshot := none
      assignments := fun _ _ _ => none
      evaluationClaims := []
      exposureOutbox := []
      pushClaims := []
      inserted := 0
      alarm := none }
  cachedConfiguration := none
  calls := fun _ => none
  alarmRun := none
  log := []

end SplitchWorld

/-- A runtime from its first start. -/
def splitchState (env : SplitchEnv) :
    Machine SplitchWorld SplitchEvent (Option SplitchAnswer) where
  init := SplitchWorld.empty
  step := SplitchWorld.step env

end Cloudflare

end Splitch
