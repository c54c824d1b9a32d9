/-
# Evaluation in the Convex component

`evaluate` (`evaluation.ts`), the state it runs on and what it writes (`evaluation_state.ts`), and
the details it answers with (`evaluation_details.ts`).

The evaluation of a Flag itself (`evaluatePath`) is a parameter: nothing here depends on which
Variant it chooses.
-/
import Splitch.Convex.ComponentTables

namespace Splitch

namespace Convex

open Cloudflare (JsonText ConfigSnapshot EvaluationContext EvaluationCore EvaluatePathInput
  EvaluateResult ExposureDecision Provider AssignmentEntry ResolutionDetails parseConfigSnapshot
  configSnapshotProvider resolutionReasonFor)

structure ConvexEnv where
  core : EvaluationCore
  evaluatePath : EvaluatePathInput → Provider → (String → Option AssignmentEntry) → EvaluateResult
  sha256Hex : String → String
  hmacHex : String → String → String
  stableUuid : String → String
  /-- `canonicalJson` of a Flag key, a context, a default and a snapshot version. -/
  canonicalJson : String → EvaluationContext → JsonText → Nat → String

structure EvaluateArgs where
  flagKey : String
  context : EvaluationContext
  defaultValue : JsonText
  idempotencyKey : String
  deriving DecidableEq, Repr

/-! ## 1. Details -/

def staleDetails (details : ResolutionDetails) : ResolutionDetails :=
  if details.reason = "ERROR" then details
  else { value := details.value, variantName := details.variantName, reason := "STALE" }

def errorDetails (defaultValue : JsonText) (errorCode errorMessage : String) :
    ResolutionDetails where
  value := defaultValue
  variantName := none
  reason := "ERROR"
  errorCode := some errorCode
  errorMessage := some errorMessage

def syncOverdueDetails (snapshotVersion announcedVersion : Nat) (defaultValue : JsonText) :
    ResolutionDetails :=
  errorDetails defaultValue "PROVIDER_NOT_READY"
    ("@splitch/convex snapshot " ++ toString snapshotVersion ++
      " is still behind announced version " ++ toString announcedVersion ++
      " past the 5-second sync deadline; check the Splitch API Key and endpoint, then run sync")

def syncExposureBlockedDetails (environmentVersion announcedVersion : Nat)
    (defaultValue : JsonText) : ResolutionDetails :=
  errorDetails defaultValue "PROVIDER_NOT_READY"
    ("@splitch/convex snapshot " ++ toString environmentVersion ++ " is behind announced " ++
      "version " ++ toString announcedVersion ++ "; retry after sync before creating a " ++
      "fresh Exposure, because the held Run may have ended")

def detailsFor (snapshot : ConfigSnapshot) (flagKey : String) (result : EvaluateResult)
    (defaultValue : JsonText) : ResolutionDetails :=
  match result with
  | .error fault => errorDetails defaultValue fault.errorCode fault.message
  | .resolved kind variantName ruleId _ =>
    let flag := snapshot.flags.find? (·.key = flagKey)
    match flag.bind fun flag => flag.variants.find? (·.name = variantName) with
    | none => errorDetails defaultValue "INTERNAL_SERVER_ERROR"
      ("Resolved Variant \"" ++ variantName ++ "\" is absent from Flag \"" ++ flagKey ++ "\"")
    | some variant =>
      let reason := resolutionReasonFor kind
      { value := variant.value
        variantName := some variant.name
        reason
        ruleId := if reason = "TARGETING_MATCH" then ruleId else none }

def servedDetails (snapshot : ConfigSnapshot) (syncing : Bool) (args : EvaluateArgs)
    (result : EvaluateResult) : ResolutionDetails :=
  let details := detailsFor snapshot args.flagKey result args.defaultValue
  if syncing then staleDetails details else details

/-! ## 2. The state an evaluation runs on -/

structure ReadyRuntime where
  syncing : Bool
  integration : IntegrationRow
  snapshot : ConfigSnapshot
  assignments : String → Option AssignmentEntry

inductive Runtime
  | overdue (snapshotVersion announcedVersion : Nat)
  | ready (runtime : ReadyRuntime)

section

variable (env : ConvexEnv)

def localTargetingKeyHash (key : String) (context : EvaluationContext) : String :=
  env.hmacHex key (context.idType ++ ":" ++ context.targetingKey)

namespace ComponentTables

def assignmentOf (db : ComponentTables) (idType targetingKeyHash experimentId : String) :
    Except String (Option AssignmentRow) :=
  unique (fun row => row.idType = idType ∧ row.targetingKeyHash = targetingKeyHash ∧
    row.experimentId = experimentId) db.assignments

def deletionOf (db : ComponentTables) (idType targetingKeyHash : String) :
    Except String (Option EntityDeletionRow) :=
  unique (fun row => row.idType = idType ∧ row.targetingKeyHash = targetingKeyHash)
    db.entityDeletions

def evaluationClaimOf (db : ComponentTables) (idempotencyKey : String) :
    Except String (Option EvaluationClaimRow) :=
  unique (·.idempotencyKey = idempotencyKey) db.evaluationClaims

end ComponentTables

def runtimeState (db : ComponentTables) (flagKey : String) (context : EvaluationContext) :
    Except String Runtime := do
  let some integration := db.integration | throw "@splitch/convex is not installed"
  if integration.state ≠ .active ∨ integration.appId.isNone ∨ integration.environmentId.isNone then
    throw "@splitch/convex is not installed"
  let some stored := db.snapshot |
    throw "PROVIDER_NOT_READY: @splitch/convex has no configuration snapshot"
  let syncing : Bool := stored.environmentVersion < integration.announcedVersion
  if syncing ∧ integration.syncOverdueVersion.isSome then
    return .overdue stored.environmentVersion integration.announcedVersion
  else
    let snapshot ← parseConfigSnapshot env.core stored.payload "Convex"
    let targetingKeyHash := localTargetingKeyHash env integration.componentIdentityKey context
    let assignment ← match (snapshot.flags.find? (·.key = flagKey)).bind (·.experimentId) with
      | none => pure none
      | some experimentId => db.assignmentOf context.idType targetingKeyHash experimentId
    let assignments := fun experimentId =>
      (assignment.filter (·.experimentId = experimentId)).map fun row =>
        { runId := row.runId, variant := row.variant }
    return .ready { syncing, integration, snapshot, assignments }

/-! ## 3. What is written -/

def persistExposure (db : ComponentTables) (now : Int) (args : EvaluateArgs)
    (runtime : ReadyRuntime) (exposure : ExposureDecision) (fingerprint : String) :
    Except String ComponentTables := do
  let some run := runtime.snapshot.runs.find? (·.id = exposure.liveRunId) |
    throw ("Live Run \"" ++ exposure.liveRunId ++ "\" is absent from the Convex snapshot")
  let targetingKeyHash :=
    localTargetingKeyHash env runtime.integration.componentIdentityKey args.context
  let deletion ← db.deletionOf args.context.idType targetingKeyHash
  if deletion.isSome then throw "ENTITY_DELETION_IN_PROGRESS"
  else
    let existing ← db.assignmentOf args.context.idType targetingKeyHash exposure.experimentId
    let assignments := if existing.isSome then db.assignments else
      db.assignments ++
        [{ experimentId := exposure.experimentId
           idType := args.context.idType
           targetingKeyHash
           runId := exposure.liveRunId
           variant := exposure.variant }]
    let row : ExposureRow :=
      { exposureId := env.stableUuid
          (runtime.integration.installationId ++ ":" ++ args.idempotencyKey)
        installationId := runtime.integration.installationId
        evaluationFingerprint := fingerprint
        flagKey := args.flagKey
        experimentId := exposure.experimentId
        runId := exposure.liveRunId
        runConfigHash := run.configHash
        idType := args.context.idType
        targetingKeyHash := some targetingKeyHash
        targetingKey := some args.context.targetingKey
        attributesJson := some args.context.attributes
        variantName := exposure.variant
        exposedAtCommitTs := now
        createdAt := now
        state := .pending
        attemptCount := 0
        nextAttemptAt := now
        recoveryWatchGeneration := none
        terminalAt := none
        lastError := none }
    let inserted : ComponentTables :=
      { db with assignments, exposureOutbox := db.exposureOutbox ++ [row] }
    return inserted.ensureExposureDrainScheduled now now

def evaluateHeld (runtime : ReadyRuntime) (args : EvaluateArgs) :
    Except String EvaluateResult := do
  let provider ← configSnapshotProvider runtime.snapshot
  return env.evaluatePath
    { appId := runtime.snapshot.appId
      environmentId := runtime.snapshot.environmentId
      flagKey := args.flagKey
      evaluationContext := args.context }
    provider runtime.assignments

def insertEvaluationClaim (db : ComponentTables) (claim : EvaluationClaimRow) : ComponentTables :=
  { db with evaluationClaims := db.evaluationClaims ++ [claim] }

def evaluateFresh (db : ComponentTables) (now : Int) (args : EvaluateArgs)
    (runtime : ReadyRuntime) (fingerprint : String) :
    Except String (ResolutionDetails × ComponentTables) := do
  let result ← evaluateHeld env runtime args
  if runtime.syncing ∧ result.exposure.isSome then
    return (syncExposureBlockedDetails runtime.snapshot.environmentVersion
      runtime.integration.announcedVersion args.defaultValue, db)
  else
    let details := servedDetails runtime.snapshot runtime.syncing args result
    let persisted ← match result.exposure with
      | none => pure db
      | some exposure => persistExposure env db now args runtime exposure fingerprint
    let claimed := insertEvaluationClaim persisted
      { idempotencyKey := args.idempotencyKey, fingerprint, result := details, createdAt := now }
    let scheduled ← claimed.ensureRetentionScheduled now
    return (details, scheduled)

def fingerprintOf (args : EvaluateArgs) (snapshotVersion : Nat) : String :=
  env.sha256Hex (env.canonicalJson args.flagKey args.context args.defaultValue snapshotVersion)

def Runtime.snapshotVersion : Runtime → Nat
  | overdue snapshotVersion _ => snapshotVersion
  | ready runtime => runtime.snapshot.environmentVersion

/-- The snapshot is behind the announced version. -/
def Runtime.behind : Runtime → Bool
  | overdue _ _ => true
  | ready runtime => runtime.syncing

def evaluateHandler (db : ComponentTables) (now : Int) (args : EvaluateArgs) :
    Except String (ResolutionDetails × ComponentTables) := do
  if args.idempotencyKey.isEmpty then
    throw "idempotencyKey is required for Exposure-bearing Convex evaluation"
  else
    let runtime ← runtimeState env db args.flagKey args.context
    let fingerprint := fingerprintOf env args runtime.snapshotVersion
    match ← db.evaluationClaimOf args.idempotencyKey with
    | some claim =>
      if claim.fingerprint ≠ fingerprint then
        throw ("IDEMPOTENCY_KEY_CONFLICT: idempotencyKey was reused for a different Convex " ++
          "Evaluation")
      else
        let scheduled ← db.ensureRetentionScheduled now
        return (if runtime.behind then staleDetails claim.result else claim.result, scheduled)
    | none =>
      match runtime with
      | .overdue snapshotVersion announcedVersion =>
        return (syncOverdueDetails snapshotVersion announcedVersion args.defaultValue, db)
      | .ready runtime => evaluateFresh env db now args runtime fingerprint

/-! ## 4. What has been written -/

variable {env : ConvexEnv}

theorem persistExposure_eq_ok {db after : ComponentTables} {now : Int} {args : EvaluateArgs}
    {runtime : ReadyRuntime} {exposure : ExposureDecision} {fingerprint : String}
    (h : persistExposure env db now args runtime exposure fingerprint = .ok after) :
    ∃ assignments row, row.state = .pending ∧
      (assignments = db.assignments ∨ ∃ added, assignments = db.assignments ++ [added] ∧
        db.assignmentOf added.idType added.targetingKeyHash added.experimentId = .ok none) ∧
      after = { db with
        assignments
        exposureOutbox := db.exposureOutbox ++ [row] }.ensureExposureDrainScheduled now now := by
  unfold persistExposure at h
  split at h
  · obtain ⟨deletion, -, h⟩ := Checks.bind_eq_ok.mp h
    obtain ⟨-, h⟩ := Checks.ite_error_eq_ok.mp h
    obtain ⟨existing, hexisting, h⟩ := Checks.bind_eq_ok.mp h
    cases h
    refine ⟨_, _, rfl, ?_, rfl⟩
    cases existing with
    | none => exact .inr ⟨_, rfl, hexisting⟩
    | some assignment => exact .inl rfl
  · cases h

/-- **A fresh evaluation** that answers has written nothing, or the Exposure that its result asks
for, and then its claim; while the snapshot is behind, its result has asked for none. -/
theorem evaluateFresh_eq_ok {db : ComponentTables} {now : Int} {args : EvaluateArgs}
    {runtime : ReadyRuntime} {fingerprint : String} {answer : ResolutionDetails × ComponentTables}
    (h : evaluateFresh env db now args runtime fingerprint = .ok answer) :
    answer.2 = db ∨ ∃ persisted,
      (persisted = db ∨ runtime.syncing = false ∧
        ∃ exposure, persistExposure env db now args runtime exposure fingerprint = .ok persisted) ∧
      (insertEvaluationClaim persisted
        { idempotencyKey := args.idempotencyKey
          fingerprint
          result := answer.1
          createdAt := now }).ensureRetentionScheduled now = .ok answer.2 := by
  obtain ⟨result, -, h⟩ := Checks.bind_eq_ok.mp h
  split at h
  · cases h
    exact .inl rfl
  · rename_i hallowed
    dsimp only at h
    split at h
    · obtain ⟨persisted, hpersisted, h⟩ := Checks.bind_eq_ok.mp h
      cases hpersisted
      obtain ⟨scheduled, hscheduled, h⟩ := Checks.bind_eq_ok.mp h
      cases h
      exact .inr ⟨db, .inl rfl, hscheduled⟩
    · rename_i exposure hexposure
      obtain ⟨persisted, hpersisted, h⟩ := Checks.bind_eq_ok.mp h
      obtain ⟨scheduled, hscheduled, h⟩ := Checks.bind_eq_ok.mp h
      cases h
      refine .inr ⟨persisted, .inr ⟨?_, exposure, hpersisted⟩, hscheduled⟩
      rw [hexposure] at hallowed
      simpa using hallowed

end

end Convex

end Splitch
