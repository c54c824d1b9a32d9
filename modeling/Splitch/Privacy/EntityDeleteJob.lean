/-
# The privacy delete job of an Entity

The rows of one job and its request with the writes to them (`privacy-jobs.ts`), the delivery of a
queue message (`runPrivacyJob`, `entity-privacy-jobs.ts`) and the job it runs (`runEntityDeleteJob`
and `step`, `entity-privacy-delete-job.ts`).

A worker runs call by call: a read or a write of the rows, or a call of a store.  Any number of
workers take turns, one for each delivery, and a worker that is never run again has stopped.  A call
may fail, and a write may be made though its worker is told that it failed.  The claim token of a
worker is the number of its delivery.
-/
import Splitch.Library.Runs

namespace Splitch

namespace Privacy

/-! ## 1. Stores -/

inductive DeleteStore
  | analysisSuppression
  | eventIngestSuppression
  | d1Tombstone
  | assignments
  | analysis
  | eventIngest
  deriving DecidableEq, Repr

def DELETE_STORES : List DeleteStore :=
  [.analysisSuppression, .eventIngestSuppression, .d1Tombstone, .assignments, .analysis,
    .eventIngest]

/-- The suppressions and the tombstone, which keep what is deleted from coming back. -/
def DeleteStore.suppresses : DeleteStore → Bool
  | .analysisSuppression | .eventIngestSuppression | .d1Tombstone => true
  | .assignments | .analysis | .eventIngest => false

inductive StoreState
  | pending
  | done
  | failed
  deriving DecidableEq, Repr

/-- The JSON map of the job.  `parseDeleteStoreStatus` reads what `JSON.stringify` has written. -/
abbrev EntityDeleteStoreStatus := DeleteStore → StoreState

def initialEntityDeleteStoreStatus : EntityDeleteStoreStatus := fun _ => .pending

/-! ## 2. Rows -/

inductive PrivacyJobStatus
  | queued
  | running
  | completed
  | failed
  deriving DecidableEq, Repr

inductive PrivacyRequestStatus
  | processing
  | completed
  deriving DecidableEq, Repr

structure PrivacyRequestRow where
  orgId : String
  appId : Option String
  /-- The hashes of the Targeting Keys. -/
  subjectRef : List String
  requestedBy : String
  status : PrivacyRequestStatus
  completedAt : Option Int

structure PrivacyJobRow where
  status : PrivacyJobStatus
  storeStatusJson : EntityDeleteStoreStatus
  deleteBeforeTs : Option String
  identityVersion : String
  idType : Option String
  entityFamilyHash : Option String
  leaseExpiresAt : Option Int
  claimToken : Option Nat
  errorCode : Option String
  updatedAt : Int

/-- The rows of one request. -/
structure PrivacyRows where
  request : PrivacyRequestRow
  job : PrivacyJobRow

/-- `insertPrivacyJob`. -/
def beginEntityPrivacyJob (orgId : String) (appId : Option String) (subjectRef : List String)
    (requestedBy : String) (deleteBeforeTs : Option String) (identityVersion : String)
    (idType entityFamilyHash : Option String) (receivedAt : Int) : PrivacyRows where
  request :=
    { orgId, appId, subjectRef, requestedBy, status := .processing, completedAt := none }
  job :=
    { status := .queued
      storeStatusJson := initialEntityDeleteStoreStatus
      deleteBeforeTs
      identityVersion
      idType
      entityFamilyHash
      leaseExpiresAt := none
      claimToken := none
      errorCode := none
      updatedAt := receivedAt }

def PRIVACY_JOB_LEASE_MS : Int := 15 * 60 * 1000

namespace PrivacyRows

/-- The rows after the claim, if it claims the job. -/
def claimPrivacyJob (rows : PrivacyRows) (now leaseExpiresAt : Int) (claimToken : Nat) :
    Option PrivacyRows :=
  if rows.job.status ≠ .completed ∧ rows.job.leaseExpiresAt.all (· ≤ now) then
    some { rows with
      job := { rows.job with
        status := .running
        leaseExpiresAt := some leaseExpiresAt
        claimToken := some claimToken
        errorCode := none
        updatedAt := now } }
  else none

def renewPrivacyJobLease (rows : PrivacyRows) (claimToken : Nat) (leaseExpiresAt updatedAt : Int) :
    Option PrivacyRows :=
  if rows.job.status = .running ∧ rows.job.claimToken = some claimToken then
    some { rows with job := { rows.job with leaseExpiresAt := some leaseExpiresAt, updatedAt } }
  else none

/-- The batch that updates both rows, or is rolled back where it finds no job to update. -/
def updatePrivacyJob (rows : PrivacyRows) (status : PrivacyJobStatus)
    (storeStatusJson : EntityDeleteStoreStatus) (updatedAt : Int) (errorCode : Option String)
    (claimToken : Nat) : Option PrivacyRows :=
  if rows.job.status = .running ∧ rows.job.claimToken = some claimToken then
    some
      { request := { rows.request with
          status := if status = .completed then .completed else .processing
          completedAt := if status = .completed then some updatedAt else none }
        job := { rows.job with
          status
          storeStatusJson
          leaseExpiresAt := if status = .running then rows.job.leaseExpiresAt else none
          claimToken := if status = .running then rows.job.claimToken else none
          errorCode
          updatedAt } }
  else none

end PrivacyRows

/-! ## 3. A worker -/

structure ResolvedEntityPrivacyInput where
  appId : String
  idType : String
  targetingKeyHashes : List String
  entityFamilyHash : String
  actorId : String
  orgId : String
  deriving DecidableEq, Repr

/-- A text that is there and is not empty. -/
def present (text : Option String) : Option String := text.filter (!·.isEmpty)

/-- `entityInput`. -/
def entityInput (request : PrivacyRequestRow) (job : PrivacyJobRow) :
    Option ResolvedEntityPrivacyInput :=
  match present request.appId, present job.idType, present job.entityFamilyHash with
  | some appId, some idType, some entityFamilyHash =>
    if request.subjectRef = [] ∨ request.subjectRef.any (·.isEmpty) then none
    else some
      { appId
        idType
        targetingKeyHashes := request.subjectRef
        entityFamilyHash
        actorId := request.requestedBy
        orgId := request.orgId }
  | _, _, _ => none

/-- What every call of a store is given. -/
structure DeletionTarget where
  entity : ResolvedEntityPrivacyInput
  deleteBeforeTs : String
  identityVersion : String
  deriving DecidableEq, Repr

/-- What a worker that has claimed the job goes by: its own copy of the progress. -/
structure ClaimedJob where
  target : DeletionTarget
  states : EntityDeleteStoreStatus

/-- The call that a worker makes next. -/
inductive WorkerStage
  | reading
  | claiming (request : PrivacyRequestRow)
  | renewing (job : ClaimedJob) (store : DeleteStore)
  | operating (job : ClaimedJob) (store : DeleteStore)
  | recordingFailure (job : ClaimedJob) (store : DeleteStore)
  | renewingAgain (job : ClaimedJob) (store : DeleteStore)
  | recordingDone (job : ClaimedJob) (store : DeleteStore)
  | completing (job : ClaimedJob)
  | recovering
  | recordingRecovery (storeStatusJson : EntityDeleteStoreStatus)
  | stopped

/-- The step that a job goes on with: a store that is done is passed over. -/
def nextStep (job : ClaimedJob) : WorkerStage :=
  match DELETE_STORES.find? fun store => job.states store ≠ .done with
  | some store => .renewing job store
  | none => .completing job

/-- `runEntityDeleteJob` from its start. -/
def startJob (request : PrivacyRequestRow) (claimed : PrivacyJobRow) : WorkerStage :=
  match entityInput request claimed with
  | none => .stopped
  | some entity =>
    match present claimed.deleteBeforeTs with
    | none => .recovering
    | some deleteBeforeTs =>
      nextStep
        { target := { entity, deleteBeforeTs, identityVersion := claimed.identityVersion }
          states := claimed.storeStatusJson }

/-- How a call ends: it is made and answered, it is not made, or it is made and its answer is
lost. -/
inductive CallOutcome
  | ok
  | failed
  | lost
  deriving DecidableEq, Repr

/-- The calls of the stores, and those that succeeded. -/
inductive StoreCall
  | called (store : DeleteStore) (target : DeletionTarget)
  | succeeded (store : DeleteStore) (target : DeletionTarget)
  deriving DecidableEq, Repr

structure PrivacyWorld where
  rows : PrivacyRows
  worker : Nat → WorkerStage
  log : List StoreCall

namespace PrivacyWorld

/-- What a write leaves: the rows, and whether its worker is told that it was made. -/
def written (rows : PrivacyRows) (outcome : CallOutcome) (write : Option PrivacyRows) :
    Bool × PrivacyRows :=
  match outcome, write with
  | .failed, _ | _, none => (false, rows)
  | .lost, some after => (false, after)
  | .ok, some after => (true, after)

def goTo (world : PrivacyWorld) (number : Nat) (stage : WorkerStage) : PrivacyWorld :=
  { world with worker := Function.update world.worker number stage }

/-- A worker that is told that its write was made goes on, else its failure is recorded. -/
def write (world : PrivacyWorld) (number : Nat) (outcome : CallOutcome)
    (write : Option PrivacyRows) (next failure : WorkerStage) : PrivacyWorld :=
  let (told, rows) := written world.rows outcome write
  { world with rows }.goTo number (if told then next else failure)

def logged (world : PrivacyWorld) (call : StoreCall) : PrivacyWorld :=
  { world with log := world.log ++ [call] }

/-- One call of a worker. -/
def run (world : PrivacyWorld) (number : Nat) (now : Int) (outcome : CallOutcome) : PrivacyWorld :=
  let renewed := world.rows.renewPrivacyJobLease number (now + PRIVACY_JOB_LEASE_MS) now
  let update (status : PrivacyJobStatus) (states : EntityDeleteStoreStatus)
      (errorCode : Option String) : Option PrivacyRows :=
    world.rows.updatePrivacyJob status states now errorCode number
  match world.worker number with
  | .reading =>
    if outcome ≠ .ok ∨ world.rows.job.status = .completed then world.goTo number .stopped
    else world.goTo number (.claiming world.rows.request)
  | .claiming request =>
    match world.rows.claimPrivacyJob now (now + PRIVACY_JOB_LEASE_MS) number with
    | none => world.goTo number .stopped
    | some claimed =>
      world.write number outcome (some claimed) (startJob request claimed.job) .stopped
  | .renewing job store =>
    let (told, rows) := written world.rows outcome renewed
    if told then
      ({ world with rows }.logged (.called store job.target)).goTo number (.operating job store)
    else { world with rows }.goTo number .recovering
  | .operating job store =>
    if outcome = .ok then
      (world.logged (.succeeded store job.target)).goTo number (.renewingAgain job store)
    else world.goTo number (.recordingFailure job store)
  | .recordingFailure job store =>
    world.write number outcome
      (update .failed (Function.update job.states store .failed) (some "PRIVACY_STORE_FAILED"))
      .recovering .recovering
  | .renewingAgain job store =>
    world.write number outcome renewed (.recordingDone job store) .recovering
  | .recordingDone job store =>
    let states := Function.update job.states store .done
    world.write number outcome (update .running states none) (nextStep { job with states })
      .recovering
  | .completing job =>
    world.write number outcome (update .completed job.states none) .stopped .recovering
  | .recovering =>
    if outcome = .ok ∧ world.rows.job.status = .running ∧
        world.rows.job.claimToken = some number then
      world.goTo number (.recordingRecovery world.rows.job.storeStatusJson)
    else world.goTo number .stopped
  | .recordingRecovery storeStatusJson =>
    world.write number outcome (update .failed storeStatusJson (some "PRIVACY_JOB_FAILED"))
      .stopped .stopped
  | .stopped => world

end PrivacyWorld

/-! ## 4. The machine -/

/-- A worker makes its next call. -/
structure WorkerTurn where
  number : Nat
  now : Int
  outcome : CallOutcome
  deriving DecidableEq, Repr

def entityDeleteJob (rows : PrivacyRows) : Machine PrivacyWorld WorkerTurn Unit where
  init := { rows, worker := fun _ => .reading, log := [] }
  step := fun world turn => ((), world.run turn.number turn.now turn.outcome)

end Privacy

end Splitch
