/-
# The holdover outbox

One Durable Object for each Entity (`holdover-write-outbox-do.ts`, `-core.ts`, `-ensure.ts`,
`-fetch.ts`) owns the Assignment writes that an accepted Exposure has promised and that KV has
not confirmed yet.  It keeps one job row for each Experiment, the tombstone of the last Entity
deletion, the fence of destroyed identity versions and ONE alarm slot for all of it.

Every request and every alarm runs alone, from its first read to its last write.  Storage does not
fail.  The calls that leave the object may: an `OutboxFate` says how the ones of an operation end.
What was stored before such a call throws stays stored.
-/
import Splitch.Assignment.AssignmentStore
import Splitch.Assignment.IdentityResetFence
import Splitch.Library.Runs
import Splitch.Library.StateActions

namespace Splitch

/-! ## 1. Jobs -/

inductive HoldoverWriteJobStatus
  | pending
  | poisoned
  deriving DecidableEq, Repr

structure HoldoverWriteJob extends HashedAssignmentPutInput where
  status : HoldoverWriteJobStatus
  attempt : Nat
  createdAtMs : Int
  updatedAtMs : Int
  deriving DecidableEq, Repr

inductive HoldoverWriteEnsureStatus
  | completed
  | owned
  | poisoned
  | suppressed
  deriving DecidableEq, Repr

def HOLDOVER_WRITE_MAX_ATTEMPTS : Nat := 8

def HOLDOVER_WRITE_RETRY_BASE_MS : Int := 1000

def APP_SUPPRESSION_RECHECK_MS : Int := 60000

def holdoverWriteRetryDelayMs (attempt : Nat) : Int :=
  HOLDOVER_WRITE_RETRY_BASE_MS * 2 ^ (min attempt HOLDOVER_WRITE_MAX_ATTEMPTS - 1)

def holdoverWriteJobDueAtMs (job : HoldoverWriteJob) : Int :=
  job.updatedAtMs + holdoverWriteRetryDelayMs (max 1 job.attempt)

/-- What is put for a job. -/
def HoldoverWriteJob.put (job : HoldoverWriteJob) : HashedAssignmentPutInput :=
  { job.toHashedAssignmentPutInput with sourceCreatedAtMs := some job.createdAtMs }

/-! ## 2. State -/

/-- The tombstone row; `true` is what earlier releases wrote. -/
inductive EntityHoldoverWriteSuppressionRow
  | legacyTrue
  | deleteBeforeTsMs (ms : Int)
  deriving DecidableEq, Repr

/-- A `deleteBeforeTsMs`, which may be `Number.POSITIVE_INFINITY`. -/
inductive DeletionCutoff
  | upTo (ms : Int)
  | infinity
  deriving DecidableEq, Repr

/-- `createdAtMs <= deleteBeforeTsMs` -/
def DeletionCutoff.covers (createdAtMs : Int) : DeletionCutoff → Bool
  | .upTo deleteBeforeTsMs => createdAtMs ≤ deleteBeforeTsMs
  | .infinity => true

structure HoldoverWriteOutboxStorage where
  /-- The rows `holdover-write-job:<experimentId>`. -/
  jobs : Std.ExtTreeMap String HoldoverWriteJob compare
  suppression : Option EntityHoldoverWriteSuppressionRow
  appIdentityResetFence : Option (List String)
  alarm : Option Int

/-- What the log of the object records, in order: the job rows it creates and the puts it calls. -/
inductive OutboxAct
  | sealedJob (experimentId : String)
  | putHashed (input : HashedAssignmentPutInput) (resolved : Bool)
  deriving DecidableEq, Repr

structure HoldoverWriteOutboxWorld where
  storage : HoldoverWriteOutboxStorage
  log : List OutboxAct

def HoldoverWriteOutboxWorld.empty : HoldoverWriteOutboxWorld where
  storage := ⟨∅, none, none, none⟩
  log := []

inductive InventoryRegisterStatus
  | registered
  | suppressed
  deriving DecidableEq, Repr

/-- How the calls of one operation end.  The first look at App suppression is one call; the second
look and the put are made once for each job. -/
structure OutboxFate where
  isAppSuppressed : Except String Bool
  registerEntity : Except String InventoryRegisterStatus
  isAppSuppressedFor : String → Except String Bool
  putHashed : String → Except String Unit

namespace HoldoverWriteOutbox

abbrev OutboxM := ExceptT String (StateM HoldoverWriteOutboxWorld)

def getStorage : OutboxM HoldoverWriteOutboxStorage := return (← get).storage

def setStorage (f : HoldoverWriteOutboxStorage → HoldoverWriteOutboxStorage) : OutboxM Unit :=
  modify fun world => { world with storage := f world.storage }

def record (act : OutboxAct) : OutboxM Unit :=
  modify fun world => { world with log := world.log ++ [act] }

/-- A call ends as its fate says. -/
def resolve {α : Type} (answer : Except String α) : OutboxM α := ExceptT.mk (pure answer)

def putJob (job : HoldoverWriteJob) : OutboxM Unit :=
  setStorage fun storage => { storage with jobs := storage.jobs.insert job.experimentId job }

def deleteJob (experimentId : String) : OutboxM Unit :=
  setStorage fun storage => { storage with jobs := storage.jobs.erase experimentId }

def setAlarm (scheduledTime : Int) : OutboxM Unit :=
  setStorage fun storage => { storage with alarm := some scheduledTime }

def deleteAlarm : OutboxM Unit := setStorage fun storage => { storage with alarm := none }

/-! ## 3. The core -/

def listJobs : OutboxM (List HoldoverWriteJob) :=
  return (← getStorage).jobs.toList.map Prod.snd

def readEntitySuppression (storage : HoldoverWriteOutboxStorage) : Option DeletionCutoff :=
  storage.suppression.map fun
    | .legacyTrue => .infinity
    | .deleteBeforeTsMs ms => .upTo ms

def isStaleUnderEntityCutoff (storage : HoldoverWriteOutboxStorage) (sourceCreatedAtMs : Int) :
    Bool :=
  (readEntitySuppression storage).any (·.covers sourceCreatedAtMs)

def suppressEntityOutbox (deleteBeforeTsMs : Int) : OutboxM Unit := do
  setStorage fun storage =>
    { storage with suppression := some (.deleteBeforeTsMs deleteBeforeTsMs) }
  deleteAlarm

def purgeStaleJobs (deleteBeforeTsMs : DeletionCutoff) : OutboxM Unit :=
  setStorage fun storage =>
    { storage with
      jobs := storage.jobs.filter fun _ job => !deleteBeforeTsMs.covers job.createdAtMs }

def reschedulePendingHoldoverWriteAlarm : OutboxM Bool := do
  let jobs ← listJobs
  let pending := jobs.filter fun job => job.status = .pending
  match (pending.map holdoverWriteJobDueAtMs).min? with
  | none =>
    deleteAlarm
    return !jobs.isEmpty
  | some dueAtMs =>
    setAlarm dueAtMs
    return true

def purgeEntityOutboxState (deleteBeforeTsMs : DeletionCutoff) : OutboxM Bool := do
  purgeStaleJobs deleteBeforeTsMs
  reschedulePendingHoldoverWriteAlarm

def deleteEntityOutbox (deleteBeforeTsMs : Int) : OutboxM Bool := do
  suppressEntityOutbox deleteBeforeTsMs
  purgeEntityOutboxState (.upTo deleteBeforeTsMs)

structure HoldoverWriteOutboxAppResetProof where
  jobs : List HoldoverWriteJob
  fencedIdentityVersions : List String
  deriving DecidableEq, Repr

def extendFence (destroyedVersions : List String) : OutboxM (List String) := do
  let next ← resolve
    (extendAppIdentityResetFence (← getStorage).appIdentityResetFence destroyedVersions)
  setStorage fun storage => { storage with appIdentityResetFence := some next }
  return next

def resetAppOutboxState (destroyedVersions : List String) :
    OutboxM HoldoverWriteOutboxAppResetProof := do
  let fencedIdentityVersions ← extendFence destroyedVersions
  setStorage fun storage => { storage with jobs := ∅ }
  deleteAlarm
  let remaining ← listJobs
  if !remaining.isEmpty then
    throw "holdover-write-outbox: App reset purge proof is not empty"
  else return ⟨remaining, fencedIdentityVersions⟩

/-- Is work under this identity version fenced off? -/
def isIdentityVersionReset (identityVersion : Option String) : OutboxM Bool := do
  match identityVersion with
  | none => return false
  | some version =>
    resolve (isAppIdentityVersionReset (← getStorage).appIdentityResetFence version)

/-! ## 4. Ensure and alarm -/

def attemptHoldoverWriteJob (job : HoldoverWriteJob) (nowMs : Int) (fate : OutboxFate) :
    OutboxM HoldoverWriteEnsureStatus := do
  if ← isIdentityVersionReset job.identityVersion then
    deleteJob job.experimentId
    let _ ← reschedulePendingHoldoverWriteAlarm
    return .suppressed
  else do
    if ← resolve (fate.isAppSuppressedFor job.experimentId) then
      setAlarm (nowMs + APP_SUPPRESSION_RECHECK_MS)
      return .suppressed
    else do
      if isStaleUnderEntityCutoff (← getStorage) job.createdAtMs then
        deleteJob job.experimentId
        let _ ← reschedulePendingHoldoverWriteAlarm
        return .suppressed
      else if job.status = .poisoned then return .poisoned
      else
        record (.putHashed job.put (fate.putHashed job.experimentId).isOk)
        match fate.putHashed job.experimentId with
        | .ok _ =>
          deleteJob job.experimentId
          let _ ← reschedulePendingHoldoverWriteAlarm
          return .completed
        | .error _ =>
          if HOLDOVER_WRITE_MAX_ATTEMPTS ≤ job.attempt + 1 then
            putJob { job with
              status := .poisoned, attempt := job.attempt + 1, updatedAtMs := nowMs }
            let _ ← reschedulePendingHoldoverWriteAlarm
            return .poisoned
          else
            putJob { job with
              status := .pending, attempt := job.attempt + 1, updatedAtMs := nowMs }
            let _ ← reschedulePendingHoldoverWriteAlarm
            return .owned

def preflightSuppression (input : HashedAssignmentPutInput) (sourceCreatedAtMs : Int)
    (fate : OutboxFate) : OutboxM (Option HoldoverWriteEnsureStatus) := do
  if ← isIdentityVersionReset input.identityVersion then return some .suppressed
  else do
    if ← resolve fate.isAppSuppressed then return some .suppressed
    else do
      if isStaleUnderEntityCutoff (← getStorage) sourceCreatedAtMs then
        purgeStaleJobs (.upTo sourceCreatedAtMs)
        return some .suppressed
      else return none

def resultForDeferredExistingJob (existing : Option HoldoverWriteJob) (nowMs : Int) :
    OutboxM (Option HoldoverWriteEnsureStatus) := do
  match existing with
  | none => return none
  | some job =>
    if job.status = .poisoned then return some .poisoned
    else if holdoverWriteJobDueAtMs job ≤ nowMs then return none
    else
      let _ ← reschedulePendingHoldoverWriteAlarm
      return some .owned

/-- The job row that first ownership writes. -/
def sealedJob (input : HashedAssignmentPutInput) (sourceCreatedAtMs nowMs : Int) :
    HoldoverWriteJob :=
  { input with
    status := .pending, attempt := 0, createdAtMs := sourceCreatedAtMs, updatedAtMs := nowMs }

def ensureHoldoverWriteJob (input : HashedAssignmentPutInput) (nowMs : Int)
    (sourceCreatedAtMs? : Option Int) (fate : OutboxFate) :
    OutboxM HoldoverWriteEnsureStatus := do
  let sourceCreatedAtMs := sourceCreatedAtMs?.getD nowMs
  match ← preflightSuppression input sourceCreatedAtMs fate with
  | some status => return status
  | none =>
    match ← resolve fate.registerEntity with
    | .suppressed => return .suppressed
    | .registered =>
      let existing := (← getStorage).jobs[input.experimentId]?
      match ← resultForDeferredExistingJob existing nowMs with
      | some status => return status
      | none =>
        match existing with
        | some job => attemptHoldoverWriteJob job nowMs fate
        | none =>
          let job := sealedJob input sourceCreatedAtMs nowMs
          record (.sealedJob job.experimentId)
          putJob job
          attemptHoldoverWriteJob job nowMs fate

def retryDueAlarmJob (nowMs : Int) (cutoff : Option DeletionCutoff) (fate : OutboxFate)
    (job : HoldoverWriteJob) : OutboxM Unit := do
  if job.status ≠ .pending then return ()
  else if cutoff.any (·.covers job.createdAtMs) then deleteJob job.experimentId
  else if nowMs < holdoverWriteJobDueAtMs job then return ()
  else
    let _ ← attemptHoldoverWriteJob job nowMs fate

def runHoldoverWriteAlarm (nowMs : Int) (fate : OutboxFate) : OutboxM Unit := do
  let jobs ← listJobs
  if jobs.isEmpty then return ()
  else do
    if ← resolve fate.isAppSuppressed then setAlarm (nowMs + APP_SUPPRESSION_RECHECK_MS)
    else
      let cutoff := readEntitySuppression (← getStorage)
      jobs.forM (retryDueAlarmJob nowMs cutoff fate)
      let _ ← reschedulePendingHoldoverWriteAlarm

/-! ## 5. The object -/

/-- `/delete`: the Entity is unregistered where no job remains and the request names it. -/
def deleteResponse (deleteBeforeTsMs : Int) (markEntityPurged : Option (Except String Unit)) :
    OutboxM Bool := do
  let remainingJobs ← deleteEntityOutbox deleteBeforeTsMs
  match markEntityPurged with
  | none => return remainingJobs
  | some answer =>
    if remainingJobs then return remainingJobs
    else
      resolve answer
      return remainingJobs

/-- An alarm that fires leaves the slot; one that throws is delivered again. -/
def deliverAlarm (nowMs : Int) (fate : OutboxFate) : OutboxM Unit := do
  deleteAlarm
  tryCatch (runHoldoverWriteAlarm nowMs fate) fun message => do
    setAlarm ((← getStorage).alarm.getD nowMs)
    throw message

end HoldoverWriteOutbox

inductive OutboxEvent
  | ensure (input : HashedAssignmentPutInput) (nowMs : Int) (sourceCreatedAtMs : Option Int)
      (fate : OutboxFate)
  | alarm (nowMs : Int) (fate : OutboxFate)
  | delete (deleteBeforeTsMs : Int) (markEntityPurged : Option (Except String Unit))
  | purge (deleteBeforeTsMs : Option Int)
  | resumeAlarms
  | resetApp (destroyedVersions : List String)

inductive OutboxReply
  | ensure (status : HoldoverWriteEnsureStatus)
  | alarm
  | delete (remainingJobs : Bool)
  | purge (remainingJobs : Bool)
  | resumeAlarms
  | resetApp (proof : HoldoverWriteOutbox.HoldoverWriteOutboxAppResetProof)
  deriving DecidableEq, Repr

open HoldoverWriteOutbox in
def outboxStep : OutboxEvent → OutboxM OutboxReply
  | .ensure input nowMs sourceCreatedAtMs fate =>
    .ensure <$> ensureHoldoverWriteJob input nowMs sourceCreatedAtMs fate
  | .alarm nowMs fate => (fun _ => .alarm) <$> deliverAlarm nowMs fate
  | .delete deleteBeforeTsMs markEntityPurged =>
    .delete <$> deleteResponse deleteBeforeTsMs markEntityPurged
  | .purge deleteBeforeTsMs =>
    .purge <$> purgeEntityOutboxState (deleteBeforeTsMs.elim .infinity .upTo)
  | .resumeAlarms => (fun _ => .resumeAlarms) <$> reschedulePendingHoldoverWriteAlarm
  | .resetApp destroyedVersions =>
    .resetApp <$> (resolve (requireDestroyedIdentityVersions destroyedVersions)
      >>= resetAppOutboxState)

def holdoverWriteOutbox :
    Machine HoldoverWriteOutboxWorld OutboxEvent (Except String OutboxReply) where
  init := .empty
  step world event := outboxStep event world

end Splitch
