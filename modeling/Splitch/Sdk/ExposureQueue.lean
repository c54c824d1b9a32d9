/-
# The Exposure queue of the browser client

`exposure-queue.ts` with `exposure-admission.ts`, `exposure-drain.ts`, `exposure-overflow.ts` and
`exposure-retry.ts`.  An `async` call is a CALLER: it runs up to its next `await`, and goes on when it is
resumed, whatever has been done to the queue in between.  Timers, the events of the page, the answers of the
network and the resumptions come in any order.

Nothing reads the `History`: it notes where an Exposure has gone, and what was handed to the transport.
-/
import Splitch.Library.Runs
import Splitch.Sdk.ExposureBatch
import Splitch.Sdk.SdkErrors

namespace Splitch

namespace Browser

open Checks JsonText

/-! ## 1. Failures and logs -/

/-- A failure of the transport: no status for a local one. -/
structure BrowserTransportFailure where
  status : Option Nat
  errorCode : Option String
  errorMessage : Option String
  deriving DecidableEq, Repr

structure BrowserExposuresResult extends BrowserTransportFailure where
  results : Option (List ExposureBatchResult)
  deriving DecidableEq, Repr

/-- What is logged, with the ids it is about. -/
structure LogEntry extends SplitchSdkError where
  exposureIds : List String
  deriving DecidableEq, Repr

def EXPOSURE_BATCH_FAILURE_RETRY_REMEDIATION : String :=
  "Retry flush(); the pending batch is retained for the 5s retry " ++
    "(which will not fire if the page is discarded first)"

def EXPOSURE_BATCH_FAILURE_NO_RETRY_REMEDIATION : String :=
  "The pending batch was not sent and will not be retried; call flush() before close() or page " ++
    "teardown if redemption must complete"

def EXPOSURE_BATCH_FAILURE_TERMINAL_REMEDIATION : String :=
  "Automatic retries stopped; correct the delivery failure, then call flush() explicitly for the " ++
    "retained batch"

def ENVIRONMENT_EXPIRED_REMEDIATION : String :=
  "Create a new Temporary Environment and configure its credential"

/-- What `mintExposureId` throws where `crypto.randomUUID` is missing. -/
def exposureIdUnavailable : SplitchSdkError :=
  .new "SDK_IDEMPOTENCY_KEY_UNAVAILABLE"
    "crypto.randomUUID is unavailable, so the browser client could not mint an exposureId"
    "Serve the page from a secure context (https:// or localhost) where crypto.randomUUID exists" none

/-! ## 2. The retry policy -/

structure ExposureRetryPolicy where
  attemptCount : Nat
  stopped : Bool
  deriving DecidableEq, Repr

def MAX_DELIVERY_ATTEMPTS : Nat := 3

def RETRYABLE_CLIENT_STATUSES : List Nat := [408, 425, 429]

def isNonRetryableStatus (status : Option Nat) : Bool :=
  match status with
  | none => false
  | some status => 400 ≤ status && status < 500 && status ∉ RETRYABLE_CLIENT_STATUSES

/-- Whether it may be tried again, and what is logged. -/
def ExposureRetryPolicy.recordFailure (policy : ExposureRetryPolicy) (result : BrowserTransportFailure) :
    Bool × ExposureRetryPolicy × List LogEntry :=
  if policy.stopped then (false, policy, [])
  else
    let attemptCount := policy.attemptCount + 1
    let nonRetryable := isNonRetryableStatus result.status
    if !nonRetryable && attemptCount < MAX_DELIVERY_ATTEMPTS then
      (true, { policy with attemptCount }, [])
    else
      (false, ⟨attemptCount, true⟩, [{
        code := result.errorCode.getD "SERVICE_UNAVAILABLE"
        causeSummary :=
          if nonRetryable then
            s!"Exposure delivery stopped after non-retryable HTTP {result.status.getD 0}"
          else s!"Exposure delivery stopped after {attemptCount} failed attempts"
        remediation := "Correct the delivery failure, then call flush() explicitly; automatic " ++
          "retries are disabled for this queue"
        status := result.status
        exposureIds := [] }])

/-- The remediation for a batch that was not answered. -/
def ExposureRetryPolicy.remediationForFailure (policy : ExposureRetryPolicy)
    (result : BrowserTransportFailure) (closed : Bool) :
    String × ExposureRetryPolicy × List LogEntry :=
  if closed then (EXPOSURE_BATCH_FAILURE_NO_RETRY_REMEDIATION, policy, [])
  else
    let (again, policy, logs) := policy.recordFailure result
    (if again then EXPOSURE_BATCH_FAILURE_RETRY_REMEDIATION
      else EXPOSURE_BATCH_FAILURE_TERMINAL_REMEDIATION, policy, logs)

def ExposureRetryPolicy.recordSuccess : ExposureRetryPolicy := ⟨0, false⟩

/-! ## 3. The queue and its callers -/

structure DrainOptions where
  keepalive : Bool
  automatic : Bool
  deriving DecidableEq, Repr

/-- What has begun a drain, and goes on after it. -/
inductive CallerKind
  | flush
  | close
  | bestEffort
  /-- With the retention version it began with. -/
  | overflow (retentionVersion : Nat)
  deriving DecidableEq, Repr

/-- The variables of `drainPending`. -/
structure Progress where
  batches : Nat
  completed : List ExposureBatchResult
  deriving DecidableEq, Repr

abbrev DrainResult := Except SplitchSdkError (List ExposureBatchResult)

/-- The `await` a caller is at. -/
inductive Phase
  /-- Another drain is active. -/
  | waiting
  | redeeming (batch : List QueuedExposure) (progress : Progress)
  /-- The batch is done with, and `drainPending` goes on. -/
  | answered (retainedForRetry : Bool) (progress : Progress)
  /-- The batch has thrown. -/
  | threw (error : SplitchSdkError)
  /-- `drainPending` is over. -/
  | settled (result : DrainResult)
  /-- `enqueueDrain` is over. -/
  | ended (result : DrainResult)

structure Caller where
  kind : CallerKind
  options : DrainOptions
  phase : Phase

/-- A batch that was handed to the transport. -/
structure Sent where
  caller : Nat
  options : DrainOptions
  batch : List QueuedExposure
  /-- Whether automatic delivery had stopped. -/
  stopped : Bool

structure History where
  admitted : List QueuedExposure
  /-- Delivered, or rejected for good. -/
  answered : List QueuedExposure
  /-- Cut off after an overflow. -/
  dropped : List QueuedExposure
  /-- Discarded with the Environment. -/
  expired : List QueuedExposure
  sent : List Sent
  logs : List LogEntry

structure ExposureQueue where
  pending : List QueuedExposure
  enqueuedFlags : List String
  flushTimer : Bool
  lifecycleAttached : Bool
  closed : Bool
  expiryError : Option SplitchSdkError
  /-- The caller that owns the active drain. -/
  activeDrain : Option Nat
  queuedDrains : Nat
  retentionVersion : Nat
  retryPolicy : ExposureRetryPolicy
  callers : Nat → Option Caller
  nextCaller : Nat
  history : History

def ExposureQueue.new : ExposureQueue where
  pending := []
  enqueuedFlags := []
  flushTimer := false
  lifecycleAttached := false
  closed := false
  expiryError := none
  activeDrain := none
  queuedDrains := 0
  retentionVersion := 0
  retryPolicy := ⟨0, false⟩
  callers := fun _ => none
  nextCaller := 0
  history := ⟨[], [], [], [], [], []⟩

def MAX_BATCHES_PER_DRAIN : Nat := 10000

structure ExposureQueueDeps where
  hasDocument : Bool
  hasWindow : Bool
  maxBatchesPerDrain : Option Nat
  isErrorCode : String → Bool

namespace ExposureQueue

variable (deps : ExposureQueueDeps)

def log (queue : ExposureQueue) (logs : List LogEntry) : ExposureQueue :=
  { queue with history := { queue.history with logs := queue.history.logs ++ logs } }

def setCaller (queue : ExposureQueue) (id : Nat) (caller : Option Caller) : ExposureQueue :=
  { queue with callers := Function.update queue.callers id caller }

/-! ## 4. Timer and page -/

def automaticFlushAllowed (queue : ExposureQueue) : Bool :=
  queue.expiryError.isNone && !queue.closed && queue.pending.length > 0 && !queue.retryPolicy.stopped

def ensureTimer (queue : ExposureQueue) : ExposureQueue :=
  if queue.flushTimer || !queue.automaticFlushAllowed then queue else { queue with flushTimer := true }

def clearTimer (queue : ExposureQueue) : ExposureQueue := { queue with flushTimer := false }

def ensureLifecycle (queue : ExposureQueue) : ExposureQueue :=
  if queue.lifecycleAttached || !queue.automaticFlushAllowed then queue
  else if deps.hasDocument || deps.hasWindow then { queue with lifecycleAttached := true }
  else queue

def detachLifecycle (queue : ExposureQueue) : ExposureQueue := { queue with lifecycleAttached := false }

def afterDrain (queue : ExposureQueue) : ExposureQueue :=
  if queue.automaticFlushAllowed then queue.ensureTimer.ensureLifecycle deps
  else queue.clearTimer.detachLifecycle

/-! ## 5. Overflow and expiry -/

/-- `ExposureOverflow.retain`. -/
def retain (queue : ExposureQueue) (batch : List QueuedExposure) : ExposureQueue :=
  { queue with
    pending := batch ++ queue.pending
    retentionVersion := queue.retentionVersion + 1 }

/-- What is logged of an overflow. -/
def overflowDropped (lost kept : List QueuedExposure) : LogEntry where
  code := "RATE_LIMITED"
  causeSummary := s!"Exposure queue overflow dropped {lost.length} redemption(s) after a failed " ++
    s!"forced flush; retained {kept.length} for retry"
  remediation := "Reduce concurrent first-reads or call flush() more often; excess exposureIds " ++
    "were discarded loudly"
  status := none
  exposureIds := lost.map (·.exposureId)

def trimFailedOverflow (queue : ExposureQueue) : ExposureQueue :=
  let kept := queue.pending.take EXPOSURE_BATCH_MAX_ITEMS
  let lost := queue.pending.drop EXPOSURE_BATCH_MAX_ITEMS
  let queue := { queue with
    pending := kept
    enqueuedFlags := queue.enqueuedFlags.filter (· ∉ lost.map (·.flagKey))
    history := { queue.history with dropped := queue.history.dropped ++ lost } }
  if lost.length = 0 then queue else queue.log [overflowDropped lost kept]

def expire (queue : ExposureQueue) (error : SplitchSdkError) : ExposureQueue :=
  clearTimer (detachLifecycle { queue with
    expiryError := some error
    pending := []
    history := { queue.history with expired := queue.history.expired ++ queue.pending } })

/-! ## 6. The answer to a batch -/

/-- A batch that goes with its Environment. -/
def discardExpired (queue : ExposureQueue) (batch : List QueuedExposure) : ExposureQueue :=
  { queue with history := { queue.history with expired := queue.history.expired ++ batch } }

def noteAnswered (queue : ExposureQueue) (items : List QueuedExposure) : ExposureQueue :=
  { queue with history := { queue.history with answered := queue.history.answered ++ items } }

/-- What `redeemExposureBatch` makes of an answer, or of what the transport has thrown. -/
def redeemExposureBatch : Except String BrowserExposuresResult → BrowserExposuresResult
  | .ok result => result
  | .error message => ⟨⟨none, some "SDK_TRANSPORT_NETWORK", some message⟩, none⟩

/-- `sdkErrorForFailure("Exposure redemption", result)`, where the code is this one. -/
def environmentExpired (result : BrowserTransportFailure) : SplitchSdkError :=
  .new "ENVIRONMENT_EXPIRED"
    (result.errorMessage.getD "Exposure redemption failed with ENVIRONMENT_EXPIRED")
    ENVIRONMENT_EXPIRED_REMEDIATION result.status

def batchFailure (result : BrowserTransportFailure) (remediation : String) : SplitchSdkError :=
  .new (result.errorCode.getD "SERVICE_UNAVAILABLE")
    (result.errorMessage.getD "Exposure batch flush failed") remediation result.status

def zeroProgress (causeSummary : String) : SplitchSdkError :=
  .new "SERVICE_UNAVAILABLE" causeSummary ("Inspect the exposures response: every sent exposureId " ++
    "must appear in results, or flush fails loud") none

def missingResults (unmatchedCount : Nat) : SplitchSdkError :=
  .new "SERVICE_UNAVAILABLE" s!"Exposure batch response omitted {unmatchedCount} sent exposureId(s)"
    ("Inspect the exposures response: every sent exposureId must appear in results, or automatic " ++
      "delivery stops after the retry bound") none

def rejectedItem (item : QueuedExposure) (row : ExposureBatchResult) (status : Option Nat) : LogEntry :=
  { code := row.code.getD "VALIDATION_ERROR"
    causeSummary := "Exposure redemption rejected for " ++ item.exposureId
    remediation := "Refetch Precomputed Evaluations if the ticket expired; otherwise inspect the " ++
      "error code"
    status
    exposureIds := [item.exposureId] }

def logRejected (batch : List QueuedExposure) (results : List ExposureBatchResult)
    (status : Option Nat) : List LogEntry :=
  batch.filterMap fun item =>
    match rowFor results item.exposureId with
    | none => none
    | some row => if row.status = "rejected" then some (rejectedItem item row status) else none

def recordFailure (queue : ExposureQueue) (result : BrowserTransportFailure) : ExposureQueue :=
  let (_, retryPolicy, logs) := queue.retryPolicy.recordFailure result
  { queue with retryPolicy }.log logs

/-- What `redeemPendingExposureBatch` ends with. -/
inductive BatchEnd
  | threw (error : SplitchSdkError)
  | returned (completed : List ExposureBatchResult) (retainedForRetry : Bool)

def keepRetained (queue : ExposureQueue) (retained : List QueuedExposure) : ExposureQueue :=
  if retained.length > 0 then queue.retain retained else queue

/-- The end of `redeemPendingExposureBatch`, with the rows of the answer. -/
def finishBatch (queue : ExposureQueue) (result : BrowserTransportFailure) (outcome : BatchOutcome) :
    ExposureQueue × BatchEnd :=
  if outcome.unmatchedCount > 0 then
    let queue := queue.recordFailure result
    if outcome.completed.length = 0 then
      let error := zeroProgress ("Exposure batch response made zero progress because it omitted one " ++
        "or more sent exposureIds")
      (queue.log [⟨error, []⟩], .threw error)
    else
      (queue.log [⟨missingResults outcome.unmatchedCount, []⟩], .returned outcome.completed true)
  else if outcome.retained.length > 0 then
    (queue.recordFailure result, .returned outcome.completed true)
  else
    ({ queue with retryPolicy := ExposureRetryPolicy.recordSuccess },
      .returned outcome.completed false)

/-- `redeemPendingExposureBatch`, from the answer on. -/
def redeemPendingExposureBatch (queue : ExposureQueue) (batch : List QueuedExposure)
    (reply : Except String BrowserExposuresResult) : ExposureQueue × BatchEnd :=
  let result := redeemExposureBatch reply
  match queue.expiryError with
  | some error => (queue.discardExpired batch, .threw error)
  | none =>
    if result.errorCode = some "ENVIRONMENT_EXPIRED" then
      let error := environmentExpired result.toBrowserTransportFailure
      let thrown := batchFailure result.toBrowserTransportFailure error.remediation
      (((queue.expire error).discardExpired batch).log [⟨thrown, []⟩], .threw thrown)
    else
      match result.results with
      | none =>
        let queue := queue.retain batch
        let (remediation, retryPolicy, logs) := queue.retryPolicy.remediationForFailure
          result.toBrowserTransportFailure queue.closed
        let error := batchFailure result.toBrowserTransportFailure remediation
        (ExposureQueue.log { queue with retryPolicy } (logs ++ [⟨error, []⟩]), .threw error)
      | some results =>
        match applyExposureBatchResults deps.isErrorCode batch results with
        | .error cause =>
          let queue := (queue.retain batch).recordFailure result.toBrowserTransportFailure
          let error := zeroProgress cause
          (queue.log [⟨error, []⟩], .threw error)
        | .ok outcome =>
          let queue := (queue.log (logRejected batch results result.status)).noteAnswered
            (batch.filter (· ∉ outcome.retained))
          (queue.keepRetained outcome.retained).finishBatch result.toBrowserTransportFailure outcome

/-! ## 7. Drains -/

/-- `drainPending` is over: `afterDrain`, and the promise is settled. -/
def settle (queue : ExposureQueue) (id : Nat) (caller : Caller) (result : DrainResult) :
    ExposureQueue :=
  (queue.afterDrain deps).setCaller id (some { caller with phase := .settled result })

/-- A batch is taken and handed to the transport. -/
def sendBatch (queue : ExposureQueue) (id : Nat) (caller : Caller) (progress : Progress) :
    ExposureQueue :=
  let (batch, pending) := takeBatch queue.pending
  let sent : Sent := ⟨id, caller.options, batch, queue.retryPolicy.stopped⟩
  setCaller { queue with
    pending
    history := { queue.history with sent := queue.history.sent ++ [sent] } }
    id (some { caller with phase := .redeeming batch progress })

/-- `drainPending` at the head of its loop. -/
def drainPending (queue : ExposureQueue) (id : Nat) (caller : Caller) (progress : Progress) :
    ExposureQueue :=
  if queue.pending.length = 0 then queue.settle deps id caller (.ok progress.completed)
  else
    let batchLimit := deps.maxBatchesPerDrain.getD MAX_BATCHES_PER_DRAIN
    if progress.batches ≥ batchLimit then
      let error := zeroProgress
        s!"Exposure drain exceeded {batchLimit} batches without clearing the queue"
      (queue.log [⟨error, []⟩]).settle deps id caller (.error error)
    else queue.sendBatch id caller progress

/-- A caller leaves `enqueueDrain`. -/
def leave (queue : ExposureQueue) (id : Nat) (caller : Caller) (result : DrainResult) : ExposureQueue :=
  { queue with queuedDrains := queue.queuedDrains - 1 }.setCaller id
    (some { caller with phase := .ended result })

/-- `enqueueDrain` behind its loop: no drain is active. -/
def startDrain (queue : ExposureQueue) (id : Nat) (caller : Caller) : ExposureQueue :=
  match queue.expiryError with
  | some error => queue.leave id caller (.error error)
  | none =>
    if caller.options.automatic && queue.retryPolicy.stopped then queue.leave id caller (.ok [])
    else { queue with activeDrain := some id }.drainPending deps id caller ⟨0, []⟩

/-- `enqueueDrain`, in a call of the given kind. -/
def enqueueDrain (queue : ExposureQueue) (kind : CallerKind) (options : DrainOptions) : ExposureQueue :=
  let id := queue.nextCaller
  let queue := { queue with nextCaller := id + 1 }
  match queue.expiryError with
  | some error => queue.setCaller id (some ⟨kind, options, .ended (.error error)⟩)
  | none =>
    let queue := { queue with queuedDrains := queue.queuedDrains + 1 }
    let caller : Caller := ⟨kind, options, .waiting⟩
    if queue.activeDrain.isSome then queue.setCaller id (some caller)
    else queue.startDrain deps id caller

/-- What the call does after the drain. -/
def continueCaller (queue : ExposureQueue) (kind : CallerKind) (result : DrainResult) : ExposureQueue :=
  match kind with
  | .flush | .bestEffort => queue
  | .close => queue.detachLifecycle
  | .overflow retentionVersion =>
    match result with
    | .ok _ =>
      if retentionVersion = queue.retentionVersion ∧ queue.retryPolicy.stopped = false then queue
      else queue.trimFailedOverflow
    | .error _ => queue.trimFailedOverflow

/-- A caller goes on. -/
def resume (queue : ExposureQueue) (id : Nat) : ExposureQueue :=
  match queue.callers id with
  | none => queue
  | some caller =>
    match caller.phase with
    | .waiting => if queue.activeDrain.isSome then queue else queue.startDrain deps id caller
    | .redeeming _ _ => queue
    | .answered retainedForRetry progress =>
      if (retainedForRetry && (!queue.closed || queue.retryPolicy.stopped)) ||
          queue.queuedDrains > 1 then
        queue.settle deps id caller (.ok progress.completed)
      else queue.drainPending deps id caller progress
    | .threw error => queue.settle deps id caller (.error error)
    | .settled result =>
      let activeDrain := if queue.activeDrain = some id then none else queue.activeDrain
      { queue with activeDrain }.leave id caller result
    | .ended result => (queue.continueCaller caller.kind result).setCaller id none

/-- The transport answers a caller. -/
def answer (queue : ExposureQueue) (id : Nat) (reply : Except String BrowserExposuresResult) :
    ExposureQueue :=
  match queue.callers id with
  | none => queue
  | some caller =>
    match caller.phase with
    | .redeeming batch progress =>
      match queue.redeemPendingExposureBatch deps batch reply with
      | (queue, .threw error) => queue.setCaller id (some { caller with phase := .threw error })
      | (queue, .returned completed retainedForRetry) =>
        queue.setCaller id (some { caller with
          phase := .answered retainedForRetry
            ⟨progress.batches + 1, progress.completed ++ completed⟩ })
    | _ => queue

/-! ## 8. Calls -/

inductive ExposureAdmission
  | refused
  | admitted (atCapacity : Bool)
  | threw (error : SplitchSdkError)

/-- `admitExposure`; the id is minted once the Flag is found to be new. -/
def admitExposure (queue : ExposureQueue) (flagKey exposureTicket : String) (minted : Option String)
    (clientTimestamp : String) : ExposureQueue × ExposureAdmission :=
  if flagKey ∈ queue.enqueuedFlags then (queue, .refused)
  else
    match minted with
    | none => (queue.log [⟨exposureIdUnavailable, []⟩], .threw exposureIdUnavailable)
    | some exposureId =>
      let item : QueuedExposure := { flagKey, exposureId, exposureTicket, clientTimestamp }
      let pending := queue.pending ++ [item]
      ({ queue with
        enqueuedFlags := queue.enqueuedFlags ++ [flagKey]
        pending
        history := { queue.history with admitted := queue.history.admitted ++ [item] } },
        .admitted (pending.length ≥ EXPOSURE_BATCH_MAX_ITEMS ||
          pendingBodyBytes pending > EXPOSURE_BATCH_MAX_BODY_BYTES))

def discardedAfterClose (flagKey : String) : LogEntry where
  code := "VALIDATION_ERROR"
  causeSummary := "Exposure for " ++ String.ofList (stringify (.str flagKey : Json Nat)) ++
    " was discarded after close()"
  remediation := "Do not read Flags after close(); construct a new client if needed"
  status := none
  exposureIds := []

/-- What `mintExposureId` throws is thrown out of it. -/
def enqueue (queue : ExposureQueue) (flagKey exposureTicket : String) (minted : Option String)
    (clientTimestamp : String) : Except SplitchSdkError Unit × ExposureQueue :=
  if queue.closed then (.ok ⟨⟩, queue.log [discardedAfterClose flagKey])
  else
    match queue.admitExposure flagKey exposureTicket minted clientTimestamp with
    | (queue, .threw error) => (.error error, queue)
    | (queue, .refused) => (.ok ⟨⟩, queue)
    | (queue, .admitted atCapacity) =>
      let queue := (queue.ensureLifecycle deps).ensureTimer
      (.ok ⟨⟩, if atCapacity then
        queue.enqueueDrain deps (.overflow queue.retentionVersion) ⟨false, true⟩ else queue)

def rearm (queue : ExposureQueue) (flagKeys : List String) : ExposureQueue :=
  { queue with enqueuedFlags := queue.enqueuedFlags.filter (· ∉ flagKeys) }

def flush (queue : ExposureQueue) : ExposureQueue :=
  if queue.expiryError.isSome then queue else queue.enqueueDrain deps .flush ⟨false, false⟩

/-- A second call shares the promise of the first. -/
def close (queue : ExposureQueue) : ExposureQueue :=
  if queue.expiryError.isSome then queue
  else if queue.closed then queue
  else { queue with closed := true }.clearTimer.enqueueDrain deps .close ⟨false, false⟩

def onTimer (queue : ExposureQueue) : ExposureQueue :=
  if queue.flushTimer then queue.clearTimer.enqueueDrain deps .bestEffort ⟨false, true⟩ else queue

def onPageEvent (queue : ExposureQueue) (hasTarget : Bool) : ExposureQueue :=
  if queue.lifecycleAttached && hasTarget then queue.enqueueDrain deps .bestEffort ⟨true, true⟩
  else queue

inductive Event
  | enqueue (flagKey exposureTicket : String) (minted : Option String) (clientTimestamp : String)
  | rearm (flagKeys : List String)
  | flush
  | close
  | expire (error : SplitchSdkError)
  | timer
  | pageHide
  | hidden
  | answer (id : Nat) (reply : Except String BrowserExposuresResult)
  | resume (id : Nat)

def step (queue : ExposureQueue) : Event → ExposureQueue
  | .enqueue flagKey exposureTicket minted clientTimestamp =>
    (queue.enqueue deps flagKey exposureTicket minted clientTimestamp).2
  | .rearm flagKeys => queue.rearm flagKeys
  | .flush => queue.flush deps
  | .close => queue.close deps
  | .expire error => queue.expire error
  | .timer => queue.onTimer deps
  | .pageHide => queue.onPageEvent deps deps.hasWindow
  | .hidden => queue.onPageEvent deps deps.hasDocument
  | .answer id reply => queue.answer deps id reply
  | .resume id => queue.resume deps id

end ExposureQueue

def exposureQueue (deps : ExposureQueueDeps) : Machine ExposureQueue ExposureQueue.Event Unit where
  init := .new
  step queue event := ((), queue.step deps event)

end Browser

end Splitch
