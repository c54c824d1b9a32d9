/-
# The browser client

`client.ts` with `client-helpers.ts` and `revalidation-loop.ts`: a client serves the payload it holds,
exposes what it serves through its queue, and asks for a newer payload from time to time.

The calls of the page, the answers to requests, and timers come in any order.  A listener is noted when it
is called (`ClientHistory.called`); what it does itself are calls like any others.  Nothing reads the
`ClientHistory`.
-/
import Splitch.Sdk.HeldPayload

namespace Splitch

namespace Browser

open JsonText

variable {N : Type} [DecidableEq N]

/-! ## 1. Errors -/

def SERVER_ERROR_REMEDIATION : String :=
  "Correct the request or credential described by the error, then retry the operation"

def sdkErrorForFailure (operation : String) (result : BrowserTransportFailure) : SplitchSdkError :=
  let code := result.errorCode.getD (Seen.errorCodeForStatus result.status)
  .new code (result.errorMessage.getD s!"{operation} failed with {code}")
    (if code = "ENVIRONMENT_EXPIRED" then ENVIRONMENT_EXPIRED_REMEDIATION
      else SERVER_ERROR_REMEDIATION) result.status

def notInitialized : SplitchSdkError :=
  .new "SDK_NOT_INITIALIZED" "A Flag was read before init() resolved"
    "Await init() before evaluate/evaluateDetails" none

def idempotencyKeyUnavailable : SplitchSdkError :=
  .new "SDK_IDEMPOTENCY_KEY_UNAVAILABLE"
    "crypto.randomUUID is unavailable, so init() could not mint the batch's replay identity"
    "Serve the page from a secure context (https:// or localhost) where crypto.randomUUID exists" none

def revalidationRejected (message : Option String) : SplitchSdkError :=
  .new "SDK_TRANSPORT_NETWORK" (message.getD "Revalidation transport rejected")
    "Correct the browser transport, then allow the next revalidation tick to retry" none

/-! ## 2. Answers of the transport -/

structure EvaluateAllResult (N : Type) extends BrowserTransportFailure where
  evaluations : Option (Evaluations N)
  etag : Option String

/-- What a transport throws: an error of the SDK, or another one with its message. -/
structure Thrown where
  error : Option SplitchSdkError
  message : Option String

abbrev Reply (N : Type) := Except Thrown (EvaluateAllResult N)

/-- A payload comes with status 200 and an ETag. -/
def EvaluateAllResult.payload? (result : EvaluateAllResult N) : Option (HeldPayload N) :=
  match result.status, result.evaluations, result.etag with
  | some 200, some evaluations, some etag => some ⟨evaluations, etag⟩
  | _, _, _ => none

/-! ## 3. The revalidation loop -/

inductive LoopPhase
  | off
  | scheduled
  /-- A request is on its way, with the ETag it names. -/
  | ticking (etag : String)
  /-- The tick is over. -/
  | ticked
  deriving DecidableEq, Repr

structure RevalidationLoop where
  started : Bool
  stopped : Bool
  phase : LoopPhase

namespace RevalidationLoop

def new : RevalidationLoop := ⟨false, false, .off⟩

def schedule (loop : RevalidationLoop) : RevalidationLoop :=
  if loop.stopped then { loop with phase := .off } else { loop with phase := .scheduled }

def start (loop : RevalidationLoop) (intervalMs : ℚ) : RevalidationLoop :=
  if loop.started || loop.stopped || intervalMs = 0 then loop else { loop with started := true }.schedule

/-- A timer that is set is cleared. -/
def stop (loop : RevalidationLoop) : RevalidationLoop :=
  { loop with
    stopped := true
    phase := if loop.phase = .scheduled then .off else loop.phase }

end RevalidationLoop

/-! ## 4. The client -/

inductive InitPromise
  | unset
  | pending
  | resolved
  deriving DecidableEq, Repr

structure ClientHistory (N : Type) where
  /-- The payloads, as they have come. -/
  received : List (HeldPayload N)
  /-- The `If-None-Match` of every request for a payload. -/
  requests : List (Option String)
  /-- The Flags that swaps of a newer payload have reported. -/
  changed : List String
  /-- The listeners that were called, with the Flag. -/
  called : List (String × Nat)
  /-- What reads have logged. -/
  faults : List (String × HeldResolutionKind × SplitchSdkError)
  logs : List SplitchSdkError

structure BrowserClient (N : Type) where
  store : BrowserPayloadStore N
  loop : RevalidationLoop
  queue : ExposureQueue
  initPromise : InitPromise
  expiryError : Option SplitchSdkError
  loggedResolutions : List String
  history : ClientHistory N

structure BrowserClientDeps (N : Type) where
  queue : ExposureQueueDeps
  revalidateMs : ℚ
  bootstrap : Option (HeldPayload N)

namespace BrowserClient

variable (deps : BrowserClientDeps N)

def new : BrowserClient N where
  store := .new deps.bootstrap
  loop := if deps.bootstrap.isSome then RevalidationLoop.new.start deps.revalidateMs else .new
  queue := .new
  initPromise := .unset
  expiryError := none
  loggedResolutions := []
  history := ⟨deps.bootstrap.toList, [], [], [], [], []⟩

def loudly (client : BrowserClient N) (error : SplitchSdkError) : BrowserClient N :=
  { client with history := { client.history with logs := client.history.logs ++ [error] } }

def notify (client : BrowserClient N) (flagKeys : List String) : BrowserClient N :=
  { client with history := { client.history with
    called := client.history.called ++ client.store.notify flagKeys } }

def expire (client : BrowserClient N) (error : SplitchSdkError) : BrowserClient N :=
  if client.expiryError.isSome then client
  else
    let (store, changed) := client.store.expire
    notify { client with
      expiryError := some error
      loop := client.loop.stop
      queue := client.queue.expire error
      store } changed

/-- A failure that says so expires the client. -/
def expireOn (client : BrowserClient N) (error : Option SplitchSdkError) : BrowserClient N :=
  match error with
  | none => client
  | some error => if error.code = "ENVIRONMENT_EXPIRED" then client.expire error else client

/-! ## 5. Reads -/

def logHeldResolution (client : BrowserClient N) (flagKey : String) (resolution : HeldResolution N) :
    BrowserClient N :=
  if resolution.kind = .entry then client
  else
    let key := dedupeKey flagKey resolution.kind
    if key ∈ client.loggedResolutions then client
    else { client with
      loggedResolutions := client.loggedResolutions ++ [key]
      history := { client.history with
        faults := client.history.faults ++ [(flagKey, resolution.kind, heldFault flagKey resolution)] } }

/-- Only an entry with a ticket is exposed. -/
def expose (client : BrowserClient N) (flagKey : String) (exposureTicket minted : Option String)
    (clientTimestamp : String) : Except SplitchSdkError Unit × BrowserClient N :=
  match exposureTicket with
  | none => (.ok ⟨⟩, client)
  | some exposureTicket =>
    let (answer, queue) := client.queue.enqueue deps.queue flagKey exposureTicket minted clientTimestamp
    (answer, { client with queue })

/-- A read of a Flag; the id and the time are for the Exposure, where there is one.  The Exposure comes
before the answer, and where its id cannot be minted there is none. -/
def readDetails (client : BrowserClient N) (flagKey : String) (defaultValue : Json N)
    (minted : Option String) (clientTimestamp : String) :
    Except SplitchSdkError (Seen.ResolutionDetails N) × BrowserClient N :=
  match client.expiryError with
  | some error => (.ok ⟨defaultValue, none, .ERROR, some error.code, some error.message⟩, client)
  | none =>
    match client.store.held with
    | none => (.error notInitialized, client)
    | some held =>
      let entry := held.evaluations.entryOf flagKey
      let resolution := deriveHeldResolution flagKey entry defaultValue
      let client := client.logHeldResolution flagKey resolution
      if resolution.kind ≠ .entry then (.ok resolution.details, client)
      else
        let (exposed, client') :=
          client.expose deps flagKey (entry.bind (·.exposureTicket)) minted clientTimestamp
        (exposed.map fun _ => decorateHeldDetails resolution.details client.store.degraded, client')

/-! ## 6. The initial payload -/

def init (client : BrowserClient N) (minted : Option String) : BrowserClient N :=
  if client.expiryError.isSome then client
  else if client.store.held.isSome then { client with loop := client.loop.start deps.revalidateMs }
  else if client.initPromise ≠ .unset then client
  else
    match minted with
    | none => client.loudly idempotencyKeyUnavailable
    | some _ =>
      { client with
        initPromise := .pending
        history := { client.history with requests := client.history.requests ++ [none] } }

def initFailed (client : BrowserClient N) (error : Option SplitchSdkError) : BrowserClient N :=
  { client.expireOn error with initPromise := .unset }

/-- The answer to the request of `fetchInitialPayload`. -/
def initialized (client : BrowserClient N) (reply : Reply N) : BrowserClient N :=
  if client.initPromise ≠ .pending then client
  else
    match reply with
    | .error thrown => client.initFailed thrown.error
    | .ok result =>
      match result.payload? with
      | none =>
        let error := sdkErrorForFailure "evaluateAll" result.toBrowserTransportFailure
        (client.loudly error).initFailed (some error)
      | some payload =>
        { client with
          store := client.store.setInitial payload
          loop := client.loop.start deps.revalidateMs
          initPromise := .resolved
          history := { client.history with received := client.history.received ++ [payload] } }

/-! ## 7. Revalidation -/

def setPhase (client : BrowserClient N) (phase : LoopPhase) : BrowserClient N :=
  { client with loop := { client.loop with phase } }

def onFailure (client : BrowserClient N) (error : Option SplitchSdkError) : BrowserClient N :=
  let client := client.expireOn error
  { client with store := client.store.markDegraded }

def fail (client : BrowserClient N) (error : SplitchSdkError) : BrowserClient N :=
  let client := (client.loudly error).onFailure (some error)
  if error.code = "ENVIRONMENT_EXPIRED" then { client with loop := client.loop.stop } else client

def onPayload (client : BrowserClient N) (payload : HeldPayload N) : BrowserClient N :=
  let (store, changed) := client.store.swap payload
  notify { client with
    store
    loggedResolutions := rearmHeldResolutionLogs client.loggedResolutions changed
    queue := client.queue.rearm changed
    history := { client.history with
      received := client.history.received ++ [payload]
      changed := client.history.changed ++ changed } } changed

/-- The timer of the loop fires: `tick`, up to its request. -/
def revalidate (client : BrowserClient N) (minted : Option String) : BrowserClient N :=
  if client.loop.phase ≠ .scheduled then client
  else
    let client := client.setPhase .ticked
    match minted with
    | none => (client.loudly idempotencyKeyUnavailable).onFailure none
    | some _ =>
      match client.store.held with
      | none => client.fail (revalidationRejected (some notInitialized.message))
      | some held =>
        { client.setPhase (.ticking held.etag) with
          history := { client.history with requests := client.history.requests ++ [some held.etag] } }

/-- `tick`, from the answer on. -/
def revalidated (client : BrowserClient N) (reply : Reply N) : BrowserClient N :=
  match client.loop.phase with
  | .ticking _ =>
    let client := client.setPhase .ticked
    if client.loop.stopped then client
    else
      match reply with
      | .error thrown => client.fail (revalidationRejected thrown.message)
      | .ok result =>
        if result.status = some 304 then { client with store := client.store.markRecovered }
        else
          match result.payload? with
          | some payload => client.onPayload payload
          | none =>
            client.fail (sdkErrorForFailure "evaluateAll revalidation" result.toBrowserTransportFailure)
  | _ => client

def reschedule (client : BrowserClient N) : BrowserClient N :=
  if client.loop.phase = .ticked then { client with loop := client.loop.schedule } else client

/-! ## 8. The queue, and the steps of a client -/

/-- What comes to the queue from elsewhere. -/
inductive QueueEvent
  | timer
  | pageHide
  | hidden
  | answer (id : Nat) (reply : Except String BrowserExposuresResult)
  | resume (id : Nat)

def QueueEvent.event : QueueEvent → ExposureQueue.Event
  | .timer => .timer
  | .pageHide => .pageHide
  | .hidden => .hidden
  | .answer id reply => .answer id reply
  | .resume id => .resume id

/-- A queue that has expired tells its client. -/
def withQueue (client : BrowserClient N) (queue : ExposureQueue) : BrowserClient N :=
  match queue.expiryError with
  | none => { client with queue }
  | some error => expire { client with queue } error

def onQueue (client : BrowserClient N) (event : QueueEvent) : BrowserClient N :=
  client.withQueue (client.queue.step deps.queue event.event)

def flush (client : BrowserClient N) : BrowserClient N :=
  { client with queue := client.queue.flush deps.queue }

def close (client : BrowserClient N) : BrowserClient N :=
  { client with loop := client.loop.stop, queue := client.queue.close deps.queue }

inductive Event (N : Type)
  | init (minted : Option String)
  | initialized (reply : Reply N)
  | read (flagKey : String) (defaultValue : Json N) (minted : Option String) (clientTimestamp : String)
  | subscribe (flagKey : String) (listener : Nat)
  | unsubscribe (flagKey : String) (listener id : Nat)
  | flush
  | close
  | revalidate (minted : Option String)
  | revalidated (reply : Reply N)
  | reschedule
  | queue (event : QueueEvent)

/-- A read is answered at once. -/
abbrev Answer (N : Type) := Option (Except SplitchSdkError (Seen.ResolutionDetails N))

def step (client : BrowserClient N) : Event N → Answer N × BrowserClient N
  | .init minted => (none, client.init deps minted)
  | .initialized reply => (none, client.initialized deps reply)
  | .read flagKey defaultValue minted clientTimestamp =>
    let (answer, client) := client.readDetails deps flagKey defaultValue minted clientTimestamp
    (some answer, client)
  | .subscribe flagKey listener => (none, { client with store := client.store.subscribe flagKey listener })
  | .unsubscribe flagKey listener id =>
    (none, { client with store := client.store.unsubscribe flagKey listener id })
  | .flush => (none, client.flush deps)
  | .close => (none, client.close deps)
  | .revalidate minted => (none, client.revalidate minted)
  | .revalidated reply => (none, client.revalidated reply)
  | .reschedule => (none, client.reschedule)
  | .queue event => (none, client.onQueue deps event)

end BrowserClient

def browserClient (deps : BrowserClientDeps N) :
    Machine (BrowserClient N) (BrowserClient.Event N) (BrowserClient.Answer N) where
  init := .new deps
  step := BrowserClient.step deps

end Browser

end Splitch
