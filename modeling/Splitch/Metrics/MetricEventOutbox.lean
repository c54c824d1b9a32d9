/-
# The outbox of a Metric Event

One Durable Object for each dedup key (`metric-event-outbox.ts`) holds the record of the event: it
publishes the event's rows from its alarm, hands the row to the queue consumers one delivery
attempt at a time, and is redacted by a privacy deletion.

A request runs between two events.  The alarm awaits its queue sends, and requests run meanwhile:
what it keeps across such an await is a `Publication`.  The runtime never runs two alarms of one
object at once, and delivers an alarm that has thrown or stopped again.

Any handler may stop behind any of its storage writes.
-/
import Splitch.Library.Runs
import Splitch.Library.StateActions
import Splitch.Metrics.MetricEventClaimState

namespace Splitch

/-! ## 1. State -/

structure MetricOutboxEnv where
  dateParse : String → Option Int
  /-- Whether `METRIC_EVENTS_QUEUE` is bound. -/
  metricEventsQueue : Bool

inductive PublicationStage
  | metric
  | activations
  deriving DecidableEq, Repr

/-- A publication that awaits a queue send. -/
structure Publication where
  publishing : MetricEventClaimState
  expiresAt : Int
  stage : PublicationStage
  /-- The rows that are being sent. -/
  rows : List MetricEventRow
  deriving DecidableEq, Repr

structure MetricEventOutbox where
  record : Option MetricEventClaimState
  alarm : Option Int
  /-- How many more writes the running handler lives through before it stops; all, where none. -/
  stopAfter : Option Nat
  /-- A log: the attempts that were claimed, and whose outcome no settlement has recorded yet. -/
  unsettled : List String
  deriving DecidableEq, Repr

inductive OutboxFault
  | stopped
  | thrown (message : String)
  deriving DecidableEq, Repr

abbrev MetricOutboxM := ExceptT OutboxFault (StateM MetricEventOutbox)

namespace MetricEventOutbox

def getRecord : MetricOutboxM (Option MetricEventClaimState) := return (← get).record

def stopPoint : MetricOutboxM Unit := do
  match (← get).stopAfter with
  | none => return ()
  | some 0 => throw .stopped
  | some (n + 1) => modify fun outbox => { outbox with stopAfter := some n }

/-- A storage write. -/
def write (f : MetricEventOutbox → MetricEventOutbox) : MetricOutboxM Unit := do
  modify f
  stopPoint

def put (record : MetricEventClaimState) : MetricOutboxM Unit :=
  write fun outbox => { outbox with record := some record }

def delete : MetricOutboxM Unit := write fun outbox => { outbox with record := none }

def setAlarm (scheduledTime : Int) : MetricOutboxM Unit :=
  write fun outbox => { outbox with alarm := some scheduledTime }

/-- The record of a claimed attempt. -/
def putAttempt (existing : MetricEventClaimState) (attempt : MetricEventDeliveryAttempt) :
    MetricOutboxM Unit :=
  write fun outbox => { outbox with
    record := some { existing with delivery := some attempt }
    unsettled := if attempt.state = .attempting then attempt.attemptId :: outbox.unsettled
      else outbox.unsettled }

/-- The record of a settled one. -/
def putSettlement (existing : MetricEventClaimState) (attempt : MetricEventDeliveryAttempt) :
    MetricOutboxM Unit :=
  write fun outbox => { outbox with
    record := some { existing with delivery := some attempt }
    unsettled := if isUnresolved (some attempt) then outbox.unsettled
      else outbox.unsettled.filter (· ≠ attempt.attemptId) }

def fail {α : Type} (message : String) : MetricOutboxM α := throw (.thrown message)

def resolve {α : Type} (answer : Except String α) : MetricOutboxM α :=
  ExceptT.mk (pure (answer.mapError .thrown))

/-! ## 2. Requests -/

def expiresAtOf (env : MetricOutboxEnv) (state : MetricEventClaimState)
    (suppliedServerReceivedAt : Option RowValue) : MetricOutboxM Int :=
  resolve (claimExpiresAt env.dateParse state.row state.expiresAt suppliedServerReceivedAt)

def schedulePublication (env : MetricOutboxEnv) (now : Int) (state : MetricEventClaimState) :
    MetricOutboxM Unit := do
  if state.queued || state.deleted then setAlarm (← expiresAtOf env state none)
  else if state.row.isNone then fail "Metric Event outbox row is unavailable"
  else setAlarm (max now (state.publicationRetryAt.getD now))

def retain (env : MetricOutboxEnv) (now : Int) (state : MetricEventClaimState) :
    MetricOutboxM MetricEventClaimState := do
  if state.expiresAt.isSome then return state
  else
    let expiresAt ← expiresAtOf env state none
    let retained := { state with expiresAt := some expiresAt }
    put retained
    setAlarm (if state.queued || state.deleted then expiresAt else now)
    return retained

/-- The stored record, with an expiry. -/
def retained (env : MetricOutboxEnv) (now : Int) :
    MetricOutboxM (Option MetricEventClaimState) := do
  match ← getRecord with
  | none => return none
  | some stored => some <$> retain env now stored

end MetricEventOutbox

/-- What the ingest sends to `/claim`; the client adds `queued` and `deleted`, both false. -/
structure MetricEventClaimInput where
  fingerprint : String
  eventDefinitionId : String
  eventDefinitionVersionId : String
  row : Option MetricEventRow
  activationRows : List MetricEventRow
  activatedRuns : Nat
  expiresAt : Option Int
  deriving DecidableEq, Repr

/-- What the privacy deletion sends to `/suppress`; a field that is not a string is none. -/
structure SuppressionInput where
  fingerprint : Option String
  eventDefinitionId : Option String
  eventDefinitionVersionId : Option String
  row : Option MetricEventRow
  expiresAt : Option Int
  serverReceivedAt : Option RowValue
  deriving DecidableEq, Repr

inductive MetricEventResponse
  | error (status : Nat) (text : String)
  | lookup (lookup : MetricEventLookup)
  | delivery (attempt : MetricEventDeliveryAttempt)
  | exported (deleted : Bool) (row : Option MetricEventRow) (activationRows : List MetricEventRow)
  | claim (claim : MetricEventClaim)
  | retained (expiresAt : Int)
  | expired
  | begun (outcome : BeginOutcome)
  | settled (state : MetricEventDeliveryState)
  /-- `{ deleted: true, proof: "metric-event-outbox-redacted-v1" }`. -/
  | deletionProof
  deriving DecidableEq, Repr

namespace MetricEventOutbox

def lookup : MetricOutboxM MetricEventResponse := do
  match ← getRecord with
  | none => return .error 404 "not found"
  | some stored => return .lookup (asMetricEventLookup stored)

/-- `/export` and `/delivery`. -/
def read (env : MetricOutboxEnv) (now : Int)
    (answer : MetricEventClaimState → MetricEventResponse) : MetricOutboxM MetricEventResponse := do
  match ← retained env now with
  | none => return .error 404 "not found"
  | some existing =>
    schedulePublication env now existing
    return answer existing

def exported (existing : MetricEventClaimState) : MetricEventResponse :=
  .exported existing.deleted existing.row existing.activationRows

def delivery (existing : MetricEventClaimState) : MetricEventResponse :=
  match existing.delivery with
  | none => .error 404 "not found"
  | some attempt => .delivery attempt

def accept (incoming : MetricEventClaimInput) (expiresAt : Int) : MetricEventClaimState where
  fingerprint := incoming.fingerprint
  eventDefinitionId := incoming.eventDefinitionId
  eventDefinitionVersionId := incoming.eventDefinitionVersionId
  row := incoming.row
  activationRows := incoming.activationRows
  activatedRuns := incoming.activatedRuns
  queued := false
  metricQueued := false
  activationsQueued := false
  deleted := false
  publishing := false
  publicationAttempts := 0
  publicationRetryAt := none
  delivery := none
  expiresAt := some expiresAt

def claim (env : MetricOutboxEnv) (now : Int) (incoming : MetricEventClaimInput) :
    MetricOutboxM MetricEventResponse := do
  match ← retained env now with
  | some existing =>
    if existing.fingerprint ≠ incoming.fingerprint then
      return .claim (asMetricEventClaim .conflict existing)
    else
      schedulePublication env now existing
      return .claim (asMetricEventClaim .duplicate existing)
  | none =>
    let expiresAt ← resolve (claimExpiresAt env.dateParse incoming.row incoming.expiresAt none)
    let accepted := accept incoming expiresAt
    put accepted
    schedulePublication env now accepted
    return .claim (asMetricEventClaim .accepted accepted)

def retainExisting (env : MetricOutboxEnv) (now : Int) (serverReceivedAt : Option RowValue) :
    MetricOutboxM MetricEventResponse := do
  match serverReceivedAt with
  | some (.text serverReceivedAt) =>
    match ← getRecord with
    | none => return .error 404 "not found"
    | some existing =>
      let expiresAt ← expiresAtOf env existing (some (.text serverReceivedAt))
      if expiresAt ≤ now then
        delete
        return .expired
      else
        put { existing with expiresAt := some expiresAt }
        setAlarm (if existing.queued || existing.deleted then expiresAt else now)
        return .retained expiresAt
  | _ => return .error 400 "invalid Metric Event retention timestamp"

def beginDelivery (env : MetricOutboxEnv) (now : Int) (attemptId : Option String) :
    MetricOutboxM MetricEventResponse := do
  match attemptId.filter (· ≠ "") with
  | none => return .error 400 "invalid delivery attempt id"
  | some attemptId =>
    match ← retained env now with
    | none => fail "Metric Event outbox has no record for a queued delivery"
    | some existing =>
      if existing.deleted then return .begun .deleted
      else
        match decideDelivery existing.delivery attemptId with
        | (some outcome, none) => return .begun outcome
        | (some outcome, some next) =>
          putAttempt existing next
          return .begun outcome
        | (none, none) =>
          fail "Metric Event outbox claimed a delivery without recording an attempt"
        | (none, some next) =>
          putAttempt existing next
          match existing.row with
          | none => fail "Metric Event outbox row is unavailable"
          | some row => return .begun (.claimed row next)

def settleDelivery (attempt : MetricEventDeliveryAttempt) : MetricOutboxM MetricEventResponse := do
  match ← getRecord with
  | none => fail "Metric Event outbox has no record for a settled delivery"
  | some existing =>
    if existing.delivery.map (·.attemptId) ≠ some attempt.attemptId then
      return .error 409 "delivery attempt is no longer current"
    else
      putSettlement existing attempt
      return .settled attempt.state

def redacted (fingerprint eventDefinitionId eventDefinitionVersionId : String) (expiresAt : Int) :
    MetricEventClaimState where
  fingerprint := fingerprint
  eventDefinitionId := eventDefinitionId
  eventDefinitionVersionId := eventDefinitionVersionId
  row := none
  activationRows := []
  activatedRuns := 0
  queued := false
  metricQueued := false
  activationsQueued := false
  deleted := true
  publishing := false
  publicationAttempts := 0
  publicationRetryAt := none
  delivery := none
  expiresAt := some expiresAt

def suppress (env : MetricOutboxEnv) (input : SuppressionInput) :
    MetricOutboxM MetricEventResponse := do
  match input.fingerprint, input.eventDefinitionId, input.eventDefinitionVersionId with
  | some fingerprint, some eventDefinitionId, some eventDefinitionVersionId =>
    let existing ← getRecord
    if existing.any (·.fingerprint ≠ fingerprint) then
      return .error 409 "suppression claim conflicts with existing event"
    else if existing.any (·.publishing) then
      return .error 409 "queue publication is unresolved"
    else if isUnresolved (existing.bind (·.delivery)) then
      let state := (existing.bind (·.delivery)).elim "undefined" (·.state.text)
      return .error 409 ("delivery attempt " ++ state ++ " for this event is unresolved")
    else
      let expiresAt ← resolve (claimExpiresAt env.dateParse
        (existing.elim input.row (·.row)) (existing.elim input.expiresAt (·.expiresAt))
        input.serverReceivedAt)
      put (redacted fingerprint (existing.elim eventDefinitionId (·.eventDefinitionId))
        (existing.elim eventDefinitionVersionId (·.eventDefinitionVersionId)) expiresAt)
      setAlarm expiresAt
      return .deletionProof
  | _, _, _ => return .error 400 "invalid suppression claim"

end MetricEventOutbox

inductive MetricEventRequest
  | lookup
  | exportRows
  | delivery
  | claim (incoming : MetricEventClaimInput)
  | retain (serverReceivedAt : Option RowValue)
  | beginDelivery (attemptId : Option String)
  | settleDelivery (attempt : MetricEventDeliveryAttempt)
  | suppress (input : SuppressionInput)
  deriving DecidableEq, Repr

namespace MetricEventOutbox

def handle (env : MetricOutboxEnv) (now : Int) :
    MetricEventRequest → MetricOutboxM MetricEventResponse
  | .lookup => lookup
  | .exportRows => read env now exported
  | .delivery => read env now delivery
  | .claim incoming => claim env now incoming
  | .retain serverReceivedAt => retainExisting env now serverReceivedAt
  | .beginDelivery attemptId => beginDelivery env now attemptId
  | .settleDelivery attempt => settleDelivery attempt
  | .suppress input => suppress env input

end MetricEventOutbox

/-! ## 3. Publication -/

/-- Where an alarm handler gets to: its end, or a queue send. -/
inductive AlarmProgress
  | ended
  | sending (publication : Publication)
  deriving DecidableEq, Repr

namespace MetricEventOutbox

def requiredCurrentState : MetricOutboxM MetricEventClaimState := do
  match ← getRecord with
  | none => fail "Metric Event outbox changed during queue publication"
  | some current =>
    if current.deleted then fail "Metric Event outbox changed during queue publication"
    else return current

def finishPublication (expiresAt : Int) : MetricOutboxM AlarmProgress := do
  let current ← requiredCurrentState
  put { current with expiresAt := some expiresAt, queued := true, publishing := false }
  setAlarm expiresAt
  return .ended

def retryPublication (now : Int) (publishing : MetricEventClaimState) :
    MetricOutboxM AlarmProgress := do
  let current ← requiredCurrentState
  let publicationAttempts := publishing.publicationAttempts
  let publicationRetryAt :=
    now + queueRetryDelaySeconds publicationAttempts publishing.fingerprint * 1000
  put { current with
    publishing := false
    publicationAttempts := publicationAttempts
    publicationRetryAt := some publicationRetryAt }
  setAlarm publicationRetryAt
  return .ended

/-- The activation rows are next, unless they have been queued. -/
def sendActivations (publishing : MetricEventClaimState) (expiresAt : Int)
    (current : MetricEventClaimState) : Option Publication :=
  if current.activationsQueued then none
  else some ⟨publishing, expiresAt, .activations, current.activationRows⟩

def publish (env : MetricOutboxEnv) (state : MetricEventClaimState) (expiresAt : Int) :
    MetricOutboxM AlarmProgress := do
  match state.row with
  | none => fail "Metric Event outbox row is unavailable"
  | some row =>
    if !env.metricEventsQueue then fail "METRIC_EVENTS_QUEUE binding is unavailable"
    else
      let publishing := { state with
        expiresAt := some expiresAt
        publishing := true
        publicationAttempts := state.publicationAttempts + 1 }
      put publishing
      if !publishing.metricQueued then
        return .sending ⟨publishing, expiresAt, .metric, [row]⟩
      else
        match sendActivations publishing expiresAt publishing with
        | some publication => return .sending publication
        | none => finishPublication expiresAt

/-- What a `try` block comes to; a handler that stops is not caught. -/
def caught {α : Type} (block : MetricOutboxM α) : MetricOutboxM (Except String α) := fun outbox =>
  match block outbox with
  | (.ok a, outbox) => (.ok (.ok a), outbox)
  | (.error (.thrown message), outbox) => (.ok (.error message), outbox)
  | (.error .stopped, outbox) => (.error .stopped, outbox)

/-- The `try` block behind a queue send: the next send, if there is one. -/
def afterSend (publication : Publication) (fate : Except String Unit) :
    MetricOutboxM (Option Publication) := do
  resolve fate
  let current ← requiredCurrentState
  match publication.stage with
  | .metric =>
    let current := { current with metricQueued := true }
    put current
    return sendActivations publication.publishing publication.expiresAt current
  | .activations =>
    put { current with activationsQueued := true }
    return none

/-- The alarm goes on behind its queue send. -/
def resumePublication (now : Int) (publication : Publication) (fate : Except String Unit) :
    MetricOutboxM AlarmProgress := do
  match ← caught (afterSend publication fate) with
  | .error _ => retryPublication now publication.publishing
  | .ok (some next) => return .sending next
  | .ok none => finishPublication publication.expiresAt

/-- The expiry of a record that has none yet. -/
def sealExpiry (state : MetricEventClaimState) (expiresAt : Int) : MetricOutboxM Unit :=
  if state.expiresAt.isNone then put { state with expiresAt := some expiresAt } else return ()

def alarmHandler (env : MetricOutboxEnv) (now : Int) : MetricOutboxM AlarmProgress := do
  match ← getRecord with
  | none => return .ended
  | some state =>
    let expiresAt ← expiresAtOf env state none
    sealExpiry state expiresAt
    if expiresAt ≤ now then
      delete
      return .ended
    else if state.queued || state.deleted then
      setAlarm expiresAt
      return .ended
    else
      match state.publicationRetryAt.filter (now < ·) with
      | some publicationRetryAt =>
        setAlarm publicationRetryAt
        return .ended
      | none => publish env state expiresAt

end MetricEventOutbox

/-! ## 4. The object -/

structure MetricOutboxWorld where
  outbox : MetricEventOutbox
  /-- The alarm handler that is running, if one is. -/
  publication : Option Publication
  /-- An alarm has fired and its handler has not ended. -/
  alarmOwed : Bool
  deriving DecidableEq, Repr

/-- The events, with the number of writes that the handler makes before it stops, if it does. -/
inductive MetricOutboxEvent
  | request (request : MetricEventRequest) (now : Int) (stopAfter : Option Nat)
  | alarm (now : Int) (stopAfter : Option Nat)
  /-- The queue send of the running alarm ends. -/
  | sent (fate : Except String Unit) (now : Int) (stopAfter : Option Nat)
  /-- The object is evicted, and its alarm handler with it. -/
  | evicted (now : Int)

def MetricOutboxEvent.now : MetricOutboxEvent → Int
  | .request _ now _ | .alarm now _ | .sent _ now _ | .evicted now => now

inductive MetricOutboxOutput
  | response (response : MetricEventResponse)
  | progress (progress : AlarmProgress)
  | fault (fault : OutboxFault)
  | idle
  deriving DecidableEq, Repr

namespace MetricOutboxWorld

/-- Runs a handler on the object. -/
def run {α : Type} (world : MetricOutboxWorld) (stopAfter : Option Nat)
    (handler : MetricOutboxM α) : Except OutboxFault α × MetricEventOutbox :=
  handler { world.outbox with stopAfter }

/-- A request has been answered, or has thrown or stopped. -/
def answered (world : MetricOutboxWorld) :
    Except OutboxFault MetricEventResponse × MetricEventOutbox →
      MetricOutboxOutput × MetricOutboxWorld
  | (.ok response, outbox) => (.response response, { world with outbox })
  | (.error fault, outbox) => (.fault fault, { world with outbox })

/-- The alarm handler has got to its end, to a queue send, or nowhere. -/
def settleAlarm :
    Except OutboxFault AlarmProgress × MetricEventOutbox → MetricOutboxOutput × MetricOutboxWorld
  | (.ok .ended, outbox) => (.progress .ended, ⟨outbox, none, false⟩)
  | (.ok (.sending publication), outbox) =>
    (.progress (.sending publication), ⟨outbox, some publication, true⟩)
  | (.error fault, outbox) => (.fault fault, ⟨outbox, none, true⟩)

/-- An alarm fires when its time has come, or again where its handler has not ended. -/
def alarmFires (world : MetricOutboxWorld) (now : Int) : Bool :=
  world.publication.isNone && (world.alarmOwed || world.outbox.alarm.any (· ≤ now))

def step (env : MetricOutboxEnv) (world : MetricOutboxWorld) :
    MetricOutboxEvent → MetricOutboxOutput × MetricOutboxWorld
  | .request request now stopAfter =>
    world.answered (world.run stopAfter (MetricEventOutbox.handle env now request))
  | .alarm now stopAfter =>
    if world.alarmFires now then
      let fired := { world with outbox.alarm := none }
      settleAlarm (fired.run stopAfter (MetricEventOutbox.alarmHandler env now))
    else (.idle, world)
  | .sent fate now stopAfter =>
    match world.publication with
    | none => (.idle, world)
    | some publication =>
      settleAlarm (world.run stopAfter (MetricEventOutbox.resumePublication now publication fate))
  | .evicted _ => (.idle, { world with publication := none })

end MetricOutboxWorld

/-- The object over what its storage holds at first. -/
def metricEventOutbox (env : MetricOutboxEnv) (stored : Option MetricEventClaimState) :
    Machine MetricOutboxWorld MetricOutboxEvent MetricOutboxOutput where
  init :=
    { outbox :=
        { record := stored
          alarm := none
          stopAfter := none
          unsettled := ((stored.bind (·.delivery)).filter (isUnresolved ∘ some)).toList.map
            (·.attemptId) }
      publication := none
      alarmOwed := false }
  step := MetricOutboxWorld.step env

end Splitch
