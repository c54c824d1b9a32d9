/-
# The dispatch of configuration pushes

`cloudflare-push-dispatch.ts`: a dispatch claims deliveries that are due, and for each of them
prepares a snapshot, looks at its lease (`integration-delivery-lease.ts`), posts the snapshot
(`webhook-transport.ts`) and finishes the delivery by what the receiver has answered.

The deliveries of any number of dispatches take turns, step by step, and one that takes no more turns
has stopped.  A write may fail, or be made though its dispatch is told that it failed.  A receiver
answers as it likes.
-/
import Splitch.Library.Runs
import Splitch.CloudflarePush.DeliveryTables

namespace Splitch

namespace CloudflarePush

open DeliveryDatabase

/-! ## 1. Delays and budgets -/

def FIRST_SETUP_WINDOW_MS : Int := 10 * 60000
def FIRST_SETUP_RETRY_MS : Int := 30000

def RETRY_DELAYS_MS : List Int := [1000, 5000, 30000, 120000, 600000, 1800000]

def retryDelayMs (attemptCount : Nat) : Int :=
  RETRY_DELAYS_MS.getD (min attemptCount (RETRY_DELAYS_MS.length - 1)) 1800000

def DELIVERY_SEND_TIMEOUT_MS : Int := 5000
def DELIVERY_COMPLETION_BUDGET_MS : Int := 10000

/-- What a dispatch is allowed (`IntegrationDeliveryDispatchPolicy`). -/
structure DispatchPolicy where
  claimLimit : Nat
  sendTimeoutMs : Option Int
  leaseMs : Int
  deriving DecidableEq, Repr

/-- Until an installation first applies a version, and only for a while. -/
def inFirstSetupWindow (delivery : ClaimedDelivery) (now : Int) : Bool :=
  delivery.lastAppliedVersion.isNone && now - delivery.registeredAt < FIRST_SETUP_WINDOW_MS

/-! ## 2. Answers -/

/-- The header `splitch-environment-version` as `Number` reads it. -/
inductive VersionHeader
  | missing
  | integer (version : Int)
  | other
  deriving DecidableEq, Repr

/-- `Number(headers.get(…))`, where it is an integer: that of `null` is zero. -/
def VersionHeader.appliedVersion : VersionHeader → Option Int
  | .missing => some 0
  | .integer version => some version
  | .other => none

inductive WebhookPostResult
  | delivered (header : VersionHeader)
  | rejected (status : Nat)
  | transportFailed (causeName : String)
  deriving DecidableEq, Repr

/-- The version that an answer names. -/
def WebhookPostResult.confirmedVersion : WebhookPostResult → Option Int
  | .delivered (.integer version) => some version
  | _ => none

/-- 408, 429 and 5xx. -/
def isRetryableStatus (status : Nat) : Bool := status = 408 || status = 429 || 500 ≤ status

/-! ## 3. One delivery -/

/-- What a delivery of a dispatch does next. -/
inductive PushStage
  | preparing
  | renewing
  | sending
  | finishing (input : DeliveryFinish)
  /-- The `catch` of `deliverSafely`. -/
  | failing (input : DeliveryFinish)
  | over
  deriving DecidableEq, Repr

structure PushTask where
  leaseOwner : Nat
  delivery : ClaimedDelivery
  leaseExpiresAt : Int
  claimedAt : Int
  firstSetup : Bool
  policy : DispatchPolicy
  stage : PushStage
  deriving DecidableEq, Repr

namespace PushTask

variable (task : PushTask)

/-- The finish of `finishFailure`. -/
def finishFailure (now : Int) (retryable : Bool) (error : DeliveryError) : DeliveryFinish where
  state := if retryable then .pending else .terminal
  now
  nextAttemptAt :=
    if retryable then
      some (now + if task.firstSetup then FIRST_SETUP_RETRY_MS
        else retryDelayMs task.delivery.attemptCount)
    else none
  errorJson := some error

/-- Where something has been thrown. -/
def preparationFailed (causeName : String) : DeliveryFinish :=
  task.finishFailure task.claimedAt true
    { kind := .internal
      code := "DELIVERY_PREPARATION_FAILED"
      causeName := some causeName
      occurredAt := task.claimedAt }

/-- The finish that an answer leads to. -/
def settled (now : Int) : WebhookPostResult → DeliveryFinish
  | .transportFailed causeName =>
    task.finishFailure now true { kind := .transport, code := causeName, occurredAt := now }
  | .delivered header =>
    match header.appliedVersion.filter ((task.delivery.environmentVersion : Int) ≤ ·) with
    | none => task.finishFailure now true
        { kind := .protocol, code := "VERSION_NOT_CONFIRMED", occurredAt := now }
    | some appliedVersion =>
      { state := .delivered, now, appliedVersion := some appliedVersion }
  | .rejected status =>
    task.finishFailure now (isRetryableStatus status || (status = 404 && task.firstSetup))
      { kind := .http, code := "HTTP_STATUS", httpStatus := some status, occurredAt := now }

/-- `sendBudget + DELIVERY_COMPLETION_BUDGET_MS`. -/
def budget : Int :=
  task.policy.sendTimeoutMs.getD DELIVERY_SEND_TIMEOUT_MS + DELIVERY_COMPLETION_BUDGET_MS

end PushTask

/-! ## 4. Any number of dispatches -/

/-- How a write ends: it is made, it is not made, or it is made and its answer is lost. -/
inductive WriteOutcome
  | ok
  | failed
  | lost
  deriving DecidableEq, Repr

/-- What happens to a delivery in its stage. -/
inductive TaskEvent
  /-- The snapshot is built and signed. -/
  | prepared
  /-- Something is thrown before the push. -/
  | thrown (causeName : String)
  /-- The clock is read up to three times, and the lease is renewed where it is short. -/
  | leaseChecked (now renewalNow after : Int) (outcome : WriteOutcome)
  | answered (now : Int) (result : WebhookPostResult)
  | finished (outcome : WriteOutcome)
  deriving DecidableEq, Repr

inductive PushEvent
  | claim (now : Int) (policy : DispatchPolicy) (scope : Option TenantScope)
  | task (number : Nat) (event : TaskEvent)
  | createInstallation (appId environmentId : String) (input : InstallationWrite)
      (deliveryId : String)
  | revokeInstallation (appId environmentId installationId : String) (now : Int)
  | bumpConfigVersion (appId environmentId : String) (now : Int)
  | retryTerminalDelivery (appId environmentId installationId deliveryId : String) (now : Int)
  | pruneDeliveries (deliveryIds : List String)
  deriving DecidableEq, Repr

/-- A version that a receiver has confirmed to the push of a delivery. -/
structure Confirmation where
  deliveryId : String
  version : Int
  deriving DecidableEq, Repr

/-- An installation that an Environment has revoked. -/
structure Revocation where
  appId : String
  environmentId : String
  installationId : String
  deriving DecidableEq, Repr

structure PushWorld where
  db : DeliveryDatabase
  nextOwner : Nat
  tasks : List PushTask
  confirmations : List Confirmation
  revocations : List Revocation

namespace PushWorld

variable (world : PushWorld)

/-- `dispatchCloudflarePushes`, up to the deliveries that it has claimed. -/
def claim (now : Int) (policy : DispatchPolicy) (scope : Option TenantScope) : PushWorld :=
  let leaseExpiresAt := now + policy.leaseMs
  let (deliveries, db) :=
    world.db.claimDueDeliveries now world.nextOwner leaseExpiresAt policy.claimLimit scope
  { world with
    db
    nextOwner := world.nextOwner + 1
    tasks := world.tasks ++ deliveries.map fun delivery =>
      { leaseOwner := world.nextOwner
        delivery
        leaseExpiresAt
        claimedAt := now
        firstSetup := inFirstSetupWindow delivery now
        policy
        stage := .preparing } }

def goTo (number : Nat) (task : PushTask) (stage : PushStage) : PushWorld :=
  { world with tasks := world.tasks.set number { task with stage } }

/-- `renewDeliveryLeaseBeforeSend`: the push is skipped where the lease is lost or too short. -/
def checkLease (number : Nat) (task : PushTask) (now renewalNow after : Int)
    (outcome : WriteOutcome) : PushWorld :=
  if task.budget ≤ task.leaseExpiresAt - now then world.goTo number task .sending
  else
    let deadline := renewalNow + task.policy.leaseMs
    let (renewed, db) := world.db.renewDeliveryLease task.delivery.deliveryId task.leaseOwner
      renewalNow deadline
    match outcome with
    | .failed => world.goTo number task (.failing (task.preparationFailed "Error"))
    | .lost => { world with db }.goTo number task (.failing (task.preparationFailed "Error"))
    | .ok => { world with db }.goTo number task
        (if renewed ∧ task.budget ≤ deadline - after then .sending else .over)

/-- The answer to a push. -/
def answer (number : Nat) (task : PushTask) (now : Int) (result : WebhookPostResult) : PushWorld :=
  { world with
    confirmations := world.confirmations ++
      (result.confirmedVersion.map (Confirmation.mk task.delivery.deliveryId)).toList }.goTo number task (.finishing (task.settled now result))

/-- A finish, and what follows when it is told that it was made or that it was not. -/
def finish (number : Nat) (task : PushTask) (input : DeliveryFinish) (outcome : WriteOutcome)
    (failure : PushStage) : PushWorld :=
  let db := world.db.finishDelivery task.delivery.deliveryId task.leaseOwner input
  match outcome with
  | .failed => world.goTo number task failure
  | .lost => { world with db }.goTo number task failure
  | .ok => { world with db }.goTo number task .over

/-- `deliverSafely`, one step further. -/
def runTask (number : Nat) (event : TaskEvent) : PushWorld :=
  match world.tasks[number]? with
  | none => world
  | some task =>
    match task.stage, event with
    | .preparing, .prepared => world.goTo number task .renewing
    | .preparing, .thrown causeName | .renewing, .thrown causeName =>
      world.goTo number task (.failing (task.preparationFailed causeName))
    | .renewing, .leaseChecked now renewalNow after outcome =>
      world.checkLease number task now renewalNow after outcome
    | .sending, .answered now result => world.answer number task now result
    | .finishing input, .finished outcome =>
      world.finish number task input outcome (.failing (task.preparationFailed "Error"))
    | .failing input, .finished outcome => world.finish number task input outcome .over
    | _, _ => world

def step : PushEvent → PushWorld
  | .claim now policy scope => world.claim now policy scope
  | .task number event => world.runTask number event
  | .createInstallation appId environmentId input deliveryId =>
    { world with db := world.db.createInstallation appId environmentId input deliveryId }
  | .revokeInstallation appId environmentId installationId now =>
    { world with
      db := world.db.revokeInstallation appId environmentId installationId now
      revocations := world.revocations ++ [⟨appId, environmentId, installationId⟩] }
  | .bumpConfigVersion appId environmentId now =>
    { world with db := world.db.bumpConfigVersion appId environmentId now }
  | .retryTerminalDelivery appId environmentId installationId deliveryId now =>
    { world with
      db := world.db.retryTerminalDelivery appId environmentId installationId deliveryId now }
  | .pruneDeliveries deliveryIds =>
    { world with db := world.db.pruneDeliveries deliveryIds }

end PushWorld

/-- Runs start with the Environments and without installations. -/
def cloudflarePush (environments : String → String → Option Nat) :
    Machine PushWorld PushEvent Unit where
  init :=
    { db := { environments, installations := [], deliveries := [] }
      nextOwner := 0
      tasks := []
      confirmations := []
      revocations := [] }
  step := fun world event => ((), world.step event)

end CloudflarePush

end Splitch
