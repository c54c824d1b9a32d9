/-
# The inventory object

`holdover-write-app-inventory-do.ts`.  What touches storage runs in serialized sections; the calls
to the Entities' outboxes run between them, so that any other section may run while one is out.
Prepare, D1 mark, registration and admission are one section each.  Cancel, finalize and the alarm
are tasks: a task stands at the section or call it will do next (`InventoryPoint`), and one event
lets one task do it.

An alarm that fires leaves its slot.  A request that throws answers with the error; an alarm that
throws is delivered again.
-/
import Splitch.Inventory.DeletionSaga
import Splitch.Library.Runs

namespace Splitch

open InventoryM

def SAGA_RETRY_DELAY_MS : Int := 1000

/-! ## 1. Sections -/

structure BeginDeletionReply where
  generationId : String
  deletionComplete : Bool
  deleteBeforeTsMs : Int
  sagaPhase : HoldoverWriteAppDeletionSagaPhase
  deriving DecidableEq, Repr

def beginDeletion (generationId : String) (deleteBeforeTsMs nowMs : Int) (fate : PrepareFate) :
    InventoryM BeginDeletionReply := do
  setAlarm (nowMs + SAGA_RETRY_DELAY_MS)
  let deletionComplete ← prepareAppDeletionSaga generationId deleteBeforeTsMs fate
  let saga ← readAppDeletionSaga
  if !saga.any fun saga => saga.phase = .canceling ∨ saga.phase = .preparing then
    deleteAlarm
  return {
    generationId := (saga.bind (·.generationId)).getD generationId
    deletionComplete
    deleteBeforeTsMs
    sagaPhase := (saga.map (·.phase)).getD (if deletionComplete then .completed else .prepared) }

/-- A storage transaction: what throws has written nothing. -/
def transaction {α : Type} (closure : InventoryM α) : InventoryM α := fun inventory =>
  match closure inventory with
  | (.ok a, inventory') => (.ok a, inventory')
  | (.error message, _) => (.error message, inventory)

def markD1Deleted (generationId : String) (deleteBeforeTsMs : Option Int) (nowMs : Int) :
    InventoryM HoldoverWriteAppDeletionSaga :=
  transaction do
    let next ← markAppDeletionSagaD1Deleted generationId deleteBeforeTsMs
    if next.phase = .completed then deleteAlarm else setAlarm (nowMs + SAGA_RETRY_DELAY_MS)
    return next

def armRetry (nowMs : Int) : InventoryM Unit := setAlarm (nowMs + SAGA_RETRY_DELAY_MS)

def cancelPlanSection (generationId : Option String) (nowMs : Int)
    (kvDelete : Except String Unit) : InventoryM HoldoverWriteAppDeletionCancelPlan := do
  if (← readAppDeletionSaga).any fun saga => saga.generationId ≠ generationId &&
      !(saga.generationId.isNone && generationId.isSome) then
    return ⟨⟨true, false⟩, none⟩
  else
    armRetry nowMs
    planAppDeletionCancelStep generationId kvDelete

structure CancelReply where
  done : Bool
  cancelled : Bool
  entities : List HoldoverWriteAppEntityRef
  sagaPhase : Option HoldoverWriteAppDeletionSagaPhase
  deriving DecidableEq

def cancelReportSection (plan : CancelProgress) : InventoryM CancelReply := do
  let saga ← readAppDeletionSaga
  if saga.isNone && plan.cancelled then deleteAlarm
  return {
    done := if !plan.cancelled then plan.done else saga.isNone
    cancelled := plan.cancelled
    entities := (saga.map (·.cancelResumePending)).getD []
    sagaPhase := saga.map (·.phase) }

def finalizePlanSection (generationId : Option String) (deleteBeforeTsMs : Option Int)
    (nowMs : Int) : InventoryM (Option HoldoverWriteAppDeletionFinalizeStep) := do
  armRetry nowMs
  planAppDeletionFinalizeStep generationId deleteBeforeTsMs

def finalizeReportSection : InventoryM Bool := do
  let done := (← readAppDeletionSaga).any (·.phase = .completed)
  if done then deleteAlarm
  return done

def clearInertAlarm (saga : HoldoverWriteAppDeletionSaga) : InventoryM Unit := do
  if (← readAppDeletionSaga).any fun current =>
      current.generationId = saga.generationId ∧ current.phase = saga.phase then
    deleteAlarm

/-! ## 2. Tasks -/

/-- What a task does next. -/
inductive InventoryPoint
  | alarmRead
  | clearInert (saga : HoldoverWriteAppDeletionSaga)
  | cancelPlan (generationId : Option String)
  /-- The call `/resume-alarms` of the step's Entity. -/
  | cancelResume (plan : CancelProgress) (step : HoldoverWriteAppDeletionCancelStep)
  | cancelCheckpoint (plan : CancelProgress) (step : HoldoverWriteAppDeletionCancelStep)
  | cancelReport (plan : CancelProgress)
  | finalizePlan (generationId : Option String) (deleteBeforeTsMs : Option Int)
  /-- The call `/purge` of the step's Entity. -/
  | finalizePurge (step : HoldoverWriteAppDeletionFinalizeStep)
  | finalizeCheckpoint (step : HoldoverWriteAppDeletionFinalizeStep)
  | finalizeReport
  deriving DecidableEq

inductive InventoryReply
  | register (result : InventoryRegisterResult)
  | admission (result : AssignmentAdmissionResult)
  | beginDeletion (reply : BeginDeletionReply)
  | markD1Deleted (saga : HoldoverWriteAppDeletionSaga)
  | cancelDeletion (reply : CancelReply)
  | finalizeDeletion (done : Bool)
  /-- An alarm that had nothing to do, or an inert one. -/
  | alarm
  deriving DecidableEq

/-- A task goes on, or is done. -/
abbrev InventoryProgress := InventoryPoint ⊕ InventoryReply

/-- What the calls of one step of a task end with. -/
structure StepFate where
  nowMs : Int
  kvDelete : Except String Unit
  child : Except String Unit

def stepTask (point : InventoryPoint) (fate : StepFate) : InventoryM InventoryProgress := do
  match point with
  | .alarmRead =>
    match ← readAppDeletionSaga with
    | none => return .inr .alarm
    | some saga =>
      match saga.phase with
      | .preparing | .canceling => return .inl (.cancelPlan saga.generationId)
      | .d1_deleted | .finalizing => return .inl (.finalizePlan saga.generationId none)
      | .prepared | .completed => return .inl (.clearInert saga)
  | .clearInert saga =>
    clearInertAlarm saga
    return .inr .alarm
  | .cancelPlan generationId =>
    let plan ← cancelPlanSection generationId fate.nowMs fate.kvDelete
    match plan.step with
    | some step => return .inl (.cancelResume plan.toCancelProgress step)
    | none => return .inl (.cancelReport plan.toCancelProgress)
  | .cancelResume plan step =>
    resolve fate.child
    return .inl (.cancelCheckpoint plan step)
  | .cancelCheckpoint plan step =>
    let _ ← checkpointAppDeletionCancelStep step
    return .inl (.cancelReport plan)
  | .cancelReport plan => return .inr (.cancelDeletion (← cancelReportSection plan))
  | .finalizePlan generationId deleteBeforeTsMs =>
    match ← finalizePlanSection generationId deleteBeforeTsMs fate.nowMs with
    | some step => return .inl (.finalizePurge step)
    | none => return .inl .finalizeReport
  | .finalizePurge step =>
    resolve fate.child
    record (.purged step.entity.name)
    return .inl (.finalizeCheckpoint step)
  | .finalizeCheckpoint step =>
    let _ ← checkpointAppDeletionFinalizeStep step
    return .inl .finalizeReport
  | .finalizeReport => return .inr (.finalizeDeletion (← finalizeReportSection))

/-! ## 3. The object -/

structure InventoryTask where
  /-- An alarm, rather than a request. -/
  isAlarm : Bool
  point : InventoryPoint
  deriving DecidableEq

structure InventoryWorld where
  inventory : AppInventory
  tasks : List InventoryTask

inductive InventoryEvent
  | register (ref : HoldoverWriteAppEntityRef)
  | admission (ref : HoldoverWriteAppEntityRef) (identityVersion : String)
  | beginDeletion (generationId : String) (deleteBeforeTsMs nowMs : Int) (fate : PrepareFate)
  | markD1Deleted (generationId : String) (deleteBeforeTsMs : Option Int) (nowMs : Int)
  | cancelDeletion (generationId : String)
  | finalizeDeletion (generationId : String) (deleteBeforeTsMs : Option Int)
  | alarm
  /-- The task at this place in the list does its next step. -/
  | step (place : Nat) (fate : StepFate)

/-- What an event answers: nothing while a task goes on. -/
abbrev InventoryAnswer := Option (Except String InventoryReply)

/-- A request of one section. -/
def section_ {α : Type} (closure : InventoryM α) (reply : α → InventoryReply)
    (world : InventoryWorld) : InventoryAnswer × InventoryWorld :=
  (some ((closure world.inventory).1.map reply),
    { world with inventory := (closure world.inventory).2 })

def spawn (task : InventoryTask) (world : InventoryWorld) : InventoryAnswer × InventoryWorld :=
  (none, { world with tasks := world.tasks ++ [task] })

/-- The alarm slot after an alarm that threw, which is delivered again. -/
def redelivered (task : InventoryTask) (nowMs : Int) (inventory : AppInventory) : AppInventory :=
  if task.isAlarm then { inventory with alarm := some (inventory.alarm.getD nowMs) }
  else inventory

def stepWorld (place : Nat) (fate : StepFate) (world : InventoryWorld) :
    InventoryAnswer × InventoryWorld :=
  match world.tasks[place]? with
  | none => (none, world)
  | some task =>
    match stepTask task.point fate world.inventory with
    | (.ok (.inl point), inventory) =>
      (none, ⟨inventory, world.tasks.set place { task with point }⟩)
    | (.ok (.inr reply), inventory) => (some (.ok reply), ⟨inventory, world.tasks.eraseIdx place⟩)
    | (.error message, inventory) =>
      (some (.error message),
        ⟨redelivered task fate.nowMs inventory, world.tasks.eraseIdx place⟩)

def inventoryStep (world : InventoryWorld) : InventoryEvent → InventoryAnswer × InventoryWorld
  | .register ref => section_ (registerAppInventoryEntity ref) .register world
  | .admission ref identityVersion =>
    section_ (admitAppInventoryAssignment ref identityVersion) .admission world
  | .beginDeletion generationId deleteBeforeTsMs nowMs fate =>
    section_ (beginDeletion generationId deleteBeforeTsMs nowMs fate) .beginDeletion world
  | .markD1Deleted generationId deleteBeforeTsMs nowMs =>
    section_ (markD1Deleted generationId deleteBeforeTsMs nowMs) .markD1Deleted world
  | .cancelDeletion generationId => spawn ⟨false, .cancelPlan (some generationId)⟩ world
  | .finalizeDeletion generationId deleteBeforeTsMs =>
    spawn ⟨false, .finalizePlan (some generationId) deleteBeforeTsMs⟩ world
  | .alarm =>
    if world.inventory.alarm.isSome then
      spawn ⟨true, .alarmRead⟩ { world with inventory := { world.inventory with alarm := none } }
    else (none, world)
  | .step place fate => stepWorld place fate world

def appInventory : Machine InventoryWorld InventoryEvent InventoryAnswer where
  init := ⟨⟨.empty, none, []⟩, []⟩
  step world event := inventoryStep world event

end Splitch
