/-
# The Assignments of one App

Three kinds of objects hold them: the App's inventory, and for each Entity a writer and a holdover
outbox, which are the objects `<appId>:<name>` of the Entity's name.  KV mirrors the writers, one
key for each Entity.  This module puts the models of the objects together: an event is one request
that one of them serves, and what it does to the others on the way.

The inventory admits an Assignment and puts it to the writer in one section
(`holdover-write-app-assignment.ts`).  The calls that an ensure or an alarm of an outbox makes to
the inventory, to register the Entity or to put its jobs, are events of their own, and the
outbox's own event takes their answers from its fate; the inventory and the writers never look at
an outbox, so that nothing depends on where these events stand.
-/
import Splitch.Assignment.AssignmentWriter
import Splitch.Holdover.HoldoverOutbox
import Splitch.Inventory.AppInventory

namespace Splitch

/-! ## 1. State -/

structure AppWorld where
  inventory : AppInventory
  /-- By the name of the Entity, as the outboxes. -/
  writers : String → AssignmentWriterStorage
  outboxes : String → HoldoverWriteOutboxWorld
  kv : Std.ExtTreeMap String AssignmentStoreValue compare

def AppWorld.empty : AppWorld where
  inventory := ⟨.empty, none, []⟩
  writers _ := ⟨∅, none, none⟩
  outboxes _ := .empty
  kv := ∅

/-- How a call from one object to another ends; one that throws may have been served. -/
inductive CallFate
  | done
  | failed (served : Bool) (cause : String)
  deriving DecidableEq, Repr

def CallFate.served : CallFate → Bool
  | .done => true
  | .failed served _ => served

def CallFate.answer : CallFate → Except String Unit
  | .done => .ok ()
  | .failed _ cause => .error cause

/-- The Entity of the App `appId`. -/
def HoldoverWriteAppEntityRef.entity (ref : HoldoverWriteAppEntityRef) (appId : String) : Entity :=
  ⟨appId, ref.idType, ref.targetingKeyHash⟩

namespace AppWorld

abbrev AppM := ExceptT String (StateM AppWorld)

def atInventory {α : Type} (action : InventoryM α) : AppM α := fun world =>
  ((action world.inventory).1, { world with inventory := (action world.inventory).2 })

def atOutbox {α : Type} (name : String) (action : HoldoverWriteOutbox.OutboxM α) : AppM α :=
  fun world =>
    ((action (world.outboxes name)).1,
      { world with
        outboxes := Function.update world.outboxes name (action (world.outboxes name)).2 })

/-- What the writer of an Entity works on. -/
def writerWorld (world : AppWorld) (name : String) : AssignmentWriterWorld :=
  ⟨world.writers name, fun key => world.kv[key]?⟩

def setKey (kv : Std.ExtTreeMap String AssignmentStoreValue compare) (key : String) :
    Option AssignmentStoreValue → Std.ExtTreeMap String AssignmentStoreValue compare
  | none => kv.erase key
  | some value => kv.insert key value

/-- A writer writes to no key but the one of its Entity. -/
def atWriter {α : Type} (appId : String) (ref : HoldoverWriteAppEntityRef)
    (action : AssignmentStoreWriter.WriterM α) : AppM α := fun world =>
  let result := action (world.writerWorld ref.name)
  let key := (ref.entity appId).key
  (result.1, { world with
    writers := Function.update world.writers ref.name result.2.storage
    kv := setKey world.kv key (result.2.kv key) })

def resolve {α : Type} (answer : Except String α) : AppM α := ExceptT.mk (pure answer)

end AppWorld

open AppWorld

/-! ## 2. Putting an Assignment -/

/-- What `/put-assignment` parses. -/
structure AssignmentPut where
  appId : String
  experimentId : String
  ref : HoldoverWriteAppEntityRef
  identityVersion : String
  runId : String
  sourceCreatedAtMs : Int
  variant : String
  deriving DecidableEq

def AssignmentPut.input (put : AssignmentPut) : HashedAssignmentPutInput where
  appId := put.appId
  experimentId := put.experimentId
  idType := put.ref.idType
  targetingKeyHash := put.ref.targetingKeyHash
  identityVersion := some put.identityVersion
  runId := put.runId
  sourceCreatedAtMs := some put.sourceCreatedAtMs
  variant := put.variant

/-- `call` is the call to the writer: one that throws has not been served, since what the writer
does where only its answer is lost, it does where its KV calls throw. -/
def putHoldoverWriteAppAssignment (appId : String) (put : AssignmentPut)
    (call : Except String Unit) (fate : KvFate) : AppM AssignmentStorePutResult := do
  if put.appId ≠ appId then throw "Assignment App scope mismatch"
  else do
    let version ← resolve (keyVersionOf put.ref.targetingKeyHash)
    if version ≠ put.identityVersion then throw "Assignment identity generation mismatch"
    else do
      let admission ← atInventory (admitAppInventoryAssignment put.ref put.identityVersion)
      if admission ≠ .registered then throw "App identity generation changed during Assignment"
      else do
        resolve call
        atWriter appId put.ref (AssignmentStoreWriter.put put.input fate)

/-! ## 3. Deleting an Entity from its outbox -/

/-- `/delete` of an outbox, which unregisters the Entity where no job remains.  `markEntityPurged`
is that call, where the request names the Entity. -/
def deleteFromOutbox (ref : HoldoverWriteAppEntityRef) (deleteBeforeTsMs : Int)
    (markEntityPurged : Option CallFate) : AppM Bool := do
  let remainingJobs ← atOutbox ref.name (HoldoverWriteOutbox.deleteEntityOutbox deleteBeforeTsMs)
  match markEntityPurged with
  | none => return remainingJobs
  | some call =>
    if remainingJobs then return remainingJobs
    else do
      if call.served then atInventory (markAppInventoryEntityPurged ref)
      resolve call.answer
      return remainingJobs

/-! ## 4. Histories -/

inductive AppEvent
  | putAssignment (put : AssignmentPut) (call : Except String Unit) (fate : KvFate)
  /-- A registration that an ensure asks for. -/
  | register (ref : HoldoverWriteAppEntityRef)
  | ensure (ref : HoldoverWriteAppEntityRef) (input : HashedAssignmentPutInput) (nowMs : Int)
      (sourceCreatedAtMs : Option Int) (fate : OutboxFate)
  | outboxAlarm (ref : HoldoverWriteAppEntityRef) (nowMs : Int) (fate : OutboxFate)
  | deleteFromOutbox (ref : HoldoverWriteAppEntityRef) (deleteBeforeTsMs : Int)
      (markEntityPurged : Option CallFate)

inductive AppReply
  | putAssignment (result : AssignmentStorePutResult)
  | register (result : InventoryRegisterResult)
  | ensure (status : HoldoverWriteEnsureStatus)
  | outboxAlarm
  | deleteFromOutbox (remainingJobs : Bool)
  deriving DecidableEq

def appStep (appId : String) : AppEvent → AppM AppReply
  | .putAssignment put call fate =>
    .putAssignment <$> putHoldoverWriteAppAssignment appId put call fate
  | .register ref => .register <$> atInventory (registerAppInventoryEntity ref)
  | .ensure ref input nowMs sourceCreatedAtMs fate =>
    .ensure <$> atOutbox ref.name
      (HoldoverWriteOutbox.ensureHoldoverWriteJob input nowMs sourceCreatedAtMs fate)
  | .outboxAlarm ref nowMs fate =>
    (fun _ => .outboxAlarm) <$> atOutbox ref.name (HoldoverWriteOutbox.deliverAlarm nowMs fate)
  | .deleteFromOutbox ref deleteBeforeTsMs markEntityPurged =>
    .deleteFromOutbox <$> deleteFromOutbox ref deleteBeforeTsMs markEntityPurged

def appAssignments (appId : String) : Machine AppWorld AppEvent (Except String AppReply) where
  init := .empty
  step world event := appStep appId event world

end Splitch
