/-
# The App inventory

One Durable Object for each App (`holdover-write-app-inventory.ts`) indexes the Entities that may
hold Assignments or holdover work of the App, and keeps the row of the App's deletion saga.  What
a deletion or a reset of the App has to visit is what is registered here.

All requests to the object carry the id of its App, so that it is left out of the rows, as are the
rows of the identity reset that no function here reads.  The ids of requests and Entities are not
empty: their parsers reject empty ones.
-/
import Mathlib
import Splitch.Library.Rows
import Splitch.Library.StateActions

namespace Splitch

/-! ## 1. Entities -/

/-- An Entity of the App. -/
structure HoldoverWriteAppEntityRef where
  idType : String
  targetingKeyHash : String
  idType_ne : idType ≠ ""
  targetingKeyHash_ne : targetingKeyHash ≠ ""
  deriving DecidableEq

/-- What names an Entity: its row is `entity:<name>`, and its outbox and its writer are the
objects `<appId>:<name>`. -/
def HoldoverWriteAppEntityRef.name (ref : HoldoverWriteAppEntityRef) : String :=
  ref.idType ++ ":" ++ ref.targetingKeyHash

/-! ## 2. The saga row -/

inductive HoldoverWriteAppDeletionSagaPhase
  | preparing
  | prepared
  | d1_deleted
  | finalizing
  | completed
  | canceling
  deriving DecidableEq, Repr

structure HoldoverWriteAppDeletionSaga where
  phase : HoldoverWriteAppDeletionSagaPhase
  /-- Null only in rows that were written before there were generations. -/
  generationId : Option String
  deleteBeforeTsMs : Int
  cancelResumePending : List HoldoverWriteAppEntityRef
  cancelKvCleared : Bool
  deriving DecidableEq

/-- The phases behind the deletion of the App's row in D1. -/
def HoldoverWriteAppDeletionSagaPhase.crossedBoundary : HoldoverWriteAppDeletionSagaPhase → Bool
  | .d1_deleted | .finalizing | .completed => true
  | .preparing | .prepared | .canceling => false

def appDeletionSagaCrossedBoundary (saga : HoldoverWriteAppDeletionSaga) : Bool :=
  saga.phase.crossedBoundary

/-! ## 3. State -/

structure AppInventoryStorage where
  /-- The rows `entity:<name>`. -/
  entities : Std.ExtTreeMap String HoldoverWriteAppEntityRef compare
  suppressed : Bool
  deletionComplete : Bool
  deleteBeforeTsMs : Option Int
  activeIdentityVersion : Option String
  deletionSaga : Option HoldoverWriteAppDeletionSaga

inductive InventoryAct
  | registered (name : String)
  | purged (name : String)
  deriving DecidableEq, Repr

/-- The object: its storage, its alarm, and a log of the Entities it has registered and of the
outboxes it has seen purged. -/
structure AppInventory where
  storage : AppInventoryStorage
  alarm : Option Int
  log : List InventoryAct

def AppInventoryStorage.empty : AppInventoryStorage := ⟨∅, false, false, none, none, none⟩

abbrev InventoryM := ExceptT String (StateM AppInventory)

namespace InventoryM

def getStorage : InventoryM AppInventoryStorage := return (← get).storage

def setStorage (f : AppInventoryStorage → AppInventoryStorage) : InventoryM Unit :=
  modify fun inventory => { inventory with storage := f inventory.storage }

def setAlarm (scheduledTime : Int) : InventoryM Unit :=
  modify fun inventory => { inventory with alarm := some scheduledTime }

def deleteAlarm : InventoryM Unit := modify fun inventory => { inventory with alarm := none }

def record (act : InventoryAct) : InventoryM Unit :=
  modify fun inventory => { inventory with log := inventory.log ++ [act] }

/-- A call out of the object ends as its fate says. -/
def resolve {α : Type} (answer : Except String α) : InventoryM α := ExceptT.mk (pure answer)

end InventoryM

open InventoryM

/-! ## 4. Registration -/

inductive InventoryRegisterResult
  | registered
  | suppressed
  deriving DecidableEq, Repr

inductive AssignmentAdmissionResult
  | registered
  | suppressed
  | stale
  deriving DecidableEq, Repr

def putEntity (ref : HoldoverWriteAppEntityRef) : InventoryM Unit := do
  setStorage fun storage => { storage with entities := storage.entities.insert ref.name ref }
  record (.registered ref.name)

def registerAppInventoryEntity (ref : HoldoverWriteAppEntityRef) :
    InventoryM InventoryRegisterResult := do
  let storage ← getStorage
  if storage.suppressed then return .suppressed
  else if storage.deletionComplete then return .suppressed
  else
    putEntity ref
    return .registered

def admitAppInventoryAssignment (ref : HoldoverWriteAppEntityRef) (identityVersion : String) :
    InventoryM AssignmentAdmissionResult := do
  if identityVersion.isEmpty then
    throw "admitAppInventoryAssignment: identityVersion is required"
  else do
    let storage ← getStorage
    if storage.suppressed || storage.deletionComplete then return .suppressed
    else if storage.activeIdentityVersion.any (· ≠ identityVersion) then return .stale
    else
      setStorage fun storage => { storage with activeIdentityVersion := some identityVersion }
      putEntity ref
      return .registered

def markAppInventoryEntityPurged (ref : HoldoverWriteAppEntityRef) : InventoryM Unit :=
  setStorage fun storage => { storage with entities := storage.entities.erase ref.name }

def listRegisteredEntities (storage : AppInventoryStorage) : List HoldoverWriteAppEntityRef :=
  storage.entities.toList.map Prod.snd

structure HoldoverWriteAppInventoryStatus where
  generationId : Option String
  suppressed : Bool
  deletionComplete : Bool
  deleteBeforeTsMs : Option Int
  entities : List HoldoverWriteAppEntityRef
  sagaPhase : Option HoldoverWriteAppDeletionSagaPhase
  deriving DecidableEq

def appInventoryStatus : InventoryM HoldoverWriteAppInventoryStatus := do
  let storage ← getStorage
  return {
    generationId := storage.deletionSaga.bind (·.generationId)
    suppressed := storage.suppressed
    deletionComplete := storage.deletionComplete
    deleteBeforeTsMs := storage.deleteBeforeTsMs
    entities := listRegisteredEntities storage
    sagaPhase := storage.deletionSaga.map (·.phase) }

end Splitch
