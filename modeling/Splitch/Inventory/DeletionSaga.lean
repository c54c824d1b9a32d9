/-
# The App deletion saga

`holdover-write-app-deletion-saga.ts` and its parts.  The saga row of an App inventory goes
`preparing` → `prepared` → (`canceling` → none) | (`d1_deleted` → `finalizing` → `completed`).  Each
function here is one stretch of code that runs between two calls to other objects; the calls to
KV stand inside, and end as their fate says.

The object always passes `null` for `resume`: the cancel resumes no Entity itself, but leaves that
to the step it plans.
-/
import Splitch.Inventory.AppInventory

namespace Splitch

open InventoryM

/-! ## 1. The row -/

def readAppDeletionSaga : InventoryM (Option HoldoverWriteAppDeletionSaga) :=
  return (← getStorage).deletionSaga

def putAppDeletionSaga (saga : HoldoverWriteAppDeletionSaga) : InventoryM Unit :=
  setStorage fun storage => { storage with deletionSaga := some saga }

def adoptLegacyAppDeletionSagaGeneration (saga : HoldoverWriteAppDeletionSaga)
    (generationId : String) : InventoryM HoldoverWriteAppDeletionSaga := do
  if saga.generationId.isSome then return saga
  else
    putAppDeletionSaga { saga with generationId := some generationId }
    return { saga with generationId := some generationId }

def adoptStored (generationId : String) : InventoryM (Option HoldoverWriteAppDeletionSaga) := do
  match ← readAppDeletionSaga with
  | none => return none
  | some stored => some <$> adoptLegacyAppDeletionSagaGeneration stored generationId

def clearAppDeletionSaga : InventoryM Unit :=
  setStorage fun storage =>
    { storage with suppressed := false, deleteBeforeTsMs := none, deletionSaga := none }

/-! ## 2. Cancel -/

structure CancelProgress where
  done : Bool
  cancelled : Bool
  deriving DecidableEq, Repr

structure HoldoverWriteAppDeletionCancelStep where
  generationId : Option String
  entity : HoldoverWriteAppEntityRef
  deriving DecidableEq

structure HoldoverWriteAppDeletionCancelPlan extends CancelProgress where
  step : Option HoldoverWriteAppDeletionCancelStep
  deriving DecidableEq

def advanceAppDeletionCancelSaga (kvDelete : Except String Unit) : InventoryM Bool := do
  match ← readAppDeletionSaga with
  | none => return true
  | some saga =>
    if saga.phase ≠ .canceling then return true
    else do
      if !saga.cancelKvCleared then
        resolve kvDelete
        putAppDeletionSaga { saga with cancelKvCleared := true }
      if !saga.cancelResumePending.isEmpty then return false
      else
        clearAppDeletionSaga
        return true

/-- `expectedGenerationId` is `none` where the caller passes none, and holds `null` where the
caller's row is a legacy one. -/
def buildCancelingSaga (storage : AppInventoryStorage)
    (existing : Option HoldoverWriteAppDeletionSaga)
    (expectedGenerationId : Option (Option String)) : HoldoverWriteAppDeletionSaga where
  phase := .canceling
  generationId := (existing.bind (·.generationId)).or (expectedGenerationId.getD none)
  deleteBeforeTsMs := (existing.map (·.deleteBeforeTsMs)).getD (storage.deleteBeforeTsMs.getD 0)
  cancelResumePending := match existing.filter (·.phase = .canceling) with
    | some saga => saga.cancelResumePending
    | none => listRegisteredEntities storage
  cancelKvCleared := match existing.filter (·.phase = .canceling) with
    | some saga => saga.cancelKvCleared
    | none => false

def beginOrResumeAppDeletionCancelSaga (expectedGenerationId : Option (Option String))
    (kvDelete : Except String Unit) : InventoryM CancelProgress := do
  if (← getStorage).deletionComplete then return ⟨true, false⟩
  else do
    let existing ← match expectedGenerationId with
      | some (some generationId) => adoptStored generationId
      | _ => readAppDeletionSaga
    if existing.any fun saga => expectedGenerationId.any (saga.generationId ≠ ·) then
      return ⟨true, false⟩
    else if existing.any appDeletionSagaCrossedBoundary then return ⟨true, false⟩
    else do
      let storage ← getStorage
      if existing.isNone && !storage.suppressed then return ⟨true, true⟩
      else
        putAppDeletionSaga (buildCancelingSaga storage existing expectedGenerationId)
        let done ← advanceAppDeletionCancelSaga kvDelete
        return ⟨done, true⟩

def planAppDeletionCancelStep (generationId : Option String) (kvDelete : Except String Unit) :
    InventoryM HoldoverWriteAppDeletionCancelPlan := do
  let progress ← beginOrResumeAppDeletionCancelSaga (some generationId) kvDelete
  if progress.done || !progress.cancelled then return ⟨progress, none⟩
  else
    let saga := (← readAppDeletionSaga).filter (·.phase = .canceling)
    return ⟨progress, saga.bind fun saga =>
      saga.cancelResumePending.head?.map fun entity => ⟨saga.generationId, entity⟩⟩

def checkpointAppDeletionCancelStep (step : HoldoverWriteAppDeletionCancelStep) :
    InventoryM Bool := do
  match ← readAppDeletionSaga with
  | none => return false
  | some saga =>
    if saga.phase ≠ .canceling ∨ saga.generationId ≠ step.generationId then return false
    else do
      let pending := saga.cancelResumePending.filter (· ≠ step.entity)
      if !pending.isEmpty then
        putAppDeletionSaga { saga with cancelResumePending := pending }
        return false
      else
        clearAppDeletionSaga
        return true

/-! ## 3. Prepare -/

/-- How the KV calls of a prepare end: the delete of a cancel it has to finish first, the freeze,
and the delete of the cancel that a failed freeze enters. -/
structure PrepareFate where
  priorKvDelete : Except String Unit
  kvPut : Except String Unit
  kvDelete : Except String Unit

def writePreparingFreeze (generationId : String) (deleteBeforeTsMs : Int)
    (entities : List HoldoverWriteAppEntityRef) : InventoryM Unit :=
  setStorage fun storage => { storage with
    deletionSaga := some ⟨.preparing, some generationId, deleteBeforeTsMs, entities, false⟩
    suppressed := true
    deleteBeforeTsMs := some deleteBeforeTsMs
    deletionComplete := false }

/-- A failed freeze always throws. -/
def failPrepareIntoCancel {α : Type} (generationId : String) (deleteBeforeTsMs : Int)
    (entities : List HoldoverWriteAppEntityRef) (kvDelete : Except String Unit) (cause : String) :
    InventoryM α := do
  putAppDeletionSaga ⟨.canceling, some generationId, deleteBeforeTsMs, entities, false⟩
  let done ← advanceAppDeletionCancelSaga kvDelete
  if !done then
    throw ("prepareAppDeletionSaga: KV freeze failed and cancel is incomplete: " ++ cause)
  else throw cause

/-- Throws unless the prepare may go on and write over the other generation. -/
def supersedePreparedSaga (existing : HoldoverWriteAppDeletionSaga)
    (priorKvDelete : Except String Unit) : InventoryM Unit := do
  if appDeletionSagaCrossedBoundary existing then
    throw "prepareAppDeletionSaga: another generation crossed the D1 boundary"
  else if existing.phase = .preparing ∨ existing.phase = .canceling then do
    let progress ← beginOrResumeAppDeletionCancelSaga none priorKvDelete
    if !progress.done then
      throw "prepareAppDeletionSaga: prior generation cancel still in progress"

/-- What a prepare of the stored generation returns early: is the deletion complete? -/
def sameGenerationPrepareEarlyReturn (existing : Option HoldoverWriteAppDeletionSaga)
    (priorKvDelete : Except String Unit) : InventoryM (Option Bool) := do
  if existing.any (·.phase = .completed) || (← getStorage).deletionComplete then
    setStorage fun storage => { storage with suppressed := true, deletionComplete := true }
    return some true
  else if existing.any fun saga =>
      saga.phase = .prepared ∨ saga.phase = .d1_deleted ∨ saga.phase = .finalizing then
    return some false
  else if existing.any (·.phase = .canceling) then do
    let done ← advanceAppDeletionCancelSaga priorKvDelete
    if !done then throw "prepareAppDeletionSaga: prior cancel still in progress"
    else return none
  else return none

def prepareSagaEarlyReturn (generationId : String) (priorKvDelete : Except String Unit) :
    InventoryM (Option Bool) := do
  let existing ← adoptStored generationId
  match existing.filter (·.generationId ≠ some generationId) with
  | some saga =>
    supersedePreparedSaga saga priorKvDelete
    return none
  | none => sameGenerationPrepareEarlyReturn existing priorKvDelete

/-- Answers whether the deletion is complete. -/
def prepareAppDeletionSaga (generationId : String) (deleteBeforeTsMs : Int) (fate : PrepareFate) :
    InventoryM Bool := do
  match ← prepareSagaEarlyReturn generationId fate.priorKvDelete with
  | some deletionComplete => return deletionComplete
  | none =>
    let entities := listRegisteredEntities (← getStorage)
    writePreparingFreeze generationId deleteBeforeTsMs entities
    match fate.kvPut with
    | .error cause =>
      failPrepareIntoCancel generationId deleteBeforeTsMs entities fate.kvDelete cause
    | .ok _ =>
      putAppDeletionSaga ⟨.prepared, some generationId, deleteBeforeTsMs, [], false⟩
      return false

/-! ## 4. The D1 boundary -/

def completedSaga (generationId : String) (existing : Option HoldoverWriteAppDeletionSaga)
    (deleteBeforeTsMs : Option Int) : HoldoverWriteAppDeletionSaga where
  phase := .completed
  generationId := some generationId
  deleteBeforeTsMs := (existing.map (·.deleteBeforeTsMs)).getD (deleteBeforeTsMs.getD 0)
  cancelResumePending := []
  cancelKvCleared := true

def markAppDeletionSagaD1Deleted (generationId : String) (deleteBeforeTsMs : Option Int) :
    InventoryM HoldoverWriteAppDeletionSaga := do
  let existing ← adoptStored generationId
  if existing.any (·.generationId ≠ some generationId) then
    throw "markAppDeletionSagaD1Deleted: generation does not match active saga"
  else do
    let storage ← getStorage
    if existing.any (·.phase = .completed) || storage.deletionComplete then
      putAppDeletionSaga (completedSaga generationId existing deleteBeforeTsMs)
      return completedSaga generationId existing deleteBeforeTsMs
    else match existing.filter fun saga => saga.phase = .d1_deleted ∨ saga.phase = .finalizing with
    | some saga => return saga
    | none =>
      if existing.any (·.phase = .canceling) then
        throw "markAppDeletionSagaD1Deleted: cancel in progress; refusing D1 boundary"
      else
        match (deleteBeforeTsMs.or (existing.map (·.deleteBeforeTsMs))).or
            storage.deleteBeforeTsMs with
        | none => throw "markAppDeletionSagaD1Deleted: deleteBeforeTsMs is required"
        | some cutoff =>
          let saga : HoldoverWriteAppDeletionSaga :=
            ⟨.d1_deleted, some generationId, cutoff, [], false⟩
          setStorage fun storage => { storage with
            suppressed := true, deleteBeforeTsMs := some cutoff, deletionSaga := some saga }
          return saga

/-! ## 5. Finalize -/

structure HoldoverWriteAppDeletionFinalizeStep where
  generationId : Option String
  deleteBeforeTsMs : Int
  entity : HoldoverWriteAppEntityRef
  deriving DecidableEq

def completeAppDeletionFinalizeSaga (saga : HoldoverWriteAppDeletionSaga) (cutoff : Int) :
    InventoryM Unit :=
  setStorage fun storage => { storage with
    suppressed := true
    deletionComplete := true
    deletionSaga := some ⟨.completed, saga.generationId, cutoff, [], true⟩ }

def loadFinalizeSaga (generationId : Option String) (deleteBeforeTsMs : Option Int)
    (deletionComplete : Bool) : InventoryM (Option HoldoverWriteAppDeletionSaga) := do
  match generationId with
  | none => readAppDeletionSaga
  | some generationId =>
    if (← readAppDeletionSaga).isNone && deletionComplete then
      putAppDeletionSaga (completedSaga generationId none deleteBeforeTsMs)
    adoptStored generationId

def enterFinalizeBoundary (generationId : Option String) (deleteBeforeTsMs : Option Int)
    (saga : Option HoldoverWriteAppDeletionSaga) : InventoryM HoldoverWriteAppDeletionSaga := do
  if saga.any (·.phase = .canceling) then
    throw "advanceAppDeletionFinalizeSaga: refuse finalize while canceling"
  else match saga.filter fun saga => saga.phase ≠ .prepared ∧ saga.phase ≠ .preparing with
  | some saga => return saga
  | none =>
    match generationId with
    | none => throw "advanceAppDeletionFinalizeSaga: generation is required before D1 boundary"
    | some generationId => markAppDeletionSagaD1Deleted generationId deleteBeforeTsMs

/-- The step to take, or none where the deletion is complete. -/
def planAppDeletionFinalizeStep (generationId : Option String) (deleteBeforeTsMs : Option Int) :
    InventoryM (Option HoldoverWriteAppDeletionFinalizeStep) := do
  let deletionComplete := (← getStorage).deletionComplete
  let loaded ← loadFinalizeSaga generationId deleteBeforeTsMs deletionComplete
  if loaded.any fun saga => generationId.any (saga.generationId ≠ some ·) then
    throw "advanceAppDeletionFinalizeSaga: generation does not match active saga"
  else if deletionComplete then return none
  else do
    let saga ← enterFinalizeBoundary generationId deleteBeforeTsMs loaded
    if saga.phase = .completed then return none
    else do
      let cutoff := deleteBeforeTsMs.getD saga.deleteBeforeTsMs
      putAppDeletionSaga { saga with phase := .finalizing, deleteBeforeTsMs := cutoff }
      match (listRegisteredEntities (← getStorage)).head? with
      | some entity => return some ⟨saga.generationId, cutoff, entity⟩
      | none =>
        completeAppDeletionFinalizeSaga saga cutoff
        return none

def checkpointAppDeletionFinalizeStep (step : HoldoverWriteAppDeletionFinalizeStep) :
    InventoryM Bool := do
  match ← readAppDeletionSaga with
  | none => return false
  | some saga =>
    if saga.phase ≠ .finalizing ∨ saga.generationId ≠ step.generationId then return false
    else do
      markAppInventoryEntityPurged step.entity
      if !(listRegisteredEntities (← getStorage)).isEmpty then return false
      else
        completeAppDeletionFinalizeSaga saga step.deleteBeforeTsMs
        return true

end Splitch
