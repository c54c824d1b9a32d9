/-
# The Assignment writer

One Durable Object for each Entity (`assignment-store-writer.ts`) holds the durable record of who
won which Experiment, and mirrors it into the blob of the Entity in KV, where evaluation reads it.

The storage of the object holds three kinds of rows under three key prefixes, kept here as three
fields: the winners, by Experiment, the cutoff tombstone of the last Entity deletion, and the
fence of the identity versions that App resets have destroyed.  Storage does not fail.  Every KV
call may fail, and a write that fails may have been applied; a KV binding without `delete` fails
the rewrite as a failing write does.  What was stored before a KV failure stays stored.
-/
import Splitch.Assignment.AssignmentStore
import Splitch.Assignment.IdentityResetFence
import Splitch.Library.Runs
import Splitch.Library.StateActions

namespace Splitch

/-! ## 1. State -/

abbrev StoredAssignment := HashedAssignmentPutInput

structure AssignmentWriterStorage where
  winners : Std.ExtTreeMap String StoredAssignment compare
  /-- `deleteBeforeTsMs` of the tombstone. -/
  entityDeletionCutoff : Option Int
  appIdentityResetFence : Option (List String)

structure AssignmentWriterWorld where
  storage : AssignmentWriterStorage
  kv : String → Option AssignmentStoreValue

def AssignmentWriterWorld.empty : AssignmentWriterWorld where
  storage := ⟨∅, none, none⟩
  kv _ := none

inductive KvWriteFate
  | done
  /-- The write throws, before or after it took effect. -/
  | failed (applied : Bool) (cause : String)
  deriving DecidableEq, Repr

/-- What the KV calls of one operation meet; none makes more than one read and one write. -/
structure KvFate where
  readFails : Bool
  write : KvWriteFate
  deriving DecidableEq, Repr

/-- Who the object is for. -/
structure Entity where
  appId : String
  idType : String
  targetingKeyHash : String
  deriving DecidableEq, Repr

def Entity.key (entity : Entity) : String :=
  assignmentKey entity.appId entity.idType entity.targetingKeyHash

namespace AssignmentStoreWriter

abbrev WriterM := ExceptT String (StateM AssignmentWriterWorld)

def getStorage : WriterM AssignmentWriterStorage := return (← get).storage

def setStorage (f : AssignmentWriterStorage → AssignmentWriterStorage) : WriterM Unit :=
  modify fun world => { world with storage := f world.storage }

/-! ## 2. The fence -/

def extendFence (destroyedVersions : List String) : WriterM (List String) := do
  match extendAppIdentityResetFence (← getStorage).appIdentityResetFence destroyedVersions with
  | .error message => throw message
  | .ok next =>
    setStorage fun storage => { storage with appIdentityResetFence := some next }
    return next

/-! ## 3. KV -/

def readAssignmentValue (key : String) (fate : KvFate) : WriterM AssignmentStoreValue := do
  if fate.readFails then throw ("Assignment KV read failed for key \"" ++ key ++ "\"")
  else return ((← get).kv key).getD ∅

/-- `kv.put`, or `kv.delete` where there is no value. -/
def kvWrite (key : String) (value : Option AssignmentStoreValue) (fate : KvFate) :
    WriterM Unit := do
  let write : WriterM Unit := modify fun world =>
    { world with kv := Function.update world.kv key value }
  match fate.write with
  | .done => write
  | .failed true cause =>
    write
    throw cause
  | .failed false cause => throw cause

def writeThrough (input : HashedAssignmentPutInput) (fate : KvFate) : WriterM Unit := do
  let key := assignmentKey input.appId input.idType input.targetingKeyHash
  let current ← readAssignmentValue key fate
  -- the merge returns `current` itself exactly when it has a member of this name
  if hasMember current input.experimentId then return ()
  else kvWrite key (some (mergeAssignmentValue current input)) fate

def mergeWinners (winners : Std.ExtTreeMap String StoredAssignment compare) :
    AssignmentStoreValue :=
  winners.toList.foldl (fun value winner => mergeAssignmentValue value winner.2) ∅

def rewriteKvFromDurableWinners (identity : Entity) (fate : KvFate) : WriterM Unit := do
  let value := mergeWinners (← getStorage).winners
  kvWrite identity.key (if value.isEmpty then none else some value) fate

/-! ## 4. The operations -/

def put (input : HashedAssignmentPutInput) (fate : KvFate) :
    WriterM AssignmentStorePutResult := do
  match input.sourceCreatedAtMs with
  | none => throw "assignment-store: sourceCreatedAtMs is required"
  | some sourceCreatedAtMs =>
    match input.identityVersion.elim (keyVersionOf input.targetingKeyHash) .ok with
    | .error message => throw message
    | .ok identityVersion =>
      let storage ← getStorage
      match isAppIdentityVersionReset storage.appIdentityResetFence identityVersion with
      | .error message => throw message
      | .ok true => throw "assignment-store: App identity generation was reset"
      | .ok false =>
        if storage.entityDeletionCutoff.any (sourceCreatedAtMs ≤ ·) then
          throw "assignment-store: Assignment predates Entity deletion cutoff"
        else match storage.winners[input.experimentId]? with
        | some existing =>
          writeThrough existing fate
          return ⟨.existing, entryFrom existing⟩
        | none =>
          setStorage fun storage =>
            { storage with winners := storage.winners.insert input.experimentId input }
          writeThrough input fate
          return ⟨.stored, entryFrom input⟩

/-- The winners that survive a deletion up to `cutoff`. -/
def survivors (cutoff : Int) (winners : Std.ExtTreeMap String StoredAssignment compare) :
    Std.ExtTreeMap String StoredAssignment compare :=
  winners.filter fun _ assignment => assignment.sourceCreatedAtMs.any (cutoff < ·)

def deleteEntity (identity : Entity) (deleteBeforeTsMs : Int) (fate : KvFate) :
    WriterM String := do
  let previous := (← getStorage).entityDeletionCutoff
  let cutoff := previous.elim deleteBeforeTsMs (max · deleteBeforeTsMs)
  setStorage fun storage => { storage with winners := survivors cutoff storage.winners }
  setStorage fun storage => { storage with entityDeletionCutoff := some cutoff }
  rewriteKvFromDurableWinners identity fate
  return "assignment-do-cutoff-tombstone-v2"

structure Export where
  assignments : AssignmentStoreValue
  tombstoned : Bool

def exportEntity : WriterM Export := do
  let stored := (← getStorage).winners
  if stored.toList.any fun winner =>
      winner.1.isEmpty || winner.2.experimentId ≠ winner.1 then
    throw "assignment-store: durable winner key is invalid"
  else match readAppIdentityResetFence (← getStorage).appIdentityResetFence with
  | .error message => throw message
  | .ok fence =>
    return {
      assignments := stored.map fun _ winner => entryFrom winner
      tombstoned := (← getStorage).entityDeletionCutoff.isSome || !fence.isEmpty }

structure AppResetProof where
  assignments : AssignmentStoreValue
  fencedIdentityVersions : List String

def resetApp (identity : Entity) (destroyedVersions : List String) (fate : KvFate) :
    WriterM AppResetProof := do
  let fencedIdentityVersions ← extendFence destroyedVersions
  setStorage fun storage => { storage with winners := ∅ }
  rewriteKvFromDurableWinners identity fate
  let assignments := (← exportEntity).assignments
  if !assignments.isEmpty then
    throw "assignment-store: App reset winner purge proof is not empty"
  else return ⟨assignments, fencedIdentityVersions⟩

/-! ## 5. The writer of one Entity -/

end AssignmentStoreWriter

/-- A put, but for the identity, which is that of the Entity the object is for. -/
structure EntityPut where
  experimentId : ExperimentId
  identityVersion : Option String
  runId : String
  sourceCreatedAtMs : Option Int
  variant : String

def EntityPut.input (put : EntityPut) (entity : Entity) : HashedAssignmentPutInput where
  appId := entity.appId
  experimentId := put.experimentId.name
  idType := entity.idType
  targetingKeyHash := entity.targetingKeyHash
  identityVersion := put.identityVersion
  runId := put.runId
  sourceCreatedAtMs := put.sourceCreatedAtMs
  variant := put.variant

inductive WriterEvent
  | put (put : EntityPut) (fate : KvFate)
  | deleteEntity (deleteBeforeTsMs : Int) (fate : KvFate)
  | resetApp (destroyedVersions : List String) (fate : KvFate)

/-- What an operation resolves with. -/
inductive WriterReply
  | put (result : AssignmentStorePutResult)
  | deleteEntity (proof : String)
  | resetApp (proof : AssignmentStoreWriter.AppResetProof)

open AssignmentStoreWriter in
def writerStep (entity : Entity) : WriterEvent → WriterM WriterReply
  | .put entityPut fate => .put <$> put (entityPut.input entity) fate
  | .deleteEntity deleteBeforeTsMs fate =>
    .deleteEntity <$> deleteEntity entity deleteBeforeTsMs fate
  | .resetApp destroyedVersions fate => .resetApp <$> resetApp entity destroyedVersions fate

def assignmentWriter (entity : Entity) :
    Machine AssignmentWriterWorld WriterEvent (Except String WriterReply) where
  init := .empty
  step world event := writerStep entity event world

end Splitch
