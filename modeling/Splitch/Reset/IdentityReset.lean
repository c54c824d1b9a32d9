/-
# The destructive reset of an App's identity

`app-identity-reset.ts`: `purgeAppIdentityAssignments` registers the Entities that KV knows,
freezes the inventory, purges the writer and the outbox of every registered Entity, and deletes
what is left in KV.

A KV listing returns at most `KV_LIST_LIMIT` keys in their order, with a cursor to go on from
while there are more.  It shows every write before it (KV is taken to be strongly consistent).
-/
import Splitch.Library.Paging
import Splitch.Inventory.InventoryObject
import Splitch.Reset.AppAssignments

namespace Splitch

open AppWorld

/-! ## 1. The inventory's status -/

def isOpenInventory (status : HoldoverWriteAppInventoryStatus) : Bool :=
  status.generationId.isNone && !status.suppressed && !status.deletionComplete &&
    status.deleteBeforeTsMs.isNone && status.sagaPhase.isNone

def frozenResetInventory (resetId : String) : AppM HoldoverWriteAppInventoryStatus := do
  let status ← atInventory appInventoryStatus
  if status.generationId ≠ some resetId || !status.suppressed || status.deletionComplete ||
      status.sagaPhase ≠ some .prepared || status.deleteBeforeTsMs.isNone then
    throw "App identity reset Assignment inventory is not frozen for this reset"
  else return status

/-! ## 2. KV listings -/

def KV_LIST_LIMIT : Nat := 1000

/-- The keys under the prefix, in their order. -/
def keysUnder (keyPrefix : String) (kv : Std.ExtTreeMap String AssignmentStoreValue compare) :
    List String :=
  (kv.toList.map Prod.fst).filter fun key => keyPrefix.toList.isPrefixOf key.toList

/-- The keys of one listing, and the cursor of the next one, where the listing is not complete. -/
def kvList (keyPrefix : String) (cursor : Option String)
    (kv : Std.ExtTreeMap String AssignmentStoreValue compare) : List String × Option String :=
  let keys := Paging.page id KV_LIST_LIMIT cursor (keysUnder keyPrefix kv)
  (keys, if keys.length < KV_LIST_LIMIT then none else keys.getLast?)

def assignmentKeyPrefix (appId : String) : String := "assignment:" ++ appId ++ ":"

/-- What stands before the first colon behind the prefix is the `idType`. -/
def assignmentRefFromKvKey (key keyPrefix : String) : Except String HoldoverWriteAppEntityRef :=
  let suffix := key.toList.drop keyPrefix.length
  let idType := suffix.takeWhile (· ≠ ':')
  let targetingKeyHash := (suffix.dropWhile (· ≠ ':')).drop 1
  if h : keyPrefix.toList.isPrefixOf key.toList ∧ idType ≠ [] ∧ targetingKeyHash ≠ [] then
    .ok ⟨String.ofList idType, String.ofList targetingKeyHash,
      fun he => h.2.1 (String.ofList_eq_empty_iff.mp he),
      fun he => h.2.2 (String.ofList_eq_empty_iff.mp he)⟩
  else .error ("Invalid Assignment KV key in App reset inventory: " ++ key)

/-! ## 3. The reset -/

/-- How the calls of a reset end.  A call to the inventory, a writer or an outbox that throws ends
the reset, so that only those that are served need an effect. -/
structure ResetFate where
  nowMs : Int
  status : Except String Unit
  list : Option String → Except String Unit
  register : String → Except String Unit
  beginDeletion : Except String Unit
  prepare : PrepareFate
  frozen : Except String Unit
  writer : String → Except String Unit
  writerKv : String → KvFate
  outbox : String → Except String Unit
  markEntityPurged : String → Except String Unit
  verified : Except String Unit
  deleteList : Option String → Except String Unit
  kvDelete : String → Except String Unit

variable (appId : String)

def registerSettledAssignmentWriter (fate : ResetFate) (key : String) : AppM Unit := do
  let ref ← resolve (assignmentRefFromKvKey key (assignmentKeyPrefix appId))
  resolve (fate.register key)
  let result ← atInventory (registerAppInventoryEntity ref)
  if result ≠ .registered then
    throw "App identity reset Assignment inventory froze during winner discovery"

/-- The loop over the listings, for at most `pages` of them. -/
def registerSettledAssignmentWriters (fate : ResetFate) : Nat → Option String → AppM Unit
  | 0, _ => throw "out of listings"
  | pages + 1, cursor => do
    resolve (fate.list cursor)
    let page := kvList (assignmentKeyPrefix appId) cursor (← get).kv
    page.1.forM (registerSettledAssignmentWriter appId fate)
    match page.2 with
    | none => return ()
    | some cursor => registerSettledAssignmentWriters fate pages (some cursor)

def includesVersions (versions expected : List String) : Bool :=
  expected.all fun version => versions.contains version

def resetAssignmentWriter (fate : ResetFate) (destroyedVersions : List String)
    (ref : HoldoverWriteAppEntityRef) : AppM Unit := do
  resolve (fate.writer ref.name)
  let proof ← atWriter appId ref
    (AssignmentStoreWriter.resetApp (ref.entity appId) destroyedVersions (fate.writerKv ref.name))
  if !proof.assignments.isEmpty ||
      !includesVersions proof.fencedIdentityVersions destroyedVersions then
    throw "App identity reset Assignment writer purge returned an invalid proof"

def resetOutbox (fate : ResetFate) (destroyedVersions : List String)
    (ref : HoldoverWriteAppEntityRef) : AppM Unit := do
  resolve (fate.outbox ref.name)
  let proof ← atOutbox ref.name do
    let versions ← HoldoverWriteOutbox.resolve (requireDestroyedIdentityVersions destroyedVersions)
    HoldoverWriteOutbox.resetAppOutboxState versions
  if !proof.jobs.isEmpty || !includesVersions proof.fencedIdentityVersions destroyedVersions then
    throw "App identity reset outbox purge did not durably checkpoint the Entity"

/-- The purge of one Entity. -/
def resetEntity (fate : ResetFate) (destroyedVersions : List String)
    (ref : HoldoverWriteAppEntityRef) : AppM Unit := do
  resetAssignmentWriter appId fate destroyedVersions ref
  resetOutbox fate destroyedVersions ref
  resolve (fate.markEntityPurged ref.name)
  atInventory (markAppInventoryEntityPurged ref)

def kvDelete (fate : ResetFate) (key : String) : AppM Unit := do
  resolve (fate.kvDelete key)
  modify fun world => { world with kv := world.kv.erase key }

/-- Answers how many keys were deleted. -/
def deleteKvPrefix (keyPrefix : String) (fate : ResetFate) : Nat → Option String → AppM Nat
  | 0, _ => throw "out of listings"
  | pages + 1, cursor => do
    resolve (fate.deleteList cursor)
    let page := kvList keyPrefix cursor (← get).kv
    page.1.forM (kvDelete fate)
    match page.2 with
    | none => return page.1.length
    | some cursor => return page.1.length + (← deleteKvPrefix keyPrefix fate pages (some cursor))

structure AppResetSummary where
  kv : Nat
  durableObjects : Nat
  deriving DecidableEq, Repr

def purgeAppIdentityAssignments (resetId : String) (destroyedVersions : List String)
    (fate : ResetFate) (pages : Nat) : AppM AppResetSummary := do
  let resetVersions ← resolve (requireDestroyedIdentityVersions destroyedVersions)
  resolve fate.status
  let status ← atInventory appInventoryStatus
  if isOpenInventory status then registerSettledAssignmentWriters appId fate pages none
  resolve fate.beginDeletion
  let reply ← atInventory (beginDeletion resetId fate.nowMs fate.nowMs fate.prepare)
  if reply.generationId ≠ resetId then throw "begin-deletion returned an invalid payload"
  else do
    resolve fate.frozen
    let frozen ← frozenResetInventory resetId
    frozen.entities.forM (resetEntity appId fate resetVersions)
    resolve fate.verified
    let verified ← frozenResetInventory resetId
    if !verified.entities.isEmpty then
      throw "App identity reset Assignment inventory still contains Entity checkpoint(s)"
    else do
      let deletedKeys ← deleteKvPrefix (assignmentKeyPrefix appId) fate pages none
      return ⟨deletedKeys, 2 * frozen.entities.length⟩

end Splitch
