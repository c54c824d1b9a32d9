/-
# The compromised-key reset of an App

`resetCompromisedAppIdentity` (`app-identity-reset.ts`) over the store of the identity records
(`app-identity-store.ts`), and the provisioning of an App.

The workflow runs alone on its App (`runExclusive`), so that one call of it is one event.  Each of
its awaited calls takes the next fate of the event: a save may fail with or without having written,
a purger or releaser may fail, and where the fates end the process has stopped.

The log holds what was called and what was written; nothing of the code reads it.
-/
import Splitch.Library.Runs
import Splitch.Library.StateActions
import Splitch.Identity.AppIdentityRecord

namespace Splitch

/-! ## 1. The owner of the record -/

structure AppIdentityResetPurgerInput where
  appId : String
  currentVersion : String
  destroyedVersions : List String
  deriving DecidableEq, Repr

inductive IdentityEntry
  | saved (record : AppIdentityRecord)
  | purger (store : AppIdentityResetStore) (input : AppIdentityResetPurgerInput)
      (proof : Option String)
  | releaser (release : AppIdentityResetRelease) (record : AppIdentityRecord)
      (proof : Option String)
  deriving DecidableEq

structure IdentityOwner where
  stored : Option AppIdentityRecord
  log : List IdentityEntry
  deriving DecidableEq

/-- What becomes of an awaited call. -/
inductive IdentityCallFate
  | answers (text : String)
  | fails
  /-- A save writes and fails all the same. -/
  | writesAndFails
  deriving DecidableEq, Repr

structure ResetCalls where
  owner : IdentityOwner
  fates : List IdentityCallFate

namespace IdentityOwner

def write (owner : IdentityOwner) (record : AppIdentityRecord) : IdentityOwner where
  stored := some record
  log := owner.log ++ [.saved record]

def note (owner : IdentityOwner) (entry : IdentityEntry) : IdentityOwner :=
  { owner with log := owner.log ++ [entry] }

end IdentityOwner

inductive ResetSerialization
  | durable
  | test
  | processLocal
  deriving DecidableEq, Repr

/-- The random 32 bytes of `generateAppIdentityKey`. -/
abbrev GeneratedKey := { key : List UInt8 // key.length = 32 }

namespace AppIdentityReset

abbrev ResetM := ExceptT String (StateM ResetCalls)

def resolve {α : Type} (answer : Except String α) : ResetM α := ExceptT.mk (pure answer)

def modifyOwner (f : IdentityOwner → IdentityOwner) : ResetM Unit :=
  modify fun world => { world with owner := f world.owner }

/-- The fate of the next awaited call; behind the last one the process has stopped. -/
def nextFate : ResetM IdentityCallFate := do
  match (← get).fates with
  | [] => throw "the process stopped"
  | fate :: fates =>
    modify fun world => { world with fates }
    return fate

/-! ## 2. The store -/

def load : ResetM (Option AppIdentityRecord) := do
  match ← nextFate with
  | .answers _ => return (← get).owner.stored
  | _ => throw "load failed"

def save (record : AppIdentityRecord) : ResetM Unit := do
  let canonical ← resolve (assertCanonicalAppIdentityRecord record)
  match ← nextFate with
  | .answers _ => modifyOwner (·.write canonical)
  | .fails => throw "save failed"
  | .writesAndFails =>
    modifyOwner (·.write canonical)
    throw "save failed"

def requireAppIdentityRecord : ResetM AppIdentityRecord := do
  match ← load with
  | none => throw "privacy: App identity is unprovisioned"
  | some loaded => resolve (assertCanonicalAppIdentityRecord loaded)

/-- `load`, and where there is no record `putIfAbsent` of an initial one. -/
def provisionAppIdentity (rootSecret : List UInt8) (generated : GeneratedKey) :
    ResetM AppIdentityRecord := do
  match ← load with
  | some existing => resolve (assertCanonicalAppIdentityRecord existing)
  | none =>
    let record ← resolve (mintInitialAppIdentityRecord rootSecret generated)
    save record
    return record

/-! ## 3. The workflow -/

/-- A purger or a releaser: its proof, unless it fails. -/
def proofOf (entry : Option String → IdentityEntry) : ResetM String := do
  match ← nextFate with
  | .answers proof =>
    modifyOwner (·.note (entry (some proof)))
    return proof
  | _ =>
    modifyOwner (·.note (entry none))
    throw "the call failed"

def purgePendingStores (appId : String) (destroyedVersions : List String) :
    List AppIdentityResetStore → AppIdentityRecord → ResetM AppIdentityRecord
  | [], current => return current
  | surface :: surfaces, current =>
    if (current.lifecycle.proofs surface).isSome then
      purgePendingStores appId destroyedVersions surfaces current
    else do
      let proof ← proofOf (.purger surface
        { appId, currentVersion := current.currentVersion, destroyedVersions })
      let lifecycle ← resolve (withAppIdentityResetProof current.lifecycle surface proof)
      save { current with lifecycle }
      purgePendingStores appId destroyedVersions surfaces { current with lifecycle }

def releasePendingSinks :
    List AppIdentityResetRelease → AppIdentityRecord → ResetM AppIdentityRecord
  | [], current => return current
  | release :: releases, current =>
    if (current.lifecycle.releaseProofs release).isSome then
      releasePendingSinks releases current
    else do
      let proof ← proofOf (.releaser release current)
      let lifecycle ← resolve (withAppIdentityResetReleaseProof current.lifecycle release proof)
      save { current with lifecycle }
      releasePendingSinks releases { current with lifecycle }

/-- The record behind the purges: one new epoch, waiting for its releases. -/
def activationPending (current : AppIdentityRecord) (generated : GeneratedKey) :
    Except String AppIdentityRecord := do
  assertAppIdentityResetProved current.lifecycle
  let nextVersion ← nextAppIdentityVersion current.currentVersion
  let lifecycle ← activationPendingAppIdentityLifecycle current.lifecycle
  return {
    currentVersion := nextVersion
    lifecycle
    epochs := [{ version := nextVersion, role := .active, key := generated }] }

/-- The record of a reset that is under way: a new one blocks the traffic first. -/
def startReset (resetId : String) (current : AppIdentityRecord) : ResetM AppIdentityRecord := do
  if current.lifecycle.state = .active then
    let lifecycle ← resolve (blockedAppIdentityLifecycle resetId)
    save { current with lifecycle }
    return { current with lifecycle }
  else if current.lifecycle.resetId ≠ some resetId then
    throw "privacy: a different App identity reset is already running"
  else return current

def purgeAndReplace (appId : String) (generated : GeneratedKey) (current : AppIdentityRecord) :
    ResetM AppIdentityRecord := do
  if current.lifecycle.state = .activation_pending then return current
  -- `[...new Set(...)]` keeps the first of equal versions.
  let purged ← purgePendingStores appId current.versions.eraseDups APP_IDENTITY_RESET_STORES current
  let replaced ← resolve (activationPending purged generated)
  save replaced
  return replaced

def runReset (appId resetId : String) (generated : GeneratedKey) : ResetM AppIdentityRecord := do
  let loaded ← requireAppIdentityRecord
  if loaded.lifecycle.state = .active ∧ loaded.lifecycle.resetId = some resetId then return loaded
  let started ← startReset resetId loaded
  let replaced ← purgeAndReplace appId generated started
  let released ← releasePendingSinks APP_IDENTITY_RESET_RELEASES replaced
  let lifecycle ← resolve (activeAppIdentityLifecycle released.lifecycle)
  save { released with lifecycle }
  return { released with lifecycle }

def resetCompromisedAppIdentity (serialization : ResetSerialization) (appId resetId : String)
    (generated : GeneratedKey) : ResetM AppIdentityRecord := do
  if serialization = .processLocal then
    throw "privacy: compromised App identity reset requires a durable serialized owner"
  runReset appId resetId generated

end AppIdentityReset

/-! ## 4. Histories of an App -/

inductive IdentityEvent
  | provision (rootSecret : List UInt8) (generated : GeneratedKey) (fates : List IdentityCallFate)
  | reset (resetId : String) (generated : GeneratedKey) (fates : List IdentityCallFate)
  deriving DecidableEq

namespace IdentityOwner

def run (owner : IdentityOwner) (fates : List IdentityCallFate)
    (action : AppIdentityReset.ResetM AppIdentityRecord) :
    Except String AppIdentityRecord × IdentityOwner :=
  let (answer, world) := action { owner, fates }
  (answer, world.owner)

def step (serialization : ResetSerialization) (appId : String) (owner : IdentityOwner) :
    IdentityEvent → Except String AppIdentityRecord × IdentityOwner
  | .provision rootSecret generated fates =>
    owner.run fates (AppIdentityReset.provisionAppIdentity rootSecret generated)
  | .reset resetId generated fates =>
    owner.run fates
      (AppIdentityReset.resetCompromisedAppIdentity serialization appId resetId generated)

end IdentityOwner

/-- One App, from before it is provisioned. -/
def appIdentity (serialization : ResetSerialization) (appId : String) :
    Machine IdentityOwner IdentityEvent (Except String AppIdentityRecord) where
  init := { stored := none, log := [] }
  step := IdentityOwner.step serialization appId

end Splitch
