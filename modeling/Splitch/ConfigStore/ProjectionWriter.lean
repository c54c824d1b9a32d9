/-
# The writer of an Environment's projections

The code that puts the configuration of an Environment to KV: the projection journal and the namespaces
it is put through (`config-store-projection-journal.ts`, `config-store-runtime.ts`), the expiry fence
(`config-store-expiry-fence.ts`), the snapshot revisions (`config-store-snapshot-revision.ts`), the
projections (`config-store-kv.ts`, `config-store-snapshot-write.ts`,
`config-store-snapshot-maintenance.ts`, `config-store-sync.ts`, `config-store-shared.ts`) and the
teardown (`config-store-environment-teardown.ts`).

The statements by which a mutation changes the configuration in D1, before it is projected, are a list:
a statement may end the mutation, and the fence may stand anywhere between two.  The loop over the
pages of the journal has fuel.
-/
import Splitch.ConfigStore.EnvironmentStores

namespace Splitch

namespace ConfigStore

/-! ## 1. Calls -/

/-- One call. -/
def ask (call : Call) : Prog (Answer call) := ExceptT.mk (Calls.perform call)

def getEnvironment : Prog (Option EnvironmentRow) := ask .getEnvironment

def fenceRow (now : Int) : Prog (Option EnvironmentRow) :=
  ask (.fenceEnvironment now)

def author : Prog Bool := ask .author

def loadSnapshot : Prog (Option Snapshot) := ask .loadSnapshot

def getFlagKey : Prog (Option String) := ask .getFlagKey

def replacementExists : Prog Bool := ask .replacementExists

def now : Prog Int := ask .now

def observeAdapter (adapter : Adapter) : Prog Unit := ask (.observe adapter)

/-- `deps.kv`. -/
def currentKv : Prog Adapter := ask .adapter

def readRevision (flagId : String) : Prog (Option Nat × Option SnapshotState) :=
  ask (.readRevision flagId)

def putRevision (revision : Nat) (flagId : String) (state : SnapshotState) : Prog Unit :=
  ask (.putRevision revision flagId state)

/-- `journal.record(key)`. -/
def recordKey (key : String) : Prog Unit := ask (.putJournal key)

def listPage (limit : Nat) (startAfter : Option String) : Prog (List String) :=
  ask (.listJournal limit startAfter)

def getKv (key : String) : Prog (Option KvValue) := ask (.getKv key)

def rawPut (key : String) (entry : KvEntry) : Prog Unit :=
  ask (.putKv key entry)

def deleteKv (key : String) : Prog Unit := ask (.deleteKv key)

def broadcast : Prog Unit := ask .broadcast

def closeSockets : Prog Unit := ask .closeSockets

def deleteAll : Prog Unit := ask .deleteAll

/-! ## 2. The journal and the namespaces -/

def JOURNAL_PAGE_SIZE : Nat := 128

/-- `journal.list()`, with fuel for the pages. -/
def listJournal : Nat → List String → Option String → Prog (List String)
  | 0, _, _ => throw (.error "the listing has not ended")
  | fuel + 1, keys, startAfter => do
    let page ← listPage JOURNAL_PAGE_SIZE startAfter
    if page.length < JOURNAL_PAGE_SIZE then return keys ++ page
    listJournal fuel (keys ++ page) page.getLast?

/-- `kv.put` of a namespace: a journaled one records the key first. -/
def kvPut (kv : Adapter) (key : String) (value : KvValue) (expirationTtl : Option Nat) :
    Prog Unit :=
  match kv with
  | .unresolved => throw (.error "config-store: Environment kind has not been read from D1")
  | .permanent => rawPut key ⟨value, expirationTtl⟩
  | .journaled => do
    recordKey key
    rawPut key ⟨value, expirationTtl⟩

def observeEnvironment (environment : Option EnvironmentRow) : Prog Unit :=
  match environment with
  | none => observeAdapter .unresolved
  | some row => observeAdapter (if row.expiresAt = .never then .permanent else .journaled)

/-! ## 3. The expiry fence -/

def environmentWriteFailure : Prog (Option EnvironmentWriteFailure) := do
  observeEnvironment none
  let environment ← getEnvironment
  match environment with
  | none => return some .notFound
  | some row =>
    match row.expiresAt with
    | .unreadable => throw (.error "config-store: invalid Environment expiry")
    | .never =>
      observeEnvironment (some row)
      return none
    | .time expiresAt =>
      observeEnvironment (some row)
      let time ← now
      if expiresAt ≤ time then return some (.expired expiresAt)
      return none

def requireWritableEnvironment : Prog Unit := do
  let failure ← environmentWriteFailure
  match failure with
  | some failure => throw (.refused failure)
  | none => return ⟨⟩

/-- What a mutation answers. -/
inductive WriteResult
  | ok (snapshotRevision : Option Nat)
  | failure (failure : EnvironmentWriteFailure)
  | flagNotFound
  | segmentNotFound (missingSegmentIds : List String)
  | refused
  deriving DecidableEq, Repr

def catchConfigStoreFailure (operation : Prog WriteResult) : Prog WriteResult :=
  tryCatch operation fun
    | .deletedSnapshot _ => return .flagNotFound
    | .segmentNotFound missingSegmentIds => return .segmentNotFound missingSegmentIds
    | cause => throw cause

def runEnvironmentMutation (operation : Prog WriteResult) : Prog WriteResult :=
  tryCatch
    (do
      let refused ← environmentWriteFailure
      match refused with
      | some failure => return .failure failure
      | none => catchConfigStoreFailure operation)
    fun
      | .refused failure => return .failure failure
      | cause => throw cause

/-! ## 4. Snapshot revisions -/

inductive SnapshotOperation
  | write
  | repair
  | delete
  deriving DecidableEq, Repr

def MAX_SAFE_INTEGER : Nat := 9007199254740991

def nextSnapshotRevision (flagId : String) (operation : SnapshotOperation) : Prog Nat := do
  let (current, state) ← readRevision flagId
  if operation ≠ .delete ∧ state = some .deleted then throw (.deletedSnapshot flagId)
  let revision := current.getD 0
  if MAX_SAFE_INTEGER ≤ revision then
    throw (.error "config-store: invalid snapshot revision state")
  let next := revision + 1
  putRevision next flagId (if operation = .delete then .deleted else .present)
  return next

/-! ## 5. Projections -/

section Projections

variable (sortBindings : List ActivationBinding → List ActivationBinding) (scope : EnvScope)

def updateActivationConfig (kv : Adapter) (replacedExperimentIds : List String)
    (published : List ActivationBinding) : Prog Unit := do
  let raw ← getKv scope.activationConfigKey
  let current ← match raw with
    | none => pure []
    | some (.activationConfig bindings) => pure bindings
    | some _ => throw (.error "the activation configuration is malformed")
  let kept := current.filter (·.experimentId ∉ replacedExperimentIds)
  kvPut kv scope.activationConfigKey (.activationConfig (sortBindings (kept ++ published))) none

def putExperiment (kv : Adapter) : Option String → Prog Unit
  | none => return ⟨⟩
  | some experimentId =>
    kvPut kv (scope.experimentConfigKey experimentId) (.experimentConfig experimentId) none

/-- The Run of a snapshot, or the removal of the pointer to one. -/
def putRun (kv : Adapter) (snapshot : Snapshot) : Prog Unit :=
  match snapshot.run, snapshot.experimentId with
  | some (runId, experimentId), _ => do
    kvPut kv (scope.runConfigKey runId) (.runConfig runId) none
    kvPut kv (scope.liveRunKey experimentId) (.liveRun runId) none
  | none, some experimentId => deleteKv (scope.liveRunKey experimentId)
  | none, none => return ⟨⟩

def putActivation (kv : Adapter) (snapshot : Snapshot) : Prog Unit :=
  match snapshot.experimentId with
  | none => return ⟨⟩
  | some experimentId =>
    updateActivationConfig sortBindings scope kv [experimentId] snapshot.activationBindings

def writeSnapshot (kv : Adapter) (snapshot : Snapshot) (revision : Nat) : Prog Unit := do
  kvPut kv (scope.controlPlaneFlagConfigKey snapshot.flagId)
    (.controlPlaneFlagConfig snapshot.flagId revision false) none
  kvPut kv (scope.flagConfigKey snapshot.flagKey) (.flagConfig snapshot.flagId) none
  putExperiment scope kv snapshot.experimentId
  putRun scope kv snapshot
  putActivation sortBindings scope kv snapshot

def DELETED_SNAPSHOT_EXPIRATION_TTL_SECONDS : Nat := 62

def deleteFlagConfigSnapshot (kv : Adapter) (flagId : String) (revision : Option Nat)
    (flagKey : String) (experimentIds : List String) (deleteEvaluationSnapshot : Bool) :
    Prog Unit := do
  match revision with
  | none => deleteKv (scope.controlPlaneFlagConfigKey flagId)
  | some revision =>
    kvPut kv (scope.controlPlaneFlagConfigKey flagId)
      (.controlPlaneFlagConfig flagId revision true) (some DELETED_SNAPSHOT_EXPIRATION_TTL_SECONDS)
  if deleteEvaluationSnapshot then deleteKv (scope.flagConfigKey flagKey)
  experimentIds.forM fun experimentId => do
    deleteKv (scope.experimentConfigKey experimentId)
    deleteKv (scope.liveRunKey experimentId)
  match revision with
  | none => deleteKv scope.activationConfigKey
  | some _ => updateActivationConfig sortBindings scope kv experimentIds []

/-- A step of a mutation before it is projected: a statement, or the fence before one. -/
inductive AuthoringStep
  | statement
  | fence
  deriving DecidableEq, Repr

/-- Whether the mutation goes on to its projection. -/
def authoring : List AuthoringStep → Prog Bool
  | [] => return true
  | .fence :: steps => do
    requireWritableEnvironment
    authoring steps
  | .statement :: steps => do
    let goesOn ← author
    if goesOn then authoring steps else return false

def writeLoadedSnapshot : Prog WriteResult := do
  let refused ← environmentWriteFailure
  match refused with
  | some failure => return .failure failure
  | none =>
    let loaded ← loadSnapshot
    match loaded with
    | none => return .flagNotFound
    | some snapshot =>
      let revision ← nextSnapshotRevision snapshot.flagId .write
      let expired ← environmentWriteFailure
      match expired with
      | some failure => return .failure failure
      | none =>
        let kv ← currentKv
        writeSnapshot sortBindings scope kv snapshot revision
        broadcast
        return .ok (some revision)

/-- A mutation of the configuration, which may remove the activation bindings before it is projected
(as a sync does). -/
def mutateFlagConfig (steps : List AuthoringStep) (removesActivation : Bool) : Prog WriteResult :=
  runEnvironmentMutation do
    let goesOn ← authoring steps
    if goesOn then
      if removesActivation then deleteKv scope.activationConfigKey
      writeLoadedSnapshot sortBindings scope
    else return .refused

/-- A preview of a mutation. -/
def previewFlagConfig (steps : List AuthoringStep) : Prog WriteResult :=
  runEnvironmentMutation do
    let goesOn ← authoring steps
    return if goesOn then .ok none else .refused

def repairFlagConfigSnapshot (flagId : String) : Prog WriteResult :=
  runEnvironmentMutation do
    let loaded ← loadSnapshot
    match loaded with
    | none => return .flagNotFound
    | some snapshot =>
      let revision ← nextSnapshotRevision flagId .repair
      let refused ← environmentWriteFailure
      match refused with
      | some failure => return .failure failure
      | none =>
        let kv ← currentKv
        writeSnapshot sortBindings scope kv snapshot revision
        return .ok (some revision)

/-- What a read does in the queue of the writer when it has missed KV. -/
def repairOnRead (flagId : String) : Prog WriteResult := do
  let refused ← environmentWriteFailure
  match refused with
  | some _ => return .ok none
  | none =>
    let loaded ← loadSnapshot
    match loaded with
    | none => return .flagNotFound
    | some snapshot =>
      let refused ← environmentWriteFailure
      match refused with
      | some _ => return .ok none
      | none =>
        let kv ← currentKv
        let revision ← nextSnapshotRevision flagId .repair
        writeSnapshot sortBindings scope kv snapshot revision
        return .ok none

def deleteFlagConfigFromStore (flagId : String) (flagKey : Option String)
    (experimentIds : List String) : Prog WriteResult := do
  let flag ← match flagKey with
    | some key => pure (some key)
    | none => getFlagKey
  match flag with
  | none => return .flagNotFound
  | some key =>
    let existing ← loadSnapshot
    if existing.isSome then
      throw (.error ("config-store: refusing to delete a snapshot while Flag Configuration " ++
        flagId ++ " exists in D1"))
    let refused ← environmentWriteFailure
    let revision ← match refused with
      | some _ => pure none
      | none => some <$> nextSnapshotRevision flagId .delete
    let replaced ← replacementExists
    let kv ← currentKv
    deleteFlagConfigSnapshot sortBindings scope kv flagId revision key experimentIds (! replaced)
    broadcast
    return .ok revision

end Projections

/-! ## 6. The fence and the teardown of a Temporary Environment -/

/-- Whether the Environment was found. -/
def fenceTemporaryEnvironment (now : Int) : Prog Bool := do
  let row ← fenceRow now
  match row with
  | none => return false
  | some row =>
    if row.expiresAt = .never then
      throw (.error "config-store: cannot fence a permanent Environment")
    return true

def clearEnvironmentState : Prog Unit := do
  closeSockets
  deleteAll

def teardownTemporaryEnvironmentState (fuel : Nat) : Prog Unit := do
  let environment ← getEnvironment
  match environment with
  | none => return ⟨⟩
  | some row =>
    let time ← now
    let expired := match row.expiresAt with
      | .time expiresAt => decide (expiresAt ≤ time)
      | _ => false
    if expired = false then
      throw (.error "config-store: teardown requires an expired Temporary Environment")
    let keys ← listJournal fuel [] none
    keys.forM deleteKv
    clearEnvironmentState

/-! ## 7. The writer -/

/-- The jobs of the writer's queue. -/
inductive Job
  | mutate (steps : List AuthoringStep) (removesActivation : Bool)
  | preview (steps : List AuthoringStep)
  | repair (flagId : String)
  | repairOnRead (flagId : String)
  | delete (flagId : String) (flagKey : Option String) (experimentIds : List String)
  | fence (number : Nat) (now : Int)
  | teardown (number : Nat) (fuel : Nat)

/-- What a job answers its caller. -/
inductive JobResult
  | write (result : WriteResult)
  | found (found : Bool)
  | tornDown
  deriving DecidableEq, Repr

def program (sortBindings : List ActivationBinding → List ActivationBinding) (scope : EnvScope) :
    Job → Calls Call Reply (Except Fault JobResult)
  | .mutate steps removesActivation =>
    (.write <$> mutateFlagConfig sortBindings scope steps removesActivation : Prog JobResult)
  | .preview steps => (.write <$> previewFlagConfig steps : Prog JobResult)
  | .repair flagId => (.write <$> repairFlagConfigSnapshot sortBindings scope flagId : Prog JobResult)
  | .repairOnRead flagId => (.write <$> repairOnRead sortBindings scope flagId : Prog JobResult)
  | .delete flagId flagKey experimentIds =>
    (.write <$> deleteFlagConfigFromStore sortBindings scope flagId flagKey experimentIds :
      Prog JobResult)
  | .fence _ now => (.found <$> fenceTemporaryEnvironment now : Prog JobResult)
  | .teardown _ fuel =>
    ((fun _ => .tornDown) <$> teardownTemporaryEnvironmentState fuel : Prog JobResult)

/-- When a job may start: the fence and the teardown are called by an attempt at that stage. -/
def Starts (w : World) : Job → World → Prop
  | .fence number now, w' =>
    w.attempts number = some (.fencing now) ∧ w' = w.setStage number .awaitsFence
  | .teardown number _, w' =>
    w.attempts number = some .tearing ∧ w' = w.setStage number .awaitsTeardown
  | _, w' => w' = w

/-- What an attempt does with the answer of its call. -/
def settle (job : Job) (result : Except Fault JobResult) (w : World) : World :=
  match job, result with
  | .fence number _, .ok (.found true) =>
    if w.attempts number = some .awaitsFence then w.setStage number .credentials else w
  | .fence number _, .ok (.found false) =>
    if w.attempts number = some .awaitsFence then w.setStage number .exposures else w
  | .teardown number _, .ok .tornDown =>
    let w := { w with tornDown := true }
    if w.attempts number = some .awaitsTeardown then w.setStage number .exposures else w
  | _, _ => w

/-- What the memory of the object is after it has stopped. -/
def restart (w : World) : World := { w with adapter := .unresolved }

def server (sortBindings : List ActivationBinding → List ActivationBinding) (scope : EnvScope) :
    Hosts.Server World Call Job (Except Fault JobResult) Reply where
  toHost := host
  starts := Starts
  program := program sortBindings scope
  settle := settle
  restart := restart

end ConfigStore

end Splitch
