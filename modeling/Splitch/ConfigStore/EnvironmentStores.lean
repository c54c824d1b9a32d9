/-
# The stores of an Environment's configuration

What the writer of one Environment works on: the row of the Environment in D1
(`temporary-environments.ts`), the KV namespace that its projections are put to, and the storage of its
Durable Object with the projection journal and the snapshot revisions.  Each call to them may fail, with
or without its effect; a read of KV may answer anything, and so may D1 about Flags and Experiments.

The keys of the journal are kept without their common prefix, which does not change their order.  The
clock is that of the Durable Object and never goes back; times are numbers.
-/
import Splitch.Library.Hosts
import Splitch.Library.Paging

namespace Splitch

namespace ConfigStore

/-! ## 1. Rows, values and keys -/

/-- `expires_at` of an Environment: null in a permanent one, or a text that is a time or not. -/
inductive Expiry
  | never
  | unreadable
  | time (expiresAt : Int)
  deriving DecidableEq, Repr

/-- The row of the Environment. -/
structure EnvironmentRow where
  expiresAt : Expiry
  deriving DecidableEq, Repr

structure EnvScope where
  appId : String
  environmentId : String
  deriving DecidableEq, Repr

structure ActivationBinding where
  experimentId : String
  runId : String
  deriving DecidableEq, Repr

/-- What a projection puts under a key. -/
inductive KvValue
  | controlPlaneFlagConfig (flagId : String) (revision : Nat) (deleted : Bool)
  | flagConfig (flagId : String)
  | experimentConfig (experimentId : String)
  | runConfig (runId : String)
  | liveRun (runId : String)
  | activationConfig (bindings : List ActivationBinding)
  deriving DecidableEq, Repr

structure KvEntry where
  value : KvValue
  expirationTtl : Option Nat
  deriving DecidableEq, Repr

namespace EnvScope

variable (scope : EnvScope)

def key (kind : String) : String := "app:" ++ scope.appId ++ ":" ++ scope.environmentId ++ ":" ++ kind

def flagConfigKey (flagKey : String) : String := scope.key ("flag:" ++ flagKey)

def controlPlaneFlagConfigKey (flagId : String) : String :=
  scope.key ("control-plane-flag-config:" ++ flagId)

def runConfigKey (runId : String) : String := scope.key ("run:" ++ runId)

def experimentConfigKey (experimentId : String) : String :=
  scope.key ("experiment:" ++ experimentId)

def activationConfigKey : String := scope.key "activation-config"

def liveRunKey (experimentId : String) : String :=
  "live_run:" ++ scope.appId ++ ":" ++ scope.environmentId ++ ":" ++ experimentId

end EnvScope

/-- What is read of a Flag and its Experiment to be projected. -/
structure Snapshot where
  flagId : String
  flagKey : String
  experimentId : Option String
  run : Option (String × String)
  activationBindings : List ActivationBinding
  deriving DecidableEq, Repr

/-! ## 2. The state -/

/-- Which namespace a put of the writer goes to. -/
inductive Adapter
  | unresolved
  | permanent
  | journaled
  deriving DecidableEq, Repr

inductive SnapshotState
  | present
  | deleted
  deriving DecidableEq, Repr

/-- The storage of the Durable Object. -/
structure ObjectStorage where
  journal : Finset String
  revision : Option Nat
  states : String → Option SnapshotState

def ObjectStorage.empty : ObjectStorage := ⟨∅, none, fun _ => none⟩

/-- How far an attempt to tear the Environment down has come. -/
inductive TeardownStage
  | fencing (now : Int)
  | awaitsFence
  | credentials
  | tearing
  | awaitsTeardown
  | exposures
  | deleting
  | over
  deriving DecidableEq, Repr

structure World where
  row : Option EnvironmentRow
  clock : Int
  kv : String → Option KvEntry
  storage : ObjectStorage
  /-- `runtime.kv`, in the memory of the object. -/
  adapter : Adapter
  attempts : Nat → Option TeardownStage
  /-- Whether the state of the Environment has ever been cleared. -/
  cleared : Bool
  /-- Whether a teardown of the state has ever completed. -/
  tornDown : Bool

namespace World

/-- The key has an entry in the journal. -/
def Journaled (w : World) (key : String) : Prop := key ∈ w.storage.journal

def putKv (w : World) (key : String) (entry : KvEntry) : World :=
  { w with kv := Function.update w.kv key (some entry) }

def deleteKv (w : World) (key : String) : World :=
  { w with kv := Function.update w.kv key none }

def record (w : World) (key : String) : World :=
  { w with storage := { w.storage with journal := insert key w.storage.journal } }

def putRevision (w : World) (revision : Nat) (flagId : String) (state : SnapshotState) : World :=
  { w with storage :=
      { w.storage with
        revision := some revision
        states := Function.update w.storage.states flagId (some state) } }

def setStage (w : World) (number : Nat) (stage : TeardownStage) : World :=
  { w with attempts := Function.update w.attempts number (some stage) }

theorem putKv_kv (w : World) (key : String) (entry : KvEntry) :
    (w.putKv key entry).kv = Function.update w.kv key (some entry) := rfl

theorem deleteKv_kv (w : World) (key : String) :
    (w.deleteKv key).kv = Function.update w.kv key none := rfl

theorem setStage_attempts (w : World) (number : Nat) (stage : TeardownStage) :
    (w.setStage number stage).attempts = Function.update w.attempts number (some stage) := rfl

end World

/-- `expires_at` after the fence: no later than now. -/
inductive Fenced (now : Int) : Expiry → Expiry → Prop
  | never : Fenced now .never .never
  | time (expiresAt : Int) : Fenced now (.time expiresAt) (.time (min expiresAt now))
  | kept : Fenced now .unreadable .unreadable
  | replaced : Fenced now .unreadable (.time now)

/-! ## 3. Calls -/

inductive EnvironmentWriteFailure
  | expired (expiredAt : Int)
  | notFound
  deriving DecidableEq, Repr

/-- What the code throws, or a call it awaits. -/
inductive Fault
  | refused (failure : EnvironmentWriteFailure)
  | deletedSnapshot (flagId : String)
  | segmentNotFound (missingSegmentIds : List String)
  | error (message : String)
  deriving DecidableEq, Repr

inductive Call
  | getEnvironment
  | fenceEnvironment (now : Int)
  /-- A statement on the configuration of Flags: whether the mutation goes on. -/
  | author
  | loadSnapshot
  | getFlagKey
  | replacementExists
  | now
  | observe (adapter : Adapter)
  | adapter
  | readRevision (flagId : String)
  | putRevision (revision : Nat) (flagId : String) (state : SnapshotState)
  | putJournal (key : String)
  | listJournal (limit : Nat) (startAfter : Option String)
  | getKv (key : String)
  | putKv (key : String) (entry : KvEntry)
  | deleteKv (key : String)
  | broadcast
  | closeSockets
  | deleteAll
  deriving DecidableEq

/-- What a call answers when it does not fail. -/
def Answer : Call → Type
  | .getEnvironment => Option EnvironmentRow
  | .fenceEnvironment _ => Option EnvironmentRow
  | .author => Bool
  | .loadSnapshot => Option Snapshot
  | .getFlagKey => Option String
  | .replacementExists => Bool
  | .now => Int
  | .observe _ => Unit
  | .adapter => Adapter
  | .readRevision _ => Option Nat × Option SnapshotState
  | .putRevision _ _ _ => Unit
  | .putJournal _ => Unit
  | .listJournal _ _ => List String
  | .getKv _ => Option KvValue
  | .putKv _ _ => Unit
  | .deleteKv _ => Unit
  | .broadcast => Unit
  | .closeSockets => Unit
  | .deleteAll => Unit

abbrev Reply (call : Call) : Type := Except Fault (Answer call)

/-- A write: done when it answers, and done or not when it fails. -/
def Writes (w after : World) : Except Fault Unit → World → Prop
  | .ok _, w' => w' = after
  | .error _, w' => w' = w ∨ w' = after

/-- The statement of the fence: no row, or a row that expires no later than now. -/
def Fences (now : Int) (w w' : World) : Prop :=
  (w.row = none ∧ w' = w) ∨ ∃ row expiresAt, w.row = some row ∧
    Fenced now row.expiresAt expiresAt ∧ w' = { w with row := some ⟨expiresAt⟩ }

/-- The journal, in the order of its keys. -/
def World.journalKeys (w : World) : List String := w.storage.journal.sort (· ≤ ·)

/-- The page of the journal that a listing answers. -/
def journalPage (w : World) (limit : Nat) (startAfter : Option String) : List String :=
  Paging.page id limit startAfter (w.storage.journal.sort (· ≤ ·))

/-- What is left of a storage when its removal was interrupted. -/
def ObjectStorage.PartOf (rest storage : ObjectStorage) : Prop := rest.journal ⊆ storage.journal

def answers (w : World) : (call : Call) → Reply call → World → Prop
  | .getEnvironment, reply, w' => w' = w ∧ ∀ row, reply = .ok row → row = w.row
  | .fenceEnvironment now, reply, w' => match reply with
    | .ok row => Fences now w w' ∧ row = w'.row
    | .error _ => w' = w ∨ Fences now w w'
  | .now, reply, w' => w' = w ∧ reply = .ok w.clock
  | .observe adapter, reply, w' => w' = { w with adapter } ∧ reply = .ok ⟨⟩
  | .adapter, reply, w' => w' = w ∧ reply = .ok w.adapter
  | .readRevision flagId, reply, w' =>
    w' = w ∧ ∀ read, reply = .ok read → read = (w.storage.revision, w.storage.states flagId)
  | .putRevision revision flagId state, reply, w' =>
    Writes w (w.putRevision revision flagId state) reply w'
  | .putJournal key, reply, w' => Writes w (w.record key) reply w'
  | .listJournal limit startAfter, reply, w' =>
    w' = w ∧ ∀ page, reply = .ok page → page = journalPage w limit startAfter
  | .putKv key entry, reply, w' => Writes w (w.putKv key entry) reply w'
  | .deleteKv key, reply, w' => Writes w (w.deleteKv key) reply w'
  | .deleteAll, reply, w' => match reply with
    | .ok _ => w' = { w with storage := .empty, cleared := true }
    | .error _ => ∃ rest : ObjectStorage, rest.PartOf w.storage ∧
        w' = { w with storage := rest, cleared := true }
  -- the others answer anything and change nothing
  | .author, _, w' => w' = w
  | .loadSnapshot, _, w' => w' = w
  | .getFlagKey, _, w' => w' = w
  | .replacementExists, _, w' => w' = w
  | .getKv _, _, w' => w' = w
  | .broadcast, _, w' => w' = w
  | .closeSockets, _, w' => w' = w

/-! ## 4. What happens elsewhere

Time passes, entries of KV lapse, and attempts to tear the Environment down do what is not done by the
writer: they read its row, delete credentials and Exposure statuses, and last delete the row. -/

inductive Elsewhere : World → World → Prop
  | tick (w : World) (by' : Nat) : Elsewhere w { w with clock := w.clock + by' }
  | lapse (w : World) (key : String) (entry : KvEntry) (hentry : w.kv key = some entry)
      (httl : entry.expirationTtl.isSome = true) : Elsewhere w (w.deleteKv key)
  | begin (w : World) (number : Nat) (now : Int) (hnew : w.attempts number = none) :
      Elsewhere w (w.setStage number (match w.row with
        | none => .exposures
        | some row => if row.expiresAt = .never then .over else .fencing now))
  | credentials (w : World) (number : Nat) (hstage : w.attempts number = some .credentials) :
      Elsewhere w (w.setStage number .tearing)
  | exposures (w : World) (number : Nat) (hstage : w.attempts number = some .exposures) :
      Elsewhere w (w.setStage number .deleting)
  | delete (w : World) (number : Nat) (hstage : w.attempts number = some .deleting) :
      Elsewhere w ({ w with row := none }.setStage number .over)
  | abandon (w : World) (number : Nat) (stage : TeardownStage)
      (hstage : w.attempts number = some stage) : Elsewhere w (w.setStage number .over)

def host : Hosts.Host World Call Reply where
  answers := answers
  elsewhere := Elsewhere

/-- Code of the writer. -/
abbrev Prog (α : Type) := ExceptT Fault (Calls Call Reply) α

end ConfigStore

end Splitch
