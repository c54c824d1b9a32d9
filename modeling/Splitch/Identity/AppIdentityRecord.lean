/-
# The identity record of an App

Key versions (`app-identity-key.ts`), the lifecycle of a compromised-key reset
(`app-identity-lifecycle.ts`) and the record with its canonical form (`app-identity-record.ts`).

A `Record` over stores or sinks is a function on them.  A version number is a natural number; the
source's `Number` agrees with it below `2 ^ 53`.  The JSON of a record and the wrapping of its keys
are left out: what is saved is what is loaded.
-/
import Splitch.Library.Checks
import Splitch.Library.TrimmedText

namespace Splitch

open Checks TrimmedText

/-! ## 1. Key versions -/

def INITIAL_APP_IDENTITY_KEY_VERSION : String := "app-v1"

def HISTORICAL_SHARED_ROOT_KEY_VERSIONS : List String := ["local-v1", "v1"]

/-- Numeric suffix of `app-vN`, or `none` when the label is not an App epoch. -/
def appIdentityVersionNumber (version : String) : Option Nat :=
  match version.toList with
  | 'a' :: 'p' :: 'p' :: '-' :: 'v' :: digits =>
    if digits ≠ [] ∧ digits.all Char.isDigit then some (Nat.ofDigitChars 10 digits 0) else none
  | _ => none

def isAppIdentityKeyVersion (version : String) : Bool :=
  (appIdentityVersionNumber version).isSome

/-- `app-vN`. -/
def appIdentityVersion (number : Nat) : String := "app-v" ++ toString number

def nextAppIdentityVersion (current : String) : Except String String :=
  match appIdentityVersionNumber current with
  | none => .error ("privacy: cannot advance non-app identity version " ++ current)
  | some number => .ok (appIdentityVersion (number + 1))

/-- **Round trip**: the label of a number is read back as that number. -/
theorem appIdentityVersionNumber_label (number : Nat) :
    appIdentityVersionNumber (appIdentityVersion number) = some number := by
  have hlabel : (appIdentityVersion number).toList =
      'a' :: 'p' :: 'p' :: '-' :: 'v' :: Nat.toDigits 10 number := by
    simp [appIdentityVersion, Nat.repr]
  have hdigits : (Nat.toDigits 10 number).all Char.isDigit := by
    rw [List.all_eq_true]
    exact fun c hc => Nat.isDigit_of_mem_toDigits (by decide) (by decide) hc
  simp only [appIdentityVersionNumber, hlabel]
  rw [if_pos ⟨Nat.toDigits_ne_nil, hdigits⟩, Nat.ofDigitChars_ten_toDigits]

/-! ## 2. Lifecycle -/

inductive AppIdentityResetStore
  | runs_and_credentials
  | delivery
  | assignments
  | analytics
  | retry_claims
  | entity_deletions
  | privacy_subject_refs
  deriving DecidableEq, Repr

open AppIdentityResetStore in
def APP_IDENTITY_RESET_STORES : List AppIdentityResetStore :=
  [runs_and_credentials, delivery, assignments, analytics, retry_claims, entity_deletions,
    privacy_subject_refs]

def AppIdentityResetStore.name : AppIdentityResetStore → String
  | runs_and_credentials => "runs_and_credentials"
  | delivery => "delivery"
  | assignments => "assignments"
  | analytics => "analytics"
  | retry_claims => "retry_claims"
  | entity_deletions => "entity_deletions"
  | privacy_subject_refs => "privacy_subject_refs"

inductive AppIdentityResetRelease
  | evaluation
  | event_ingest
  deriving DecidableEq, Repr

def APP_IDENTITY_RESET_RELEASES : List AppIdentityResetRelease := [.evaluation, .event_ingest]

def AppIdentityResetRelease.name : AppIdentityResetRelease → String
  | evaluation => "evaluation"
  | event_ingest => "event_ingest"

theorem mem_APP_IDENTITY_RESET_STORES (store : AppIdentityResetStore) :
    store ∈ APP_IDENTITY_RESET_STORES := by
  cases store <;> decide

theorem mem_APP_IDENTITY_RESET_RELEASES (release : AppIdentityResetRelease) :
    release ∈ APP_IDENTITY_RESET_RELEASES := by
  cases release <;> decide

instance : Fintype AppIdentityResetStore where
  elems := ⟨APP_IDENTITY_RESET_STORES, by decide⟩
  complete := mem_APP_IDENTITY_RESET_STORES

instance : Fintype AppIdentityResetRelease where
  elems := ⟨APP_IDENTITY_RESET_RELEASES, by decide⟩
  complete := mem_APP_IDENTITY_RESET_RELEASES

inductive AppIdentityLifecycleState
  | active
  | blocked
  | purging
  | activation_pending
  deriving DecidableEq, Repr

structure AppIdentityLifecycle where
  state : AppIdentityLifecycleState
  trafficBlocked : Bool
  resetId : Option String
  proofs : AppIdentityResetStore → Option String
  releaseProofs : AppIdentityResetRelease → Option String
  deriving DecidableEq

def ACTIVE_APP_IDENTITY_LIFECYCLE : AppIdentityLifecycle where
  state := .active
  trafficBlocked := false
  resetId := none
  proofs := fun _ => none
  releaseProofs := fun _ => none

/-- `text.trim().length === 0`. -/
def isBlank (text : String) : Bool := text.toList.all isTrimmed

def blockedAppIdentityLifecycle (resetId : String) : Except String AppIdentityLifecycle :=
  if isBlank resetId then .error "privacy: App identity resetId is empty"
  else .ok
    { state := .blocked
      trafficBlocked := true
      resetId := some resetId
      proofs := fun _ => none
      releaseProofs := fun _ => none }

def withAppIdentityResetProof (lifecycle : AppIdentityLifecycle) (store : AppIdentityResetStore)
    (proof : String) : Except String AppIdentityLifecycle :=
  if ¬ lifecycle.trafficBlocked ∨ lifecycle.state = .active then
    .error "privacy: cannot record reset proof before traffic is blocked"
  else if isBlank proof then .error ("privacy: " ++ store.name ++ " reset proof is empty")
  else .ok
    { state := .purging
      trafficBlocked := true
      resetId := lifecycle.resetId
      proofs := Function.update lifecycle.proofs store (some proof)
      releaseProofs := lifecycle.releaseProofs }

def assertAppIdentityResetProved (lifecycle : AppIdentityLifecycle) : Except String Unit :=
  APP_IDENTITY_RESET_STORES.forM fun store =>
    match lifecycle.proofs store with
    | none => .error ("privacy: cannot activate before " ++ store.name ++ " purge proof")
    | some _ => .ok ()

def assertAppIdentityResetReleased (lifecycle : AppIdentityLifecycle) : Except String Unit :=
  APP_IDENTITY_RESET_RELEASES.forM fun release =>
    match lifecycle.releaseProofs release with
    | none => .error ("privacy: cannot activate before " ++ release.name ++ " release proof")
    | some _ => .ok ()

theorem assertAppIdentityResetProved_ok {lifecycle : AppIdentityLifecycle} :
    assertAppIdentityResetProved lifecycle = .ok () ↔ ∀ store, lifecycle.proofs store ≠ none := by
  rw [assertAppIdentityResetProved, forM_eq_ok]
  refine ⟨fun h store hnone => ?_, fun h store _ => ?_⟩
  · have hstore := h store (mem_APP_IDENTITY_RESET_STORES store)
    rw [hnone] at hstore
    cases hstore
  · cases hproof : lifecycle.proofs store with
    | none => exact absurd hproof (h store)
    | some proof => rfl

theorem assertAppIdentityResetReleased_ok {lifecycle : AppIdentityLifecycle} :
    assertAppIdentityResetReleased lifecycle = .ok () ↔
      ∀ release, lifecycle.releaseProofs release ≠ none := by
  rw [assertAppIdentityResetReleased, forM_eq_ok]
  refine ⟨fun h release hnone => ?_, fun h release _ => ?_⟩
  · have hrelease := h release (mem_APP_IDENTITY_RESET_RELEASES release)
    rw [hnone] at hrelease
    cases hrelease
  · cases hproof : lifecycle.releaseProofs release with
    | none => exact absurd hproof (h release)
    | some proof => rfl

def activationPendingAppIdentityLifecycle (lifecycle : AppIdentityLifecycle) :
    Except String AppIdentityLifecycle := do
  assertAppIdentityResetProved lifecycle
  return {
    state := .activation_pending
    trafficBlocked := true
    resetId := lifecycle.resetId
    proofs := lifecycle.proofs
    releaseProofs := lifecycle.releaseProofs }

def withAppIdentityResetReleaseProof (lifecycle : AppIdentityLifecycle)
    (release : AppIdentityResetRelease) (proof : String) : Except String AppIdentityLifecycle :=
  if lifecycle.state ≠ .activation_pending ∨ ¬ lifecycle.trafficBlocked then
    .error "privacy: cannot record reset release before activation is pending"
  else if isBlank proof then
    .error ("privacy: " ++ release.name ++ " reset release proof is empty")
  else .ok
    { lifecycle with
      releaseProofs := Function.update lifecycle.releaseProofs release (some proof) }

def activeAppIdentityLifecycle (lifecycle : AppIdentityLifecycle) :
    Except String AppIdentityLifecycle := do
  assertAppIdentityResetReleased lifecycle
  return { lifecycle with state := .active, trafficBlocked := false }

/-- The check of the lifecycle that every load and every save makes. -/
def parseAppIdentityLifecycle (raw : AppIdentityLifecycle) :
    Except String AppIdentityLifecycle := do
  if (if raw.state = .active then raw.trafficBlocked else ¬ raw.trafficBlocked) then
    throw "privacy: inconsistent App identity traffic block"
  if raw.resetId.any isBlank then
    throw "privacy: ambiguous App identity resetId"
  APP_IDENTITY_RESET_STORES.forM fun store =>
    if (raw.proofs store).any isBlank then
      throw ("privacy: ambiguous " ++ store.name ++ " reset proof")
    else pure ()
  APP_IDENTITY_RESET_RELEASES.forM fun release =>
    if (raw.releaseProofs release).any isBlank then
      throw ("privacy: ambiguous " ++ release.name ++ " reset release proof")
    else pure ()
  return raw

/-! ## 3. Records -/

inductive AppIdentityEpochRole
  | lookup
  | retained
  | active
  deriving DecidableEq, Repr

structure AppIdentityEpoch where
  version : String
  key : List UInt8
  role : AppIdentityEpochRole
  deriving DecidableEq, Repr

structure AppIdentityRecord where
  currentVersion : String
  epochs : List AppIdentityEpoch
  lifecycle : AppIdentityLifecycle
  deriving DecidableEq

def AppIdentityRecord.versions (record : AppIdentityRecord) : List String :=
  record.epochs.map (·.version)

def assertEpochShape (epoch : AppIdentityEpoch) (versions : List String) : Except String Unit :=
  if epoch.version ∈ versions then
    .error ("privacy: ambiguous App identity epoch " ++ epoch.version)
  else if epoch.role = .lookup ∧ isAppIdentityKeyVersion epoch.version then
    .error ("privacy: App identity epoch " ++ epoch.version ++ " cannot be lookup-only")
  else if epoch.role ≠ .lookup ∧ epoch.version ∈ HISTORICAL_SHARED_ROOT_KEY_VERSIONS then
    .error ("privacy: historical shared-root epoch " ++ epoch.version ++ " is lookup-only")
  else if epoch.key.length = 0 then
    .error ("privacy: empty App identity key for " ++ epoch.version)
  else .ok ()

/-- The loop of `assertUniqueEpochs`, with the versions and the active versions met so far. -/
def assertUniqueEpochsFrom (versions active : List String) :
    List AppIdentityEpoch → Except String String
  | [] =>
    match active with
    | [version] => .ok version
    | _ => .error "privacy: App identity record must have exactly one active current epoch"
  | epoch :: epochs => do
    assertEpochShape epoch versions
    assertUniqueEpochsFrom (epoch.version :: versions)
      (if epoch.role = .active then active ++ [epoch.version] else active) epochs

def assertUniqueEpochs (epochs : List AppIdentityEpoch) : Except String String :=
  assertUniqueEpochsFrom [] [] epochs

def assertCanonicalAppIdentityRecord (record : AppIdentityRecord) :
    Except String AppIdentityRecord := do
  if record.epochs.length = 0 then throw "privacy: App identity record has no epochs"
  if ¬ isAppIdentityKeyVersion record.currentVersion then
    throw "privacy: current App identity version must be an app-vN epoch"
  let activeVersion ← assertUniqueEpochs record.epochs
  if activeVersion ≠ record.currentVersion then
    throw "privacy: App identity record must have exactly one active current epoch"
  let lifecycle ← parseAppIdentityLifecycle record.lifecycle
  return { currentVersion := record.currentVersion, epochs := record.epochs, lifecycle }

/-- The record passes the check of every load and save, which then hands it on as it is. -/
def AppIdentityRecord.Canonical (record : AppIdentityRecord) : Prop :=
  assertCanonicalAppIdentityRecord record = .ok record

theorem parseAppIdentityLifecycle_ok {raw lifecycle : AppIdentityLifecycle}
    (h : parseAppIdentityLifecycle raw = .ok lifecycle) :
    lifecycle = raw ∧ (raw.trafficBlocked = true ↔ raw.state ≠ .active) := by
  unfold parseAppIdentityLifecycle at h
  obtain ⟨hblock, h⟩ := refuse_eq_ok.mp h
  obtain ⟨_, h⟩ := refuse_eq_ok.mp h
  obtain ⟨_, _, h⟩ := bind_eq_ok.mp h
  obtain ⟨_, _, h⟩ := bind_eq_ok.mp h
  refine ⟨(pure_eq_ok.mp h).symm, ?_⟩
  by_cases hstate : raw.state = .active
  · simpa [hstate] using hblock
  · simpa [hstate] using hblock

theorem assertUniqueEpochsFrom_ok {versions active : List String} {epochs : List AppIdentityEpoch}
    {version : String} (h : assertUniqueEpochsFrom versions active epochs = .ok version) :
    (epochs.map (·.version)).Nodup ∧ ∀ epoch ∈ epochs, epoch.version ∉ versions := by
  induction epochs generalizing versions active with
  | nil => exact ⟨List.nodup_nil, fun epoch h => (by cases h)⟩
  | cons epoch epochs ih =>
    obtain ⟨_, hshape, h⟩ := bind_eq_ok.mp h
    obtain ⟨hnodup, hfresh⟩ := ih h
    have hepoch : epoch.version ∉ versions := (ite_error_eq_ok.mp hshape).1
    rw [List.map_cons, List.nodup_cons, List.forall_mem_cons]
    refine ⟨⟨fun hmem => ?_, hnodup⟩, hepoch, fun other hother hmem => ?_⟩
    · obtain ⟨other, hother, heq⟩ := List.mem_map.mp hmem
      exact hfresh other hother (heq ▸ List.mem_cons_self)
    · exact hfresh other hother (List.mem_cons_of_mem _ hmem)

theorem assertCanonicalAppIdentityRecord_ok {record canonical : AppIdentityRecord}
    (h : assertCanonicalAppIdentityRecord record = .ok canonical) :
    canonical = record ∧ isAppIdentityKeyVersion record.currentVersion ∧ record.versions.Nodup ∧
      (record.lifecycle.trafficBlocked = true ↔ record.lifecycle.state ≠ .active) := by
  unfold assertCanonicalAppIdentityRecord at h
  obtain ⟨_, h⟩ := refuse_eq_ok.mp h
  obtain ⟨hversion, h⟩ := refuse_eq_ok.mp h
  obtain ⟨active, hunique, h⟩ := bind_eq_ok.mp h
  obtain ⟨_, h⟩ := refuse_eq_ok.mp h
  obtain ⟨lifecycle, hparse, h⟩ := bind_eq_ok.mp h
  obtain ⟨rfl, hblocked⟩ := parseAppIdentityLifecycle_ok hparse
  refine ⟨(pure_eq_ok.mp h).symm, not_not.mp hversion, ?_, hblocked⟩
  exact (assertUniqueEpochsFrom_ok hunique).1

/-- The record of an App that is provisioned. -/
def mintInitialAppIdentityRecord (rootSecret generated : List UInt8) :
    Except String AppIdentityRecord :=
  if rootSecret.length = 0 then .error "privacy: empty root privacy secret"
  else .ok
    { currentVersion := INITIAL_APP_IDENTITY_KEY_VERSION
      lifecycle := ACTIVE_APP_IDENTITY_LIFECYCLE
      epochs := HISTORICAL_SHARED_ROOT_KEY_VERSIONS.map
          (fun version => { version, role := .lookup, key := rootSecret }) ++
        [{ version := INITIAL_APP_IDENTITY_KEY_VERSION, role := .active, key := generated }] }

end Splitch
