/-
# Hashes of Entities

`hash.ts` and the resolution of retained hashes in `entity-privacy.ts`: the `targeting_key_hash` under
an identity epoch, the hashes of all retained epochs, and the Entity family hash that joins them.

A hash names the epoch that it was made under, as a prefix before a colon, so an Entity has a hash for each
epoch whose salt is retained.  The family hash is one of them, which stands for all: the hash under a shared
root where there is one, in a canonical spelling, else the first under an identity version of the App, and
else the first that is retained.  Each choice may throw, as the versions have to be read out of the hashes.

What others build on is that none of these texts is ever empty, and that the version can be read back
(`computeTargetingKeyHash_ok`, `computeEntityFamilyHash_ne_empty`): a ticket whose payload had an empty hash
would be refused by its own verifier.

The salt store is an interface of the source, and HMAC-SHA256 is the platform's.
-/
import Splitch.Assignment.AssignmentStore
import Splitch.Identity.AppIdentityRecord
import Splitch.Library.ByteText

namespace Splitch

open Checks

/-! ## 1. The hash of a targeting key -/

abbrev SaltBytes := List UInt8

structure SaltStore where
  currentKeyVersion : (appId : String) → Except String String
  saltFor : (appId keyVersion : String) → Except String SaltBytes
  retainedKeyVersions : (appId : String) → Except String (List String)
  saltsFor : Option ((appId keyVersion : String) → Except String (List SaltBytes))

/-- HMAC-SHA256 of the platform. -/
structure Hmac where
  hmac : (key message : List UInt8) → List UInt8
  length_hmac : ∀ key message, (hmac key message).length = 32

structure TargetingKeyHashInput where
  appId : String
  idType : String
  targetingKey : String
  keyVersion : Option String := none
  salt : Option SaltBytes := none

def validateIdType (idType : String) : Except String Unit :=
  if idType.length = 0 then .error "privacy: idType must not be empty"
  else if ':' ∈ idType.toList then .error "privacy: idType must not contain ':'"
  else .ok ()

def targetingHashMessage (idType targetingKey : String) : Except String String := do
  validateIdType idType
  return idType ++ ":" ++ targetingKey

def utf8Bytes (value : String) : SaltBytes := ByteText.encode value.toList

def toHex (buffer : List UInt8) : String :=
  String.ofList (buffer.flatMap fun byte =>
    [Nat.digitChar (byte.toNat / 16), Nat.digitChar (byte.toNat % 16)])

section Hashes

variable (platform : Hmac)

def hmacSha256Hex (key : SaltBytes) (message : String) : String :=
  toHex (platform.hmac key (utf8Bytes message))

def computeTargetingKeyHash (store : SaltStore) (input : TargetingKeyHashInput) :
    Except String String := do
  let keyVersion ← input.keyVersion.elim (store.currentKeyVersion input.appId) .ok
  let salt ← input.salt.elim (store.saltFor input.appId keyVersion) .ok
  if salt.length = 0 then
    throw ("privacy: empty salt for app=" ++ input.appId ++ " version=" ++ keyVersion)
  let message ← targetingHashMessage input.idType input.targetingKey
  return keyVersion ++ ":" ++ hmacSha256Hex platform salt message

/-! ## 2. Retained hashes -/

structure EntityPrivacyInput where
  appId : String
  idType : String
  targetingKey : String

def saltsOf (store : SaltStore) (appId keyVersion : String) : Except String (List SaltBytes) :=
  match store.saltsFor with
  | some saltsFor => saltsFor appId keyVersion
  | none => (store.saltFor appId keyVersion).map fun salt => [salt]

/-- The hashes under the salts of a version, after those there are. -/
def addHashes (store : SaltStore) (input : EntityPrivacyInput) (keyVersion : String)
    (hashes : List String) (salts : List SaltBytes) : Except String (List String) :=
  salts.foldlM (fun hashes salt => do
    let hash ← computeTargetingKeyHash platform store
      { appId := input.appId, idType := input.idType, targetingKey := input.targetingKey,
        keyVersion := some keyVersion, salt := some salt }
    return if hash ∈ hashes then hashes else hashes ++ [hash]) hashes

def computeRetainedTargetingKeyHashes (store : SaltStore) (input : EntityPrivacyInput) :
    Except String (List String) := do
  let versions ← store.retainedKeyVersions input.appId
  versions.foldlM (fun hashes keyVersion => do
    let salts ← saltsOf store input.appId keyVersion
    addHashes platform store input keyVersion hashes salts) []

def canonicalizeSharedRootTargetingKeyHash (hash : String) : Except String String :=
  if ':' ∉ hash.toList then .ok hash
  else do
    let version ← keyVersionOf hash
    if version = "local-v1" then
      return "v1:" ++ String.ofList (hash.toList.drop (version.length + 1))
    return hash

/-- `Array.prototype.find` with a test that may throw. -/
def findHash (test : String → Bool) : List String → Except String (Option String)
  | [] => .ok none
  | hash :: hashes => do
    let version ← keyVersionOf hash
    if test version then return some hash
    findHash test hashes

def entityFamilyHashForRetained (retainedHashes : List String) : Except String String := do
  let sharedAnchor ← findHash (· ∈ HISTORICAL_SHARED_ROOT_KEY_VERSIONS) retainedHashes
  match sharedAnchor with
  | some anchor => canonicalizeSharedRootTargetingKeyHash anchor
  | none =>
    let appAnchor ← findHash isAppIdentityKeyVersion retainedHashes
    match appAnchor, retainedHashes with
    | some anchor, _ => return anchor
    | none, [] => throw "privacy: no retained targeting_key_hash for Entity family"
    | none, compatibilityAnchor :: _ => canonicalizeSharedRootTargetingKeyHash compatibilityAnchor

def computeEntityFamilyHash (store : SaltStore) (input : EntityPrivacyInput) :
    Except String String := do
  entityFamilyHashForRetained (← computeRetainedTargetingKeyHashes platform store input)

/-! ## 3. What a hash says -/

variable {platform : Hmac}

/-- A hash is its version and a digest. -/
theorem computeTargetingKeyHash_ok {store : SaltStore} {input : TargetingKeyHashInput} {hash : String}
    (h : computeTargetingKeyHash platform store input = .ok hash) :
    ∃ keyVersion salt message,
      input.keyVersion.elim (store.currentKeyVersion input.appId) .ok = .ok keyVersion ∧
      input.salt.elim (store.saltFor input.appId keyVersion) .ok = .ok salt ∧ salt ≠ [] ∧
      targetingHashMessage input.idType input.targetingKey = .ok message ∧
      hash = keyVersion ++ ":" ++ hmacSha256Hex platform salt message := by
  obtain ⟨keyVersion, hversion, h⟩ := bind_eq_ok.mp h
  obtain ⟨salt, hsalt, h⟩ := bind_eq_ok.mp h
  obtain ⟨hne, h⟩ := refuse_eq_ok.mp h
  obtain ⟨message, hmessage, h⟩ := bind_eq_ok.mp h
  refine ⟨keyVersion, salt, message, hversion, hsalt, fun hnil => hne ?_, hmessage,
    (pure_eq_ok.mp h).symm⟩
  rw [hnil, List.length_nil]

theorem computeTargetingKeyHash_ne_empty {store : SaltStore} {input : TargetingKeyHashInput}
    {hash : String} (h : computeTargetingKeyHash platform store input = .ok hash) : hash ≠ "" := by
  obtain ⟨keyVersion, salt, message, -, -, -, -, rfl⟩ := computeTargetingKeyHash_ok h
  intro hempty
  have hlist := congrArg String.toList hempty
  rw [String.toList_append, String.toList_append] at hlist
  simp at hlist

theorem keyVersionOf_ne_empty {hash version : String} (h : keyVersionOf hash = .ok version) :
    version ≠ "" := by
  simp only [keyVersionOf] at h
  split at h
  · cases h
  · next hversion =>
    rw [not_or] at hversion
    cases h
    intro hempty
    rw [← String.toList_eq_nil_iff, String.toList_ofList] at hempty
    exact hversion.1 (by rw [hempty]; rfl)

theorem mem_addHashes {store : SaltStore} {input : EntityPrivacyInput} {keyVersion : String}
    {salts : List SaltBytes} {hashes hashes' : List String}
    (h : addHashes platform store input keyVersion hashes salts = .ok hashes')
    (hne : ∀ hash ∈ hashes, hash ≠ "") : ∀ hash ∈ hashes', hash ≠ "" := by
  induction salts generalizing hashes with
  | nil =>
    cases h
    exact hne
  | cons salt salts ih =>
    rw [addHashes, List.foldlM_cons] at h
    obtain ⟨next, hnext, h⟩ := bind_eq_ok.mp h
    obtain ⟨hash, hhash, hnext⟩ := bind_eq_ok.mp hnext
    refine ih h fun other hother => ?_
    rw [← pure_eq_ok.mp hnext] at hother
    split at hother
    · exact hne other hother
    · rcases List.mem_append.mp hother with hother | hother
      · exact hne other hother
      · rw [List.mem_singleton.mp hother]
        exact computeTargetingKeyHash_ne_empty hhash

theorem computeRetained_ne_empty {store : SaltStore} {input : EntityPrivacyInput}
    {hashes : List String} (h : computeRetainedTargetingKeyHashes platform store input = .ok hashes) :
    ∀ hash ∈ hashes, hash ≠ "" := by
  obtain ⟨versions, -, h⟩ := bind_eq_ok.mp h
  have hstep : ∀ (versions : List String) (start : List String), (∀ hash ∈ start, hash ≠ "") →
      versions.foldlM (fun hashes keyVersion => do
        let salts ← saltsOf store input.appId keyVersion
        addHashes platform store input keyVersion hashes salts) start = .ok hashes →
      ∀ hash ∈ hashes, hash ≠ "" := by
    intro versions
    induction versions with
    | nil =>
      intro start hstart h
      cases h
      exact hstart
    | cons keyVersion versions ih =>
      intro start hstart h
      rw [List.foldlM_cons] at h
      obtain ⟨next, hnext, h⟩ := bind_eq_ok.mp h
      obtain ⟨salts, -, hnext⟩ := bind_eq_ok.mp hnext
      exact ih next (mem_addHashes hnext hstart) h
  exact hstep versions [] (fun hash hmem => absurd hmem List.not_mem_nil) h

theorem mem_of_findHash {test : String → Bool} {hashes : List String} {anchor : String}
    (h : findHash test hashes = .ok (some anchor)) : anchor ∈ hashes := by
  induction hashes with
  | nil => cases h
  | cons hash hashes ih =>
    obtain ⟨version, -, h⟩ := bind_eq_ok.mp h
    split at h
    · cases h
      exact List.mem_cons_self
    · exact List.mem_cons_of_mem _ (ih h)

theorem canonicalize_ne_empty {hash canonical : String} (hne : hash ≠ "")
    (h : canonicalizeSharedRootTargetingKeyHash hash = .ok canonical) : canonical ≠ "" := by
  unfold canonicalizeSharedRootTargetingKeyHash at h
  split at h
  · cases h
    exact hne
  · obtain ⟨version, -, h⟩ := bind_eq_ok.mp h
    split at h
    · rw [← pure_eq_ok.mp h]
      intro hempty
      have hlist := congrArg String.toList hempty
      rw [String.toList_append] at hlist
      simp at hlist
    · rw [← pure_eq_ok.mp h]
      exact hne

/-- An Entity family hash is never empty. -/
theorem computeEntityFamilyHash_ne_empty {store : SaltStore} {input : EntityPrivacyInput}
    {hash : String} (h : computeEntityFamilyHash platform store input = .ok hash) : hash ≠ "" := by
  obtain ⟨hashes, hhashes, h⟩ := bind_eq_ok.mp h
  have hne := computeRetained_ne_empty hhashes
  obtain ⟨sharedAnchor, hshared, h⟩ := bind_eq_ok.mp h
  cases sharedAnchor with
  | some anchor => exact canonicalize_ne_empty (hne anchor (mem_of_findHash hshared)) h
  | none =>
    obtain ⟨appAnchor, happ, h⟩ := bind_eq_ok.mp h
    cases appAnchor with
    | some anchor =>
      rw [← pure_eq_ok.mp h]
      exact hne anchor (mem_of_findHash happ)
    | none =>
      cases hashes with
      | nil => cases h
      | cons compatibilityAnchor hashes =>
        exact canonicalize_ne_empty (hne _ List.mem_cons_self) h

end Hashes

end Splitch
