/-
# The fence of destroyed identity versions

`app-identity-reset-fence.ts`.  The Assignment writer and the holdover outbox of an Entity each keep the
identity versions that App resets have destroyed, in one row of their storage; the functions here read and
compute that row.

A fence only grows: versions are added to those that are stored (`extendAppIdentityResetFence_ok`).  A row
that is missing is the empty fence, but a row that holds no version, or an empty one, is an error of its
reader; whoever cannot read the fence does not let a version pass.
-/
import Mathlib

namespace Splitch

def requireDestroyedIdentityVersions (versions : List String) : Except String (List String) :=
  if versions.isEmpty ∨ "" ∈ versions then
    .error "App identity reset requires destroyed identity versions"
  else .ok versions.eraseDups

def readAppIdentityResetFence : Option (List String) → Except String (List String)
  | none => .ok []
  | some stored => requireDestroyedIdentityVersions stored

/-- The row to store.  It is sorted; by which order of strings does not matter. -/
def extendAppIdentityResetFence (row : Option (List String)) (destroyedVersions : List String) :
    Except String (List String) := do
  let required ← requireDestroyedIdentityVersions destroyedVersions
  let existing ← readAppIdentityResetFence row
  return (existing ++ required).eraseDups.insertionSort (· ≤ ·)

def isAppIdentityVersionReset (row : Option (List String)) (identityVersion : String) :
    Except String Bool := do
  return (← readAppIdentityResetFence row).contains identityVersion

/-- The versions in the row. -/
def fenced (row : Option (List String)) : List String := row.getD []

theorem requireDestroyedIdentityVersions_ok {versions required : List String}
    (h : requireDestroyedIdentityVersions versions = .ok required) :
    required = versions.eraseDups := by
  unfold requireDestroyedIdentityVersions at h
  split at h
  · cases h
  · cases h
    rfl

theorem readAppIdentityResetFence_ok {row : Option (List String)} {versions : List String}
    (h : readAppIdentityResetFence row = .ok versions) (v : String) :
    v ∈ versions ↔ v ∈ fenced row := by
  cases row with
  | none =>
    cases h
    exact Iff.rfl
  | some stored => rw [requireDestroyedIdentityVersions_ok h, List.mem_eraseDups, fenced,
      Option.getD_some]

theorem extendAppIdentityResetFence_ok {row : Option (List String)}
    {destroyedVersions next : List String}
    (h : extendAppIdentityResetFence row destroyedVersions = .ok next) (v : String) :
    v ∈ next ↔ v ∈ fenced row ∨ v ∈ destroyedVersions := by
  unfold extendAppIdentityResetFence at h
  cases hrequire : requireDestroyedIdentityVersions destroyedVersions with
  | error message => simp [hrequire, bind, Except.bind] at h
  | ok required =>
    cases hread : readAppIdentityResetFence row with
    | error message => simp [hrequire, hread, bind, Except.bind] at h
    | ok existing =>
      simp only [hrequire, hread, bind, Except.bind, pure, Except.pure, Except.ok.injEq] at h
      rw [← h, List.mem_insertionSort, List.mem_eraseDups, List.mem_append,
        readAppIdentityResetFence_ok hread, requireDestroyedIdentityVersions_ok hrequire,
        List.mem_eraseDups]

theorem isAppIdentityVersionReset_ok {row : Option (List String)} {version : String} {b : Bool}
    (h : isAppIdentityVersionReset row version = .ok b) :
    b = decide (version ∈ fenced row) := by
  unfold isAppIdentityVersionReset at h
  cases hread : readAppIdentityResetFence row with
  | error message => simp [hread, bind, Except.bind] at h
  | ok versions =>
    simp only [hread, bind, Except.bind, pure, Except.pure, Except.ok.injEq] at h
    rw [← h, List.contains_eq_mem, decide_eq_decide.mpr (readAppIdentityResetFence_ok hread version)]

end Splitch
