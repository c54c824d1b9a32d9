/-
# Assignments

The data of the Assignment Store (`assignment-store.ts`, `contracts/storage-keys-kv.ts`): what is put, the
blob of one Entity that reads go through, and the merge of a new Assignment into it.

The blob has one member for each Experiment, and a merge leaves a member that is there
(`mergeAssignmentValue_getElem?`): the first entry that reaches KV is the one that stays.  Whether it is
there is asked with `in`, which finds the members of `Object.prototype` too.  An Experiment of such a name
would never be merged; the ids of Experiments are minted, and none of them is one (`ExperimentId`).
-/
import Mathlib

namespace Splitch

/-! ## 1. Data -/

structure HashedAssignmentPutInput where
  appId : String
  experimentId : String
  idType : String
  targetingKeyHash : String
  identityVersion : Option String
  runId : String
  sourceCreatedAtMs : Option Int
  variant : String
  deriving DecidableEq, Repr

structure AssignmentStoreEntry where
  runId : String
  variant : String
  deriving DecidableEq, Repr

/-- The Assignments of one Entity, by Experiment. -/
abbrev AssignmentStoreValue := Std.ExtTreeMap String AssignmentStoreEntry compare

inductive AssignmentStorePutStatus
  | stored
  | existing
  deriving DecidableEq, Repr

structure AssignmentStorePutResult where
  status : AssignmentStorePutStatus
  assignment : AssignmentStoreEntry
  deriving DecidableEq, Repr

def entryFrom (input : HashedAssignmentPutInput) : AssignmentStoreEntry :=
  ⟨input.runId, input.variant⟩

/-- The read key of an Entity. -/
def assignmentKey (appId idType targetingKeyHash : String) : String :=
  "assignment:" ++ appId ++ ":" ++ idType ++ ":" ++ targetingKeyHash

/-- The identity version a hash was derived under: what stands before its first colon. -/
def keyVersionOf (targetingKeyHash : String) : Except String String :=
  let version := targetingKeyHash.toList.takeWhile (· ≠ ':')
  if version.isEmpty ∨ version.length = targetingKeyHash.length then
    .error "privacy: malformed targeting_key_hash (no version prefix)"
  else .ok (String.ofList version)

/-! ## 2. The merge -/

/-- What every object of the platform inherits: `value[id]` is never undefined for these. -/
def objectPrototypeMembers : List String :=
  ["__defineGetter__", "__defineSetter__", "__lookupGetter__", "__lookupSetter__", "__proto__",
    "constructor", "hasOwnProperty", "isPrototypeOf", "propertyIsEnumerable", "toLocaleString",
    "toString", "valueOf"]

/-- `value[experimentId] !== undefined`. -/
def hasMember (value : AssignmentStoreValue) (experimentId : String) : Bool :=
  value.contains experimentId || objectPrototypeMembers.contains experimentId

/-- The first entry of an Experiment stays. -/
def mergeAssignmentValue (value : AssignmentStoreValue) (input : HashedAssignmentPutInput) :
    AssignmentStoreValue :=
  if hasMember value input.experimentId then value
  else value.insert input.experimentId (entryFrom input)

/-- The identifier of an Experiment.  The control plane mints it (`exp_` and random hex), so it
is not empty and is no name that objects inherit. -/
@[ext]
structure ExperimentId where
  name : String
  nonempty : name ≠ ""
  own : name ∉ objectPrototypeMembers

theorem hasMember_eq_false {value : AssignmentStoreValue} {experimentId : String}
    (hown : experimentId ∉ objectPrototypeMembers) :
    hasMember value experimentId = false ↔ value[experimentId]? = none := by
  have hinherited : objectPrototypeMembers.contains experimentId = false := by
    rw [← Bool.not_eq_true, List.contains_iff_mem]
    exact hown
  rw [hasMember, hinherited, Bool.or_false, ← Bool.not_eq_true, Std.ExtTreeMap.contains_iff_mem,
    Std.ExtTreeMap.mem_iff_isSome_getElem?, Bool.not_eq_true, Option.isSome_eq_false_iff,
    Option.isNone_iff_eq_none]

/-- **The merge keeps what is there** and adds what is not. -/
theorem mergeAssignmentValue_getElem? (value : AssignmentStoreValue)
    {input : HashedAssignmentPutInput} (hown : input.experimentId ∉ objectPrototypeMembers)
    (experimentId : String) :
    (mergeAssignmentValue value input)[experimentId]? =
      if experimentId = input.experimentId then
        some (value[experimentId]?.getD (entryFrom input))
      else value[experimentId]? := by
  unfold mergeAssignmentValue
  by_cases hmember : hasMember value input.experimentId = true
  · have hsome : value[input.experimentId]? ≠ none := fun hnone => by
      rw [(hasMember_eq_false hown).mpr hnone] at hmember
      cases hmember
    obtain ⟨entry, hentry⟩ := Option.ne_none_iff_exists'.mp hsome
    rw [if_pos hmember]
    split
    · rename_i heq
      rw [heq, hentry, Option.getD_some]
    · rfl
  · have hnone := (hasMember_eq_false hown).mp (Bool.not_eq_true _ ▸ hmember)
    rw [if_neg hmember, Std.ExtTreeMap.getElem?_insert]
    split
    · rename_i heq
      rw [← Std.LawfulEqCmp.compare_eq_iff_eq.mp heq, hnone, if_pos rfl, Option.getD_none]
    · rename_i hne
      rw [if_neg]
      rintro rfl
      exact hne Std.ReflCmp.compare_self

end Splitch
