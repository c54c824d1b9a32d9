/-
# Fingerprints of attributes

`fingerprintAttributes` of `seen-set.ts`: the attributes of an Evaluation Context in a canonical order, as
a JSON text.  The seen-set takes two evaluations for the same when their texts are equal, so the text must
not depend on how the attributes were put together, and must not forget any of them.

The canonical value is made by adding the members of each object to a new one in the order of their keys.
The order that is seen afterwards is still not that order, as an object enumerates the keys that are array
indices by their number and before all others.  But it is a function of the set of members alone
(`inKeyOrder_eq_of_perm`), and that is all that is needed: equal JSON values have one canonical value
(`stable_eq_of_same`), and conversely (`same_of_stable_eq`).  `JSON.stringify` is injective, so texts are
equal where the values are (`fingerprint_eq_iff`).

There is one exception.  To assign the key `__proto__` sets the prototype of the new object and gives it no
member, so such a member is lost, and two maps of attributes that differ in nothing else have one
fingerprint (`fingerprint_proto`).
-/
import Splitch.Library.JsonText
import Splitch.Library.Sorting
import Splitch.Library.Utf16

namespace Splitch

namespace Seen

open JsonText

variable {N : Type}

/-! ## 1. The canonical value -/

/-- The number that a key is, where it is an array index. -/
def arrayIndex (key : String) : Option Nat :=
  let digits := key.toList
  if digits ≠ [] ∧ digits.all Char.isDigit ∧ (digits.head? = some '0' → digits = ['0']) then
    some (Nat.ofDigits 10 (digits.reverse.map fun c => c.toNat - 48)) |>.filter (· < 2 ^ 32 - 1)
  else none

/-- An object enumerates array indices by their number, and other keys as they were added. -/
def enumerate (members : List (String × Json N)) : List (String × Json N) :=
  Sorting.sortBy (fun member => (arrayIndex member.1).getD 0)
      (members.filter fun member => (arrayIndex member.1).isSome) ++
    members.filter fun member => !(arrayIndex member.1).isSome

/-- A new object with the members in the order of their keys. -/
def inKeyOrder (members : List (String × Json N)) : List (String × Json N) :=
  enumerate (Sorting.sortBy (fun member => Utf16.units member.1) members)

mutual

/-- To assign the key `__proto__` sets the prototype of an object, and gives it no member. -/
def stableJsonValue : Json N → Json N
  | .arr items => .arr (stableItems items)
  | .obj members => .obj (inKeyOrder (stableMembers members))
  | .null => .null
  | .bool value => .bool value
  | .num value => .num value
  | .str value => .str value

def stableItems : List (Json N) → List (Json N)
  | [] => []
  | item :: items => stableJsonValue item :: stableItems items

def stableMembers : List (String × Json N) → List (String × Json N)
  | [] => []
  | (key, value) :: members =>
    if key = "__proto__" then stableMembers members
    else (key, stableJsonValue value) :: stableMembers members

end

theorem stableItems_eq (items : List (Json N)) : stableItems items = items.map stableJsonValue := by
  induction items with
  | nil => rfl
  | cons item items ih => rw [stableItems, ih, List.map_cons]

theorem stableMembers_eq {members : List (String × Json N)}
    (hproto : "__proto__" ∉ members.map (·.1)) :
    stableMembers members = members.map fun member => (member.1, stableJsonValue member.2) := by
  induction members with
  | nil => rfl
  | cons member members ih =>
    rw [List.map_cons, List.mem_cons, not_or] at hproto
    rw [stableMembers, if_neg fun heq => hproto.1 heq.symm, ih hproto.2, List.map_cons]

theorem inKeyOrder_perm (members : List (String × Json N)) : (inKeyOrder members).Perm members := by
  have henumerate : ∀ members : List (String × Json N), (enumerate members).Perm members := fun members =>
    (Sorting.sortBy_perm.append_right _).trans (List.filter_append_perm _ members)
  exact (henumerate _).trans Sorting.sortBy_perm

/-- The order does not depend on where the members come from. -/
theorem inKeyOrder_eq_of_perm {members members' : List (String × Json N)}
    (hkeys : (members.map (·.1)).Nodup) (h : members.Perm members') :
    inKeyOrder members = inKeyOrder members' := by
  refine congrArg enumerate (Sorting.sortBy_eq_of_perm ?_ h)
  rw [show (fun member : String × Json N => Utf16.units member.1) = Utf16.units ∘ Prod.fst from rfl,
    ← List.map_map]
  exact hkeys.map Utf16.units_injective

theorem perm_map_iff {α β : Type} {f : α → β} {l : List β} {l' : List α} :
    l.Perm (l'.map f) ↔ ∃ reordered : List α, l = reordered.map f ∧ reordered.Perm l' :=
  iff_of_eq (congrFun₂ (List.eq_map_comp_perm f) l l').symm

/-! ## 2. Attributes -/

/-- No object has a `__proto__` member. -/
inductive Plain : Json N → Prop
  | null : Plain .null
  | bool (value : Bool) : Plain (.bool value)
  | num (value : N) : Plain (.num value)
  | str (value : String) : Plain (.str value)
  | arr {items : List (Json N)} (hitems : ∀ item ∈ items, Plain item) : Plain (.arr items)
  | obj {members : List (String × Json N)} (hproto : "__proto__" ∉ members.map (·.1))
      (hmembers : ∀ member ∈ members, Plain member.2) : Plain (.obj members)

/-- Equal canonical values come of equal values. -/
theorem same_of_stable_eq {value value' : Json N} (h : Plain value) (h' : Plain value')
    (heq : stableJsonValue value = stableJsonValue value') : value.Same value' := by
  induction value using Json.induction generalizing value' with
  | null => cases h' <;> cases heq; exact .null
  | bool value => cases h' <;> cases heq; exact .bool value
  | num value => cases h' <;> cases heq; exact .num value
  | str value => cases h' <;> cases heq; exact .str value
  | arr items ih =>
    cases h' with
    | arr hitems' =>
      cases h with
      | arr hitems =>
      rw [stableJsonValue, stableJsonValue, Json.arr.injEq, stableItems_eq, stableItems_eq,
        map_eq_map_iff_zip] at heq
      refine .arr heq.1 fun pair hpair => ?_
      obtain ⟨hmem, hmem'⟩ := List.of_mem_zip hpair
      exact ih _ hmem (hitems _ hmem) (hitems' _ hmem') (heq.2 pair hpair)
    | _ => cases heq
  | obj members ih =>
    cases h' with
    | @obj members' hproto' hmembers' =>
      cases h with
      | obj hproto hmembers =>
      rw [stableJsonValue, stableJsonValue, Json.obj.injEq, stableMembers_eq hproto,
        stableMembers_eq hproto'] at heq
      have hreordered := (inKeyOrder_perm (members.map fun member =>
        (member.1, stableJsonValue member.2))).symm
      rw [heq] at hreordered
      obtain ⟨reordered, hmap, hreordered⟩ := perm_map_iff.mp (hreordered.trans (inKeyOrder_perm _))
      obtain ⟨hlength, hzip⟩ := map_eq_map_iff_zip.mp hmap
      refine .obj hreordered (map_eq_map_iff_zip.mpr ⟨hlength, fun pair hpair => ?_⟩)
        fun pair hpair => ?_
      · exact (Prod.mk.inj (hzip pair hpair)).1
      · obtain ⟨hmem, hmem'⟩ := List.of_mem_zip hpair
        exact ih _ hmem (hmembers _ hmem) (hmembers' _ (hreordered.mem_iff.mp hmem'))
          (Prod.mk.inj (hzip pair hpair)).2
    | _ => cases heq

/-- Equal values have one canonical value. -/
theorem stable_eq_of_same {value value' : Json N} (h : Plain value) (h' : Plain value')
    (hdistinct : value.Distinct) (hdistinct' : value'.Distinct) (hsame : value.Same value') :
    stableJsonValue value = stableJsonValue value' := by
  induction value using Json.induction generalizing value' with
  | arr items ih =>
    cases hsame with
    | arr hlength hsame =>
    cases h with
    | arr hitems =>
    cases h' with
    | arr hitems' =>
    cases hdistinct with
    | arr hdistinct =>
    cases hdistinct' with
    | arr hdistinct' =>
    rw [stableJsonValue, stableJsonValue, stableItems_eq, stableItems_eq, Json.arr.injEq,
      map_eq_map_iff_zip]
    refine ⟨hlength, fun pair hpair => ?_⟩
    obtain ⟨hmem, hmem'⟩ := List.of_mem_zip hpair
    exact ih _ hmem (hitems _ hmem) (hitems' _ hmem') (hdistinct _ hmem) (hdistinct' _ hmem')
      (hsame pair hpair)
  | obj members ih =>
    cases hsame with
    | @obj _ members' reordered hperm hkeys hsame =>
    cases h with
    | obj hproto hmembers =>
    cases h' with
    | obj hproto' hmembers' =>
    cases hdistinct with
    | obj hnodup hdistinct =>
    cases hdistinct' with
    | obj hnodup' hdistinct' =>
    rw [stableJsonValue, stableJsonValue, stableMembers_eq hproto, stableMembers_eq hproto',
      Json.obj.injEq]
    refine inKeyOrder_eq_of_perm (by rwa [List.map_map]) (perm_map_iff.mpr ?_)
    refine ⟨reordered, map_eq_map_iff_zip.mpr ⟨(map_eq_map_iff_zip.mp hkeys).1, fun pair hpair => ?_⟩,
      hperm⟩
    obtain ⟨hmem, hmem'⟩ := List.of_mem_zip hpair
    have hmem' := hperm.mem_iff.mp hmem'
    exact Prod.ext ((map_eq_map_iff_zip.mp hkeys).2 pair hpair)
      (ih _ hmem (hmembers _ hmem) (hmembers' _ hmem') (hdistinct _ hmem) (hdistinct' _ hmem')
        (hsame pair hpair))
  | _ => cases hsame; rfl

/-- The attributes of an Evaluation Context: an object, in which no object has a key twice. -/
structure Attributes (N : Type) where
  members : List (String × Json N)
  distinct : (Json.obj members).Distinct

def Attributes.json (attributes : Attributes N) : Json N := .obj attributes.members

variable [NumberFormat N]

def fingerprintAttributes (attributes : Attributes N) : String :=
  String.ofList (stringify (stableJsonValue attributes.json))

/-- **One fingerprint** is one value, as long as no object has a `__proto__` member. -/
theorem fingerprint_eq_iff {attributes attributes' : Attributes N} (h : Plain attributes.json)
    (h' : Plain attributes'.json) :
    fingerprintAttributes attributes = fingerprintAttributes attributes' ↔
      attributes.json.Same attributes'.json := by
  rw [fingerprintAttributes, fingerprintAttributes, String.ofList_inj,
    stringify_injective.eq_iff]
  exact ⟨same_of_stable_eq h h', stable_eq_of_same h h' attributes.distinct attributes'.distinct⟩

/-- A `__proto__` member leaves no trace. -/
theorem fingerprint_proto (value : Json N) (hvalue : value.Distinct) :
    fingerprintAttributes ⟨[("__proto__", value)],
        .obj (List.nodup_singleton _) fun _ h => List.mem_singleton.mp h ▸ hvalue⟩ =
      fingerprintAttributes (⟨[], .obj List.nodup_nil fun _ h => absurd h List.not_mem_nil⟩ :
        Attributes N) := by
  simp only [fingerprintAttributes, Attributes.json, stableJsonValue, stableMembers, if_pos]

end Seen

end Splitch
