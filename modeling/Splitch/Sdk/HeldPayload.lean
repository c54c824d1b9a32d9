/-
# The payload a browser client holds

`payload-store.ts` and `held-resolution.ts`: the Precomputed Evaluations of a client, what a new payload
changes of them, who is told, and what a read makes of an entry.

A new payload does not simply replace the old one.  The store compares them Flag by Flag and keeps the OLD
entry where the resolution is equal, with the new ticket, so that a value of a Flag that has not changed
stays the same object for the page.  Three facts make this sound.

Values are compared as JSON values (`canonicalEqual_iff`): the comparison sorts the keys of objects, and with
keys that are distinct this is equality up to the order of members.  It is an induction over the value, and
the only place where the comparison's code is looked into.

What is held after a swap is then the new payload, up to that order (`swap_follows`); and a Flag that the
swap does not report is resolved to the very value that it had (`swap_keeps`).  The Flags that are reported
are exactly those whose resolution differs (`mem_swap`): those that are new, those that are gone, and those
whose entries are unequal in anything but the ticket.

The last section is what a read makes of an entry.  It depends on the resolution alone, and not on the
ticket (`deriveHeldResolution_congr`), which is why a merge cannot be noticed by a reader.
-/
import Splitch.Evaluation.EvaluateAll
import Splitch.Sdk.ExposureQueue
import Splitch.Sdk.SuppressedEvaluate

namespace Splitch

namespace Browser

open EvaluateAll JsonText

variable {N : Type} [DecidableEq N]

/-! ## 1. Equal values -/

/-- `Object.keys(value).sort()`. -/
def sortedKeys (members : List (String × Json N)) : List String :=
  Sorting.sortBy Utf16.units (members.map (·.1))

mutual

/-- One object is equal to itself in the same way as two are. -/
def canonicalEqual : Json N → Json N → Bool
  | .null, .null => true
  | .bool left, .bool right => left = right
  | .num left, .num right => left = right
  | .str left, .str right => left = right
  | .arr left, .arr right => left.length = right.length && everyItem left right
  | .obj left, .obj right => sortedKeys left = sortedKeys right && everyMember left right
  | _, _ => false

def everyItem : List (Json N) → List (Json N) → Bool
  | item :: left, item' :: right => canonicalEqual item item' && everyItem left right
  | _, _ => true

/-- The other object has the member, with an equal value. -/
def everyMember : List (String × Json N) → List (String × Json N) → Bool
  | [], _ => true
  | (key, value) :: left, right =>
    (match Json.get key (.obj right) with
      | none => false
      | some value' => canonicalEqual value value') && everyMember left right

end

theorem everyItem_iff {left right : List (Json N)} :
    everyItem left right = true ↔ ∀ pair ∈ left.zip right, canonicalEqual pair.1 pair.2 = true := by
  induction left generalizing right with
  | nil => simp [everyItem]
  | cons item left ih =>
    cases right with
    | nil => simp [everyItem]
    | cons item' right => simp [everyItem, ih]

theorem everyMember_iff {left right : List (String × Json N)} :
    everyMember left right = true ↔ ∀ member ∈ left, ∃ value, Json.get member.1 (.obj right) = some value ∧
      canonicalEqual member.2 value = true := by
  induction left with
  | nil => simp [everyMember]
  | cons member left ih =>
    obtain ⟨key, value⟩ := member
    rw [everyMember, Bool.and_eq_true, ih, List.forall_mem_cons]
    refine and_congr_left' ?_
    cases Json.get key (.obj right) with
    | none => simp
    | some value' => simp

omit [DecidableEq N] in
theorem sortedKeys_perm {members : List (String × Json N)} :
    (sortedKeys members).Perm (members.map (·.1)) := Sorting.sortBy_perm

omit [DecidableEq N] in
theorem sortedKeys_eq_iff {left right : List (String × Json N)} (hkeys : (left.map (·.1)).Nodup) :
    sortedKeys left = sortedKeys right ↔ (left.map (·.1)).Perm (right.map (·.1)) := by
  constructor
  · intro heq
    exact sortedKeys_perm.symm.trans (heq ▸ sortedKeys_perm)
  · exact Sorting.sortBy_eq_of_perm (hkeys.map Utf16.units_injective)

/-- **Values are compared** as JSON values: the members of an object may stand in any order, the items
of an array may not. By induction on the one side, with the other split by its kind. -/
theorem canonicalEqual_iff {left right : Json N} (hleft : left.Distinct) (hright : right.Distinct) :
    canonicalEqual left right = true ↔ left.Same right := by
  induction left using Json.induction generalizing right with
  | null =>
    cases right <;> simp only [canonicalEqual, Bool.false_eq_true, false_iff, true_iff]
    · exact .null
    all_goals rintro ⟨⟩
  | bool value =>
    cases right <;> simp only [canonicalEqual, Bool.false_eq_true, false_iff, decide_eq_true_eq]
    case bool value' => exact ⟨fun heq => heq ▸ .bool value, fun hsame => by cases hsame; rfl⟩
    all_goals rintro ⟨⟩
  | num value =>
    cases right <;> simp only [canonicalEqual, Bool.false_eq_true, false_iff, decide_eq_true_eq]
    case num value' => exact ⟨fun heq => heq ▸ .num value, fun hsame => by cases hsame; rfl⟩
    all_goals rintro ⟨⟩
  | str value =>
    cases right <;> simp only [canonicalEqual, Bool.false_eq_true, false_iff, decide_eq_true_eq]
    case str value' => exact ⟨fun heq => heq ▸ .str value, fun hsame => by cases hsame; rfl⟩
    all_goals rintro ⟨⟩
  | arr items ih =>
    cases hleft with
    | arr hitems =>
    cases hright with
    | @arr items' hitems' =>
      rw [canonicalEqual, Bool.and_eq_true, decide_eq_true_eq, everyItem_iff]
      constructor
      · rintro ⟨hlength, hevery⟩
        refine .arr hlength fun pair hpair => ?_
        obtain ⟨hmem, hmem'⟩ := List.of_mem_zip hpair
        exact (ih _ hmem (hitems _ hmem) (hitems' _ hmem')).mp (hevery pair hpair)
      · rintro (_ | _ | _ | _ | ⟨hlength, hsame⟩)
        refine ⟨hlength, fun pair hpair => ?_⟩
        obtain ⟨hmem, hmem'⟩ := List.of_mem_zip hpair
        exact (ih _ hmem (hitems _ hmem) (hitems' _ hmem')).mpr (hsame pair hpair)
    | _ => exact ⟨fun heq => (by simp [canonicalEqual] at heq), fun hsame => (by cases hsame)⟩
  | obj members ih =>
    cases hleft with
    | obj hkeys hmembers =>
    cases hright with
    | @obj members' hkeys' hmembers' =>
      rw [canonicalEqual, Bool.and_eq_true, decide_eq_true_eq, sortedKeys_eq_iff hkeys, everyMember_iff]
      constructor
      · rintro ⟨hperm, hevery⟩
        obtain ⟨reordered, hmap, hreordered⟩ := Seen.perm_map_iff.mp hperm
        refine .obj hreordered hmap fun pair hpair => ?_
        obtain ⟨hmem, hmem'⟩ := List.of_mem_zip hpair
        have hkey : pair.1.1 = pair.2.1 := (map_eq_map_iff_zip.mp hmap).2 pair hpair
        have hmem' := hreordered.mem_iff.mp hmem'
        obtain ⟨value, hget, hequal⟩ := hevery _ hmem
        rw [hkey, Json.get_of_mem hkeys' hmem'] at hget
        cases hget
        exact (ih _ hmem (hmembers _ hmem) (hmembers' _ hmem')).mp hequal
      · rintro (_ | _ | _ | _ | _ | @⟨_, _, reordered, hperm, hmap, hsame⟩)
        refine ⟨hmap ▸ hperm.map _, fun member hmember => ?_⟩
        obtain ⟨hlength, hkey⟩ := map_eq_map_iff_zip.mp hmap
        obtain ⟨i, hi, rfl⟩ := List.mem_iff_getElem.mp hmember
        have hi' : i < (members.zip reordered).length := by
          rw [List.length_zip]
          omega
        have hpair := List.getElem_mem hi'
        rw [List.getElem_zip] at hpair
        have hmem' := hperm.mem_iff.mp (List.of_mem_zip hpair).2
        refine ⟨_, ?_, (ih _ hmember (hmembers _ hmember) (hmembers' _ hmem')).mpr (hsame _ hpair)⟩
        rw [hkey _ hpair]
        exact Json.get_of_mem hkeys' hmem'
    | _ => exact ⟨fun heq => (by simp [canonicalEqual] at heq), fun hsame => (by cases hsame)⟩

/-! ## 2. Payloads -/

/-- A record of entries, as it comes of a JSON text: no object has a key twice. -/
structure Evaluations (N : Type) where
  entries : List (String × EvaluateAllEntry N)
  keys_nodup : (entries.map (·.1)).Nodup
  variants_distinct : ∀ pair ∈ entries, pair.2.variant.Distinct

structure HeldPayload (N : Type) where
  evaluations : Evaluations N
  etag : String

def Evaluations.flagKeys (evaluations : Evaluations N) : List String := evaluations.entries.map (·.1)

/-- `Object.hasOwn(evaluations, flagKey) ? evaluations[flagKey] : undefined`. -/
def Evaluations.entryOf (evaluations : Evaluations N) (flagKey : String) : Option (EvaluateAllEntry N) :=
  (evaluations.entries.find? (·.1 = flagKey)).map (·.2)

omit [DecidableEq N] in
theorem Evaluations.mem_of_entryOf {evaluations : Evaluations N} {flagKey : String} {entry : EvaluateAllEntry N}
    (h : evaluations.entryOf flagKey = some entry) : (flagKey, entry) ∈ evaluations.entries := by
  obtain ⟨pair, hfind, rfl⟩ := Option.map_eq_some_iff.mp h
  have hkey : pair.1 = flagKey := by simpa using List.find?_some hfind
  subst hkey
  exact List.mem_of_find?_eq_some hfind

omit [DecidableEq N] in
theorem Evaluations.distinct_of_entryOf {evaluations : Evaluations N} {flagKey : String}
    {entry : EvaluateAllEntry N} (h : evaluations.entryOf flagKey = some entry) : entry.variant.Distinct :=
  evaluations.variants_distinct _ (mem_of_entryOf h)

omit [DecidableEq N] in
@[simp] theorem Evaluations.isSome_entryOf (evaluations : Evaluations N) (flagKey : String) :
    (evaluations.entryOf flagKey).isSome = true ↔ flagKey ∈ evaluations.flagKeys := by
  simp [entryOf, flagKeys]

/-- The entries are replaced one by one, under their keys. -/
def Evaluations.mapEntries (evaluations : Evaluations N)
    (f : String → EvaluateAllEntry N → EvaluateAllEntry N)
    (hf : ∀ flagKey entry, (flagKey, entry) ∈ evaluations.entries → (f flagKey entry).variant.Distinct) :
    Evaluations N where
  entries := evaluations.entries.map fun pair => (pair.1, f pair.1 pair.2)
  keys_nodup := by
    rw [List.map_map]
    exact evaluations.keys_nodup
  variants_distinct pair hpair := by
    obtain ⟨before, hbefore, rfl⟩ := List.mem_map.mp hpair
    exact hf _ _ hbefore

omit [DecidableEq N] in
@[simp] theorem Evaluations.mapEntries_entryOf {evaluations : Evaluations N}
    {f : String → EvaluateAllEntry N → EvaluateAllEntry N} {hf} (flagKey : String) :
    (evaluations.mapEntries f hf).entryOf flagKey = (evaluations.entryOf flagKey).map (f flagKey) := by
  simp only [entryOf, mapEntries, List.find?_map, Function.comp_def, Option.map_map]
  cases hfind : evaluations.entries.find? (·.1 = flagKey) with
  | none => rfl
  | some pair =>
    have hkey : pair.1 = flagKey := by simpa using List.find?_some hfind
    rw [Option.map_some, Option.map_some, ← hkey]

omit [DecidableEq N] in
@[simp] theorem Evaluations.mapEntries_flagKeys {evaluations : Evaluations N}
    {f : String → EvaluateAllEntry N → EvaluateAllEntry N} {hf} :
    (evaluations.mapEntries f hf).flagKeys = evaluations.flagKeys := by
  simp [flagKeys, mapEntries]

def entriesEqual : Option (EvaluateAllEntry N) → Option (EvaluateAllEntry N) → Bool
  | some before, some after =>
    canonicalEqual before.variant after.variant && before.variantName = after.variantName &&
      before.reason = after.reason && before.errorCode = after.errorCode &&
      before.exposureIdentity = after.exposureIdentity
  | none, none => true
  | _, _ => false

def diffFlags (previous next : Evaluations N) : List String :=
  (previous.flagKeys ++ next.flagKeys.filter (· ∉ previous.flagKeys)).filter fun flagKey =>
    let before := previous.entryOf flagKey
    let after := next.entryOf flagKey
    before.isSome ≠ after.isSome || !entriesEqual before after

/-- What `mergeEvaluations` takes for an incoming entry. -/
def mergeEntry (before : Option (EvaluateAllEntry N)) (changed : Bool) (incoming : EvaluateAllEntry N) :
    EvaluateAllEntry N :=
  match before with
  | none => incoming
  | some before =>
    if changed then incoming
    else if before.exposureTicket = incoming.exposureTicket then before
    else { incoming with variant := before.variant }

omit [DecidableEq N] in
theorem mergeEntry_distinct {before : Option (EvaluateAllEntry N)} {changed : Bool}
    {incoming : EvaluateAllEntry N} (hbefore : ∀ entry, before = some entry → entry.variant.Distinct)
    (hincoming : incoming.variant.Distinct) : (mergeEntry before changed incoming).variant.Distinct := by
  unfold mergeEntry
  split
  · exact hincoming
  · split_ifs
    · exact hincoming
    · exact hbefore _ rfl
    · next before _ _ => exact hbefore before rfl

def mergeEvaluations (previous : Option (Evaluations N)) (next : Evaluations N) (changed : List String) :
    Evaluations N :=
  next.mapEntries
    (fun flagKey => mergeEntry (previous.bind (·.entryOf flagKey)) (flagKey ∈ changed))
    fun flagKey entry hentry => by
      refine mergeEntry_distinct (fun before hbefore => ?_) (next.variants_distinct _ hentry)
      obtain ⟨previous, -, hbefore⟩ := Option.bind_eq_some_iff.mp hbefore
      exact Evaluations.distinct_of_entryOf hbefore

/-! ## 3. The store -/

/-- The listeners of a Flag: a `Set` that is thrown away when it is empty. -/
structure FlagListeners where
  id : Nat
  listeners : List Nat

structure BrowserPayloadStore (N : Type) where
  held : Option (HeldPayload N)
  degraded : Bool
  listeners : String → Option FlagListeners
  nextListeners : Nat

namespace BrowserPayloadStore

def new (initial : Option (HeldPayload N)) : BrowserPayloadStore N := ⟨initial, false, fun _ => none, 0⟩

def setInitial (store : BrowserPayloadStore N) (payload : HeldPayload N) : BrowserPayloadStore N :=
  { store with held := some payload, degraded := false }

def markDegraded (store : BrowserPayloadStore N) : BrowserPayloadStore N := { store with degraded := true }

def markRecovered (store : BrowserPayloadStore N) : BrowserPayloadStore N := { store with degraded := false }

/-- The store, and the Flags that have changed. -/
def swap (store : BrowserPayloadStore N) (payload : HeldPayload N) : BrowserPayloadStore N × List String :=
  let previous := store.held.map (·.evaluations)
  let changed :=
    match previous with
    | none => payload.evaluations.flagKeys
    | some previous => diffFlags previous payload.evaluations
  ({ store with
      held := some ⟨mergeEvaluations previous payload.evaluations changed, payload.etag⟩
      degraded := false }, changed)

/-- What every Flag of an expired Environment is resolved to. -/
def expiredEntry : EvaluateAllEntry N where
  variant := .null
  variantName := none
  reason := .ERROR
  errorCode := some "ENVIRONMENT_EXPIRED"
  exposureIdentity := none
  exposureTicket := none

omit [DecidableEq N] in
theorem expiredEntry_distinct : (expiredEntry : EvaluateAllEntry N).variant.Distinct := .null

def expire (store : BrowserPayloadStore N) : BrowserPayloadStore N × List String :=
  match store.held with
  | none => (store, [])
  | some held =>
    store.swap ⟨held.evaluations.mapEntries (fun _ _ => expiredEntry) fun _ _ _ => expiredEntry_distinct, held.etag⟩

/-- The listeners that are called, with the Flag they are called for. -/
def notify (store : BrowserPayloadStore N) (flagKeys : List String) : List (String × Nat) :=
  flagKeys.flatMap fun flagKey =>
    ((store.listeners flagKey).elim [] (·.listeners)).map (flagKey, ·)

def subscribe (store : BrowserPayloadStore N) (flagKey : String) (listener : Nat) : BrowserPayloadStore N :=
  match store.listeners flagKey with
  | none =>
    { store with
      listeners := Function.update store.listeners flagKey (some ⟨store.nextListeners, [listener]⟩)
      nextListeners := store.nextListeners + 1 }
  | some flagListeners =>
    let listeners :=
      if listener ∈ flagListeners.listeners then flagListeners.listeners
      else flagListeners.listeners ++ [listener]
    { store with
      listeners := Function.update store.listeners flagKey (some { flagListeners with listeners }) }

/-- What `subscribe` has returned is called, with the set it was made for. -/
def unsubscribe (store : BrowserPayloadStore N) (flagKey : String) (listener id : Nat) :
    BrowserPayloadStore N :=
  match store.listeners flagKey with
  | none => store
  | some current =>
    if current.id ≠ id then store
    else
      let listeners := current.listeners.filter (· ≠ listener)
      let current := if listeners.length = 0 then none else some { current with listeners }
      { store with listeners := Function.update store.listeners flagKey current }

end BrowserPayloadStore

/-! ## 4. What a swap does -/

omit [DecidableEq N] in
theorem same_refl (value : Json N) : value.Same value := by
  have hpair : ∀ {α : Type} {l : List α}, ∀ pair ∈ l.zip l, pair.1 = pair.2 := fun {α l} =>
    (map_eq_map_iff_zip (f := @id α) (g := @id α) (l := l)).mp rfl |>.2
  induction value using Json.induction with
  | null => exact .null
  | bool value => exact .bool value
  | num value => exact .num value
  | str value => exact .str value
  | arr items ih =>
    refine .arr rfl fun pair hmem => ?_
    rw [← hpair pair hmem]
    exact ih _ (List.of_mem_zip hmem).1
  | obj members ih =>
    refine .obj (List.Perm.refl _) rfl fun pair hmem => ?_
    rw [← hpair pair hmem]
    exact ih _ (List.of_mem_zip hmem).1

/-- Equal but for the ticket; the values as JSON values. -/
structure SameResolution (before after : EvaluateAllEntry N) : Prop where
  variant : before.variant.Same after.variant
  variantName : before.variantName = after.variantName
  reason : before.reason = after.reason
  errorCode : before.errorCode = after.errorCode
  exposureIdentity : before.exposureIdentity = after.exposureIdentity

/-- Equal with the ticket. -/
structure Follows (held incoming : EvaluateAllEntry N) : Prop extends SameResolution held incoming where
  exposureTicket : held.exposureTicket = incoming.exposureTicket

omit [DecidableEq N] in
theorem Follows.refl (entry : EvaluateAllEntry N) : Follows entry entry :=
  ⟨⟨same_refl _, rfl, rfl, rfl, rfl⟩, rfl⟩

theorem entriesEqual_iff {before after : EvaluateAllEntry N} (hbefore : before.variant.Distinct)
    (hafter : after.variant.Distinct) :
    entriesEqual (some before) (some after) = true ↔ SameResolution before after := by
  simp only [entriesEqual, Bool.and_eq_true, decide_eq_true_eq, canonicalEqual_iff hbefore hafter]
  constructor
  · rintro ⟨⟨⟨⟨hvariant, hname⟩, hreason⟩, hcode⟩, hidentity⟩
    exact ⟨hvariant, hname, hreason, hcode, hidentity⟩
  · rintro ⟨hvariant, hname, hreason, hcode, hidentity⟩
    exact ⟨⟨⟨⟨hvariant, hname⟩, hreason⟩, hcode⟩, hidentity⟩

theorem mem_diffFlags {previous next : Evaluations N} {flagKey : String} :
    flagKey ∈ diffFlags previous next ↔
      ¬Option.Rel SameResolution (previous.entryOf flagKey) (next.entryOf flagKey) := by
  have hbefore := previous.isSome_entryOf flagKey
  have hafter := next.isSome_entryOf flagKey
  rw [diffFlags, List.mem_filter, List.mem_append, List.mem_filter, decide_eq_true_eq, ← hbefore, ← hafter]
  cases hprevious : previous.entryOf flagKey with
  | none =>
    cases hnext : next.entryOf flagKey with
    | none => simp [entriesEqual]
    | some after => simp
  | some before =>
    cases hnext : next.entryOf flagKey with
    | none => simp
    | some after =>
      rw [Option.rel_some_some, ← entriesEqual_iff (Evaluations.distinct_of_entryOf hprevious)
        (Evaluations.distinct_of_entryOf hnext)]
      simp

namespace BrowserPayloadStore

variable {store : BrowserPayloadStore N} {payload : HeldPayload N} {flagKey : String}

def entryOf (store : BrowserPayloadStore N) (flagKey : String) : Option (EvaluateAllEntry N) :=
  store.held.bind (·.evaluations.entryOf flagKey)

/-- **A swap reports** just the Flags whose resolution differs. -/
theorem mem_swap : flagKey ∈ (store.swap payload).2 ↔
    ¬Option.Rel SameResolution (store.entryOf flagKey) (payload.evaluations.entryOf flagKey) := by
  rw [swap, entryOf]
  cases store.held with
  | some held => exact mem_diffFlags
  | none =>
    have hafter := payload.evaluations.isSome_entryOf flagKey
    rw [Option.bind_none, Option.map_none]
    dsimp only
    rw [← hafter]
    cases payload.evaluations.entryOf flagKey <;> simp

theorem swap_entryOf : (store.swap payload).1.entryOf flagKey = (payload.evaluations.entryOf flagKey).map
    (mergeEntry (store.entryOf flagKey) (flagKey ∈ (store.swap payload).2)) := by
  obtain ⟨held, degraded, listeners, nextListeners⟩ := store
  simp only [swap, entryOf, mergeEvaluations, Option.bind_some, Evaluations.mapEntries_entryOf]
  cases held <;> rfl

/-- **What is held after a swap** is the new payload. A Flag that has not changed keeps the value that
is held, which is the same JSON value, and takes the ticket that has come with the payload. -/
theorem swap_follows :
    Option.Rel Follows ((store.swap payload).1.entryOf flagKey) (payload.evaluations.entryOf flagKey) := by
  rw [swap_entryOf]
  cases hincoming : payload.evaluations.entryOf flagKey with
  | none => exact .none
  | some incoming =>
    refine .some ?_
    unfold mergeEntry
    split
    · exact .refl _
    · next before hbefore =>
      split_ifs with hchanged hticket
      · exact .refl _
      all_goals
        simp only [decide_eq_true_eq, mem_swap, hbefore, hincoming, not_not, Option.rel_some_some] at hchanged
      · exact ⟨hchanged, hticket⟩
      · exact ⟨⟨hchanged.variant, rfl, rfl, rfl, rfl⟩, rfl⟩

/-- **A Flag that is not reported** is resolved to the very value it had, and not only to an equal
one: the value that was held goes on, also under a new ticket. -/
theorem swap_keeps (h : flagKey ∉ (store.swap payload).2) :
    ((store.swap payload).1.entryOf flagKey).map (·.toTaggedEntry) =
      (store.entryOf flagKey).map (·.toTaggedEntry) := by
  have hsame := h
  rw [mem_swap, not_not] at hsame
  rw [swap_entryOf, decide_eq_false h]
  revert hsame
  generalize store.entryOf flagKey = before
  generalize payload.evaluations.entryOf flagKey = incoming
  intro hsame
  cases hsame with
  | none => rfl
  | @some before incoming hsame =>
    simp only [Option.map_some, mergeEntry, Bool.false_eq_true, if_false]
    split_ifs
    · rfl
    · simp only [← hsame.variantName, ← hsame.reason, ← hsame.errorCode, ← hsame.exposureIdentity]

end BrowserPayloadStore

/-! ## 5. What a read makes of an entry -/

inductive HeldResolutionKind
  | missing
  | error
  | nullVariant
  | entry
  deriving DecidableEq, Repr

structure HeldResolution (N : Type) where
  kind : HeldResolutionKind
  details : Seen.ResolutionDetails N

def heldReason : EvaluateAllReason → Seen.ResolutionReason
  | .SPLIT => .SPLIT
  | .DEFAULT => .DEFAULT
  | .DISABLED => .DISABLED
  | .ERROR => .ERROR

/-- `JSON.stringify` of a text. -/
def quoted (text : String) : String := String.ofList (stringify (.str text : Json Nat))

def deriveHeldResolution (flagKey : String) (entry : Option (EvaluateAllEntry N)) (defaultValue : Json N) :
    HeldResolution N :=
  match entry with
  | none => ⟨.missing, {
      value := defaultValue
      variantName := none
      reason := .ERROR
      errorCode := some "FLAG_NOT_FOUND"
      errorMessage := some (s!"Flag key {quoted flagKey} is absent from the held Precomputed Evaluations") }⟩
  | some entry =>
    if entry.reason = .ERROR then ⟨.error, {
      value := defaultValue
      variantName := none
      reason := .ERROR
      errorCode := some (entry.errorCode.getD "INTERNAL_SERVER_ERROR")
      errorMessage := some (s!"Held evaluation for {quoted flagKey} carries reason ERROR") }⟩
    else
      match entry.variant with
      | .null => ⟨.nullVariant, ⟨defaultValue, none, .DEFAULT, none, none⟩⟩
      | variant => ⟨.entry, ⟨variant, entry.variantName, heldReason entry.reason, none, none⟩⟩

def decorateHeldDetails (details : Seen.ResolutionDetails N) (degraded : Bool) : Seen.ResolutionDetails N :=
  if degraded then
    ⟨details.value, details.variantName, .STALE, some "PROVIDER_NOT_READY", none⟩
  else ⟨details.value, details.variantName, details.reason, none, none⟩

def HeldResolutionKind.name : HeldResolutionKind → String
  | .missing => "missing"
  | .error => "error"
  | .nullVariant => "null-variant"
  | .entry => "entry"

def LOGGED_RESOLUTION_KINDS : List HeldResolutionKind := [.missing, .error, .nullVariant]

/-- `dedupeKey` of `logHeldResolution`. -/
def dedupeKey (flagKey : String) (kind : HeldResolutionKind) : String := flagKey ++ ":" ++ kind.name

def rearmHeldResolutionLogs (loggedResolutions flagKeys : List String) : List String :=
  loggedResolutions.filter (· ∉ flagKeys.flatMap fun flagKey => LOGGED_RESOLUTION_KINDS.map (dedupeKey flagKey))

/-- What is logged of a resolution that serves the default. -/
def heldFault (flagKey : String) (resolution : HeldResolution N) : SplitchSdkError :=
  match resolution.kind with
  | .missing => ⟨"FLAG_NOT_FOUND",
      resolution.details.errorMessage.getD "Flag not found in held evaluations",
      "Confirm the Flag Key exists in this App/Environment, then re-init", none⟩
  | .error => ⟨resolution.details.errorCode.getD "INTERNAL_SERVER_ERROR",
      resolution.details.errorMessage.getD "Held evaluation is ERROR",
      "Inspect the held errorCode, then re-init after the underlying fault clears", none⟩
  | _ => ⟨"VALIDATION_ERROR",
      s!"Held evaluation for {quoted flagKey} has a null variant with a non-ERROR reason",
      "Re-init after the Flag's Variants are consistent; the caller's default was returned without " ++
        "recording an Exposure", none⟩

/-- A Flag Key may have colons, a kind has none. -/
theorem dedupeKey_inj {flagKey flagKey' : String} {kind kind' : HeldResolutionKind}
    (h : dedupeKey flagKey kind = dedupeKey flagKey' kind') : flagKey = flagKey' ∧ kind = kind' := by
  have hname : ∀ kind : HeldResolutionKind, ∀ c ∈ kind.name.toList, (c != ':') = true := by
    intro kind
    cases kind <;> simp [HeldResolutionKind.name]
  have hback : ∀ (flagKey : String) (kind : HeldResolutionKind),
      (dedupeKey flagKey kind).toList.reverse = kind.name.toList.reverse ++ ':' :: flagKey.toList.reverse := by
    intro flagKey kind
    simp [dedupeKey]
  have htake : ∀ (flagKey : String) (kind : HeldResolutionKind),
      (dedupeKey flagKey kind).toList.reverse.takeWhile (· != ':') = kind.name.toList.reverse := by
    intro flagKey kind
    rw [hback, List.takeWhile_append_of_pos fun c hc => hname kind c (List.mem_reverse.mp hc)]
    simp
  have hkind : kind = kind' := by
    have hnames := htake flagKey kind
    rw [h, htake, List.reverse_inj] at hnames
    cases kind <;> cases kind' <;> simp [HeldResolutionKind.name] at hnames ⊢
  subst hkind
  have hflag := hback flagKey kind
  rw [h, hback, List.append_cancel_left_eq, List.cons.injEq, List.reverse_inj] at hflag
  exact ⟨String.toList_inj.mp hflag.2.symm, rfl⟩

omit [DecidableEq N] in
/-- The ticket does not count for a read. -/
theorem deriveHeldResolution_congr {flagKey : String} {entry entry' : Option (EvaluateAllEntry N)}
    (h : entry.map (·.toTaggedEntry) = entry'.map (·.toTaggedEntry)) (defaultValue : Json N) :
    deriveHeldResolution flagKey entry defaultValue = deriveHeldResolution flagKey entry' defaultValue := by
  cases entry <;> cases entry' <;> simp only [Option.map_none, Option.map_some, reduceCtorEq,
    Option.some.injEq] at h
  · rfl
  · next entry entry' =>
    obtain ⟨tagged, ticket⟩ := entry
    obtain ⟨tagged', ticket'⟩ := entry'
    cases h
    rfl

/-- Equal, but for the order of members in the value. -/
structure HeldResolution.Same (resolution resolution' : HeldResolution N) : Prop where
  kind : resolution.kind = resolution'.kind
  value : resolution.details.value.Same resolution'.details.value
  variantName : resolution.details.variantName = resolution'.details.variantName
  reason : resolution.details.reason = resolution'.details.reason
  errorCode : resolution.details.errorCode = resolution'.details.errorCode
  errorMessage : resolution.details.errorMessage = resolution'.details.errorMessage

omit [DecidableEq N] in
theorem deriveHeldResolution_same {flagKey : String} {entry entry' : Option (EvaluateAllEntry N)}
    (h : Option.Rel SameResolution entry entry') (defaultValue : Json N) :
    (deriveHeldResolution flagKey entry defaultValue).Same
      (deriveHeldResolution flagKey entry' defaultValue) := by
  cases h with
  | none => exact ⟨rfl, same_refl _, rfl, rfl, rfl, rfl⟩
  | @some entry entry' hsame =>
    simp only [deriveHeldResolution, hsame.reason]
    split_ifs
    · exact ⟨rfl, same_refl _, rfl, rfl, by rw [hsame.errorCode], rfl⟩
    · have hvariant := hsame.variant
      revert hvariant
      generalize entry.variant = variant
      generalize entry'.variant = variant'
      rintro (_ | _ | _ | _ | ⟨hlength, hitems⟩ | ⟨hperm, hkeys, hvalues⟩)
      · exact ⟨rfl, same_refl _, rfl, rfl, rfl, rfl⟩
      · exact ⟨rfl, same_refl _, hsame.variantName, rfl, rfl, rfl⟩
      · exact ⟨rfl, same_refl _, hsame.variantName, rfl, rfl, rfl⟩
      · exact ⟨rfl, same_refl _, hsame.variantName, rfl, rfl, rfl⟩
      · exact ⟨rfl, .arr hlength hitems, hsame.variantName, rfl, rfl, rfl⟩
      · exact ⟨rfl, .obj hperm hkeys hvalues, hsame.variantName, rfl, rfl, rfl⟩

end Browser

end Splitch
