/-
# What one writer operation can do

An operation of the Assignment writer writes to the storage of its object and to KV, and may throw before,
between or after the two.  This is the inversion of each operation: when it is rejected before it writes,
what it stores, and what a resolved one leaves in KV.  Everything said later about runs of the writer rests
on these and opens no definition of the writer again.

The storage is read abstractly, as the winners and the cutoff and the fence, with one lemma for each of its
changes.  KV is the part that fails.  A write there resolves and is applied, or it throws and may have been
applied all the same (`kvWrite_cases`), so a lemma about KV has two halves: what may be there in any case,
and what is there when the write has resolved (`writeThrough_blob`, `writeThrough_ok`).

A put is the operation with the most ways out.  It is rejected by the fence, by the cutoff or by the version,
or it is admitted, and then the winner is recorded before it is written through, so that a write-through that
throws leaves a winner behind (`put_cases`).  A deletion is never rejected; a reset extends the fence and
drops all winners.
-/
import Splitch.Assignment.AssignmentWriter

namespace Splitch

open StateActions

/-! ## 1. The storage, abstractly -/

namespace AssignmentWriterStorage

/-- The identity versions no put is admitted under. -/
def fenced (storage : AssignmentWriterStorage) : List String :=
  Splitch.fenced storage.appIdentityResetFence

/-- The storage lets the put through to the winners. -/
structure Admits (storage : AssignmentWriterStorage) (input : HashedAssignmentPutInput) :
    Prop where
  version : ∃ version, input.identityVersion.elim (keyVersionOf input.targetingKeyHash) .ok
    = .ok version ∧ version ∉ storage.fenced
  source : ∃ t, input.sourceCreatedAtMs = some t ∧ ∀ c ∈ storage.entityDeletionCutoff, c < t

/-- Who has won the Experiment once the put is through: the winner there is, or the put. -/
def winnerFor (storage : AssignmentWriterStorage) (input : HashedAssignmentPutInput) :
    StoredAssignment := storage.winners[input.experimentId]?.getD input

/-- The put is recorded, if there is no winner. -/
def record (storage : AssignmentWriterStorage) (input : HashedAssignmentPutInput) :
    AssignmentWriterStorage :=
  if storage.winners[input.experimentId]?.isSome then storage
  else { storage with winners := storage.winners.insert input.experimentId input }

def deleteBefore (storage : AssignmentWriterStorage) (deleteBeforeTsMs : Int) :
    AssignmentWriterStorage :=
  let cutoff := storage.entityDeletionCutoff.elim deleteBeforeTsMs (max · deleteBeforeTsMs)
  { storage with
    winners := AssignmentStoreWriter.survivors cutoff storage.winners
    entityDeletionCutoff := some cutoff }

theorem record_winners (storage : AssignmentWriterStorage) (input : HashedAssignmentPutInput)
    (E : String) : (storage.record input).winners[E]? =
      if E = input.experimentId then some (storage.winnerFor input) else storage.winners[E]? := by
  unfold record winnerFor
  cases hwinner : storage.winners[input.experimentId]? with
  | some winner =>
    rw [Option.isSome_some, if_pos rfl, Option.getD_some]
    split
    · rename_i heq
      rw [heq, hwinner]
    · rfl
  | none =>
    rw [Option.isSome_none, if_neg (by simp), Std.ExtTreeMap.getElem?_insert, Option.getD_none]
    by_cases heq : E = input.experimentId
    · rw [heq, if_pos rfl, if_pos Std.ReflCmp.compare_self]
    · rw [if_neg heq, if_neg]
      exact fun hc => heq (Std.LawfulEqCmp.compare_eq_iff_eq.mp hc).symm

@[simp] theorem record_cutoff (storage : AssignmentWriterStorage)
    (input : HashedAssignmentPutInput) :
    (storage.record input).entityDeletionCutoff = storage.entityDeletionCutoff := by
  unfold record
  split <;> rfl

@[simp] theorem record_fence (storage : AssignmentWriterStorage)
    (input : HashedAssignmentPutInput) :
    (storage.record input).appIdentityResetFence = storage.appIdentityResetFence := by
  unfold record
  split <;> rfl

/-- The winners that a deletion leaves are those above its cutoff. -/
theorem deleteBefore_winners (storage : AssignmentWriterStorage) (deleteBeforeTsMs : Int)
    (E : String) (a : StoredAssignment) :
    (storage.deleteBefore deleteBeforeTsMs).winners[E]? = some a ↔
      storage.winners[E]? = some a ∧ ∃ t, a.sourceCreatedAtMs = some t ∧
        ∀ c ∈ (storage.deleteBefore deleteBeforeTsMs).entityDeletionCutoff, c < t := by
  simp only [deleteBefore, AssignmentStoreWriter.survivors, Std.ExtTreeMap.getElem?_filter',
    Option.filter_eq_some_iff, Option.any_eq_true, decide_eq_true_eq, Option.mem_def,
    Option.some.injEq, forall_eq']

end AssignmentWriterStorage

namespace AssignmentStoreWriter

variable {fate : KvFate} {world world' : AssignmentWriterWorld}

@[simp] theorem getStorage_apply : getStorage world = (.ok world.storage, world) := rfl

@[simp] theorem setStorage_apply (f : AssignmentWriterStorage → AssignmentWriterStorage) :
    setStorage f world = (.ok (), { world with storage := f world.storage }) := rfl

/-! ## 2. The fence -/

variable (world) in
/-- The fence is extended by the versions, or nothing is changed. -/
theorem extendFence_cases (destroyedVersions : List String) :
    (∃ message, extendFence destroyedVersions world = (.error message, world)) ∨
      ∃ next, extendFence destroyedVersions world = (.ok next,
          { world with storage := { world.storage with appIdentityResetFence := some next } }) ∧
        ∀ v, v ∈ next ↔ v ∈ world.storage.fenced ∨ v ∈ destroyedVersions := by
  unfold extendFence
  rw [andThen_of_ok getStorage_apply]
  cases hnext : extendAppIdentityResetFence world.storage.appIdentityResetFence
      destroyedVersions with
  | error message => exact Or.inl ⟨message, rfl⟩
  | ok next => exact Or.inr ⟨next, rfl, extendAppIdentityResetFence_ok hnext⟩

/-! ## 3. KV -/

/-- KV holds `value` at `key`. -/
def mirrored (world : AssignmentWriterWorld) (key : String)
    (value : Option AssignmentStoreValue) : AssignmentWriterWorld :=
  { world with kv := Function.update world.kv key value }

variable (fate world) in
/-- A KV write resolves and is applied, or it throws and may have been. -/
theorem kvWrite_cases (key : String) (value : Option AssignmentStoreValue) :
    kvWrite key value fate world = (.ok (), mirrored world key value) ∨
      ∃ cause, kvWrite key value fate world = (.error cause, mirrored world key value) ∨
        kvWrite key value fate world = (.error cause, world) := by
  unfold kvWrite
  cases hwrite : fate.write with
  | done => exact Or.inl rfl
  | failed applied cause =>
    cases applied with
    | true => exact Or.inr ⟨cause, Or.inl rfl⟩
    | false => exact Or.inr ⟨cause, Or.inr rfl⟩

variable (fate world) in
theorem kvWrite_storage (key : String) (value : Option AssignmentStoreValue) :
    (kvWrite key value fate world).2.storage = world.storage := by
  rcases kvWrite_cases fate world key value with h | ⟨_, h | h⟩ <;> rw [h] <;>
    rfl

theorem kvWrite_ok {key : String} {value : Option AssignmentStoreValue}
    (h : kvWrite key value fate world = (.ok (), world')) :
    world' = mirrored world key value := by
  rcases kvWrite_cases fate world key value with he | ⟨_, he | he⟩ <;>
    rw [he] at h <;> cases h
  rfl

/-- What KV holds of an Entity. -/
def blob (world : AssignmentWriterWorld) (key : String) : AssignmentStoreValue :=
  (world.kv key).getD ∅

/-- The read key of a stored Assignment. -/
def keyOf (a : StoredAssignment) : String := assignmentKey a.appId a.idType a.targetingKeyHash

variable (fate world) in
theorem readAssignmentValue_cases (key : String) :
    (∃ message, readAssignmentValue key fate world = (.error message, world)) ∨
      readAssignmentValue key fate world = (.ok (blob world key), world) := by
  unfold readAssignmentValue
  cases fate.readFails with
  | true => exact Or.inl ⟨_, rfl⟩
  | false => exact Or.inr rfl

theorem writeThrough_eq (a : StoredAssignment) :
    writeThrough a fate = readAssignmentValue (keyOf a) fate >>= fun current =>
      if hasMember current a.experimentId then pure ()
      else kvWrite (keyOf a) (some (mergeAssignmentValue current a)) fate := rfl

variable (fate world) in
theorem writeThrough_storage (a : StoredAssignment) :
    (writeThrough a fate world).2.storage = world.storage := by
  rw [writeThrough_eq]
  rcases readAssignmentValue_cases fate world (keyOf a) with ⟨m, h⟩ | h
  · rw [andThen_of_error h]
  · rw [andThen_of_ok h]
    split
    · rfl
    · exact kvWrite_storage _ _ _ _

variable (fate world) in
/-- A write-through leaves KV as it is or merges into it. -/
theorem writeThrough_blob (a : StoredAssignment) :
    blob (writeThrough a fate world).2 (keyOf a) = blob world (keyOf a) ∨
      blob (writeThrough a fate world).2 (keyOf a)
        = mergeAssignmentValue (blob world (keyOf a)) a := by
  rw [writeThrough_eq]
  rcases readAssignmentValue_cases fate world (keyOf a) with ⟨m, h⟩ | h
  · rw [andThen_of_error h]
    exact Or.inl rfl
  · rw [andThen_of_ok h]
    split
    · exact Or.inl rfl
    · rcases kvWrite_cases fate world (keyOf a)
        (some (mergeAssignmentValue (blob world (keyOf a)) a)) with hw | ⟨_, hw | hw⟩ <;> rw [hw]
      · exact Or.inr (by simp [blob, mirrored])
      · exact Or.inr (by simp [blob, mirrored])
      · exact Or.inl rfl

/-- **A write-through that resolves leaves the merge in KV**, whether or not it had to write: where
the Experiment has an entry already, the merge is what is there, and nothing is written. -/
theorem writeThrough_ok {a : StoredAssignment} (h : writeThrough a fate world = (.ok (), world')) :
    world'.storage = world.storage ∧
      blob world' (keyOf a) = mergeAssignmentValue (blob world (keyOf a)) a := by
  have hstorage := writeThrough_storage fate world a
  rw [h] at hstorage
  refine ⟨hstorage, ?_⟩
  rw [writeThrough_eq] at h
  rcases readAssignmentValue_cases fate world (keyOf a) with ⟨m, hr⟩ | hr
  · rw [andThen_of_error hr] at h
    cases h
  · rw [andThen_of_ok hr] at h
    split at h
    · rename_i hmember
      cases h
      rw [mergeAssignmentValue, if_pos hmember]
    · rw [kvWrite_ok h]
      simp [blob, mirrored, keyOf]

/-- What the rewrite puts into KV. -/
def mirrorOf (winners : Std.ExtTreeMap String StoredAssignment compare) :
    Option AssignmentStoreValue :=
  if (mergeWinners winners).isEmpty then none else some (mergeWinners winners)

variable (fate world) in
theorem rewriteKvFromDurableWinners_storage (identity : Entity) :
    (rewriteKvFromDurableWinners identity fate world).2.storage = world.storage :=
  kvWrite_storage _ _ _ _

theorem rewriteKvFromDurableWinners_ok {identity : Entity}
    (h : rewriteKvFromDurableWinners identity fate world = (.ok (), world')) :
    world' = mirrored world identity.key (mirrorOf world.storage.winners) :=
  kvWrite_ok h

/-! ## 4. The operations -/

variable (fate world) in
/-- **A put** is rejected before it writes, or it is admitted: then the winner is recorded, and
written through. -/
theorem put_cases (input : HashedAssignmentPutInput) :
    (∃ message, put input fate world = (.error message, world)) ∨
      (world.storage.Admits input ∧ ∃ status, put input fate world =
        (writeThrough (world.storage.winnerFor input) fate >>= fun _ =>
            pure ⟨status, entryFrom (world.storage.winnerFor input)⟩)
          { world with storage := world.storage.record input }) := by
  unfold put
  cases hsource : input.sourceCreatedAtMs with
  | none => exact Or.inl ⟨_, rfl⟩
  | some t =>
    dsimp only
    cases hversion : input.identityVersion.elim (keyVersionOf input.targetingKeyHash) .ok with
    | error message => exact Or.inl ⟨message, rfl⟩
    | ok version =>
      dsimp only
      rw [andThen_of_ok getStorage_apply]
      cases hreset : isAppIdentityVersionReset world.storage.appIdentityResetFence version with
      | error message => exact Or.inl ⟨message, rfl⟩
      | ok reset =>
        have hfenced := isAppIdentityVersionReset_ok hreset
        cases reset with
        | true => exact Or.inl ⟨_, rfl⟩
        | false =>
          dsimp only
          by_cases hcutoff : world.storage.entityDeletionCutoff.any (t ≤ ·) = true
          · rw [if_pos hcutoff]
            exact Or.inl ⟨_, rfl⟩
          · have hadmits : world.storage.Admits input := by
              refine ⟨⟨version, hversion, of_decide_eq_false hfenced.symm⟩, t, hsource,
                fun c hc => ?_⟩
              rw [Option.mem_def.mp hc] at hcutoff
              simpa using hcutoff
            rw [if_neg hcutoff]
            refine Or.inr ⟨hadmits, ?_⟩
            unfold AssignmentWriterStorage.winnerFor AssignmentWriterStorage.record
            cases world.storage.winners[input.experimentId]? with
            | some existing => exact ⟨.existing, rfl⟩
            | none => exact ⟨.stored, rfl⟩

/-- A deletion is never rejected before it writes. -/
theorem deleteEntity_eq (identity : Entity) (deleteBeforeTsMs : Int) :
    deleteEntity identity deleteBeforeTsMs fate world =
      (rewriteKvFromDurableWinners identity fate >>= fun _ =>
          pure "assignment-do-cutoff-tombstone-v2")
        { world with storage := world.storage.deleteBefore deleteBeforeTsMs } := rfl

/-- The storage after an App reset that has extended the fence to `next`. -/
def wiped (storage : AssignmentWriterStorage) (next : List String) : AssignmentWriterStorage :=
  { storage with winners := ∅, appIdentityResetFence := some next }

variable (world) in
theorem exportEntity_world : (exportEntity world).2 = world := by
  unfold exportEntity
  rw [andThen_of_ok getStorage_apply]
  split
  · rfl
  · rw [andThen_of_ok getStorage_apply]
    cases readAppIdentityResetFence world.storage.appIdentityResetFence with
    | error message => rfl
    | ok fence => rfl

variable (fate world) in
/-- **An App reset** is rejected before it writes, or extends the fence and drops all winners. -/
theorem resetApp_cases (identity : Entity) (destroyedVersions : List String) :
    (∃ message, resetApp identity destroyedVersions fate world = (.error message, world)) ∨
      ∃ next, (∀ v, v ∈ next ↔ v ∈ world.storage.fenced ∨ v ∈ destroyedVersions) ∧
        ∃ rest : WriterM AppResetProof, (∀ w, (rest w).2 = w) ∧
          resetApp identity destroyedVersions fate world =
            (rewriteKvFromDurableWinners identity fate >>= fun _ => rest)
              { world with storage := wiped world.storage next } := by
  unfold resetApp
  rcases extendFence_cases world destroyedVersions with
    ⟨m, hm⟩ | ⟨next, hnext, hmem⟩
  · exact Or.inl ⟨m, andThen_of_error hm⟩
  · rw [andThen_of_ok hnext, andThen_of_ok (setStorage_apply _)]
    refine Or.inr ⟨next, hmem, _, fun w => ?_, rfl⟩
    have hexport := exportEntity_world w
    rw [andThen_apply]
    cases hreply : (exportEntity w).1 with
    | error message => exact hexport
    | ok exported =>
      dsimp only
      split <;> exact hexport

/-! ## 5. What resolves, and what is left -/

/-- **A put that resolves** was admitted, has recorded the winner and written it through. So the merge
in KV is of the winner and not of the input: where the two differ, the put of a loser still publishes
the winner. -/
theorem put_ok {input : HashedAssignmentPutInput} {result : AssignmentStorePutResult}
    (h : put input fate world = (.ok result, world')) :
    world.storage.Admits input ∧ world'.storage = world.storage.record input ∧
      result.assignment = entryFrom (world.storage.winnerFor input) ∧
      blob world' (keyOf (world.storage.winnerFor input))
        = mergeAssignmentValue (blob world (keyOf (world.storage.winnerFor input)))
          (world.storage.winnerFor input) := by
  rcases put_cases fate world input with ⟨m, hm⟩ | ⟨hadmits, status, he⟩
  · rw [hm] at h
    cases h
  · rw [he] at h
    obtain ⟨_, w, hw, hpure⟩ := andThen_eq_ok.mp h
    cases hpure
    obtain ⟨hstorage, hblob⟩ := writeThrough_ok hw
    exact ⟨hadmits, hstorage, rfl, hblob⟩

theorem deleteEntity_ok {identity : Entity} {deleteBeforeTsMs : Int} {proof : String}
    (h : deleteEntity identity deleteBeforeTsMs fate world = (.ok proof, world')) :
    world'.storage = world.storage.deleteBefore deleteBeforeTsMs ∧
      world'.kv identity.key = mirrorOf world'.storage.winners := by
  rw [deleteEntity_eq] at h
  obtain ⟨_, w, hw, hpure⟩ := andThen_eq_ok.mp h
  cases hpure
  rw [rewriteKvFromDurableWinners_ok hw]
  exact ⟨rfl, Function.update_self ..⟩

theorem resetApp_ok {identity : Entity} {destroyedVersions : List String} {proof : AppResetProof}
    (h : resetApp identity destroyedVersions fate world = (.ok proof, world')) :
    (∀ v ∈ destroyedVersions, v ∈ world'.storage.fenced) ∧
      world'.kv identity.key = mirrorOf world'.storage.winners := by
  rcases resetApp_cases fate world identity destroyedVersions with
    ⟨m, hm⟩ | ⟨next, hmem, rest, hrest, he⟩
  · rw [hm] at h
    cases h
  · rw [he] at h
    obtain ⟨_, w, hw, hpure⟩ := andThen_eq_ok.mp h
    have hsame := hrest w
    rw [hpure] at hsame
    have hsame : world' = w := hsame
    rw [hsame, rewriteKvFromDurableWinners_ok hw]
    exact ⟨fun v hv => (hmem v).mpr (Or.inr hv), Function.update_self ..⟩

end AssignmentStoreWriter

/-! ## 6. Steps of the writer -/

/-- What an event can do to the storage, whether or not it resolves. -/
inductive StorageStep (entity : Entity) (storage : AssignmentWriterStorage) :
    WriterEvent → AssignmentWriterStorage → Prop
  | rejected (event) : StorageStep entity storage event storage
  | recorded (put fate) (h : storage.Admits (put.input entity)) :
      StorageStep entity storage (.put put fate) (storage.record (put.input entity))
  | deleted (deleteBeforeTsMs fate) :
      StorageStep entity storage (.deleteEntity deleteBeforeTsMs fate)
        (storage.deleteBefore deleteBeforeTsMs)
  | wiped (destroyedVersions fate next)
      (h : ∀ v, v ∈ next ↔ v ∈ storage.fenced ∨ v ∈ destroyedVersions) :
      StorageStep entity storage (.resetApp destroyedVersions fate)
        (AssignmentStoreWriter.wiped storage next)

section Steps

open AssignmentStoreWriter

variable {entity : Entity} {world : AssignmentWriterWorld}

variable (entity world) in
theorem writerStep_storage (event : WriterEvent) :
    StorageStep entity world.storage event ((assignmentWriter entity).next world event).storage := by
  simp only [Machine.next, assignmentWriter]
  cases event with
  | put entityPut fate =>
    rw [writerStep, mapOk_apply]
    rcases put_cases fate world (entityPut.input entity) with
      ⟨m, hm⟩ | ⟨hadmits, status, he⟩
    · rw [hm]
      exact .rejected _
    · rw [he, andThen_state fun _ _ => rfl, writeThrough_storage]
      exact .recorded entityPut fate hadmits
  | deleteEntity deleteBeforeTsMs fate =>
    rw [writerStep, mapOk_apply, deleteEntity_eq, andThen_state fun _ _ => rfl,
      rewriteKvFromDurableWinners_storage]
    exact .deleted deleteBeforeTsMs fate
  | resetApp destroyedVersions fate =>
    rw [writerStep, mapOk_apply]
    rcases resetApp_cases fate world entity destroyedVersions with
      ⟨m, hm⟩ | ⟨next, hmem, rest, hrest, he⟩
    · rw [hm]
      exact .rejected _
    · rw [he, andThen_state fun _ w => hrest w, rewriteKvFromDurableWinners_storage]
      exact .wiped destroyedVersions fate next hmem

/-- What resolves, resolves in the operation the event is for. -/
theorem writer_ok {event : WriterEvent} {reply : WriterReply}
    (h : (assignmentWriter entity).out world event = .ok reply) :
    writerStep entity event world = (.ok reply, (assignmentWriter entity).next world event) :=
  Prod.ext h rfl

end Steps

end Splitch
