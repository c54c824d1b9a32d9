/-
# First touch wins, and deletion is final

The durable winners of one Entity over runs of any length, with cutoffs and identity versions in
any order and any KV failure in between.

* The first put that is stored for an Experiment decides it, until a deletion removes it
  (`StoredSince`, `winner_of_storedSince`).
* A winner lies above every cutoff an Entity deletion has completed with, because the tombstone
  does and only ever rises (`Upright.above`, `cutoff_run`).
* A fenced identity version stays fenced (`fenced_run`).
* A deletion that resolves leaves in KV exactly the winners (`mirrorOf_eq`).
-/
import Splitch.Assignment.WriterEffects

namespace Splitch

/-! ## 1. The invariant of the storage -/

/-- The durable winner of an Experiment. -/
def winner (world : AssignmentWriterWorld) (E : ExperimentId) : Option StoredAssignment :=
  world.storage.winners[E.name]?

/-- Every winner is a put of this Entity, under its own Experiment, above the tombstone. -/
structure Upright (entity : Entity) (storage : AssignmentWriterStorage) : Prop where
  own : ∀ (name : String) (a : StoredAssignment), storage.winners[name]? = some a →
    ∃ put : EntityPut, put.input entity = a ∧ put.experimentId.name = name
  above : ∀ (name : String) (a : StoredAssignment), storage.winners[name]? = some a →
    ∃ t, a.sourceCreatedAtMs = some t ∧ ∀ c ∈ storage.entityDeletionCutoff, c < t

section Upright

variable {entity : Entity} {storage storage' : AssignmentWriterStorage}

theorem Upright.winnerFor (h : Upright entity storage) (put : EntityPut) :
    ∃ put' : EntityPut, put'.input entity = storage.winnerFor (put.input entity) ∧
      put'.experimentId.name = put.experimentId.name := by
  unfold AssignmentWriterStorage.winnerFor
  cases hwinner : storage.winners[(put.input entity).experimentId]? with
  | none => exact ⟨put, rfl, rfl⟩
  | some a => exact h.own _ a hwinner

/-- The winner for a put goes where the put goes. -/
theorem Upright.winnerFor_key (h : Upright entity storage) (put : EntityPut) :
    AssignmentStoreWriter.keyOf (storage.winnerFor (put.input entity)) = entity.key ∧
      (storage.winnerFor (put.input entity)).experimentId = put.experimentId.name := by
  obtain ⟨put', hput, hexp⟩ := h.winnerFor put
  rw [← hput]
  exact ⟨rfl, hexp⟩

theorem Upright.step {event : WriterEvent} (h : Upright entity storage)
    (hstep : StorageStep entity storage event storage') : Upright entity storage' := by
  cases hstep with
  | rejected => exact h
  | recorded put fate hadmits =>
    refine ⟨fun name a ha => ?_, fun name a ha => ?_⟩
    · rw [AssignmentWriterStorage.record_winners] at ha
      split at ha
      · rename_i hname
        cases ha
        obtain ⟨put', hput, hexp⟩ := h.winnerFor put
        exact ⟨put', hput, hexp.trans hname.symm⟩
      · exact h.own name a ha
    · rw [AssignmentWriterStorage.record_cutoff]
      rw [AssignmentWriterStorage.record_winners] at ha
      split at ha
      · cases ha
        unfold AssignmentWriterStorage.winnerFor
        cases hwinner : storage.winners[(put.input entity).experimentId]? with
        | none => exact hadmits.source
        | some a => exact h.above _ a hwinner
      · exact h.above name a ha
  | deleted deleteBeforeTsMs fate =>
    refine ⟨fun name a ha => ?_, fun name a ha => ?_⟩
    · rw [AssignmentWriterStorage.deleteBefore_winners] at ha
      exact h.own name a ha.1
    · exact ((AssignmentWriterStorage.deleteBefore_winners _ _ _ _).mp ha).2
  | wiped destroyedVersions fate next hnext =>
    refine ⟨fun name a ha => ?_, fun name a ha => ?_⟩ <;>
    · simp only [AssignmentStoreWriter.wiped, Std.ExtTreeMap.getElem?_empty] at ha
      cases ha

end Upright

theorem assignmentWriter_upright (entity : Entity) (es : List WriterEvent) :
    Upright entity ((assignmentWriter entity).run es).storage := by
  refine Machine.exec_invariant (assignmentWriter entity)
    (I := fun world : AssignmentWriterWorld => Upright entity world.storage)
    (fun world event h => h.step (writerStep_storage entity world event)) ?_ es
  refine ⟨fun name a ha => ?_, fun name a ha => ?_⟩ <;>
  · simp only [assignmentWriter, AssignmentWriterWorld.empty, Std.ExtTreeMap.getElem?_empty] at ha
    cases ha

/-! ## 2. The first put stored -/

section FirstTouch

variable {entity : Entity}

/-- A step keeps a winner or removes it. -/
theorem winner_step {world : AssignmentWriterWorld} {event : WriterEvent} {E : ExperimentId}
    {a : StoredAssignment} (h : winner world E = some a) :
    winner ((assignmentWriter entity).next world event) E = some a ∨
      winner ((assignmentWriter entity).next world event) E = none := by
  have hstep := writerStep_storage entity world event
  unfold winner at h ⊢
  generalize ((assignmentWriter entity).next world event).storage = storage' at hstep
  cases hstep with
  | rejected => exact Or.inl h
  | recorded put fate hadmits =>
    refine Or.inl ?_
    rw [AssignmentWriterStorage.record_winners]
    split
    · rename_i hname
      rw [AssignmentWriterStorage.winnerFor, ← hname, h, Option.getD_some]
    · exact h
  | deleted deleteBeforeTsMs fate =>
    cases hafter : (world.storage.deleteBefore deleteBeforeTsMs).winners[E.name]? with
    | none => exact Or.inr rfl
    | some a' =>
      rw [((AssignmentWriterStorage.deleteBefore_winners _ _ _ _).mp hafter).1] at h
      exact Or.inl h
  | wiped destroyedVersions fate next hnext =>
    exact Or.inr Std.ExtTreeMap.getElem?_empty

/-- A winner that a step brings is that of a put for the Experiment. -/
theorem winner_new {world : AssignmentWriterWorld} {event : WriterEvent} {E : ExperimentId}
    {a : StoredAssignment} (hnone : winner world E = none)
    (h : winner ((assignmentWriter entity).next world event) E = some a) :
    ∃ put fate, event = .put put fate ∧ put.experimentId = E ∧ a = put.input entity := by
  have hstep := writerStep_storage entity world event
  unfold winner at h hnone
  generalize ((assignmentWriter entity).next world event).storage = storage' at hstep h
  cases hstep with
  | rejected =>
    rw [hnone] at h
    cases h
  | recorded put fate hadmits =>
    rw [AssignmentWriterStorage.record_winners] at h
    split at h
    · rename_i hname
      rw [AssignmentWriterStorage.winnerFor, ← hname, hnone, Option.getD_none] at h
      exact ⟨put, fate, rfl, ExperimentId.ext hname.symm, (Option.some.inj h).symm⟩
    · rw [hnone] at h
      cases h
  | deleted deleteBeforeTsMs fate =>
    rw [((AssignmentWriterStorage.deleteBefore_winners _ _ _ _).mp h).1] at hnone
    cases hnone
  | wiped destroyedVersions fate next hnext =>
    simp only [AssignmentStoreWriter.wiped, Std.ExtTreeMap.getElem?_empty] at h
    cases h

/-- `first` was stored for `E` when it had no winner, and since then `E` has never been without
one. -/
def StoredSince (entity : Entity) (es : List WriterEvent) (E : ExperimentId)
    (first : EntityPut) : Prop :=
  ∃ pre fate mid, es = pre ++ [.put first fate] ++ mid ∧ first.experimentId = E ∧
    winner ((assignmentWriter entity).run pre) E = none ∧
    ∀ p, p <+: mid →
      winner ((assignmentWriter entity).run (pre ++ [.put first fate] ++ p)) E ≠ none

/-- **The first put stored is the winner** until it is removed. By induction on what has happened
since: an event leaves a winner as it is or removes it, and the second is excluded for as long as one
is there. -/
theorem winner_of_storedSince {es : List WriterEvent} {E : ExperimentId} {first : EntityPut}
    (h : StoredSince entity es E first) :
    winner ((assignmentWriter entity).run es) E = some (first.input entity) := by
  obtain ⟨pre, fate, mid, rfl, rfl, hnone, hkept⟩ := h
  suffices ∀ p, p <+: mid → winner ((assignmentWriter entity).run
      (pre ++ [.put first fate] ++ p)) first.experimentId = some (first.input entity) from
    this mid (List.prefix_refl mid)
  intro p
  induction p using List.reverseRecOn with
  | nil =>
    intro hp
    obtain ⟨a, ha⟩ := Option.ne_none_iff_exists'.mp (hkept [] hp)
    rw [List.append_nil, Machine.run_concat] at ha ⊢
    obtain ⟨put, fate', heq, -, rfl⟩ := winner_new hnone ha
    cases heq
    exact ha
  | append_singleton p event ih =>
    intro hp
    have hbefore := ih ((List.prefix_append p [event]).trans hp)
    have hafter := hkept _ hp
    rw [← List.append_assoc, Machine.run_concat] at hafter ⊢
    exact (winner_step hbefore).resolve_right hafter

/-- Every winner was stored by a first put. -/
theorem exists_storedSince {es : List WriterEvent} {E : ExperimentId} {a : StoredAssignment}
    (h : winner ((assignmentWriter entity).run es) E = some a) :
    ∃ first, StoredSince entity es E first := by
  induction es using List.reverseRecOn generalizing a with
  | nil =>
    simp only [Machine.run_nil, winner, assignmentWriter, AssignmentWriterWorld.empty,
      Std.ExtTreeMap.getElem?_empty] at h
    cases h
  | append_singleton es event ih =>
    have hlast := h
    rw [Machine.run_concat] at h
    cases hbefore : winner ((assignmentWriter entity).run es) E with
    | none =>
      obtain ⟨put, fate, rfl, hexp, -⟩ := winner_new hbefore h
      refine ⟨put, es, fate, [], (List.append_nil _).symm, hexp, hbefore, fun p hp => ?_⟩
      rw [List.prefix_nil.mp hp, List.append_nil, hlast]
      exact Option.some_ne_none a
    | some b =>
      obtain ⟨first, pre, fate, mid, rfl, hexp, hnone, hkept⟩ := ih hbefore
      refine ⟨first, pre, fate, mid ++ [event], List.append_assoc .., hexp, hnone,
        fun p hp => ?_⟩
      rcases List.prefix_concat_iff.mp hp with rfl | hp
      · rw [← List.append_assoc, hlast]
        exact Option.some_ne_none a
      · exact hkept p hp

/-- A put leaves the winners of the other Experiments alone. -/
theorem winner_put_of_ne {world : AssignmentWriterWorld} {put : EntityPut} {fate : KvFate}
    {E : ExperimentId} (h : E ≠ put.experimentId) :
    winner ((assignmentWriter entity).next world (.put put fate)) E = winner world E := by
  have hstep := writerStep_storage entity world (.put put fate)
  unfold winner
  generalize ((assignmentWriter entity).next world (.put put fate)).storage = storage' at hstep
  cases hstep with
  | rejected => rfl
  | recorded _ _ hadmits =>
    rw [AssignmentWriterStorage.record_winners, if_neg]
    exact fun hname => h (ExperimentId.ext hname)

end FirstTouch

/-! ## 3. Tombstones and fences only grow -/

section Growth

variable (entity : Entity)

/-- The tombstone stands at `c` or above. -/
def CutoffFrom (c : Int) (world : AssignmentWriterWorld) : Prop :=
  ∃ c' ∈ world.storage.entityDeletionCutoff, c ≤ c'

theorem cutoff_run {c : Int} {world : AssignmentWriterWorld} (h : CutoffFrom c world)
    (es : List WriterEvent) : CutoffFrom c ((assignmentWriter entity).exec world es) := by
  refine Machine.exec_invariant _ (fun world event h => ?_) h es
  have hstep := writerStep_storage entity world event
  unfold CutoffFrom at h ⊢
  generalize ((assignmentWriter entity).next world event).storage = storage' at hstep
  obtain ⟨c', hc', hle⟩ := h
  cases hstep with
  | rejected => exact ⟨c', hc', hle⟩
  | recorded put fate hadmits => exact ⟨c', by rwa [AssignmentWriterStorage.record_cutoff], hle⟩
  | deleted deleteBeforeTsMs fate =>
    refine ⟨max c' deleteBeforeTsMs, ?_, hle.trans (le_max_left ..)⟩
    simp only [AssignmentWriterStorage.deleteBefore, Option.mem_def.mp hc', Option.elim_some]
    exact rfl
  | wiped destroyedVersions fate next hnext => exact ⟨c', hc', hle⟩

/-- A deletion raises the tombstone to its cutoff. -/
theorem cutoffFrom_deleteBefore (storage : AssignmentWriterStorage) (c : Int) :
    ∃ c' ∈ (storage.deleteBefore c).entityDeletionCutoff, c ≤ c' := by
  refine ⟨_, rfl, ?_⟩
  cases storage.entityDeletionCutoff with
  | none => exact le_rfl
  | some previous => exact le_max_right ..

theorem fenced_run {v : String} {world : AssignmentWriterWorld} (h : v ∈ world.storage.fenced)
    (es : List WriterEvent) : v ∈ ((assignmentWriter entity).exec world es).storage.fenced := by
  refine Machine.exec_invariant _ (I := fun world : AssignmentWriterWorld => v ∈ world.storage.fenced)
    (fun world event h => ?_) h es
  have hstep := writerStep_storage entity world event
  generalize ((assignmentWriter entity).next world event).storage = storage' at hstep
  cases hstep with
  | rejected => exact h
  | recorded put fate hadmits =>
    rwa [AssignmentWriterStorage.fenced, AssignmentWriterStorage.record_fence]
  | deleted deleteBeforeTsMs fate => exact h
  | wiped destroyedVersions fate next hnext => exact (hnext v).mpr (Or.inl h)

end Growth

/-! ## 4. Runs -/

section Runs

open AssignmentStoreWriter StateActions

variable {entity : Entity} {es : List WriterEvent}

/-- **A put that resolves returns the first put stored** for its Experiment. The answer is read off
the record that the put has left, not off its own input, and that record is the first put stored. -/
theorem put_returns_first {put : EntityPut} {fate : KvFate} {result : AssignmentStorePutResult}
    (hok : (assignmentWriter entity).out ((assignmentWriter entity).run es) (.put put fate)
      = .ok (.put result)) :
    (∃ first, StoredSince entity (es ++ [.put put fate]) put.experimentId first) ∧
      ∀ first, StoredSince entity (es ++ [.put put fate]) put.experimentId first →
        result.assignment = entryFrom (first.input entity) := by
  obtain ⟨r, hr, hput⟩ := map_eq_ok.mp (writer_ok hok)
  cases hr
  obtain ⟨-, hstorage, hresult, -⟩ := put_ok hput
  have hwinner : winner ((assignmentWriter entity).run (es ++ [.put put fate]))
      put.experimentId = some ((((assignmentWriter entity).run es).storage).winnerFor
        (put.input entity)) := by
    rw [Machine.run_concat, winner, hstorage, AssignmentWriterStorage.record_winners]
    exact if_pos rfl
  refine ⟨exists_storedSince hwinner, fun first hfirst => ?_⟩
  rw [winner_of_storedSince hfirst] at hwinner
  rw [hresult, Option.some.inj hwinner]

/-- **A winner lies above the cutoff of every completed deletion.** A deletion that resolves has
raised the cutoff to its own, no event lowers it, and a writer never holds a winner at or below it. -/
theorem winner_above_cutoff {E : ExperimentId} {a : StoredAssignment} {pre : List WriterEvent}
    {c : Int} {fate : KvFate} {reply : WriterReply}
    (ha : winner ((assignmentWriter entity).run es) E = some a)
    (hp : pre ++ [.deleteEntity c fate] <+: es)
    (hok : (assignmentWriter entity).out ((assignmentWriter entity).run pre)
      (.deleteEntity c fate) = .ok reply) : ∃ t, a.sourceCreatedAtMs = some t ∧ c < t := by
  obtain ⟨post, rfl⟩ := hp
  obtain ⟨proof, hproof, hdelete⟩ := map_eq_ok.mp (writer_ok hok)
  have hfrom : CutoffFrom c ((assignmentWriter entity).next
      ((assignmentWriter entity).run pre) (.deleteEntity c fate)) := by
    rw [CutoffFrom, (deleteEntity_ok hdelete).1]
    exact cutoffFrom_deleteBefore _ c
  obtain ⟨c', hc', hle⟩ := cutoff_run entity hfrom post
  have hupright := assignmentWriter_upright entity (pre ++ [.deleteEntity c fate] ++ post)
  obtain ⟨t, ht, habove⟩ := hupright.above E.name a ha
  rw [Machine.run_append, Machine.run_concat] at habove
  exact ⟨t, ht, hle.trans_lt (habove c' hc')⟩

/-- **No put of a reset identity version resolves.** The reset that resolved has fenced the version,
the fence only grows, and a put that resolves has found its version outside. -/
theorem put_rejected_after_reset {pre : List WriterEvent} {versions : List String}
    {fate fate' : KvFate} {reply : WriterReply} {put : EntityPut} {version : String}
    (hp : pre ++ [.resetApp versions fate] <+: es)
    (hok : (assignmentWriter entity).out ((assignmentWriter entity).run pre)
      (.resetApp versions fate) = .ok reply)
    (hversion : put.identityVersion.elim (keyVersionOf entity.targetingKeyHash) .ok
      = .ok version) (hmem : version ∈ versions) (reply' : WriterReply) :
    (assignmentWriter entity).out ((assignmentWriter entity).run es) (.put put fate')
      ≠ .ok reply' := by
  obtain ⟨post, rfl⟩ := hp
  intro hput
  obtain ⟨proof, -, hreset⟩ := map_eq_ok.mp (writer_ok hok)
  obtain ⟨r, -, hput⟩ := map_eq_ok.mp (writer_ok hput)
  obtain ⟨version', hversion', hnot⟩ := (put_ok hput).1.version
  cases hversion.symm.trans hversion'
  have hfenced := fenced_run entity ((resetApp_ok hreset).1 version hmem) post
  rw [Machine.run_append, Machine.run_concat] at hnot
  exact hnot hfenced

end Runs

end Splitch
