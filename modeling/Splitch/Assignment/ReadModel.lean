/-
# The read model and the winner record

The blob of an Entity in KV is a copy of its durable winners, kept by two routes: a put merges
its winner into whatever KV holds, a deletion rewrites KV from the winners.

The rewrite is exact (`mirrorOf_eq`).  The merge is only as good as what it meets: it keeps an
entry that is already there.  An entry survives there when a deletion has removed its winner and
then failed to rewrite KV; a later put then stores a new winner, resolves with it, and leaves the
old entry for evaluation to read.  `read_model_agrees_iff` says that this is the only way in
which a put that resolves leaves KV wrong.
-/
import Splitch.Assignment.WinnerRecord

namespace Splitch

open AssignmentStoreWriter StateActions

/-! ## 1. The rewrite -/

/-- What a client may read once KV holds exactly the winners. -/
def mirror (storage : AssignmentWriterStorage) : Option AssignmentStoreValue :=
  if storage.winners.isEmpty then none
  else some (storage.winners.map fun _ winner => entryFrom winner)

/-- Merging a list into a value: what is there stays, else the first in the list counts. -/
theorem mergeList_getElem? {l : List (String × StoredAssignment)}
    (hown : ∀ w ∈ l, w.2.experimentId = w.1 ∧ w.1 ∉ objectPrototypeMembers)
    (value : AssignmentStoreValue) (name : String) :
    (l.foldl (fun value w => mergeAssignmentValue value w.2) value)[name]? =
      value[name]?.or ((l.find? (compare ·.1 name == .eq)).map fun w => entryFrom w.2) := by
  induction l generalizing value with
  | nil => simp
  | cons w l ih =>
    obtain ⟨hexp, hmember⟩ := hown w (by simp)
    have hmerge := mergeAssignmentValue_getElem? value (hexp ▸ hmember : w.2.experimentId ∉ _) name
    rw [List.foldl_cons, ih (fun w' hw' => hown w' (List.mem_cons_of_mem w hw')), hmerge, hexp]
    by_cases hname : name = w.1
    · have hfind : (compare w.1 name == .eq) = true := by simp [hname]
      rw [if_pos hname, List.find?_cons, hfind]
      cases value[name]? <;> rfl
    · have hfind : (compare w.1 name == .eq) = false := by simpa using Ne.symm hname
      rw [if_neg hname, List.find?_cons, hfind]

/-- **The rewrite puts exactly the winners into KV.** It merges them one by one into an empty value,
and a merge keeps what is there; but each winner is listed under its own Experiment, so no two of them
meet, and what is merged is the table of the winners itself. -/
theorem mirrorOf_eq {entity : Entity} {storage : AssignmentWriterStorage}
    (h : Upright entity storage) : mirrorOf storage.winners = mirror storage := by
  have hmerge : mergeWinners storage.winners
      = storage.winners.map fun _ winner => entryFrom winner := by
    refine Std.ExtTreeMap.ext_getElem? fun name => ?_
    rw [mergeWinners, mergeList_getElem?, Std.ExtTreeMap.getElem?_empty, Option.none_or,
      Std.ExtTreeMap.getElem?_map]
    · cases hwinner : storage.winners[name]? with
      | none =>
        rw [Std.ExtTreeMap.find?_toList_eq_none_iff_not_mem.mpr]
        · rfl
        · rw [Std.ExtTreeMap.mem_iff_isSome_getElem?, hwinner]
          exact Bool.false_ne_true
      | some a =>
        have hfind := Std.ExtTreeMap.find?_toList_eq_some_iff_getKey?_eq_some_and_getElem?_eq_some.mpr
          ⟨Std.ExtTreeMap.getKey?_eq_some (Std.ExtTreeMap.mem_iff_isSome_getElem?.mpr
            (by rw [hwinner]; rfl)), hwinner⟩
        rw [hfind]
        rfl
    · intro w hw
      obtain ⟨put, hput, hname⟩ := h.own w.1 w.2
        (Std.ExtTreeMap.mem_toList_iff_getElem?_eq_some.mp hw)
      exact ⟨by rw [← hput, ← hname]; rfl, hname ▸ put.experimentId.own⟩
  rw [mirrorOf, hmerge, mirror]
  by_cases hempty : storage.winners = ∅
  · rw [if_pos, if_pos]
    · exact Std.ExtTreeMap.isEmpty_iff.mpr hempty
    · exact Std.ExtTreeMap.isEmpty_iff.mpr (Std.ExtTreeMap.map_eq_empty_iff.mpr hempty)
  · rw [if_neg, if_neg]
    · exact fun he => hempty (Std.ExtTreeMap.isEmpty_iff.mp he)
    · exact fun he => hempty (Std.ExtTreeMap.map_eq_empty_iff.mp (Std.ExtTreeMap.isEmpty_iff.mp he))

/-- A deletion that resolves leaves exactly the winners in KV. -/
theorem kv_of_deletion {entity : Entity} {es : List WriterEvent} {event : WriterEvent}
    {reply : WriterReply} (hevent : ∀ put fate, event ≠ .put put fate)
    (hok : (assignmentWriter entity).out ((assignmentWriter entity).run es) event = .ok reply) :
    ((assignmentWriter entity).run (es ++ [event])).kv entity.key
      = mirror ((assignmentWriter entity).run (es ++ [event])).storage := by
  have hupright := assignmentWriter_upright entity (es ++ [event])
  rw [← mirrorOf_eq hupright, Machine.run_concat]
  cases event with
  | put put fate => exact absurd rfl (hevent put fate)
  | deleteEntity c fate =>
    obtain ⟨proof, -, hdelete⟩ := map_eq_ok.mp (writer_ok hok)
    exact (deleteEntity_ok hdelete).2
  | resetApp versions fate =>
    obtain ⟨proof, -, hreset⟩ := map_eq_ok.mp (writer_ok hok)
    exact (resetApp_ok hreset).2

/-! ## 2. First touch and final deletion -/

/-- **First touch wins and deletion is final**, in every run of the writer of one Entity.

(a) A put that resolves returns the first put stored for its Experiment since the last deletion
that removed it, and touches no other Experiment.  (b) Every winner lies above the cutoff of
every completed deletion.  (c) No put of a reset identity version resolves.  (d) A deletion that
resolves leaves exactly the winners in KV. -/
theorem first_touch_wins (entity : Entity) (es : List WriterEvent) :
    (∀ put fate,
      (∀ result, (assignmentWriter entity).out ((assignmentWriter entity).run es)
          (.put put fate) = .ok (.put result) →
        (∃ first, StoredSince entity (es ++ [.put put fate]) put.experimentId first) ∧
        ∀ first, StoredSince entity (es ++ [.put put fate]) put.experimentId first →
          result.assignment = entryFrom (first.input entity)) ∧
      ∀ E, E ≠ put.experimentId →
        winner ((assignmentWriter entity).run (es ++ [.put put fate])) E
          = winner ((assignmentWriter entity).run es) E) ∧
    (∀ E a, winner ((assignmentWriter entity).run es) E = some a →
      ∀ pre c fate reply, pre ++ [.deleteEntity c fate] <+: es →
        (assignmentWriter entity).out ((assignmentWriter entity).run pre) (.deleteEntity c fate)
          = .ok reply →
        ∃ t, a.sourceCreatedAtMs = some t ∧ c < t) ∧
    (∀ pre versions fate reply, pre ++ [.resetApp versions fate] <+: es →
      (assignmentWriter entity).out ((assignmentWriter entity).run pre) (.resetApp versions fate)
        = .ok reply →
      ∀ put fate' version, put.identityVersion.elim (keyVersionOf entity.targetingKeyHash) .ok
          = .ok version → version ∈ versions →
        ∀ reply', (assignmentWriter entity).out ((assignmentWriter entity).run es)
          (.put put fate') ≠ .ok reply') ∧
    ∀ event reply, (∀ put fate, event ≠ .put put fate) →
      (assignmentWriter entity).out ((assignmentWriter entity).run es) event = .ok reply →
      ((assignmentWriter entity).run (es ++ [event])).kv entity.key
        = mirror ((assignmentWriter entity).run (es ++ [event])).storage := by
  refine ⟨fun put fate => ⟨fun result hok => put_returns_first hok, fun E hE => ?_⟩, ?_, ?_, ?_⟩
  · rw [Machine.run_concat]
    exact winner_put_of_ne hE
  · exact fun E a ha pre c fate reply hp hok => winner_above_cutoff ha hp hok
  · exact fun pre versions fate reply hp hok put fate' version hv hmem reply' =>
      put_rejected_after_reset hp hok hv hmem reply'
  · exact fun event reply hevent hok => kv_of_deletion hevent hok

/-! ## 3. The write-through -/

/-- What KV holds for the Experiment, if anything, is what the put will resolve with: the entry of
the durable winner or, where there is none, that of the put itself. -/
def Fresh (entity : Entity) (world : AssignmentWriterWorld) (put : EntityPut) : Prop :=
  ∀ entry, (blob world entity.key)[put.experimentId.name]? = some entry →
    entry = entryFrom (world.storage.winnerFor (put.input entity))

/-- A put that resolves leaves its result in KV exactly when it found KV fresh. -/
theorem put_agrees_iff {entity : Entity} {es : List WriterEvent} {put : EntityPut} {fate : KvFate}
    {result : AssignmentStorePutResult}
    (hok : (assignmentWriter entity).out ((assignmentWriter entity).run es) (.put put fate)
      = .ok (.put result)) :
    (blob ((assignmentWriter entity).run (es ++ [.put put fate])) entity.key)[
        put.experimentId.name]? = some result.assignment ↔
      Fresh entity ((assignmentWriter entity).run es) put := by
  obtain ⟨r, hr, hput⟩ := map_eq_ok.mp (writer_ok hok)
  cases hr
  obtain ⟨-, -, hresult, hblob⟩ := put_ok hput
  obtain ⟨hkey, hexp⟩ := (assignmentWriter_upright entity es).winnerFor_key put
  rw [hkey] at hblob
  rw [Fresh, Machine.run_concat, hresult, hblob,
    mergeAssignmentValue_getElem? _ (hexp ▸ put.experimentId.own), if_pos hexp.symm,
    Option.some.injEq]
  cases (blob ((assignmentWriter entity).run es) entity.key)[put.experimentId.name]? with
  | none => simp
  | some entry => simp

/-- **Winner record and read model agree** at every put of a run that resolves, exactly when each
of them found KV fresh. -/
theorem read_model_agrees_iff (entity : Entity) (es : List WriterEvent) :
    (∀ pre put fate result, pre ++ [.put put fate] <+: es →
      (assignmentWriter entity).out ((assignmentWriter entity).run pre) (.put put fate)
        = .ok (.put result) →
      (blob ((assignmentWriter entity).run (pre ++ [.put put fate])) entity.key)[
        put.experimentId.name]? = some result.assignment) ↔
    ∀ pre put fate result, pre ++ [.put put fate] <+: es →
      (assignmentWriter entity).out ((assignmentWriter entity).run pre) (.put put fate)
        = .ok (.put result) →
      Fresh entity ((assignmentWriter entity).run pre) put :=
  forall_congr' fun _ => forall_congr' fun _ => forall_congr' fun _ => forall_congr' fun _ =>
    forall_congr' fun _ => forall_congr' fun hok => put_agrees_iff hok

/-- KV holds entries of winners only. -/
def Backs (entity : Entity) (world : AssignmentWriterWorld) : Prop :=
  ∀ (name : String) entry, (blob world entity.key)[name]? = some entry →
    ∃ a, world.storage.winners[name]? = some a ∧ entryFrom a = entry

theorem Backs.fresh {entity : Entity} {world : AssignmentWriterWorld} (h : Backs entity world)
    (put : EntityPut) : Fresh entity world put := by
  intro entry hentry
  obtain ⟨a, ha, rfl⟩ := h _ entry hentry
  have ha : world.storage.winners[(put.input entity).experimentId]? = some a := ha
  rw [AssignmentWriterStorage.winnerFor, ha, Option.getD_some]

/-- A put keeps KV backed, however its KV calls go. -/
theorem Backs.put {entity : Entity} {world : AssignmentWriterWorld}
    (hupright : Upright entity world.storage) (h : Backs entity world) (entityPut : EntityPut)
    (fate : KvFate) :
    Backs entity ((assignmentWriter entity).next world (.put entityPut fate)) := by
  simp only [Machine.next, assignmentWriter, writerStep, mapOk_apply]
  rcases put_cases fate world (entityPut.input entity) with
    ⟨m, hm⟩ | ⟨hadmits, status, he⟩
  · rw [hm]
    exact h
  · obtain ⟨hkey, hexp⟩ := hupright.winnerFor_key entityPut
    have hrecorded : ∀ (name : String) a, world.storage.winners[name]? = some a →
        (world.storage.record (entityPut.input entity)).winners[name]? = some a := by
      intro name a ha
      rw [AssignmentWriterStorage.record_winners]
      split
      · rename_i heq
        rw [AssignmentWriterStorage.winnerFor, ← heq, ha, Option.getD_some]
      · exact ha
    have hwinner : (world.storage.record (entityPut.input entity)).winners[
        entityPut.experimentId.name]? = some (world.storage.winnerFor (entityPut.input entity)) := by
      rw [AssignmentWriterStorage.record_winners]
      exact if_pos rfl
    have hkv : blob { world with storage := world.storage.record (entityPut.input entity) }
        entity.key = blob world entity.key := rfl
    have hblob := writeThrough_blob fate
      { world with storage := world.storage.record (entityPut.input entity) }
      (world.storage.winnerFor (entityPut.input entity))
    rw [hkey, hkv] at hblob
    rw [he, andThen_state fun _ _ => rfl]
    intro name entry hentry
    rw [writeThrough_storage]
    rcases hblob with hsame | hmerged
    · rw [hsame] at hentry
      obtain ⟨a, ha, hea⟩ := h name entry hentry
      exact ⟨a, hrecorded name a ha, hea⟩
    · rw [hmerged, mergeAssignmentValue_getElem? _ (hexp ▸ entityPut.experimentId.own), hexp]
        at hentry
      split at hentry
      · rename_i hname
        subst hname
        refine ⟨_, hwinner, ?_⟩
        rw [← Option.some.inj hentry]
        cases hold : (blob world entity.key)[entityPut.experimentId.name]? with
        | none => exact Option.getD_none.symm
        | some old => exact (h.fresh entityPut old hold).symm
      · obtain ⟨a, ha, hea⟩ := h name entry hentry
        exact ⟨a, hrecorded name a ha, hea⟩

/-- A deletion that resolves backs KV again, whatever it held before. -/
theorem backs_of_mirror {entity : Entity} {world : AssignmentWriterWorld}
    (h : world.kv entity.key = mirror world.storage) : Backs entity world := by
  intro name entry hentry
  rw [blob, h, mirror] at hentry
  split at hentry
  · rw [Option.getD_none, Std.ExtTreeMap.getElem?_empty] at hentry
    cases hentry
  · rw [Option.getD_some, Std.ExtTreeMap.getElem?_map] at hentry
    exact Option.map_eq_some_iff.mp hentry

/-- **Where every deletion resolves, every put finds KV fresh**: only a deletion that rejects can
make a later put disagree with KV. -/
theorem fresh_of_deletions_resolve {entity : Entity} {es : List WriterEvent}
    (h : ∀ pre event, pre ++ [event] <+: es → (∀ put fate, event ≠ .put put fate) →
      ∃ reply, (assignmentWriter entity).out ((assignmentWriter entity).run pre) event
        = .ok reply) (put : EntityPut) :
    Fresh entity ((assignmentWriter entity).run es) put := by
  suffices Backs entity ((assignmentWriter entity).run es) from this.fresh put
  induction es using List.reverseRecOn with
  | nil =>
    intro name entry hentry
    exact absurd hentry (by simp [blob, assignmentWriter, AssignmentWriterWorld.empty])
  | append_singleton es event ih =>
    have hbefore := ih fun pre e hp => h pre e (hp.trans (List.prefix_append es [event]))
    cases event with
    | put entityPut fate =>
      rw [Machine.run_concat]
      exact hbefore.put (assignmentWriter_upright entity es) entityPut fate
    | deleteEntity c fate =>
      obtain ⟨reply, hok⟩ := h es _ (List.prefix_refl _) fun _ _ he => by cases he
      exact backs_of_mirror (kv_of_deletion (fun _ _ he => by cases he) hok)
    | resetApp versions fate =>
      obtain ⟨reply, hok⟩ := h es _ (List.prefix_refl _) fun _ _ he => by cases he
      exact backs_of_mirror (kv_of_deletion (fun _ _ he => by cases he) hok)

/-! ## 4. A run of two Experiments -/

def checkout : ExperimentId := ⟨"exp_c0ffee", by decide, by decide⟩

def search : ExperimentId := ⟨"exp_5ea2c4", by decide, by decide⟩

def sampleEntity : Entity := ⟨"app_1", "user", "v1:5f1d"⟩

def samplePut (E : ExperimentId) (runId variant : String) (sourceCreatedAtMs : Int) :
    EntityPut where
  experimentId := E
  identityVersion := none
  runId
  sourceCreatedAtMs := some sourceCreatedAtMs
  variant

/-- What a put that resolves returns. -/
def putResult : Except String WriterReply → Option AssignmentStorePutResult
  | .ok (.put result) => some result
  | _ => none

theorem putResult_eq_some {answer : Except String WriterReply}
    {result : AssignmentStorePutResult} :
    putResult answer = some result ↔ answer = .ok (.put result) := by
  rcases answer with _ | (_ | _ | _) <;> simp [putResult]

theorem exists_of_isOk {answer : Except String WriterReply} (h : answer.isOk = true) :
    ∃ reply, answer = .ok reply := by
  cases answer with
  | ok reply => exact ⟨reply, rfl⟩
  | error message => cases h

def kvDone : KvFate := ⟨false, .done⟩

/-- Two winners, the older of which is deleted. -/
def touchedRun : List WriterEvent :=
  [.put (samplePut checkout "run_1" "control" 200) kvDone,
    .put (samplePut search "run_9" "treatment" 50) kvDone, .deleteEntity 100 kvDone]

/-- The surviving winner is returned to a later put, lies above the cutoff and is all that KV
holds; once the identity version is reset, nothing resolves any more. -/
theorem first_touch_wins_sample :
    (∃ result, (assignmentWriter sampleEntity).out ((assignmentWriter sampleEntity).run touchedRun)
        (.put (samplePut checkout "run_2" "treatment" 300) kvDone) = .ok (.put result) ∧
      result.assignment = ⟨"run_1", "control"⟩) ∧
    (∃ a t, winner ((assignmentWriter sampleEntity).run touchedRun) checkout = some a ∧
      a.sourceCreatedAtMs = some t ∧ 100 < t) ∧
    (∀ reply, (assignmentWriter sampleEntity).out
      ((assignmentWriter sampleEntity).run (touchedRun ++ [.resetApp ["v1"] kvDone]))
      (.put (samplePut checkout "run_2" "treatment" 300) kvDone) ≠ .ok reply) ∧
    ((assignmentWriter sampleEntity).run touchedRun).kv sampleEntity.key
      = mirror ((assignmentWriter sampleEntity).run touchedRun).storage := by
  obtain ⟨hfirst, habove, -, -⟩ := first_touch_wins sampleEntity touchedRun
  obtain ⟨-, -, hfence, -⟩ := first_touch_wins sampleEntity
    (touchedRun ++ [.resetApp ["v1"] kvDone])
  obtain ⟨-, -, -, hmirror⟩ := first_touch_wins sampleEntity
    [.put (samplePut checkout "run_1" "control" 200) kvDone,
      .put (samplePut search "run_9" "treatment" 50) kvDone]
  have hdeletes : ((assignmentWriter sampleEntity).out ((assignmentWriter sampleEntity).run
      [.put (samplePut checkout "run_1" "control" 200) kvDone,
        .put (samplePut search "run_9" "treatment" 50) kvDone])
      (.deleteEntity 100 kvDone)).isOk = true := by decide +kernel
  obtain ⟨deleted, hdeleted⟩ := exists_of_isOk hdeletes
  refine ⟨?_, ?_, ?_, ?_⟩
  · have hresolves : (assignmentWriter sampleEntity).out
        ((assignmentWriter sampleEntity).run touchedRun)
        (.put (samplePut checkout "run_2" "treatment" 300) kvDone)
          = .ok (.put ⟨.existing, ⟨"run_1", "control"⟩⟩) :=
      putResult_eq_some.mp (by decide +kernel)
    have hkept : ∀ p ∈ ([.put (samplePut search "run_9" "treatment" 50) kvDone,
        .deleteEntity 100 kvDone,
        .put (samplePut checkout "run_2" "treatment" 300) kvDone] : List WriterEvent).inits,
        winner ((assignmentWriter sampleEntity).run
          ([] ++ [.put (samplePut checkout "run_1" "control" 200) kvDone] ++ p)) checkout
          ≠ none := by decide +kernel
    have hstored : StoredSince sampleEntity
        (touchedRun ++ [.put (samplePut checkout "run_2" "treatment" 300) kvDone]) checkout
        (samplePut checkout "run_1" "control" 200) :=
      ⟨[], kvDone, _, rfl, rfl, by decide +kernel, fun p hp => hkept p ((List.mem_inits ..).mpr hp)⟩
    exact ⟨_, hresolves, ((hfirst _ kvDone).1 _ hresolves).2 _ hstored⟩
  · have hsome : (winner ((assignmentWriter sampleEntity).run touchedRun) checkout).isSome
        = true := by decide +kernel
    obtain ⟨a, ha⟩ := Option.isSome_iff_exists.mp hsome
    obtain ⟨t, ht, hlt⟩ := habove checkout a ha _ 100 kvDone deleted (List.prefix_refl _) hdeleted
    exact ⟨a, t, ha, ht, hlt⟩
  · have hresets : ((assignmentWriter sampleEntity).out
        ((assignmentWriter sampleEntity).run touchedRun) (.resetApp ["v1"] kvDone)).isOk
        = true := by decide +kernel
    obtain ⟨reset, hreset⟩ := exists_of_isOk hresets
    exact hfence touchedRun ["v1"] kvDone reset (List.prefix_refl _) hreset _ kvDone "v1" rfl
      (by decide)
  · exact hmirror (.deleteEntity 100 kvDone) deleted (fun _ _ h => by cases h) hdeleted

/-! ## 5. A failed rewrite -/

def kvLost : KvFate := ⟨false, .failed false "KV PUT failed: 503"⟩

/-- **A put resolves with a winner that KV does not show**: an Entity deletion has removed the
earlier winner and failed to rewrite KV, where the earlier entry survives the later put. -/
theorem read_model_disagrees :
    ¬ ∀ (entity : Entity) (es : List WriterEvent) (put : EntityPut) (fate : KvFate)
        (result : AssignmentStorePutResult),
      (assignmentWriter entity).out ((assignmentWriter entity).run es) (.put put fate)
        = .ok (.put result) →
      (blob ((assignmentWriter entity).run (es ++ [.put put fate])) entity.key)[
        put.experimentId.name]? = some result.assignment := by
  intro h
  have hagrees := h sampleEntity
    [.put (samplePut checkout "run_1" "control" 10) kvDone, .deleteEntity 100 kvLost]
    (samplePut checkout "run_2" "treatment" 200) kvDone ⟨.stored, ⟨"run_2", "treatment"⟩⟩
    (putResult_eq_some.mp (by decide +kernel))
  revert hagrees
  decide +kernel

end Splitch
