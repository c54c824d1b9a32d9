/-
# The D1 boundary is crossed once

The deletion of an App's row in D1 cannot be taken back, so the saga has a boundary there: before it a cancel
may undo everything, behind it the deletion has to be completed.  Sections of prepare, cancel, finalize and
alarm are interleaved, each of their calls may fail, and each may be late.

What is kept behind the boundary is said of two states of the object (`Onward`), so that it composes along a
run: the saga does not come back, nothing is registered, and the later state has its account in order, by
which a row of the inventory goes only when the outbox of its Entity has been purged since it was registered
last.

A section of the saga that erases nothing goes onward by what the moves keep (`Onward.of_moving`), and most
sections are of that kind.  Registrations are refused while the App is suppressed (`register_suppressed`).
The one section that erases is the checkpoint of a finalize, which drops the row of one Entity.  It may do so
only since the task that calls it has purged that outbox, which is noted on the log
(`Onward.record_purged`, `checkpointFinalize_onward`).  What a task knows at each of its stages is therefore
part of the invariant.

From any state behind the boundary, every run goes onward, which is the result
(`boundary_crossed_once`).
-/
import Splitch.Inventory.SagaRefinement
import Splitch.Inventory.InventoryObject

namespace Splitch

open StateActions InventoryM

/-! ## 1. What the object accounts for -/

/-- The outbox was purged after the last registration. -/
def PurgedSince (name : String) (log : List InventoryAct) : Prop :=
  ∃ earlier later, log = earlier ++ .purged name :: later ∧ .registered name ∉ later

/-- The storage is sound, and a registered Entity has its row until it is purged behind the
boundary. -/
structure Accounted (inventory : AppInventory) : Prop where
  sound : SagaSound inventory.storage
  rows : ∀ name, .registered name ∈ inventory.log →
    (inventory.storage.entities[name]?).isSome ∨
      (inventory.storage.crossed = true ∧ PurgedSince name inventory.log)

/-- What a section does for the account. -/
structure Onward (before after : AppInventory) : Prop where
  accounted : Accounted after
  moves : SagaMoves (fun _ => True) before.storage after.storage
  rank : before.storage.rank ≤ after.storage.rank
  /-- Behind the boundary nothing is registered. -/
  log : before.storage.crossed = true →
    ∃ acts, after.log = before.log ++ acts ∧ ∀ name, .registered name ∉ acts

variable {inventory inventory' : AppInventory}

theorem PurgedSince.append {name : String} {log acts : List InventoryAct}
    (h : PurgedSince name log) (hacts : .registered name ∉ acts) :
    PurgedSince name (log ++ acts) := by
  obtain ⟨earlier, later, rfl, hlater⟩ := h
  refine ⟨earlier, later ++ acts, by rw [List.append_assoc, List.cons_append], ?_⟩
  rw [List.mem_append, not_or]
  exact ⟨hlater, hacts⟩

theorem Onward.crossed (h : Onward inventory inventory')
    (hcrossed : inventory.storage.crossed = true) : inventory'.storage.crossed = true := by
  rw [AppInventoryStorage.crossed_iff_rank] at hcrossed ⊢
  exact hcrossed.trans_le h.rank

theorem Onward.purged (h : Onward inventory inventory') {name : String}
    (hcrossed : inventory.storage.crossed = true) (hpurged : PurgedSince name inventory.log) :
    PurgedSince name inventory'.log := by
  obtain ⟨acts, hlog, hacts⟩ := h.log hcrossed
  rw [hlog]
  exact hpurged.append (hacts name)

theorem Onward.of_same (h : Accounted inventory)
    (hstorage : inventory'.storage = inventory.storage) (hlog : inventory'.log = inventory.log) :
    Onward inventory inventory' where
  accounted := ⟨hstorage ▸ h.sound, by rw [hstorage, hlog]; exact h.rows⟩
  moves := by rw [hstorage]
  rank := by rw [hstorage]
  log _ := ⟨[], by rw [hlog, List.append_nil], fun _ hmem => by cases hmem⟩

/-- Where nothing may be erased, a row stays. -/
theorem SagaMoves.row_stays {storage storage' : AppInventoryStorage}
    (h : SagaMoves (fun _ => False) storage storage') {name : String}
    (hrow : (storage.entities[name]?).isSome) : (storage'.entities[name]?).isSome := by
  induction h with
  | refl => exact hrow
  | tail _ hmove ih =>
    cases hmove with
    | register ref identityVersion _ _ =>
      change ((Std.ExtTreeMap.insert _ ref.name ref)[name]?).isSome
      rw [Rows.getElem?_insert_eq]
      split
      · rfl
      · exact ih
    | erase _ _ hmay => exact hmay.elim
    | adopt => exact ih
    | cancel => exact ih
    | clear => exact ih
    | freeze => exact ih
    | prepare => exact ih
    | cross => exact ih
    | finalize => exact ih
    | complete => exact ih
    | recomplete => exact ih
    | recordCompleted => exact ih

/-- **A section of the saga** that erases nothing goes onward. -/
theorem Onward.of_moving (h : Accounted inventory)
    (hmoves : SagaMoves (fun _ => False) inventory.storage inventory'.storage)
    (hlog : inventory'.log = inventory.log) : Onward inventory inventory' where
  accounted := {
    sound := SagaMoves.sound hmoves h.sound
    rows := fun name hname => by
      rw [hlog] at hname ⊢
      refine (h.rows name hname).imp (SagaMoves.row_stays hmoves) fun ⟨hcrossed, hpurged⟩ =>
        ⟨?_, hpurged⟩
      rw [AppInventoryStorage.crossed_iff_rank] at hcrossed ⊢
      exact hcrossed.trans_le (SagaMoves.rank_le hmoves h.sound) }
  moves := Relation.ReflTransGen.mono (fun _ _ => SagaMove.mono fun _ => False.elim) _ _ hmoves
  rank := SagaMoves.rank_le hmoves h.sound
  log _ := ⟨[], by rw [hlog, List.append_nil], fun _ hmem => by cases hmem⟩

/-! ## 2. Registration -/

/-- A suppressed App registers nothing. -/
theorem register_suppressed (ref : HoldoverWriteAppEntityRef)
    (h : inventory.storage.suppressed = true) :
    registerAppInventoryEntity ref inventory = (.ok .suppressed, inventory) := by
  unfold registerAppInventoryEntity
  rw [andThen_of_ok getStorage_apply, if_pos h]
  rfl

theorem admit_suppressed (ref : HoldoverWriteAppEntityRef) {identityVersion : String}
    (hne : identityVersion ≠ "") (h : inventory.storage.suppressed = true) :
    (admitAppInventoryAssignment ref identityVersion inventory).1 = .ok .suppressed := by
  unfold admitAppInventoryAssignment
  rw [if_neg (by rwa [String.isEmpty_iff]), andThen_of_ok getStorage_apply,
    if_pos (by rw [h, Bool.true_or])]
  rfl

/-- A registration keeps the account, with the version it activates. -/
theorem Onward.register (h : Accounted inventory) (ref : HoldoverWriteAppEntityRef)
    (identityVersion : Option String) (hopen : inventory.storage.suppressed = false)
    (hcomplete : inventory.storage.deletionComplete = false)
    (hstorage : inventory'.storage = { inventory.storage with
      activeIdentityVersion := identityVersion
      entities := inventory.storage.entities.insert ref.name ref })
    (hlog : inventory'.log = inventory.log ++ [.registered ref.name]) :
    Onward inventory inventory' := by
  have hmove : SagaMove (fun _ => False) inventory.storage inventory'.storage :=
    hstorage ▸ .register ref identityVersion hopen hcomplete
  have hbefore : inventory.storage.crossed ≠ true := fun hcrossed =>
    absurd ((h.sound.suppressed hcrossed).symm.trans hopen) (by decide)
  refine ⟨⟨hmove.sound h.sound, fun name hname => Or.inl ?_⟩,
    .single (hmove.mono fun _ => False.elim), hmove.rank_le h.sound,
    fun hcrossed => absurd hcrossed hbefore⟩
  rw [hlog, List.mem_append] at hname
  rcases hname with hold | hnew
  · refine SagaMoves.row_stays (.single hmove) ?_
    exact (h.rows name hold).resolve_right fun hpurged => hbefore hpurged.1
  · cases List.mem_singleton.mp hnew
    rw [hstorage, Rows.getElem?_insert_eq, if_pos rfl]
    rfl

theorem register_onward (h : Accounted inventory) (ref : HoldoverWriteAppEntityRef) :
    Onward inventory (registerAppInventoryEntity ref inventory).2 := by
  unfold registerAppInventoryEntity
  rw [andThen_of_ok getStorage_apply]
  split
  · exact .of_same h rfl rfl
  · split
    · exact .of_same h rfl rfl
    · rename_i hopen hcomplete
      exact .register h ref inventory.storage.activeIdentityVersion (Bool.not_eq_true _ ▸ hopen)
        (Bool.not_eq_true _ ▸ hcomplete) rfl rfl

theorem admit_onward (h : Accounted inventory) (ref : HoldoverWriteAppEntityRef)
    (identityVersion : String) :
    Onward inventory (admitAppInventoryAssignment ref identityVersion inventory).2 := by
  unfold admitAppInventoryAssignment
  split
  · exact .of_same h rfl rfl
  · rw [andThen_of_ok getStorage_apply]
    split
    · exact .of_same h rfl rfl
    · split
      · exact .of_same h rfl rfl
      · rename_i hopen _
        rw [Bool.or_eq_true, not_or, Bool.not_eq_true, Bool.not_eq_true] at hopen
        exact .register h ref (some identityVersion) hopen.1 hopen.2 rfl rfl

/-! ## 3. Sections -/

/-- Between two states of the object its storage has moved and erased nothing, and its log is the
same. -/
structure Saving (before after : AppInventory) : Prop where
  log : after.log = before.log
  storage : SagaMoves (fun _ => False) before.storage after.storage

instance : IsPreorder AppInventory Saving where
  refl _ := ⟨rfl, .refl⟩
  trans _ _ _ h h' := ⟨h'.log.trans h.log, h.storage.trans h'.storage⟩

theorem Onward.of_saving (h : Accounted inventory) (hsaving : Saving inventory inventory') :
    Onward inventory inventory' := .of_moving h hsaving.storage hsaving.log

theorem Moving.saving (h : Moving (fun _ => False) inventory inventory') :
    Saving inventory inventory' := ⟨h.log, h.storage⟩

/-- The alarm is no part of the storage. -/
theorem SagaSound.alarm (h : SagaSound inventory.storage) (alarm : Option Int) :
    SagaSound (AppInventory.storage { inventory with alarm }) := h

theorem saving_alarm (alarm : Option Int) : Saving inventory { inventory with alarm } :=
  ⟨rfl, .refl⟩

theorem setAlarm_apply (scheduledTime : Int) : setAlarm scheduledTime inventory =
    (.ok (), { inventory with alarm := some scheduledTime }) := rfl

theorem deleteAlarm_apply : deleteAlarm inventory = (.ok (), { inventory with alarm := none }) :=
  rfl

theorem begin_saving (hsound : SagaSound inventory.storage) (generationId : String)
    (deleteBeforeTsMs nowMs : Int) (fate : PrepareFate) :
    Guarantees Saving (beginDeletion generationId deleteBeforeTsMs nowMs fate) inventory
      fun _ _ => True := by
  unfold beginDeletion
  refine guarantees_andThen (setAlarm_apply _) (saving_alarm _) ?_
  refine Guarantees.bind ((prepare_guarantees (hsound.alarm _) generationId deleteBeforeTsMs
    fate).weaken fun _ => Moving.saving) fun deletionComplete inventory' _ _ => ?_
  refine guarantees_read readAppDeletionSaga_apply ?_
  dsimp only
  split
  · exact guarantees_andThen deleteAlarm_apply (saving_alarm _) (guarantees_pure trivial)
  · exact guarantees_pure trivial

theorem markD1Deleted_saving (hsound : SagaSound inventory.storage) (generationId : String)
    (deleteBeforeTsMs : Option Int) (nowMs : Int) :
    Saving inventory (markD1Deleted generationId deleteBeforeTsMs nowMs inventory).2 := by
  have hbody : Guarantees Saving (do
      let next ← markAppDeletionSagaD1Deleted generationId deleteBeforeTsMs
      if next.phase = .completed then deleteAlarm else setAlarm (nowMs + SAGA_RETRY_DELAY_MS)
      return next) inventory fun _ _ => True := by
    refine Guarantees.bind ((markD1_guarantees hsound generationId deleteBeforeTsMs).weaken
      fun _ => Moving.saving) fun next inventory' _ _ => ?_
    split
    · exact guarantees_andThen deleteAlarm_apply (saving_alarm _) (guarantees_pure trivial)
    · exact guarantees_andThen (setAlarm_apply _) (saving_alarm _) (guarantees_pure trivial)
  unfold markD1Deleted transaction
  split
  · rename_i heq
    exact congrArg Prod.snd heq ▸ hbody.1
  · exact refl_of Saving inventory

theorem cancelPlan_saving (generationId : Option String) (nowMs : Int)
    (kvDelete : Except String Unit) :
    Guarantees Saving (cancelPlanSection generationId nowMs kvDelete) inventory
      fun _ _ => True := by
  unfold cancelPlanSection
  refine guarantees_read readAppDeletionSaga_apply ?_
  split
  · exact guarantees_pure trivial
  · refine guarantees_andThen (setAlarm_apply _) (saving_alarm _) ?_
    unfold planAppDeletionCancelStep
    refine Guarantees.bind ((beginOrResumeCancel_guarantees _ kvDelete).weaken
      fun _ => Moving.saving) fun progress inventory' _ _ => ?_
    split
    · exact guarantees_pure trivial
    · exact guarantees_read readAppDeletionSaga_apply (guarantees_pure trivial)

theorem finalizePlan_saving (hsound : SagaSound inventory.storage) (generationId : Option String)
    (deleteBeforeTsMs : Option Int) (nowMs : Int) :
    Guarantees Saving (finalizePlanSection generationId deleteBeforeTsMs nowMs) inventory
      fun step inventory' => step.isSome → inventory'.storage.crossed = true := by
  unfold finalizePlanSection
  refine guarantees_andThen (setAlarm_apply _) (saving_alarm _) ?_
  exact (planFinalize_guarantees (hsound.alarm _) generationId deleteBeforeTsMs).weaken
    fun _ => Moving.saving

theorem cancelReport_saving (plan : CancelProgress) :
    Guarantees Saving (cancelReportSection plan) inventory fun reply _ =>
      reply.done = (if !plan.cancelled then plan.done
        else inventory.storage.deletionSaga.isNone) ∧ reply.cancelled = plan.cancelled := by
  unfold cancelReportSection
  refine guarantees_read readAppDeletionSaga_apply ?_
  dsimp only
  split
  · exact guarantees_andThen deleteAlarm_apply (saving_alarm _)
      (guarantees_pure (And.intro rfl rfl))
  · exact guarantees_pure (And.intro rfl rfl)

theorem finalizeReport_saving :
    Guarantees Saving finalizeReportSection inventory fun _ _ => True := by
  unfold finalizeReportSection
  refine guarantees_read readAppDeletionSaga_apply ?_
  dsimp only
  split
  · exact guarantees_andThen deleteAlarm_apply (saving_alarm _) (guarantees_pure trivial)
  · exact guarantees_pure trivial

theorem clearInert_saving (saga : HoldoverWriteAppDeletionSaga) :
    Guarantees Saving (clearInertAlarm saga) inventory fun _ _ => True := by
  unfold clearInertAlarm
  refine guarantees_read readAppDeletionSaga_apply ?_
  split
  · exact ⟨saving_alarm _, fun _ _ => trivial⟩
  · exact guarantees_pure trivial

theorem checkpointCancel_saving (step : HoldoverWriteAppDeletionCancelStep)
    (hsound : SagaSound inventory.storage) :
    Saving inventory (checkpointAppDeletionCancelStep step inventory).2 := by
  rcases checkpointCancel_cases step inventory with h | ⟨saga, hsaga, hphase, ⟨pending, h⟩ | h⟩
  · rw [h]
    exact refl_of Saving inventory
  · rw [h]
    have hcomplete := hsound.incomplete hsaga (by rw [hphase]; decide)
    have hbefore : inventory.storage.crossed = false := by
      rw [AppInventoryStorage.crossed_of_saga hsaga, hphase]
      rfl
    exact ⟨rfl, .single (.cancel hphase hcomplete hbefore)⟩
  · rw [h]
    exact ⟨rfl, .single (.clear hsaga hphase)⟩

/-- **A finalize checkpoint** of an Entity that was purged behind the boundary. -/
theorem checkpointFinalize_onward (h : Accounted inventory)
    (step : HoldoverWriteAppDeletionFinalizeStep)
    (hpurged : PurgedSince step.entity.name inventory.log) :
    Onward inventory (checkpointAppDeletionFinalizeStep step inventory).2 := by
  rcases checkpointFinalize_cases step inventory with hsame |
    ⟨saga, hsaga, hphase, herased | ⟨saga', hphase', hrows, hcompleted⟩⟩
  · rw [hsame]
    exact .of_same h rfl rfl
  all_goals
    have hcrossed : inventory.storage.crossed = true := by
      rw [AppInventoryStorage.crossed_of_saga hsaga, hphase]
      rfl
    have herase : SagaMove (fun _ => True) inventory.storage { inventory.storage with
        entities := inventory.storage.entities.erase step.entity.name } :=
      .erase hsaga hphase trivial
    have hkept : ∀ name, .registered name ∈ inventory.log →
        ((inventory.storage.entities.erase step.entity.name)[name]?).isSome ∨
          PurgedSince name inventory.log := fun name hname => by
      rw [Rows.getElem?_erase_eq]
      split
      · rename_i heq
        exact Or.inr (heq ▸ hpurged)
      · exact (h.rows name hname).imp id And.right
  · rw [herased]
    exact ⟨⟨herase.sound h.sound, fun name hname => (hkept name hname).imp id fun hp =>
      ⟨hcrossed, hp⟩⟩, .single herase, le_refl _,
      fun _ => ⟨[], (List.append_nil _).symm, fun _ hmem => by cases hmem⟩⟩
  · rw [hcompleted]
    have hcomplete : SagaMove (fun _ => True) { inventory.storage with
        entities := inventory.storage.entities.erase step.entity.name } { inventory.storage with
          entities := inventory.storage.entities.erase step.entity.name
          suppressed := true
          deletionComplete := true
          deletionSaga := some saga' } := .complete hsaga hphase hrows hphase'
    exact ⟨⟨hcomplete.sound (herase.sound h.sound), fun name hname => (hkept name hname).imp id
      fun hp => ⟨by rw [AppInventoryStorage.crossed_of_saga rfl, hphase']; rfl, hp⟩⟩,
      .tail (.single herase) hcomplete, hcomplete.rank_le (herase.sound h.sound),
      fun _ => ⟨[], (List.append_nil _).symm, fun _ hmem => by cases hmem⟩⟩

/-! ## 4. Tasks -/

/-- What a section or a call may do to the object. -/
def Advancing (before after : AppInventory) : Prop := Accounted before → Onward before after

theorem Onward.trans {inventory'' : AppInventory} (h : Onward inventory inventory')
    (h' : Onward inventory' inventory'') : Onward inventory inventory'' where
  accounted := h'.accounted
  moves := h.moves.trans h'.moves
  rank := h.rank.trans h'.rank
  log hcrossed := by
    obtain ⟨acts, hlog, hacts⟩ := h.log hcrossed
    obtain ⟨acts', hlog', hacts'⟩ := h'.log (h.crossed hcrossed)
    refine ⟨acts ++ acts', by rw [hlog', hlog, List.append_assoc], fun name hmem => ?_⟩
    exact (List.mem_append.mp hmem).elim (hacts name) (hacts' name)

instance : IsPreorder AppInventory Advancing where
  refl _ h := .of_same h rfl rfl
  trans _ _ _ h h' haccounted := (h haccounted).trans (h' (h haccounted).accounted)

theorem Saving.advancing (h : Saving inventory inventory') : Advancing inventory inventory' :=
  fun haccounted => .of_saving haccounted h

/-- What a task relies on at its point. -/
def TaskSound (inventory : AppInventory) : InventoryPoint → Prop
  | .finalizePurge _ => inventory.storage.crossed = true
  | .finalizeCheckpoint step =>
    inventory.storage.crossed = true ∧ PurgedSince step.entity.name inventory.log
  | _ => True

/-- What a task that started in `before` has come to. -/
def ProgressSound (before : AppInventory) (progress : InventoryProgress) (after : AppInventory) :
    Prop :=
  match progress with
  | .inl point => TaskSound after point
  | .inr (.cancelDeletion reply) =>
    before.storage.crossed = true → ¬ (reply.done = true ∧ reply.cancelled = true)
  | .inr _ => True

theorem Onward.task (h : Onward inventory inventory') {point : InventoryPoint}
    (hpoint : TaskSound inventory point) : TaskSound inventory' point := by
  cases point with
  | finalizePurge _ => exact h.crossed hpoint
  | finalizeCheckpoint _ => exact ⟨h.crossed hpoint.1, h.purged hpoint.1 hpoint.2⟩
  | _ => trivial

/-- A purge that succeeded is on the log. -/
theorem Onward.record_purged (h : Accounted inventory) (name : String) :
    Onward inventory { inventory with log := inventory.log ++ [.purged name] } where
  accounted := by
    refine ⟨h.sound, fun other hother => ?_⟩
    have hold : InventoryAct.registered other ∈ inventory.log := by
      rcases List.mem_append.mp hother with hold | hnew
      · exact hold
      · cases List.mem_singleton.mp hnew
    exact (h.rows other hold).imp_right fun ⟨hcrossed, hpurged⟩ =>
      ⟨hcrossed, hpurged.append fun hmem => by cases List.mem_singleton.mp hmem⟩
  moves := .refl
  rank := le_refl _
  log _ := ⟨[.purged name], rfl, fun _ hmem => by cases List.mem_singleton.mp hmem⟩

/-- **One step of a task** goes onward, and brings the task to a point it may stand at. -/
theorem stepTask_guarantees (h : Accounted inventory) {point : InventoryPoint}
    (hpoint : TaskSound inventory point) (fate : StepFate) :
    Guarantees Advancing (stepTask point fate) inventory (ProgressSound inventory) := by
  unfold stepTask
  cases point with
  | alarmRead =>
    refine guarantees_read readAppDeletionSaga_apply ?_
    cases inventory.storage.deletionSaga with
    | none => exact guarantees_pure trivial
    | some saga =>
      dsimp only
      cases saga.phase <;> exact guarantees_pure trivial
  | clearInert saga =>
    exact ((clearInert_saving saga).weaken fun _ => Saving.advancing).bind fun _ _ _ _ =>
      guarantees_pure trivial
  | cancelPlan generationId =>
    refine ((cancelPlan_saving generationId fate.nowMs fate.kvDelete).weaken
      fun _ => Saving.advancing).bind fun plan _ _ _ => ?_
    cases plan.step <;> exact guarantees_pure trivial
  | cancelResume plan step =>
    cases fate.child with
    | error _ => exact guarantees_error rfl
    | ok _ => exact guarantees_read rfl (guarantees_pure trivial)
  | cancelCheckpoint plan step =>
    refine Guarantees.bind (Q := fun _ _ => True) ⟨?_, fun _ _ => trivial⟩ fun _ _ _ _ =>
      guarantees_pure trivial
    exact (checkpointCancel_saving step h.sound).advancing
  | cancelReport plan =>
    refine ((cancelReport_saving plan).weaken fun _ => Saving.advancing).bind
      fun reply _ _ ⟨hdone, hcancelled⟩ => guarantees_pure fun hcrossed ⟨hd, hc⟩ => ?_
    rw [hdone, ← hcancelled, hc] at hd
    rw [AppInventoryStorage.crossed, Option.isNone_iff_eq_none.mp hd] at hcrossed
    cases hcrossed
  | finalizePlan generationId deleteBeforeTsMs =>
    refine ((finalizePlan_saving h.sound generationId deleteBeforeTsMs fate.nowMs).weaken
      fun _ => Saving.advancing).bind fun step _ _ hcrossed => ?_
    cases step with
    | some step => exact guarantees_pure (hcrossed rfl)
    | none => exact guarantees_pure trivial
  | finalizePurge step =>
    cases fate.child with
    | error _ => exact guarantees_error rfl
    | ok _ =>
      refine guarantees_read rfl (guarantees_andThen rfl
        (fun haccounted => .record_purged haccounted step.entity.name) (guarantees_pure ?_))
      exact ⟨hpoint, inventory.log, [], rfl, List.not_mem_nil⟩
  | finalizeCheckpoint step =>
    refine Guarantees.bind (Q := fun _ _ => True) ⟨?_, fun _ _ => trivial⟩ fun _ _ _ _ =>
      guarantees_pure trivial
    exact fun haccounted => checkpointFinalize_onward haccounted step hpoint.2
  | finalizeReport =>
    exact (finalizeReport_saving.weaken fun _ => Saving.advancing).bind fun _ _ _ _ =>
      guarantees_pure trivial

/-! ## 5. The object -/

structure BoundarySound (world : InventoryWorld) : Prop where
  accounted : Accounted world.inventory
  tasks : ∀ task ∈ world.tasks, TaskSound world.inventory task.point

variable {world : InventoryWorld}

/-- A section leaves the tasks. -/
theorem BoundarySound.section_ {α : Type} (h : BoundarySound world) (closure : InventoryM α)
    (reply : α → InventoryReply)
    (honward : Onward world.inventory (closure world.inventory).2) :
    BoundarySound (section_ closure reply world).2 :=
  ⟨honward.accounted, fun task hmem => honward.task (h.tasks task hmem)⟩

theorem BoundarySound.spawn (h : BoundarySound world) {task : InventoryTask}
    (htask : TaskSound world.inventory task.point) : BoundarySound (spawn task world).2 := by
  refine ⟨h.accounted, fun task' hmem => ?_⟩
  rcases List.mem_append.mp hmem with hold | hnew
  · exact h.tasks task' hold
  · cases List.mem_singleton.mp hnew
    exact htask

theorem redelivered_onward (h : Accounted inventory) (task : InventoryTask) (nowMs : Int) :
    Onward inventory (redelivered task nowMs inventory) := by
  unfold redelivered
  split
  · exact .of_same h rfl rfl
  · exact .of_same h rfl rfl

/-- The answer of an event is no cancel that succeeded behind the boundary. -/
def AnswerSound (before : AppInventory) (answer : InventoryAnswer) : Prop :=
  ∀ reply, answer = some (.ok (.cancelDeletion reply)) → before.storage.crossed = true →
    ¬ (reply.done = true ∧ reply.cancelled = true)

theorem stepWorld_onward (h : BoundarySound world) (place : Nat) (fate : StepFate) :
    Onward world.inventory (stepWorld place fate world).2.inventory ∧
      BoundarySound (stepWorld place fate world).2 ∧
      AnswerSound world.inventory (stepWorld place fate world).1 := by
  unfold stepWorld
  cases htask : world.tasks[place]? with
  | none => exact ⟨.of_same h.accounted rfl rfl, h, fun _ hreply => by cases hreply⟩
  | some task =>
    obtain ⟨hadvancing, hprogress⟩ := stepTask_guarantees h.accounted
      (h.tasks task (List.mem_of_getElem? htask)) fate
    have honward := hadvancing h.accounted
    dsimp only
    cases hstep : stepTask task.point fate world.inventory with
    | mk answer inventory' =>
      rw [hstep] at honward hprogress
      have hkept : ∀ task' ∈ world.tasks, TaskSound inventory' task'.point :=
        fun task' hmem => honward.task (h.tasks task' hmem)
      cases answer with
      | error message =>
        have hredelivered := redelivered_onward honward.accounted task fate.nowMs
        refine ⟨honward.trans hredelivered, ⟨hredelivered.accounted, fun task' hmem => ?_⟩,
          fun _ hreply => by cases hreply⟩
        exact hredelivered.task (hkept task' (List.mem_of_mem_eraseIdx hmem))
      | ok progress =>
        have hsound := hprogress progress rfl
        cases progress with
        | inl point =>
          refine ⟨honward, ⟨honward.accounted, fun task' hmem => ?_⟩,
            fun _ hreply => by cases hreply⟩
          rcases List.mem_or_eq_of_mem_set hmem with hold | rfl
          · exact hkept task' hold
          · exact hsound
        | inr reply =>
          refine ⟨honward, ⟨honward.accounted, fun task' hmem =>
            hkept task' (List.mem_of_mem_eraseIdx hmem)⟩, fun reply' hreply => ?_⟩
          cases hreply
          exact hsound

/-- **Every event** goes onward, whatever was interleaved before it. -/
theorem inventoryStep_onward (h : BoundarySound world) (event : InventoryEvent) :
    Onward world.inventory (inventoryStep world event).2.inventory ∧
      BoundarySound (inventoryStep world event).2 ∧
      AnswerSound world.inventory (inventoryStep world event).1 := by
  have hsection : ∀ {α : Type} (closure : InventoryM α) (reply : α → InventoryReply),
      Onward world.inventory (closure world.inventory).2 →
      (∀ a reply', reply a ≠ .cancelDeletion reply') →
      Onward world.inventory (section_ closure reply world).2.inventory ∧
        BoundarySound (section_ closure reply world).2 ∧
        AnswerSound world.inventory (section_ closure reply world).1 :=
    fun closure reply honward hreply => by
      refine ⟨honward, h.section_ closure reply honward, fun reply' hanswer => ?_⟩
      have hmap := Option.some.inj hanswer
      cases hresult : (closure world.inventory).1 with
      | error message =>
        rw [hresult] at hmap
        cases hmap
      | ok a =>
        rw [hresult] at hmap
        exact absurd (Except.ok.inj hmap) (hreply a reply')
  have hquiet : ∀ {world' : InventoryWorld}, BoundarySound world' →
      world'.inventory.storage = world.inventory.storage →
      world'.inventory.log = world.inventory.log →
      Onward world.inventory world'.inventory ∧ BoundarySound world' ∧
        AnswerSound world.inventory none := fun hsound hstorage hlog =>
    ⟨.of_same h.accounted hstorage hlog, hsound, fun _ hreply => by cases hreply⟩
  cases event with
  | register ref =>
    exact hsection _ _ (register_onward h.accounted ref) fun _ _ hne => by cases hne
  | admission ref identityVersion =>
    exact hsection _ _ (admit_onward h.accounted ref identityVersion) fun _ _ hne => by cases hne
  | beginDeletion generationId deleteBeforeTsMs nowMs fate =>
    have hsaving := (begin_saving h.accounted.sound generationId deleteBeforeTsMs nowMs fate).1
    exact hsection _ _ (.of_saving h.accounted hsaving) fun _ _ hne => by cases hne
  | markD1Deleted generationId deleteBeforeTsMs nowMs =>
    have hsaving := markD1Deleted_saving h.accounted.sound generationId deleteBeforeTsMs nowMs
    exact hsection _ _ (.of_saving h.accounted hsaving) fun _ _ hne => by cases hne
  | cancelDeletion generationId => exact hquiet (h.spawn trivial) rfl rfl
  | finalizeDeletion generationId deleteBeforeTsMs => exact hquiet (h.spawn trivial) rfl rfl
  | alarm =>
    dsimp only [inventoryStep]
    split
    · have hfired : Onward world.inventory { world.inventory with alarm := none } :=
        .of_same h.accounted rfl rfl
      have hsound : BoundarySound
          { world with inventory := { world.inventory with alarm := none } } :=
        ⟨hfired.accounted, fun task hmem => hfired.task (h.tasks task hmem)⟩
      exact hquiet (hsound.spawn trivial) rfl rfl
    · exact hquiet h rfl rfl
  | step place fate => exact stepWorld_onward h place fate

/-- An object between two requests, whose rows and registrations agree. -/
structure IdleInventory (world : InventoryWorld) : Prop where
  tasks : world.tasks = []
  sound : SagaSound world.inventory.storage
  rows : ∀ name, .registered name ∈ world.inventory.log ↔
    (world.inventory.storage.entities[name]?).isSome

theorem IdleInventory.boundarySound (h : IdleInventory world) : BoundarySound world :=
  ⟨⟨h.sound, fun name hname => Or.inl ((h.rows name).mp hname)⟩,
    fun task hmem => by rw [h.tasks] at hmem; cases hmem⟩

theorem idle_init : IdleInventory appInventory.init where
  tasks := rfl
  sound := {
    keyed := Rows.Keyed.empty
    complete := fun h => (by cases h)
    completed := fun _ h => (by cases h)
    suppressed := fun h => (by cases h) }
  rows name := by simp [appInventory, AppInventoryStorage.empty]

/-- **A run** keeps the account. -/
theorem exec_boundarySound (h : BoundarySound world) (events : List InventoryEvent) :
    BoundarySound (appInventory.exec world events) :=
  Machine.exec_invariant (I := BoundarySound) appInventory
    (fun _ event hsound => (inventoryStep_onward hsound event).2.1) h events

/-- **A run** goes onward. -/
theorem exec_onward (h : BoundarySound world) (events : List InventoryEvent) :
    Onward world.inventory (appInventory.exec world events).inventory := by
  induction events generalizing world with
  | nil => exact .of_same h.accounted rfl rfl
  | cons event events ih =>
    obtain ⟨honward, hsound, -⟩ := inventoryStep_onward h event
    exact honward.trans (ih hsound)

/-- **The D1 boundary is crossed once.**  From the moment the saga stands behind it, in every
interleaving: the saga stays behind it and goes on from `d1_deleted` to `finalizing` to
`completed` only, the App is suppressed, registers nothing and admits nothing, and no cancel
succeeds.  Where the saga is completed, the outbox of every Entity was purged after its last
registration. -/
theorem boundary_crossed_once {start : InventoryWorld} (hstart : IdleInventory start)
    (pre post : List InventoryEvent)
    (hcrossed : (appInventory.exec start pre).inventory.storage.crossed = true) :
    let before := appInventory.exec start pre
    let after := appInventory.exec before post
    after.inventory.storage.crossed = true ∧
      before.inventory.storage.rank ≤ after.inventory.storage.rank ∧
      after.inventory.storage.suppressed = true ∧
      (∀ ref, appInventory.out after (.register ref) = some (.ok (.register .suppressed))) ∧
      (∀ ref identityVersion, identityVersion ≠ "" →
        appInventory.out after (.admission ref identityVersion) =
          some (.ok (.admission .suppressed))) ∧
      (∀ event reply, appInventory.out after event = some (.ok (.cancelDeletion reply)) →
        ¬ (reply.done = true ∧ reply.cancelled = true)) ∧
      (∀ saga, after.inventory.storage.deletionSaga = some saga → saga.phase = .completed →
        ∀ name, .registered name ∈ after.inventory.log →
          PurgedSince name after.inventory.log) := by
  intro before after
  have hbefore : BoundarySound before := exec_boundarySound hstart.boundarySound pre
  have hafter : BoundarySound after := exec_boundarySound hbefore post
  have honward : Onward before.inventory after.inventory := exec_onward hbefore post
  have hcrossed' := honward.crossed hcrossed
  have hsuppressed := hafter.accounted.sound.suppressed hcrossed'
  refine ⟨hcrossed', honward.rank, hsuppressed, fun ref => ?_, fun ref identityVersion hne => ?_,
    fun event reply hreply => ?_, fun saga hsaga hphase name hname => ?_⟩
  · exact congrArg (fun r => some (r.1.map InventoryReply.register))
      (register_suppressed ref hsuppressed)
  · exact congrArg (fun r => some (r.map InventoryReply.admission))
      (admit_suppressed ref hne hsuppressed)
  · exact (inventoryStep_onward hafter event).2.2 reply hreply hcrossed'
  · have hcomplete := hafter.accounted.sound.completed saga hsaga hphase
    have hrows := (hafter.accounted.sound.complete hcomplete).2.1
    refine ((hafter.accounted.rows name hname).resolve_left fun hrow => ?_).2
    obtain ⟨ref, href⟩ := Option.isSome_iff_exists.mp hrow
    have hmem := Rows.mem_rows.mpr ⟨name, href⟩
    change ref ∈ listRegisteredEntities after.inventory.storage at hmem
    rw [hrows] at hmem
    cases hmem

def inventoryEntity : HoldoverWriteAppEntityRef := ⟨"user", "hash", by decide, by decide⟩

def prepareCallsDone : PrepareFate := ⟨.ok (), .ok (), .ok ()⟩

def stepCallsDone : StepFate := ⟨300, .ok (), .ok ()⟩

/-- A deletion up to the mark in D1. -/
def markedRun : List InventoryEvent :=
  [.register inventoryEntity, .beginDeletion "g" 100 200 prepareCallsDone,
    .markD1Deleted "g" none 250]

/-- Its finalize: the plan, the purge of the one Entity, its checkpoint, the report. -/
def finalizedRun : List InventoryEvent :=
  [.finalizeDeletion "g" none, .step 0 stepCallsDone, .step 0 stepCallsDone,
    .step 0 stepCallsDone, .step 0 stepCallsDone]

theorem boundary_crossed_once_finalized :
    let after := appInventory.exec (appInventory.run markedRun) finalizedRun
    after.inventory.storage.deletionSaga.map (·.phase) = some .completed ∧
      after.inventory.storage.suppressed = true ∧
      PurgedSince "user:hash" after.inventory.log := by
  intro after
  have hphase : after.inventory.storage.deletionSaga.map (·.phase) = some .completed := by
    decide +kernel
  obtain ⟨saga, hsaga, hcompleted⟩ := Option.map_eq_some_iff.mp hphase
  obtain ⟨-, -, hsuppressed, -, -, -, hpurged⟩ :=
    boundary_crossed_once idle_init markedRun finalizedRun (by decide +kernel)
  exact ⟨hphase, hsuppressed, hpurged saga hsaga hcompleted "user:hash" (by decide +kernel)⟩

end Splitch
