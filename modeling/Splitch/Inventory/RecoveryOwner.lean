/-
# Who recovers the saga

A saga that has work left must not be forgotten: somebody has to come back to it.  The owner of the recovery
is an armed alarm, or an alarm that has fired and that will arm the next one.

Every section tends to this in one of three ways (`Tended`): the alarm is armed when it ends, or no work is
left, or the section has left the alarm and the saga as they were.  A section first arms the alarm and then
moves the saga, so in between the saga may move as it likes (`Moving.tended`); and it takes the alarm back
only where it has found nothing left to do.  The steps of a task come between sections, and a task that
throws is an alarm that is delivered again (`stepWorld_owned`).

There is one exception.  A prepare that is replayed for a generation whose deletion is behind the D1 boundary
and not yet complete answers without having done anything, and `begin` takes the alarm back as if nothing
were left.  So the result is over runs that replay no such begin (`saga_has_recovery_owner`), and one that
does leaves a saga with no alarm (`replayed_begin_orphans_saga`).
-/
import Splitch.Inventory.DeletionBoundary

namespace Splitch

open StateActions InventoryM

variable {inventory inventory' : AppInventory}

/-! ## 1. A suppressed App has a saga -/

/-- A suppressed App has a saga, or its deletion is complete. -/
def Explained (storage : AppInventoryStorage) : Prop :=
  storage.suppressed = true → storage.deletionSaga.isSome ∨ storage.deletionComplete = true

theorem SagaMove.explained {mayErase : String → Prop} {storage storage' : AppInventoryStorage}
    (h : SagaMove mayErase storage storage') (hexplained : Explained storage) :
    Explained storage' := by
  cases h with
  | register => exact hexplained
  | erase => exact hexplained
  | clear => exact fun hsuppressed => by cases hsuppressed
  | recomplete => exact fun _ => Or.inr rfl
  | adopt => exact fun _ => Or.inl rfl
  | cancel => exact fun _ => Or.inl rfl
  | freeze => exact fun _ => Or.inl rfl
  | prepare => exact fun _ => Or.inl rfl
  | cross => exact fun _ => Or.inl rfl
  | finalize => exact fun _ => Or.inl rfl
  | complete => exact fun _ => Or.inl rfl
  | recordCompleted => exact fun _ => Or.inl rfl

/-! ## 2. Sections -/

/-- A stretch of code that leaves the alarm, and the saga as far as its owner looks at it. -/
structure Rests (before after : AppInventory) : Prop where
  alarm : after.alarm = before.alarm
  generation : after.storage.deletionSaga.map (·.generationId)
    = before.storage.deletionSaga.map (·.generationId)
  inert : Inert before.storage → Inert after.storage

/-- **What a section leaves**: an armed alarm, or nothing to do, or what it has found. -/
def Tended (before after : AppInventory) : Prop :=
  after.alarm.isSome ∨ Inert after.storage ∨ Rests before after

theorem Rests.of_same (halarm : inventory'.alarm = inventory.alarm)
    (hsaga : inventory'.storage.deletionSaga = inventory.storage.deletionSaga) :
    Rests inventory inventory' where
  alarm := halarm
  generation := by rw [hsaga]
  inert h := fun saga hfound => h saga (hsaga ▸ hfound)

theorem Tended.trans {inventory'' : AppInventory} (h : Tended inventory inventory')
    (h' : Tended inventory' inventory'') : Tended inventory inventory'' := by
  rcases h' with harmed | hinert | hrests'
  · exact Or.inl harmed
  · exact Or.inr (Or.inl hinert)
  · rcases h with harmed | hinert | hrests
    · exact Or.inl (hrests'.alarm ▸ harmed)
    · exact Or.inr (Or.inl (hrests'.inert hinert))
    · exact Or.inr (Or.inr ⟨hrests'.alarm.trans hrests.alarm,
        hrests'.generation.trans hrests.generation, fun h => hrests'.inert (hrests.inert h)⟩)

instance : IsPreorder AppInventory Tended where
  refl _ := Or.inr (Or.inr (.of_same rfl rfl))
  trans _ _ _ := Tended.trans

theorem Tended.of_same (halarm : inventory'.alarm = inventory.alarm)
    (hsaga : inventory'.storage.deletionSaga = inventory.storage.deletionSaga) :
    Tended inventory inventory' := Or.inr (Or.inr (.of_same halarm hsaga))

theorem Tended.of_armed {scheduledTime : Int} (h : inventory'.alarm = some scheduledTime) :
    Tended inventory inventory' := Or.inl (by rw [h]; rfl)

theorem Tended.of_inert (h : Inert inventory'.storage) : Tended inventory inventory' :=
  Or.inr (Or.inl h)

/-- While the alarm is armed, the saga may move as it likes. -/
theorem Moving.tended {mayErase : String → Prop} {scheduledTime : Int}
    (harmed : inventory.alarm = some scheduledTime) (h : Moving mayErase inventory inventory') :
    Tended inventory inventory' := .of_armed (h.alarm.trans harmed)

theorem inert_of_phase {saga : HoldoverWriteAppDeletionSaga}
    (h : inventory.storage.deletionSaga = some saga)
    (hphase : saga.phase = .prepared ∨ saga.phase = .completed) : Inert inventory.storage :=
  fun saga' hsaga' => by
    cases h.symm.trans hsaga'
    exact hphase

theorem register_tended (ref : HoldoverWriteAppEntityRef) :
    Tended inventory (registerAppInventoryEntity ref inventory).2 := by
  unfold registerAppInventoryEntity
  rw [andThen_of_ok getStorage_apply]
  split
  · exact .of_same rfl rfl
  · split
    · exact .of_same rfl rfl
    · exact .of_same rfl rfl

theorem admit_tended (ref : HoldoverWriteAppEntityRef) (identityVersion : String) :
    Tended inventory (admitAppInventoryAssignment ref identityVersion inventory).2 := by
  unfold admitAppInventoryAssignment
  split
  · exact .of_same rfl rfl
  · rw [andThen_of_ok getStorage_apply]
    split
    · exact .of_same rfl rfl
    · split
      · exact .of_same rfl rfl
      · exact .of_same rfl rfl

/-- **Begin** arms the alarm first, and takes it back where the prepare has left nothing to do. -/
theorem begin_tended (hsound : SagaSound inventory.storage) {generationId : String}
    (hnot : NotReplayed generationId inventory.storage) (deleteBeforeTsMs nowMs : Int)
    (fate : PrepareFate) :
    Tended inventory (beginDeletion generationId deleteBeforeTsMs nowMs fate inventory).2 := by
  have hsection : Guarantees Tended (beginDeletion generationId deleteBeforeTsMs nowMs fate)
      inventory fun _ _ => True := by
    unfold beginDeletion
    refine guarantees_andThen (setAlarm_apply _) (.of_armed rfl) ?_
    have hprepare : Guarantees (Moving fun _ => False) _ _ _ :=
      prepare_guarantees (hsound.alarm (some (nowMs + SAGA_RETRY_DELAY_MS))) generationId
        deleteBeforeTsMs fate
    refine Guarantees.bind (hprepare.weaken fun _ => Moving.tended rfl)
      fun deletionComplete inventory' _ hinert => ?_
    refine guarantees_read readAppDeletionSaga_apply ?_
    dsimp only
    split
    · exact guarantees_andThen deleteAlarm_apply (.of_inert (hinert hnot)) (guarantees_pure trivial)
    · exact guarantees_pure trivial
  exact hsection.1

/-- **The D1 mark** arms the alarm, unless the deletion is complete. -/
theorem markD1Deleted_tended (hsound : SagaSound inventory.storage) (generationId : String)
    (deleteBeforeTsMs : Option Int) (nowMs : Int) :
    Tended inventory (markD1Deleted generationId deleteBeforeTsMs nowMs inventory).2 := by
  unfold markD1Deleted transaction
  split
  · rename_i saga inventory' heq
    obtain ⟨next, inv, hmark, hrest⟩ := andThen_eq_ok.mp heq
    have hanswer : Guarantees (Moving fun _ => False) _ _ _ :=
      markD1_guarantees hsound generationId deleteBeforeTsMs
    have hstored := (hanswer.2 next (by rw [hmark])).1
    rw [hmark] at hstored
    dsimp only at hrest hstored
    split at hrest
    · rename_i hphase
      rw [andThen_of_ok deleteAlarm_apply] at hrest
      cases hrest
      exact .of_inert (inert_of_phase hstored (Or.inr hphase))
    · rw [andThen_of_ok (setAlarm_apply _)] at hrest
      cases hrest
      exact .of_armed rfl
  · exact refl_of Tended inventory

/-- **The plan of a cancel** arms the alarm, unless the saga is of another generation. -/
theorem cancelPlan_tended (generationId : Option String) (nowMs : Int)
    (kvDelete : Except String Unit) :
    Tended inventory (cancelPlanSection generationId nowMs kvDelete inventory).2 ∧
      ((∀ saga, inventory.storage.deletionSaga = some saga → saga.generationId = generationId) →
        (cancelPlanSection generationId nowMs kvDelete inventory).2.alarm.isSome) := by
  have harms : ∀ inv : AppInventory, inv.alarm.isSome →
      (planAppDeletionCancelStep generationId kvDelete inv).2.alarm.isSome := fun inv harmed => by
    have hplan : Guarantees (Moving fun _ => False)
        (planAppDeletionCancelStep generationId kvDelete) inv fun _ _ => True := by
      unfold planAppDeletionCancelStep
      refine (beginOrResumeCancel_guarantees _ kvDelete).bind fun progress inv' _ _ => ?_
      split
      · exact guarantees_pure trivial
      · exact guarantees_read readAppDeletionSaga_apply (guarantees_pure trivial)
    rw [hplan.1.alarm]
    exact harmed
  unfold cancelPlanSection
  rw [andThen_of_ok readAppDeletionSaga_apply]
  split
  · rename_i hother
    refine ⟨.of_same rfl rfl, fun hsame => ?_⟩
    obtain ⟨saga, hsaga, hne⟩ := (Option.any_eq_true _ _).mp hother
    have hne' := of_decide_eq_true (Bool.and_eq_true _ _ ▸ hne).1
    exact absurd (hsame saga hsaga) hne'
  · rw [armRetry, andThen_of_ok (setAlarm_apply _)]
    have harmed := harms { inventory with alarm := some (nowMs + SAGA_RETRY_DELAY_MS) } rfl
    exact ⟨Or.inl harmed, fun _ => harmed⟩

/-- **The plan of a finalize** arms the alarm. -/
theorem finalizePlan_arms (hsound : SagaSound inventory.storage) (generationId : Option String)
    (deleteBeforeTsMs : Option Int) (nowMs : Int) :
    (finalizePlanSection generationId deleteBeforeTsMs nowMs inventory).2.alarm.isSome := by
  have hplan : Guarantees (Moving fun _ => False) _ _ _ :=
    planFinalize_guarantees (hsound.alarm (some (nowMs + SAGA_RETRY_DELAY_MS))) generationId
      deleteBeforeTsMs
  unfold finalizePlanSection
  rw [armRetry, andThen_of_ok (setAlarm_apply _), hplan.1.alarm]
  rfl

theorem checkpointCancel_tended (step : HoldoverWriteAppDeletionCancelStep) :
    Tended inventory (checkpointAppDeletionCancelStep step inventory).2 := by
  rcases checkpointCancel_cases step inventory with h | ⟨saga, hsaga, hphase, ⟨pending, h⟩ | h⟩
  · rw [h]
    exact refl_of Tended inventory
  · rw [h]
    refine Or.inr (Or.inr ⟨rfl, by rw [hsaga]; rfl, fun hinert => ?_⟩)
    have := hinert saga hsaga
    rw [hphase] at this
    exact absurd this (by decide)
  · rw [h]
    exact .of_inert (inert_of_none rfl)

theorem checkpointFinalize_tended (step : HoldoverWriteAppDeletionFinalizeStep) :
    Tended inventory (checkpointAppDeletionFinalizeStep step inventory).2 := by
  rcases checkpointFinalize_cases step inventory with h |
    ⟨saga, hsaga, hphase, h | ⟨saga', hphase', -, h⟩⟩
  · rw [h]
    exact refl_of Tended inventory
  · rw [h]
    exact .of_same rfl rfl
  · rw [h]
    exact .of_inert fun saga'' hsaga'' => by cases hsaga''; exact Or.inr hphase'

/-- The report of a cancel takes the alarm back where no saga is left. -/
theorem cancelReport_tended (plan : CancelProgress) :
    Tended inventory (cancelReportSection plan inventory).2 := by
  unfold cancelReportSection
  rw [andThen_of_ok readAppDeletionSaga_apply]
  dsimp only
  split
  · rename_i hnone
    rw [andThen_of_ok deleteAlarm_apply]
    exact .of_inert (inert_of_none (Option.isNone_iff_eq_none.mp (Bool.and_eq_true _ _ ▸ hnone).1))
  · exact refl_of Tended inventory

/-- The report of a finalize takes the alarm back where the saga is completed. -/
theorem finalizeReport_tended : Tended inventory (finalizeReportSection inventory).2 := by
  unfold finalizeReportSection
  rw [andThen_of_ok readAppDeletionSaga_apply]
  dsimp only
  split
  · rename_i hdone
    obtain ⟨saga, hsaga, hphase⟩ := (Option.any_eq_true _ _).mp hdone
    rw [andThen_of_ok deleteAlarm_apply]
    exact .of_inert (inert_of_phase hsaga (Or.inr (of_decide_eq_true hphase)))
  · exact refl_of Tended inventory

/-- An alarm of an inert saga takes back the alarm of that saga only. -/
theorem clearInert_tended {saga : HoldoverWriteAppDeletionSaga}
    (hinert : saga.phase = .prepared ∨ saga.phase = .completed) :
    Tended inventory (clearInertAlarm saga inventory).2 := by
  unfold clearInertAlarm
  rw [andThen_of_ok readAppDeletionSaga_apply]
  split
  · rename_i hsame
    obtain ⟨current, hcurrent, hsame⟩ := (Option.any_eq_true _ _).mp hsame
    refine .of_inert (inert_of_phase hcurrent ?_)
    rw [(of_decide_eq_true hsame).2]
    exact hinert
  · exact refl_of Tended inventory

/-! ## 3. Tasks -/

/-- A task at this point arms the alarm with its next sections, as the saga stands. -/
def WillArm (storage : AppInventoryStorage) : InventoryPoint → Prop
  | .alarmRead => True
  | .cancelPlan generationId =>
    ∀ saga, storage.deletionSaga = some saga → saga.generationId = generationId
  | .finalizePlan _ _ => True
  | _ => False

/-- An alarm clears the slot for a saga that was inert when it looked. -/
def ClearsInert : InventoryPoint → Prop
  | .clearInert saga => saga.phase = .prepared ∨ saga.phase = .completed
  | _ => True

theorem Rests.willArm (h : Rests inventory inventory') {point : InventoryPoint}
    (hwill : WillArm inventory.storage point) : WillArm inventory'.storage point := by
  cases point with
  | alarmRead => trivial
  | finalizePlan => trivial
  | cancelPlan generationId =>
    intro saga' hsaga'
    have hgeneration := h.generation
    rw [hsaga'] at hgeneration
    obtain ⟨saga, hsaga, hsame⟩ := Option.map_eq_some_iff.mp hgeneration.symm
    exact hsame.symm.trans (hwill saga hsaga)
  | clearInert => exact hwill.elim
  | cancelResume => exact hwill.elim
  | cancelCheckpoint => exact hwill.elim
  | cancelReport => exact hwill.elim
  | finalizePurge => exact hwill.elim
  | finalizeCheckpoint => exact hwill.elim
  | finalizeReport => exact hwill.elim

/-- **One step of a task** tends to the saga, and a task that was to arm the alarm has done so, or
found nothing to do, or still is to. -/
structure StepTended (point : InventoryPoint) (before : AppInventory)
    (result : Except String InventoryProgress × AppInventory) : Prop where
  tended : Tended before result.2
  arms : WillArm before.storage point → result.2.alarm.isSome ∨ Inert result.2.storage ∨
    ∃ point', result.1 = .ok (.inl point') ∧ WillArm result.2.storage point'
  clears : ∀ point', result.1 = .ok (.inl point') → ClearsInert point'

/-- A section that tends, before an end that only answers. -/
theorem StepTended.of_section {α : Type} {point : InventoryPoint} {closure : InventoryM α}
    {next : α → InventoryM InventoryProgress}
    (htended : Tended inventory (closure inventory).2)
    (harms : WillArm inventory.storage point → (closure inventory).2.alarm.isSome)
    (hnext : ∀ a, ∃ progress, next a = pure progress ∧
      ∀ point', progress = .inl point' → ClearsInert point') :
    StepTended point inventory ((closure >>= next) inventory) := by
  have hstate : ((closure >>= next) inventory).2 = (closure inventory).2 :=
    andThen_state (fun a _ => by obtain ⟨_, h, -⟩ := hnext a; rw [h]; rfl) inventory
  refine ⟨hstate ▸ htended, fun hwill => Or.inl (hstate ▸ harms hwill), fun point' hpoint' => ?_⟩
  rw [andThen_apply] at hpoint'
  cases hresult : (closure inventory).1 with
  | error message =>
    rw [hresult] at hpoint'
    cases hpoint'
  | ok a =>
    obtain ⟨progress, h, hclears⟩ := hnext a
    rw [hresult] at hpoint'
    dsimp only at hpoint'
    rw [h] at hpoint'
    exact hclears point' (Except.ok.inj hpoint')

theorem stepTask_tended (hsound : SagaSound inventory.storage) {point : InventoryPoint}
    (hclears : ClearsInert point) (fate : StepFate) :
    StepTended point inventory (stepTask point fate inventory) := by
  unfold stepTask
  cases point with
  | alarmRead =>
    dsimp only
    rw [andThen_of_ok readAppDeletionSaga_apply]
    cases hsaga : inventory.storage.deletionSaga with
    | none =>
      exact ⟨refl_of Tended inventory, fun _ => Or.inr (Or.inl (inert_of_none hsaga)),
        fun _ hpoint' => by cases hpoint'⟩
    | some saga =>
      have hsame : ∀ saga', inventory.storage.deletionSaga = some saga' →
          saga'.generationId = saga.generationId := fun saga' hsaga' => by
        cases hsaga.symm.trans hsaga'
        rfl
      dsimp only
      cases hphase : saga.phase with
      | preparing =>
        exact ⟨refl_of Tended inventory, fun _ => Or.inr (Or.inr ⟨_, rfl, hsame⟩),
          fun _ hpoint' => by cases hpoint'; trivial⟩
      | canceling =>
        exact ⟨refl_of Tended inventory, fun _ => Or.inr (Or.inr ⟨_, rfl, hsame⟩),
          fun _ hpoint' => by cases hpoint'; trivial⟩
      | d1_deleted =>
        exact ⟨refl_of Tended inventory, fun _ => Or.inr (Or.inr ⟨_, rfl, trivial⟩),
          fun _ hpoint' => by cases hpoint'; trivial⟩
      | finalizing =>
        exact ⟨refl_of Tended inventory, fun _ => Or.inr (Or.inr ⟨_, rfl, trivial⟩),
          fun _ hpoint' => by cases hpoint'; trivial⟩
      | prepared =>
        exact ⟨refl_of Tended inventory,
          fun _ => Or.inr (Or.inl (inert_of_phase hsaga (Or.inl hphase))),
          fun _ hpoint' => by cases hpoint'; exact Or.inl hphase⟩
      | completed =>
        exact ⟨refl_of Tended inventory,
          fun _ => Or.inr (Or.inl (inert_of_phase hsaga (Or.inr hphase))),
          fun _ hpoint' => by cases hpoint'; exact Or.inr hphase⟩
  | clearInert saga =>
    exact .of_section (clearInert_tended hclears) False.elim
      fun _ => ⟨_, rfl, fun _ h => by cases h⟩
  | cancelPlan generationId =>
    have hplan : Tended inventory _ ∧ _ :=
      cancelPlan_tended generationId fate.nowMs fate.kvDelete
    obtain ⟨htended, harms⟩ := hplan
    refine .of_section htended harms fun plan => ?_
    cases plan.step with
    | none => exact ⟨_, rfl, fun _ h => by cases h; trivial⟩
    | some step => exact ⟨_, rfl, fun _ h => by cases h; trivial⟩
  | cancelResume plan step =>
    exact .of_section (.of_same rfl rfl) False.elim
      fun _ => ⟨_, rfl, fun _ h => by cases h; trivial⟩
  | cancelCheckpoint plan step =>
    exact .of_section (checkpointCancel_tended step) False.elim
      fun _ => ⟨_, rfl, fun _ h => by cases h; trivial⟩
  | cancelReport plan =>
    exact .of_section (cancelReport_tended plan) False.elim
      fun _ => ⟨_, rfl, fun _ h => by cases h⟩
  | finalizePlan generationId deleteBeforeTsMs =>
    have harms := finalizePlan_arms hsound generationId deleteBeforeTsMs fate.nowMs
    refine .of_section (Or.inl harms) (fun _ => harms) fun plan => ?_
    cases plan with
    | none => exact ⟨_, rfl, fun _ h => by cases h; trivial⟩
    | some step => exact ⟨_, rfl, fun _ h => by cases h; trivial⟩
  | finalizePurge step =>
    cases fate.child with
    | error message =>
      exact ⟨.of_same rfl rfl, False.elim, fun _ h => by cases h⟩
    | ok _ => exact ⟨.of_same rfl rfl, False.elim, fun _ h => by cases h; trivial⟩
  | finalizeCheckpoint step =>
    exact .of_section (checkpointFinalize_tended step) False.elim
      fun _ => ⟨_, rfl, fun _ h => by cases h; trivial⟩
  | finalizeReport =>
    exact .of_section finalizeReport_tended False.elim fun _ => ⟨_, rfl, fun _ h => by cases h⟩

/-! ## 4. The object -/

/-- **Somebody recovers the saga**: where it has work left, an alarm is armed, or one has fired and
is still to arm the next. -/
def RecoveryOwned (world : InventoryWorld) : Prop :=
  ¬ Inert world.inventory.storage → world.inventory.alarm.isSome ∨
    ∃ task ∈ world.tasks, task.isAlarm = true ∧ WillArm world.inventory.storage task.point

/-- A begin that does not replay a generation that is still to be finalized. -/
def BeginsAfresh (world : InventoryWorld) : InventoryEvent → Prop
  | .beginDeletion generationId _ _ _ => NotReplayed generationId world.inventory.storage
  | _ => True

structure RecoverySound (world : InventoryWorld) : Prop where
  boundary : BoundarySound world
  explained : Explained world.inventory.storage
  clears : ∀ task ∈ world.tasks, ClearsInert task.point
  owned : RecoveryOwned world

variable {world : InventoryWorld}

theorem SagaMoves.explained {mayErase : String → Prop} {storage storage' : AppInventoryStorage}
    (h : SagaMoves mayErase storage storage') (hexplained : Explained storage) :
    Explained storage' := by
  induction h with
  | refl => exact hexplained
  | tail _ hmove ih => exact hmove.explained ih

/-- Where the object was tended to, it stays owned if some task takes over what an alarm that is
still to arm would have done. -/
theorem RecoveryOwned.of_tended (h : RecoveryOwned world) {tasks : List InventoryTask}
    (htended : Tended world.inventory inventory')
    (hkept : Rests world.inventory inventory' → ∀ task ∈ world.tasks, task.isAlarm = true →
      WillArm world.inventory.storage task.point → inventory'.alarm.isSome ∨
        Inert inventory'.storage ∨
        ∃ task' ∈ tasks, task'.isAlarm = true ∧ WillArm inventory'.storage task'.point) :
    RecoveryOwned ⟨inventory', tasks⟩ := by
  intro hactive
  rcases htended with harmed | hinert | hrests
  · exact Or.inl harmed
  · exact absurd hinert hactive
  · rcases h fun hinert => hactive (hrests.inert hinert) with harmed | ⟨task, hmem, halarm, hwill⟩
    · exact Or.inl (hrests.alarm ▸ harmed)
    · rcases hkept hrests task hmem halarm hwill with harmed | hinert | howner
      · exact Or.inl harmed
      · exact absurd hinert hactive
      · exact Or.inr howner

/-- **A section** keeps the owner. -/
theorem RecoveryOwned.section_ (h : RecoveryOwned world) {α : Type} {closure : InventoryM α}
    {reply : α → InventoryReply}
    (htended : Tended world.inventory (closure world.inventory).2) :
    RecoveryOwned (section_ closure reply world).2 :=
  .of_tended h htended fun hrests task hmem halarm hwill =>
    Or.inr (Or.inr ⟨task, hmem, halarm, hrests.willArm hwill⟩)

/-- A task that starts takes nothing from the owner. -/
theorem RecoveryOwned.spawn (h : RecoveryOwned world) (task : InventoryTask) :
    RecoveryOwned (spawn task world).2 := fun hactive =>
  (h hactive).imp_right fun ⟨owner, hmem, howner⟩ => ⟨owner, List.mem_append_left _ hmem, howner⟩

/-- **A step of a task** keeps the owner, also where it throws: an alarm that throws is delivered
again, which leaves it armed, and the task of a request is no owner, so that it may end. -/
theorem stepWorld_owned (h : RecoverySound world) (place : Nat) (fate : StepFate) :
    RecoveryOwned (stepWorld place fate world).2 ∧
      ∀ task ∈ (stepWorld place fate world).2.tasks, ClearsInert task.point := by
  unfold stepWorld
  cases htask : world.tasks[place]? with
  | none => exact ⟨h.owned, h.clears⟩
  | some task =>
    have hstep := stepTask_tended h.boundary.accounted.sound
      (h.clears task (List.mem_of_getElem? htask)) fate
    have hother : ∀ {i : Nat} {owner : InventoryTask}, world.tasks[i]? = some owner →
        i = place → owner = task := fun {i owner} howner hi => by
      rw [hi] at howner
      exact Option.some.inj (howner.symm.trans htask)
    dsimp only
    generalize stepTask task.point fate world.inventory = result at hstep
    obtain ⟨answer, inventory'⟩ := result
    have hfewer : ∀ owner ∈ world.tasks.eraseIdx place, ClearsInert owner.point :=
      fun owner hmem => h.clears owner (List.mem_of_mem_eraseIdx hmem)
    cases answer with
    | error message =>
      refine ⟨?_, hfewer⟩
      dsimp only
      cases halarm : task.isAlarm with
      | true =>
        have hagain : redelivered task fate.nowMs inventory'
            = { inventory' with alarm := some (inventory'.alarm.getD fate.nowMs) } := if_pos halarm
        rw [hagain]
        exact fun _ => Or.inl rfl
      | false =>
        have hsame : redelivered task fate.nowMs inventory' = inventory' :=
          if_neg (by rw [halarm]; decide)
        rw [hsame]
        refine .of_tended h.owned hstep.tended fun hrests owner hmem howner hwill => ?_
        obtain ⟨i, hi⟩ := List.mem_iff_getElem?.mp hmem
        have hne : i ≠ place := fun heq => by
          rw [hother hi heq, halarm] at howner
          cases howner
        exact Or.inr (Or.inr ⟨owner, List.mem_eraseIdx_iff_getElem?.mpr ⟨i, hne, hi⟩, howner,
          hrests.willArm hwill⟩)
    | ok progress =>
      cases progress with
      | inl point =>
        refine ⟨.of_tended h.owned hstep.tended fun hrests owner hmem howner hwill => ?_,
          fun owner hmem => ?_⟩
        · obtain ⟨i, hi⟩ := List.mem_iff_getElem?.mp hmem
          rcases eq_or_ne i place with heq | hne
          · obtain rfl := hother hi heq
            refine (hstep.arms hwill).imp_right fun harms => harms.imp_right ?_
            rintro ⟨point', hpoint', hwill'⟩
            cases hpoint'
            exact ⟨{ owner with point }, List.mem_set (List.getElem?_eq_some_iff.mp htask).1 _,
              howner, hwill'⟩
          · have hstays : (world.tasks.set place { task with point })[i]? = some owner := by
              rw [List.getElem?_set_ne hne.symm, hi]
            exact Or.inr (Or.inr ⟨owner, List.mem_of_getElem? hstays, howner,
              hrests.willArm hwill⟩)
        · rcases List.mem_or_eq_of_mem_set hmem with hold | rfl
          · exact h.clears owner hold
          · exact hstep.clears point rfl
      | inr reply =>
        refine ⟨.of_tended h.owned hstep.tended fun hrests owner hmem howner hwill => ?_, hfewer⟩
        obtain ⟨i, hi⟩ := List.mem_iff_getElem?.mp hmem
        rcases eq_or_ne i place with heq | hne
        · obtain rfl := hother hi heq
          refine (hstep.arms hwill).imp_right fun harms => harms.imp_right ?_
          rintro ⟨point', hpoint', -⟩
          cases hpoint'
        · exact Or.inr (Or.inr ⟨owner, List.mem_eraseIdx_iff_getElem?.mpr ⟨i, hne, hi⟩, howner,
            hrests.willArm hwill⟩)

/-- **Every event** that begins afresh keeps the saga owned. Begin is the only section that may take
an alarm back from a saga that needs it, namely where it is replayed for the generation that is still
to be finalized. -/
theorem inventoryStep_owned (h : RecoverySound world) (event : InventoryEvent)
    (hafresh : BeginsAfresh world event) :
    (∀ task ∈ (inventoryStep world event).2.tasks, ClearsInert task.point) ∧
      RecoveryOwned (inventoryStep world event).2 := by
  have hsound := h.boundary.accounted.sound
  have hspawn : ∀ {world' : InventoryWorld} (task : InventoryTask), RecoveryOwned world' →
      world'.tasks = world.tasks → ClearsInert task.point →
      (∀ task' ∈ (spawn task world').2.tasks, ClearsInert task'.point) ∧
        RecoveryOwned (spawn task world').2 := fun {world'} task howned htasks htask => by
    refine ⟨fun task' hmem => ?_, howned.spawn task⟩
    rcases List.mem_append.mp hmem with hold | hnew
    · exact h.clears task' (htasks ▸ hold)
    · cases List.mem_singleton.mp hnew
      exact htask
  cases event with
  | register ref => exact ⟨h.clears, h.owned.section_ (register_tended ref)⟩
  | admission ref identityVersion =>
    exact ⟨h.clears, h.owned.section_ (admit_tended ref identityVersion)⟩
  | beginDeletion generationId deleteBeforeTsMs nowMs fate =>
    exact ⟨h.clears, h.owned.section_ (begin_tended hsound hafresh deleteBeforeTsMs nowMs fate)⟩
  | markD1Deleted generationId deleteBeforeTsMs nowMs =>
    exact ⟨h.clears, h.owned.section_
      (markD1Deleted_tended hsound generationId deleteBeforeTsMs nowMs)⟩
  | cancelDeletion generationId =>
    exact hspawn ⟨false, .cancelPlan (some generationId)⟩ h.owned rfl trivial
  | finalizeDeletion generationId deleteBeforeTsMs =>
    exact hspawn ⟨false, .finalizePlan (some generationId) deleteBeforeTsMs⟩ h.owned rfl trivial
  | alarm =>
    dsimp only [inventoryStep]
    split
    · refine ⟨fun task hmem => ?_, fun _ => Or.inr ⟨⟨true, .alarmRead⟩, ?_, rfl, trivial⟩⟩
      · rcases List.mem_append.mp hmem with hold | hnew
        · exact h.clears task hold
        · cases List.mem_singleton.mp hnew
          trivial
      · exact List.mem_append_right _ (List.mem_singleton_self _)
    · exact ⟨h.clears, h.owned⟩
  | step place fate => exact (stepWorld_owned h place fate).symm

theorem inventoryStep_recoverySound (h : RecoverySound world) (event : InventoryEvent)
    (hafresh : BeginsAfresh world event) : RecoverySound (inventoryStep world event).2 := by
  obtain ⟨honward, hboundary, -⟩ := inventoryStep_onward h.boundary event
  obtain ⟨hclears, howned⟩ := inventoryStep_owned h event hafresh
  exact ⟨hboundary, SagaMoves.explained honward.moves h.explained, hclears, howned⟩

/-- An object between two requests that explains its suppression, and has an alarm where it needs
one. -/
structure TendedInventory (world : InventoryWorld) : Prop extends IdleInventory world where
  explained : Explained world.inventory.storage
  armed : ¬ Inert world.inventory.storage → world.inventory.alarm.isSome

theorem TendedInventory.recoverySound (h : TendedInventory world) : RecoverySound world where
  boundary := h.boundarySound
  explained := h.explained
  clears task hmem := by
    rw [h.tasks] at hmem
    cases hmem
  owned hactive := Or.inl (h.armed hactive)

theorem tended_init : TendedInventory appInventory.init where
  toIdleInventory := idle_init
  explained := fun h => by cases h
  armed hactive := absurd (inert_of_none rfl) hactive

/-- **The saga always has a recovery owner**, in every run that replays no begin of a generation
that is still to be finalized: a suppressed App has a saga or is completely deleted, and a saga
that is preparing, canceling, behind the boundary or finalizing has an alarm that is armed, or one
that has fired and is about to arm the next. -/
theorem saga_has_recovery_owner {start : InventoryWorld} (hstart : TendedInventory start)
    (events : List InventoryEvent)
    (hafresh : appInventory.Guarded BeginsAfresh start events) :
    Explained (appInventory.exec start events).inventory.storage ∧
      RecoveryOwned (appInventory.exec start events) := by
  have hsound : RecoverySound (appInventory.exec start events) :=
    Machine.exec_invariant_of_guarded (I := RecoverySound) appInventory
      (fun _ event h hafresh => inventoryStep_recoverySound h event hafresh)
      hstart.recoverySound hafresh
  exact ⟨hsound.explained, hsound.owned⟩

/-- A deletion that is marked in D1, and whose Entity's purge then fails. -/
def failingRun : List InventoryEvent :=
  markedRun ++ [.alarm, .step 0 stepCallsDone, .step 0 stepCallsDone,
    .step 0 ⟨300, .ok (), .error "purge"⟩]

theorem saga_has_recovery_owner_failing :
    (appInventory.run failingRun).inventory.storage.deletionSaga.map (·.phase) =
        some .finalizing ∧ RecoveryOwned (appInventory.run failingRun) := by
  have hafresh : appInventory.Guarded BeginsAfresh appInventory.init failingRun := by
    refine ⟨trivial, fun saga hsaga => ?_, trivial, trivial, trivial, trivial, trivial, trivial⟩
    cases hsaga
  exact ⟨by decide +kernel, (saga_has_recovery_owner tended_init failingRun hafresh).2⟩

/-- **A replayed begin** leaves a saga behind the D1 boundary with no alarm. -/
theorem replayed_begin_orphans_saga :
    ¬ ∀ events, Explained (appInventory.run events).inventory.storage ∧
      RecoveryOwned (appInventory.run events) := by
  intro h
  let events := markedRun ++ [.beginDeletion "g" 100 260 prepareCallsDone]
  have hphase : (appInventory.run events).inventory.storage.deletionSaga.map (·.phase)
      = some .d1_deleted := by decide +kernel
  have hidle : (appInventory.run events).inventory.alarm = none ∧
      (appInventory.run events).tasks = [] := by decide +kernel
  obtain ⟨saga, hsaga, hmarked⟩ := Option.map_eq_some_iff.mp hphase
  have hactive : ¬ Inert (appInventory.run events).inventory.storage := fun hinert => by
    have := hinert saga hsaga
    rw [hmarked] at this
    exact absurd this (by decide)
  rcases (h events).2 hactive with harmed | ⟨task, hmem, -⟩
  · rw [hidle.1] at harmed
    cases harmed
  · rw [hidle.2] at hmem
    cases hmem

end Splitch
