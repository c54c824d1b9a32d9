/-
# The saga's code makes only the saga's moves

The deletion of an App is a saga whose state is one row, and each of its functions may throw at any of its
awaits, with what it has written so far.  The saga itself is a relation of small moves (`SagaMoves`), for
which the invariants are shown.  This module is the bridge: each function of `DeletionSaga`, started in sound
storage, is a sequence of moves, whether it throws or not.

The lemmas also say what callers need of an answer, since a caller goes on from it.  A cancel that is done
ends with no saga; a prepare that answers, and does not replay a generation that is being finalized, leaves
nothing to do; a plan of a finalize that has a step to take has crossed the boundary.  So each lemma is a
guarantee of the form: these moves were made, and where there is an answer this holds of it.  Guarantees
compose along the code, and a call that throws leaves the state it was in (`guarantees_resolve`).

The checkpoints are single steps and are read off by cases: nothing, one Entity less, or the end of the saga
(`checkpointCancel_cases`, `checkpointFinalize_cases`).
-/
import Splitch.Inventory.SagaMoves

namespace Splitch

open StateActions InventoryM

variable {mayErase : String → Prop} {inventory : AppInventory}

/-! ## 1. Reading and writing -/

/-- The object with another storage. -/
def AppInventory.with (inventory : AppInventory) (storage : AppInventoryStorage) : AppInventory :=
  { inventory with storage }

theorem setStorage_apply (f : AppInventoryStorage → AppInventoryStorage) :
    setStorage f inventory = (.ok (), inventory.with (f inventory.storage)) := rfl

theorem getStorage_apply : getStorage inventory = (.ok inventory.storage, inventory) := rfl

theorem readAppDeletionSaga_apply :
    readAppDeletionSaga inventory = (.ok inventory.storage.deletionSaga, inventory) := rfl

theorem putAppDeletionSaga_apply (saga : HoldoverWriteAppDeletionSaga) :
    putAppDeletionSaga saga inventory =
      (.ok (), inventory.with { inventory.storage with deletionSaga := some saga }) := rfl

theorem clearAppDeletionSaga_apply : clearAppDeletionSaga inventory =
    (.ok (), inventory.with { inventory.storage with
      suppressed := false, deleteBeforeTsMs := none, deletionSaga := none }) := rfl

/-- One move. -/
theorem Moving.of_move {storage : AppInventoryStorage}
    (h : SagaMove mayErase inventory.storage storage) :
    Moving mayErase inventory (inventory.with storage) := ⟨rfl, rfl, .single h⟩

theorem Moving.rfl' : Moving mayErase inventory inventory := refl_of (Moving mayErase) inventory

/-- The row under a generation, where it had none. -/
def adopted (generationId : String) (saga : HoldoverWriteAppDeletionSaga) :
    HoldoverWriteAppDeletionSaga :=
  { saga with generationId := some (saga.generationId.getD generationId) }

/-- The storage once the row is adopted. -/
def adoptedStorage (generationId : String) (storage : AppInventoryStorage) :
    AppInventoryStorage :=
  { storage with deletionSaga := storage.deletionSaga.map (adopted generationId) }

theorem adopted_of_isSome {generationId : String} {saga : HoldoverWriteAppDeletionSaga}
    (h : saga.generationId.isSome) : adopted generationId saga = saga := by
  obtain ⟨g, hg⟩ := Option.isSome_iff_exists.mp h
  rw [adopted, hg, Option.getD_some, ← hg]

theorem adoptStored_apply (generationId : String) :
    adoptStored generationId inventory =
      (.ok (inventory.storage.deletionSaga.map (adopted generationId)),
        inventory.with (adoptedStorage generationId inventory.storage)) := by
  unfold adoptStored
  rw [andThen_of_ok readAppDeletionSaga_apply]
  cases h : inventory.storage.deletionSaga with
  | none =>
    have hsame : adoptedStorage generationId inventory.storage = inventory.storage := by
      rw [adoptedStorage, h, Option.map_none, ← h]
    rw [hsame]
    rfl
  | some saga =>
    dsimp only
    rw [mapOk_apply, adoptLegacyAppDeletionSagaGeneration]
    cases hg : saga.generationId.isSome with
    | true =>
      have hsame : adoptedStorage generationId inventory.storage = inventory.storage := by
        rw [adoptedStorage, h, Option.map_some, adopted_of_isSome hg, ← h]
      rw [if_pos rfl, hsame, Option.map_some, adopted_of_isSome hg]
      rfl
    | false =>
      have hnone : saga.generationId = none := Option.not_isSome_iff_eq_none.mp (by rw [hg]; decide)
      have hadopted : adopted generationId saga
          = { saga with generationId := some generationId } := by
        rw [adopted, hnone, Option.getD_none]
      rw [if_neg Bool.false_ne_true, adoptedStorage, h, Option.map_some, hadopted]
      rfl

theorem moving_adopted (generationId : String) : Moving mayErase inventory
    (inventory.with (adoptedStorage generationId inventory.storage)) := by
  cases h : inventory.storage.deletionSaga with
  | none =>
    have hsame : adoptedStorage generationId inventory.storage = inventory.storage := by
      rw [adoptedStorage, h, Option.map_none, ← h]
    rw [hsame]
    exact .rfl'
  | some saga =>
    rw [adoptedStorage, h, Option.map_some, adopted]
    cases hg : saga.generationId with
    | none => exact .of_move (.adopt generationId h hg)
    | some g =>
      have hsame : ({ inventory.storage with deletionSaga := some { saga with
          generationId := some ((some g).getD generationId) } } : AppInventoryStorage)
            = inventory.storage := by
        rw [Option.getD_some, ← hg, ← h]
      rw [hsame]
      exact .rfl'

/-- A call that throws leaves the state; one that answers goes on in it. -/
theorem guarantees_resolve {α β : Type} {answer : Except String α} {f : α → InventoryM β}
    {Q : β → AppInventory → Prop}
    (h : ∀ a, answer = .ok a → Guarantees (Moving mayErase) (f a) inventory Q) :
    Guarantees (Moving mayErase) (resolve answer >>= f) inventory Q := by
  cases answer with
  | error message => exact guarantees_error rfl
  | ok a => exact guarantees_read rfl (h a rfl)

/-! ## 2. Cancel -/

variable (mayErase inventory) in
/-- **The advance of a cancel** ends with no saga where it is done. -/
theorem advanceCancel_guarantees {saga : HoldoverWriteAppDeletionSaga}
    (hsaga : inventory.storage.deletionSaga = some saga) (hphase : saga.phase = .canceling)
    (hcomplete : inventory.storage.deletionComplete = false) (kvDelete : Except String Unit) :
    Guarantees (Moving mayErase) (advanceAppDeletionCancelSaga kvDelete) inventory
      fun done inventory' => inventory'.storage.deletionComplete = false ∧
        (done = true → inventory'.storage.deletionSaga = none) := by
  have hrest : ∀ inv : AppInventory, inv.storage.deletionComplete = false →
      (∃ saga', inv.storage.deletionSaga = some saga' ∧ saga'.phase = .canceling) →
      Guarantees (Moving mayErase)
        (if !saga.cancelResumePending.isEmpty then pure false
          else clearAppDeletionSaga >>= fun _ => pure true) inv
        fun done inventory' => inventory'.storage.deletionComplete = false ∧
          (done = true → inventory'.storage.deletionSaga = none) := by
    rintro inv hinv ⟨saga', hsaga', hphase'⟩
    split
    · exact guarantees_pure ⟨hinv, fun h => by cases h⟩
    · exact guarantees_andThen clearAppDeletionSaga_apply (.of_move (.clear hsaga' hphase'))
        (guarantees_pure ⟨hinv, fun _ => rfl⟩)
  unfold advanceAppDeletionCancelSaga
  refine guarantees_read readAppDeletionSaga_apply ?_
  rw [hsaga]
  dsimp only
  rw [if_neg (not_not.mpr hphase)]
  have hbefore : inventory.storage.crossed = false := by
    rw [AppInventoryStorage.crossed_of_saga hsaga, hphase]
    rfl
  cases saga.cancelKvCleared with
  | true => exact hrest inventory hcomplete ⟨saga, hsaga, hphase⟩
  | false =>
    refine guarantees_resolve fun _ _ => ?_
    refine guarantees_andThen (putAppDeletionSaga_apply _)
      (.of_move (.cancel hphase hcomplete hbefore)) ?_
    exact hrest _ hcomplete ⟨_, rfl, hphase⟩

/-- **A cancel** that is done, of a saga before the boundary, ends with no saga. It may have adopted a
legacy row first, so what follows is argued on any row that is not complete and stands where the first
one did. -/
theorem beginOrResumeCancel_guarantees (expectedGenerationId : Option (Option String))
    (kvDelete : Except String Unit) :
    Guarantees (Moving mayErase) (beginOrResumeAppDeletionCancelSaga expectedGenerationId kvDelete)
      inventory fun progress inventory' => expectedGenerationId = none →
        inventory.storage.crossed = false → inventory.storage.deletionComplete = false →
        progress.done = true → inventory'.storage.deletionSaga = none ∧
          inventory'.storage.deletionComplete = false := by
  unfold beginOrResumeAppDeletionCancelSaga
  refine guarantees_read getStorage_apply ?_
  cases hcomplete : inventory.storage.deletionComplete with
  | true =>
    rw [if_pos rfl]
    exact guarantees_pure fun _ _ h => by cases h
  | false =>
    rw [if_neg Bool.false_ne_true]
    -- whatever was adopted, the rest runs on the stored row
    have hrest : ∀ inv : AppInventory, inv.storage.deletionComplete = false →
        (expectedGenerationId = none → inv.storage.crossed = inventory.storage.crossed) →
        Guarantees (Moving mayErase)
          (if inv.storage.deletionSaga.any (fun saga =>
              expectedGenerationId.any (saga.generationId ≠ ·)) then pure ⟨true, false⟩
            else if inv.storage.deletionSaga.any appDeletionSagaCrossedBoundary then
              pure ⟨true, false⟩
            else getStorage >>= fun storage =>
              if inv.storage.deletionSaga.isNone && !storage.suppressed then pure ⟨true, true⟩
              else putAppDeletionSaga (buildCancelingSaga storage inv.storage.deletionSaga
                  expectedGenerationId) >>= fun _ =>
                advanceAppDeletionCancelSaga kvDelete >>= fun done => pure ⟨done, true⟩) inv
          fun progress inventory' => expectedGenerationId = none →
            inventory.storage.crossed = false → false = false →
            CancelProgress.done progress = true → inventory'.storage.deletionSaga = none ∧
              inventory'.storage.deletionComplete = false := by
      intro inv hinv hcrossed
      split
      · rename_i hother
        refine guarantees_pure fun hnone _ _ _ => ?_
        rw [hnone, Option.any_eq_true] at hother
        obtain ⟨_, _, h⟩ := hother
        cases h
      · split
        · rename_i hafter
          refine guarantees_pure fun hnone hbefore _ _ => ?_
          exact absurd ((hcrossed hnone).symm.trans hafter) (by rw [hbefore]; decide)
        · rename_i hbefore
          have hbefore' : inv.storage.crossed = false := Bool.not_eq_true _ ▸ hbefore
          refine guarantees_read getStorage_apply ?_
          split
          · rename_i hidle
            refine guarantees_pure fun _ _ _ _ => ⟨?_, hinv⟩
            exact Option.isNone_iff_eq_none.mp (Bool.and_eq_true _ _ ▸ hidle).1
          · refine guarantees_andThen (putAppDeletionSaga_apply _)
              (.of_move (.cancel rfl hinv hbefore')) ?_
            have hadvance := advanceCancel_guarantees mayErase (inv.with { inv.storage with
              deletionSaga := some (buildCancelingSaga inv.storage inv.storage.deletionSaga
                expectedGenerationId) }) rfl rfl hinv kvDelete
            exact hadvance.bind fun done inv' _ hdone =>
              guarantees_pure fun _ _ _ h => ⟨hdone.2 h, hdone.1⟩
    match expectedGenerationId with
    | none => exact guarantees_read readAppDeletionSaga_apply (hrest inventory hcomplete fun _ => rfl)
    | some none =>
      exact guarantees_read readAppDeletionSaga_apply
        (hrest inventory hcomplete fun h => by cases h)
    | some (some generationId) =>
      refine guarantees_andThen (adoptStored_apply generationId) (moving_adopted generationId) ?_
      exact hrest (inventory.with (adoptedStorage generationId inventory.storage)) hcomplete
        fun h => by cases h

/-! ## 3. Prepare -/

/-- No prepare of this generation finds it behind the boundary and still to be finalized. -/
def NotReplayed (generationId : String) (storage : AppInventoryStorage) : Prop :=
  ∀ saga, storage.deletionSaga = some saga →
    saga.phase = .d1_deleted ∨ saga.phase = .finalizing →
    saga.generationId ≠ none ∧ saga.generationId ≠ some generationId

/-- Nothing is left to do for the saga. -/
def Inert (storage : AppInventoryStorage) : Prop :=
  ∀ saga, storage.deletionSaga = some saga → saga.phase = .prepared ∨ saga.phase = .completed

theorem inert_of_none {storage : AppInventoryStorage} (h : storage.deletionSaga = none) :
    Inert storage := fun saga hsaga => by
  rw [h] at hsaga
  cases hsaga

/-- A storage into which a freeze may be written. -/
def Freezable (storage : AppInventoryStorage) : Prop :=
  storage.crossed = false ∧ storage.deletionComplete = false

theorem freezable_of_none {storage : AppInventoryStorage} (h : storage.deletionSaga = none)
    (hcomplete : storage.deletionComplete = false) : Freezable storage :=
  ⟨by rw [AppInventoryStorage.crossed, h]; rfl, hcomplete⟩

theorem supersede_guarantees (hsound : SagaSound inventory.storage)
    {saga : HoldoverWriteAppDeletionSaga} (hsaga : inventory.storage.deletionSaga = some saga)
    (priorKvDelete : Except String Unit) :
    Guarantees (Moving mayErase) (supersedePreparedSaga saga priorKvDelete) inventory
      fun _ inventory' => Freezable inventory'.storage := by
  unfold supersedePreparedSaga
  split
  · exact guarantees_throw
  · rename_i hbefore
    have hnot : inventory.storage.crossed = false :=
      (AppInventoryStorage.crossed_of_saga hsaga).trans (Bool.not_eq_true _ ▸ hbefore)
    have hphase : saga.phase ≠ .completed := fun h => by
      rw [AppInventoryStorage.crossed_of_saga hsaga, h] at hnot
      cases hnot
    have hcomplete := hsound.incomplete hsaga hphase
    split
    · refine (beginOrResumeCancel_guarantees none priorKvDelete).bind
        fun progress inventory' _ hdone => ?_
      cases hprogress : progress.done with
      | false => exact guarantees_throw
      | true =>
        obtain ⟨hnone, hcomplete'⟩ := hdone rfl hnot hcomplete hprogress
        exact guarantees_pure (freezable_of_none hnone hcomplete')
    · exact guarantees_pure ⟨hnot, hcomplete⟩

/-- **A prepare of the stored generation** returns early or may freeze. -/
theorem sameGeneration_guarantees (hsound : SagaSound inventory.storage)
    (priorKvDelete : Except String Unit) :
    Guarantees (Moving mayErase)
      (sameGenerationPrepareEarlyReturn inventory.storage.deletionSaga priorKvDelete) inventory
      fun early inventory' => match early with
        | some _ => (∀ saga, inventory.storage.deletionSaga = some saga →
            saga.phase ≠ .d1_deleted ∧ saga.phase ≠ .finalizing) → Inert inventory'.storage
        | none => Freezable inventory'.storage := by
  unfold sameGenerationPrepareEarlyReturn
  refine guarantees_read getStorage_apply ?_
  split
  · rename_i hdone
    have hcomplete : inventory.storage.deletionComplete = true := by
      rcases (Bool.or_eq_true _ _ ▸ hdone : _ ∨ _) with hsome | hcomplete
      · obtain ⟨saga, hsaga, hphase⟩ := (Option.any_eq_true _ _).mp hsome
        exact hsound.completed saga hsaga (of_decide_eq_true hphase)
      · exact hcomplete
    refine guarantees_andThen (setStorage_apply _) (.of_move (.recomplete hcomplete))
      (guarantees_pure fun _ saga hsaga => Or.inr ?_)
    exact (hsound.complete hcomplete).2.2 saga hsaga
  · rename_i hopen
    obtain ⟨hnotCompleted, hcomplete⟩ : ¬ inventory.storage.deletionSaga.any
        (fun saga => decide (saga.phase = .completed)) = true ∧
        inventory.storage.deletionComplete = false := by
      rw [Bool.or_eq_true, not_or, Bool.not_eq_true, Bool.not_eq_true] at hopen
      exact ⟨by rw [hopen.1]; decide, hopen.2⟩
    split
    · rename_i hkept
      refine guarantees_pure fun hnot saga hsaga => ?_
      rw [hsaga] at hkept
      rcases of_decide_eq_true hkept with hphase | hphase | hphase
      · exact Or.inl hphase
      · exact absurd hphase (hnot saga hsaga).1
      · exact absurd hphase (hnot saga hsaga).2
    · rename_i hkept
      split
      · rename_i hcanceling
        obtain ⟨saga, hsaga, hphase⟩ := (Option.any_eq_true _ _).mp hcanceling
        refine (advanceCancel_guarantees mayErase inventory hsaga (of_decide_eq_true hphase) hcomplete
          priorKvDelete).bind fun done inventory' _ hdone => ?_
        cases done with
        | false => exact guarantees_throw
        | true => exact guarantees_pure (freezable_of_none (hdone.2 rfl) hdone.1)
      · rename_i hcanceling
        refine guarantees_pure ⟨?_, hcomplete⟩
        cases hsaga : inventory.storage.deletionSaga with
        | none => rw [AppInventoryStorage.crossed, hsaga]; rfl
        | some saga =>
          rw [AppInventoryStorage.crossed_of_saga hsaga]
          rw [hsaga] at hkept hnotCompleted
          cases hphase : saga.phase with
          | preparing => rfl
          | canceling => rfl
          | prepared => simp [hphase] at hkept
          | d1_deleted => simp [hphase] at hkept
          | finalizing => simp [hphase] at hkept
          | completed => simp [hphase] at hnotCompleted

/-- **A prepare**, whatever its KV calls end with, makes moves of the saga only; and where it
answers and does not replay a generation that is being finalized, nothing is left to do. -/
theorem prepare_guarantees (hsound : SagaSound inventory.storage) (generationId : String)
    (deleteBeforeTsMs : Int) (fate : PrepareFate) :
    Guarantees (Moving mayErase) (prepareAppDeletionSaga generationId deleteBeforeTsMs fate)
      inventory fun _ inventory' =>
        NotReplayed generationId inventory.storage → Inert inventory'.storage := by
  have hadopted := (moving_adopted generationId : Moving mayErase inventory _)
  have hsound' := hadopted.storage.sound hsound
  have hearly : Guarantees (Moving mayErase)
      (prepareSagaEarlyReturn generationId fate.priorKvDelete) inventory
      fun early inventory' => match early with
        | some _ => NotReplayed generationId inventory.storage → Inert inventory'.storage
        | none => Freezable inventory'.storage := by
    unfold prepareSagaEarlyReturn
    refine guarantees_andThen (adoptStored_apply generationId) hadopted ?_
    cases hother : (inventory.storage.deletionSaga.map (adopted generationId)).filter
        (·.generationId ≠ some generationId) with
    | some saga =>
      have hsaga := (Option.filter_eq_some_iff.mp hother).1
      exact (supersede_guarantees hsound' hsaga fate.priorKvDelete).bind
        fun _ inventory' _ hfreezable => guarantees_pure hfreezable
    | none =>
      refine (sameGeneration_guarantees hsound' fate.priorKvDelete).mono
        fun early inventory' _ h => ?_
      cases early with
      | none => exact h
      | some _ =>
        refine fun hnot => h fun saga hsaga => ?_
        obtain ⟨stored, hstored, rfl⟩ := Option.map_eq_some_iff.mp hsaga
        have hgeneration : (adopted generationId stored).generationId = some generationId := by
          by_contra hne
          rw [Option.filter_eq_none_iff] at hother
          exact hother _ hsaga (decide_eq_true hne)
        have hsame : stored.generationId = none ∨ stored.generationId = some generationId := by
          cases hg : stored.generationId with
          | none => exact Or.inl rfl
          | some g =>
            rw [adopted, hg, Option.getD_some] at hgeneration
            exact Or.inr hgeneration
        have hreplay : ¬ (stored.phase = .d1_deleted ∨ stored.phase = .finalizing) := fun hphase =>
          hsame.elim (hnot stored hstored hphase).1 (hnot stored hstored hphase).2
        exact not_or.mp hreplay
  unfold prepareAppDeletionSaga
  refine hearly.bind fun early inventory' hmoves hfreezable => ?_
  cases early with
  | some deletionComplete => exact guarantees_pure hfreezable
  | none =>
    obtain ⟨hbefore, hcomplete⟩ := hfreezable
    refine guarantees_read getStorage_apply ?_
    refine guarantees_andThen (setStorage_apply _)
      (.of_move (.freeze deleteBeforeTsMs rfl hcomplete hbefore)) ?_
    cases fate.kvPut with
    | ok _ =>
      refine guarantees_andThen (putAppDeletionSaga_apply _)
        (.of_move (.prepare rfl rfl rfl)) (guarantees_pure fun _ saga hsaga => Or.inl ?_)
      cases hsaga
      rfl
    | error cause =>
      unfold failPrepareIntoCancel
      refine guarantees_andThen (putAppDeletionSaga_apply _) (.of_move (.cancel rfl rfl rfl)) ?_
      refine (advanceCancel_guarantees mayErase (inventory'.with _) rfl rfl rfl fate.kvDelete).bind
        fun done inventory'' _ _ => ?_
      cases done with
      | false => exact guarantees_throw
      | true => exact guarantees_throw

/-! ## 4. The boundary and the drain -/

/-- **The D1 mark** answers with the stored row, which is behind the boundary, whether it has crossed
now, had crossed before or is completed; in all other cases it throws. -/
theorem markD1_guarantees (hsound : SagaSound inventory.storage) (generationId : String)
    (deleteBeforeTsMs : Option Int) :
    Guarantees (Moving mayErase) (markAppDeletionSagaD1Deleted generationId deleteBeforeTsMs)
      inventory fun saga inventory' => inventory'.storage.deletionSaga = some saga ∧
        saga.phase.crossedBoundary = true := by
  have hadopted := (moving_adopted generationId : Moving mayErase inventory _)
  have hsound' := hadopted.storage.sound hsound
  unfold markAppDeletionSagaD1Deleted
  refine guarantees_andThen (adoptStored_apply generationId) hadopted ?_
  split
  · exact guarantees_throw
  · refine guarantees_read getStorage_apply ?_
    split
    · rename_i hdone
      have hcomplete : (adoptedStorage generationId inventory.storage).deletionComplete = true := by
        rcases (Bool.or_eq_true _ _ ▸ hdone : _ ∨ _) with hsome | hcomplete
        · obtain ⟨saga, hsaga, hphase⟩ := (Option.any_eq_true _ _).mp hsome
          exact hsound'.completed saga hsaga (of_decide_eq_true hphase)
        · exact hcomplete
      exact guarantees_andThen (putAppDeletionSaga_apply _)
        (.of_move (.recordCompleted hcomplete rfl)) (guarantees_pure ⟨rfl, rfl⟩)
    · rename_i hopen
      obtain ⟨hnotCompleted, hcomplete⟩ :
          (inventory.storage.deletionSaga.map (adopted generationId)).any
            (fun saga => decide (saga.phase = .completed)) = false ∧
          (adoptedStorage generationId inventory.storage).deletionComplete = false := by
        rw [Bool.or_eq_true, not_or, Bool.not_eq_true, Bool.not_eq_true] at hopen
        exact hopen
      split
      · rename_i saga hkept
        obtain ⟨hsaga, hphase⟩ := Option.filter_eq_some_iff.mp hkept
        refine guarantees_pure ⟨hsaga, ?_⟩
        rcases of_decide_eq_true hphase with hp | hp
        · rw [hp]
          rfl
        · rw [hp]
          rfl
      · rename_i hkept
        split
        · exact guarantees_throw
        · split
          · exact guarantees_throw
          · rename_i cutoff _
            refine guarantees_andThen (setStorage_apply _)
              (.of_move (.cross cutoff rfl hcomplete ?_)) (guarantees_pure ⟨rfl, rfl⟩)
            change (inventory.storage.deletionSaga.map (adopted generationId)).any
              appDeletionSagaCrossedBoundary = false
            cases hsaga : inventory.storage.deletionSaga.map (adopted generationId) with
            | none => rfl
            | some saga =>
              rw [hsaga] at hkept hnotCompleted
              rw [Option.any_some, appDeletionSagaCrossedBoundary]
              cases hphase : saga.phase with
              | preparing => rfl
              | prepared => rfl
              | canceling => rfl
              | d1_deleted => simp [hphase, Option.filter] at hkept
              | finalizing => simp [hphase, Option.filter] at hkept
              | completed => simp [hphase] at hnotCompleted

/-- Loading the row of a finalize. -/
theorem loadFinalizeSaga_guarantees (generationId : Option String)
    (deleteBeforeTsMs : Option Int) :
    Guarantees (Moving mayErase)
      (loadFinalizeSaga generationId deleteBeforeTsMs inventory.storage.deletionComplete) inventory
      fun loaded inventory' => inventory'.storage.deletionSaga = loaded ∧
        inventory'.storage.deletionComplete = inventory.storage.deletionComplete := by
  unfold loadFinalizeSaga
  cases generationId with
  | none => exact ⟨.rfl', fun loaded h => by cases h; exact ⟨rfl, rfl⟩⟩
  | some generationId =>
    have hadopt : ∀ inv : AppInventory, Guarantees (Moving mayErase) (adoptStored generationId) inv
        fun loaded inventory' => inventory'.storage.deletionSaga = loaded ∧
          inventory'.storage.deletionComplete = inv.storage.deletionComplete := fun inv => by
      unfold Guarantees
      rw [adoptStored_apply]
      exact ⟨moving_adopted generationId, fun loaded h => by cases h; exact ⟨rfl, rfl⟩⟩
    refine guarantees_read readAppDeletionSaga_apply ?_
    dsimp only
    split
    · rename_i hlegacy
      have hcomplete := (Bool.and_eq_true _ _ ▸ hlegacy : _ ∧ _).2
      exact guarantees_andThen (putAppDeletionSaga_apply _)
        (.of_move (.recordCompleted hcomplete rfl)) (hadopt _)
    · exact hadopt inventory

/-- **The plan of a finalize** that has a step to take has crossed the boundary: loading the saga and
entering the boundary come first, and what they refuse is thrown before a step is planned. -/
theorem planFinalize_guarantees (hsound : SagaSound inventory.storage)
    (generationId : Option String) (deleteBeforeTsMs : Option Int) :
    Guarantees (Moving mayErase) (planAppDeletionFinalizeStep generationId deleteBeforeTsMs)
      inventory fun step inventory' => step.isSome → inventory'.storage.crossed = true := by
  unfold planAppDeletionFinalizeStep
  refine guarantees_read getStorage_apply ?_
  refine (loadFinalizeSaga_guarantees generationId deleteBeforeTsMs).bind
    fun loaded inv hmoves ⟨hloaded, hsame⟩ => ?_
  have hsound' := hmoves.storage.sound hsound
  dsimp only
  split
  · exact guarantees_throw
  · split
    · exact guarantees_pure fun h => by cases h
    · rename_i hopen
      have hcomplete : inv.storage.deletionComplete = false := hsame.trans (Bool.not_eq_true _ ▸ hopen)
      have henter : Guarantees (Moving mayErase)
          (enterFinalizeBoundary generationId deleteBeforeTsMs loaded) inv
          fun saga inventory' => inventory'.storage.deletionSaga = some saga ∧
            saga.phase.crossedBoundary = true := by
        unfold enterFinalizeBoundary
        split
        · exact guarantees_throw
        · rename_i hcanceling
          split
          · rename_i saga hkept
            obtain ⟨hsaga, hphase⟩ := Option.filter_eq_some_iff.mp hkept
            refine guarantees_pure ⟨hloaded.trans hsaga, ?_⟩
            rw [hsaga] at hcanceling
            cases hp : saga.phase with
            | preparing => simp [hp] at hphase
            | prepared => simp [hp] at hphase
            | canceling => simp [hp] at hcanceling
            | d1_deleted => rfl
            | finalizing => rfl
            | completed => rfl
          · split
            · exact guarantees_throw
            · exact markD1_guarantees hsound' _ deleteBeforeTsMs
      refine henter.bind fun saga inv' hmoves' ⟨hsaga, hcrossed⟩ => ?_
      split
      · exact guarantees_pure fun h => by cases h
      · rename_i hnotCompleted
        have hphase : saga.phase = .d1_deleted ∨ saga.phase = .finalizing := by
          cases hp : saga.phase with
          | d1_deleted => exact Or.inl rfl
          | finalizing => exact Or.inr rfl
          | completed => exact absurd hp hnotCompleted
          | preparing => rw [hp] at hcrossed; cases hcrossed
          | prepared => rw [hp] at hcrossed; cases hcrossed
          | canceling => rw [hp] at hcrossed; cases hcrossed
        refine guarantees_andThen (putAppDeletionSaga_apply _)
          (.of_move (.finalize hsaga hphase rfl)) (guarantees_read getStorage_apply ?_)
        split
        · exact guarantees_pure fun _ => rfl
        · rename_i hrows
          refine guarantees_andThen (setStorage_apply _) (.of_move
            (.complete rfl rfl (List.head?_eq_none_iff.mp hrows) rfl)) ?_
          exact guarantees_pure fun h => by cases h

/-! ## 5. The checkpoints -/

/-- **A cancel checkpoint** does nothing, or takes the Entity off the list, or clears the saga. -/
theorem checkpointCancel_cases (step : HoldoverWriteAppDeletionCancelStep)
    (inventory : AppInventory) :
    (checkpointAppDeletionCancelStep step inventory).2 = inventory ∨
      ∃ saga, inventory.storage.deletionSaga = some saga ∧ saga.phase = .canceling ∧
        ((∃ pending, (checkpointAppDeletionCancelStep step inventory).2 =
            inventory.with { inventory.storage with
              deletionSaga := some { saga with cancelResumePending := pending } }) ∨
          (checkpointAppDeletionCancelStep step inventory).2 =
            inventory.with { inventory.storage with
              suppressed := false, deleteBeforeTsMs := none, deletionSaga := none }) := by
  unfold checkpointAppDeletionCancelStep
  rw [andThen_of_ok readAppDeletionSaga_apply]
  cases hsaga : inventory.storage.deletionSaga with
  | none => exact Or.inl rfl
  | some saga =>
    dsimp only
    split
    · exact Or.inl rfl
    · rename_i hmatches
      have hphase : saga.phase = .canceling := not_not.mp (not_or.mp hmatches).1
      refine Or.inr ⟨saga, rfl, hphase, ?_⟩
      split
      · exact Or.inl ⟨_, by rw [andThen_of_ok (putAppDeletionSaga_apply _)]; rfl⟩
      · exact Or.inr (by rw [andThen_of_ok clearAppDeletionSaga_apply]; rfl)

/-- **A finalize checkpoint** does nothing, or drops the Entity's row, and completes the deletion
with the last one. -/
theorem checkpointFinalize_cases (step : HoldoverWriteAppDeletionFinalizeStep)
    (inventory : AppInventory) :
    (checkpointAppDeletionFinalizeStep step inventory).2 = inventory ∨
      ∃ saga, inventory.storage.deletionSaga = some saga ∧ saga.phase = .finalizing ∧
        ((checkpointAppDeletionFinalizeStep step inventory).2 =
            inventory.with { inventory.storage with
              entities := inventory.storage.entities.erase step.entity.name } ∨
          ∃ saga', saga'.phase = .completed ∧
            listRegisteredEntities { inventory.storage with
              entities := inventory.storage.entities.erase step.entity.name } = [] ∧
            (checkpointAppDeletionFinalizeStep step inventory).2 =
              inventory.with { inventory.storage with
                entities := inventory.storage.entities.erase step.entity.name
                suppressed := true
                deletionComplete := true
                deletionSaga := some saga' }) := by
  unfold checkpointAppDeletionFinalizeStep
  rw [andThen_of_ok readAppDeletionSaga_apply]
  cases hsaga : inventory.storage.deletionSaga with
  | none => exact Or.inl rfl
  | some saga =>
    dsimp only
    split
    · exact Or.inl rfl
    · rename_i hmatches
      have hphase : saga.phase = .finalizing := not_not.mp (not_or.mp hmatches).1
      refine Or.inr ⟨saga, rfl, hphase, ?_⟩
      rw [markAppInventoryEntityPurged, andThen_of_ok (setStorage_apply _),
        andThen_of_ok getStorage_apply]
      split
      · exact Or.inl rfl
      · rename_i hrows
        rw [Bool.not_eq_true, Bool.not_eq_false', List.isEmpty_iff] at hrows
        refine Or.inr ⟨⟨.completed, saga.generationId, step.deleteBeforeTsMs, [], true⟩, rfl, hrows,
          ?_⟩
        rw [completeAppDeletionFinalizeSaga, andThen_of_ok (setStorage_apply _)]
        rfl

end Splitch
