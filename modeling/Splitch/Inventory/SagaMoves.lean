/-
# The moves of the saga

An abstract machine for the App inventory: `SagaMove` lists what may happen to its storage, one write at a
time, and under which condition.  The sections of the object are programs with reads, throws and KV calls
between their writes.  Each of them is a sequence of these moves (`Moving`), wherever it ends; so what the
moves keep, every interleaving of the sections keeps.

Two things are kept.  The storage is sound (`SagaSound`): a completed deletion has no rows left and a saga
that says so, and what has crossed the boundary is suppressed.  And the rank of the storage does not fall
(`SagaMove.rank_le`): before the boundary it is zero, behind it the phases follow one another.  The moves
that clear a saga, or start one anew, are only made before the boundary, where there is nothing to fall
from.

Which rows may be erased is a parameter of the moves.  Soundness and rank do not depend on it; that an Entity
stays registered until its outbox was purged does, and is argued for the sections that erase none and for
the one that does apart.
-/
import Splitch.Library.Guarantees
import Splitch.Inventory.DeletionSaga

namespace Splitch

open StateActions InventoryM

/-! ## 1. The moves -/

/-- Is the saga behind the D1 boundary? -/
def AppInventoryStorage.crossed (storage : AppInventoryStorage) : Bool :=
  storage.deletionSaga.any appDeletionSagaCrossedBoundary

/-- One write to the storage.  `mayErase` says which Entities' rows may go. -/
inductive SagaMove (mayErase : String → Prop) : AppInventoryStorage → AppInventoryStorage → Prop
  | register {storage : AppInventoryStorage} (ref : HoldoverWriteAppEntityRef)
      (identityVersion : Option String) (hopen : storage.suppressed = false)
      (hcomplete : storage.deletionComplete = false) :
      SagaMove mayErase storage { storage with
        activeIdentityVersion := identityVersion
        entities := storage.entities.insert ref.name ref }
  | adopt {storage : AppInventoryStorage} (generationId : String)
      {saga : HoldoverWriteAppDeletionSaga} (h : storage.deletionSaga = some saga)
      (hlegacy : saga.generationId = none) :
      SagaMove mayErase storage
        { storage with deletionSaga := some { saga with generationId := some generationId } }
  | cancel {storage : AppInventoryStorage} {saga : HoldoverWriteAppDeletionSaga}
      (hphase : saga.phase = .canceling) (hcomplete : storage.deletionComplete = false)
      (hbefore : storage.crossed = false) :
      SagaMove mayErase storage { storage with deletionSaga := some saga }
  | clear {storage : AppInventoryStorage} {saga : HoldoverWriteAppDeletionSaga}
      (h : storage.deletionSaga = some saga) (hphase : saga.phase = .canceling) :
      SagaMove mayErase storage
        { storage with suppressed := false, deleteBeforeTsMs := none, deletionSaga := none }
  | freeze {storage : AppInventoryStorage} {saga : HoldoverWriteAppDeletionSaga}
      (deleteBeforeTsMs : Int) (hphase : saga.phase = .preparing)
      (hcomplete : storage.deletionComplete = false) (hbefore : storage.crossed = false) :
      SagaMove mayErase storage { storage with
        deletionSaga := some saga
        suppressed := true
        deleteBeforeTsMs := some deleteBeforeTsMs
        deletionComplete := false }
  | prepare {storage : AppInventoryStorage} {saga saga' : HoldoverWriteAppDeletionSaga}
      (h : storage.deletionSaga = some saga) (hphase : saga.phase = .preparing)
      (hphase' : saga'.phase = .prepared) :
      SagaMove mayErase storage { storage with deletionSaga := some saga' }
  | cross {storage : AppInventoryStorage} {saga : HoldoverWriteAppDeletionSaga}
      (deleteBeforeTsMs : Int) (hphase : saga.phase = .d1_deleted)
      (hcomplete : storage.deletionComplete = false) (hbefore : storage.crossed = false) :
      SagaMove mayErase storage { storage with
        suppressed := true
        deleteBeforeTsMs := some deleteBeforeTsMs
        deletionSaga := some saga }
  | finalize {storage : AppInventoryStorage} {saga saga' : HoldoverWriteAppDeletionSaga}
      (h : storage.deletionSaga = some saga)
      (hphase : saga.phase = .d1_deleted ∨ saga.phase = .finalizing)
      (hphase' : saga'.phase = .finalizing) :
      SagaMove mayErase storage { storage with deletionSaga := some saga' }
  | erase {storage : AppInventoryStorage} {saga : HoldoverWriteAppDeletionSaga} {name : String}
      (h : storage.deletionSaga = some saga) (hphase : saga.phase = .finalizing)
      (hmay : mayErase name) :
      SagaMove mayErase storage { storage with entities := storage.entities.erase name }
  | complete {storage : AppInventoryStorage} {saga saga' : HoldoverWriteAppDeletionSaga}
      (h : storage.deletionSaga = some saga) (hphase : saga.phase = .finalizing)
      (hrows : listRegisteredEntities storage = []) (hphase' : saga'.phase = .completed) :
      SagaMove mayErase storage { storage with
        suppressed := true
        deletionComplete := true
        deletionSaga := some saga' }
  | recomplete {storage : AppInventoryStorage} (hcomplete : storage.deletionComplete = true) :
      SagaMove mayErase storage { storage with suppressed := true, deletionComplete := true }
  | recordCompleted {storage : AppInventoryStorage} {saga : HoldoverWriteAppDeletionSaga}
      (hcomplete : storage.deletionComplete = true) (hphase : saga.phase = .completed) :
      SagaMove mayErase storage { storage with deletionSaga := some saga }

abbrev SagaMoves (mayErase : String → Prop) := Relation.ReflTransGen (SagaMove mayErase)

/-- What may be erased may be erased where more may. -/
theorem SagaMove.mono {mayErase mayErase' : String → Prop} (hle : ∀ name, mayErase name →
    mayErase' name) {storage storage' : AppInventoryStorage}
    (h : SagaMove mayErase storage storage') : SagaMove mayErase' storage storage' := by
  cases h with
  | register ref identityVersion hopen hcomplete =>
    exact .register ref identityVersion hopen hcomplete
  | adopt generationId h hlegacy => exact .adopt generationId h hlegacy
  | cancel hphase hcomplete hbefore => exact .cancel hphase hcomplete hbefore
  | clear h hphase => exact .clear h hphase
  | freeze deleteBeforeTsMs hphase hcomplete hbefore =>
    exact .freeze deleteBeforeTsMs hphase hcomplete hbefore
  | prepare h hphase hphase' => exact .prepare h hphase hphase'
  | cross deleteBeforeTsMs hphase hcomplete hbefore =>
    exact .cross deleteBeforeTsMs hphase hcomplete hbefore
  | finalize h hphase hphase' => exact .finalize h hphase hphase'
  | erase h hphase hmay => exact .erase h hphase (hle _ hmay)
  | complete h hphase hrows hphase' => exact .complete h hphase hrows hphase'
  | recomplete hcomplete => exact .recomplete hcomplete
  | recordCompleted hcomplete hphase => exact .recordCompleted hcomplete hphase

/-- Between two states of the object its storage has moved, and neither its alarm nor its log. -/
structure Moving (mayErase : String → Prop) (before after : AppInventory) : Prop where
  alarm : after.alarm = before.alarm
  log : after.log = before.log
  storage : SagaMoves mayErase before.storage after.storage

instance (mayErase : String → Prop) : IsPreorder AppInventory (Moving mayErase) where
  refl _ := ⟨rfl, rfl, .refl⟩
  trans _ _ _ h h' := ⟨h'.alarm.trans h.alarm, h'.log.trans h.log, h.storage.trans h'.storage⟩

/-! ## 2. Sound storage -/

/-- What every storage of the object meets. -/
structure SagaSound (storage : AppInventoryStorage) : Prop where
  keyed : Rows.Keyed HoldoverWriteAppEntityRef.name storage.entities
  complete : storage.deletionComplete = true → storage.suppressed = true ∧
    listRegisteredEntities storage = [] ∧
    ∀ saga, storage.deletionSaga = some saga → saga.phase = .completed
  completed : ∀ saga, storage.deletionSaga = some saga → saga.phase = .completed →
    storage.deletionComplete = true
  suppressed : storage.crossed = true → storage.suppressed = true

variable {mayErase : String → Prop} {storage storage' : AppInventoryStorage}

theorem AppInventoryStorage.crossed_of_saga {saga : HoldoverWriteAppDeletionSaga}
    (h : storage.deletionSaga = some saga) : storage.crossed = saga.phase.crossedBoundary := by
  rw [AppInventoryStorage.crossed, h]
  rfl

/-- A saga that has not crossed leaves the deletion incomplete. -/
theorem SagaSound.incomplete (hsound : SagaSound storage) {saga : HoldoverWriteAppDeletionSaga}
    (h : storage.deletionSaga = some saga) (hphase : saga.phase ≠ .completed) :
    storage.deletionComplete = false := by
  rw [← Bool.not_eq_true]
  exact fun hcomplete => hphase ((hsound.complete hcomplete).2.2 saga h)

/-- **Every move** keeps the storage sound, one case for each: what a move may assume of the phase it
starts from is what its constructor carries. -/
theorem SagaMove.sound (h : SagaMove mayErase storage storage') (hsound : SagaSound storage) :
    SagaSound storage' := by
  obtain ⟨hkeyed, hcomp, hcompd, hsup⟩ := id hsound
  cases h with
  | register ref identityVersion hopen hcomplete =>
    refine ⟨hkeyed.insert ref, fun hc => ?_, hcompd, hsup⟩
    exact absurd (hcomplete.symm.trans hc) (by decide)
  | adopt generationId h hlegacy =>
    refine ⟨hkeyed, fun hc => ?_, fun saga' hsaga' hphase => ?_, fun hcrossed => ?_⟩
    · obtain ⟨hsupp, hrows, hall⟩ := hcomp hc
      have hphase := hall _ h
      refine ⟨hsupp, hrows, fun saga' hsaga' => ?_⟩
      cases hsaga'
      exact hphase
    · cases hsaga'
      exact hcompd _ h hphase
    · exact hsup ((AppInventoryStorage.crossed_of_saga h).trans hcrossed)
  | cancel hphase hcomplete hbefore =>
    refine ⟨hkeyed, fun hc => ?_, fun saga' hsaga' hphase' => ?_, fun hcrossed => ?_⟩
    · exact absurd (hcomplete.symm.trans hc) (by decide)
    · cases hsaga'
      rw [hphase] at hphase'
      cases hphase'
    · rw [AppInventoryStorage.crossed_of_saga rfl, hphase] at hcrossed
      cases hcrossed
  | clear h hphase =>
    have hincomplete := hsound.incomplete h (by rw [hphase]; decide)
    refine ⟨hkeyed, fun hc => ?_, fun _ hsaga' => (by cases hsaga'), fun hcrossed => ?_⟩
    · exact absurd (hincomplete.symm.trans hc) (by decide)
    · cases hcrossed
  | freeze deleteBeforeTsMs hphase hcomplete hbefore =>
    refine ⟨hkeyed, fun hc => (by cases hc), fun saga' hsaga' hphase' => ?_, fun _ => rfl⟩
    cases hsaga'
    rw [hphase] at hphase'
    cases hphase'
  | prepare h hphase hphase' =>
    have hincomplete := hsound.incomplete h (by rw [hphase]; decide)
    refine ⟨hkeyed, fun hc => ?_, fun saga'' hsaga'' hphase'' => ?_, fun hcrossed => ?_⟩
    · exact absurd (hincomplete.symm.trans hc) (by decide)
    · cases hsaga''
      rw [hphase'] at hphase''
      cases hphase''
    · rw [AppInventoryStorage.crossed_of_saga rfl, hphase'] at hcrossed
      cases hcrossed
  | cross deleteBeforeTsMs hphase hcomplete hbefore =>
    refine ⟨hkeyed, fun hc => ?_, fun saga' hsaga' hphase' => ?_, fun _ => rfl⟩
    · exact absurd (hcomplete.symm.trans hc) (by decide)
    · cases hsaga'
      rw [hphase] at hphase'
      cases hphase'
  | finalize h hphase hphase' =>
    have hincomplete := hsound.incomplete h (by rcases hphase with hp | hp <;> rw [hp] <;> decide)
    refine ⟨hkeyed, fun hc => ?_, fun saga'' hsaga'' hphase'' => ?_, fun _ => hsup ?_⟩
    · exact absurd (hincomplete.symm.trans hc) (by decide)
    · cases hsaga''
      rw [hphase'] at hphase''
      cases hphase''
    · rw [AppInventoryStorage.crossed_of_saga h]
      rcases hphase with hp | hp <;> rw [hp] <;> rfl
  | erase h hphase hmay =>
    have hincomplete := hsound.incomplete h (by rw [hphase]; decide)
    refine ⟨hkeyed.erase _, fun hc => ?_, hcompd, hsup⟩
    exact absurd (hincomplete.symm.trans hc) (by decide)
  | complete h hphase hrows hphase' =>
    exact ⟨hkeyed, fun _ => ⟨rfl, hrows, fun saga'' hsaga'' => by cases hsaga''; exact hphase'⟩,
      fun _ _ _ => rfl, fun _ => rfl⟩
  | recomplete hcomplete =>
    obtain ⟨-, hrows, hall⟩ := hcomp hcomplete
    exact ⟨hkeyed, fun _ => ⟨rfl, hrows, hall⟩, fun _ _ _ => rfl, fun _ => rfl⟩
  | recordCompleted hcomplete hphase =>
    obtain ⟨hsupp, hrows, -⟩ := hcomp hcomplete
    exact ⟨hkeyed, fun _ => ⟨hsupp, hrows, fun saga' hsaga' => by cases hsaga'; exact hphase⟩,
      fun _ _ _ => hcomplete, fun _ => hsupp⟩

theorem SagaMoves.sound (h : SagaMoves mayErase storage storage') (hsound : SagaSound storage) :
    SagaSound storage' := by
  induction h with
  | refl => exact hsound
  | tail _ hmove ih => exact hmove.sound ih

/-- How far behind the boundary. -/
def HoldoverWriteAppDeletionSagaPhase.rank : HoldoverWriteAppDeletionSagaPhase → Nat
  | .preparing | .prepared | .canceling => 0
  | .d1_deleted => 1
  | .finalizing => 2
  | .completed => 3

/-- How far behind the boundary the saga is. -/
def AppInventoryStorage.rank (storage : AppInventoryStorage) : Nat :=
  (storage.deletionSaga.map (·.phase.rank)).getD 0

theorem HoldoverWriteAppDeletionSagaPhase.crossedBoundary_iff
    (phase : HoldoverWriteAppDeletionSagaPhase) :
    phase.crossedBoundary = true ↔ 0 < phase.rank := by
  cases phase <;> decide

theorem AppInventoryStorage.rank_of_saga {saga : HoldoverWriteAppDeletionSaga}
    (h : storage.deletionSaga = some saga) : storage.rank = saga.phase.rank := by
  rw [AppInventoryStorage.rank, h]
  rfl

theorem AppInventoryStorage.crossed_iff_rank : storage.crossed = true ↔ 0 < storage.rank := by
  cases h : storage.deletionSaga with
  | none => simp [AppInventoryStorage.crossed, AppInventoryStorage.rank, h]
  | some saga =>
    rw [AppInventoryStorage.crossed_of_saga h, AppInventoryStorage.rank_of_saga h,
      HoldoverWriteAppDeletionSagaPhase.crossedBoundary_iff]

theorem AppInventoryStorage.rank_eq_zero (h : storage.crossed = false) : storage.rank = 0 := by
  rw [← Nat.le_zero, ← not_lt, ← AppInventoryStorage.crossed_iff_rank, h]
  decide

/-- **No move leads back** over the boundary, or back behind it. The rank of a storage is that of the
phase of its saga; the moves that start a saga, or clear one, start before the boundary. -/
theorem SagaMove.rank_le (h : SagaMove mayErase storage storage') (hsound : SagaSound storage) :
    storage.rank ≤ storage'.rank := by
  cases h with
  | register => exact le_refl _
  | adopt generationId h hlegacy => rw [AppInventoryStorage.rank_of_saga h]; exact le_refl _
  | cancel hphase hcomplete hbefore => rw [AppInventoryStorage.rank_eq_zero hbefore]; exact zero_le
  | clear h hphase =>
    rw [AppInventoryStorage.rank_of_saga h, hphase]
    exact zero_le
  | freeze deleteBeforeTsMs hphase hcomplete hbefore =>
    rw [AppInventoryStorage.rank_eq_zero hbefore]
    exact zero_le
  | prepare h hphase hphase' =>
    rw [AppInventoryStorage.rank_of_saga h, hphase]
    exact zero_le
  | cross deleteBeforeTsMs hphase hcomplete hbefore =>
    rw [AppInventoryStorage.rank_eq_zero hbefore]
    exact zero_le
  | finalize h hphase hphase' =>
    rw [AppInventoryStorage.rank_of_saga h, AppInventoryStorage.rank_of_saga rfl, hphase']
    rcases hphase with hp | hp
    · rw [hp]
      decide
    · rw [hp]
  | erase => exact le_refl _
  | complete h hphase hrows hphase' =>
    rw [AppInventoryStorage.rank_of_saga h, AppInventoryStorage.rank_of_saga rfl, hphase, hphase']
    decide
  | recomplete => exact le_refl _
  | recordCompleted hcomplete hphase =>
    cases h : storage.deletionSaga with
    | none =>
      rw [AppInventoryStorage.rank, h]
      exact zero_le
    | some old =>
      rw [AppInventoryStorage.rank_of_saga h, AppInventoryStorage.rank_of_saga rfl, hphase,
        (hsound.complete hcomplete).2.2 old h]

theorem SagaMoves.rank_le (h : SagaMoves mayErase storage storage') (hsound : SagaSound storage) :
    storage.rank ≤ storage'.rank := by
  induction h with
  | refl => exact le_refl _
  | tail hmoves hmove ih => exact ih.trans (hmove.rank_le (SagaMoves.sound hmoves hsound))

end Splitch
