/-
# The sections of the lock

What one step of the lock does.  There are four kinds of step, and most of them are alike: one call goes from
its stage to the next one, and the counters follow.

A MOVE is the common part (`Moves`): one call that is there changes its stage, keeps its kind, is not done
before, and if it was let in it still is.  `Inv.move` proves the invariant behind a move once and for all, up
to what is said of the counters and of the promise queue.  A turn of a reader, of a writer that drains, a
settling operation and a release are each a move with its own counters.

A new call is no move, as its number is new.  It enters behind all the others (`Enters`), so the order among
the exclusive calls is extended at its end, and the promise that it awaits is the latest one.

With these every step keeps the invariant (`inv_step`).

The last section says what a step may DO, which an invariant does not: the one call that it is about goes
one of nine ways, and for each it is known what let it go there (`Becomes`).  A shared call reads
only where no exclusive one is pending, and an exclusive call writes only where no reader is left and every
exclusive call before it is over.  That is all that runs of the lock are shown from (`changes_step`).
-/
import Splitch.Ingest.DeliveryResetLock

namespace Splitch

namespace ResetLock

variable {lock lock' : Lock} {n m : Nat}

/-! ## 1. Moves -/

/-- A call moves from its stage to another of its kind. -/
structure Moves (lock lock' : Lock) (n : Nat) (stage' : Stage) : Prop where
  stage : lock'.stage = Function.update lock.stage n stage'
  calls : lock'.calls = lock.calls
  queue : lock'.writerQueue = lock.writerQueue
  lt : n < lock.calls
  present : stage' ≠ .absent
  kind : stage'.exclusive = (lock.stage n).exclusive
  notDone : lock.stage n ≠ .writeDone
  letIn : (lock.stage n).letIn = true → stage'.letIn = true
  notWaiting : ∀ promise, stage' ≠ .writerWaiting promise

namespace Moves

variable {stage' : Stage}

theorem self (h : Moves lock lock' n stage') : lock'.stage n = stage' := by
  rw [h.stage, Function.update_self]

theorem other (h : Moves lock lock' n stage') (hm : m ≠ n) : lock'.stage m = lock.stage m := by
  rw [h.stage, Function.update_of_ne hm]

theorem exclusive (h : Moves lock lock' n stage') (m : Nat) :
    (lock'.stage m).exclusive = (lock.stage m).exclusive := by
  by_cases hm : m = n
  · rw [hm, h.self, h.kind]
  · rw [h.other hm]

theorem letIn_mono (h : Moves lock lock' n stage') (hm : (lock.stage m).letIn = true) :
    (lock'.stage m).letIn = true := by
  by_cases hmn : m = n
  · rw [hmn, h.self]
    exact h.letIn (hmn ▸ hm)
  · rwa [h.other hmn]

theorem done_mono (h : Moves lock lock' n stage') (hm : lock.stage m = .writeDone) :
    lock'.stage m = .writeDone := by
  rw [h.other fun hmn => h.notDone (hmn ▸ hm), hm]

end Moves

/-- The count of the pending calls after a move. -/
theorem card_pending_update (stage : Nat → Stage) {calls : Nat} (stage' : Stage) (hn : n < calls) :
    ((Finset.range calls).filter fun m => (Function.update stage n stage' m).pending).card +
        (if (stage n).pending then 1 else 0) =
      ((Finset.range calls).filter fun m => (stage m).pending).card +
        (if stage'.pending then 1 else 0) := by
  have hsplit : ∀ f : Nat → Stage, ((Finset.range calls).filter fun m => (f m).pending).card =
      (((Finset.range calls).erase n).filter fun m => (f m).pending).card +
        (if (f n).pending then 1 else 0) := by
    intro f
    rw [← Finset.insert_erase (Finset.mem_range.mpr hn), Finset.filter_insert, Finset.erase_insert_eq_erase,
      Finset.erase_idem]
    split
    · rw [Finset.card_insert_of_notMem (by simp)]
    · rfl
  have hsame : (((Finset.range calls).erase n).filter fun m =>
      (Function.update stage n stage' m).pending) =
        ((Finset.range calls).erase n).filter fun m => (stage m).pending := by
    refine Finset.filter_congr fun m hm => ?_
    rw [Function.update_of_ne (Finset.ne_of_mem_erase hm)]
  rw [hsplit, hsplit stage, hsame, Function.update_self]
  omega

/-- **A move** keeps the invariant. Only the stage of one call changes, and the conditions say what
that call brings: counters that follow its stage, readers that grow only while no exclusive call is
pending, and the earlier calls over when it is past its turn. -/
theorem Inv.move (h : Inv lock) {stage' : Stage} (hmoves : Moves lock lock' n stage')
    (hwriters : lock'.writers + (if (lock.stage n).pending then 1 else 0) =
      lock.writers + (if stage'.pending then 1 else 0))
    (hreaders : ∀ m, m ∈ lock'.readers ↔ (lock'.stage m).inShared = true)
    (hgrow : lock'.readers ⊆ lock.readers ∨ lock.writers = 0)
    (hawaited : ∀ w, stage' = .readerWaiting (some w) → (lock.stage w).exclusive = true)
    (hpast : stage'.past = true → ∀ m < n, (lock.stage m).exclusive = true →
      lock.stage m = .writeDone)
    (hdrain : ∀ snapshot, stage' = .draining snapshot → snapshot = lock'.readers)
    (halone : stage'.inExclusive = true → lock'.readers = ∅) : Inv lock' := by
  have hshrinks : ∀ m, (lock.stage m).pending = true → lock'.readers ⊆ lock.readers := fun m hm =>
    hgrow.resolve_right (h.writers_pos hm).ne'
  constructor
  case absent =>
    intro m
    rw [hmoves.calls]
    by_cases hm : m = n
    · rw [hm, hmoves.self]
      exact ⟨fun habsent => absurd habsent hmoves.present,
        fun hle => absurd hmoves.lt (not_lt.mpr hle)⟩
    · rw [hmoves.other hm]
      exact h.absent m
  case readers => exact hreaders
  case writers =>
    have hcard := card_pending_update lock.stage stage' hmoves.lt
    rw [hmoves.calls, hmoves.stage]
    rw [← h.writers] at hcard
    omega
  case queue =>
    rw [hmoves.calls, hmoves.queue]
    exact h.queue.congr fun m _ => hmoves.exclusive m
  case earlier =>
    intro m promise hm
    have hne : m ≠ n := by
      rintro rfl
      exact hmoves.notWaiting promise (hmoves.self.symm.trans hm)
    rw [hmoves.other hne] at hm
    exact (h.earlier m promise hm).congr fun m _ => hmoves.exclusive m
  case order =>
    intro m hm k hk hexclusive
    rw [hmoves.exclusive] at hexclusive
    refine hmoves.done_mono ?_
    by_cases hmn : m = n
    · rw [hmn] at hm hk
      rw [hmoves.self] at hm
      exact hpast hm k hk hexclusive
    · rw [hmoves.other hmn] at hm
      exact h.order m hm k hk hexclusive
  case drain =>
    intro m snapshot hm
    by_cases hmn : m = n
    · rw [hmn, hmoves.self] at hm
      rw [hdrain snapshot hm]
      exact ⟨Finset.Subset.refl _, fun k hk => Stage.letIn_of_inShared ((hreaders k).mp hk)⟩
    · rw [hmoves.other hmn] at hm
      obtain ⟨hsub, hletIn⟩ := h.drain m snapshot hm
      have hpending : (lock.stage m).pending = true := by rw [hm]; rfl
      exact ⟨(hshrinks m hpending).trans hsub, fun k hk => hmoves.letIn_mono (hletIn k hk)⟩
  case alone =>
    intro m hm
    by_cases hmn : m = n
    · rw [hmn, hmoves.self] at hm
      exact halone hm
    · rw [hmoves.other hmn] at hm
      have hsub := hshrinks m (Stage.pending_of_inExclusive hm)
      rw [h.alone m hm] at hsub
      exact Finset.subset_empty.mp hsub
  case awaited =>
    intro m w hm
    rw [hmoves.exclusive]
    by_cases hmn : m = n
    · rw [hmn, hmoves.self] at hm
      exact hawaited w hm
    · rw [hmoves.other hmn] at hm
      exact h.awaited m w hm

/-! ## 2. Turns -/

theorem Inv.keepReaders (h : Inv lock) {stage' : Stage} (hmoves : Moves lock lock' n stage')
    (hreaders : lock'.readers = lock.readers)
    (hsame : stage'.inShared = (lock.stage n).inShared) (m : Nat) :
    m ∈ lock'.readers ↔ (lock'.stage m).inShared = true := by
  rw [hreaders, h.readers]
  by_cases hm : m = n
  · rw [hm, hmoves.self, hsame]
  · rw [hmoves.other hm]

/-- The exclusive calls before one whose promise is resolved are over. -/
theorem Inv.before_done (h : Inv lock) {promise : Option Nat}
    (hlatest : Latest lock.stage n promise) (hresolved : lock.Resolved promise) :
    ∀ m < n, (lock.stage m).exclusive = true → lock.stage m = .writeDone := by
  intro m hm hexclusive
  cases promise with
  | none =>
    rw [hlatest m hm] at hexclusive
    cases hexclusive
  | some w =>
    obtain ⟨-, -, hafter⟩ := hlatest
    have hdone : lock.stage w = .writeDone := hresolved
    rcases lt_trichotomy m w with hlt | rfl | hgt
    · exact h.order w (by rw [hdone]; rfl) m hlt hexclusive
    · exact hdone
    · rw [hafter m hgt hm] at hexclusive
      cases hexclusive

theorem inv_checkWriters (h : Inv lock) {awaited : Option Nat}
    (hstage : lock.stage n = .readerWaiting awaited) (throws : Bool) :
    Inv (lock.checkWriters n throws) := by
  have hlt := h.lt (n := n) (by rw [hstage]; simp)
  have hmoves : ∀ (lock' : Lock) (stage' : Stage), lock'.stage = Function.update lock.stage n stage' →
      lock'.calls = lock.calls → lock'.writerQueue = lock.writerQueue → stage'.exclusive = false →
      stage' ≠ .absent → Moves lock lock' n stage' := fun _ _ hput hcalls hqueue hkind hpresent =>
    ⟨hput, hcalls, hqueue, hlt, hpresent, by rw [hstage, hkind]; rfl, by rw [hstage]; simp,
      by rw [hstage]; simp [Stage.letIn], fun promise heq => by rw [heq] at hkind; cases hkind⟩
  rw [Lock.checkWriters]
  split
  · have hmove := hmoves (lock.put n (.readerWaiting lock.writerQueue)) _ rfl rfl rfl rfl (by simp)
    refine h.move hmove (by rw [hstage]; rfl) (h.keepReaders hmove rfl (by rw [hstage]; rfl))
      (.inl (Finset.Subset.refl _)) (fun w heq => ?_) (fun hpast => (by cases hpast))
      (fun snapshot heq => (by cases heq)) (fun hin => (by cases hin))
    have hqueue := h.queue
    rw [Stage.readerWaiting.inj heq] at hqueue
    exact hqueue.2.1
  · next hfree =>
    have hwriters : lock.writers = 0 := Nat.eq_zero_of_not_pos hfree
    split
    · have hmove := hmoves (lock.put n .readDone) _ rfl rfl rfl rfl (by simp)
      exact h.move hmove (by rw [hstage]; rfl) (h.keepReaders hmove rfl (by rw [hstage]; rfl))
        (.inl (Finset.Subset.refl _)) (fun w heq => (by cases heq)) (fun hpast => (by cases hpast))
        (fun snapshot heq => (by cases heq)) (fun hin => (by cases hin))
    · have hmove := hmoves { lock.put n .reading with readers := insert n lock.readers } _
        rfl rfl rfl rfl (by simp)
      refine h.move hmove (by rw [hstage]; rfl) (fun m => ?_) (.inr hwriters)
        (fun w heq => (by cases heq)) (fun hpast => (by cases hpast))
        (fun snapshot heq => (by cases heq)) (fun hin => (by cases hin))
      by_cases hm : m = n
      · rw [hm, hmove.self]
        simp [Stage.inShared]
      · rw [hmove.other hm, Finset.mem_insert, ← h.readers]
        simp [hm]

theorem inv_release (h : Inv lock) (hpending : (lock.stage n).pending = true)
    (hbefore : ∀ m < n, (lock.stage m).exclusive = true → lock.stage m = .writeDone) :
    Inv (lock.release n) := by
  have hexclusive := Stage.exclusive_of_pending hpending
  have hpos := h.writers_pos hpending
  have hmove : Moves lock (lock.release n) n .writeDone :=
    ⟨rfl, rfl, rfl, h.lt_of_exclusive hexclusive, by simp, hexclusive.symm,
      fun hdone => (by rw [hdone] at hpending; cases hpending),
      fun hletIn => (by revert hletIn hpending; cases lock.stage n <;> simp [Stage.letIn, Stage.pending]),
      by simp⟩
  refine h.move hmove ?_ (h.keepReaders hmove rfl ?_) (.inl (Finset.Subset.refl _))
    (fun w heq => (by cases heq)) (fun _ => hbefore) (fun snapshot heq => (by cases heq))
    (fun hin => (by cases hin))
  · rw [hpending]
    change lock.writers - 1 + 1 = lock.writers + 0
    omega
  · revert hpending
    cases lock.stage n <;> simp [Stage.inShared, Stage.pending]

/-- An exclusive call that waits for the shared ones, or for an earlier one that is over. -/
theorem inv_checkReaders (h : Inv lock) (hpending : (lock.stage n).pending = true)
    (hbefore : ∀ m < n, (lock.stage m).exclusive = true → lock.stage m = .writeDone)
    (throws : Bool) : Inv (lock.checkReaders n throws) := by
  have hexclusive := Stage.exclusive_of_pending hpending
  have hmoves : ∀ stage' : Stage, stage'.past = true → Moves lock (lock.put n stage') n stage' :=
    fun stage' hpast =>
    ⟨rfl, rfl, rfl, h.lt_of_exclusive hexclusive, fun heq => (by rw [heq] at hpast; cases hpast),
      by rw [hexclusive]; revert hpast; cases stage' <;> simp [Stage.past, Stage.exclusive],
      fun hdone => (by rw [hdone] at hpending; cases hpending),
      fun hletIn => (by revert hletIn hpending; cases lock.stage n <;> simp [Stage.letIn, Stage.pending]),
      fun promise heq => (by rw [heq] at hpast; cases hpast)⟩
  have hshared : (lock.stage n).inShared = false := by
    revert hpending
    cases lock.stage n <;> simp [Stage.inShared, Stage.pending]
  rw [Lock.checkReaders]
  split
  · have hmove := hmoves (.draining lock.readers) rfl
    exact h.move hmove (by rw [hpending]; rfl) (h.keepReaders hmove rfl hshared.symm)
      (.inl (Finset.Subset.refl _)) (fun w heq => (by cases heq)) (fun _ => hbefore)
      (fun snapshot heq => (Stage.draining.inj heq).symm) (fun hin => (by cases hin))
  · next hempty =>
    have hreaders : lock.readers = ∅ := Finset.card_eq_zero.mp (Nat.eq_zero_of_not_pos hempty)
    split
    · exact inv_release h hpending hbefore
    · have hmove := hmoves .writing rfl
      exact h.move hmove (by rw [hpending]; rfl) (h.keepReaders hmove rfl hshared.symm)
        (.inl (Finset.Subset.refl _)) (fun w heq => (by cases heq)) (fun _ => hbefore)
        (fun snapshot heq => (by cases heq)) (fun _ => hreaders)

theorem inv_turn (h : Inv lock) {throws : Bool} (hturn : lock.turn n throws = some lock') :
    Inv lock' := by
  rw [Lock.turn] at hturn
  cases hstage : lock.stage n with
  | readerWaiting awaited =>
    simp only [hstage, Option.ite_none_right_eq_some, Option.some_inj] at hturn
    exact hturn.2 ▸ inv_checkWriters h hstage throws
  | readSettled =>
    simp only [hstage, Option.some_inj] at hturn
    subst hturn
    have hmove : Moves lock { lock.put n .readDone with readers := lock.readers.erase n } n .readDone :=
      ⟨rfl, rfl, rfl, h.lt (by rw [hstage]; simp), by simp, by rw [hstage]; rfl, by rw [hstage]; simp,
        fun _ => rfl, by simp⟩
    refine h.move hmove (by rw [hstage]; rfl) (fun m => ?_) (.inl (Finset.erase_subset _ _))
      (fun w heq => (by cases heq)) (fun hpast => (by cases hpast))
      (fun snapshot heq => (by cases heq)) (fun hin => (by cases hin))
    by_cases hm : m = n
    · rw [hm, hmove.self]
      simp [Stage.inShared]
    · rw [hmove.other hm, ← h.readers, Finset.mem_erase]
      simp [hm]
  | writerWaiting earlier =>
    simp only [hstage, Option.ite_none_right_eq_some, Option.some_inj] at hturn
    exact hturn.2 ▸ inv_checkReaders h (by rw [hstage]; rfl)
      (h.before_done (h.earlier n earlier hstage) hturn.1) throws
  | draining snapshot =>
    simp only [hstage, Option.ite_none_right_eq_some, Option.some_inj] at hturn
    exact hturn.2 ▸ inv_checkReaders h (by rw [hstage]; rfl) (h.order n (by rw [hstage]; rfl)) throws
  | writeSettled =>
    simp only [hstage, Option.some_inj] at hturn
    exact hturn ▸ inv_release h (by rw [hstage]; rfl) (h.order n (by rw [hstage]; rfl))
  | _ => simp [hstage] at hturn

theorem inv_settle (h : Inv lock) (hsettle : lock.settle n = some lock') : Inv lock' := by
  rw [Lock.settle] at hsettle
  cases hstage : lock.stage n with
  | reading =>
    simp only [hstage, Option.some_inj] at hsettle
    subst hsettle
    have hmove : Moves lock (lock.put n .readSettled) n .readSettled :=
      ⟨rfl, rfl, rfl, h.lt (by rw [hstage]; simp), by simp, by rw [hstage]; rfl, by rw [hstage]; simp,
        fun _ => rfl, by simp⟩
    exact h.move hmove (by rw [hstage]; rfl) (h.keepReaders hmove rfl (by rw [hstage]; rfl))
      (.inl (Finset.Subset.refl _)) (fun w heq => (by cases heq)) (fun hpast => (by cases hpast))
      (fun snapshot heq => (by cases heq)) (fun hin => (by cases hin))
  | writing =>
    simp only [hstage, Option.some_inj] at hsettle
    subst hsettle
    have hmove : Moves lock (lock.put n .writeSettled) n .writeSettled :=
      ⟨rfl, rfl, rfl, h.lt (by rw [hstage]; simp), by simp, by rw [hstage]; rfl, by rw [hstage]; simp,
        fun hletIn => (by rw [hstage] at hletIn; cases hletIn), by simp⟩
    exact h.move hmove (by rw [hstage]; rfl) (h.keepReaders hmove rfl (by rw [hstage]; rfl))
      (.inl (Finset.Subset.refl _)) (fun w heq => (by cases heq))
      (fun _ => h.order n (by rw [hstage]; rfl)) (fun snapshot heq => (by cases heq))
      (fun _ => h.alone n (by rw [hstage]; rfl))
  | _ => simp [hstage] at hsettle

/-! ## 3. New calls -/

theorem Latest.update {stage : Nat → Stage} {bound calls : Nat} {promise : Option Nat}
    (h : Latest stage bound promise) (stage' : Stage) (hbound : bound ≤ calls) :
    Latest (Function.update stage calls stage') bound promise :=
  h.congr fun n hn => by rw [Function.update_of_ne (hn.trans_le hbound).ne]

/-- A new call that is not an exclusive one that has come to its turn. -/
structure Enters (lock lock' : Lock) (stage' : Stage) : Prop where
  stage : lock'.stage = Function.update lock.stage lock.calls stage'
  calls : lock'.calls = lock.calls + 1
  readers : lock'.readers = lock.readers
  present : stage' ≠ .absent
  notShared : stage'.inShared = false
  notPast : stage'.past = false
  notAwaiting : ∀ w, stage' ≠ .readerWaiting (some w)
  writers : lock'.writers = lock.writers + (if stage'.pending then 1 else 0)
  queue : Latest lock'.stage lock'.calls lock'.writerQueue
  earlier : ∀ promise, stage' = .writerWaiting promise → Latest lock.stage lock.calls promise

theorem Enters.self {stage' : Stage} (h : Enters lock lock' stage') :
    lock'.stage lock.calls = stage' := by rw [h.stage, Function.update_self]

theorem Enters.other {stage' : Stage} (h : Enters lock lock' stage') (hm : m ≠ lock.calls) :
    lock'.stage m = lock.stage m := by rw [h.stage, Function.update_of_ne hm]

/-- **A new call** keeps the invariant. -/
theorem Inv.enters (h : Inv lock) {stage' : Stage} (hnew : Enters lock lock' stage') : Inv lock' := by
  have habsent : lock.stage lock.calls = .absent := (h.absent _).mpr (le_refl _)
  have hold : ∀ {m}, lock.stage m ≠ .absent → lock'.stage m = lock.stage m := fun hm =>
    hnew.other (h.lt hm).ne
  have hexclusive : ∀ {m}, (lock.stage m).exclusive = true → lock'.stage m = lock.stage m :=
    fun hm => hold fun heq => (by rw [heq] at hm; cases hm)
  constructor
  case absent =>
    intro m
    rw [hnew.calls]
    by_cases hm : m = lock.calls
    · rw [hm, hnew.self]
      exact ⟨fun heq => absurd heq hnew.present, fun hle => absurd hle (by omega)⟩
    · rw [hnew.other hm, h.absent]
      omega
  case readers =>
    intro m
    rw [hnew.readers, h.readers]
    by_cases hm : m = lock.calls
    · rw [hm, hnew.self, habsent, hnew.notShared]
      rfl
    · rw [hnew.other hm]
  case writers =>
    have hsame : ((Finset.range lock.calls).filter fun m => (lock'.stage m).pending) =
        (Finset.range lock.calls).filter fun m => (lock.stage m).pending := by
      refine Finset.filter_congr fun m hm => ?_
      rw [hnew.other (Finset.mem_range.mp hm).ne]
    rw [hnew.calls, hnew.writers, h.writers, Finset.range_add_one, Finset.filter_insert, hnew.self,
      hsame]
    split
    · rw [Finset.card_insert_of_notMem (by simp)]
    · rfl
  case queue => exact hnew.queue
  case earlier =>
    intro m promise hm
    by_cases hmn : m = lock.calls
    · rw [hmn, hnew.self] at hm
      rw [hmn, hnew.stage]
      exact (hnew.earlier promise hm).update _ (le_refl _)
    · rw [hnew.other hmn] at hm
      rw [hnew.stage]
      exact (h.earlier m promise hm).update _ (h.lt (by rw [hm]; simp)).le
  case order =>
    intro m hm k hk hkx
    by_cases hmn : m = lock.calls
    · rw [hmn, hnew.self, hnew.notPast] at hm
      cases hm
    · rw [hnew.other hmn] at hm
      have hlt : m < lock.calls := h.lt fun heq => (by rw [heq] at hm; cases hm)
      rw [hnew.other (hk.trans hlt).ne] at hkx ⊢
      exact h.order m hm k hk hkx
  case drain =>
    intro m snapshot hm
    have hmn : m ≠ lock.calls := by
      rintro rfl
      have hpast := hnew.notPast
      rw [← hnew.self, hm] at hpast
      cases hpast
    rw [hnew.other hmn] at hm
    obtain ⟨hsub, hletIn⟩ := h.drain m snapshot hm
    rw [hnew.readers]
    refine ⟨hsub, fun k hk => ?_⟩
    have hk' := hletIn k hk
    rwa [hold fun heq => (by rw [heq] at hk'; cases hk')]
  case alone =>
    intro m hm
    have hmn : m ≠ lock.calls := by
      rintro rfl
      have hpast := hnew.notPast
      rw [← hnew.self, Stage.past_of_inExclusive hm] at hpast
      cases hpast
    rw [hnew.other hmn] at hm
    rw [hnew.readers]
    exact h.alone m hm
  case awaited =>
    intro m w hm
    have hmn : m ≠ lock.calls := by
      rintro rfl
      exact hnew.notAwaiting w (hnew.self.symm.trans hm)
    rw [hnew.other hmn] at hm
    have hw := h.awaited m w hm
    rwa [hexclusive hw]

theorem inv_shared (h : Inv lock) (throws : Bool) : Inv (lock.shared throws) := by
  have hnew : Enters lock { lock.put lock.calls (.readerWaiting none) with calls := lock.calls + 1 }
      (.readerWaiting none) := by
    refine ⟨rfl, rfl, rfl, by simp, rfl, rfl, by simp, rfl, ?_, fun promise heq => (by cases heq)⟩
    change Latest (Function.update lock.stage lock.calls (.readerWaiting none)) (lock.calls + 1)
      lock.writerQueue
    have hqueue := h.queue.update (.readerWaiting none) (le_refl _)
    have hlast : ((Function.update lock.stage lock.calls (Stage.readerWaiting none))
        lock.calls).exclusive = false := by rw [Function.update_self]; rfl
    cases hpromise : lock.writerQueue with
    | none =>
      rw [hpromise] at hqueue
      intro m hm
      rcases Nat.lt_succ_iff_lt_or_eq.mp hm with hlt | rfl
      · exact hqueue m hlt
      · exact hlast
    | some w =>
      rw [hpromise] at hqueue
      refine ⟨hqueue.1.trans (Nat.lt_succ_self _), hqueue.2.1, fun m hwm hm => ?_⟩
      rcases Nat.lt_succ_iff_lt_or_eq.mp hm with hlt | rfl
      · exact hqueue.2.2 m hwm hlt
      · exact hlast
  exact inv_checkWriters (h.enters hnew) hnew.self throws

theorem inv_exclusive (h : Inv lock) : Inv lock.exclusive := by
  have hnew : Enters lock lock.exclusive (.writerWaiting lock.writerQueue) := by
    refine ⟨rfl, rfl, rfl, by simp, rfl, rfl, by simp, rfl, ?_, ?_⟩
    · refine ⟨Nat.lt_succ_self _, ?_, fun m hm hlt =>
        absurd (Nat.lt_succ_iff.mp hlt) (not_le.mpr hm)⟩
      change ((Function.update lock.stage lock.calls _) lock.calls).exclusive = true
      rw [Function.update_self]
      rfl
    · rintro promise ⟨⟩
      exact h.queue
  exact h.enters hnew

/-- **Every step** keeps the invariant. -/
theorem inv_step (h : Inv lock) (hstep : Step lock lock') : Inv lock' := by
  cases hstep with
  | shared throws => exact inv_shared h throws
  | exclusive => exact inv_exclusive h
  | settle n hsettle => exact inv_settle h hsettle
  | turn n throws hturn => exact inv_turn h hturn

/-! ## 4. What a step may do -/

/-- A shared call that has not started: a new one, or one that waits. -/
def Stage.outShared : Stage → Bool
  | .absent | .readerWaiting _ => true
  | _ => false

/-- An exclusive call that waits. -/
def Stage.waits : Stage → Bool
  | .writerWaiting _ | .draining _ => true
  | _ => false

/-- What a step makes of the one call it is about. -/
inductive Becomes (lock : Lock) (n : Nat) : Stage → Prop
  | awaits (hout : (lock.stage n).outShared = true) :
      Becomes lock n (.readerWaiting lock.writerQueue)
  | reads (hout : (lock.stage n).outShared = true) (hfree : lock.writers = 0) (throws : Bool) :
      Becomes lock n (if throws then .readDone else .reading)
  | readSettles (hreads : lock.stage n = .reading) : Becomes lock n .readSettled
  | readEnds (hsettled : lock.stage n = .readSettled) : Becomes lock n .readDone
  | queues (habsent : lock.stage n = .absent) (promise : Option Nat) :
      Becomes lock n (.writerWaiting promise)
  | drains (hwaits : (lock.stage n).waits = true) : Becomes lock n (.draining lock.readers)
  | writes (hwaits : (lock.stage n).waits = true) (hempty : lock.readers = ∅)
      (hbefore : ∀ m < n, (lock.stage m).exclusive = true → lock.stage m = .writeDone)
      (throws : Bool) : Becomes lock n (if throws then .writeDone else .writing)
  | writeSettles (hwrites : lock.stage n = .writing) : Becomes lock n .writeSettled
  | writeEnds (hsettled : lock.stage n = .writeSettled) : Becomes lock n .writeDone

/-- The call `n` becomes `stage'`, and the others stay. -/
def Changes (lock lock' : Lock) (n : Nat) (stage' : Stage) : Prop :=
  lock'.stage = Function.update lock.stage n stage' ∧ Becomes lock n stage'

theorem changes_checkReaders (hwaits : (lock.stage n).waits = true)
    (hbefore : ∀ m < n, (lock.stage m).exclusive = true → lock.stage m = .writeDone)
    (throws : Bool) : ∃ stage', Changes lock (lock.checkReaders n throws) n stage' := by
  rw [Lock.checkReaders]
  split
  · exact ⟨_, rfl, .drains hwaits⟩
  · next hempty =>
    have hreaders := Finset.card_eq_zero.mp (Nat.eq_zero_of_not_pos hempty)
    split
    · exact ⟨_, rfl, .writes hwaits hreaders hbefore true⟩
    · exact ⟨_, rfl, .writes hwaits hreaders hbefore false⟩

theorem changes_turn (h : Inv lock) {throws : Bool} (hturn : lock.turn n throws = some lock') :
    ∃ stage', Changes lock lock' n stage' := by
  rw [Lock.turn] at hturn
  cases hstage : lock.stage n with
  | readerWaiting awaited =>
    simp only [hstage, Option.ite_none_right_eq_some, Option.some_inj] at hturn
    have hout : (lock.stage n).outShared = true := by rw [hstage]; rfl
    obtain ⟨-, rfl⟩ := hturn
    rw [Lock.checkWriters]
    split
    · exact ⟨_, rfl, .awaits hout⟩
    · next hfree =>
      split
      · exact ⟨_, rfl, .reads hout (Nat.eq_zero_of_not_pos hfree) true⟩
      · exact ⟨_, rfl, .reads hout (Nat.eq_zero_of_not_pos hfree) false⟩
  | readSettled =>
    simp only [hstage, Option.some_inj] at hturn
    exact hturn ▸ ⟨_, rfl, .readEnds hstage⟩
  | writerWaiting earlier =>
    simp only [hstage, Option.ite_none_right_eq_some, Option.some_inj] at hturn
    exact hturn.2 ▸ changes_checkReaders (by rw [hstage]; rfl)
      (h.before_done (h.earlier n earlier hstage) hturn.1) throws
  | draining snapshot =>
    simp only [hstage, Option.ite_none_right_eq_some, Option.some_inj] at hturn
    exact hturn.2 ▸ changes_checkReaders (by rw [hstage]; rfl) (h.order n (by rw [hstage]; rfl)) throws
  | writeSettled =>
    simp only [hstage, Option.some_inj] at hturn
    exact hturn ▸ ⟨_, rfl, .writeEnds hstage⟩
  | _ => simp [hstage] at hturn

theorem changes_settle (hsettle : lock.settle n = some lock') : ∃ stage', Changes lock lock' n stage' := by
  rw [Lock.settle] at hsettle
  cases hstage : lock.stage n with
  | reading =>
    simp only [hstage, Option.some_inj] at hsettle
    exact hsettle ▸ ⟨_, rfl, .readSettles hstage⟩
  | writing =>
    simp only [hstage, Option.some_inj] at hsettle
    exact hsettle ▸ ⟨_, rfl, .writeSettles hstage⟩
  | _ => simp [hstage] at hsettle

/-- **Every step** is about one call: a new one, one that is settled, or one that has its turn. -/
theorem changes_step (h : Inv lock) (hstep : Step lock lock') :
    ∃ n stage', Changes lock lock' n stage' := by
  have habsent : lock.stage lock.calls = .absent := (h.absent _).mpr (le_refl _)
  cases hstep with
  | shared throws =>
    have hout : (lock.stage lock.calls).outShared = true := by rw [habsent]; rfl
    refine ⟨lock.calls, ?_⟩
    rw [Lock.shared, Lock.checkWriters]
    split
    · exact ⟨_, Function.update_idem .., .awaits hout⟩
    · next hfree =>
      have hwriters : lock.writers = 0 := Nat.eq_zero_of_not_pos hfree
      split
      · exact ⟨_, Function.update_idem .., .reads hout hwriters true⟩
      · exact ⟨_, Function.update_idem .., .reads hout hwriters false⟩
  | exclusive => exact ⟨lock.calls, _, rfl, .queues habsent _⟩
  | settle n hsettle => exact ⟨n, changes_settle hsettle⟩
  | turn n throws hturn => exact ⟨n, changes_turn h hturn⟩

end ResetLock

end Splitch
