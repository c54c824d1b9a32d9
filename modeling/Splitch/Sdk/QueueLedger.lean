/-
# What the queue notes of a Flag

A browser client counts the Exposures of one Flag: it exposes a Flag once, and once more when the Flag is
armed again.  Whether that is kept depends on few steps of the queue.  This module says which, so that the
client need not look into the others.

The queue holds a set of Flags that it has noted, `enqueuedFlags`.  Three things change what counts:

* an Exposure is LET IN, for a Flag that is not noted, and notes it (`enqueue_cases`);
* an overflow DROPS Exposures, and arms their Flags again, which is done by the call that resumes behind a
  failed forced flush (`resume_cases`, `Trims`);
* the client ARMS Flags again by `rearm`, where their resolution has changed.

Every other step frames all of this (`Frame`): nothing is let in or dropped, the same Flags are noted, the
queue does not expire, and one that is empty and has no batch in flight sends nothing.  A frame is proved
for each part of a step, and composes.

Answers of the transport have a lemma of their own (`answer_keeps`), since an answer may expire the queue,
and what comes back for an expired queue goes with it (`answer_expired`).
-/
import Splitch.Sdk.ExposureQueue

namespace Splitch

namespace Browser

def Phase.redeems : Phase → Bool
  | .redeeming _ _ => true
  | .waiting | .answered _ _ | .threw _ | .settled _ | .ended _ => false

namespace ExposureQueue

variable {deps : ExposureQueueDeps} {queue queue' queue'' : ExposureQueue}

/-- A caller has a batch in flight. -/
def Redeems (queue : ExposureQueue) : Prop :=
  ∃ id caller, queue.callers id = some caller ∧ caller.phase.redeems = true

/-- Nothing is let in, dropped, or armed; what is empty and sends nothing stays so. -/
structure Frame (queue queue' : ExposureQueue) : Prop where
  admitted : queue'.history.admitted = queue.history.admitted
  dropped : queue'.history.dropped = queue.history.dropped
  enqueuedFlags : queue'.enqueuedFlags = queue.enqueuedFlags
  expiryError : queue'.expiryError = queue.expiryError
  pending : queue.pending = [] → queue'.pending = []
  sent : queue.pending = [] → queue'.history.sent = queue.history.sent
  redeems : Redeems queue' → queue.pending = [] → Redeems queue

/-! ## 1. Parts of a step -/

theorem Frame.of_eq (hadmitted : queue'.history.admitted = queue.history.admitted)
    (hdropped : queue'.history.dropped = queue.history.dropped)
    (hflags : queue'.enqueuedFlags = queue.enqueuedFlags) (hexpiry : queue'.expiryError = queue.expiryError)
    (hpending : queue'.pending = queue.pending) (hsent : queue'.history.sent = queue.history.sent)
    (hcallers : queue'.callers = queue.callers) : Frame queue queue' where
  admitted := hadmitted
  dropped := hdropped
  enqueuedFlags := hflags
  expiryError := hexpiry
  pending hempty := hpending.trans hempty
  sent _ := hsent
  redeems hredeems _ := by
    rw [Redeems, hcallers] at hredeems
    exact hredeems

theorem Frame.refl (queue : ExposureQueue) : Frame queue queue := .of_eq rfl rfl rfl rfl rfl rfl rfl

theorem Frame.trans (h : Frame queue queue') (h' : Frame queue' queue'') : Frame queue queue'' where
  admitted := h'.admitted.trans h.admitted
  dropped := h'.dropped.trans h.dropped
  enqueuedFlags := h'.enqueuedFlags.trans h.enqueuedFlags
  expiryError := h'.expiryError.trans h.expiryError
  pending hempty := h'.pending (h.pending hempty)
  sent hempty := (h'.sent (h.pending hempty)).trans (h.sent hempty)
  redeems hredeems hempty := h.redeems (h'.redeems hredeems (h.pending hempty)) hempty

theorem redeems_of_setCaller {id : Nat} {caller : Option Caller}
    (hcaller : ∀ c, caller = some c → c.phase.redeems = false)
    (h : Redeems (queue.setCaller id caller)) : Redeems queue := by
  obtain ⟨other, c, hc, hredeems⟩ := h
  change Function.update queue.callers id caller other = some c at hc
  rcases eq_or_ne other id with rfl | hne
  · rw [Function.update_self] at hc
    rw [hcaller c hc] at hredeems
    cases hredeems
  · rw [Function.update_of_ne hne] at hc
    exact ⟨other, c, hc, hredeems⟩

theorem frame_setCaller {id : Nat} {caller : Option Caller}
    (hcaller : ∀ c, caller = some c → c.phase.redeems = false) :
    Frame queue (queue.setCaller id caller) :=
  ⟨rfl, rfl, rfl, rfl, fun h => h, fun _ => rfl, fun h _ => redeems_of_setCaller hcaller h⟩

theorem frame_log (logs : List LogEntry) : Frame queue (queue.log logs) :=
  .of_eq rfl rfl rfl rfl rfl rfl rfl

theorem frame_afterDrain : Frame queue (queue.afterDrain deps) := by
  simp only [afterDrain, ensureTimer, ensureLifecycle, clearTimer, detachLifecycle]
  split_ifs <;> exact .of_eq rfl rfl rfl rfl rfl rfl rfl

theorem frame_settle {id : Nat} {caller : Caller} {result : DrainResult} :
    Frame queue (queue.settle deps id caller result) := by
  refine frame_afterDrain.trans (frame_setCaller fun c hc => ?_)
  cases hc
  rfl

theorem frame_sendBatch {id : Nat} {caller : Caller} {progress : Progress} (h : queue.pending ≠ []) :
    Frame queue (queue.sendBatch id caller progress) :=
  ⟨rfl, rfl, rfl, rfl, fun hempty => absurd hempty h, fun hempty => absurd hempty h,
    fun _ hempty => absurd hempty h⟩

theorem frame_drainPending {id : Nat} {caller : Caller} {progress : Progress} :
    Frame queue (queue.drainPending deps id caller progress) := by
  rw [drainPending]
  split_ifs with hempty
  · exact frame_settle
  · dsimp only
    split_ifs
    · exact (frame_log _).trans frame_settle
    · exact frame_sendBatch (mt List.length_eq_zero_iff.mpr hempty)

theorem frame_leave {id : Nat} {caller : Caller} {result : DrainResult} :
    Frame queue (queue.leave id caller result) := by
  have hdrains : Frame queue { queue with queuedDrains := queue.queuedDrains - 1 } :=
    .of_eq rfl rfl rfl rfl rfl rfl rfl
  refine hdrains.trans (frame_setCaller fun c hc => ?_)
  cases hc
  rfl

theorem frame_startDrain {id : Nat} {caller : Caller} : Frame queue (queue.startDrain deps id caller) := by
  rw [startDrain]
  split
  · exact frame_leave
  · split_ifs
    · exact frame_leave
    · have hactive : Frame queue { queue with activeDrain := some id } :=
        .of_eq rfl rfl rfl rfl rfl rfl rfl
      exact hactive.trans frame_drainPending

theorem frame_enqueueDrain {kind : CallerKind} {options : DrainOptions} :
    Frame queue (queue.enqueueDrain deps kind options) := by
  have hnext : ∀ queuedDrains, Frame queue
      { queue with nextCaller := queue.nextCaller + 1, queuedDrains } :=
    fun _ => .of_eq rfl rfl rfl rfl rfl rfl rfl
  rw [enqueueDrain]
  dsimp only
  split
  · refine (hnext _).trans (frame_setCaller fun c hc => ?_)
    cases hc
    rfl
  · split_ifs
    · refine (hnext _).trans (frame_setCaller fun c hc => ?_)
      cases hc
      rfl
    · exact (hnext _).trans frame_startDrain

/-! ## 2. Steps of calls -/

theorem flush_frame : Frame queue (queue.flush deps) := by
  rw [flush]
  split_ifs
  · exact .refl _
  · exact frame_enqueueDrain

theorem close_frame : Frame queue (queue.close deps) := by
  rw [close]
  split_ifs
  · exact .refl _
  · exact .refl _
  · have hclosed : Frame queue { queue with closed := true }.clearTimer :=
      .of_eq rfl rfl rfl rfl rfl rfl rfl
    exact hclosed.trans frame_enqueueDrain

variable (deps queue) in
theorem onTimer_frame : Frame queue (queue.onTimer deps) := by
  rw [onTimer]
  split_ifs
  · have htimer : Frame queue queue.clearTimer := .of_eq rfl rfl rfl rfl rfl rfl rfl
    exact htimer.trans frame_enqueueDrain
  · exact .refl _

variable (deps queue) in
theorem onPageEvent_frame (hasTarget : Bool) : Frame queue (queue.onPageEvent deps hasTarget) := by
  rw [onPageEvent]
  split_ifs
  · exact frame_enqueueDrain
  · exact .refl _

variable (deps queue) in
/-- **It throws** where the queue is open, the Flag is not noted, and no id can be minted. -/
theorem enqueue_answer (flagKey exposureTicket : String) (minted : Option String) (clientTimestamp : String) :
    (queue.enqueue deps flagKey exposureTicket minted clientTimestamp).1 =
      if minted = none ∧ queue.closed = false ∧ flagKey ∉ queue.enqueuedFlags then
        .error exposureIdUnavailable else .ok ⟨⟩ := by
  rw [enqueue]
  cases hclosed : queue.closed with
  | true => simp
  | false =>
    unfold admitExposure
    by_cases hflag : flagKey ∈ queue.enqueuedFlags
    · simp [hflag]
    · cases minted <;> simp [hflag]

/-- The item that an enqueued Exposure becomes. -/
def LetsIn (queue queue' : ExposureQueue) (flagKey exposureTicket : String) : Prop :=
  ∃ item : QueuedExposure, item.flagKey = flagKey ∧ item.exposureTicket = exposureTicket ∧
    flagKey ∉ queue.enqueuedFlags ∧ queue'.enqueuedFlags = queue.enqueuedFlags ++ [flagKey] ∧
    queue'.history.admitted = queue.history.admitted ++ [item] ∧
    queue'.history.dropped = queue.history.dropped ∧ queue'.expiryError = queue.expiryError

variable (deps queue) in
/-- **An Exposure is let in** for a Flag that is not noted, and notes it. All other ends of the call
leave the ledger: a refusal is logged at most, and the timer and the page's listeners are none of its
business. -/
theorem enqueue_cases (flagKey exposureTicket : String) (minted : Option String) (clientTimestamp : String) :
    Frame queue (queue.enqueue deps flagKey exposureTicket minted clientTimestamp).2 ∨
      LetsIn queue (queue.enqueue deps flagKey exposureTicket minted clientTimestamp).2 flagKey
        exposureTicket := by
  rw [enqueue]
  split_ifs
  · exact .inl (frame_log _)
  · unfold admitExposure
    by_cases hflag : flagKey ∈ queue.enqueuedFlags
    · simp only [if_pos hflag]
      exact .inl (.refl _)
    · simp only [if_neg hflag]
      cases minted with
      | none => exact .inl (frame_log _)
      | some exposureId =>
        right
        have hensure : ∀ queue : ExposureQueue, Frame queue ((queue.ensureLifecycle deps).ensureTimer) := by
          intro queue
          simp only [ensureTimer, ensureLifecycle]
          split_ifs <;> exact .of_eq rfl rfl rfl rfl rfl rfl rfl
        have hin : ∀ queue₁, Frame { queue with
            enqueuedFlags := queue.enqueuedFlags ++ [flagKey]
            pending := queue.pending ++ [⟨flagKey, exposureId, exposureTicket, clientTimestamp⟩]
            history := { queue.history with admitted := queue.history.admitted ++
              [⟨flagKey, exposureId, exposureTicket, clientTimestamp⟩] } } queue₁ →
              LetsIn queue queue₁ flagKey exposureTicket := fun queue₁ hframe =>
          ⟨_, rfl, rfl, hflag, hframe.enqueuedFlags, hframe.admitted, hframe.dropped, hframe.expiryError⟩
        dsimp only
        split_ifs
        · exact hin _ ((hensure _).trans frame_enqueueDrain)
        · exact hin _ (hensure _)

/-! ## 3. Resumptions and answers -/

/-- What an overflow drops, it arms again. -/
structure Trims (queue queue' : ExposureQueue) (lost : List QueuedExposure) : Prop where
  admitted : queue'.history.admitted = queue.history.admitted
  dropped : queue'.history.dropped = queue.history.dropped ++ lost
  enqueuedFlags : queue'.enqueuedFlags = queue.enqueuedFlags.filter (· ∉ lost.map (·.flagKey))
  expiryError : queue'.expiryError = queue.expiryError
  pending : queue.pending = [] → queue'.pending = []
  sent : queue.pending = [] → queue'.history.sent = queue.history.sent
  redeems : Redeems queue' → Redeems queue

theorem Frame.trims (h : Frame queue queue') (hredeems : Redeems queue' → Redeems queue) :
    Trims queue queue' [] :=
  ⟨h.admitted, by rw [List.append_nil, h.dropped], by simp [h.enqueuedFlags], h.expiryError, h.pending,
    h.sent, hredeems⟩

theorem trim_trims : Trims queue queue.trimFailedOverflow (queue.pending.drop EXPOSURE_BATCH_MAX_ITEMS) := by
  rw [trimFailedOverflow]
  dsimp only
  split_ifs <;> exact ⟨rfl, rfl, rfl, rfl, fun hempty => (by rw [hempty]; rfl), fun _ => rfl, fun h => h⟩

variable (queue) in
theorem continueCaller_trims (kind : CallerKind) (result : DrainResult) :
    ∃ lost, Trims queue (queue.continueCaller kind result) lost := by
  unfold continueCaller
  split
  · exact ⟨_, (Frame.refl _).trims fun h => h⟩
  · exact ⟨_, (Frame.refl _).trims fun h => h⟩
  · have hdetach : Frame queue queue.detachLifecycle := .of_eq rfl rfl rfl rfl rfl rfl rfl
    exact ⟨[], hdetach.trims fun h => h⟩
  · split
    · split_ifs
      · exact ⟨_, (Frame.refl _).trims fun h => h⟩
      · exact ⟨_, trim_trims⟩
    · exact ⟨_, trim_trims⟩

variable (deps queue) in
/-- **A resumption** arms the Flags of the Exposures it drops, and no others. Only the trimming drops
any, and that is done where a forced flush has failed. -/
theorem resume_cases (id : Nat) :
    Frame queue (queue.resume deps id) ∨ ∃ lost, Trims queue (queue.resume deps id) lost := by
  rw [resume]
  split
  · exact .inl (.refl _)
  · next caller hcaller =>
    split
    · split_ifs
      · exact .inl (.refl _)
      · exact .inl frame_startDrain
    · exact .inl (.refl _)
    · split_ifs
      · exact .inl frame_settle
      · exact .inl frame_drainPending
    · exact .inl frame_settle
    · next result _ =>
      have hactive : Frame queue { queue with
          activeDrain := if queue.activeDrain = some id then none else queue.activeDrain } :=
        .of_eq rfl rfl rfl rfl rfl rfl rfl
      exact .inl (hactive.trans frame_leave)
    · next result _ =>
      obtain ⟨lost, htrims⟩ := continueCaller_trims queue caller.kind result
      refine .inr ⟨lost, htrims.admitted, htrims.dropped, htrims.enqueuedFlags, htrims.expiryError,
        htrims.pending, htrims.sent, fun hredeems => htrims.redeems (redeems_of_setCaller (fun c hc => ?_) hredeems)⟩
      cases hc

/-- An answer moves nothing of this. -/
structure Keeps (queue queue' : ExposureQueue) : Prop where
  admitted : queue'.history.admitted = queue.history.admitted
  dropped : queue'.history.dropped = queue.history.dropped
  enqueuedFlags : queue'.enqueuedFlags = queue.enqueuedFlags
  sent : queue'.history.sent = queue.history.sent

theorem Keeps.trans (h : Keeps queue queue') (h' : Keeps queue' queue'') : Keeps queue queue'' :=
  ⟨h'.admitted.trans h.admitted, h'.dropped.trans h.dropped, h'.enqueuedFlags.trans h.enqueuedFlags,
    h'.sent.trans h.sent⟩

theorem keeps_finishBatch {result : BrowserTransportFailure} {outcome : BatchOutcome} :
    Keeps queue (queue.finishBatch result outcome).1 := by
  rw [finishBatch]
  split_ifs <;> exact ⟨rfl, rfl, rfl, rfl⟩

theorem keeps_keepRetained {retained : List QueuedExposure} : Keeps queue (queue.keepRetained retained) := by
  rw [keepRetained]
  split_ifs <;> exact ⟨rfl, rfl, rfl, rfl⟩

theorem keeps_redeem {batch : List QueuedExposure} {reply : Except String BrowserExposuresResult} :
    Keeps queue (queue.redeemPendingExposureBatch deps batch reply).1 := by
  rw [redeemPendingExposureBatch]
  dsimp only
  split
  · exact ⟨rfl, rfl, rfl, rfl⟩
  · split_ifs
    · exact ⟨rfl, rfl, rfl, rfl⟩
    · split
      · exact ⟨rfl, rfl, rfl, rfl⟩
      · split
        · exact ⟨rfl, rfl, rfl, rfl⟩
        · have hnote : ∀ logs items, Keeps queue ((queue.log logs).noteAnswered items) :=
            fun _ _ => ⟨rfl, rfl, rfl, rfl⟩
          exact (hnote _ _).trans (keeps_keepRetained.trans keeps_finishBatch)

variable (deps queue) in
theorem answer_keeps (id : Nat) (reply : Except String BrowserExposuresResult) :
    Keeps queue (queue.answer deps id reply) := by
  rw [answer]
  split
  · exact ⟨rfl, rfl, rfl, rfl⟩
  · split
    · next caller _ batch progress _ =>
      have hkeeps : Keeps queue (queue.redeemPendingExposureBatch deps batch reply).1 := keeps_redeem
      split <;> next heq =>
        rw [heq] at hkeeps
        exact hkeeps.trans ⟨rfl, rfl, rfl, rfl⟩
    · exact ⟨rfl, rfl, rfl, rfl⟩

variable (deps) in
/-- What comes back for an expired queue goes with it. -/
theorem answer_expired (h : queue.expiryError.isSome = true) (id : Nat)
    (reply : Except String BrowserExposuresResult) :
    (queue.answer deps id reply).expiryError = queue.expiryError ∧
      (queue.answer deps id reply).pending = queue.pending := by
  obtain ⟨error, herror⟩ := Option.isSome_iff_exists.mp h
  rw [answer]
  split
  · exact ⟨rfl, rfl⟩
  · split
    · rw [redeemPendingExposureBatch]
      simp only [herror]
      exact ⟨herror, rfl⟩
    · exact ⟨rfl, rfl⟩

variable (deps) in
/-- Nobody waits for an answer. -/
theorem answer_eq_self (h : ¬Redeems queue) (id : Nat) (reply : Except String BrowserExposuresResult) :
    queue.answer deps id reply = queue := by
  rw [answer]
  split
  · rfl
  · next caller hcaller =>
    split
    · next batch progress hphase => exact absurd ⟨id, caller, hcaller, by rw [hphase]; rfl⟩ h
    · rfl

end ExposureQueue

end Browser

end Splitch
