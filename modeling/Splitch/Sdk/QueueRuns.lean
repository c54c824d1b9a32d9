/-
# Runs of the Exposure queue

The invariant of one step (`QueueAccounting`), over every order of calls, timers, page events, answers and
resumptions.  It says three things of a run.

Every Exposure that was let in is in one place (`exposures_accounted`).  The places are the queue itself,
the one batch in flight, and three exits: it was answered by a row that is not retryable, it was dropped by
an overflow that is logged with its id, or it went with its Environment.  The statement is about counts, so
an Exposure that were sent again behind its answer would be one too many.

One batch is in flight at most (`one_redeem_in_flight`), since a caller that waits for the transport owns
the active drain, and there is one.  What was handed over fits the caps of a request, or is a single item
that is too large for them by itself.

Automatic delivery stops and re-arms (`automatic_delivery`).  No drain of a timer, of a page event or of a
full queue sends once the retry policy has stopped, and the policy goes on only below its bound of failures.
While it goes on and something is pending, the timer and the page are set, or a drain is on its way.

That a row of an answer is the last one for its item refers to the run: the answers that it has brought so
far are carried along in the invariant's parameter (`Answered`).
-/
import Splitch.Sdk.QueueAccounting

namespace Splitch

namespace Browser

open ExposureQueue

variable (deps : ExposureQueueDeps)

/-- One of the answers of the run is the last one for the item. -/
def Answered (events : List Event) (item : QueuedExposure) : Prop :=
  ∃ id reply, .answer id reply ∈ events ∧ ExposureQueue.Settles deps reply item

theorem run_inv (events : List Event) :
    ExposureQueue.Inv deps (Answered deps events) ((exposureQueue deps).run events) := by
  have hrun : ∀ (rest : List Event) (queue : ExposureQueue), rest ⊆ events →
      ExposureQueue.Inv deps (Answered deps events) queue →
        ExposureQueue.Inv deps (Answered deps events) ((exposureQueue deps).exec queue rest) := by
    intro rest
    induction rest with
    | nil => exact fun queue _ h => h
    | cons event rest ih =>
      intro queue hsub h
      refine ih _ (fun other hother => hsub (List.mem_cons_of_mem _ hother)) (step_inv h ?_)
      rintro id reply rfl item hsettles
      exact ⟨id, reply, hsub List.mem_cons_self, hsettles⟩
  exact hrun events _ (List.Subset.refl _) new_inv

/-- **Every Exposure is accounted for**: what was let in is pending, in flight, answered, dropped or
expired, and nothing of it twice. -/
theorem exposures_accounted (events : List Event) :
    let queue := (exposureQueue deps).run events
    let history := queue.history
    history.admitted.Perm (queue.pending ++
        (queue.inFlight ++ (history.answered ++ (history.dropped ++ history.expired)))) ∧
      (∀ item ∈ history.answered, Answered deps events item) ∧
      (∀ item ∈ history.dropped, ∃ lost kept, item ∈ lost ∧ overflowDropped lost kept ∈ history.logs) ∧
      (history.expired ≠ [] → queue.expiryError.isSome = true) := by
  intro queue history
  have h := run_inv deps events
  refine ⟨List.perm_iff_count.mpr fun item => ?_, h.core.answered, h.core.dropped, h.core.expired⟩
  have hall := h.core.accounted item
  simp only [List.count_append]
  change history.admitted.count item = queue.inFlight.count item + (queue.pending.count item +
    (history.answered.count item + (history.dropped.count item + history.expired.count item))) at hall
  omega

/-- **One batch is in flight**, and it fits. A caller that is redeeming is the active drain, and of
these there is one; what is in flight is read off its phase. -/
theorem one_redeem_in_flight (events : List Event) :
    let queue := (exposureQueue deps).run events
    (∀ id caller batch progress, queue.callers id = some caller →
        caller.phase = .redeeming batch progress →
          queue.activeDrain = some id ∧ queue.inFlight = batch) ∧
      ∀ sent ∈ queue.history.sent, Fits sent.batch := by
  intro queue
  have h := run_inv deps events
  refine ⟨fun id caller batch progress hcaller hphase => ?_, fun sent hsent => (h.core.sends sent hsent).1⟩
  have hactive := h.toSound.active_of_owns hcaller (by rw [hphase]; rfl)
  refine ⟨hactive, ?_⟩
  rw [inFlight_of_active _ hactive hcaller, hphase]
  rfl

/-- **Automatic delivery**: no drain of a timer, of the page or of a full queue sends once delivery has
stopped; it goes on only below the bound of failures; and while it goes on and something is pending, the
timer and the page are set, or a drain is on its way. -/
theorem automatic_delivery (events : List Event) :
    let queue := (exposureQueue deps).run events
    (∀ sent ∈ queue.history.sent, sent.stopped = true → sent.options.automatic = false) ∧
      (queue.retryPolicy.stopped = false →
        queue.retryPolicy.attemptCount < MAX_DELIVERY_ATTEMPTS) ∧
      (queue.automaticFlushAllowed = true → Armed deps queue ∨ Busy queue) := by
  intro queue
  have h := run_inv deps events
  exact ⟨fun sent hsent => (h.core.sends sent hsent).2, h.core.attempts, h.armed⟩

end Browser

end Splitch
