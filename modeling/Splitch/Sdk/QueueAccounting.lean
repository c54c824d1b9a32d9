/-
# Where the Exposures of a queue are

An Exposure that has been let in must not get lost, and must not be sent twice at once.  Neither can be read
off one call: `drainPending`, `enqueueDrain` and `flush` are suspended at their awaits, other calls change
the queue meanwhile, and a drain hands over to the caller that waits behind it.  So the whole argument is an
invariant of the steps between two awaits, with calls, timers, page events, answers and resumptions in any
order.

The invariant has three layers, since a step is made of parts that do not keep all of it.

* **Inside a step** (`Core`), the caller that owns the drain may have some items in hand.  What was admitted
  is in hand, pending, answered, dropped or expired, and the counts add up item by item, so that no copy
  appears or vanishes.  No caller but the owner is in a phase that owns the drain.  Every batch that was sent
  fits, and none went out by an automatic drain once delivery had stopped.
* **Between two steps** (`Sound`), what is in hand is the batch in flight, and an owner is there if a drain
  is active.
* **And delivery goes on** (`Inv`): while automatic delivery is allowed and something is pending, the timer
  and the page are set, or some caller has its drain still before it.

The last one is not kept by the parts of a step, as a drain clears the timer when it starts and sets it
again only in `afterDrain`.  It is shown of whole steps: whoever gives the drain up goes through
`afterDrain`, and whoever waits is busy.

The answer to a batch is the longest way (`Core.redeem`): its items are split by the rows that came back
into those that stay and those that are answered, or they go with an Environment that has expired.
-/
import Splitch.Sdk.ExposureQueue

namespace Splitch

namespace Browser

open Checks

/-! ## 1. Owners -/

/-- The caller holds the active drain. -/
def Phase.owns : Phase → Bool
  | .waiting | .ended _ => false
  | .redeeming _ _ | .answered _ _ | .threw _ | .settled _ => true

/-- The caller has a drain, or the queue, still before it. -/
def Phase.busy : Phase → Bool
  | .waiting | .redeeming _ _ | .answered _ _ | .threw _ => true
  | .settled _ | .ended _ => false

def Phase.batch : Phase → List QueuedExposure
  | .redeeming batch _ => batch
  | _ => []

namespace ExposureQueue

/-- The batch that is in flight. -/
def inFlight (queue : ExposureQueue) : List QueuedExposure :=
  match queue.activeDrain with
  | none => []
  | some id => ((queue.callers id).map (·.phase.batch)).getD []

/-- What holds inside a step as well, where the owner has some items in hand. -/
structure Core (final : QueuedExposure → Prop) (queue : ExposureQueue) (owner : Option Nat)
    (hand : List QueuedExposure) : Prop where
  active : queue.activeDrain = owner
  fresh : ∀ id, queue.nextCaller ≤ id → queue.callers id = none
  idle : ∀ id caller, queue.callers id = some caller → owner ≠ some id → caller.phase.owns = false
  closing : ∀ id caller, queue.callers id = some caller → caller.kind = .close → queue.closed = true
  accounted : ∀ item, queue.history.admitted.count item = hand.count item +
    (queue.pending.count item + (queue.history.answered.count item +
      (queue.history.dropped.count item + queue.history.expired.count item)))
  answered : ∀ item ∈ queue.history.answered, final item
  dropped : ∀ item ∈ queue.history.dropped, ∃ lost kept, item ∈ lost ∧
    overflowDropped lost kept ∈ queue.history.logs
  expired : queue.history.expired ≠ [] → queue.expiryError.isSome = true
  sends : ∀ sent ∈ queue.history.sent, Fits sent.batch ∧
    (sent.stopped = true → sent.options.automatic = false)
  attempts : queue.retryPolicy.stopped = false →
    queue.retryPolicy.attemptCount < MAX_DELIVERY_ATTEMPTS

variable (deps : ExposureQueueDeps)

/-- Timer and page are set. -/
def Armed (queue : ExposureQueue) : Prop :=
  queue.flushTimer = true ∧
    (queue.lifecycleAttached = true ∨ (deps.hasDocument || deps.hasWindow) = false)

def Busy (queue : ExposureQueue) : Prop :=
  ∃ id caller, queue.callers id = some caller ∧ caller.phase.busy = true

/-- What holds between the steps, but for the timer. -/
structure Sound (final : QueuedExposure → Prop) (queue : ExposureQueue) : Prop where
  core : Core final queue queue.activeDrain queue.inFlight
  owner : ∀ id, queue.activeDrain = some id → ∃ caller, queue.callers id = some caller ∧
    caller.phase.owns = true ∧
      ∀ progress, caller.phase = .answered false progress → queue.retryPolicy.stopped = false

structure Inv (final : QueuedExposure → Prop) (queue : ExposureQueue) : Prop
    extends Sound final queue where
  armed : queue.automaticFlushAllowed = true → Armed deps queue ∨ Busy queue

variable {deps} {final : QueuedExposure → Prop} {queue : ExposureQueue} {owner : Option Nat} {hand : List QueuedExposure}

/-! ## 2. Parts of a step -/

theorem Core.log (h : Core final queue owner hand) (logs : List LogEntry) :
    Core final (queue.log logs) owner hand where
  active := h.active
  fresh := h.fresh
  idle := h.idle
  closing := h.closing
  accounted := h.accounted
  answered := h.answered
  dropped item hitem := by
    obtain ⟨lost, kept, hlost, hentry⟩ := h.dropped item hitem
    exact ⟨lost, kept, hlost, List.mem_append_left _ hentry⟩
  expired := h.expired
  sends := h.sends
  attempts := h.attempts

/-- A part of a step that sets the timer or the page. -/
theorem Core.timer (h : Core final queue owner hand) (flushTimer lifecycleAttached : Bool) :
    Core final { queue with flushTimer, lifecycleAttached } owner hand :=
  ⟨h.active, h.fresh, h.idle, h.closing, h.accounted, h.answered, h.dropped, h.expired, h.sends, h.attempts⟩

theorem afterDrain_eq (deps : ExposureQueueDeps) (queue : ExposureQueue) : ∃ flushTimer lifecycleAttached,
    queue.afterDrain deps = { queue with flushTimer, lifecycleAttached } := by
  simp only [afterDrain, ensureTimer, ensureLifecycle, clearTimer, detachLifecycle]
  split_ifs <;> exact ⟨_, _, rfl⟩

theorem afterDrain_armed (h : queue.automaticFlushAllowed = true) :
    Armed deps (queue.afterDrain deps) := by
  have hpage : ∀ queue : ExposureQueue, queue.flushTimer = true → queue.automaticFlushAllowed = true →
      Armed deps (queue.ensureLifecycle deps) := by
    intro queue htimer hallowed
    rw [ensureLifecycle]
    split_ifs with hattached htarget
    · simp only [hallowed, Bool.not_true, Bool.or_false] at hattached
      exact ⟨htimer, .inl hattached⟩
    · exact ⟨htimer, .inl rfl⟩
    · exact ⟨htimer, .inr (by simpa using htarget)⟩
  rw [afterDrain, if_pos h]
  rw [ensureTimer]
  split_ifs with htimer
  · simp only [h, Bool.not_true, Bool.or_false] at htimer
    exact hpage queue htimer h
  · exact hpage _ rfl h

theorem Core.setCaller (h : Core final queue owner hand) {id : Nat} (hid : id < queue.nextCaller)
    {caller : Option Caller}
    (howns : ∀ c, caller = some c → owner ≠ some id → c.phase.owns = false)
    (hclosing : ∀ c, caller = some c → c.kind = .close → queue.closed = true) :
    Core final (queue.setCaller id caller) owner hand where
  active := h.active
  fresh other hother := by
    change queue.nextCaller ≤ other at hother
    change Function.update queue.callers id caller other = none
    rw [Function.update_of_ne (by omega)]
    exact h.fresh other hother
  idle other c hc hother := by
    change Function.update queue.callers id caller other = some c at hc
    rcases eq_or_ne other id with rfl | hne
    · rw [Function.update_self] at hc
      exact howns c hc hother
    · rw [Function.update_of_ne hne] at hc
      exact h.idle other c hc hother
  closing other c hc := by
    change Function.update queue.callers id caller other = some c at hc
    rcases eq_or_ne other id with rfl | hne
    · rw [Function.update_self] at hc
      exact hclosing c hc
    · rw [Function.update_of_ne hne] at hc
      exact h.closing other c hc
  accounted := h.accounted
  answered := h.answered
  dropped := h.dropped
  expired := h.expired
  sends := h.sends
  attempts := h.attempts

theorem Core.lt_of_caller (h : Core final queue owner hand) {id : Nat} {caller : Caller}
    (hcaller : queue.callers id = some caller) : id < queue.nextCaller := by
  by_contra hge
  rw [h.fresh id (Nat.not_lt.mp hge)] at hcaller
  cases hcaller

@[simp] theorem setCaller_callers_self (id : Nat) (caller : Option Caller) :
    (queue.setCaller id caller).callers id = caller := Function.update_self ..

theorem inFlight_of_active (queue : ExposureQueue) {id : Nat} {caller : Caller} (hactive : queue.activeDrain = some id)
    (hcaller : queue.callers id = some caller) : queue.inFlight = caller.phase.batch := by
  simp [inFlight, hactive, hcaller]

theorem busy_setCaller {id : Nat} {caller : Caller} (h : caller.phase.busy = true) :
    Busy (queue.setCaller id (some caller)) :=
  ⟨id, caller, setCaller_callers_self _ _, h⟩

/-- The answer is the last one for an item: it is not sent again. -/
def Settles (deps : ExposureQueueDeps) (reply : Except String BrowserExposuresResult)
    (item : QueuedExposure) : Prop :=
  ∃ results, (redeemExposureBatch reply).results = some results ∧
    retains deps.isErrorCode results item = .ok false

/-- The owner goes to a phase of its own. -/
theorem Core.inv_owner {id : Nat} (h : Core final queue (some id) hand) (hid : id < queue.nextCaller)
    {caller : Caller} (howns : caller.phase.owns = true) (hbatch : caller.phase.batch = hand)
    (hclosing : caller.kind = .close → queue.closed = true)
    (hgoing : ∀ progress, caller.phase = .answered false progress → queue.retryPolicy.stopped = false)
    (harmed : queue.automaticFlushAllowed = true → Armed deps queue ∨ caller.phase.busy = true) :
    Inv deps final (queue.setCaller id (some caller)) := by
  have hflight : (queue.setCaller id (some caller)).inFlight = hand := by
    rw [inFlight_of_active (queue.setCaller id (some caller)) h.active (setCaller_callers_self _ _),
      hbatch]
  refine ⟨⟨?_, fun other hother => ?_⟩, fun hallowed => ?_⟩
  · have hactive : (queue.setCaller id (some caller)).activeDrain = some id := h.active
    rw [hflight, hactive]
    refine h.setCaller hid (fun c _ hne => absurd rfl hne) fun c hc => ?_
    cases hc
    exact hclosing
  · obtain rfl : id = other := Option.some.inj (h.active.symm.trans hother)
    exact ⟨caller, setCaller_callers_self _ _, howns, hgoing⟩
  · rcases harmed hallowed with harmed | hbusy
    · exact .inl harmed
    · exact .inr (busy_setCaller hbusy)

/-! ## 3. Drains -/

theorem Core.afterDrain (h : Core final queue owner hand) : Core final (queue.afterDrain deps) owner hand := by
  obtain ⟨flushTimer, lifecycleAttached, heq⟩ := afterDrain_eq deps queue
  rw [heq]
  exact h.timer _ _

/-- A caller that is between two awaits, and owns the drain. -/
structure Running (final : QueuedExposure → Prop) (queue : ExposureQueue) (id : Nat) (caller : Caller)
    (hand : List QueuedExposure) : Prop where
  core : Core final queue (some id) hand
  lt : id < queue.nextCaller
  closing : caller.kind = .close → queue.closed = true

theorem Running.settle {id : Nat} {caller : Caller} (h : Running final queue id caller [])
    (result : DrainResult) : Inv deps final (queue.settle deps id caller result) := by
  obtain ⟨flushTimer, lifecycleAttached, heq⟩ := afterDrain_eq deps queue
  have hcore : Core final (queue.afterDrain deps) (some id) [] := h.core.afterDrain
  have harmed : (queue.afterDrain deps).automaticFlushAllowed = true →
      Armed deps (queue.afterDrain deps) := by
    intro hallowed
    refine afterDrain_armed ?_
    rw [heq] at hallowed
    exact hallowed
  refine hcore.inv_owner ?_ rfl rfl ?_ (fun _ hphase => ?_) fun hallowed => .inl (harmed hallowed)
  · rw [heq]
    exact h.lt
  · rw [heq]
    exact h.closing
  · cases hphase

theorem Running.sendBatch {id : Nat} {caller : Caller} (h : Running final queue id caller [])
    (hpending : queue.pending ≠ [])
    (hmay : queue.retryPolicy.stopped = true → caller.options.automatic = false)
    (progress : Progress) : Inv deps final (queue.sendBatch id caller progress) := by
  have hcore : Core final { queue with
      pending := (takeBatch queue.pending).2
      history := { queue.history with sent := queue.history.sent ++
        [⟨id, caller.options, (takeBatch queue.pending).1, queue.retryPolicy.stopped⟩] } }
      (some id) (takeBatch queue.pending).1 := by
    refine ⟨h.core.active, h.core.fresh, h.core.idle, h.core.closing, fun item => ?_, h.core.answered, h.core.dropped,
      h.core.expired, fun sent hsent => ?_, h.core.attempts⟩
    · have hall := h.core.accounted item
      have hsplit := congrArg (List.count item) (takeBatch_append queue.pending)
      rw [List.count_append] at hsplit
      rw [List.count_nil] at hall
      change queue.history.admitted.count item = (takeBatch queue.pending).1.count item +
        ((takeBatch queue.pending).2.count item + (queue.history.answered.count item +
          (queue.history.dropped.count item + queue.history.expired.count item)))
      omega
    · rcases List.mem_append.mp hsent with hsent | hsent
      · exact h.core.sends sent hsent
      · rw [List.mem_singleton.mp hsent]
        exact ⟨takeBatch_fits hpending, hmay⟩
  exact hcore.inv_owner h.lt rfl rfl h.closing (fun _ hphase => (by cases hphase)) fun _ => .inr rfl

theorem Running.log {id : Nat} {caller : Caller} (h : Running final queue id caller hand)
    (logs : List LogEntry) : Running final (queue.log logs) id caller hand :=
  ⟨h.core.log logs, h.lt, h.closing⟩

/-- **A drain** at the head of its loop sends a batch, or is over. -/
theorem Running.drainPending {id : Nat} {caller : Caller} (h : Running final queue id caller [])
    (hmay : queue.retryPolicy.stopped = true → caller.options.automatic = false)
    (progress : Progress) : Inv deps final (queue.drainPending deps id caller progress) := by
  rw [ExposureQueue.drainPending]
  split_ifs with hempty
  · exact h.settle _
  · simp only
    split_ifs with hlimit
    · exact (h.log _).settle _
    · exact h.sendBatch (mt List.length_eq_zero_iff.mpr hempty) hmay progress

/-- No caller owns a drain. -/
structure Idle (final : QueuedExposure → Prop) (queue : ExposureQueue) (id : Nat) (caller : Caller) :
    Prop where
  core : Core final queue none []
  lt : id < queue.nextCaller
  closing : caller.kind = .close → queue.closed = true

theorem Core.inv_idle (h : Core final queue none []) (harmed : queue.automaticFlushAllowed = true →
    Armed deps queue ∨ Busy queue) : Inv deps final queue := by
  refine ⟨⟨?_, fun id hid => ?_⟩, harmed⟩
  · have hflight : queue.inFlight = [] := by simp [inFlight, h.active]
    rw [hflight, h.active]
    exact h
  · rw [h.active] at hid
    cases hid

theorem Idle.leave {id : Nat} {caller : Caller} (h : Idle final queue id caller) (result : DrainResult)
    (harmed : queue.automaticFlushAllowed = true → Armed deps (queue.leave id caller result) ∨
      Busy (queue.leave id caller result)) : Inv deps final (queue.leave id caller result) := by
  have hcore : Core final { queue with queuedDrains := queue.queuedDrains - 1 } none [] :=
    ⟨h.core.active, h.core.fresh, h.core.idle, h.core.closing, h.core.accounted, h.core.answered, h.core.dropped,
      h.core.expired, h.core.sends, h.core.attempts⟩
  refine Core.inv_idle (hcore.setCaller h.lt (fun c hc _ => ?_) fun c hc => ?_) harmed
  · cases hc
    rfl
  · cases hc
    exact h.closing

/-- **A caller that may drain** sends a batch, or there is nothing for it to send. It leaves at once
where the client has expired or the queue has been stopped; otherwise it becomes the one that drains. -/
theorem Idle.startDrain {id : Nat} {caller : Caller} (h : Idle final queue id caller) :
    Inv deps final (queue.startDrain deps id caller) := by
  rw [ExposureQueue.startDrain]
  split
  · next error hexpiry =>
    refine h.leave _ fun hallowed => ?_
    simp [automaticFlushAllowed, hexpiry] at hallowed
  · next hexpiry =>
    split_ifs with hstopped
    · refine h.leave _ fun hallowed => ?_
      simp only [Bool.and_eq_true] at hstopped
      simp [automaticFlushAllowed, hstopped.2] at hallowed
    · have hrunning : Running final { queue with activeDrain := some id } id caller [] :=
        ⟨⟨rfl, h.core.fresh, fun other c hc _ => h.core.idle other c hc (by simp), h.core.closing,
          h.core.accounted, h.core.answered, h.core.dropped, h.core.expired, h.core.sends, h.core.attempts⟩,
          h.lt, h.closing⟩
      refine hrunning.drainPending (fun hstop => ?_) _
      change queue.retryPolicy.stopped = true at hstop
      simpa [hstop] using hstopped

/-! ## 4. The answer to a batch -/

theorem Core.policy (h : Core final queue owner hand) {retryPolicy : ExposureRetryPolicy}
    (hattempts : retryPolicy.stopped = false → retryPolicy.attemptCount < MAX_DELIVERY_ATTEMPTS) :
    Core final { queue with retryPolicy } owner hand :=
  ⟨h.active, h.fresh, h.idle, h.closing, h.accounted, h.answered, h.dropped, h.expired, h.sends, hattempts⟩

/-- A policy that goes on is below the bound. -/
theorem recordFailure_attempts {policy : ExposureRetryPolicy} (result : BrowserTransportFailure)
    (h : (policy.recordFailure result).2.1.stopped = false) :
    (policy.recordFailure result).2.1.attemptCount < MAX_DELIVERY_ATTEMPTS := by
  revert h
  rw [ExposureRetryPolicy.recordFailure]
  dsimp only
  split_ifs with hstopped hagain
  · intro h
    rw [hstopped] at h
    cases h
  · simp only [Bool.and_eq_true, decide_eq_true_eq] at hagain
    exact fun _ => hagain.2
  · intro h
    cases h
  · intro h
    cases h

theorem Core.recordFailure (h : Core final queue owner hand) (result : BrowserTransportFailure) :
    Core final (queue.recordFailure result) owner hand :=
  (h.policy (recordFailure_attempts result)).log _

theorem Core.retain (h : Core final queue owner hand) : Core final (queue.retain hand) owner [] := by
  refine ⟨h.active, h.fresh, h.idle, h.closing, fun item => ?_, h.answered, h.dropped, h.expired, h.sends,
    h.attempts⟩
  have hall := h.accounted item
  change queue.history.admitted.count item = [].count item + ((hand ++ queue.pending).count item +
    (queue.history.answered.count item +
      (queue.history.dropped.count item + queue.history.expired.count item)))
  rw [List.count_append, List.count_nil]
  omega

/-- What of a batch does not stay is answered. -/
theorem Core.noteAnswered (h : Core final queue owner hand) {keeps : QueuedExposure → Bool}
    {retained : List QueuedExposure} (hretained : retained = hand.filter keeps)
    (hfinal : ∀ item ∈ hand, keeps item = false → final item) :
    Core final (queue.noteAnswered (hand.filter (· ∉ retained))) owner retained := by
  subst hretained
  have hleft : hand.filter (· ∉ hand.filter keeps) = hand.filter fun item => !keeps item := by
    refine List.filter_congr fun item hitem => ?_
    cases hkeeps : keeps item <;> simp [hitem, hkeeps]
  rw [hleft]
  refine ⟨h.active, h.fresh, h.idle, h.closing, fun item => ?_, fun item hitem => ?_, h.dropped,
    h.expired, h.sends, h.attempts⟩
  · have hall := h.accounted item
    have hsplit := List.countP_eq_countP_filter_add hand (· == item) keeps
    change queue.history.admitted.count item = (hand.filter keeps).count item +
      (queue.pending.count item + ((queue.history.answered ++
        hand.filter fun item => !keeps item).count item +
          (queue.history.dropped.count item + queue.history.expired.count item)))
    rw [List.count_append]
    simp only [List.count] at hall hsplit ⊢
    omega
  · rcases List.mem_append.mp hitem with hitem | hitem
    · exact h.answered item hitem
    · obtain ⟨hitem, hkeeps⟩ := List.mem_filter.mp hitem
      exact hfinal item hitem (by simpa using hkeeps)

theorem Core.keepRetained (h : Core final queue owner hand) : Core final (queue.keepRetained hand) owner [] := by
  rw [ExposureQueue.keepRetained]
  split_ifs with hlength
  · exact h.retain
  · rw [List.length_eq_zero_iff.mp (Nat.eq_zero_of_not_pos hlength)] at h
    exact h

theorem Core.discardExpired (h : Core final queue owner hand) (hexpiry : queue.expiryError.isSome = true) :
    Core final (queue.discardExpired hand) owner [] := by
  refine ⟨h.active, h.fresh, h.idle, h.closing, fun item => ?_, h.answered, h.dropped, fun _ => hexpiry, h.sends,
    h.attempts⟩
  have hall := h.accounted item
  change queue.history.admitted.count item = [].count item + (queue.pending.count item +
    (queue.history.answered.count item + (queue.history.dropped.count item +
      (queue.history.expired ++ hand).count item)))
  rw [List.count_append, List.count_nil]
  omega

theorem Core.expire (h : Core final queue owner hand) (error : SplitchSdkError) :
    Core final (queue.expire error) owner hand := by
  refine ⟨h.active, h.fresh, h.idle, h.closing, fun item => ?_, h.answered, h.dropped, fun _ => rfl, h.sends,
    h.attempts⟩
  have hall := h.accounted item
  change queue.history.admitted.count item = hand.count item + ([].count item +
    (queue.history.answered.count item + (queue.history.dropped.count item +
      (queue.history.expired ++ queue.pending).count item)))
  rw [List.count_append, List.count_nil]
  omega

/-- What an answer leaves as it is. -/
structure SameCallers (queue queue' : ExposureQueue) : Prop where
  callers : queue'.callers = queue.callers
  nextCaller : queue'.nextCaller = queue.nextCaller
  closed : queue'.closed = queue.closed

theorem SameCallers.trans {queue queue' queue'' : ExposureQueue} (h : SameCallers queue queue')
    (h' : SameCallers queue' queue'') : SameCallers queue queue'' :=
  ⟨h'.callers.trans h.callers, h'.nextCaller.trans h.nextCaller, h'.closed.trans h.closed⟩

theorem keepRetained_same (queue : ExposureQueue) (retained : List QueuedExposure) :
    SameCallers queue (queue.keepRetained retained) := by
  rw [ExposureQueue.keepRetained]
  split_ifs <;> exact ⟨rfl, rfl, rfl⟩

theorem remediationForFailure_attempts {policy : ExposureRetryPolicy} {closed : Bool}
    (hpolicy : policy.stopped = false → policy.attemptCount < MAX_DELIVERY_ATTEMPTS)
    (result : BrowserTransportFailure)
    (h : (policy.remediationForFailure result closed).2.1.stopped = false) :
    (policy.remediationForFailure result closed).2.1.attemptCount < MAX_DELIVERY_ATTEMPTS := by
  revert h
  rw [ExposureRetryPolicy.remediationForFailure]
  split_ifs with hclosed
  · exact hpolicy
  · exact recordFailure_attempts result

/-- What a batch leaves behind: nothing in hand, and a policy that goes on after a success. -/
structure BatchDone (final : QueuedExposure → Prop) (queue queue' : ExposureQueue)
    (owner : Option Nat) (end' : BatchEnd) : Prop where
  core : Core final queue' owner []
  same : SameCallers queue queue'
  going : ∀ completed, end' = .returned completed false → queue'.retryPolicy.stopped = false

theorem Core.finishBatch (h : Core final queue owner []) (result : BrowserTransportFailure)
    (outcome : BatchOutcome) :
    BatchDone final queue (queue.finishBatch result outcome).1 owner (queue.finishBatch result outcome).2 := by
  rw [ExposureQueue.finishBatch]
  dsimp only
  split_ifs with hunmatched hnone hretained
  · exact ⟨(h.recordFailure _).log _, ⟨rfl, rfl, rfl⟩, fun _ hend => (by cases hend)⟩
  · exact ⟨(h.recordFailure _).log _, ⟨rfl, rfl, rfl⟩, fun _ hend => (by cases hend)⟩
  · exact ⟨h.recordFailure _, ⟨rfl, rfl, rfl⟩, fun _ hend => (by cases hend)⟩
  · exact ⟨h.policy fun _ => (by decide), ⟨rfl, rfl, rfl⟩, fun _ _ => rfl⟩

/-- **An answer** puts every item of the batch in its place: an item is final, or it is kept for
another try, or it was dropped with the client. An answer that cannot be read counts as a failure and
keeps all of them. -/
theorem Core.redeem {batch : List QueuedExposure} (h : Core final queue owner batch)
    {reply : Except String BrowserExposuresResult}
    (hfinal : ∀ item, Settles deps reply item → final item) :
    BatchDone final queue (queue.redeemPendingExposureBatch deps batch reply).1 owner
      (queue.redeemPendingExposureBatch deps batch reply).2 := by
  rw [redeemPendingExposureBatch]
  split
  · next error hexpiry =>
    exact ⟨h.discardExpired (by rw [hexpiry]; rfl), ⟨rfl, rfl, rfl⟩, fun _ hend => (by cases hend)⟩
  · dsimp only
    split_ifs with hexpired
    · exact ⟨((h.expire _).discardExpired rfl).log _, ⟨rfl, rfl, rfl⟩, fun _ hend => (by cases hend)⟩
    · split
      · exact ⟨(h.retain.policy (remediationForFailure_attempts h.attempts _)).log _, ⟨rfl, rfl, rfl⟩,
          fun _ hend => (by cases hend)⟩
      · next results hresults =>
        split
        · exact ⟨(h.retain.recordFailure _).log _, ⟨rfl, rfl, rfl⟩, fun _ hend => (by cases hend)⟩
        · next outcome houtcome =>
          obtain ⟨retained, hretained, heq⟩ := bind_eq_ok.mp houtcome
          obtain ⟨hstays, hrows⟩ := retainRetryableExposures_ok hretained
          have hretain : outcome.retained = batch.filter (stays deps.isErrorCode results) := by
            rw [← pure_eq_ok.mp heq, hstays]
          have hnoted := (h.log (logRejected batch results (redeemExposureBatch reply).status)).noteAnswered
            hretain fun item hitem hgoes =>
              hfinal item ⟨results, hresults, (hrows item hitem).trans (congrArg Except.ok hgoes)⟩
          have hdone := hnoted.keepRetained.finishBatch
            (redeemExposureBatch reply).toBrowserTransportFailure outcome
          have hkept := (keepRetained_same _ outcome.retained).trans hdone.same
          exact ⟨hdone.core, ⟨hkept.callers, hkept.nextCaller, hkept.closed⟩, hdone.going⟩

/-! ## 5. Steps of callers -/

/-- A caller in an own phase is the owner. -/
theorem Sound.active_of_owns (h : Sound final queue) {id : Nat} {caller : Caller}
    (hcaller : queue.callers id = some caller) (howns : caller.phase.owns = true) :
    queue.activeDrain = some id := by
  by_contra hne
  rw [h.core.idle id caller hcaller hne] at howns
  cases howns

theorem Sound.running (h : Sound final queue) {id : Nat} {caller : Caller}
    (hcaller : queue.callers id = some caller) (howns : caller.phase.owns = true) :
    Running final queue id caller caller.phase.batch := by
  have hactive := h.active_of_owns hcaller howns
  have hcore := h.core
  rw [inFlight_of_active queue hactive hcaller, hactive] at hcore
  exact ⟨hcore, h.core.lt_of_caller hcaller, h.core.closing id caller hcaller⟩

theorem Sound.idle (h : Sound final queue) (hactive : queue.activeDrain = none) : Core final queue none [] := by
  have hflight : queue.inFlight = [] := by simp [inFlight, hactive]
  have hcore := h.core
  rwa [hflight, hactive] at hcore

/-- A caller without a drain goes to another phase without one. -/
theorem Sound.setCaller (h : Sound final queue) {id : Nat} (hid : id < queue.nextCaller)
    (hactive : queue.activeDrain ≠ some id) {caller : Option Caller}
    (howns : ∀ c, caller = some c → c.phase.owns = false)
    (hclosing : ∀ c, caller = some c → c.kind = .close → queue.closed = true) :
    Sound final (queue.setCaller id caller) := by
  have hcallers : ∀ other, queue.activeDrain = some other →
      (queue.setCaller id caller).callers other = queue.callers other := by
    intro other hother
    refine Function.update_of_ne ?_ _ _
    rintro rfl
    exact hactive hother
  have hflight : (queue.setCaller id caller).inFlight = queue.inFlight := by
    rw [inFlight, inFlight]
    cases hdrain : queue.activeDrain with
    | none => simp [ExposureQueue.setCaller, hdrain]
    | some other =>
      have hsame : (queue.setCaller id caller).activeDrain = some other := hdrain
      simp only [hsame, hcallers other hdrain]
  refine ⟨?_, fun other hother => ?_⟩
  · rw [hflight]
    exact h.core.setCaller hid (fun c hc _ => howns c hc) hclosing
  · rw [hcallers other hother]
    exact h.owner other hother

theorem busy_setCaller_other {id : Nat} {caller : Option Caller} (h : Busy queue)
    (hid : ∀ c, queue.callers id = some c → c.phase.busy = false) :
    Busy (queue.setCaller id caller) := by
  obtain ⟨other, c, hc, hbusy⟩ := h
  have hne : other ≠ id := by
    rintro rfl
    rw [hid c hc] at hbusy
    cases hbusy
  exact ⟨other, c, (Function.update_of_ne hne _ _).trans hc, hbusy⟩

theorem answer_inv (h : Inv deps final queue) (id : Nat) {reply : Except String BrowserExposuresResult}
    (hfinal : ∀ item, Settles deps reply item → final item) :
    Inv deps final (queue.answer deps id reply) := by
  rw [answer]
  split
  · exact h
  · next caller hcaller =>
    split
    · next batch progress hphase =>
      have hrunning := h.toSound.running hcaller (by rw [hphase]; rfl)
      rw [hphase] at hrunning
      have hdone : BatchDone final queue (queue.redeemPendingExposureBatch deps batch reply).1 (some id)
          (queue.redeemPendingExposureBatch deps batch reply).2 := hrunning.core.redeem hfinal
      have hlt : id < (queue.redeemPendingExposureBatch deps batch reply).1.nextCaller := by
        rw [hdone.same.nextCaller]
        exact hrunning.lt
      have hclosing : caller.kind = .close →
          (queue.redeemPendingExposureBatch deps batch reply).1.closed = true := by
        rw [hdone.same.closed]
        exact hrunning.closing
      rcases hpair : queue.redeemPendingExposureBatch deps batch reply with ⟨queue', error | rest⟩
      · rw [hpair] at hdone hlt hclosing
        exact hdone.core.inv_owner hlt rfl rfl hclosing (fun _ hphase => (by cases hphase))
          fun _ => .inr rfl
      · rw [hpair] at hdone hlt hclosing
        refine hdone.core.inv_owner hlt rfl rfl hclosing (fun _ hphase => ?_) fun _ => .inr rfl
        cases hphase
        exact hdone.going _ rfl
    · exact h

/-- The owner gives the drain up. -/
theorem Running.release {id : Nat} {caller : Caller} (h : Running final queue id caller [])
    (result : DrainResult) :
    Core final (leave { queue with activeDrain := none } id caller result) none [] := by
  refine ⟨rfl, fun other hother => ?_, fun other c hc _ => ?_, fun other c hc hkind => ?_,
    h.core.accounted, h.core.answered, h.core.dropped, h.core.expired, h.core.sends, h.core.attempts⟩
  · have hlt := h.lt
    change queue.nextCaller ≤ other at hother
    change Function.update queue.callers id _ other = none
    rw [Function.update_of_ne (by omega)]
    exact h.core.fresh other hother
  · change Function.update queue.callers id _ other = some c at hc
    rcases eq_or_ne other id with rfl | hne
    · rw [Function.update_self] at hc
      cases hc
      rfl
    · rw [Function.update_of_ne hne] at hc
      exact h.core.idle other c hc fun heq => hne (Option.some.inj heq).symm
  · change Function.update queue.callers id _ other = some c at hc
    rcases eq_or_ne other id with rfl | hne
    · rw [Function.update_self] at hc
      cases hc
      exact h.closing hkind
    · rw [Function.update_of_ne hne] at hc
      exact h.core.closing other c hc hkind

theorem Core.trim (h : Core final queue owner hand) : Core final queue.trimFailedOverflow owner hand := by
  have hcount : ∀ item, queue.history.admitted.count item = hand.count item +
      ((queue.pending.take EXPOSURE_BATCH_MAX_ITEMS).count item + (queue.history.answered.count item +
        ((queue.history.dropped ++ queue.pending.drop EXPOSURE_BATCH_MAX_ITEMS).count item +
          queue.history.expired.count item))) := by
    intro item
    have hall := h.accounted item
    have hsplit := congrArg (List.count item)
      (List.take_append_drop EXPOSURE_BATCH_MAX_ITEMS queue.pending)
    rw [List.count_append] at hsplit
    rw [List.count_append]
    omega
  rw [trimFailedOverflow]
  dsimp only
  split_ifs with hlost
  · refine ⟨h.active, h.fresh, h.idle, h.closing, hcount, h.answered, fun item hitem => ?_, h.expired, h.sends,
      h.attempts⟩
    rcases List.mem_append.mp hitem with hitem | hitem
    · exact h.dropped item hitem
    · rw [List.length_eq_zero_iff.mp hlost] at hitem
      cases hitem
  · refine ⟨h.active, h.fresh, h.idle, h.closing, hcount, h.answered, fun item hitem => ?_, h.expired, h.sends,
      h.attempts⟩
    rcases List.mem_append.mp hitem with hitem | hitem
    · obtain ⟨lost, kept, hmem, hentry⟩ := h.dropped item hitem
      exact ⟨lost, kept, hmem, List.mem_append_left _ hentry⟩
    · exact ⟨_, _, hitem, List.mem_append_right _ (List.mem_singleton_self _)⟩

theorem trim_pending : queue.trimFailedOverflow.pending = queue.pending.take EXPOSURE_BATCH_MAX_ITEMS := by
  rw [trimFailedOverflow]
  dsimp only
  split_ifs <;> rfl

/-- What a trim leaves as it is. -/
theorem trim_same (queue : ExposureQueue) : SameCallers queue queue.trimFailedOverflow ∧
    queue.trimFailedOverflow.activeDrain = queue.activeDrain ∧
    queue.trimFailedOverflow.retryPolicy = queue.retryPolicy ∧
    queue.trimFailedOverflow.flushTimer = queue.flushTimer ∧
    queue.trimFailedOverflow.lifecycleAttached = queue.lifecycleAttached ∧
    queue.trimFailedOverflow.expiryError = queue.expiryError := by
  rw [trimFailedOverflow]
  dsimp only
  split_ifs <;> exact ⟨⟨rfl, rfl, rfl⟩, rfl, rfl, rfl, rfl, rfl⟩

theorem Inv.trim (h : Inv deps final queue) : Inv deps final queue.trimFailedOverflow := by
  obtain ⟨hsame, hactive, hpolicy, htimer, hpage, hexpiry⟩ := trim_same queue
  have hflight : queue.trimFailedOverflow.inFlight = queue.inFlight := by
    rw [inFlight, inFlight, hactive, hsame.callers]
  refine ⟨⟨?_, ?_⟩, fun hallowed => ?_⟩
  · rw [hflight, hactive]
    exact h.core.trim
  · rw [hactive, hsame.callers, hpolicy]
    exact h.owner
  · have hbefore : queue.automaticFlushAllowed = true := by
      rw [automaticFlushAllowed, trim_pending, hexpiry, hpolicy, hsame.closed] at hallowed
      rw [automaticFlushAllowed]
      simp only [Bool.and_eq_true, decide_eq_true_eq, List.length_take, gt_iff_lt,
        Nat.lt_min] at hallowed ⊢
      exact ⟨⟨hallowed.1.1, hallowed.1.2.2⟩, hallowed.2⟩
    rw [Armed, Busy, htimer, hpage, hsame.callers]
    exact h.armed hbefore

/-- A caller that is done is let go. -/
theorem Inv.letGo (h : Inv deps final queue) {id : Nat} {caller : Caller}
    (hcaller : queue.callers id = some caller) {result : DrainResult}
    (hphase : caller.phase = .ended result) : Inv deps final (queue.setCaller id none) := by
  have hactive : queue.activeDrain ≠ some id := by
    intro hactive
    obtain ⟨owner, howner, howns, -⟩ := h.owner id hactive
    obtain rfl : caller = owner := Option.some.inj (hcaller.symm.trans howner)
    rw [hphase] at howns
    cases howns
  refine ⟨h.toSound.setCaller (h.core.lt_of_caller hcaller) hactive (fun _ hc => (by cases hc))
    fun _ hc => (by cases hc), fun hallowed => ?_⟩
  rcases h.armed hallowed with harmed | hbusy
  · exact .inl harmed
  · refine .inr (busy_setCaller_other hbusy fun c hc => ?_)
    obtain rfl : caller = c := Option.some.inj (hcaller.symm.trans hc)
    rw [hphase]
    rfl

theorem continueCaller_inv (h : Inv deps final queue) {id : Nat} {caller : Caller}
    (hcaller : queue.callers id = some caller) {result : DrainResult}
    (hphase : caller.phase = .ended result) :
    Inv deps final ((queue.continueCaller caller.kind result).setCaller id none) := by
  have htrim : Inv deps final (queue.trimFailedOverflow.setCaller id none) := by
    have hsame : queue.trimFailedOverflow.callers id = some caller := by
      rw [(trim_same queue).1.callers]
      exact hcaller
    exact h.trim.letGo hsame hphase
  unfold continueCaller
  split
  · exact h.letGo hcaller hphase
  · exact h.letGo hcaller hphase
  · next hkind =>
    have hclosed := h.core.closing id caller hcaller hkind
    have hdetached : Inv deps final queue.detachLifecycle := by
      refine ⟨⟨h.core.timer _ _, h.owner⟩, fun hallowed => ?_⟩
      change queue.automaticFlushAllowed = true at hallowed
      simp [automaticFlushAllowed, hclosed] at hallowed
    exact hdetached.letGo hcaller hphase
  · split
    · split_ifs
      · exact h.letGo hcaller hphase
      · exact htrim
    · exact htrim

theorem resume_inv (h : Inv deps final queue) (id : Nat) : Inv deps final (queue.resume deps id) := by
  rw [resume]
  split
  · exact h
  · next caller hcaller =>
    have hlt := h.core.lt_of_caller hcaller
    have hclosing := h.core.closing id caller hcaller
    split
    · next hphase =>
      split_ifs with hactive
      · exact h
      · exact Idle.startDrain ⟨h.toSound.idle (by simpa using hactive), hlt, hclosing⟩
    · exact h
    · next retainedForRetry progress hphase =>
      have howns : caller.phase.owns = true := by
        rw [hphase]
        rfl
      have hrunning := h.toSound.running hcaller howns
      rw [hphase] at hrunning
      split_ifs with hbreak
      · exact hrunning.settle _
      · refine hrunning.drainPending (fun hstopped => ?_) progress
        -- a drain goes on only while delivery has not stopped
        obtain ⟨owner, howner, -, hgoing⟩ := h.owner id (h.toSound.active_of_owns hcaller howns)
        obtain rfl : caller = owner := Option.some.inj (hcaller.symm.trans howner)
        cases retainedForRetry with
        | true => simp [hstopped] at hbreak
        | false => simp [hgoing progress hphase] at hstopped
    · next error hphase =>
      have hrunning := h.toSound.running hcaller (by rw [hphase]; rfl)
      rw [hphase] at hrunning
      exact hrunning.settle _
    · next result hphase =>
      have howns : caller.phase.owns = true := by
        rw [hphase]
        rfl
      have hrunning := h.toSound.running hcaller howns
      rw [hphase] at hrunning
      rw [if_pos (h.toSound.active_of_owns hcaller howns)]
      refine (hrunning.release result).inv_idle fun hallowed => ?_
      rcases h.armed hallowed with harmed | hbusy
      · exact .inl harmed
      · refine .inr (busy_setCaller_other hbusy fun c hc => ?_)
        obtain rfl : caller = c := Option.some.inj (hcaller.symm.trans hc)
        rw [hphase]
        rfl
    · next result hphase => exact continueCaller_inv h hcaller hphase

/-! ## 6. Steps of calls -/

/-- A queue may be changed where no caller is. -/
theorem Sound.enqueueDrain (h : Sound final queue) {kind : CallerKind} (options : DrainOptions)
    (hclosing : kind = .close → queue.closed = true) :
    Inv deps final (queue.enqueueDrain deps kind options) := by
  have hne : queue.activeDrain ≠ some queue.nextCaller := by
    intro hactive
    obtain ⟨caller, hcaller, -⟩ := h.owner _ hactive
    exact absurd (h.core.lt_of_caller hcaller) (Nat.lt_irrefl _)
  have hnext : ∀ queuedDrains, Sound final { queue with nextCaller := queue.nextCaller + 1, queuedDrains } :=
    fun _ => ⟨⟨rfl, fun id hid => h.core.fresh id (by
      change queue.nextCaller + 1 ≤ id at hid
      omega), h.core.idle, h.core.closing, h.core.accounted, h.core.answered, h.core.dropped, h.core.expired,
      h.core.sends, h.core.attempts⟩, h.owner⟩
  have hcaller : ∀ queuedDrains phase, phase.owns = false →
      Sound final (ExposureQueue.setCaller { queue with nextCaller := queue.nextCaller + 1, queuedDrains }
        queue.nextCaller (some ⟨kind, options, phase⟩)) := by
    intro queuedDrains phase howns
    refine (hnext queuedDrains).setCaller (Nat.lt_succ_self _) hne (fun c hc => ?_) fun c hc => ?_
    · cases hc
      exact howns
    · cases hc
      exact hclosing
  rw [ExposureQueue.enqueueDrain]
  dsimp only
  split
  · next error hexpiry =>
    refine ⟨hcaller queue.queuedDrains _ rfl, fun hallowed => ?_⟩
    change queue.automaticFlushAllowed = true at hallowed
    simp [automaticFlushAllowed, hexpiry] at hallowed
  · split_ifs with hactive
    · exact ⟨hcaller _ _ rfl, fun _ => .inr (busy_setCaller rfl)⟩
    · exact Idle.startDrain ⟨(hnext _).idle (by simpa using hactive), Nat.lt_succ_self _, hclosing⟩

theorem Inv.log (h : Inv deps final queue) (logs : List LogEntry) : Inv deps final (queue.log logs) :=
  ⟨⟨h.core.log logs, h.owner⟩, h.armed⟩

theorem Sound.timer (h : Sound final queue) (flushTimer lifecycleAttached : Bool) :
    Sound final { queue with flushTimer, lifecycleAttached } := ⟨h.core.timer _ _, h.owner⟩

variable (deps) in
theorem Sound.ensure (h : Sound final queue) : Inv deps final ((queue.ensureLifecycle deps).ensureTimer) := by
  have hpage : ∃ lifecycleAttached, queue.ensureLifecycle deps = { queue with lifecycleAttached } ∧
      (queue.automaticFlushAllowed = true →
        lifecycleAttached = true ∨ (deps.hasDocument || deps.hasWindow) = false) := by
    rw [ensureLifecycle]
    split_ifs with hattached htarget
    · refine ⟨_, rfl, fun hallowed => ?_⟩
      simp only [hallowed, Bool.not_true, Bool.or_false] at hattached
      exact .inl hattached
    · exact ⟨_, rfl, fun _ => .inl rfl⟩
    · exact ⟨_, rfl, fun _ => .inr (by simpa using htarget)⟩
  obtain ⟨lifecycleAttached, heq, harmed⟩ := hpage
  rw [heq, ensureTimer]
  split_ifs with htimer
  · refine ⟨h.timer _ _, fun hallowed => .inl ⟨?_, harmed hallowed⟩⟩
    simp only [hallowed, Bool.not_true, Bool.or_false] at htimer
    exact htimer
  · exact ⟨h.timer _ _, fun hallowed => .inl ⟨rfl, harmed hallowed⟩⟩

/-- An Exposure is let in. -/
theorem Sound.letIn (h : Sound final queue) (item : QueuedExposure) (enqueuedFlags : List String) :
    Sound final { queue with
      enqueuedFlags
      pending := queue.pending ++ [item]
      history := { queue.history with admitted := queue.history.admitted ++ [item] } } := by
  refine ⟨⟨rfl, h.core.fresh, h.core.idle, h.core.closing, fun other => ?_, h.core.answered, h.core.dropped,
    h.core.expired, h.core.sends, h.core.attempts⟩, h.owner⟩
  have hall := h.core.accounted other
  change (queue.history.admitted ++ [item]).count other = queue.inFlight.count other +
    ((queue.pending ++ [item]).count other + (queue.history.answered.count other +
      (queue.history.dropped.count other + queue.history.expired.count other)))
  rw [List.count_append, List.count_append]
  omega

/-- An Exposure that is let in sets the timer and the page. -/
theorem enqueue_inv (h : Inv deps final queue) (flagKey exposureTicket : String) (minted : Option String)
    (clientTimestamp : String) :
    Inv deps final (queue.enqueue deps flagKey exposureTicket minted clientTimestamp).2 := by
  rw [enqueue]
  split_ifs with hclosed
  · exact h.log _
  · unfold admitExposure
    by_cases hflag : flagKey ∈ queue.enqueuedFlags
    · simp only [if_pos hflag]
      exact h
    · simp only [if_neg hflag]
      cases minted with
      | none => exact h.log _
      | some exposureId =>
        have hensured := (h.toSound.letIn ⟨flagKey, exposureId, exposureTicket, clientTimestamp⟩
          (queue.enqueuedFlags ++ [flagKey])).ensure deps
        dsimp only
        split_ifs
        · exact hensured.toSound.enqueueDrain _ fun hkind => (by cases hkind)
        · exact hensured

theorem rearm_inv (h : Inv deps final queue) (flagKeys : List String) : Inv deps final (queue.rearm flagKeys) :=
  ⟨⟨⟨rfl, h.core.fresh, h.core.idle, h.core.closing, h.core.accounted, h.core.answered, h.core.dropped, h.core.expired,
    h.core.sends, h.core.attempts⟩, h.owner⟩, h.armed⟩

theorem expire_inv (h : Inv deps final queue) (error : SplitchSdkError) : Inv deps final (queue.expire error) := by
  refine ⟨⟨h.core.expire error, h.owner⟩, fun hallowed => ?_⟩
  simp [automaticFlushAllowed, expire, clearTimer, detachLifecycle] at hallowed

theorem close_inv (h : Inv deps final queue) : Inv deps final (queue.close deps) := by
  rw [close]
  split_ifs
  · exact h
  · exact h
  · have hclosed : Sound final { queue with closed := true } :=
      ⟨⟨rfl, h.core.fresh, h.core.idle, fun _ _ _ _ => rfl, h.core.accounted, h.core.answered, h.core.dropped,
        h.core.expired, h.core.sends, h.core.attempts⟩, h.owner⟩
    exact (hclosed.timer _ _).enqueueDrain _ fun _ => rfl

theorem step_inv (h : Inv deps final queue) {event : Event}
    (hfinal : ∀ id reply, event = .answer id reply → ∀ item, Settles deps reply item → final item) :
    Inv deps final (queue.step deps event) := by
  cases event with
  | enqueue flagKey exposureTicket minted clientTimestamp => exact enqueue_inv h _ _ _ _
  | rearm flagKeys => exact rearm_inv h flagKeys
  | flush =>
    simp only [step, flush]
    split_ifs
    · exact h
    · exact h.toSound.enqueueDrain _ fun hkind => (by cases hkind)
  | close => exact close_inv h
  | expire error => exact expire_inv h error
  | timer =>
    simp only [step, onTimer]
    split_ifs
    · exact (h.toSound.timer _ _).enqueueDrain _ fun hkind => (by cases hkind)
    · exact h
  | pageHide =>
    simp only [step, onPageEvent]
    split_ifs
    · exact h.toSound.enqueueDrain _ fun hkind => (by cases hkind)
    · exact h
  | hidden =>
    simp only [step, onPageEvent]
    split_ifs
    · exact h.toSound.enqueueDrain _ fun hkind => (by cases hkind)
    · exact h
  | answer id reply => exact answer_inv h id (hfinal id reply rfl)
  | resume id => exact resume_inv h id

theorem new_inv : Inv deps final .new := by
  have hcore : Core final .new none [] := by
    refine ⟨rfl, fun _ _ => rfl, ?_, ?_, fun _ => rfl, ?_, ?_, ?_, ?_, fun _ => by decide⟩ <;>
      simp [new]
  refine ⟨⟨hcore, fun _ hactive => (by cases hactive)⟩, fun hallowed => ?_⟩
  simp [automaticFlushAllowed, new] at hallowed

end ExposureQueue

end Browser

end Splitch
