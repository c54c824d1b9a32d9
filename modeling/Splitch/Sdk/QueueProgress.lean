/-
# Every drain of the Exposure queue ends

Calls of `flush` and `close` await a drain, drains await one another, and each may send many batches: that
all of them return is no matter of one call.  What could keep them from it is a hand-off that leaves a
waiter behind, or two callers that wait for each other.

Each caller has a bound for the steps that it may still make, by the await that it is at (`Phase.left`).  A
drain sends at most so many batches (`batchLimit`), and each batch takes an answer and a resumption; what
follows a drain is a constant.  A step that gets a caller on leaves that caller with less
(`moves_resume`), and touches no other one, so the sum over all callers falls (`left_step_lt`).  The
invariant behind it is that no caller has sent more batches than the limit (`Bounded`).

The other half is that nobody is stuck.  A caller that is not in flight can be resumed, except a waiter
while a drain is active; but then the active drain has an owner, and the owner itself can be resumed or
answered.  So where no productive step is left there is no caller at all (`no_caller`).

Together: as long as callers are only resumed and answered, in any order and with any answers, the number
of steps is bounded by a number computed from the state, and behind the last one every call has returned
(`drains_end`).  New calls are left out of such a run, as they bring new work.
-/
import Splitch.Sdk.QueueRuns

namespace Splitch

namespace Browser

open ExposureQueue

variable {deps : ExposureQueueDeps} {queue : ExposureQueue}

/-! ## 1. What is left to do -/

variable (deps) in
def batchLimit : Nat := deps.maxBatchesPerDrain.getD MAX_BATCHES_PER_DRAIN

variable (deps) in
/-- A bound for the steps of a caller. -/
def Phase.left : Phase → Nat
  | .waiting => 2 * batchLimit deps + 3
  | .redeeming _ progress => 2 * (batchLimit deps - progress.batches) + 2
  | .answered _ progress => 2 * (batchLimit deps - progress.batches) + 3
  | .threw _ => 3
  | .settled _ => 2
  | .ended _ => 1

variable (deps) in
def leftOf (caller : Option Caller) : Nat := (caller.map fun caller => caller.phase.left deps).getD 0

variable (deps) in
def left (queue : ExposureQueue) : Nat :=
  ∑ id ∈ Finset.range queue.nextCaller, leftOf deps (queue.callers id)

/-- A caller goes on, or is answered. -/
inductive Productive (queue : ExposureQueue) : Event → Prop
  | resume {id : Nat} {caller : Caller} (hcaller : queue.callers id = some caller)
      (hphase : ∀ batch progress, caller.phase ≠ .redeeming batch progress)
      (hfree : caller.phase = .waiting → queue.activeDrain = none) : Productive queue (.resume id)
  | answer {id : Nat} {caller : Caller} {batch : List QueuedExposure} {progress : Progress}
      (hcaller : queue.callers id = some caller) (hphase : caller.phase = .redeeming batch progress)
      (reply : Except String BrowserExposuresResult) : Productive queue (.answer id reply)

/-- Whether the event gets a caller on. -/
def productive (queue : ExposureQueue) : Event → Bool
  | .resume id =>
    match queue.callers id with
    | none => false
    | some caller =>
      match caller.phase with
      | .redeeming _ _ => false
      | .waiting => queue.activeDrain.isNone
      | _ => true
  | .answer id _ =>
    match queue.callers id with
    | some ⟨_, _, .redeeming _ _⟩ => true
    | _ => false
  | _ => false

theorem productive_iff {event : Event} : productive queue event = true ↔ Productive queue event := by
  constructor
  · intro h
    cases event with
    | resume id =>
      cases hcaller : queue.callers id with
      | none => simp [productive, hcaller] at h
      | some caller =>
        cases hphase : caller.phase with
        | redeeming batch progress => simp [productive, hcaller, hphase] at h
        | waiting =>
          refine .resume hcaller (by simp [hphase]) fun _ => ?_
          simpa [productive, hcaller, hphase] using h
        | _ => exact .resume hcaller (by simp [hphase]) (by simp [hphase])
    | answer id reply =>
      simp only [productive] at h
      split at h
      · next hcaller => exact .answer hcaller rfl reply
      · cases h
    | _ => cases h
  · rintro (⟨hcaller, hphase, hfree⟩ | ⟨hcaller, hphase, reply⟩)
    · next id caller =>
      cases hcase : caller.phase with
      | redeeming batch progress => exact absurd hcase (hphase batch progress)
      | waiting => simp [productive, hcaller, hcase, hfree hcase]
      | _ => simp [productive, hcaller, hcase]
    · next id caller batch progress =>
      obtain ⟨kind, options, phase⟩ := caller
      cases hphase
      simp [productive, hcaller]

instance (event : Event) : Decidable (Productive queue event) := decidable_of_iff _ productive_iff

/-! ## 2. Steps of one caller -/

variable (deps) in
/-- One caller goes to a phase with less to do; what is sent is within the limit. -/
structure Moves (queue queue' : ExposureQueue) (id bound : Nat) : Prop where
  nextCaller : queue'.nextCaller = queue.nextCaller
  callers : ∃ caller, queue'.callers = Function.update queue.callers id caller ∧
    leftOf deps caller < bound ∧ ∀ c batch progress, caller = some c →
      c.phase = .redeeming batch progress → progress.batches < batchLimit deps

theorem Moves.of_same {queue₀ queue' : ExposureQueue} {id bound : Nat}
    (h : Moves deps queue₀ queue' id bound) (hcallers : queue₀.callers = queue.callers)
    (hnext : queue₀.nextCaller = queue.nextCaller) : Moves deps queue queue' id bound := by
  obtain ⟨hnextCaller, caller, heq, hleft, hsent⟩ := h
  exact ⟨hnextCaller.trans hnext, caller, hcallers ▸ heq, hleft, hsent⟩

theorem moves_settle (id : Nat) (caller : Caller) (result : DrainResult) {bound : Nat}
    (hbound : 2 < bound) : Moves deps queue (queue.settle deps id caller result) id bound := by
  obtain ⟨flushTimer, lifecycleAttached, heq⟩ := afterDrain_eq deps queue
  rw [settle, heq]
  refine ⟨rfl, _, rfl, hbound, fun c batch progress hc hphase => ?_⟩
  cases hc
  cases hphase

theorem moves_drainPending (id : Nat) (caller : Caller) (progress : Progress) {bound : Nat}
    (hbound : 2 * (batchLimit deps - progress.batches) + 2 < bound) :
    Moves deps queue (queue.drainPending deps id caller progress) id bound := by
  rw [drainPending]
  split_ifs with hempty
  · exact moves_settle id caller _ (by omega)
  · simp only
    split_ifs with hlimit
    · exact (moves_settle id caller _ (by omega)).of_same rfl rfl
    · refine ⟨rfl, _, rfl, hbound, fun c batch progress' hc hphase => ?_⟩
      cases hc
      cases hphase
      exact Nat.lt_of_not_le hlimit

theorem moves_leave (id : Nat) (caller : Caller) (result : DrainResult) {bound : Nat}
    (hbound : 1 < bound) : Moves deps queue (queue.leave id caller result) id bound := by
  refine ⟨rfl, _, rfl, hbound, fun c batch progress hc hphase => ?_⟩
  cases hc
  cases hphase

theorem moves_startDrain (id : Nat) (caller : Caller) :
    Moves deps queue (queue.startDrain deps id caller) id (2 * batchLimit deps + 3) := by
  rw [startDrain]
  split
  · exact moves_leave id caller _ (by omega)
  · split_ifs
    · exact moves_leave id caller _ (by omega)
    · exact (moves_drainPending id caller ⟨0, []⟩ (by simp)).of_same rfl rfl

theorem continueCaller_same (queue : ExposureQueue) (kind : CallerKind) (result : DrainResult) :
    (queue.continueCaller kind result).callers = queue.callers ∧
      (queue.continueCaller kind result).nextCaller = queue.nextCaller := by
  obtain ⟨hsame, -⟩ := trim_same queue
  unfold continueCaller
  split
  · exact ⟨rfl, rfl⟩
  · exact ⟨rfl, rfl⟩
  · exact ⟨rfl, rfl⟩
  · split
    · split_ifs
      · exact ⟨rfl, rfl⟩
      · exact ⟨hsame.callers, hsame.nextCaller⟩
    · exact ⟨hsame.callers, hsame.nextCaller⟩

variable (deps) in
/-- **A productive step** leaves its caller with less to do. What is left is counted in phases that
may still follow, two for each batch that the caller may still send; a caller that waits goes on only
where no other one is draining. -/
theorem moves_resume {id : Nat} {caller : Caller} (hcaller : queue.callers id = some caller)
    (hphase : ∀ batch progress, caller.phase ≠ .redeeming batch progress)
    (hfree : caller.phase = .waiting → queue.activeDrain = none) :
    Moves deps queue (queue.resume deps id) id (leftOf deps (queue.callers id)) := by
  rw [resume, hcaller]
  dsimp only
  split
  · next hwaiting =>
    rw [hfree hwaiting, if_neg (by simp)]
    have hbound : leftOf deps (some caller) = 2 * batchLimit deps + 3 := by
      simp [leftOf, hwaiting, Phase.left]
    rw [hbound]
    exact moves_startDrain id caller
  · next batch progress hredeeming => exact absurd hredeeming (hphase batch progress)
  · next retainedForRetry progress hanswered =>
    have hbound : leftOf deps (some caller) = 2 * (batchLimit deps - progress.batches) + 3 := by
      simp [leftOf, hanswered, Phase.left]
    rw [hbound]
    split_ifs
    · exact moves_settle id caller _ (by omega)
    · exact moves_drainPending id caller progress (by omega)
  · next error hthrew =>
    have hbound : leftOf deps (some caller) = 3 := by simp [leftOf, hthrew, Phase.left]
    rw [hbound]
    exact moves_settle id caller _ (by omega)
  · next result hsettled =>
    have hbound : leftOf deps (some caller) = 2 := by simp [leftOf, hsettled, Phase.left]
    rw [hbound]
    exact (moves_leave id caller result (by omega)).of_same rfl rfl
  · next result hended =>
    have hbound : leftOf deps (some caller) = 1 := by simp [leftOf, hended, Phase.left]
    obtain ⟨hcallers, hnext⟩ := continueCaller_same queue caller.kind result
    rw [hbound]
    refine ⟨hnext, none, ?_, Nat.zero_lt_one, fun c _ _ hc => (by cases hc)⟩
    rw [setCaller, hcallers]

/-! ## 3. Batches within the limit -/

variable (deps) in
def Bounded (queue : ExposureQueue) : Prop :=
  ∀ id caller batch progress, queue.callers id = some caller →
    caller.phase = .redeeming batch progress → progress.batches < batchLimit deps

variable {final : QueuedExposure → Prop}

theorem Bounded.update (h : Bounded deps queue) {queue' : ExposureQueue} {id : Nat}
    {caller : Option Caller} (hcallers : queue'.callers = Function.update queue.callers id caller)
    (hsent : ∀ c batch progress, caller = some c → c.phase = .redeeming batch progress →
      progress.batches < batchLimit deps) : Bounded deps queue' := by
  intro other c batch progress hc hphase
  rw [hcallers] at hc
  rcases eq_or_ne other id with rfl | hne
  · rw [Function.update_self] at hc
    exact hsent c batch progress hc hphase
  · rw [Function.update_of_ne hne] at hc
    exact h other c batch progress hc hphase

theorem Bounded.moves (h : Bounded deps queue) {queue' : ExposureQueue} {id bound : Nat}
    (hmoves : Moves deps queue queue' id bound) : Bounded deps queue' := by
  obtain ⟨-, caller, hcallers, -, hsent⟩ := hmoves
  exact h.update hcallers hsent

theorem Bounded.enqueueDrain (h : Bounded deps queue) (kind : CallerKind) (options : DrainOptions) :
    Bounded deps (queue.enqueueDrain deps kind options) := by
  rw [ExposureQueue.enqueueDrain]
  dsimp only
  split
  · refine h.update rfl fun c batch progress hc hphase => ?_
    cases hc
    cases hphase
  · split_ifs
    · refine h.update rfl fun c batch progress hc hphase => ?_
      cases hc
      cases hphase
    · have hcounted : Bounded deps { queue with
          nextCaller := queue.nextCaller + 1, queuedDrains := queue.queuedDrains + 1 } := h
      exact hcounted.moves (moves_startDrain _ _)

/-- An answer takes its caller out of flight. -/
theorem answer_callers (h : ExposureQueue.Inv deps final queue) {id : Nat} {caller : Caller}
    {batch : List QueuedExposure} {progress : Progress} (hcaller : queue.callers id = some caller)
    (hphase : caller.phase = .redeeming batch progress)
    (reply : Except String BrowserExposuresResult) :
    (queue.answer deps id reply).nextCaller = queue.nextCaller ∧ ∃ caller',
      (queue.answer deps id reply).callers = Function.update queue.callers id (some caller') ∧
        caller'.phase.left deps ≤ 2 * (batchLimit deps - (progress.batches + 1)) + 3 ∧
          ∀ batch progress, caller'.phase ≠ .redeeming batch progress := by
  have hrunning := h.toSound.running hcaller (by rw [hphase]; rfl)
  rw [hphase] at hrunning
  have hcore : Core (fun _ => True) queue (some id) batch :=
    ⟨hrunning.core.active, hrunning.core.fresh, hrunning.core.idle, hrunning.core.closing,
      hrunning.core.accounted, fun _ _ => trivial, hrunning.core.dropped, hrunning.core.expired,
      hrunning.core.sends, hrunning.core.attempts⟩
  have hdone : BatchDone (fun _ => True) queue (queue.redeemPendingExposureBatch deps batch reply).1 _
      (queue.redeemPendingExposureBatch deps batch reply).2 := hcore.redeem fun _ _ => trivial
  have hsame := hdone.same
  rw [answer, hcaller]
  simp only [hphase]
  rcases hpair : queue.redeemPendingExposureBatch deps batch reply with ⟨queue', error | rest⟩
  · rw [hpair] at hsame
    refine ⟨hsame.nextCaller, _, congrArg (Function.update · id _) hsame.callers, ?_, fun _ _ hne => ?_⟩
    · exact Nat.le_add_left _ _
    · cases hne
  · rw [hpair] at hsame
    refine ⟨hsame.nextCaller, _, congrArg (Function.update · id _) hsame.callers, le_rfl,
      fun _ _ hne => ?_⟩
    cases hne

theorem Bounded.ensure (h : Bounded deps queue) :
    Bounded deps ((queue.ensureLifecycle deps).ensureTimer) := by
  rw [ensureLifecycle, ensureTimer]
  split_ifs <;> exact h

theorem Bounded.enqueue (h : Bounded deps queue) (flagKey exposureTicket : String)
    (minted : Option String) (clientTimestamp : String) :
    Bounded deps (queue.enqueue deps flagKey exposureTicket minted clientTimestamp).2 := by
  rw [ExposureQueue.enqueue]
  split_ifs
  · exact h
  · unfold admitExposure
    by_cases hflag : flagKey ∈ queue.enqueuedFlags
    · simp only [if_pos hflag]
      exact h
    · simp only [if_neg hflag]
      cases minted with
      | none => exact h
      | some exposureId =>
        have hadmitted : Bounded deps { queue with
            enqueuedFlags := queue.enqueuedFlags ++ [flagKey]
            pending := queue.pending ++ [⟨flagKey, exposureId, exposureTicket, clientTimestamp⟩]
            history := { queue.history with admitted := queue.history.admitted ++
              [⟨flagKey, exposureId, exposureTicket, clientTimestamp⟩] } } := h
        dsimp only
        split_ifs
        · exact hadmitted.ensure.enqueueDrain _ _
        · exact hadmitted.ensure

/-- A resumption that is not productive does nothing. -/
theorem resume_eq_self {id : Nat} (h : ¬Productive queue (.resume id)) :
    queue.resume deps id = queue := by
  rw [resume]
  split
  · rfl
  · next caller hcaller =>
    split
    · next hwaiting =>
      rw [if_pos]
      by_contra hfree
      refine h (.resume hcaller (fun _ _ hne => ?_) fun _ => by simpa using hfree)
      rw [hwaiting] at hne
      cases hne
    · rfl
    all_goals
      next hphase =>
      refine absurd (Productive.resume hcaller (fun _ _ hne => ?_) fun hwaiting => ?_) h
      · rw [hphase] at hne
        cases hne
      · rw [hphase] at hwaiting
        cases hwaiting

theorem answer_eq_self {id : Nat} {reply : Except String BrowserExposuresResult}
    (h : ¬Productive queue (.answer id reply)) : queue.answer deps id reply = queue := by
  rw [answer]
  split
  · rfl
  · next caller hcaller =>
    split
    · next batch progress hphase => exact absurd (.answer hcaller hphase reply) h
    · rfl

theorem bounded_step (hinv : ExposureQueue.Inv deps final queue) (h : Bounded deps queue) (event : Event) :
    Bounded deps (queue.step deps event) := by
  cases event with
  | enqueue flagKey exposureTicket minted clientTimestamp => exact h.enqueue _ _ _ _
  | rearm flagKeys => exact h
  | flush =>
    simp only [step, flush]
    split_ifs
    · exact h
    · exact h.enqueueDrain _ _
  | close =>
    simp only [step, close]
    split_ifs
    · exact h
    · exact h
    · have hclosed : Bounded deps (clearTimer { queue with closed := true }) := h
      exact hclosed.enqueueDrain _ _
  | expire error => exact h
  | timer =>
    simp only [step, onTimer]
    split_ifs
    · have hcleared : Bounded deps queue.clearTimer := h
      exact hcleared.enqueueDrain _ _
    · exact h
  | pageHide =>
    simp only [step, onPageEvent]
    split_ifs
    · exact h.enqueueDrain _ _
    · exact h
  | hidden =>
    simp only [step, onPageEvent]
    split_ifs
    · exact h.enqueueDrain _ _
    · exact h
  | answer id reply =>
    by_cases hproductive : Productive queue (.answer id reply)
    · cases hproductive with
      | answer hcaller hphase =>
        obtain ⟨-, caller', hcallers, -, hphase'⟩ := answer_callers hinv hcaller hphase reply
        refine h.update hcallers fun c batch progress hc hredeeming => ?_
        cases hc
        exact absurd hredeeming (hphase' batch progress)
    · rw [step, answer_eq_self hproductive]
      exact h
  | resume id =>
    by_cases hproductive : Productive queue (.resume id)
    · cases hproductive with
      | resume hcaller hphase hfree => exact h.moves (moves_resume deps hcaller hphase hfree)
    · rw [step, resume_eq_self hproductive]
      exact h

/-! ## 4. The end of the drains -/

theorem sum_update_lt {f g : Nat → Nat} {n id : Nat} (hid : id < n) (hlt : g id < f id)
    (hsame : ∀ other, other ≠ id → g other = f other) :
    ∑ i ∈ Finset.range n, g i < ∑ i ∈ Finset.range n, f i := by
  refine Finset.sum_lt_sum (fun other _ => ?_) ⟨id, Finset.mem_range.mpr hid, hlt⟩
  rcases eq_or_ne other id with rfl | hne
  · exact hlt.le
  · exact (hsame other hne).le

/-- A productive step leaves less to do. -/
theorem left_step_lt (hinv : ExposureQueue.Inv deps final queue) (h : Bounded deps queue) {event : Event}
    (hproductive : Productive queue event) : left deps (queue.step deps event) < left deps queue := by
  have hlt : ∀ {queue' : ExposureQueue} {id : Nat} {caller : Option Caller},
      (∃ caller, queue.callers id = some caller) → queue'.nextCaller = queue.nextCaller →
      queue'.callers = Function.update queue.callers id caller →
      leftOf deps caller < leftOf deps (queue.callers id) → left deps queue' < left deps queue := by
    rintro queue' id caller ⟨found, hfound⟩ hnext hcallers hless
    rw [left, left, hnext, hcallers]
    refine sum_update_lt (hinv.core.lt_of_caller hfound) ?_ fun other hne => ?_
    · rw [Function.update_self]
      exact hless
    · rw [Function.update_of_ne hne]
  cases hproductive with
  | @resume id caller hcaller hphase hfree =>
    obtain ⟨hnext, caller', hcallers, hless, -⟩ := moves_resume deps hcaller hphase hfree
    exact hlt ⟨caller, hcaller⟩ hnext hcallers hless
  | @answer id caller batch progress hcaller hphase reply =>
    obtain ⟨hnext, caller', hcallers, hless, -⟩ := answer_callers hinv hcaller hphase reply
    have hlimit := h id caller batch progress hcaller hphase
    refine hlt ⟨caller, hcaller⟩ hnext hcallers ?_
    have hbefore : leftOf deps (queue.callers id) =
        2 * (batchLimit deps - progress.batches) + 2 := by
      simp [leftOf, hcaller, hphase, Phase.left]
    have hafter : leftOf deps (some caller') = caller'.phase.left deps := rfl
    omega

/-- Where no step is productive, no caller is left. -/
theorem no_caller (hinv : ExposureQueue.Inv deps final queue) (h : ∀ event, ¬Productive queue event) :
    (∀ id, queue.callers id = none) ∧ queue.activeDrain = none := by
  have howner : queue.activeDrain = none := by
    by_contra hactive
    obtain ⟨id, hid⟩ := Option.ne_none_iff_exists'.mp hactive
    obtain ⟨caller, hcaller, howns, -⟩ := hinv.owner id hid
    cases hphase : caller.phase with
    | waiting =>
      rw [hphase] at howns
      cases howns
    | ended result =>
      rw [hphase] at howns
      cases howns
    | redeeming batch progress => exact h _ (.answer hcaller hphase (.error ""))
    | _ => exact h _ (.resume hcaller (by simp [hphase]) (by simp [hphase]))
  refine ⟨fun id => ?_, howner⟩
  by_contra hne
  obtain ⟨caller, hcaller⟩ := Option.ne_none_iff_exists'.mp hne
  cases hphase : caller.phase with
  | redeeming batch progress => exact h _ (.answer hcaller hphase (.error ""))
  | _ => exact h _ (.resume hcaller (by simp [hphase]) fun _ => howner)

theorem steps_le_left {rest : List Event} (hinv : ExposureQueue.Inv deps (fun _ => True) queue)
    (hbounded : Bounded deps queue) (hrest : (exposureQueue deps).Guarded Productive queue rest) :
    rest.length ≤ left deps queue ∧
      ExposureQueue.Inv deps (fun _ => True) ((exposureQueue deps).exec queue rest) := by
  induction rest generalizing queue with
  | nil => exact ⟨Nat.zero_le _, hinv⟩
  | cons event rest ih =>
    obtain ⟨hproductive, hrest⟩ := hrest
    have hless := left_step_lt hinv hbounded hproductive
    obtain ⟨hle, hend⟩ := ih (step_inv hinv fun _ _ _ _ _ => trivial)
      (bounded_step hinv hbounded event) hrest
    refine ⟨?_, hend⟩
    change rest.length ≤ left deps (queue.step deps event) at hle
    rw [List.length_cons]
    omega

variable (deps) in
/-- **Every drain ends**: as long as callers are only resumed and answered, in any order and with any
answers, the steps are bounded, and when none is left every call has returned, and the timer and the page
are set if there is something to send. -/
theorem drains_end (events rest : List Event)
    (hrest : (exposureQueue deps).Guarded Productive ((exposureQueue deps).run events) rest) :
    rest.length ≤ left deps ((exposureQueue deps).run events) ∧
      let queue := (exposureQueue deps).exec ((exposureQueue deps).run events) rest
      (∀ event, ¬Productive queue event) → (∀ id, queue.callers id = none) ∧
        queue.activeDrain = none ∧ (queue.automaticFlushAllowed = true → Armed deps queue) := by
  have hrun : ExposureQueue.Inv deps (fun _ => True) ((exposureQueue deps).run events) ∧
      Bounded deps ((exposureQueue deps).run events) := by
    refine (exposureQueue deps).exec_invariant
      (I := fun queue => ExposureQueue.Inv deps (fun _ => True) queue ∧ Bounded deps queue)
      (fun queue event h => ⟨step_inv h.1 fun _ _ _ _ _ => trivial, bounded_step h.1 h.2 event⟩)
      ⟨new_inv, fun _ _ _ _ hcaller => ?_⟩ events
    cases hcaller
  obtain ⟨hle, hinv⟩ := steps_le_left hrun.1 hrun.2 hrest
  refine ⟨hle, fun hdone => ?_⟩
  obtain ⟨hcallers, hactive⟩ := no_caller hinv hdone
  refine ⟨hcallers, hactive, fun hallowed => ?_⟩
  rcases hinv.armed hallowed with harmed | ⟨id, caller, hcaller, -⟩
  · exact harmed
  · rw [hcallers id] at hcaller
    cases hcaller

/-- A page with its events, and a contract with one code. -/
def oneCodeDeps : ExposureQueueDeps := ⟨true, true, none, fun code => code = "SERVICE_UNAVAILABLE"⟩

/-- An Exposure is enqueued, and flushed by two calls at once. -/
def flushedTwice : List Event :=
  [.enqueue "checkout" "ticket" (some "exp-1") "2026-07-01T00:00:00.000Z", .flush, .flush]

/-- It is answered, and both calls go on to their ends. -/
def settledTwice : List Event :=
  [.answer 0 (.ok ⟨⟨some 200, none, none⟩, some [⟨"exp-1", "accepted", none⟩]⟩), .resume 0, .resume 0,
    .resume 0, .resume 1, .resume 1, .resume 1]

theorem drains_end_flushed :
    let queue := (exposureQueue oneCodeDeps).run flushedTwice
    settledTwice.length ≤ left oneCodeDeps queue ∧
      let queue := (exposureQueue oneCodeDeps).exec queue settledTwice
      (∀ event, ¬Productive queue event) → (∀ id, queue.callers id = none) ∧
        queue.activeDrain = none ∧ (queue.automaticFlushAllowed = true → Armed oneCodeDeps queue) :=
  drains_end oneCodeDeps flushedTwice settledTwice (by decide +kernel)

end Browser

end Splitch
