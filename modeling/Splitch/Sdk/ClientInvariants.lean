/-
# What every step of a browser client keeps

What a client promises is about runs in which everything is concurrent: the answer to the first request may
come after a close, a revalidation may come back when the Environment has long expired, and the queue may
expire on its own and tell the client.  All of it follows from one invariant.

Its centre is what the client HOLDS against what it has RECEIVED.  As long as the Environment has not
expired, what is held mirrors the payload that came last: the same Flags with equal resolutions and the same
tickets, but with the older one of two equal values (`Core.mirrors`).  A revalidation that is on its way
names the ETag of that payload (`Core.ticking`), and the expiry keeps the ETag although it replaces the
entries (`expire_etag`).

A client that holds nothing is quiet: it has exposed nothing, no batch is in flight, and the revalidation
loop is off (`Core.quiet`, `Core.started`).  That is what makes the first payload safe, since it comes to a
client for which nothing has begun (`initialized_inv`).

Exposures and logged faults are counted against the reports of changes: a Flag is exposed once, and once more
for each report and each drop, and the flag that the queue still notes is the one in hand (`Core.exposed`,
`Core.logged`).  Arming and noting are on the two sides of this count, so each of them keeps it.

Last, client and queue expire together (`ExpiredWith`), which is no part of the core: inside a step one of
them is ahead of the other.
-/
import Splitch.Sdk.BrowserClient
import Splitch.Sdk.QueueLedger

namespace Splitch

namespace Browser

variable {N : Type} [DecidableEq N]

/-! ## 1. Parts -/

/-- What is held is the payload, as it came. -/
structure Mirrors (held payload : HeldPayload N) : Prop where
  etag : held.etag = payload.etag
  entryOf : ∀ flagKey,
    Option.Rel Follows (held.evaluations.entryOf flagKey) (payload.evaluations.entryOf flagKey)

omit [DecidableEq N] in
theorem Mirrors.refl (payload : HeldPayload N) : Mirrors payload payload := by
  refine ⟨rfl, fun flagKey => ?_⟩
  cases payload.evaluations.entryOf flagKey with
  | none => exact .none
  | some entry => exact .some (.refl entry)

namespace BrowserPayloadStore

variable {store : BrowserPayloadStore N} {payload : HeldPayload N}

theorem swap_mirrors : Option.Rel Mirrors (store.swap payload).1.held (some payload) :=
  .some ⟨rfl, fun _ => swap_follows⟩

theorem expire_etag : store.expire.1.held.map (·.etag) = store.held.map (·.etag) := by
  unfold expire
  split
  · rfl
  · next held hheld =>
    rw [hheld]
    rfl

theorem expire_held_eq_none : store.expire.1.held = none ↔ store.held = none := by
  rw [← Option.map_eq_none_iff (f := fun held : HeldPayload N => held.etag), expire_etag, Option.map_eq_none_iff]

omit [DecidableEq N] in
@[simp] theorem subscribe_held (flagKey : String) (listener : Nat) :
    (store.subscribe flagKey listener).held = store.held := by
  unfold subscribe
  split <;> rfl

omit [DecidableEq N] in
@[simp] theorem unsubscribe_held (flagKey : String) (listener id : Nat) :
    (store.unsubscribe flagKey listener id).held = store.held := by
  unfold unsubscribe
  split
  · rfl
  · split_ifs <;> rfl

end BrowserPayloadStore

theorem mem_rearmHeldResolutionLogs {loggedResolutions flagKeys : List String} {flagKey : String}
    {kind : HeldResolutionKind} (hkind : kind ∈ LOGGED_RESOLUTION_KINDS) :
    dedupeKey flagKey kind ∈ rearmHeldResolutionLogs loggedResolutions flagKeys ↔
      dedupeKey flagKey kind ∈ loggedResolutions ∧ flagKey ∉ flagKeys := by
  rw [rearmHeldResolutionLogs, List.mem_filter, decide_eq_true_eq]
  refine and_congr_right' (not_congr ?_)
  simp only [List.mem_flatMap, List.mem_map]
  constructor
  · rintro ⟨other, hother, kind', -, heq⟩
    rwa [(dedupeKey_inj heq).1] at hother
  · exact fun hmem => ⟨flagKey, hmem, kind, hkind, rfl⟩

namespace BrowserClient

/-! ## 2. The invariant -/

/-- The Exposures of a Flag. -/
def exposures (flagKey : String) (items : List QueuedExposure) : Nat := items.countP (·.flagKey = flagKey)

/-- The logs of a kind of fault of a Flag. -/
def faults (flagKey : String) (kind : HeldResolutionKind)
    (logged : List (String × HeldResolutionKind × SplitchSdkError)) : Nat :=
  logged.countP fun fault => fault.1 = flagKey ∧ fault.2.1 = kind

/-- A payload gives the Exposure its ticket, with a Variant of its Flag. -/
def Issues (payload : HeldPayload N) (item : QueuedExposure) : Prop :=
  ∃ entry, payload.evaluations.entryOf item.flagKey = some entry ∧
    entry.exposureTicket = some item.exposureTicket ∧ entry.reason ≠ .ERROR ∧ entry.variant ≠ .null

/-- The queue has expired with the error, and holds nothing then. -/
structure ExpiredWith (queue : ExposureQueue) (expiryError : Option SplitchSdkError) : Prop where
  same : queue.expiryError = expiryError
  spent : expiryError.isSome = true → queue.pending = []

structure Core (client : BrowserClient N) : Prop where
  stopped : client.expiryError.isSome = true → client.loop.stopped = true
  halted : client.loop.stopped = true → client.loop.phase ≠ .scheduled
  started : client.loop.phase ≠ .off → client.store.held ≠ none
  pending : client.initPromise = .pending → client.store.held = none ∧ client.expiryError = none
  quiet : client.store.held = none → client.queue.pending = [] ∧ ¬client.queue.Redeems
  etag : client.store.held.map (·.etag) = client.history.received.getLast?.map (·.etag)
  mirrors : client.expiryError = none →
    Option.Rel Mirrors client.store.held client.history.received.getLast?
  ticking : ∀ etag, client.loop.phase = .ticking etag →
    client.history.received.getLast?.map (·.etag) = some etag
  tickets : ∀ item ∈ client.queue.history.admitted, ∃ payload ∈ client.history.received, Issues payload item
  exposed : ∀ flagKey, exposures flagKey client.queue.history.admitted ≤
    client.history.changed.count flagKey + exposures flagKey client.queue.history.dropped +
      if flagKey ∈ client.queue.enqueuedFlags then 1 else 0
  logged : ∀ flagKey, ∀ kind ∈ LOGGED_RESOLUTION_KINDS, faults flagKey kind client.history.faults ≤
    client.history.changed.count flagKey +
      if dedupeKey flagKey kind ∈ client.loggedResolutions then 1 else 0

structure Inv (client : BrowserClient N) : Prop extends Core client where
  expiry : ExpiredWith client.queue client.expiryError

variable {deps : BrowserClientDeps N} {client : BrowserClient N}

/-! ## 3. Parts of a step -/

omit [DecidableEq N] in
theorem Core.queue (h : Core client) {queue : ExposureQueue} (hframe : client.queue.Frame queue) :
    Core { client with queue } where
  stopped := h.stopped
  halted := h.halted
  started := h.started
  pending := h.pending
  quiet hheld := by
    obtain ⟨hpending, hredeems⟩ := h.quiet hheld
    exact ⟨hframe.pending hpending, fun hredeems' => hredeems (hframe.redeems hredeems' hpending)⟩
  etag := h.etag
  mirrors := h.mirrors
  ticking := h.ticking
  tickets item hitem := h.tickets item (hframe.admitted ▸ hitem)
  exposed flagKey := by
    change exposures flagKey queue.history.admitted ≤ _ + exposures flagKey queue.history.dropped +
      if flagKey ∈ queue.enqueuedFlags then 1 else 0
    rw [hframe.admitted, hframe.dropped, hframe.enqueuedFlags]
    exact h.exposed flagKey
  logged := h.logged

omit [DecidableEq N] in
theorem Inv.queue (h : Inv client) {queue : ExposureQueue} (hframe : client.queue.Frame queue) :
    Inv { client with queue } :=
  ⟨h.toCore.queue hframe, hframe.expiryError.trans h.expiry.same,
    fun hexpired => hframe.pending (h.expiry.spent hexpired)⟩

omit [DecidableEq N] in
theorem Core.trims (h : Core client) {queue : ExposureQueue} {lost : List QueuedExposure}
    (htrims : client.queue.Trims queue lost) : Core { client with queue } where
  stopped := h.stopped
  halted := h.halted
  started := h.started
  pending := h.pending
  quiet hheld := by
    obtain ⟨hpending, hredeems⟩ := h.quiet hheld
    exact ⟨htrims.pending hpending, fun hredeems' => hredeems (htrims.redeems hredeems')⟩
  etag := h.etag
  mirrors := h.mirrors
  ticking := h.ticking
  tickets item hitem := h.tickets item (htrims.admitted ▸ hitem)
  exposed flagKey := by
    change exposures flagKey queue.history.admitted ≤ _ + exposures flagKey queue.history.dropped +
      if flagKey ∈ queue.enqueuedFlags then 1 else 0
    have hexposed := h.exposed flagKey
    rw [htrims.admitted, htrims.dropped, htrims.enqueuedFlags]
    by_cases hlost : flagKey ∈ lost.map (·.flagKey)
    · have hpos : 0 < exposures flagKey lost := by
        obtain ⟨item, hitem, hflag⟩ := List.mem_map.mp hlost
        exact List.countP_pos_iff.mpr ⟨item, hitem, by simpa using hflag⟩
      have happend : exposures flagKey (client.queue.history.dropped ++ lost) =
          exposures flagKey client.queue.history.dropped + exposures flagKey lost := List.countP_append
      simp only [List.mem_filter, hlost, not_true, decide_false, Bool.false_eq_true, and_false, if_false]
      split_ifs at hexposed <;> omega
    · have happend : exposures flagKey (client.queue.history.dropped ++ lost) =
          exposures flagKey client.queue.history.dropped + exposures flagKey lost := List.countP_append
      simp only [List.mem_filter, hlost, not_false_eq_true, decide_true, and_true]
      omega
  logged := h.logged

omit [DecidableEq N] in
theorem Core.keeps (h : Core client) {queue : ExposureQueue} (hkeeps : client.queue.Keeps queue)
    (hidle : ¬client.queue.Redeems → queue = client.queue) : Core { client with queue } where
  stopped := h.stopped
  halted := h.halted
  started := h.started
  pending := h.pending
  quiet hheld := by
    have hquiet := h.quiet hheld
    change queue.pending = [] ∧ ¬queue.Redeems
    rw [hidle hquiet.2]
    exact hquiet
  etag := h.etag
  mirrors := h.mirrors
  ticking := h.ticking
  tickets item hitem := h.tickets item (hkeeps.admitted ▸ hitem)
  exposed flagKey := by
    change exposures flagKey queue.history.admitted ≤ _ + exposures flagKey queue.history.dropped +
      if flagKey ∈ queue.enqueuedFlags then 1 else 0
    rw [hkeeps.admitted, hkeeps.dropped, hkeeps.enqueuedFlags]
    exact h.exposed flagKey
  logged := h.logged

omit [DecidableEq N] in
/-- The loop may go where a client that holds a payload lets it. -/
theorem Core.loop (h : Core client) {loop : RevalidationLoop}
    (hstopped : client.loop.stopped = true → loop.stopped = true)
    (hhalted : loop.stopped = true → loop.phase ≠ .scheduled)
    (hstarted : loop.phase ≠ .off → client.store.held ≠ none)
    (hticking : ∀ etag, loop.phase = .ticking etag → client.loop.phase = .ticking etag) :
    Core { client with loop } :=
  ⟨fun hexpired => hstopped (h.stopped hexpired), hhalted, hstarted, h.pending, h.quiet, h.etag, h.mirrors,
    fun etag hphase => h.ticking etag (hticking etag hphase), h.tickets, h.exposed, h.logged⟩

omit [DecidableEq N] in
theorem Core.stop (h : Core client) : Core { client with loop := client.loop.stop } := by
  refine h.loop (fun _ => rfl) (fun _ => ?_) (fun hphase => h.started fun hoff => hphase ?_) fun etag hphase => ?_
  · rw [RevalidationLoop.stop]
    dsimp only
    split_ifs with hscheduled
    · simp
    · exact hscheduled
  · simp [RevalidationLoop.stop, hoff]
  · rw [RevalidationLoop.stop] at hphase
    dsimp only at hphase
    split_ifs at hphase
    exact hphase

omit [DecidableEq N] in
theorem Core.start (h : Core client) (hheld : client.store.held ≠ none) (intervalMs : ℚ) :
    Core { client with loop := client.loop.start intervalMs } := by
  rw [RevalidationLoop.start]
  split_ifs with hoff
  · exact h
  · simp only [Bool.or_eq_true, not_or, Bool.not_eq_true] at hoff
    rw [RevalidationLoop.schedule, if_neg (by simp [hoff.1.2])]
    exact h.loop (fun hstopped => hstopped) (fun hstopped => by simp [hoff.1.2] at hstopped) (fun _ => hheld)
      fun _ hphase => by cases hphase

omit [DecidableEq N] in
theorem Core.reschedule (h : Core client) : Core client.reschedule := by
  rw [BrowserClient.reschedule]
  split_ifs with hticked
  · have hheld := h.started (by rw [hticked]; simp)
    rw [RevalidationLoop.schedule]
    split_ifs with hstopped
    · exact h.loop (fun hstopped => hstopped) (fun _ => by simp) (fun _ => hheld) fun _ hphase => by cases hphase
    · exact h.loop (fun hstopped => hstopped) (fun hstopped' => absurd hstopped' hstopped) (fun _ => hheld)
        fun _ hphase => by cases hphase
  · exact h

omit [DecidableEq N] in
theorem Core.ticked (h : Core client) (hheld : client.store.held ≠ none) : Core (client.setPhase .ticked) :=
  h.loop (fun hstopped => hstopped) (fun _ => by simp) (fun _ => hheld) fun _ hphase => by cases hphase

omit [DecidableEq N] in
/-- Listeners and the mark of a failed revalidation do not count. -/
theorem Core.store (h : Core client) {store : BrowserPayloadStore N} (hheld : store.held = client.store.held) :
    Core { client with store } := by
  refine ⟨h.stopped, h.halted, ?_, ?_, ?_, ?_, ?_, h.ticking, h.tickets, h.exposed, h.logged⟩
  all_goals dsimp only; rw [hheld]
  · exact h.started
  · exact h.pending
  · exact h.quiet
  · exact h.etag
  · exact h.mirrors

omit [DecidableEq N] in
theorem Core.loudly (h : Core client) (error : SplitchSdkError) : Core (client.loudly error) :=
  ⟨h.stopped, h.halted, h.started, h.pending, h.quiet, h.etag, h.mirrors, h.ticking, h.tickets, h.exposed,
    h.logged⟩

omit [DecidableEq N] in
theorem Core.notify (h : Core client) (flagKeys : List String) : Core (client.notify flagKeys) :=
  ⟨h.stopped, h.halted, h.started, h.pending, h.quiet, h.etag, h.mirrors, h.ticking, h.tickets, h.exposed,
    h.logged⟩

/-! ## 4. Expiry -/

/-- **A client expires** with its queue: the loop stops, the queue drops what it holds, and the store
lets go of the payload. The listeners are told last, when all of this has been done. -/
theorem Core.expire (h : Core client)
    (hagree : client.expiryError.isSome = true → ExpiredWith client.queue client.expiryError)
    (hpromise : client.initPromise ≠ .pending) (error : SplitchSdkError) : Inv (client.expire error) := by
  rw [BrowserClient.expire]
  split_ifs with hexpired
  · exact ⟨h, hagree hexpired⟩
  · have hstop := h.stop
    have hcore : Core { client with
        expiryError := some error
        loop := client.loop.stop
        queue := client.queue.expire error
        store := client.store.expire.1 } := by
      refine ⟨fun _ => rfl, hstop.halted, fun hphase hheld => ?_, fun hpending => absurd hpending hpromise,
        fun hheld => ?_, ?_, fun hnone => (by cases hnone), hstop.ticking, h.tickets, h.exposed, h.logged⟩
      · exact hstop.started hphase (BrowserPayloadStore.expire_held_eq_none.mp hheld)
      · exact ⟨rfl, (h.quiet (BrowserPayloadStore.expire_held_eq_none.mp hheld)).2⟩
      · exact BrowserPayloadStore.expire_etag.trans h.etag
    exact ⟨hcore.notify _, rfl, fun _ => rfl⟩

theorem Inv.expireOn (h : Inv client) (hpromise : client.initPromise ≠ .pending)
    (error : Option SplitchSdkError) : Inv (client.expireOn error) := by
  unfold BrowserClient.expireOn
  split
  · exact h
  · split_ifs
    · exact h.toCore.expire (fun _ => h.expiry) hpromise _
    · exact h

omit [DecidableEq N] in
theorem Inv.loudly (h : Inv client) (error : SplitchSdkError) : Inv (client.loudly error) :=
  ⟨h.toCore.loudly error, h.expiry⟩

theorem Inv.onFailure (h : Inv client) (hpromise : client.initPromise ≠ .pending)
    (error : Option SplitchSdkError) : Inv (client.onFailure error) :=
  have hexpired := h.expireOn hpromise error
  ⟨hexpired.toCore.store rfl, hexpired.expiry⟩

theorem Inv.fail (h : Inv client) (hpromise : client.initPromise ≠ .pending) (error : SplitchSdkError) :
    Inv (client.fail error) := by
  have hfailed := (h.loudly error).onFailure hpromise (some error)
  rw [BrowserClient.fail]
  split_ifs
  · exact ⟨hfailed.toCore.stop, hfailed.expiry⟩
  · exact hfailed

omit [DecidableEq N] in
theorem Inv.held_of_promise (h : Inv client) (hheld : client.store.held ≠ none) :
    client.initPromise ≠ .pending := fun hpending => hheld (h.pending hpending).1

/-! ## 5. The steps of a client -/

omit [DecidableEq N] in
theorem init_inv (h : Inv client) (minted : Option String) : Inv (client.init deps minted) := by
  unfold init
  split_ifs with hexpired hheld hpromise
  · exact h
  · exact ⟨h.toCore.start (by simpa [Option.isSome_iff_ne_none] using hheld) _, h.expiry⟩
  · exact h
  · cases minted with
    | none => exact h.loudly _
    | some _ =>
      have hnone : client.store.held = none := by simpa using hheld
      refine ⟨⟨h.stopped, h.halted, h.started, fun _ => ⟨hnone, by simpa using hexpired⟩, h.quiet, h.etag,
        h.mirrors, h.ticking, h.tickets, h.exposed, h.logged⟩, h.expiry⟩

theorem initFailed_inv (h : Inv client) (error : Option SplitchSdkError) : Inv (client.initFailed error) := by
  have hunset : Inv { client with initPromise := .unset } :=
    ⟨⟨h.stopped, h.halted, h.started, fun hpending => (by cases hpending), h.quiet, h.etag, h.mirrors,
      h.ticking, h.tickets, h.exposed, h.logged⟩, h.expiry⟩
  have heq : client.initFailed error = expireOn { client with initPromise := .unset } error := by
    unfold initFailed BrowserClient.expireOn
    split
    · rfl
    · simp only [BrowserClient.expire]
      split_ifs <;> rfl
  rw [heq]
  exact hunset.expireOn (by simp) error

/-- **The first payload** comes to a client that holds none, and has exposed nothing. The loop has not
been started either, so the payload is installed before anything could read or renew it. -/
theorem initialized_inv (h : Inv client) (reply : Reply N) : Inv (client.initialized deps reply) := by
  unfold initialized
  split_ifs with hpromise
  · exact h
  · split
    · exact initFailed_inv h _
    · split
      · exact initFailed_inv (h.loudly _) _
      · next result _ payload _ =>
        obtain ⟨hheld, hexpiry⟩ := h.pending (not_not.mp hpromise)
        have hoff : client.loop.phase = .off := by
          by_contra hphase
          exact h.started hphase hheld
        have hinstalled : Core { client with
            store := client.store.setInitial payload
            initPromise := .resolved
            history := { client.history with received := client.history.received ++ [payload] } } := by
          refine ⟨h.stopped, h.halted, fun _ => by simp [BrowserPayloadStore.setInitial],
            fun hpending => (by cases hpending), fun hnone => (by cases hnone), ?_, fun _ => ?_,
            fun etag hphase => ?_, fun item hitem => ?_, h.exposed, h.logged⟩
          · simp [BrowserPayloadStore.setInitial]
          · simp only [BrowserPayloadStore.setInitial, List.getLast?_append, List.getLast?_singleton,
              Option.some_or]
            exact .some (.refl payload)
          · rw [hoff] at hphase
            cases hphase
          · obtain ⟨earlier, hearlier, hissues⟩ := h.tickets item hitem
            exact ⟨earlier, List.mem_append_left _ hearlier, hissues⟩
        exact ⟨hinstalled.start (by simp [BrowserPayloadStore.setInitial]) _, h.expiry⟩

/-- What is armed once more may be done once more. -/
theorem armed_le (armed : Bool) {flagKey : String} {earlier : List String} (changed : List String) {done : Nat}
    (other : Nat)
    (h : done ≤ earlier.count flagKey + other + if armed = true then 1 else 0) :
    done ≤ (earlier ++ changed).count flagKey + other +
      if armed = true ∧ flagKey ∉ changed then 1 else 0 := by
  rw [List.count_append]
  by_cases hchanged : flagKey ∈ changed
  · have hpos := List.count_pos_iff.mpr hchanged
    rw [if_neg fun h => h.2 hchanged]
    split_ifs at h <;> omega
  · simp only [hchanged, not_false_eq_true, and_true]
    omega

theorem onPayload_inv (h : Inv client) (hheld : client.store.held ≠ none)
    (hticked : client.loop.phase = .ticked) (payload : HeldPayload N) : Inv (client.onPayload payload) := by
  have hcore : Core { client with
      store := (client.store.swap payload).1
      loggedResolutions := rearmHeldResolutionLogs client.loggedResolutions (client.store.swap payload).2
      queue := client.queue.rearm (client.store.swap payload).2
      history := { client.history with
        received := client.history.received ++ [payload]
        changed := client.history.changed ++ (client.store.swap payload).2 } } := by
    refine ⟨h.stopped, h.halted, fun _ => by simp [BrowserPayloadStore.swap],
      fun hpending => absurd (h.pending hpending).1 hheld, fun hnone => (by cases hnone), ?_, fun _ => ?_,
      fun etag hphase => ?_, fun item hitem => ?_, fun flagKey => ?_, fun flagKey kind hkind => ?_⟩
    · simp [BrowserPayloadStore.swap]
    · simp only [List.getLast?_append, List.getLast?_singleton, Option.some_or]
      exact BrowserPayloadStore.swap_mirrors
    · rw [hticked] at hphase
      cases hphase
    · obtain ⟨earlier, hearlier, hissues⟩ := h.tickets item hitem
      exact ⟨earlier, List.mem_append_left _ hearlier, hissues⟩
    · have harmed := armed_le (decide (flagKey ∈ client.queue.enqueuedFlags))
        (client.store.swap payload).2 _ (by simpa using h.exposed flagKey)
      simpa [ExposureQueue.rearm, List.mem_filter] using harmed
    · have harmed := armed_le (decide (dedupeKey flagKey kind ∈ client.loggedResolutions))
        (client.store.swap payload).2 0 (by simpa using h.logged flagKey kind hkind)
      simpa [mem_rearmHeldResolutionLogs hkind] using harmed
  exact ⟨hcore.notify _, h.expiry.same, h.expiry.spent⟩

theorem revalidate_inv (h : Inv client) (minted : Option String) : Inv (client.revalidate minted) := by
  unfold revalidate
  split_ifs with hphase
  · exact h
  · rw [not_not] at hphase
    have hheld : client.store.held ≠ none := h.started (by rw [hphase]; simp)
    have hticked : Inv (client.setPhase .ticked) := ⟨h.toCore.ticked hheld, h.expiry⟩
    have hpromise : client.initPromise ≠ .pending := h.held_of_promise hheld
    dsimp only
    split
    · exact (hticked.loudly _).onFailure hpromise _
    · split
      · exact hticked.fail hpromise _
      · next held hsome =>
        have hlast : client.history.received.getLast?.map (·.etag) = some held.etag := by
          rw [← h.etag]
          change client.store.held.map (·.etag) = some held.etag
          rw [show client.store.held = some held from hsome]
          rfl
        exact ⟨⟨h.stopped, fun _ => by simp [setPhase], fun _ => hheld, h.pending, h.quiet, h.etag, h.mirrors,
          fun etag hphase => by cases hphase; exact hlast, h.tickets, h.exposed, h.logged⟩, h.expiry⟩

theorem revalidated_inv (h : Inv client) (reply : Reply N) : Inv (client.revalidated reply) := by
  unfold revalidated
  split
  · next etag hphase =>
    have hheld : client.store.held ≠ none := h.started (by rw [hphase]; simp)
    have hticked : Inv (client.setPhase .ticked) := ⟨h.toCore.ticked hheld, h.expiry⟩
    have hpromise : client.initPromise ≠ .pending := h.held_of_promise hheld
    dsimp only
    split_ifs with hstopped
    · exact hticked
    · split
      · exact hticked.fail hpromise _
      · split_ifs
        · exact ⟨hticked.toCore.store rfl, hticked.expiry⟩
        · split
          · exact onPayload_inv hticked hheld rfl _
          · exact hticked.fail hpromise _
  · exact h

/-! ## 6. Reads -/

omit [DecidableEq N] in
theorem logHeldResolution_inv (h : Inv client) (flagKey : String) (resolution : HeldResolution N) :
    Inv (client.logHeldResolution flagKey resolution) := by
  unfold logHeldResolution
  dsimp only
  split_ifs with hentry hlogged
  · exact h
  · exact h
  · refine ⟨⟨h.stopped, h.halted, h.started, h.pending, h.quiet, h.etag, h.mirrors, h.ticking, h.tickets,
      h.exposed, fun other kind hkind => ?_⟩, h.expiry⟩
    have hbefore := h.logged other kind hkind
    change List.countP _ (client.history.faults ++ [_]) ≤ _
    rw [List.countP_append, List.countP_singleton]
    change faults other kind client.history.faults + _ ≤ _
    by_cases hsame : flagKey = other ∧ resolution.kind = kind
    · obtain ⟨rfl, rfl⟩ := hsame
      rw [if_neg hlogged] at hbefore
      simp only [and_self, decide_true, if_true, List.mem_append, List.mem_singleton, or_true]
      omega
    · rw [if_neg (by simpa using hsame)]
      refine hbefore.trans (Nat.add_le_add_left ?_ _)
      split_ifs with hmem hmem' <;> first | omega | exact absurd (List.mem_append_left _ hmem) hmem'

omit [DecidableEq N] in
theorem same_null {value : JsonText.Json N} (h : value.Same .null) : value = .null := by
  cases h
  rfl

omit [DecidableEq N] in
/-- What is held of a Flag is what came last of it. -/
theorem last_issues (h : Core client) (hexpiry : client.expiryError = none) {flagKey : String}
    {entry : EvaluateAll.EvaluateAllEntry N} (hentry : client.store.entryOf flagKey = some entry) :
    ∃ payload, client.history.received.getLast? = some payload ∧
      ∃ incoming, payload.evaluations.entryOf flagKey = some incoming ∧ Follows entry incoming := by
  have hmirrors := h.mirrors hexpiry
  obtain ⟨held, hheld, hentry⟩ := Option.bind_eq_some_iff.mp hentry
  rw [hheld] at hmirrors
  revert hmirrors
  cases client.history.received.getLast? with
  | none => rintro ⟨⟩
  | some payload =>
    intro hmirrors
    refine ⟨payload, rfl, ?_⟩
    have hrel := (Option.rel_some_some.mp hmirrors).entryOf flagKey
    rw [hentry] at hrel
    revert hrel
    cases payload.evaluations.entryOf flagKey with
    | none => rintro ⟨⟩
    | some incoming => exact fun hrel => ⟨incoming, rfl, Option.rel_some_some.mp hrel⟩

variable (deps) in
omit [DecidableEq N] in
theorem expose_inv (h : Inv client) {flagKey : String} {entry : EvaluateAll.EvaluateAllEntry N}
    (hexpiry : client.expiryError = none) (hentry : client.store.entryOf flagKey = some entry)
    (hreason : entry.reason ≠ .ERROR) (hvariant : entry.variant ≠ .null) (minted : Option String)
    (clientTimestamp : String) :
    Inv (client.expose deps flagKey entry.exposureTicket minted clientTimestamp).2 := by
  unfold expose
  split
  · exact h
  · next ticket hticket =>
    rcases ExposureQueue.enqueue_cases deps.queue client.queue flagKey ticket minted clientTimestamp with
      hframe | hin
    · exact h.queue hframe
    · obtain ⟨item, hflag, hitemTicket, hnew, hflags, hadmitted, hdropped, hexpired⟩ := hin
      refine ⟨⟨h.stopped, h.halted, h.started, h.pending, fun hnone => ?_, h.etag, h.mirrors, h.ticking,
        fun other hother => ?_, fun other => ?_, h.logged⟩, hexpired.trans h.expiry.same,
        fun hsome => (by rw [show client.expiryError = none from hexpiry] at hsome; cases hsome)⟩
      · rw [BrowserPayloadStore.entryOf, show client.store.held = none from hnone] at hentry
        cases hentry
      · rcases List.mem_append.mp (hadmitted ▸ hother) with hother | hother
        · exact h.tickets other hother
        · obtain rfl := List.mem_singleton.mp hother
          obtain ⟨payload, hlast, hissues⟩ := last_issues h.toCore hexpiry hentry
          subst hflag
          obtain ⟨incoming, hincoming, hfollows⟩ := hissues
          refine ⟨payload, List.mem_of_getLast? hlast, incoming, hincoming, ?_, ?_, fun hnull => hvariant ?_⟩
          · rw [← hfollows.exposureTicket, hticket, hitemTicket]
          · rw [← hfollows.reason]
            exact hreason
          · have hsame := hfollows.variant
            rw [hnull] at hsame
            exact same_null hsame
      · have hbefore := h.exposed other
        have hcount : exposures other (client.queue.history.admitted ++ [item]) =
            exposures other client.queue.history.admitted + if flagKey = other then 1 else 0 := by
          rw [exposures, List.countP_append, List.countP_singleton, hflag]
          simp [exposures]
        change exposures other (ExposureQueue.enqueue _ _ _ _ _ _).2.history.admitted ≤ _
        rw [hadmitted, hcount]
        change _ ≤ _ + exposures other (ExposureQueue.enqueue _ _ _ _ _ _).2.history.dropped +
          if other ∈ (ExposureQueue.enqueue _ _ _ _ _ _).2.enqueuedFlags then 1 else 0
        rw [hdropped, hflags]
        by_cases hsame : flagKey = other
        · subst hsame
          rw [if_neg hnew] at hbefore
          simp only [if_true, List.mem_append, List.mem_singleton, or_true]
          omega
        · simp only [if_neg hsame, List.mem_append, List.mem_singleton, Ne.symm hsame, or_false]
          exact hbefore

omit [DecidableEq N] in
/-- A resolution serves a Variant where its entry has one. -/
theorem entry_of_kind {flagKey : String} {entry : Option (EvaluateAll.EvaluateAllEntry N)}
    {defaultValue : JsonText.Json N} (h : (deriveHeldResolution flagKey entry defaultValue).kind = .entry) :
    ∃ served, entry = some served ∧ served.reason ≠ .ERROR ∧ served.variant ≠ .null := by
  unfold deriveHeldResolution at h
  cases entry with
  | none => cases h
  | some served =>
    dsimp only at h
    split_ifs at h with hreason
    refine ⟨served, rfl, hreason, fun hnull => ?_⟩
    rw [hnull] at h
    cases h

variable (client) in
omit [DecidableEq N] in
theorem logHeldResolution_store (flagKey : String) (resolution : HeldResolution N) :
    (client.logHeldResolution flagKey resolution).store = client.store ∧
      (client.logHeldResolution flagKey resolution).expiryError = client.expiryError := by
  unfold logHeldResolution
  dsimp only
  split_ifs <;> exact ⟨rfl, rfl⟩

variable (client) in
omit [DecidableEq N] in
theorem logHeldResolution_queue (flagKey : String) (resolution : HeldResolution N) :
    (client.logHeldResolution flagKey resolution).queue = client.queue := by
  unfold logHeldResolution
  dsimp only
  split_ifs <;> rfl

omit [DecidableEq N] in
theorem readDetails_inv (h : Inv client) (flagKey : String) (defaultValue : JsonText.Json N)
    (minted : Option String) (clientTimestamp : String) :
    Inv (client.readDetails deps flagKey defaultValue minted clientTimestamp).2 := by
  unfold readDetails
  split
  · exact h
  · next hexpiry =>
    split
    · exact h
    · next held hheld =>
      have hlogged := logHeldResolution_inv h flagKey
        (deriveHeldResolution flagKey (held.evaluations.entryOf flagKey) defaultValue)
      dsimp only
      split_ifs with hkind
      · exact hlogged
      · obtain ⟨hstore, hexpiry'⟩ := logHeldResolution_store client flagKey
          (deriveHeldResolution flagKey (held.evaluations.entryOf flagKey) defaultValue)
        obtain ⟨entry, hentry, hreason, hvariant⟩ := entry_of_kind (not_not.mp hkind)
        have hserved : client.store.entryOf flagKey = some entry := by
          rw [BrowserPayloadStore.entryOf, hheld]
          exact hentry
        have hexposed := expose_inv deps hlogged (hexpiry'.trans hexpiry) (hstore ▸ hserved) hreason
          hvariant minted clientTimestamp
        rw [hentry] at hexposed ⊢
        exact hexposed

/-! ## 7. Steps -/

theorem onQueue_inv (h : Inv client) (event : QueueEvent) : Inv (client.onQueue deps event) := by
  have htold : ∀ queue : ExposureQueue, Core { client with queue } →
      (client.expiryError.isSome = true → ExpiredWith queue client.expiryError) →
      (client.initPromise = .pending → queue.expiryError = none) →
      Inv (client.withQueue queue) := by
    intro queue hcore hexpired hpending
    unfold withQueue
    split
    · next hnone =>
      have hlive : client.expiryError = none := by
        by_contra hsome
        exact hsome ((hexpired (Option.isSome_iff_ne_none.mpr hsome)).same.symm.trans hnone)
      refine ⟨hcore, hnone.trans hlive.symm, fun hsome => ?_⟩
      rw [show client.expiryError = none from hlive] at hsome
      cases hsome
    · next error herror =>
      refine hcore.expire hexpired (fun hpromise => ?_) error
      rw [hpending hpromise] at herror
      cases herror
  have hsame : ∀ queue : ExposureQueue, Core { client with queue } →
      queue.expiryError = client.queue.expiryError →
      (client.queue.pending = [] → queue.pending = []) → Inv (client.withQueue queue) := by
    intro queue hcore hexpiry hpending
    rw [h.expiry.same] at hexpiry
    exact htold queue hcore (fun hexpired => ⟨hexpiry, fun _ => hpending (h.expiry.spent hexpired)⟩)
      fun hpromise => hexpiry.trans (h.pending hpromise).2
  cases event with
  | timer =>
    have hframe := ExposureQueue.onTimer_frame deps.queue client.queue
    exact hsame _ (h.toCore.queue hframe) hframe.expiryError hframe.pending
  | pageHide =>
    have hframe := ExposureQueue.onPageEvent_frame deps.queue client.queue deps.queue.hasWindow
    exact hsame _ (h.toCore.queue hframe) hframe.expiryError hframe.pending
  | hidden =>
    have hframe := ExposureQueue.onPageEvent_frame deps.queue client.queue deps.queue.hasDocument
    exact hsame _ (h.toCore.queue hframe) hframe.expiryError hframe.pending
  | resume id =>
    rcases ExposureQueue.resume_cases deps.queue client.queue id with
      hframe | ⟨lost, htrims⟩
    · exact hsame _ (h.toCore.queue hframe) hframe.expiryError hframe.pending
    · exact hsame _ (h.toCore.trims htrims) htrims.expiryError htrims.pending
  | answer id reply =>
    have hkeeps := ExposureQueue.answer_keeps deps.queue client.queue id reply
    have hidle : ¬client.queue.Redeems → client.queue.answer deps.queue id reply = client.queue :=
      fun hredeems => ExposureQueue.answer_eq_self deps.queue hredeems id reply
    refine htold _ (h.toCore.keeps hkeeps hidle) (fun hexpired => ?_) fun hpromise => ?_
    · have hqueue : client.queue.expiryError.isSome = true := by rwa [h.expiry.same]
      obtain ⟨hexpiry, hpending⟩ := ExposureQueue.answer_expired deps.queue hqueue id reply
      exact ⟨hexpiry.trans h.expiry.same, fun _ => hpending.trans (h.expiry.spent hexpired)⟩
    · obtain ⟨hheld, hexpiry⟩ := h.pending hpromise
      have hself : client.queue.step deps.queue (.answer id reply) = client.queue := hidle (h.quiet hheld).2
      exact (congrArg (·.expiryError) hself).trans (h.expiry.same.trans hexpiry)

/-- **Every step** keeps the invariant. -/
theorem step_inv (h : Inv client) (event : Event N) : Inv ((browserClient deps).next client event) := by
  cases event with
  | init minted => exact init_inv h minted
  | initialized reply => exact initialized_inv h reply
  | read flagKey defaultValue minted clientTimestamp =>
    exact readDetails_inv h flagKey defaultValue minted clientTimestamp
  | subscribe flagKey listener =>
    exact ⟨h.toCore.store (BrowserPayloadStore.subscribe_held _ _), h.expiry⟩
  | unsubscribe flagKey listener id =>
    exact ⟨h.toCore.store (BrowserPayloadStore.unsubscribe_held _ _ _), h.expiry⟩
  | flush => exact h.queue ExposureQueue.flush_frame
  | close =>
    have hclosed : Inv { client with queue := client.queue.close deps.queue } :=
      h.queue ExposureQueue.close_frame
    exact ⟨hclosed.toCore.stop, hclosed.expiry⟩
  | revalidate minted => exact revalidate_inv h minted
  | revalidated reply => exact revalidated_inv h reply
  | reschedule =>
    refine ⟨h.toCore.reschedule, ?_⟩
    change ExpiredWith client.reschedule.queue client.reschedule.expiryError
    rw [reschedule]
    split_ifs <;> exact h.expiry
  | queue event => exact onQueue_inv h event

omit [DecidableEq N] in
theorem new_inv : Inv (new deps) := by
  have hempty : ∀ bootstrap : Option (HeldPayload N), bootstrap.toList.getLast? = bootstrap := by
    intro bootstrap
    cases bootstrap <;> rfl
  have hcore : Core { new deps with loop := .new } := by
    refine ⟨fun hexpired => (by cases hexpired), fun hstopped => (by cases hstopped),
      fun hphase => absurd rfl hphase, fun hpending => (by cases hpending), fun _ => ⟨rfl, ?_⟩, ?_, fun _ => ?_,
      fun _ hphase => (by cases hphase), fun _ hitem => absurd hitem List.not_mem_nil,
      fun _ => Nat.zero_le _, fun _ _ _ => Nat.zero_le _⟩
    · rintro ⟨id, caller, hcaller, -⟩
      cases hcaller
    · exact congrArg (Option.map (·.etag)) (hempty deps.bootstrap).symm
    · change Option.Rel Mirrors deps.bootstrap deps.bootstrap.toList.getLast?
      rw [hempty]
      cases deps.bootstrap with
      | none => exact .none
      | some payload => exact .some (.refl payload)
  refine ⟨?_, rfl, fun hexpired => (by cases hexpired)⟩
  by_cases hbootstrap : deps.bootstrap.isSome = true
  · have hstarted := hcore.start (Option.isSome_iff_ne_none.mp hbootstrap) deps.revalidateMs
    rw [new, if_pos hbootstrap]
    exact hstarted
  · rw [new, if_neg hbootstrap]
    exact hcore

variable (deps) in
theorem run_inv (events : List (Event N)) : Inv ((browserClient deps).run events) :=
  (browserClient deps).exec_invariant (I := Inv) (fun _ event h => step_inv h event) new_inv events

end BrowserClient

end Browser

end Splitch
