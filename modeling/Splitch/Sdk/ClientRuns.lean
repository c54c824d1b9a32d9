/-
# What a browser client promises

Over every run, with the calls of the page, the answers to requests and the timers in any order.  Each part
is about what a user of the client sees, in terms of what the server has sent.

**Reads.**  A read answers what the payload that came last says of the Flag, but for the order of members in
a value (`reads_last_payload`).  What is held mirrors that payload, and a resolution depends on an entry only
through what two mirroring entries share.  A read exposes the Flag before it answers, so it throws where no
id can be minted for the Exposure, but only where there is an Exposure to mint one for (`NeedsId`).

**Requests.**  A revalidation is about the payload that is held, so that a 304 confirms what is served, and
none is under way before the first payload (`revalidates_last`).

**Listeners.**  Who listens and is not called has nothing else to read (`told_of_change`).  The relation that
goes through the run compares two states (`Told`): the listener is still there, it was called at least as
often as before, and if it was not called since, every read is served the very same value and name.  A swap
that changes what is read reports the Flag, and so does an expiry, except where nothing but a default was
read anyway (`served_default`).

**Expiry.**  Once the Environment has expired a client serves defaults, and sends and tells nothing more
(`expired_for_good`), also where batches and revalidations are in flight at that moment: their answers come
to an empty queue and to a loop that has stopped.
-/
import Splitch.Sdk.ClientInvariants

namespace Splitch

namespace Browser

open EvaluateAll JsonText

variable {N : Type} [DecidableEq N]

/-! ## 1. Reads -/

/-- Equal, but for the order of members in the value. -/
structure SameDetails (details details' : Seen.ResolutionDetails N) : Prop where
  value : details.value.Same details'.value
  variantName : details.variantName = details'.variantName
  reason : details.reason = details'.reason
  errorCode : details.errorCode = details'.errorCode
  errorMessage : details.errorMessage = details'.errorMessage

/-- What a payload says of a Flag, as it came. -/
def payloadDetails (payload : HeldPayload N) (flagKey : String) (defaultValue : Json N) (degraded : Bool) :
    Seen.ResolutionDetails N :=
  let resolution := deriveHeldResolution flagKey (payload.evaluations.entryOf flagKey) defaultValue
  if resolution.kind ≠ .entry then resolution.details else decorateHeldDetails resolution.details degraded

omit [DecidableEq N] in
theorem Mirrors.sameResolution {held payload : HeldPayload N} (h : Mirrors held payload) (flagKey : String) :
    Option.Rel SameResolution (held.evaluations.entryOf flagKey) (payload.evaluations.entryOf flagKey) := by
  have hfollows := h.entryOf flagKey
  revert hfollows
  generalize held.evaluations.entryOf flagKey = entry
  generalize payload.evaluations.entryOf flagKey = incoming
  rintro (⟨hfollows⟩ | _)
  · exact .some hfollows.toSameResolution
  · exact .none

omit [DecidableEq N] in
theorem Mirrors.exposureTicket {held payload : HeldPayload N} (h : Mirrors held payload) (flagKey : String) :
    (held.evaluations.entryOf flagKey).bind (·.exposureTicket) =
      (payload.evaluations.entryOf flagKey).bind (·.exposureTicket) := by
  have hfollows := h.entryOf flagKey
  revert hfollows
  generalize held.evaluations.entryOf flagKey = entry
  generalize payload.evaluations.entryOf flagKey = incoming
  rintro (⟨hfollows⟩ | _)
  · exact hfollows.exposureTicket
  · rfl

omit [DecidableEq N] in
theorem Mirrors.details_same {held payload : HeldPayload N} (h : Mirrors held payload) (flagKey : String)
    (defaultValue : Json N) (degraded : Bool) :
    SameDetails (payloadDetails held flagKey defaultValue degraded)
      (payloadDetails payload flagKey defaultValue degraded) := by
  have hsame : (deriveHeldResolution flagKey _ defaultValue).Same (deriveHeldResolution flagKey _ defaultValue) :=
    deriveHeldResolution_same (h.sameResolution flagKey) defaultValue
  simp only [payloadDetails, decorateHeldDetails, hsame.kind]
  split_ifs
  · exact ⟨hsame.value, hsame.variantName, hsame.reason, hsame.errorCode, hsame.errorMessage⟩
  · exact ⟨hsame.value, hsame.variantName, rfl, rfl, rfl⟩
  · exact ⟨hsame.value, hsame.variantName, hsame.reason, rfl, rfl⟩

namespace BrowserClient

variable {deps : BrowserClientDeps N} {client : BrowserClient N}

variable (deps) in
omit [DecidableEq N] in
theorem read_expired {error : SplitchSdkError} (h : client.expiryError = some error) (flagKey : String)
    (defaultValue : Json N) (minted : Option String) (clientTimestamp : String) :
    client.readDetails deps flagKey defaultValue minted clientTimestamp =
      (.ok ⟨defaultValue, none, .ERROR, some error.code, some error.message⟩, client) := by
  rw [readDetails, h]

/-- The payload serves the Flag with a ticket, and an open queue has not noted the Flag yet. -/
structure NeedsId (client : BrowserClient N) (payload : HeldPayload N) (flagKey : String)
    (defaultValue : Json N) : Prop where
  serves : (deriveHeldResolution flagKey (payload.evaluations.entryOf flagKey) defaultValue).kind = .entry
  ticket : (payload.evaluations.entryOf flagKey).bind (·.exposureTicket) ≠ none
  opened : client.queue.closed = false
  unnoted : flagKey ∉ client.queue.enqueuedFlags

variable (deps) in
omit [DecidableEq N] in
theorem expose_answer (flagKey : String) (exposureTicket minted : Option String) (clientTimestamp : String) :
    (client.expose deps flagKey exposureTicket minted clientTimestamp).1 =
      if minted = none ∧ exposureTicket ≠ none ∧ client.queue.closed = false ∧
        flagKey ∉ client.queue.enqueuedFlags then .error exposureIdUnavailable else .ok ⟨⟩ := by
  unfold expose
  cases exposureTicket with
  | none => simp
  | some ticket =>
    dsimp only
    rw [ExposureQueue.enqueue_answer]
    simp

variable (deps) in
omit [DecidableEq N] in
/-- **A read without an id** throws where it needs one. The order of the checks decides it: the queue
asks for the id behind the checks that a ticket is there, that it is open and that the Flag is not
noted. -/
theorem read_unminted (hexpiry : client.expiryError = none) {held : HeldPayload N}
    (hheld : client.store.held = some held) {flagKey : String} {defaultValue : Json N}
    (hneeds : client.NeedsId held flagKey defaultValue) (clientTimestamp : String) :
    (client.readDetails deps flagKey defaultValue none clientTimestamp).1 =
      .error exposureIdUnavailable := by
  have hqueue : ∀ resolution, (client.logHeldResolution flagKey resolution).queue = client.queue :=
    logHeldResolution_queue client flagKey
  rw [readDetails, hexpiry, hheld]
  dsimp only
  rw [if_neg (not_not.mpr hneeds.serves)]
  dsimp only
  rw [expose_answer, hqueue, if_pos ⟨rfl, hneeds.ticket, hneeds.opened, hneeds.unnoted⟩]
  rfl

variable (deps) in
omit [DecidableEq N] in
/-- **Any other read** answers what is held. The Exposure is handed to the queue before the answer,
and the queue changes neither the payload nor the mark that it could not be renewed. -/
theorem read_held (hexpiry : client.expiryError = none) {held : HeldPayload N}
    (hheld : client.store.held = some held) {flagKey : String} {defaultValue : Json N}
    {minted : Option String} (hminted : minted = none → ¬client.NeedsId held flagKey defaultValue)
    (clientTimestamp : String) :
    (client.readDetails deps flagKey defaultValue minted clientTimestamp).1 =
      .ok (payloadDetails held flagKey defaultValue client.store.degraded) := by
  have hqueue : ∀ resolution, (client.logHeldResolution flagKey resolution).queue = client.queue :=
    logHeldResolution_queue client flagKey
  rw [readDetails, hexpiry, hheld, payloadDetails]
  dsimp only
  split_ifs with hkind
  · rfl
  · dsimp only
    rw [expose_answer, hqueue, (logHeldResolution_store client flagKey _).1, if_neg]
    · rfl
    · rintro ⟨hnone, hticket, hopened, hunnoted⟩
      exact hminted hnone ⟨not_not.mp hkind, hticket, hopened, hunnoted⟩

omit [DecidableEq N] in
/-- What is held needs an id where the payload does, as it came. -/
theorem NeedsId.of_mirrors {held payload : HeldPayload N} (h : Mirrors held payload) {flagKey : String}
    {defaultValue : Json N} : client.NeedsId held flagKey defaultValue ↔
      client.NeedsId payload flagKey defaultValue := by
  have hsame : (deriveHeldResolution flagKey _ defaultValue).Same (deriveHeldResolution flagKey _ defaultValue) :=
    deriveHeldResolution_same (h.sameResolution flagKey) defaultValue
  have hkind := hsame.kind
  have hticket := h.exposureTicket flagKey
  exact ⟨fun hneeds => ⟨hkind ▸ hneeds.serves, hticket ▸ hneeds.ticket, hneeds.opened, hneeds.unnoted⟩,
    fun hneeds => ⟨hkind ▸ hneeds.serves, hticket ▸ hneeds.ticket, hneeds.opened, hneeds.unnoted⟩⟩

variable (deps) in
/-- **A read answers** what the payload that came last says of the Flag, marked as stale while the client is
degraded.  Only the first read of a Flag with a ticket throws instead, where no id can be minted for its
Exposure. -/
theorem reads_last_payload (events : List (Event N)) (flagKey : String) (defaultValue : Json N)
    (minted : Option String) (clientTimestamp : String) :
    let client := (browserClient deps).run events
    let answer := (browserClient deps).out client (.read flagKey defaultValue minted clientTimestamp)
    (∀ error, client.expiryError = some error →
        answer = some (.ok ⟨defaultValue, none, .ERROR, some error.code, some error.message⟩)) ∧
      (client.expiryError = none → client.history.received = [] → answer = some (.error notInitialized)) ∧
      (client.expiryError = none → ∀ payload, client.history.received.getLast? = some payload →
        (minted = none → client.NeedsId payload flagKey defaultValue →
          answer = some (.error exposureIdUnavailable)) ∧
        ((minted = none → ¬client.NeedsId payload flagKey defaultValue) →
          ∃ details, answer = some (.ok details) ∧
            SameDetails details (payloadDetails payload flagKey defaultValue client.store.degraded))) := by
  intro client answer
  have h : Inv client := run_inv deps events
  have hanswer : answer = some (client.readDetails deps flagKey defaultValue minted clientTimestamp).1 := rfl
  refine ⟨fun error herror => ?_, fun hexpiry hnone => ?_, fun hexpiry payload hlast => ?_⟩
  · rw [hanswer, read_expired deps herror]
  · have hheld : client.store.held = none := by
      have hetag := h.etag
      rw [hnone, List.getLast?_nil, Option.map_none, Option.map_eq_none_iff] at hetag
      exact hetag
    rw [hanswer, readDetails, hexpiry, hheld]
  · have hmirrors := h.mirrors hexpiry
    rw [hlast] at hmirrors
    cases hheld : client.store.held with
    | none =>
      rw [hheld] at hmirrors
      cases hmirrors
    | some held =>
      rw [hheld] at hmirrors
      have hmirrors := Option.rel_some_some.mp hmirrors
      refine ⟨fun hminted hneeds => ?_, fun hminted => ⟨_, ?_, hmirrors.details_same flagKey defaultValue _⟩⟩
      · subst hminted
        rw [hanswer, read_unminted deps hexpiry hheld ((NeedsId.of_mirrors hmirrors).mpr hneeds)]
      · have hheldId : minted = none → ¬client.NeedsId held flagKey defaultValue := fun hnone hneeds =>
          hminted hnone ((NeedsId.of_mirrors hmirrors).mp hneeds)
        rw [hanswer, read_held deps hexpiry hheld hheldId]

/-! ## 2. Requests -/

variable (deps) in
/-- **A revalidation** names the ETag of the payload that came last, so that a 304 is about what is held; and
while the first payload is awaited, nothing else is under way. -/
theorem revalidates_last (events : List (Event N)) :
    let client := (browserClient deps).run events
    (∀ etag, client.loop.phase = .ticking etag →
        client.history.received.getLast?.map (·.etag) = some etag ∧
          client.store.held.map (·.etag) = some etag) ∧
      (client.loop.phase ≠ .off → client.history.received ≠ []) ∧
      (client.initPromise = .pending → client.history.received = [] ∧ client.loop.phase = .off ∧
        client.expiryError = none ∧ client.queue.pending = [] ∧ ¬client.queue.Redeems) := by
  intro client
  have h : Inv client := run_inv deps events
  have hreceived : client.store.held = none ↔ client.history.received = [] := by
    rw [← List.getLast?_eq_none_iff, ← Option.map_eq_none_iff (f := fun held : HeldPayload N => held.etag),
      h.etag, Option.map_eq_none_iff]
  refine ⟨fun etag hphase => ⟨h.ticking etag hphase, h.etag.trans (h.ticking etag hphase)⟩,
    fun hphase hnone => h.started hphase (hreceived.mpr hnone), fun hpending => ?_⟩
  obtain ⟨hheld, hexpiry⟩ := h.pending hpending
  refine ⟨hreceived.mp hheld, ?_, hexpiry, h.quiet hheld⟩
  by_contra hphase
  exact h.started hphase hheld

/-! ## 3. Listeners -/

/-- The listener is subscribed to the Flag. -/
def Listens (client : BrowserClient N) (flagKey : String) (listener : Nat) : Prop :=
  ∃ flagListeners, client.store.listeners flagKey = some flagListeners ∧ listener ∈ flagListeners.listeners

/-- How often the listener was called for the Flag. -/
def calls (client : BrowserClient N) (flagKey : String) (listener : Nat) : Nat :=
  client.history.called.count (flagKey, listener)

/-- The value and the name that a read is answered with. -/
def served (client : BrowserClient N) (flagKey : String) (defaultValue : Json N) : Json N × Option String :=
  if client.expiryError.isSome then (defaultValue, none)
  else
    let details := (deriveHeldResolution flagKey (client.store.entryOf flagKey) defaultValue).details
    (details.value, details.variantName)

/-- The listener goes on, and was called where there is something else to read. -/
structure Told (flagKey : String) (listener : Nat) (client client' : BrowserClient N) : Prop where
  held : client'.store.held ≠ none
  listens : Listens client' flagKey listener
  called : calls client flagKey listener ≤ calls client' flagKey listener
  same : calls client' flagKey listener = calls client flagKey listener →
    ∀ defaultValue, served client' flagKey defaultValue = served client flagKey defaultValue

variable {flagKey : String} {listener : Nat} {client' client'' : BrowserClient N}

omit [DecidableEq N] in
theorem Told.trans (h : Told flagKey listener client client') (h' : Told flagKey listener client' client'') :
    Told flagKey listener client client'' where
  held := h'.held
  listens := h'.listens
  called := h.called.trans h'.called
  same hcalls defaultValue := by
    have hfirst := h.called
    have hsecond := h'.called
    rw [h'.same (by omega), h.same (by omega)]

omit [DecidableEq N] in
/-- A step that touches nothing of this. -/
theorem Told.of_eq (hheld : client.store.held ≠ none) (hlistens : Listens client flagKey listener)
    (hstore : client'.store.held = client.store.held)
    (hlisteners : client'.store.listeners = client.store.listeners)
    (hexpiry : client'.expiryError = client.expiryError)
    (hcalled : client'.history.called = client.history.called) :
    Told flagKey listener client client' where
  held := by rwa [hstore]
  listens := by
    rw [Listens, hlisteners]
    exact hlistens
  called := by rw [calls, calls, hcalled]
  same _ defaultValue := by simp only [served, BrowserPayloadStore.entryOf, hstore, hexpiry]

omit [DecidableEq N] in
theorem count_notify (hlistens : Listens client flagKey listener) {flagKeys : List String}
    (hmem : flagKey ∈ flagKeys) : 0 < (client.store.notify flagKeys).count (flagKey, listener) := by
  obtain ⟨flagListeners, hsome, hlistener⟩ := hlistens
  refine List.count_pos_iff.mpr (List.mem_flatMap.mpr ⟨flagKey, hmem, ?_⟩)
  rw [hsome]
  exact List.mem_map_of_mem hlistener

theorem expire_listeners (store : BrowserPayloadStore N) : store.expire.1.listeners = store.listeners := by
  unfold BrowserPayloadStore.expire
  split <;> rfl

/-- A Flag that the expiry does not report had nothing but a default to read. -/
theorem served_default {store : BrowserPayloadStore N} (hheld : store.held ≠ none)
    (h : flagKey ∉ store.expire.2) (defaultValue : Json N) :
    let details := (deriveHeldResolution flagKey (store.entryOf flagKey) defaultValue).details
    (details.value, details.variantName) = (defaultValue, none) := by
  obtain ⟨held, hsome⟩ := Option.ne_none_iff_exists'.mp hheld
  rw [BrowserPayloadStore.expire, hsome] at h
  dsimp only at h
  have hsame : Option.Rel SameResolution (store.entryOf flagKey) ((held.evaluations.mapEntries
      (fun _ _ => BrowserPayloadStore.expiredEntry) fun _ _ _ =>
        BrowserPayloadStore.expiredEntry_distinct).entryOf flagKey) := by
    by_contra hne
    exact h (BrowserPayloadStore.mem_swap.mpr hne)
  rw [Evaluations.mapEntries_entryOf] at hsame
  rw [BrowserPayloadStore.entryOf, hsome, Option.bind_some] at hsame ⊢
  revert hsame
  cases held.evaluations.entryOf flagKey with
  | none => exact fun _ => rfl
  | some entry =>
    intro hsame
    have hreason : entry.reason = .ERROR := (Option.rel_some_some.mp hsame).reason
    simp [deriveHeldResolution, hreason]

omit [DecidableEq N] in
/-- Where what is read changes, the Flag is reported. -/
theorem Told.of_notify (hheld : client'.store.held ≠ none) (hlistens : Listens client' flagKey listener)
    (hcalled : client'.history.called = client.history.called) {flagKeys : List String}
    (hsame : flagKey ∉ flagKeys → ∀ defaultValue,
      served (client'.notify flagKeys) flagKey defaultValue = served client flagKey defaultValue) :
    Told flagKey listener client (client'.notify flagKeys) := by
  have hcalls : calls (client'.notify flagKeys) flagKey listener =
      calls client flagKey listener + (client'.store.notify flagKeys).count (flagKey, listener) := by
    rw [calls, calls, ← hcalled]
    exact List.count_append
  refine ⟨hheld, hlistens, hcalls ▸ Nat.le_add_right _ _, fun heq => hsame fun hmem => ?_⟩
  have hpos := count_notify hlistens hmem
  omega

theorem expire_told (hheld : client.store.held ≠ none) (hlistens : Listens client flagKey listener)
    (error : SplitchSdkError) : Told flagKey listener client (client.expire error) := by
  rw [BrowserClient.expire]
  split_ifs with hexpired
  · exact .of_eq hheld hlistens rfl rfl rfl rfl
  · have hafter : Listens { client with
        expiryError := some error
        loop := client.loop.stop
        queue := client.queue.expire error
        store := client.store.expire.1 } flagKey listener := by
      rw [Listens, expire_listeners]
      exact hlistens
    refine .of_notify (fun hnone => hheld (BrowserPayloadStore.expire_held_eq_none.mp hnone)) hafter (by rfl)
      fun hunreported defaultValue => ?_
    change (defaultValue, none) = _
    rw [served, if_neg hexpired]
    exact (served_default hheld hunreported defaultValue).symm

theorem expireOn_told (hheld : client.store.held ≠ none) (hlistens : Listens client flagKey listener)
    (error : Option SplitchSdkError) : Told flagKey listener client (client.expireOn error) := by
  unfold expireOn
  split
  · exact .of_eq hheld hlistens rfl rfl rfl rfl
  · split_ifs
    · exact expire_told hheld hlistens _
    · exact .of_eq hheld hlistens rfl rfl rfl rfl

theorem fail_told (hheld : client.store.held ≠ none) (hlistens : Listens client flagKey listener)
    (error : SplitchSdkError) : Told flagKey listener client (client.fail error) := by
  have hlogged : Told flagKey listener client (client.loudly error) := .of_eq hheld hlistens rfl rfl rfl rfl
  have hexpired := hlogged.trans (expireOn_told hlogged.held hlogged.listens (some error))
  rw [BrowserClient.fail]
  split_ifs <;> exact hexpired.trans (.of_eq hexpired.held hexpired.listens rfl rfl rfl rfl)

theorem onPayload_told (hexpiry : client.expiryError = none)
    (hlistens : Listens client flagKey listener) (payload : HeldPayload N) :
    Told flagKey listener client (client.onPayload payload) := by
  have hafter : Listens { client with
      store := (client.store.swap payload).1
      loggedResolutions := rearmHeldResolutionLogs client.loggedResolutions (client.store.swap payload).2
      queue := client.queue.rearm (client.store.swap payload).2
      history := { client.history with
        received := client.history.received ++ [payload]
        changed := client.history.changed ++ (client.store.swap payload).2 } } flagKey listener := hlistens
  refine .of_notify (fun hnone => (by cases hnone)) hafter (by rfl) fun hunreported defaultValue => ?_
  have hkeeps : deriveHeldResolution flagKey _ defaultValue = deriveHeldResolution flagKey _ defaultValue :=
    deriveHeldResolution_congr (BrowserPayloadStore.swap_keeps hunreported) defaultValue
  have hstill : (client.onPayload payload).expiryError = none := hexpiry
  change served (client.onPayload payload) flagKey defaultValue = _
  simp only [served, hexpiry, hstill]
  exact congrArg (fun resolution : HeldResolution N =>
    (resolution.details.value, resolution.details.variantName)) hkeeps

theorem revalidate_told (hheld : client.store.held ≠ none) (hlistens : Listens client flagKey listener)
    (minted : Option String) : Told flagKey listener client (client.revalidate minted) := by
  unfold revalidate
  split_ifs
  · exact .of_eq hheld hlistens rfl rfl rfl rfl
  · dsimp only
    split
    · exact .of_eq hheld hlistens rfl rfl rfl rfl
    · split
      · next hnone => exact absurd hnone hheld
      · exact .of_eq hheld hlistens rfl rfl rfl rfl

theorem revalidated_told (h : Inv client) (hheld : client.store.held ≠ none)
    (hlistens : Listens client flagKey listener) (reply : Reply N) :
    Told flagKey listener client (client.revalidated reply) := by
  unfold revalidated
  split
  · have hticked : Told flagKey listener client (client.setPhase .ticked) :=
      .of_eq hheld hlistens rfl rfl rfl rfl
    dsimp only
    split_ifs with hstopped
    · exact hticked
    · have hexpiry : (client.setPhase .ticked).expiryError = none := by
        by_contra hsome
        exact hstopped (h.stopped (Option.isSome_iff_ne_none.mpr hsome))
      split
      · exact hticked.trans (fail_told hticked.held hticked.listens _)
      · split_ifs
        · exact .of_eq hheld hlistens rfl rfl rfl rfl
        · split
          · exact hticked.trans (onPayload_told hexpiry hticked.listens _)
          · exact hticked.trans (fail_told hticked.held hticked.listens _)
  · exact .of_eq hheld hlistens rfl rfl rfl rfl

omit [DecidableEq N] in
theorem readDetails_told (hheld : client.store.held ≠ none) (hlistens : Listens client flagKey listener)
    (read : String) (defaultValue : Json N) (minted : Option String) (clientTimestamp : String) :
    Told flagKey listener client (client.readDetails deps read defaultValue minted clientTimestamp).2 := by
  have hlogged : ∀ resolution, Told flagKey listener client (client.logHeldResolution read resolution) := by
    intro resolution
    unfold logHeldResolution
    dsimp only
    split_ifs <;> exact .of_eq hheld hlistens rfl rfl rfl rfl
  unfold readDetails
  split
  · exact .of_eq hheld hlistens rfl rfl rfl rfl
  · split
    · exact .of_eq hheld hlistens rfl rfl rfl rfl
    · next held _ =>
      have hread := hlogged (deriveHeldResolution read (held.evaluations.entryOf read) defaultValue)
      dsimp only
      split_ifs
      · exact hread
      · unfold expose
        split
        · exact hread
        · exact hread.trans (.of_eq hread.held hread.listens rfl rfl rfl rfl)

omit [DecidableEq N] in
theorem subscribe_told (hheld : client.store.held ≠ none) (hlistens : Listens client flagKey listener)
    (other : String) (newcomer : Nat) :
    Told flagKey listener client { client with store := client.store.subscribe other newcomer } := by
  refine ⟨?_, ?_, Nat.le_refl _, fun _ defaultValue => ?_⟩
  · rw [BrowserPayloadStore.subscribe_held]
    exact hheld
  · obtain ⟨flagListeners, hsome, hlistener⟩ := hlistens
    rw [Listens, BrowserPayloadStore.subscribe]
    rcases eq_or_ne flagKey other with rfl | hne
    · simp only [hsome, Function.update_self]
      refine ⟨_, rfl, ?_⟩
      dsimp only
      split_ifs
      · exact hlistener
      · exact List.mem_append_left _ hlistener
    · split <;> exact ⟨flagListeners, (Function.update_of_ne hne _ _).trans hsome, hlistener⟩
  · simp only [served, BrowserPayloadStore.entryOf, BrowserPayloadStore.subscribe_held]

omit [DecidableEq N] in
theorem unsubscribe_told (hheld : client.store.held ≠ none) (hlistens : Listens client flagKey listener)
    {other : String} {leaver : Nat} (id : Nat) (hother : ¬(other = flagKey ∧ leaver = listener)) :
    Told flagKey listener client { client with store := client.store.unsubscribe other leaver id } := by
  refine ⟨?_, ?_, Nat.le_refl _, fun _ defaultValue => ?_⟩
  · rw [BrowserPayloadStore.unsubscribe_held]
    exact hheld
  · obtain ⟨flagListeners, hsome, hlistener⟩ := hlistens
    rw [Listens, BrowserPayloadStore.unsubscribe]
    rcases eq_or_ne flagKey other with rfl | hne
    · simp only [hsome]
      split_ifs with hid hempty
      · exact ⟨flagListeners, hsome, hlistener⟩
      · have hstays : listener ∈ flagListeners.listeners.filter (· ≠ leaver) := by
          simp only [List.mem_filter, decide_eq_true_eq]
          exact ⟨hlistener, fun heq => hother ⟨rfl, heq.symm⟩⟩
        rw [List.length_eq_zero_iff.mp hempty] at hstays
        cases hstays
      · refine ⟨_, Function.update_self .., ?_⟩
        simp only [List.mem_filter, decide_eq_true_eq]
        exact ⟨hlistener, fun heq => hother ⟨rfl, heq.symm⟩⟩
    · split
      · exact ⟨flagListeners, hsome, hlistener⟩
      · split_ifs
        · exact ⟨flagListeners, hsome, hlistener⟩
        · exact ⟨flagListeners, (Function.update_of_ne hne _ _).trans hsome, hlistener⟩
  · simp only [served, BrowserPayloadStore.entryOf, BrowserPayloadStore.unsubscribe_held]

theorem step_told (h : Inv client) (hheld : client.store.held ≠ none)
    (hlistens : Listens client flagKey listener) {event : Event N}
    (hkept : ∀ id, event ≠ .unsubscribe flagKey listener id) :
    Told flagKey listener client ((browserClient deps).next client event) := by
  cases event with
  | init minted =>
    change Told flagKey listener client (client.init deps minted)
    unfold init
    split_ifs
    · exact .of_eq hheld hlistens rfl rfl rfl rfl
    · exact .of_eq hheld hlistens rfl rfl rfl rfl
    · exact .of_eq hheld hlistens rfl rfl rfl rfl
    · cases minted <;> exact .of_eq hheld hlistens rfl rfl rfl rfl
  | initialized reply =>
    change Told flagKey listener client (client.initialized deps reply)
    unfold initialized
    rw [if_pos (h.held_of_promise hheld)]
    exact .of_eq hheld hlistens rfl rfl rfl rfl
  | read other defaultValue minted clientTimestamp =>
    exact readDetails_told hheld hlistens other defaultValue minted clientTimestamp
  | subscribe other newcomer => exact subscribe_told hheld hlistens other newcomer
  | unsubscribe other leaver id =>
    refine unsubscribe_told hheld hlistens id ?_
    rintro ⟨rfl, rfl⟩
    exact hkept id rfl
  | flush => exact .of_eq hheld hlistens rfl rfl rfl rfl
  | close => exact .of_eq hheld hlistens rfl rfl rfl rfl
  | revalidate minted => exact revalidate_told hheld hlistens minted
  | revalidated reply => exact revalidated_told h hheld hlistens reply
  | reschedule =>
    change Told flagKey listener client client.reschedule
    rw [reschedule]
    split_ifs <;> exact .of_eq hheld hlistens rfl rfl rfl rfl
  | queue event =>
    change Told flagKey listener client (client.withQueue (client.queue.step deps.queue event.event))
    have hqueue : ∀ queue : ExposureQueue, Told flagKey listener client { client with queue } :=
      fun _ => .of_eq hheld hlistens rfl rfl rfl rfl
    unfold withQueue
    split
    · exact hqueue _
    · exact (hqueue _).trans (expire_told (hqueue _).held (hqueue _).listens _)

theorem exec_told {events : List (Event N)} (h : Inv client) (hheld : client.store.held ≠ none)
    (hlistens : Listens client flagKey listener) (hkept : ∀ id, .unsubscribe flagKey listener id ∉ events) :
    Told flagKey listener client ((browserClient deps).exec client events) := by
  induction events generalizing client with
  | nil => exact .of_eq hheld hlistens rfl rfl rfl rfl
  | cons event events ih =>
    have hstep : Told flagKey listener client ((browserClient deps).next client event) :=
      step_told h hheld hlistens fun id heq => hkept id (heq ▸ List.mem_cons_self)
    exact hstep.trans (ih (step_inv h event) hstep.held hstep.listens fun id hmem =>
      hkept id (List.mem_cons_of_mem _ hmem))

variable (deps) in
theorem read_served (flagKey : String) (hheld : client.store.held ≠ none) (defaultValue : Json N)
    {minted : Option String} (hminted : minted = none → flagKey ∈ client.queue.enqueuedFlags)
    (clientTimestamp : String) : ∃ details,
      (browserClient deps).out client (.read flagKey defaultValue minted clientTimestamp) =
          some (.ok details) ∧
        (details.value, details.variantName) = served client flagKey defaultValue := by
  obtain ⟨held, hsome⟩ := Option.ne_none_iff_exists'.mp hheld
  cases hexpiry : client.expiryError with
  | some error =>
    have hread : (client.readDetails deps flagKey defaultValue minted clientTimestamp).1 = _ :=
      congrArg Prod.fst (read_expired deps hexpiry flagKey defaultValue minted clientTimestamp)
    refine ⟨_, congrArg some hread, ?_⟩
    rw [served, hexpiry]
    rfl
  | none =>
    have hneeds : minted = none → ¬client.NeedsId held flagKey defaultValue :=
      fun hnone hneeds => hneeds.unnoted (hminted hnone)
    refine ⟨_, congrArg some (read_held deps hexpiry hsome hneeds clientTimestamp), ?_⟩
    rw [served, hexpiry, BrowserPayloadStore.entryOf, hsome, payloadDetails, decorateHeldDetails]
    dsimp only
    split_ifs <;> first | rfl | contradiction

variable (deps) in
/-- **Who listens and is not called** has nothing else to read: until then, the Flag is answered with the very
value and Variant it had, in every read that has an id for its Exposure or does not need one any more. -/
theorem told_of_change (before after : List (Event N)) (flagKey : String) (listener : Nat)
    (hheld : ((browserClient deps).run before).store.held ≠ none)
    (hlistens : Listens ((browserClient deps).run before) flagKey listener)
    (hkept : ∀ id, .unsubscribe flagKey listener id ∉ after)
    (hcalls : calls ((browserClient deps).run (before ++ after)) flagKey listener =
      calls ((browserClient deps).run before) flagKey listener)
    (defaultValue : Json N) (minted minted' : Option String)
    (hminted : minted = none → flagKey ∈ ((browserClient deps).run before).queue.enqueuedFlags)
    (hminted' : minted' = none →
      flagKey ∈ ((browserClient deps).run (before ++ after)).queue.enqueuedFlags)
    (clientTimestamp clientTimestamp' : String) :
    ∃ details details',
      (browserClient deps).out ((browserClient deps).run before)
          (.read flagKey defaultValue minted clientTimestamp) = some (.ok details) ∧
        (browserClient deps).out ((browserClient deps).run (before ++ after))
          (.read flagKey defaultValue minted' clientTimestamp') = some (.ok details') ∧
        details'.value = details.value ∧ details'.variantName = details.variantName := by
  have htold : Told flagKey listener ((browserClient deps).run before)
      ((browserClient deps).run (before ++ after)) := by
    rw [(browserClient deps).run_append]
    exact exec_told (run_inv deps before) hheld hlistens hkept
  obtain ⟨details, hread, hserved⟩ := read_served deps flagKey hheld defaultValue hminted clientTimestamp
  obtain ⟨details', hread', hserved'⟩ := read_served deps flagKey htold.held defaultValue hminted'
    clientTimestamp'
  have hsame := hserved'.trans ((htold.same hcalls defaultValue).trans hserved.symm)
  exact ⟨details, details', hread, hread', (Prod.mk.inj hsame).1, (Prod.mk.inj hsame).2⟩

/-- A Flag with the one Variant that it serves. -/
def bannerPayload (exposureTicket etag : String) : HeldPayload Nat where
  evaluations.entries := [("banner",
    { variant := .bool true
      variantName := some "on"
      reason := .SPLIT
      errorCode := none
      exposureIdentity := none
      exposureTicket := some exposureTicket })]
  evaluations.keys_nodup := List.nodup_singleton _
  evaluations.variants_distinct pair hpair := by
    obtain rfl := List.mem_singleton.mp hpair
    exact .bool true
  etag

/-- A page that is served with a payload. -/
def bannerDeps : BrowserClientDeps Nat where
  queue := ⟨true, true, none, fun code => code = "SERVICE_UNAVAILABLE"⟩
  revalidateMs := 60000
  bootstrap := some (bannerPayload "issued first" "v1")

/-- A newer payload comes, with another ticket. -/
def refreshed : List (Event Nat) :=
  [.revalidate (some "request"),
    .revalidated (.ok ⟨⟨some 200, none, none⟩, some (bannerPayload "issued next" "v2").evaluations, some "v2"⟩),
    .reschedule]

theorem told_of_change_refreshed :
    let before : List (Event Nat) := [.subscribe "banner" 1]
    ∃ details details',
      (browserClient bannerDeps).out ((browserClient bannerDeps).run before)
          (.read "banner" (.bool false) (some "shown") "2026-01-01T00:00:00Z") = some (.ok details) ∧
        (browserClient bannerDeps).out ((browserClient bannerDeps).run (before ++ refreshed))
          (.read "banner" (.bool false) (some "shown again") "2026-01-01T00:01:00Z") = some (.ok details') ∧
        details'.value = details.value ∧ details'.variantName = details.variantName := by
  intro before
  have hheld : ((browserClient bannerDeps).run before).store.held ≠ none := fun hnone => (by cases hnone)
  have hlistens : Listens ((browserClient bannerDeps).run before) "banner" 1 :=
    ⟨⟨0, [1]⟩, rfl, List.mem_singleton_self 1⟩
  have hkept : ∀ id, .unsubscribe "banner" 1 id ∉ refreshed := fun id => by simp [refreshed]
  have hcalls : calls ((browserClient bannerDeps).run (before ++ refreshed)) "banner" 1 =
      calls ((browserClient bannerDeps).run before) "banner" 1 := by decide
  exact told_of_change bannerDeps before refreshed "banner" 1 hheld hlistens hkept hcalls _ _ _
    (fun hnone => by cases hnone) (fun hnone => by cases hnone) _ _

/-! ## 4. Expiry -/

/-- Nothing is asked for, sent, or told. -/
structure Silent (client client' : BrowserClient N) : Prop where
  expiryError : client'.expiryError = client.expiryError
  requests : client'.history.requests = client.history.requests
  sent : client'.queue.history.sent = client.queue.history.sent
  called : client'.history.called = client.history.called

omit [DecidableEq N] in
theorem Silent.refl (client : BrowserClient N) : Silent client client := ⟨rfl, rfl, rfl, rfl⟩

omit [DecidableEq N] in
theorem Silent.trans (h : Silent client client') (h' : Silent client' client'') : Silent client client'' where
  expiryError := h'.expiryError.trans h.expiryError
  requests := h'.requests.trans h.requests
  sent := h'.sent.trans h.sent
  called := h'.called.trans h.called

variable (deps) in
omit [DecidableEq N] in
/-- An empty queue sends nothing, whatever comes to it from elsewhere. -/
theorem queue_sent (queue : ExposureQueue) (hempty : queue.pending = []) (event : QueueEvent) :
    (queue.step deps.queue event.event).history.sent = queue.history.sent := by
  cases event with
  | timer => exact (ExposureQueue.onTimer_frame deps.queue queue).sent hempty
  | pageHide => exact (ExposureQueue.onPageEvent_frame deps.queue queue deps.queue.hasWindow).sent hempty
  | hidden => exact (ExposureQueue.onPageEvent_frame deps.queue queue deps.queue.hasDocument).sent hempty
  | answer id reply => exact (ExposureQueue.answer_keeps deps.queue queue id reply).sent
  | resume id =>
    rcases ExposureQueue.resume_cases deps.queue queue id with hframe | ⟨lost, htrims⟩
    · exact hframe.sent hempty
    · exact htrims.sent hempty

theorem withQueue_silent (hexpired : client.expiryError.isSome = true) {queue : ExposureQueue}
    (hsent : queue.history.sent = client.queue.history.sent) : Silent client (client.withQueue queue) := by
  unfold withQueue
  split
  · exact ⟨rfl, rfl, hsent, rfl⟩
  · next error _ =>
    rw [BrowserClient.expire, if_pos hexpired]
    exact ⟨rfl, rfl, hsent, rfl⟩

theorem step_silent (h : Inv client) (hexpired : client.expiryError.isSome = true) (event : Event N) :
    Silent client ((browserClient deps).next client event) := by
  have hempty : client.queue.pending = [] := h.expiry.spent hexpired
  have hstopped : client.loop.stopped = true := h.stopped hexpired
  cases event with
  | init minted =>
    change Silent client (client.init deps minted)
    unfold init
    rw [if_pos hexpired]
    exact .refl client
  | initialized reply =>
    have hpromise : client.initPromise ≠ .pending := by
      intro hpending
      rw [(h.pending hpending).2] at hexpired
      cases hexpired
    change Silent client (client.initialized deps reply)
    unfold initialized
    rw [if_pos hpromise]
    exact .refl client
  | read flagKey defaultValue minted clientTimestamp =>
    obtain ⟨error, herror⟩ := Option.isSome_iff_exists.mp hexpired
    have hread : (client.readDetails deps flagKey defaultValue minted clientTimestamp).2 = client :=
      congrArg Prod.snd (read_expired deps herror flagKey defaultValue minted clientTimestamp)
    change Silent client (client.readDetails deps flagKey defaultValue minted clientTimestamp).2
    rw [hread]
    exact .refl client
  | subscribe flagKey listener => exact ⟨rfl, rfl, rfl, rfl⟩
  | unsubscribe flagKey listener id => exact ⟨rfl, rfl, rfl, rfl⟩
  | flush => exact ⟨rfl, rfl, ExposureQueue.flush_frame.sent hempty, rfl⟩
  | close => exact ⟨rfl, rfl, ExposureQueue.close_frame.sent hempty, rfl⟩
  | revalidate minted =>
    change Silent client (client.revalidate minted)
    rw [revalidate, if_pos (h.halted hstopped)]
    exact .refl client
  | revalidated reply =>
    change Silent client (client.revalidated reply)
    unfold revalidated
    split
    · dsimp only
      rw [if_pos (show (client.setPhase .ticked).loop.stopped = true from hstopped)]
      exact ⟨rfl, rfl, rfl, rfl⟩
    · exact .refl client
  | reschedule =>
    change Silent client client.reschedule
    rw [reschedule]
    split_ifs <;> exact ⟨rfl, rfl, rfl, rfl⟩
  | queue event => exact withQueue_silent hexpired (queue_sent deps client.queue hempty event)

theorem exec_silent {events : List (Event N)} (h : Inv client) (hexpired : client.expiryError.isSome = true) :
    Silent client ((browserClient deps).exec client events) := by
  induction events generalizing client with
  | nil => exact .refl client
  | cons event events ih =>
    have hstep : Silent client ((browserClient deps).next client event) := step_silent h hexpired event
    exact hstep.trans (ih (step_inv h event) (hstep.expiryError ▸ hexpired))

variable (deps) in
/-- **A client whose Environment has expired** asks for no payload, hands no Exposure over and calls no listener
any more, and every read is answered with its default and the error. -/
theorem expired_for_good (before after : List (Event N)) {error : SplitchSdkError}
    (hexpired : ((browserClient deps).run before).expiryError = some error) :
    ((browserClient deps).run (before ++ after)).history.requests =
        ((browserClient deps).run before).history.requests ∧
      ((browserClient deps).run (before ++ after)).queue.history.sent =
        ((browserClient deps).run before).queue.history.sent ∧
      ((browserClient deps).run (before ++ after)).history.called =
        ((browserClient deps).run before).history.called ∧
      ∀ (flagKey : String) (defaultValue : Json N) (minted : Option String) (clientTimestamp : String),
        (browserClient deps).out ((browserClient deps).run (before ++ after))
            (.read flagKey defaultValue minted clientTimestamp) =
          some (.ok ⟨defaultValue, none, .ERROR, some error.code, some error.message⟩) := by
  have hsilent : Silent ((browserClient deps).run before) ((browserClient deps).run (before ++ after)) := by
    rw [(browserClient deps).run_append]
    exact exec_silent (run_inv deps before) (Option.isSome_iff_exists.mpr ⟨error, hexpired⟩)
  refine ⟨hsilent.requests, hsilent.sent, hsilent.called,
    fun flagKey defaultValue minted clientTimestamp => ?_⟩
  have hread := read_expired deps (hsilent.expiryError.trans hexpired) flagKey defaultValue minted clientTimestamp
  exact congrArg some (congrArg Prod.fst hread)

/-- The answer to a revalidation, once the Environment has expired. -/
def goneAnswer : Reply Nat := .ok ⟨⟨some 410, some "ENVIRONMENT_EXPIRED", none⟩, none, none⟩

theorem expired_for_good_gone :
    let error := sdkErrorForFailure "evaluateAll revalidation" ⟨some 410, some "ENVIRONMENT_EXPIRED", none⟩
    let before : List (Event Nat) := [.revalidate (some "request"), .revalidated goneAnswer]
    let after : List (Event Nat) := [.reschedule, .init (some "again"), .revalidate (some "again"), .flush]
    let client := (browserClient bannerDeps).run before
    let client' := (browserClient bannerDeps).run (before ++ after)
    client'.history.requests = client.history.requests ∧
      client'.queue.history.sent = client.queue.history.sent ∧ client'.history.called = client.history.called ∧
      ∀ (flagKey : String) (defaultValue : Json Nat) (minted : Option String) (clientTimestamp : String),
        (browserClient bannerDeps).out client' (.read flagKey defaultValue minted clientTimestamp) =
          some (.ok ⟨defaultValue, none, .ERROR, some error.code, some error.message⟩) := by
  intro error before after client client'
  exact expired_for_good bannerDeps before after (show client.expiryError = some error from rfl)

end BrowserClient

end Browser

end Splitch
