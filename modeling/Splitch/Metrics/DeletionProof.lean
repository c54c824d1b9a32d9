/-
# What a deletion proof promises

Up to the proof one invariant is kept (`DeletionAccounted`): a publication that awaits a queue
send has its record, marked as publishing, and an attempt that was claimed and not settled is the
one of the record, in a state that blocks deletion.  A redaction is refused on both marks, so that
where it is answered with a proof nothing is outstanding.

Behind the proof the record stands redacted until it expires (`Redacted`), and every answer
follows from that.

Expiry itself looks at neither mark: the invariant survives it only where it finds nothing
outstanding (`ExpiresQuietly`).
-/
import Splitch.Metrics.OutboxEffects

namespace Splitch

open StateActions MetricEventOutbox

variable {env : MetricOutboxEnv} {stored : Option MetricEventClaimState}

/-! ## 1. What is outstanding -/

/-- Every attempt that is claimed and not settled is the one of the record, and blocks deletion. -/
def UnsettledRecorded (core : OutboxCore) : Prop :=
  ∀ attemptId ∈ core.unsettled, ∃ record attempt, core.record = some record ∧
    record.delivery = some attempt ∧ attempt.attemptId = attemptId ∧ isUnresolved (some attempt)

structure DeletionAccounted (world : MetricOutboxWorld) : Prop where
  publication : world.publication.isSome → Publishing world.outbox
  unsettled : UnsettledRecorded world.outbox.core

section Core

variable {core core' : OutboxCore} {licence : MetricAct → Prop}

/-- Where the record blocks no deletion, every attempt is settled. -/
theorem UnsettledRecorded.nil (h : UnsettledRecorded core)
    (hresolved : ∀ record ∈ core.record, isUnresolved record.delivery = false) :
    core.unsettled = [] := by
  refine List.eq_nil_iff_forall_not_mem.mpr fun attemptId hmem => ?_
  obtain ⟨record, attempt, hrecord, hdelivery, -, hunresolved⟩ := h attemptId hmem
  have hfalse := hresolved record hrecord
  rw [hdelivery, hunresolved] at hfalse
  cases hfalse

theorem Sendable.resolved {delivery : Option MetricEventDeliveryAttempt} (h : Sendable delivery) :
    isUnresolved delivery = false := by
  cases delivery with
  | none => rfl
  | some attempt =>
    rw [isUnresolved, Option.any_some, h attempt rfl]
    rfl

/-- **The moves keep the account**, as long as what expires blocks no deletion. An attempt is put on
the account with the record that holds it, and taken off when it is settled; the record is written
anew or emptied only where it holds no unresolved one. -/
theorem UnsettledRecorded.move (hexpire : ∀ delivery, licence (.expire delivery) →
    isUnresolved delivery = false) (hmove : OutboxMove licence core core')
    (h : UnsettledRecorded core) : UnsettledRecorded core' := by
  have hkept : ∀ {record record' : MetricEventClaimState}, core.record = some record →
      record'.delivery = record.delivery →
      UnsettledRecorded { core with record := some record' }
  · intro record record' hrecord hdelivery attemptId hmem
    obtain ⟨record'', attempt, hrecord', hattempt, hid, hunresolved⟩ := h attemptId hmem
    rw [hrecord] at hrecord'
    cases hrecord'
    exact ⟨record', attempt, rfl, hdelivery.trans hattempt, hid, hunresolved⟩
  have hemptied : core.unsettled = [] → ∀ record, UnsettledRecorded { core with record }
  · intro hnil record attemptId hmem
    dsimp only at hmem
    rw [hnil] at hmem
    cases hmem
  cases hmove with
  | create hmay hnone incoming expiresAt =>
    refine hemptied (h.nil fun record hrecord => ?_) _
    rw [hnone] at hrecord
    cases hrecord
  | renew hmay hrecord expiresAt hexpiry => exact hkept hrecord rfl
  | publication hmay hrecord hdeleted hdeleted' hdelivery => exact hkept hrecord hdelivery
  | @claim attempt hmay record hrecord hdeleted hsendable hstate =>
    have hnil := h.nil fun record' hrecord' => by
      cases hrecord.symm.trans hrecord'
      exact hsendable.resolved
    intro attemptId hmem
    dsimp only at hmem
    rw [hnil, List.mem_singleton] at hmem
    subst hmem
    refine ⟨_, attempt, rfl, rfl, rfl, ?_⟩
    rw [isUnresolved, Option.any_some, hstate]
    rfl
  | exhaust hmay hrecord hdeleted hsendable hstate =>
    refine hemptied (h.nil fun record' hrecord' => ?_) _
    cases hrecord.symm.trans hrecord'
    exact hsendable.resolved
  | @settle attempt hmay record hrecord hcurrent =>
    intro attemptId hmem
    have hwas : attemptId ∈ core.unsettled
    · dsimp only at hmem
      split at hmem
      · exact hmem
      · exact List.mem_of_mem_filter hmem
    obtain ⟨record', attempt', hrecord', hdelivery, hid, -⟩ := h attemptId hwas
    cases hrecord.symm.trans hrecord'
    rw [hdelivery, Option.map_some, Option.some_inj] at hcurrent
    refine ⟨_, attempt, rfl, rfl, hcurrent.symm.trans hid, ?_⟩
    by_contra hresolved
    dsimp only at hmem
    rw [if_neg hresolved, List.mem_filter] at hmem
    exact absurd (hid.symm.trans hcurrent) (of_decide_eq_true hmem.2)
  | redact hmay hquiet fingerprint definitionId versionId expiresAt hsame =>
    exact hemptied (h.nil fun record hrecord => (hquiet record hrecord).2) _
  | @expire record hrecord hmay =>
    refine hemptied (h.nil fun record' hrecord' => ?_) _
    cases hrecord.symm.trans hrecord'
    exact hexpire _ hmay

/-- Is there a record that is publishing? -/
def CorePublishing (core : OutboxCore) : Prop :=
  ∃ record, core.record = some record ∧ record.publishing = true ∧ record.deleted = false

/-- **No request takes the mark off**, as long as none of them expires the record. Only a publication
does, for which no request is licensed; and a deletion is refused while the mark is there. -/
theorem CorePublishing.move (hexpire : ∀ delivery, ¬ licence (.expire delivery))
    (hpublication : ¬ licence .publication) (hmove : OutboxMove licence core core')
    (h : CorePublishing core) : CorePublishing core' := by
  obtain ⟨record, hrecord, hpublishing, hdeleted⟩ := h
  cases hmove with
  | create hmay hnone incoming expiresAt =>
    rw [hnone] at hrecord
    cases hrecord
  | renew hmay hrecord' expiresAt hexpiry =>
    cases hrecord.symm.trans hrecord'
    exact ⟨_, rfl, hpublishing, hdeleted⟩
  | publication hmay hrecord' hdeleted' hdeleted'' hdelivery => exact absurd hmay hpublication
  | claim hmay hrecord' hdeleted' hsendable hstate =>
    cases hrecord.symm.trans hrecord'
    exact ⟨_, rfl, hpublishing, hdeleted⟩
  | exhaust hmay hrecord' hdeleted' hsendable hstate =>
    cases hrecord.symm.trans hrecord'
    exact ⟨_, rfl, hpublishing, hdeleted⟩
  | settle hmay hrecord' hcurrent =>
    cases hrecord.symm.trans hrecord'
    exact ⟨_, rfl, hpublishing, hdeleted⟩
  | redact hmay hquiet fingerprint definitionId versionId expiresAt hsame =>
    rw [(hquiet record hrecord).1] at hpublishing
    cases hpublishing
  | expire hrecord' hmay => exact absurd hmay (hexpire _)

end Core

/-! ## 2. The invariant of a run -/

/-- **The condition**: what expires blocks no deletion, and no queue send is outstanding. -/
def ExpiresQuietly (env : MetricOutboxEnv) (world : MetricOutboxWorld) : MetricOutboxEvent → Prop
  | .request (.retain supplied) now _ =>
    ∀ record ∈ world.outbox.record, Expired env now supplied record →
      world.publication = none ∧ isUnresolved record.delivery = false
  | .alarm now _ =>
    world.alarmFires now → ∀ record ∈ world.outbox.record, Expired env now none record →
      isUnresolved record.delivery = false
  | _ => True

instance (env : MetricOutboxEnv) (world : MetricOutboxWorld) :
    ∀ event, Decidable (ExpiresQuietly env world event)
  | .request (.retain supplied) now _ => inferInstanceAs (Decidable (∀ record ∈ world.outbox.record,
      Expired env now supplied record →
        world.publication = none ∧ isUnresolved record.delivery = false))
  | .alarm now _ => inferInstanceAs (Decidable (world.alarmFires now →
      ∀ record ∈ world.outbox.record, Expired env now none record →
        isUnresolved record.delivery = false))
  | .request .lookup _ _ | .request .exportRows _ _ | .request .delivery _ _ | .request (.claim _) _ _
  | .request (.beginDelivery _) _ _ | .request (.settleDelivery _) _ _ | .request (.suppress _) _ _
  | .sent _ _ _ | .evicted _ => isTrue trivial

theorem requestLicence_not_publication {now : Int} {request : MetricEventRequest} :
    ¬ requestLicence env now stored request .publication := by
  cases request <;> exact id

theorem requestLicence_expire {now : Int} {request : MetricEventRequest}
    {delivery : Option MetricEventDeliveryAttempt}
    (h : requestLicence env now stored request (.expire delivery)) :
    ∃ supplied, request = .retain supplied ∧
      ∃ record ∈ stored, record.delivery = delivery ∧ Expired env now supplied record := by
  cases request with
  | retain supplied => exact ⟨supplied, rfl, h⟩
  | lookup => cases h
  | exportRows => cases h
  | delivery => cases h
  | claim incoming => cases h
  | beginDelivery attemptId => cases h
  | settleDelivery attempt => cases h
  | suppress input => cases h

/-- An alarm handler that gets to a queue send leaves a record that is publishing. -/
theorem settleAlarm_accounted {handler : MetricOutboxM AlarmProgress} {outbox : MetricEventOutbox}
    {licence : MetricAct → Prop}
    (h : Guarantees (MetricMoving licence) handler outbox
      (fun progress after => progress = .ended ∨ Publishing after))
    (hunsettled : UnsettledRecorded (handler outbox).2.core) :
    DeletionAccounted (MetricOutboxWorld.settleAlarm (handler outbox)).2 := by
  obtain ⟨-, hanswers⟩ := h
  rcases hresult : handler outbox with ⟨fault | progress, after⟩
  · rw [hresult] at hunsettled
    exact ⟨fun hsome => (by cases hsome), hunsettled⟩
  · rw [hresult] at hunsettled hanswers
    cases progress with
    | ended => exact ⟨fun hsome => (by cases hsome), hunsettled⟩
    | sending publication =>
      rcases hanswers _ rfl with hended | hpublishing
      · cases hended
      · exact ⟨fun _ => hpublishing, hunsettled⟩

theorem answered_snd (world : MetricOutboxWorld)
    (result : Except OutboxFault MetricEventResponse × MetricEventOutbox) :
    (world.answered result).2 = { world with outbox := result.2 } := by
  rcases result with ⟨_ | _, _⟩ <;> rfl

/-- **One step keeps the account.** A request moves the record by what it is licensed for; an alarm,
and the answer of the queue that it waits for, by publication and expiry. -/
theorem DeletionAccounted.step {world : MetricOutboxWorld} (h : DeletionAccounted world)
    {event : MetricOutboxEvent} (hquiet : ExpiresQuietly env world event) :
    DeletionAccounted ((metricEventOutbox env stored).next world event) := by
  cases event with
  | request request now stopAfter =>
    change DeletionAccounted (world.answered (world.run stopAfter (handle env now request))).2
    rw [answered_snd]
    have hmoves := (guarantees_handle env now { world.outbox with stopAfter } request).1
    have hexpire : ∀ delivery, requestLicence env now world.outbox.record request
        (.expire delivery) → world.publication = none ∧ isUnresolved delivery = false
    · intro delivery hmay
      obtain ⟨supplied, rfl, record, hrecord, rfl, hexpired⟩ := requestLicence_expire hmay
      exact hquiet record hrecord hexpired
    refine ⟨fun hsome => ?_, ?_⟩
    · refine MetricMoving.invariant (I := CorePublishing) (fun core core' hmove => ?_) hmoves
        (h.publication hsome)
      refine CorePublishing.move (fun delivery hmay => ?_) requestLicence_not_publication hmove
      have hnone := (hexpire delivery hmay).1
      dsimp only at hsome
      rw [hnone] at hsome
      cases hsome
    · refine MetricMoving.invariant (I := UnsettledRecorded) (fun core core' hmove => ?_) hmoves
        h.unsettled
      exact UnsettledRecorded.move (fun delivery hmay => (hexpire delivery hmay).2) hmove
  | alarm now stopAfter =>
    by_cases hfires : world.alarmFires now
    · have hhandler : Guarantees (MetricMoving (alarmLicence env now world.outbox.record))
          (alarmHandler env now) { world.outbox with alarm := none, stopAfter }
          (fun progress after => progress = .ended ∨ Publishing after) :=
        guarantees_alarmHandler trivial trivial
          fun record hrecord hexpired => ⟨record, hrecord, rfl, hexpired⟩
      change DeletionAccounted (MetricOutboxWorld.step env world (.alarm now stopAfter)).2
      rw [MetricOutboxWorld.step, if_pos hfires]
      refine settleAlarm_accounted hhandler ?_
      refine MetricMoving.invariant (I := UnsettledRecorded) (fun core core' hmove => ?_) hhandler.1
        h.unsettled
      refine UnsettledRecorded.move ?_ hmove
      rintro delivery ⟨record, hrecord, rfl, hexpired⟩
      exact hquiet hfires record hrecord hexpired
    · change DeletionAccounted (MetricOutboxWorld.step env world (.alarm now stopAfter)).2
      rw [MetricOutboxWorld.step, if_neg hfires]
      exact h
  | sent fate now stopAfter =>
    change DeletionAccounted (MetricOutboxWorld.step env world (.sent fate now stopAfter)).2
    unfold MetricOutboxWorld.step
    cases hpublication : world.publication with
    | none => exact h
    | some publication =>
      have hpublishing : Publishing { world.outbox with stopAfter } :=
        h.publication (by rw [hpublication]; rfl)
      have hhandler : Guarantees (MetricMoving (alarmLicence env now none))
          (resumePublication now publication fate) { world.outbox with stopAfter }
          (fun progress after => progress = .ended ∨
            (Publishing { world.outbox with stopAfter } → Publishing after)) :=
        guarantees_resumePublication trivial
      refine settleAlarm_accounted (hhandler.mono fun _ _ _ hprogress => ?_) ?_
      · exact hprogress.imp id fun hkeeps => hkeeps hpublishing
      · refine MetricMoving.invariant (I := UnsettledRecorded) (fun core core' hmove => ?_) hhandler.1
          h.unsettled
        refine UnsettledRecorded.move ?_ hmove
        rintro delivery ⟨record, hrecord, -⟩
        cases hrecord
  | evicted now => exact ⟨fun hsome => (by cases hsome), h.unsettled⟩

theorem accounted_init : DeletionAccounted (metricEventOutbox env stored).init := by
  refine ⟨fun hsome => (by cases hsome), fun attemptId hmem => ?_⟩
  obtain ⟨attempt, hattempt, rfl⟩ := List.mem_map.mp hmem
  obtain ⟨hdelivery, hunresolved⟩ := Option.filter_eq_some_iff.mp (Option.mem_toList.mp hattempt)
  obtain ⟨record, hrecord, hdelivery⟩ := Option.bind_eq_some_iff.mp hdelivery
  exact ⟨record, attempt, hrecord, hdelivery, rfl, hunresolved⟩

/-! ## 3. Behind the proof -/

/-- The record stands redacted. -/
def Stands (fingerprint : String) (expiresAt : Int) (core : OutboxCore) : Prop :=
  ∃ definitionId versionId,
    core.record = some (redacted fingerprint definitionId versionId expiresAt)

section Redacted

variable {now expiresAt : Int} {fingerprint : String} {outbox : MetricEventOutbox}

/-- **No move gets at a redacted record** before it expires. It is deleted, and what publishes, claims
or settles is for records that are not; renewing it would keep the expiry it has. -/
theorem Stands.move {core core' : OutboxCore} {licence : MetricAct → Prop}
    (hexpire : ∀ delivery, ¬ licence (.expire delivery)) (hmove : OutboxMove licence core core')
    (h : Stands fingerprint expiresAt core) : Stands fingerprint expiresAt core' := by
  obtain ⟨definitionId, versionId, hrecord⟩ := h
  cases hmove with
  | create hmay hnone incoming expiresAt' =>
    rw [hnone] at hrecord
    cases hrecord
  | renew hmay hrecord' expiresAt' hexpiry =>
    cases hrecord.symm.trans hrecord'
    rw [hexpiry expiresAt rfl]
    exact ⟨definitionId, versionId, rfl⟩
  | publication hmay hrecord' hdeleted hdeleted' hdelivery =>
    cases hrecord.symm.trans hrecord'
    cases hdeleted
  | claim hmay hrecord' hdeleted hsendable hstate =>
    cases hrecord.symm.trans hrecord'
    cases hdeleted
  | exhaust hmay hrecord' hdeleted hsendable hstate =>
    cases hrecord.symm.trans hrecord'
    cases hdeleted
  | settle hmay hrecord' hcurrent =>
    cases hrecord.symm.trans hrecord'
    cases hcurrent
  | redact hmay hquiet fingerprint' definitionId' versionId' expiresAt' hsame =>
    obtain ⟨rfl, hexpiry⟩ := hsame _ hrecord
    rw [hexpiry expiresAt rfl]
    exact ⟨definitionId', versionId', rfl⟩
  | expire hrecord' hmay => exact absurd hmay (hexpire _)

/-- A redacted record that is not past its expiry does not expire. -/
theorem Stands.not_expired {core : OutboxCore} (h : Stands fingerprint expiresAt core)
    (hnow : now < expiresAt) {supplied : Option RowValue} :
    ∀ record ∈ core.record, ¬ Expired env now supplied record := by
  obtain ⟨definitionId, versionId, hrecord⟩ := h
  rintro record hrecord' ⟨expiresAt', hpast, hexpires⟩
  cases hrecord.symm.trans hrecord'
  have hsame : expiresAt' = expiresAt := claimExpiresAt_sealed hexpires
  omega

theorem setAlarm_answer (scheduledTime : Int) (outbox : MetricEventOutbox) :
    (setAlarm scheduledTime outbox).1 = .ok () ∨
      (setAlarm scheduledTime outbox).1 = .error .stopped := by
  change (stopPoint _).1 = _ ∨ (stopPoint _).1 = _
  unfold stopPoint
  rw [andThen_apply, get_ok_apply]
  dsimp only
  cases outbox.stopAfter with
  | none => exact .inl rfl
  | some n =>
    cases n with
    | zero => exact .inr rfl
    | succ n => exact .inl rfl

variable {definitionId versionId : String}

theorem retained_redacted
    (h : outbox.record = some (redacted fingerprint definitionId versionId expiresAt)) :
    retained env now outbox =
      (.ok (some (redacted fingerprint definitionId versionId expiresAt)), outbox) := by
  unfold retained
  rw [andThen_of_ok getRecord_apply, h]
  rfl

theorem schedulePublication_redacted :
    schedulePublication env now (redacted fingerprint definitionId versionId expiresAt)
      = setAlarm expiresAt := rfl

/-- What follows a write of the alarm is answered, unless the handler stops. -/
theorem setAlarm_then {response : MetricEventResponse} (scheduledTime : Int)
    (outbox : MetricEventOutbox) :
    ((setAlarm scheduledTime >>= fun _ => pure response : MetricOutboxM _) outbox).1
        = .ok response ∨
      ((setAlarm scheduledTime >>= fun _ => pure response : MetricOutboxM _) outbox).1
        = .error .stopped := by
  rw [andThen_apply]
  rcases setAlarm_answer scheduledTime outbox with hok | hstopped
  · rw [hok]
    exact .inl rfl
  · rw [hstopped]
    exact .inr rfl

/-- `/begin-delivery` answers `deleted`. -/
theorem beginDelivery_redacted {attemptId : String} (hid : attemptId ≠ "")
    (h : outbox.record = some (redacted fingerprint definitionId versionId expiresAt)) :
    (beginDelivery env now (some attemptId) outbox).1 = .ok (.begun .deleted) := by
  unfold beginDelivery
  rw [Option.filter_some, if_pos (decide_eq_true hid)]
  dsimp only
  rw [andThen_of_ok (retained_redacted h)]
  rfl

/-- `/claim` is a duplicate or a conflict. -/
theorem claim_redacted {incoming : MetricEventClaimInput}
    (h : outbox.record = some (redacted fingerprint definitionId versionId expiresAt)) :
    (claim env now incoming outbox).1 = .error .stopped ∨
      ∃ answer, (claim env now incoming outbox).1 = .ok (.claim answer) ∧
        answer.outcome = if incoming.fingerprint = fingerprint then .duplicate else .conflict := by
  unfold claim
  rw [andThen_of_ok (retained_redacted h)]
  dsimp only
  have hfingerprint : (redacted fingerprint definitionId versionId expiresAt).fingerprint
      = fingerprint := rfl
  rw [hfingerprint]
  by_cases hsame : incoming.fingerprint = fingerprint
  · rw [if_neg (not_not.mpr hsame.symm), if_pos hsame, schedulePublication_redacted]
    rcases setAlarm_then expiresAt outbox with hanswer | hstopped
    · exact .inr ⟨_, hanswer, rfl⟩
    · exact .inl hstopped
  · rw [if_pos (Ne.symm hsame), if_neg hsame]
    exact .inr ⟨_, rfl, rfl⟩

/-- `/export` returns no row. -/
theorem export_redacted
    (h : outbox.record = some (redacted fingerprint definitionId versionId expiresAt)) :
    (MetricEventOutbox.read env now exported outbox).1 = .error .stopped ∨
      (MetricEventOutbox.read env now exported outbox).1 = .ok (.exported true none []) := by
  unfold MetricEventOutbox.read
  rw [andThen_of_ok (retained_redacted h)]
  dsimp only
  rw [schedulePublication_redacted]
  exact (setAlarm_then expiresAt outbox).symm

/-- An alarm sends nothing. -/
theorem alarmHandler_redacted (hnow : now < expiresAt)
    (h : outbox.record = some (redacted fingerprint definitionId versionId expiresAt)) :
    ∀ publication, (alarmHandler env now outbox).1 ≠ .ok (.sending publication) := by
  unfold alarmHandler
  rw [andThen_of_ok getRecord_apply, h]
  dsimp only
  have hexpires : expiresAtOf env (redacted fingerprint definitionId versionId expiresAt) none outbox
      = (.ok expiresAt, outbox) := rfl
  rw [andThen_of_ok hexpires]
  have hsealed : sealExpiry (redacted fingerprint definitionId versionId expiresAt) expiresAt outbox
      = (.ok (), outbox) := rfl
  have hidle : ((redacted fingerprint definitionId versionId expiresAt).queued ||
      (redacted fingerprint definitionId versionId expiresAt).deleted) = true := rfl
  rw [andThen_of_ok hsealed, if_neg (by omega), if_pos hidle, andThen_apply]
  intro publication
  rcases setAlarm_answer expiresAt outbox with hok | hstopped
  · rw [hok]
    exact fun h => by cases h
  · rw [hstopped]
    exact fun h => by cases h

end Redacted

/-! ## 4. The answers behind the proof -/

structure Redacted (fingerprint : String) (expiresAt : Int) (world : MetricOutboxWorld) : Prop where
  stands : Stands fingerprint expiresAt world.outbox.core
  idle : world.publication = none

/-- What the proof promises of one event, by the event and its output.  A handler that stops
answers nothing. -/
def KeepsPromise (fingerprint : String) (event : MetricOutboxEvent)
    (output : MetricOutboxOutput) : Prop :=
  (∀ publication, output ≠ .progress (.sending publication)) ∧
  match event with
  | .request (.beginDelivery (some attemptId)) _ _ =>
    attemptId ≠ "" → output = .response (.begun .deleted)
  | .request (.claim incoming) _ _ =>
    output = .fault .stopped ∨ ∃ answer, output = .response (.claim answer) ∧
      answer.outcome = if incoming.fingerprint = fingerprint then .duplicate else .conflict
  | .request .exportRows _ _ =>
    output = .fault .stopped ∨ output = .response (.exported true none [])
  | _ => True

theorem answered_fst_of_ok {world : MetricOutboxWorld} {response : MetricEventResponse}
    {result : Except OutboxFault MetricEventResponse × MetricEventOutbox}
    (h : result.1 = .ok response) : (world.answered result).1 = .response response := by
  obtain ⟨_, outbox⟩ := result
  cases h
  rfl

theorem answered_fst_of_error {world : MetricOutboxWorld} {fault : OutboxFault}
    {result : Except OutboxFault MetricEventResponse × MetricEventOutbox}
    (h : result.1 = .error fault) : (world.answered result).1 = .fault fault := by
  obtain ⟨_, outbox⟩ := result
  cases h
  rfl

theorem answered_not_sending {world : MetricOutboxWorld}
    {result : Except OutboxFault MetricEventResponse × MetricEventOutbox}
    (publication : Publication) :
    (world.answered result).1 ≠ .progress (.sending publication) := by
  rcases result with ⟨_ | _, outbox⟩ <;> exact fun h => by cases h

section Step

variable {world : MetricOutboxWorld} {event : MetricOutboxEvent} {fingerprint : String}
  {expiresAt : Int}

/-- **One step behind the proof** keeps its promise, and leaves the record redacted. The promise is
read off the record: an export finds no row in it, and a claim is answered as a duplicate of its
fingerprint or as a conflict with it. -/
theorem Redacted.step (h : Redacted fingerprint expiresAt world) (hnow : event.now < expiresAt) :
    KeepsPromise fingerprint event ((metricEventOutbox env stored).out world event) ∧
      Redacted fingerprint expiresAt ((metricEventOutbox env stored).next world event) := by
  obtain ⟨⟨definitionId, versionId, hrecord⟩, hidle⟩ := h
  have hstands : Stands fingerprint expiresAt world.outbox.core := ⟨_, _, hrecord⟩
  cases event with
  | request request now stopAfter =>
    have hnow : now < expiresAt := hnow
    have hrecord' : { world.outbox with stopAfter }.record
        = some (redacted fingerprint definitionId versionId expiresAt) := hrecord
    change KeepsPromise _ _ (world.answered (world.run stopAfter (handle env now request))).1 ∧
      Redacted _ _ (world.answered (world.run stopAfter (handle env now request))).2
    refine ⟨⟨answered_not_sending, ?_⟩, ?_⟩
    · cases request with
      | lookup => trivial
      | exportRows =>
        rcases export_redacted hrecord' with hstopped | hok
        · exact .inl (answered_fst_of_error hstopped)
        · exact .inr (answered_fst_of_ok hok)
      | delivery => trivial
      | claim incoming =>
        rcases claim_redacted hrecord' with hstopped | ⟨answer, hok, houtcome⟩
        · exact .inl (answered_fst_of_error hstopped)
        · exact .inr ⟨answer, answered_fst_of_ok hok, houtcome⟩
      | retain supplied => trivial
      | beginDelivery attemptId =>
        cases attemptId with
        | none => trivial
        | some attemptId =>
          exact fun hid => answered_fst_of_ok (beginDelivery_redacted hid hrecord')
      | settleDelivery attempt => trivial
      | suppress input => trivial
    · rw [answered_snd]
      refine ⟨?_, hidle⟩
      have hmoves := (guarantees_handle env now { world.outbox with stopAfter } request).1
      refine MetricMoving.invariant (I := Stands fingerprint expiresAt) (fun core core' hmove => ?_)
        hmoves hstands
      refine Stands.move (fun delivery hmay => ?_) hmove
      obtain ⟨supplied, -, record, hfound, -, hexpired⟩ := requestLicence_expire hmay
      exact hstands.not_expired hnow record hfound hexpired
  | alarm now stopAfter =>
    have hnow : now < expiresAt := hnow
    change KeepsPromise _ _ (MetricOutboxWorld.step env world (.alarm now stopAfter)).1 ∧
      Redacted _ _ (MetricOutboxWorld.step env world (.alarm now stopAfter)).2
    by_cases hfires : world.alarmFires now
    · rw [MetricOutboxWorld.step, if_pos hfires]
      have hhandler : Guarantees (MetricMoving (alarmLicence env now world.outbox.record))
          (alarmHandler env now) { world.outbox with alarm := none, stopAfter }
          (fun progress after => progress = .ended ∨ Publishing after) :=
        guarantees_alarmHandler trivial trivial
          fun record hrecord hexpired => ⟨record, hrecord, rfl, hexpired⟩
      have hsilent : ∀ publication,
          (alarmHandler env now { world.outbox with alarm := none, stopAfter }).1
            ≠ .ok (.sending publication) := alarmHandler_redacted hnow hrecord
      have hafter : Stands fingerprint expiresAt
          (alarmHandler env now { world.outbox with alarm := none, stopAfter }).2.core
      · refine MetricMoving.invariant (I := Stands fingerprint expiresAt) (fun core core' hmove => ?_)
          hhandler.1 hstands
        refine Stands.move ?_ hmove
        rintro delivery ⟨record, hrecord', -, hexpired⟩
        exact hstands.not_expired hnow record hrecord' hexpired
      change KeepsPromise _ _ (MetricOutboxWorld.settleAlarm (alarmHandler env now _)).1 ∧
        Redacted _ _ (MetricOutboxWorld.settleAlarm (alarmHandler env now _)).2
      revert hsilent hafter
      rcases alarmHandler env now { world.outbox with alarm := none, stopAfter } with
        ⟨fault | progress, after⟩
      · exact fun _ hafter => ⟨⟨fun _ h => (by cases h), trivial⟩, hafter, rfl⟩
      · cases progress with
        | ended => exact fun _ hafter => ⟨⟨fun _ h => (by cases h), trivial⟩, hafter, rfl⟩
        | sending publication => exact fun hsilent _ => absurd rfl (hsilent publication)
    · rw [MetricOutboxWorld.step, if_neg hfires]
      exact ⟨⟨fun _ h => (by cases h), trivial⟩, hstands, hidle⟩
  | sent fate now stopAfter =>
    change KeepsPromise _ _ (MetricOutboxWorld.step env world (.sent fate now stopAfter)).1 ∧
      Redacted _ _ (MetricOutboxWorld.step env world (.sent fate now stopAfter)).2
    rw [MetricOutboxWorld.step, hidle]
    exact ⟨⟨fun _ h => (by cases h), trivial⟩, hstands, hidle⟩
  | evicted now => exact ⟨⟨fun _ h => (by cases h), trivial⟩, hstands, rfl⟩

end Step

/-! ## 5. Runs -/

/-- **The claim's property**: a proof is answered with nothing outstanding, and its promise is
kept by all that follows before the claim expires. -/
def DeletionProofSound (env : MetricOutboxEnv) (stored : Option MetricEventClaimState)
    (history : List MetricOutboxEvent) : Prop :=
  let outbox := metricEventOutbox env stored
  ∀ before input now stopAfter after,
    history = before ++ .request (.suppress input) now stopAfter :: after →
    outbox.out (outbox.run before) (.request (.suppress input) now stopAfter)
      = .response .deletionProof →
    let proved := outbox.run (before ++ [.request (.suppress input) now stopAfter])
    proved.publication = none ∧ proved.outbox.unsettled = [] ∧
      ∃ fingerprint expiresAt, input.fingerprint = some fingerprint ∧
        Stands fingerprint expiresAt proved.outbox.core ∧
        ∀ between event, between ++ [event] <+: after →
          (∀ event' ∈ between ++ [event], event'.now < expiresAt) →
          KeepsPromise fingerprint event (outbox.out (outbox.exec proved between) event)

theorem Redacted.exec {world : MetricOutboxWorld} {fingerprint : String} {expiresAt : Int}
    (h : Redacted fingerprint expiresAt world) {events : List MetricOutboxEvent}
    (hnow : ∀ event ∈ events, event.now < expiresAt) :
    Redacted fingerprint expiresAt ((metricEventOutbox env stored).exec world events) := by
  induction events generalizing world with
  | nil => exact h
  | cons event rest ih =>
    exact ih (h.step (hnow event (by simp))).2 fun event' hmem => hnow event' (by simp [hmem])

/-- What a proof says of the record. -/
theorem stands_of_proof {world : MetricOutboxWorld} {input : SuppressionInput} {now : Int}
    {stopAfter : Option Nat}
    (hproof : (metricEventOutbox env stored).out world (.request (.suppress input) now stopAfter)
      = .response .deletionProof) :
    ∃ fingerprint expiresAt, input.fingerprint = some fingerprint ∧
      Stands fingerprint expiresAt ((metricEventOutbox env stored).next world
        (.request (.suppress input) now stopAfter)).outbox.core := by
  change (world.answered (world.run stopAfter (suppress env input))).1 = _ at hproof
  change ∃ fingerprint expiresAt, _ ∧ Stands fingerprint expiresAt
    (world.answered (world.run stopAfter (suppress env input))).2.outbox.core
  have hhandler : Guarantees (MetricMoving (· = .redact)) (suppress env input)
    { world.outbox with stopAfter } _ := guarantees_suppress rfl
  rw [answered_snd]
  rcases hresult : world.run stopAfter (suppress env input) with ⟨fault | response, after⟩
  · rw [hresult] at hproof
    cases hproof
  · rw [hresult] at hproof
    have hresponse : response = .deletionProof := MetricOutboxOutput.response.inj hproof
    have hanswer : (suppress env input { world.outbox with stopAfter }) = (.ok response, after) :=
      hresult
    obtain ⟨fingerprint, definitionId, versionId, expiresAt, hfingerprint, hrecord⟩ :=
      hhandler.2 response (congrArg Prod.fst hanswer) hresponse
    rw [hanswer] at hrecord
    exact ⟨fingerprint, expiresAt, hfingerprint, definitionId, versionId, hrecord⟩

/-- **Deletion proofs are sound**, in every run in which no expiry deletes a record whose attempt
is unresolved, or whose publication awaits a queue send. -/
theorem deletion_proof_sound (env : MetricOutboxEnv) (stored : Option MetricEventClaimState)
    (history : List MetricOutboxEvent)
    (hquiet : (metricEventOutbox env stored).Guarded (ExpiresQuietly env)
      (metricEventOutbox env stored).init history) :
    DeletionProofSound env stored history := by
  rintro before input now stopAfter after rfl hproof
  obtain ⟨hbefore, hevent, -⟩ := ((metricEventOutbox env stored).guarded_append).mp hquiet
  have haccounted : DeletionAccounted ((metricEventOutbox env stored).run before) :=
    (metricEventOutbox env stored).exec_invariant_of_guarded
      (fun _ _ h hquiet => h.step hquiet) accounted_init hbefore
  obtain ⟨hpublication, hunsettled⟩ := haccounted.step hevent
  obtain ⟨fingerprint, expiresAt, hfingerprint, hstands⟩ := stands_of_proof hproof
  rw [Machine.run_concat]
  obtain ⟨definitionId, versionId, hrecord⟩ := hstands
  have hidle : ((metricEventOutbox env stored).next ((metricEventOutbox env stored).run before)
      (.request (.suppress input) now stopAfter)).publication = none
  · by_contra hsome
    obtain ⟨record, hrecord', -, hdeleted⟩ :=
      hpublication (Option.isSome_iff_ne_none.mpr hsome)
    cases hrecord.symm.trans hrecord'
    cases hdeleted
  refine ⟨hidle, hunsettled.nil fun record hrecord' => ?_, fingerprint, expiresAt, hfingerprint,
    ⟨_, _, hrecord⟩, fun between event hpre hnow => ?_⟩
  · cases hrecord.symm.trans hrecord'
    rfl
  · have hredacted : Redacted fingerprint expiresAt _ := ⟨⟨_, _, hrecord⟩, hidle⟩
    refine ((hredacted.exec fun event' hmem => hnow event' ?_).step (hnow event ?_)).1
    · exact List.mem_append_left _ hmem
    · exact List.mem_append_right _ (List.mem_singleton_self event)

/-! ## 6. Expiry under an attempt -/

def firstReceivedAt : Int := 1767225600000

/-- What `Date.parse` makes of two timestamps, 90 days apart. -/
def metricOutboxEnv : MetricOutboxEnv where
  dateParse text :=
    if text = "2026-01-01T00:00:00.000Z" then some firstReceivedAt
    else if text = "2026-04-01T00:00:00.000Z" then
      some (firstReceivedAt + METRIC_EVENT_CLAIM_RETENTION_MS)
    else none
  metricEventsQueue := true

def metricClaim (serverReceivedAt : String) (now : Int) : MetricOutboxEvent :=
  .request (.claim
    { fingerprint := "fingerprint"
      eventDefinitionId := "definition"
      eventDefinitionVersionId := "version"
      row := some ⟨[("server_received_at", .text serverReceivedAt)]⟩
      activationRows := []
      activatedRuns := 0
      expiresAt := none }) now none

def metricSuppression (now : Int) : MetricOutboxEvent :=
  .request (.suppress
    { fingerprint := some "fingerprint"
      eventDefinitionId := some "definition"
      eventDefinitionVersionId := some "version"
      row := none
      expiresAt := none
      serverReceivedAt := none }) now none

/-- The event is published and delivered, and deleted after that; the delivery is begun again, and its
settlement comes once more, before the claim expires. -/
def deliveredHistory : List MetricOutboxEvent :=
  [metricClaim "2026-01-01T00:00:00.000Z" firstReceivedAt,
    .alarm (firstReceivedAt + 1) none, .sent (.ok ()) (firstReceivedAt + 2) none,
    .sent (.ok ()) (firstReceivedAt + 3) none,
    .request (.retain (some (.text "2026-01-01T00:00:00.000Z"))) (firstReceivedAt + 4) none,
    .request (.beginDelivery (some "attempt")) (firstReceivedAt + 5) none,
    .request (.settleDelivery ⟨"attempt", .delivered, 1, none, none⟩) (firstReceivedAt + 6) none]

def redactedHistory : List MetricOutboxEvent :=
  [.request (.beginDelivery (some "again")) (firstReceivedAt + 8) none,
    .request (.settleDelivery ⟨"attempt", .delivered, 1, none, none⟩) (firstReceivedAt + 9) none,
    .alarm (firstReceivedAt + METRIC_EVENT_CLAIM_RETENTION_MS) none]

def deliveredRun : List MetricOutboxEvent :=
  deliveredHistory ++ metricSuppression (firstReceivedAt + 7) :: redactedHistory

theorem deletion_proof_sound_delivered :
    let outbox := metricEventOutbox metricOutboxEnv none
    outbox.out (outbox.run deliveredHistory) (metricSuppression (firstReceivedAt + 7)) =
        .response .deletionProof ∧ DeletionProofSound metricOutboxEnv none deliveredRun :=
  ⟨by decide +kernel, deletion_proof_sound metricOutboxEnv none _ (by decide +kernel)⟩
/-- The attempt is claimed a moment before the record expires; then the event is claimed anew. -/
def expiringHistory : List MetricOutboxEvent :=
  [metricClaim "2026-01-01T00:00:00.000Z" firstReceivedAt,
    .request (.beginDelivery (some "attempt"))
      (firstReceivedAt + METRIC_EVENT_CLAIM_RETENTION_MS - 1) none,
    .alarm (firstReceivedAt + METRIC_EVENT_CLAIM_RETENTION_MS) none,
    metricClaim "2026-04-01T00:00:00.000Z" (firstReceivedAt + METRIC_EVENT_CLAIM_RETENTION_MS)]

/-- **A proof over an unsettled attempt**: the alarm has deleted the record under it. -/
theorem deletion_proof_unsettled :
    ¬ ∀ (env : MetricOutboxEnv) (stored : Option MetricEventClaimState)
      (history : List MetricOutboxEvent), DeletionProofSound env stored history := by
  intro h
  have hsound := h metricOutboxEnv none (expiringHistory ++
    [metricSuppression (firstReceivedAt + METRIC_EVENT_CLAIM_RETENTION_MS + 1)])
    expiringHistory _ _ _ [] rfl (by decide +kernel)
  have hattempt : ((metricEventOutbox metricOutboxEnv none).run (expiringHistory ++
      [metricSuppression (firstReceivedAt + METRIC_EVENT_CLAIM_RETENTION_MS + 1)])).outbox.unsettled
      = ["attempt"] := by decide +kernel
  exact absurd (hattempt.symm.trans hsound.2.1) (by decide)

end Splitch
