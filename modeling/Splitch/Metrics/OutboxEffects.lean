/-
# What the handlers of a Metric Event do

A Metric Event is one record, and the object that holds it serves requests and alarms.  A handler is a
sequence of writes, and may stop behind any of them.  What the record goes through is a relation of moves
(`OutboxMoves`); here each handler gets a LICENCE, the set of moves that it may make, and is shown to make no
others, wherever it stops.

The lemmas also say what an answer tells of the record at the moment when it is given.  A claim that is
answered is what the record holds; a delivery that begins is decided on the record, and takes the place of
none or of one that may be sent again; a settlement that is accepted is stored; and a deletion proof is
answered for a record that is redacted.  These are what `DeletionProof` joins to promises over runs.

The alarm has an await of its own in the middle, the send to the queue, and other requests are served
meanwhile.  It is therefore two handlers: one up to the send, which leaves the record publishing, and one
behind it, which finds it publishing still (`guarantees_afterSend`).
-/
import Splitch.Metrics.OutboxMoves

namespace Splitch

open StateActions MetricEventOutbox

variable {env : MetricOutboxEnv} {now : Int} {outbox : MetricEventOutbox}

/-! ## 1. Licences -/

/-- Does the record expire, by the timestamp it is sealed with or the supplied one? -/
def Expired (env : MetricOutboxEnv) (now : Int) (suppliedServerReceivedAt : Option RowValue)
    (record : MetricEventClaimState) : Prop :=
  ∃ expiresAt ≤ now, claimExpiresAt env.dateParse record.row record.expiresAt
    suppliedServerReceivedAt = .ok expiresAt

theorem expired_iff {env : MetricOutboxEnv} {now : Int} {supplied : Option RowValue}
    {record : MetricEventClaimState} : Expired env now supplied record ↔
      (claimExpiresAt env.dateParse record.row record.expiresAt supplied).toOption.any (· ≤ now) := by
  rw [Expired]
  cases claimExpiresAt env.dateParse record.row record.expiresAt supplied with
  | error message => simp [Except.toOption]
  | ok expiresAt => simp [Except.toOption]

instance (env : MetricOutboxEnv) (now : Int) (supplied : Option RowValue)
    (record : MetricEventClaimState) : Decidable (Expired env now supplied record) :=
  decidable_of_iff _ expired_iff.symm

/-- What a request may do to the record it finds. -/
def requestLicence (env : MetricOutboxEnv) (now : Int) (stored : Option MetricEventClaimState) :
    MetricEventRequest → MetricAct → Prop
  | .claim _, .create => True
  | .beginDelivery attemptId, .claim attempt => attemptId = some attempt.attemptId
  | .beginDelivery attemptId, .exhaust attempt => attemptId = some attempt.attemptId
  | .settleDelivery attempt, .settle attempt' => attempt' = attempt
  | .suppress _, .redact => True
  | .retain supplied, .expire delivery =>
    ∃ record ∈ stored, record.delivery = delivery ∧ Expired env now supplied record
  | _, .renew => True
  | _, _ => False

/-- What an alarm may do to the record it finds. -/
def alarmLicence (env : MetricOutboxEnv) (now : Int) (stored : Option MetricEventClaimState) :
    MetricAct → Prop
  | .renew => True
  | .publication => True
  | .expire delivery => ∃ record ∈ stored, record.delivery = delivery ∧ Expired env now none record
  | _ => False

/-! ## 2. Requests -/

/-- An expiry that is sealed stays. -/
theorem claimExpiresAt_sealed {dateParse : String → Option Int} {row : Option MetricEventRow}
    {expiresAt expiresAt' : Int} {supplied : Option RowValue}
    (h : claimExpiresAt dateParse row (some expiresAt) supplied = .ok expiresAt') :
    expiresAt' = expiresAt := by
  unfold claimExpiresAt at h
  dsimp only at h
  cases hsame : requireSameReceivedAt dateParse (row.bind (·.get "server_received_at")) supplied with
  | error message =>
    rw [hsame] at h
    cases h
  | ok _ =>
    rw [hsame] at h
    cases h
    rfl

section Requests

variable {licence : MetricAct → Prop}

theorem guarantees_schedulePublication {state : MetricEventClaimState} :
    Guarantees (MetricMoving licence) (schedulePublication env now state) outbox
      (fun _ after => after.core = outbox.core) := by
  unfold schedulePublication
  split
  · refine Guarantees.bind guarantees_resolvePublication ?_
    rintro expiresAt _ - ⟨-, rfl⟩
    exact guarantees_setAlarm
  · split
    · exact guarantees_fail
    · exact guarantees_setAlarm

/-- The delivery of a record that is not redacted. -/
def openDelivery :
    Option MetricEventClaimState → Option (Option MetricEventDeliveryAttempt)
  | none => none
  | some record => if record.deleted then none else some record.delivery

theorem openDelivery_of_open {record : MetricEventClaimState} (h : record.deleted = false) :
    openDelivery (some record) = some record.delivery := by
  rw [openDelivery, if_neg (by rw [h]; decide)]

/-- What `retained` answers: the record as it stands, or with the expiry it has just been given. -/
def Retained (state : Option MetricEventClaimState) (after : MetricEventOutbox)
    (before : MetricEventOutbox) : Prop :=
  after.record = state ∧ after.unsettled = before.unsettled ∧
    (before.record = none ↔ state = none) ∧ ∀ record ∈ before.record, ∀ record' ∈ state,
      record' = { record with expiresAt := record'.expiresAt } ∧
        (record.expiresAt.isSome → record' = record)

theorem Retained.of_eq (outbox : MetricEventOutbox) : Retained outbox.record outbox outbox :=
  ⟨rfl, rfl, Iff.rfl, fun record h record' h' => by cases h.symm.trans h'; exact ⟨rfl, fun _ => rfl⟩⟩

/-- Retaining a record leaves its delivery alone. -/
theorem Retained.openDelivery {state : Option MetricEventClaimState}
    {after before : MetricEventOutbox} (h : Retained state after before) :
    openDelivery before.record = Splitch.openDelivery state := by
  obtain ⟨-, -, hnone, hsame⟩ := h
  cases hbefore : before.record with
  | none => rw [hnone.mp hbefore]
  | some record =>
    cases state with
    | none =>
      rw [hnone.mpr rfl] at hbefore
      cases hbefore
    | some record' =>
      rw [(hsame record hbefore record' rfl).1]
      rfl

theorem guarantees_retained (hrenew : licence .renew) :
    Guarantees (MetricMoving licence) (retained env now) outbox
      (fun state after => Retained state after outbox) := by
  unfold retained
  refine guarantees_read getRecord_apply ?_
  cases hrecord : outbox.record with
  | none =>
    dsimp only
    refine guarantees_pure ?_
    rw [← hrecord]
    exact .of_eq outbox
  | some record =>
    dsimp only
    unfold retain
    split
    · refine Guarantees.mono (Q := fun state after => after = outbox ∧ state = some record) ?_ ?_
      · rw [map_eq_pure_bind]
        exact guarantees_read rfl (guarantees_pure ⟨rfl, rfl⟩)
      · rintro state after - ⟨rfl, rfl⟩
        rw [← hrecord]
        exact .of_eq _
    · rename_i hlegacy
      rw [Bool.not_eq_true, Option.isSome_eq_false_iff] at hlegacy
      rw [map_eq_pure_bind, bind_assoc]
      refine Guarantees.bind guarantees_resolvePublication ?_
      rintro expiresAt _ - ⟨-, rfl⟩
      rw [bind_assoc]
      refine Guarantees.bind (guarantees_write (.renew hrenew hrecord expiresAt ?_)) ?_
      · rw [Option.isNone_iff_eq_none.mp hlegacy]
        exact fun _ h => by cases h
      intro _ after _ hafter
      rw [bind_assoc]
      refine Guarantees.bind guarantees_setAlarm ?_
      intro _ after' _ hafter'
      refine guarantees_pure ?_
      obtain ⟨hrecord', hunsettled'⟩ := OutboxCore.mk.inj (hafter'.trans hafter)
      refine ⟨hrecord', hunsettled', by simp [hrecord], fun record' h record'' h' => ?_⟩
      rw [hrecord] at h
      cases h
      cases h'
      exact ⟨rfl, fun hsome => by simp [Option.isNone_iff_eq_none.mp hlegacy] at hsome⟩

theorem guarantees_lookup : Guarantees (MetricMoving licence) lookup outbox (fun _ _ => True) := by
  unfold lookup
  refine guarantees_read getRecord_apply ?_
  cases outbox.record <;> exact guarantees_pure trivial

theorem guarantees_readRecord {answer : MetricEventClaimState → MetricEventResponse}
    (hrenew : licence .renew) :
    Guarantees (MetricMoving licence) (MetricEventOutbox.read env now answer) outbox
      (fun _ _ => True) := by
  unfold MetricEventOutbox.read
  refine Guarantees.bind (guarantees_retained hrenew) ?_
  intro state after _ _
  cases state with
  | none => exact guarantees_pure trivial
  | some existing =>
    exact Guarantees.bind guarantees_schedulePublication fun _ _ _ _ => guarantees_pure trivial

theorem guarantees_claim {incoming : MetricEventClaimInput} (hrenew : licence .renew)
    (hcreate : licence .create) :
    Guarantees (MetricMoving licence) (claim env now incoming) outbox (fun _ _ => True) := by
  unfold claim
  refine Guarantees.bind (guarantees_retained hrenew) ?_
  intro state after _ hretained
  cases state with
  | some existing =>
    dsimp only
    split
    · exact guarantees_pure trivial
    · exact Guarantees.bind guarantees_schedulePublication fun _ _ _ _ => guarantees_pure trivial
  | none =>
    refine Guarantees.bind guarantees_resolvePublication ?_
    rintro expiresAt _ - ⟨-, rfl⟩
    refine Guarantees.bind
      (guarantees_write (.create hcreate hretained.1 incoming expiresAt)) fun _ _ _ _ => ?_
    exact Guarantees.bind guarantees_schedulePublication fun _ _ _ _ => guarantees_pure trivial

theorem guarantees_retainExisting {supplied : Option RowValue} (hrenew : licence .renew)
    (hexpire : ∀ record ∈ outbox.record, Expired env now supplied record →
      licence (.expire record.delivery)) :
    Guarantees (MetricMoving licence) (retainExisting env now supplied) outbox (fun _ _ => True) := by
  unfold retainExisting
  split
  · rename_i serverReceivedAt
    refine guarantees_read getRecord_apply ?_
    cases hrecord : outbox.record with
    | none => exact guarantees_pure trivial
    | some existing =>
      dsimp only
      refine Guarantees.bind guarantees_resolvePublication ?_
      rintro expiresAt _ - ⟨hexpires, rfl⟩
      split
      · rename_i hpast
        have hmay := hexpire existing hrecord ⟨expiresAt, hpast, hexpires⟩
        exact Guarantees.bind (guarantees_write (.expire hrecord hmay))
          fun _ _ _ _ => guarantees_pure trivial
      · refine Guarantees.bind (guarantees_write (.renew hrenew hrecord expiresAt ?_)) ?_
        · intro expiresAt' hexpiry
          rw [Option.mem_def.mp hexpiry] at hexpires
          exact claimExpiresAt_sealed hexpires
        intro _ _ _ _
        exact Guarantees.bind guarantees_setAlarm fun _ _ _ _ => guarantees_pure trivial
  · exact guarantees_pure trivial

/-- What an outcome tells of the delivery before and after it. -/
def BeginOutcome.Tells (before after : Option (Option MetricEventDeliveryAttempt))
    (attemptId : String) : BeginOutcome → Prop
  | .claimed _ attempt =>
    (∃ delivery, before = some delivery ∧ Sendable delivery) ∧ after = some (some attempt) ∧
      attempt.attemptId = attemptId ∧ attempt.state = .attempting
  | .unresolved attempt =>
    after = some (some attempt) ∧ (attempt.state = .attempting ∨ attempt.state = .indeterminate)
  | .poison attempt => after = some (some attempt) ∧ attempt.state = .poison_pending
  | .deleted | .settled _ => True

/-- What is decided without a new attempt tells of the one there is. -/
theorem decideDelivery_stays {existing : Option MetricEventDeliveryAttempt} {attemptId : String}
    {outcome : Option BeginOutcome} (h : decideDelivery existing attemptId = (outcome, none)) :
    ∃ told, outcome = some told ∧ told.Tells (some existing) (some existing) attemptId := by
  cases existing with
  | none => cases h
  | some attempt =>
    unfold decideDelivery at h
    dsimp only at h
    split at h
    · cases h
      exact ⟨_, rfl, trivial⟩
    · cases h
      exact ⟨_, rfl, trivial⟩
    · rename_i hstate
      cases h
      exact ⟨_, rfl, rfl, .inr hstate⟩
    · rename_i hstate
      cases h
      exact ⟨_, rfl, rfl, .inl hstate⟩
    · rename_i hstate
      cases h
      exact ⟨_, rfl, rfl, hstate⟩
    · split at h <;> cases h

/-- A new attempt takes the place of none, or of one that may be sent again. -/
theorem decideDelivery_next {existing : Option MetricEventDeliveryAttempt} {attemptId : String}
    {outcome : Option BeginOutcome} {next : MetricEventDeliveryAttempt}
    (h : decideDelivery existing attemptId = (outcome, some next)) :
    Sendable existing ∧ next.attemptId = attemptId ∧
      ((outcome = none ∧ next.state = .attempting) ∨
        (outcome = some (.poison next) ∧ next.state = .poison_pending)) := by
  cases existing with
  | none =>
    cases h
    exact ⟨fun _ h => (by cases h), rfl, .inl ⟨rfl, rfl⟩⟩
  | some attempt =>
    unfold decideDelivery at h
    dsimp only at h
    split at h
    · cases h
    · cases h
    · cases h
    · cases h
    · cases h
    · rename_i hstate
      have hsendable : Sendable (some attempt) := fun _ h => by cases h; exact hstate
      split at h
      · cases h
        exact ⟨hsendable, rfl, .inr ⟨rfl, rfl⟩⟩
      · cases h
        exact ⟨hsendable, rfl, .inl ⟨rfl, rfl⟩⟩

/-- **A claim is decided on the record**, and what it answers holds of the record. -/
theorem guarantees_beginDelivery {attemptId : Option String} (hrenew : licence .renew)
    (hclaim : ∀ attempt : MetricEventDeliveryAttempt, attemptId = some attempt.attemptId →
      licence (.claim attempt) ∧ licence (.exhaust attempt)) :
    Guarantees (MetricMoving licence) (beginDelivery env now attemptId) outbox
      (fun response after => ∀ outcome, response = .begun outcome → ∃ id, attemptId = some id ∧
        outcome.Tells (openDelivery outbox.record) (openDelivery after.record) id) := by
  unfold beginDelivery
  cases hid : attemptId.filter (· ≠ "") with
  | none => exact guarantees_pure fun _ h => by cases h
  | some id =>
    obtain ⟨hattemptId, -⟩ := Option.filter_eq_some_iff.mp hid
    dsimp only
    refine Guarantees.bind (guarantees_retained hrenew) ?_
    intro state after _ hretained
    cases state with
    | none => exact guarantees_fail
    | some existing =>
      have hrecord : after.record = some existing := hretained.1
      dsimp only
      split
      · refine guarantees_pure fun outcome h => ?_
        cases h
        exact ⟨id, hattemptId, trivial⟩
      · rename_i hdeleted
        rw [Bool.not_eq_true] at hdeleted
        have hbefore : openDelivery outbox.record = some existing.delivery :=
          hretained.openDelivery.trans (openDelivery_of_open hdeleted)
        rcases hdecided : decideDelivery existing.delivery id with ⟨outcome?, _ | next⟩
        · obtain ⟨outcome, rfl, htells⟩ := decideDelivery_stays hdecided
          refine guarantees_pure fun outcome' h => ?_
          cases h
          refine ⟨id, hattemptId, ?_⟩
          rw [hrecord, hbefore, openDelivery_of_open hdeleted]
          exact htells
        · obtain ⟨hsendable, rfl, ⟨rfl, hstate⟩ | ⟨rfl, hstate⟩⟩ := decideDelivery_next hdecided
          · refine Guarantees.bind (guarantees_write ?_) ?_
            · rw [if_pos hstate]
              exact .claim (hclaim next hattemptId).1 hrecord hdeleted hsendable hstate
            · intro _ after' _ hafter'
              obtain ⟨hrecord', -⟩ := OutboxCore.mk.inj hafter'
              cases existing.row with
              | none => exact guarantees_fail
              | some row =>
                refine guarantees_pure fun outcome h => ?_
                cases h
                refine ⟨_, hattemptId, ⟨_, hbefore, hsendable⟩, ?_, rfl, hstate⟩
                rw [hrecord', openDelivery_of_open (by exact hdeleted)]
          · refine Guarantees.bind (guarantees_write ?_) ?_
            · rw [if_neg (by rw [hstate]; decide)]
              exact .exhaust (hclaim next hattemptId).2 hrecord hdeleted hsendable hstate
            · intro _ after' _ hafter'
              obtain ⟨hrecord', -⟩ := OutboxCore.mk.inj hafter'
              refine guarantees_pure fun outcome h => ?_
              cases h
              refine ⟨_, hattemptId, ?_, hstate⟩
              rw [hrecord', openDelivery_of_open (by exact hdeleted)]

/-- **A settlement that is accepted** is what the record holds. It is compared with the attempt that
is stored first, so a late one of another attempt is refused and changes nothing. -/
theorem guarantees_settleDelivery {attempt : MetricEventDeliveryAttempt}
    (hsettle : licence (.settle attempt)) :
    Guarantees (MetricMoving licence) (settleDelivery attempt) outbox
      (fun response after => ∀ state, response = .settled state →
        state = attempt.state ∧ after.record.bind (·.delivery) = some attempt) := by
  unfold settleDelivery
  refine guarantees_read getRecord_apply ?_
  cases hrecord : outbox.record with
  | none => exact guarantees_fail
  | some existing =>
    dsimp only
    split
    · exact guarantees_pure fun _ h => by cases h
    · rename_i hcurrent
      rw [not_not] at hcurrent
      refine Guarantees.bind (guarantees_write (.settle hsettle hrecord hcurrent)) ?_
      intro _ after _ hafter
      obtain ⟨hrecord', -⟩ := OutboxCore.mk.inj hafter
      refine guarantees_pure fun state h => ?_
      cases h
      refine ⟨rfl, ?_⟩
      rw [hrecord']
      rfl

/-- **A deletion proof** is answered for a record that is redacted. The three refusals come first:
another event's fingerprint, a publication that is awaited, and an attempt that is unresolved. -/
theorem guarantees_suppress {input : SuppressionInput} (hredact : licence .redact) :
    Guarantees (MetricMoving licence) (suppress env input) outbox
      (fun response after => response = .deletionProof →
        ∃ fingerprint definitionId versionId expiresAt,
          input.fingerprint = some fingerprint ∧
            after.record = some (redacted fingerprint definitionId versionId expiresAt)) := by
  unfold suppress
  split
  · rename_i fingerprint definitionId versionId hfingerprint hdefinition hversion
    refine guarantees_read getRecord_apply ?_
    split
    · exact guarantees_pure fun h => by cases h
    · rename_i hconflict
      split
      · exact guarantees_pure fun h => by cases h
      · rename_i hpublishing
        split
        · exact guarantees_pure fun h => by cases h
        · rename_i hresolved
          refine Guarantees.bind guarantees_resolvePublication ?_
          rintro expiresAt _ - ⟨hexpires, rfl⟩
          have hquiet : ∀ record ∈ outbox.record, record.publishing = false ∧
              isUnresolved record.delivery = false
          · intro record hrecord
            rw [Option.mem_def.mp hrecord] at hpublishing hresolved
            exact ⟨Bool.not_eq_true _ ▸ hpublishing, Bool.not_eq_true _ ▸ hresolved⟩
          have hsame : ∀ record ∈ outbox.record, fingerprint = record.fingerprint ∧
              ∀ expiresAt' ∈ record.expiresAt, expiresAt = expiresAt'
          · intro record hrecord
            rw [Option.mem_def.mp hrecord] at hconflict hexpires
            refine ⟨of_not_not fun hne => hconflict (decide_eq_true fun h => hne h.symm), ?_⟩
            intro expiresAt' hexpiry
            rw [Option.elim_some, Option.elim_some, Option.mem_def.mp hexpiry] at hexpires
            exact claimExpiresAt_sealed hexpires
          refine Guarantees.bind (guarantees_write (.redact hredact hquiet _ _ _ _ hsame)) ?_
          intro _ after _ hafter
          refine Guarantees.bind guarantees_setAlarm ?_
          intro _ after' _ hafter'
          refine guarantees_pure fun _ => ?_
          obtain ⟨hrecord', -⟩ := OutboxCore.mk.inj (hafter'.trans hafter)
          exact ⟨_, _, _, _, hfingerprint, hrecord'⟩
  · exact guarantees_pure fun h => by cases h

end Requests

/-- **What a request does** is what it is licensed for. The licence of a request names the acts its
handler may come to, with their data; that the handler stops anywhere only makes them fewer. -/
theorem guarantees_handle (env : MetricOutboxEnv) (now : Int) (outbox : MetricEventOutbox)
    (request : MetricEventRequest) :
    Guarantees (MetricMoving (requestLicence env now outbox.record request)) (handle env now request)
      outbox (fun _ _ => True) := by
  cases request with
  | lookup => exact guarantees_lookup
  | exportRows => exact guarantees_readRecord trivial
  | delivery => exact guarantees_readRecord trivial
  | claim incoming => exact guarantees_claim trivial trivial
  | retain supplied =>
    exact guarantees_retainExisting trivial fun record hrecord hexpired =>
      ⟨record, hrecord, rfl, hexpired⟩
  | beginDelivery attemptId =>
    exact (guarantees_beginDelivery trivial fun _ h => ⟨h, h⟩).mono fun _ _ _ _ => trivial
  | settleDelivery attempt =>
    have hmay : requestLicence env now outbox.record (.settleDelivery attempt) (.settle attempt) :=
      rfl
    exact (guarantees_settleDelivery hmay).mono fun _ _ _ _ => trivial
  | suppress input => exact (guarantees_suppress trivial).mono fun _ _ _ _ => trivial

/-! ## 3. The alarm -/

section Alarm

variable {licence : MetricAct → Prop}

/-- The record as a publication needs it. -/
def Publishing (outbox : MetricEventOutbox) : Prop :=
  ∃ record, outbox.record = some record ∧ record.publishing = true ∧ record.deleted = false

theorem guarantees_requiredCurrentState :
    Guarantees (MetricMoving licence) requiredCurrentState outbox (fun current after =>
      outbox = after ∧ outbox.record = some current ∧ current.deleted = false) := by
  unfold requiredCurrentState
  refine guarantees_read getRecord_apply ?_
  cases hrecord : outbox.record with
  | none => exact guarantees_fail
  | some current =>
    dsimp only
    split
    · exact guarantees_fail
    · rename_i hdeleted
      exact guarantees_pure ⟨rfl, rfl, Bool.not_eq_true _ ▸ hdeleted⟩

theorem guarantees_finishPublication {expiresAt : Int} (hpublication : licence .publication) :
    Guarantees (MetricMoving licence) (finishPublication expiresAt) outbox
      (fun progress _ => progress = .ended) := by
  unfold finishPublication
  refine Guarantees.bind guarantees_requiredCurrentState ?_
  rintro current _ - ⟨rfl, hrecord, hdeleted⟩
  refine Guarantees.bind (guarantees_write (.publication hpublication hrecord hdeleted ?_ ?_)) ?_
  · exact hdeleted
  · rfl
  · exact fun _ _ _ _ => Guarantees.bind guarantees_setAlarm fun _ _ _ _ => guarantees_pure rfl

theorem guarantees_retryPublication {publishing : MetricEventClaimState}
    (hpublication : licence .publication) :
    Guarantees (MetricMoving licence) (retryPublication now publishing) outbox
      (fun progress _ => progress = .ended) := by
  unfold retryPublication
  refine Guarantees.bind guarantees_requiredCurrentState ?_
  rintro current _ - ⟨rfl, hrecord, hdeleted⟩
  refine Guarantees.bind (guarantees_write (.publication hpublication hrecord hdeleted ?_ ?_)) ?_
  · exact hdeleted
  · rfl
  · exact fun _ _ _ _ => Guarantees.bind guarantees_setAlarm fun _ _ _ _ => guarantees_pure rfl

theorem guarantees_publish {state : MetricEventClaimState} {expiresAt : Int}
    (hpublication : licence .publication) (hrecord : ∃ expiresAt', outbox.record =
      some { state with expiresAt := expiresAt' }) (hdeleted : state.deleted = false) :
    Guarantees (MetricMoving licence) (publish env state expiresAt) outbox
      (fun progress after => progress = .ended ∨ Publishing after) := by
  obtain ⟨expiresAt', hrecord⟩ := hrecord
  unfold publish
  cases state.row with
  | none => exact guarantees_fail
  | some row =>
    dsimp only
    split
    · exact guarantees_fail
    · refine Guarantees.bind (guarantees_write (.publication hpublication hrecord hdeleted ?_ ?_)) ?_
      · exact hdeleted
      · rfl
      · intro _ after _ hafter
        obtain ⟨hrecord', -⟩ := OutboxCore.mk.inj hafter
        have hpublishing : Publishing after := ⟨_, hrecord', rfl, hdeleted⟩
        split
        · exact guarantees_pure (.inr hpublishing)
        · split
          · exact guarantees_pure (.inr hpublishing)
          · exact (guarantees_finishPublication hpublication).mono fun _ _ _ h => .inl h

theorem guarantees_sealExpiry {state : MetricEventClaimState} {expiresAt : Int}
    (hrenew : licence .renew) (hrecord : outbox.record = some state) :
    Guarantees (MetricMoving licence) (sealExpiry state expiresAt) outbox (fun _ after =>
      ∃ expiresAt', after.record = some { state with expiresAt := expiresAt' }) := by
  unfold sealExpiry
  split
  · rename_i hlegacy
    refine (guarantees_write (.renew hrenew hrecord expiresAt ?_)).mono fun _ after _ hafter => ?_
    · rw [Option.isNone_iff_eq_none.mp hlegacy]
      exact fun _ h => by cases h
    · exact ⟨_, (OutboxCore.mk.inj hafter).1⟩
  · exact guarantees_pure ⟨_, hrecord⟩

/-- **What an alarm does**: where it ends up in a queue send, the record is publishing. -/
theorem guarantees_alarmHandler (hrenew : licence .renew) (hpublication : licence .publication)
    (hexpire : ∀ record ∈ outbox.record, Expired env now none record →
      licence (.expire record.delivery)) :
    Guarantees (MetricMoving licence) (alarmHandler env now) outbox
      (fun progress after => progress = .ended ∨ Publishing after) := by
  unfold alarmHandler
  refine guarantees_read getRecord_apply ?_
  cases hrecord : outbox.record with
  | none => exact guarantees_pure (.inl rfl)
  | some state =>
    dsimp only
    refine Guarantees.bind guarantees_resolvePublication ?_
    rintro expiresAt _ - ⟨hexpires, rfl⟩
    refine Guarantees.bind (guarantees_sealExpiry hrenew hrecord) ?_
    rintro _ after - hafter
    split
    · rename_i hpast
      obtain ⟨expiresAt', hrecord'⟩ := hafter
      have hmay := hexpire state hrecord ⟨expiresAt, hpast, hexpires⟩
      refine Guarantees.bind (guarantees_write (.expire hrecord' hmay)) fun _ _ _ _ => ?_
      exact guarantees_pure (.inl rfl)
    · split
      · exact Guarantees.bind guarantees_setAlarm fun _ _ _ _ => guarantees_pure (.inl rfl)
      · rename_i hidle
        split
        · exact Guarantees.bind guarantees_setAlarm fun _ _ _ _ => guarantees_pure (.inl rfl)
        · rw [Bool.not_eq_true, Bool.or_eq_false_iff] at hidle
          exact guarantees_publish hpublication hafter hidle.2

theorem guarantees_caught {α : Type} {block : MetricOutboxM α} {Q : α → MetricEventOutbox → Prop}
    (h : Guarantees (MetricMoving licence) block outbox Q) :
    Guarantees (MetricMoving licence) (caught block) outbox
      (fun result after => ∀ a, result = .ok a → Q a after) := by
  obtain ⟨hmoves, hanswers⟩ := h
  rcases hblock : block outbox with ⟨(_ | _) | a, after⟩
  all_goals
    rw [hblock] at hmoves hanswers
    simp only [Guarantees, caught, hblock]
  · exact ⟨hmoves, fun _ h => by cases h⟩
  · exact ⟨hmoves, fun _ h => by cases h; exact fun _ h => by cases h⟩
  · refine ⟨hmoves, fun _ h => ?_⟩
    cases h
    exact fun _ h => by cases h; exact hanswers a rfl

/-- Behind a queue send the record is still publishing, if it was before. -/
theorem guarantees_afterSend {publication : Publication} {fate : Except String Unit}
    (hpublication : licence .publication) :
    Guarantees (MetricMoving licence) (afterSend publication fate) outbox
      (fun _ after => Publishing outbox → Publishing after) := by
  unfold afterSend
  refine Guarantees.bind guarantees_resolvePublication ?_
  rintro _ _ - ⟨-, rfl⟩
  refine Guarantees.bind guarantees_requiredCurrentState ?_
  rintro current _ - ⟨rfl, hrecord, hdeleted⟩
  have hcurrent : Publishing outbox → current.publishing = true
  · rintro ⟨record, hrecord', hpublishing, -⟩
    rw [hrecord] at hrecord'
    cases hrecord'
    exact hpublishing
  cases publication.stage with
  | metric =>
    refine Guarantees.bind (guarantees_write (.publication hpublication hrecord hdeleted ?_ ?_)) ?_
    · exact hdeleted
    · rfl
    · intro _ after _ hafter
      exact guarantees_pure fun h =>
        ⟨_, (OutboxCore.mk.inj hafter).1, hcurrent h, hdeleted⟩
  | activations =>
    refine Guarantees.bind (guarantees_write (.publication hpublication hrecord hdeleted ?_ ?_)) ?_
    · exact hdeleted
    · rfl
    · intro _ after _ hafter
      exact guarantees_pure fun h =>
        ⟨_, (OutboxCore.mk.inj hafter).1, hcurrent h, hdeleted⟩

/-- **What the alarm does behind a queue send.** -/
theorem guarantees_resumePublication {publication : Publication} {fate : Except String Unit}
    (hpublication : licence .publication) :
    Guarantees (MetricMoving licence) (resumePublication now publication fate) outbox
      (fun progress after => progress = .ended ∨ (Publishing outbox → Publishing after)) := by
  unfold resumePublication
  refine Guarantees.bind (guarantees_caught (guarantees_afterSend hpublication)) ?_
  intro result after _ hresult
  split
  · exact (guarantees_retryPublication hpublication).mono fun _ _ _ h => .inl h
  · exact guarantees_pure (.inr (hresult _ rfl))
  · exact (guarantees_finishPublication hpublication).mono fun _ _ _ h => .inl h

end Alarm

end Splitch
