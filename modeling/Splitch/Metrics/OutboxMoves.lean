/-
# The moves of a Metric Event's record

`OutboxMove` lists what one storage write may do to the record of a Metric Event, and under which
condition.  Every handler of the object is a sequence of these moves (`MetricMoving`), wherever it
stops and whatever it throws, so that what the moves keep, every interleaving of the handlers
keeps.

Each move is a `MetricAct`; what a handler may do is the acts it is licensed for.
-/
import Splitch.Library.Guarantees
import Splitch.Metrics.MetricEventOutbox

namespace Splitch

open StateActions MetricEventOutbox

/-! ## 1. The moves -/

/-- What the moves are about: the alarm and the stopping of handlers are left out. -/
structure OutboxCore where
  record : Option MetricEventClaimState
  unsettled : List String

def MetricEventOutbox.core (outbox : MetricEventOutbox) : OutboxCore :=
  ⟨outbox.record, outbox.unsettled⟩

/-- May a delivery attempt be claimed? -/
def Sendable (delivery : Option MetricEventDeliveryAttempt) : Prop :=
  ∀ attempt ∈ delivery, attempt.state = .retryable

inductive MetricAct
  | create
  | renew
  | publication
  | claim (attempt : MetricEventDeliveryAttempt)
  | exhaust (attempt : MetricEventDeliveryAttempt)
  | settle (attempt : MetricEventDeliveryAttempt)
  | redact
  | expire (delivery : Option MetricEventDeliveryAttempt)

inductive OutboxMove (licence : MetricAct → Prop) : OutboxCore → OutboxCore → Prop
  | create {core : OutboxCore} (hmay : licence .create) (hnone : core.record = none)
      (incoming : MetricEventClaimInput) (expiresAt : Int) :
      OutboxMove licence core { core with record := some (accept incoming expiresAt) }
  | renew {core : OutboxCore} (hmay : licence .renew) {record : MetricEventClaimState}
      (h : core.record = some record) (expiresAt : Int)
      (hexpiry : ∀ expiresAt' ∈ record.expiresAt, expiresAt = expiresAt') :
      OutboxMove licence core
        { core with record := some { record with expiresAt := some expiresAt } }
  /-- The alarm rewrites what belongs to the publication. -/
  | publication {core : OutboxCore} (hmay : licence .publication)
      {record record' : MetricEventClaimState} (h : core.record = some record)
      (hdeleted : record.deleted = false) (hdeleted' : record'.deleted = false)
      (hdelivery : record'.delivery = record.delivery) :
      OutboxMove licence core { core with record := some record' }
  | claim {core : OutboxCore} {attempt : MetricEventDeliveryAttempt}
      (hmay : licence (.claim attempt)) {record : MetricEventClaimState}
      (h : core.record = some record) (hdeleted : record.deleted = false)
      (hsendable : Sendable record.delivery) (hstate : attempt.state = .attempting) :
      OutboxMove licence core
        ⟨some { record with delivery := some attempt }, attempt.attemptId :: core.unsettled⟩
  | exhaust {core : OutboxCore} {attempt : MetricEventDeliveryAttempt}
      (hmay : licence (.exhaust attempt)) {record : MetricEventClaimState}
      (h : core.record = some record) (hdeleted : record.deleted = false)
      (hsendable : Sendable record.delivery) (hstate : attempt.state = .poison_pending) :
      OutboxMove licence core { core with record := some { record with delivery := some attempt } }
  | settle {core : OutboxCore} {attempt : MetricEventDeliveryAttempt}
      (hmay : licence (.settle attempt)) {record : MetricEventClaimState}
      (h : core.record = some record)
      (hcurrent : record.delivery.map (·.attemptId) = some attempt.attemptId) :
      OutboxMove licence core
        ⟨some { record with delivery := some attempt },
          if isUnresolved (some attempt) then core.unsettled
          else core.unsettled.filter (· ≠ attempt.attemptId)⟩
  | redact {core : OutboxCore} (hmay : licence .redact)
      (hquiet : ∀ record ∈ core.record, record.publishing = false ∧
        isUnresolved record.delivery = false)
      (fingerprint eventDefinitionId eventDefinitionVersionId : String) (expiresAt : Int)
      (hsame : ∀ record ∈ core.record, fingerprint = record.fingerprint ∧
        ∀ expiresAt' ∈ record.expiresAt, expiresAt = expiresAt') :
      OutboxMove licence core { core with
        record := some (redacted fingerprint eventDefinitionId eventDefinitionVersionId expiresAt) }
  | expire {core : OutboxCore} {record : MetricEventClaimState}
      (h : core.record = some record) (hmay : licence (.expire record.delivery)) :
      OutboxMove licence core { core with record := none }

/-- Between two states of the object its record has moved. -/
def MetricMoving (licence : MetricAct → Prop) (before after : MetricEventOutbox) : Prop :=
  Relation.ReflTransGen (OutboxMove licence) before.core after.core

instance (licence : MetricAct → Prop) : IsPreorder MetricEventOutbox (MetricMoving licence) where
  refl _ := .refl
  trans _ _ _ h h' := Relation.ReflTransGen.trans h h'

theorem OutboxMove.mono {licence licence' : MetricAct → Prop}
    (hle : ∀ act, licence act → licence' act) {core core' : OutboxCore}
    (h : OutboxMove licence core core') : OutboxMove licence' core core' := by
  cases h with
  | create hmay hnone incoming expiresAt => exact .create (hle _ hmay) hnone incoming expiresAt
  | renew hmay h expiresAt hexpiry => exact .renew (hle _ hmay) h expiresAt hexpiry
  | publication hmay h hdeleted hdeleted' hdelivery =>
    exact .publication (hle _ hmay) h hdeleted hdeleted' hdelivery
  | claim hmay h hdeleted hsendable hstate => exact .claim (hle _ hmay) h hdeleted hsendable hstate
  | exhaust hmay h hdeleted hsendable hstate =>
    exact .exhaust (hle _ hmay) h hdeleted hsendable hstate
  | settle hmay h hcurrent => exact .settle (hle _ hmay) h hcurrent
  | redact hmay hquiet fingerprint eventDefinitionId eventDefinitionVersionId expiresAt hsame =>
    exact .redact (hle _ hmay) hquiet fingerprint eventDefinitionId eventDefinitionVersionId
      expiresAt hsame
  | expire h hmay => exact .expire h (hle _ hmay)

/-- **The invariant rule of the moves.** -/
theorem MetricMoving.invariant {licence : MetricAct → Prop} {I : OutboxCore → Prop}
    (hmove : ∀ core core', OutboxMove licence core core' → I core → I core')
    {before after : MetricEventOutbox} (h : MetricMoving licence before after) (hI : I before.core) :
    I after.core := by
  have h : Relation.ReflTransGen (OutboxMove licence) before.core after.core := h
  revert h
  generalize after.core = core
  intro h
  induction h with
  | refl => exact hI
  | tail _ hlast ih => exact hmove _ _ hlast ih

/-! ## 2. Reads and writes -/

section Writes

variable {licence : MetricAct → Prop} {outbox : MetricEventOutbox}

theorem getRecord_apply : getRecord outbox = (.ok outbox.record, outbox) := rfl

theorem stopPoint_core : (stopPoint outbox).2.core = outbox.core := by
  unfold stopPoint
  rw [andThen_apply, get_ok_apply]
  dsimp only
  cases outbox.stopAfter with
  | none => rfl
  | some n => cases n <;> rfl

theorem write_core (f : MetricEventOutbox → MetricEventOutbox) :
    (write f outbox).2.core = (f outbox).core := by
  unfold write
  rw [andThen_apply, modify_ok_apply]
  exact stopPoint_core

/-- One write, which is one move. -/
theorem guarantees_write {f : MetricEventOutbox → MetricEventOutbox}
    (hmove : OutboxMove licence outbox.core (f outbox).core) :
    Guarantees (MetricMoving licence) (write f) outbox (fun _ after => after.core = (f outbox).core) := by
  refine ⟨?_, fun _ _ => write_core f⟩
  rw [MetricMoving, write_core]
  exact .single hmove

/-- One write that is no move. -/
theorem guarantees_setAlarm {scheduledTime : Int} :
    Guarantees (MetricMoving licence) (setAlarm scheduledTime) outbox
      (fun _ after => after.core = outbox.core) := by
  have hcore : (setAlarm scheduledTime outbox).2.core = outbox.core := write_core _
  refine ⟨?_, fun _ _ => hcore⟩
  rw [MetricMoving, hcore]

/-- A computed value leaves the object alone, thrown or not. -/
theorem guarantees_resolvePublication {α : Type} {answer : Except String α} :
    Guarantees (MetricMoving licence) (MetricEventOutbox.resolve answer) outbox
      (fun a after => answer = .ok a ∧ outbox = after) := by
  cases answer with
  | error message => exact ⟨refl_of (MetricMoving licence) outbox, fun a ha => by cases ha⟩
  | ok a => exact guarantees_pure ⟨rfl, rfl⟩

theorem guarantees_fail {α : Type} {message : String} {Q : α → MetricEventOutbox → Prop} :
    Guarantees (MetricMoving licence) (fail message : MetricOutboxM α) outbox Q := guarantees_throw

end Writes

end Splitch
