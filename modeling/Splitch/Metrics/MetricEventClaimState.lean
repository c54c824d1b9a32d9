/-
# The record of a Metric Event

What one `MetricEventOutboxDurableObject` stores (`metric-event-outbox-state.ts`), the delivery
attempt in it (`metric-event-delivery-attempt.ts`), its expiry, and the delay before a retry
(`queue-retry.ts`).

`Date.parse` is a parameter.  The instants are in milliseconds.
-/
import Mathlib

namespace Splitch

/-! ## 1. Rows -/

/-- A value of a row; all that is not a string is `other`. -/
inductive RowValue
  | text (value : String)
  | other (json : String)
  deriving DecidableEq, Repr

structure MetricEventRow where
  fields : List (String × RowValue)
  deriving DecidableEq, Repr

def MetricEventRow.get (row : MetricEventRow) (field : String) : Option RowValue :=
  row.fields.lookup field

/-! ## 2. Delivery attempts -/

inductive MetricEventDeliveryState
  | attempting
  | retryable
  | delivered
  | indeterminate
  | poison_pending
  | poison_transferred
  deriving DecidableEq, Repr

def MetricEventDeliveryState.text : MetricEventDeliveryState → String
  | .attempting => "attempting"
  | .retryable => "retryable"
  | .delivered => "delivered"
  | .indeterminate => "indeterminate"
  | .poison_pending => "poison_pending"
  | .poison_transferred => "poison_transferred"

inductive Reconciliation
  | copyStarting (claimedAt : Int)
  | copyJob (jobId : String)
  deriving DecidableEq, Repr

structure MetricEventDeliveryAttempt where
  attemptId : String
  state : MetricEventDeliveryState
  attempts : Nat
  reason : Option String
  reconciliation : Option Reconciliation
  deriving DecidableEq, Repr

def BLOCKS_DELETION : List MetricEventDeliveryState :=
  [.attempting, .indeterminate, .poison_pending]

def isUnresolved (attempt : Option MetricEventDeliveryAttempt) : Bool :=
  attempt.any fun attempt => BLOCKS_DELETION.contains attempt.state

inductive BeginOutcome
  | claimed (row : MetricEventRow) (attempt : MetricEventDeliveryAttempt)
  | deleted
  | settled (state : MetricEventDeliveryState)
  | unresolved (attempt : MetricEventDeliveryAttempt)
  | poison (attempt : MetricEventDeliveryAttempt)
  deriving DecidableEq, Repr

def MAX_DELIVERY_ATTEMPTS : Nat := 8

/-- What the record alone decides: an outcome, or none where the attempt is claimed, and the
attempt to record. -/
def decideDelivery (existing : Option MetricEventDeliveryAttempt) (attemptId : String) :
    Option BeginOutcome × Option MetricEventDeliveryAttempt :=
  match existing with
  | none => (none, some ⟨attemptId, .attempting, 1, none, none⟩)
  | some existing =>
    match existing.state with
    | .delivered | .poison_transferred => (some (.settled existing.state), none)
    | .indeterminate => (some (.unresolved existing), none)
    | .attempting => (some (.unresolved existing), none)
    | .poison_pending => (some (.poison existing), none)
    | .retryable =>
      let attempts := existing.attempts + 1
      if MAX_DELIVERY_ATTEMPTS < attempts then
        let attempt := ⟨attemptId, .poison_pending, attempts, existing.reason, none⟩
        (some (.poison attempt), some attempt)
      else (none, some ⟨attemptId, .attempting, attempts, none, none⟩)

/-! ## 3. The record -/

structure MetricEventClaimState where
  fingerprint : String
  eventDefinitionId : String
  eventDefinitionVersionId : String
  row : Option MetricEventRow
  activationRows : List MetricEventRow
  activatedRuns : Nat
  queued : Bool
  metricQueued : Bool
  activationsQueued : Bool
  deleted : Bool
  publishing : Bool
  publicationAttempts : Nat
  publicationRetryAt : Option Int
  delivery : Option MetricEventDeliveryAttempt
  expiresAt : Option Int
  deriving DecidableEq, Repr

structure MetricEventLookup where
  fingerprint : String
  eventDefinitionId : String
  eventDefinitionVersionId : String
  activatedRuns : Nat
  deriving DecidableEq, Repr

def asMetricEventLookup (state : MetricEventClaimState) : MetricEventLookup :=
  ⟨state.fingerprint, state.eventDefinitionId, state.eventDefinitionVersionId,
    state.activatedRuns⟩

inductive ClaimOutcome
  | accepted
  | duplicate
  | conflict
  deriving DecidableEq, Repr

structure MetricEventClaim where
  outcome : ClaimOutcome
  eventDefinitionId : String
  eventDefinitionVersionId : String
  activatedRuns : Nat
  deriving DecidableEq, Repr

def asMetricEventClaim (outcome : ClaimOutcome) (state : MetricEventClaimState) :
    MetricEventClaim :=
  ⟨outcome, state.eventDefinitionId, state.eventDefinitionVersionId, state.activatedRuns⟩

/-! ## 4. Expiry -/

def METRIC_EVENT_CLAIM_RETENTION_MS : Int := 90 * 24 * 60 * 60 * 1000

/-- `/^\d{4}-\d{2}-\d{2} /u`. -/
def isSqlTimestamp (value : String) : Bool :=
  11 ≤ value.toList.length &&
    (value.toList.zip "0000-00-00 ".toList).all fun (char, place) =>
      if place == '0' then char.isDigit else char == place

/-- The first space gives way to a `T`, and a `Z` follows. -/
def asIsoTimestamp (value : String) : String :=
  String.ofList (value.toList.take 10 ++ 'T' :: value.toList.drop 11 ++ ['Z'])

def metricEventReceivedAt (dateParse : String → Option Int) (value : String) : Except String Int :=
  match dateParse (if isSqlTimestamp value then asIsoTimestamp value else value) with
  | none => .error "Metric Event claim retention timestamp is invalid"
  | some parsed => .ok parsed

/-- The supplied timestamp must agree with the one of the sealed row, where there are both. -/
def requireSameReceivedAt (dateParse : String → Option Int) :
    Option RowValue → Option RowValue → Except String Unit
  | some (.text stored), some (.text supplied) => do
    if (← metricEventReceivedAt dateParse stored) ≠ (← metricEventReceivedAt dateParse supplied) then
      throw "Metric Event retention timestamp conflicts with the sealed row"
  | some _, some _ => throw "Metric Event retention timestamp conflicts with the sealed row"
  | _, _ => pure ()

def claimExpiresAt (dateParse : String → Option Int) (row : Option MetricEventRow)
    (expiresAt : Option Int) (suppliedServerReceivedAt : Option RowValue) : Except String Int := do
  let storedServerReceivedAt := row.bind (·.get "server_received_at")
  requireSameReceivedAt dateParse storedServerReceivedAt suppliedServerReceivedAt
  match expiresAt, storedServerReceivedAt.or suppliedServerReceivedAt with
  | some expiresAt, _ => return expiresAt
  | none, some (.text serverReceivedAt) =>
    return (← metricEventReceivedAt dateParse serverReceivedAt) + METRIC_EVENT_CLAIM_RETENTION_MS
  | none, _ => throw "Metric Event claim has no retention timestamp"

/-! ## 5. Retry delays -/

def QUEUE_MAX_RETRIES : Nat := 7

def RETRY_BASE_SECONDS : Nat := 5

def RETRY_MAX_SECONDS : Nat := 43200

/-- `charCodeAt` sees UTF-16 code units. -/
def utf16Units (char : Char) : List Nat :=
  if char.toNat < 0x10000 then [char.toNat]
  else [0xD800 + (char.toNat - 0x10000) / 0x400, 0xDC00 + (char.toNat - 0x10000) % 0x400]

/-- The hash of FNV-1a, of which the jitter is the last three digits in thousandths. -/
def jitterThousandths (messageId : String) : Nat :=
  ((messageId.toList.flatMap utf16Units).foldl
    (fun hash unit => (hash ^^^ unit) * 16777619 % 2 ^ 32) 2166136261) % 1000

def queueRetryDelaySeconds (attempts : Nat) (messageId : String) : Nat :=
  let attempt := min (max attempts 1) QUEUE_MAX_RETRIES
  let base := min (RETRY_BASE_SECONDS * 2 ^ (attempt - 1)) RETRY_MAX_SECONDS
  min (base + base * jitterThousandths messageId / 1000) RETRY_MAX_SECONDS

end Splitch
