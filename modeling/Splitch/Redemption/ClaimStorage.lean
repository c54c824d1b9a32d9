/-
# The storage of the redemption claims

One Durable Object holds the claims of one Environment (`exposure-redemption-do-handler.ts`,
`class DurableClaimStorage`).  Its storage is one ordered key-value map with four kinds of keys:
`exposure:<id>` and `ticket:<fingerprint>` for the claim rows, `__sweep_after` for the cursor of
the paged sweep and `__pending_expiry_floor` for the expiry an alarm could not be moved to.  A
key of a kind only ever holds a row of that kind, so the map is kept here as one field for each
kind; the order in which the platform lists the keys is taken up again in `ClaimSweep`.

Besides its keys the object owns a single alarm.  Times are integers, in milliseconds since the
epoch.
-/
import Mathlib
import Splitch.Library.Expiring

namespace Splitch

/-! ## 1. Rows -/

/-- `pending` (seal in flight), then `sealed` (ingest committed), then `accepted`. -/
inductive ExposureRedemptionDelivery
  | pending
  | sealed
  | accepted
  deriving DecidableEq, Repr

/-- The row an exposureId holds. -/
structure ExposureBindingRecord where
  ticketFingerprint : String
  delivery : ExposureRedemptionDelivery
  expiresAt : Int
  deriving DecidableEq, Repr

/-- The row a ticket fingerprint holds. -/
structure TicketBindingRecord where
  ownerExposureId : String
  delivery : ExposureRedemptionDelivery
  expiresAt : Int
  deriving DecidableEq, Repr

/-- The keys of the storage. -/
inductive ClaimKey
  | pendingExpiryFloor
  | sweepAfter
  | exposure (exposureId : String)
  | ticket (ticketFingerprint : String)
  deriving DecidableEq, Repr

/-- The key as the platform stores it. -/
def ClaimKey.render : ClaimKey → String
  | pendingExpiryFloor => "__pending_expiry_floor"
  | sweepAfter => "__sweep_after"
  | exposure exposureId => "exposure:" ++ exposureId
  | ticket ticketFingerprint => "ticket:" ++ ticketFingerprint

/-- Where a paged sweep stopped, and the nearest expiry it has left behind. -/
structure SweepCursor where
  after : ClaimKey
  nextExpiry : Option Int
  deriving DecidableEq, Repr

structure ClaimStorage where
  exposures : Std.ExtTreeMap String ExposureBindingRecord compare
  tickets : Std.ExtTreeMap String TicketBindingRecord compare
  sweepAfter : Option SweepCursor
  pendingExpiryFloor : Option Int
  /-- The time the alarm is set to, if it is armed. -/
  alarm : Option Int

namespace ClaimStorage

/-- The storage of an object that was never called. -/
def empty : ClaimStorage := ⟨∅, ∅, none, none, none⟩

/-! ## 2. What a client can see

A row whose `expiresAt` has been reached counts as absent, whether or not it was deleted. -/

def exposureRow (st : ClaimStorage) (exposureId : String) : Option ExposureBindingRecord :=
  st.exposures[exposureId]?

def ticketRow (st : ClaimStorage) (ticketFingerprint : String) : Option TicketBindingRecord :=
  st.tickets[ticketFingerprint]?

/-- The live row of an exposureId. -/
def exposureAt (st : ClaimStorage) (now : Int) : String → Option ExposureBindingRecord :=
  Expiring.age ExposureBindingRecord.expiresAt now st.exposureRow

/-- The live row of a ticket fingerprint. -/
def ticketAt (st : ClaimStorage) (now : Int) : String → Option TicketBindingRecord :=
  Expiring.age TicketBindingRecord.expiresAt now st.ticketRow

/-! ## 3. Point writes -/

def putExposure (st : ClaimStorage) (exposureId : String) (record : ExposureBindingRecord) :
    ClaimStorage :=
  { st with exposures := st.exposures.insert exposureId record }

def putTicket (st : ClaimStorage) (ticketFingerprint : String) (record : TicketBindingRecord) :
    ClaimStorage :=
  { st with tickets := st.tickets.insert ticketFingerprint record }

def deleteExposure (st : ClaimStorage) (exposureId : String) : ClaimStorage :=
  { st with exposures := st.exposures.erase exposureId }

def deleteTicket (st : ClaimStorage) (ticketFingerprint : String) : ClaimStorage :=
  { st with tickets := st.tickets.erase ticketFingerprint }

/-- `rememberPendingExpiryFloor`: the floor is a running minimum. -/
def rememberPendingExpiryFloor (st : ClaimStorage) (expiresAt : Int) : ClaimStorage :=
  match st.pendingExpiryFloor with
  | none => { st with pendingExpiryFloor := some expiresAt }
  | some floor => { st with pendingExpiryFloor := some (min floor expiresAt) }

/-- `setExpiryAlarm`: the alarm only ever moves earlier; an expiry that would have moved it later
is remembered in the floor instead. -/
def setExpiryAlarm (st : ClaimStorage) (expiresAt : Int) : ClaimStorage :=
  match st.alarm with
  | none => { st with alarm := some expiresAt }
  | some existing =>
    if existing > expiresAt then { st with alarm := some expiresAt }
    else st.rememberPendingExpiryFloor expiresAt

/-! ## 4. What each write changes -/

variable (st : ClaimStorage)

@[simp] theorem putExposure_exposureRow (E : String) (record : ExposureBindingRecord) :
    (st.putExposure E record).exposureRow = Function.update st.exposureRow E (some record) := by
  funext K
  by_cases h : K = E
  · simp [h, exposureRow, putExposure]
  · simp [h, Ne.symm h, exposureRow, putExposure, Std.ExtTreeMap.getElem?_insert]

@[simp] theorem putTicket_ticketRow (F : String) (record : TicketBindingRecord) :
    (st.putTicket F record).ticketRow = Function.update st.ticketRow F (some record) := by
  funext K
  by_cases h : K = F
  · simp [h, ticketRow, putTicket]
  · simp [h, Ne.symm h, ticketRow, putTicket, Std.ExtTreeMap.getElem?_insert]

@[simp] theorem deleteExposure_exposureRow (E : String) :
    (st.deleteExposure E).exposureRow = Function.update st.exposureRow E none := by
  funext K
  by_cases h : K = E
  · simp [h, exposureRow, deleteExposure]
  · simp [h, Ne.symm h, exposureRow, deleteExposure, Std.ExtTreeMap.getElem?_erase]

@[simp] theorem deleteTicket_ticketRow (F : String) :
    (st.deleteTicket F).ticketRow = Function.update st.ticketRow F none := by
  funext K
  by_cases h : K = F
  · simp [h, ticketRow, deleteTicket]
  · simp [h, Ne.symm h, ticketRow, deleteTicket, Std.ExtTreeMap.getElem?_erase]

@[simp] theorem putExposure_ticketRow (E : String) (record : ExposureBindingRecord) :
    (st.putExposure E record).ticketRow = st.ticketRow := rfl

@[simp] theorem putTicket_exposureRow (F : String) (record : TicketBindingRecord) :
    (st.putTicket F record).exposureRow = st.exposureRow := rfl

@[simp] theorem deleteExposure_ticketRow (E : String) :
    (st.deleteExposure E).ticketRow = st.ticketRow := rfl

@[simp] theorem deleteTicket_exposureRow (F : String) :
    (st.deleteTicket F).exposureRow = st.exposureRow := rfl

end ClaimStorage

end Splitch
