/-
# The claim object: routes, paged sweep, alarm

`exposure-redemption-do-handler.ts`.  A request runs one function of the claim state machine
inside a transaction.  The alarm deletes expired rows, at most one page of keys per tick; a sweep
that needs several ticks keeps its place in `__sweep_after` and continues from there.

The platform clears the alarm that invoked the handler before the handler runs, so a tick starts
with no alarm armed.
-/
import Splitch.Library.Paging
import Splitch.Library.Runs
import Splitch.Redemption.ClaimCore

namespace Splitch

/-! ## 1. The keyspace, as the platform lists it -/

/-- What a key can hold. -/
inductive StoredRow
  | number (value : Int)
  | cursor (value : SweepCursor)
  | exposure (record : ExposureBindingRecord)
  | ticket (record : TicketBindingRecord)
  deriving DecidableEq, Repr

/-- Every key of the storage with its row, in the order of the keys. -/
def ClaimStorage.entries (st : ClaimStorage) : List (ClaimKey × StoredRow) :=
  (st.pendingExpiryFloor.map (fun floor => (.pendingExpiryFloor, .number floor))).toList
    ++ (st.sweepAfter.map (fun cursor => (.sweepAfter, .cursor cursor))).toList
    ++ st.exposures.toList.map (fun row => (.exposure row.1, .exposure row.2))
    ++ st.tickets.toList.map (fun row => (.ticket row.1, .ticket row.2))

/-- The name an entry is listed under. -/
def entryName (entry : ClaimKey × StoredRow) : String := entry.1.render

/-- `storage.list({ limit, startAfter })`. -/
def ClaimStorage.list (st : ClaimStorage) (limit : Nat) (startAfter : Option ClaimKey) :
    List (ClaimKey × StoredRow) :=
  Paging.page entryName limit (startAfter.map ClaimKey.render) st.entries

def ClaimStorage.deleteKey (st : ClaimStorage) : ClaimKey → ClaimStorage
  | .pendingExpiryFloor => { st with pendingExpiryFloor := none }
  | .sweepAfter => { st with sweepAfter := none }
  | .exposure exposureId => st.deleteExposure exposureId
  | .ticket ticketFingerprint => st.deleteTicket ticketFingerprint

/-- `storage.delete(keys)`. -/
def ClaimStorage.deleteKeys (st : ClaimStorage) (keys : List ClaimKey) : ClaimStorage :=
  keys.foldl ClaimStorage.deleteKey st

/-! ## 2. The sweep -/

/-- Max keys listed per alarm tick. -/
def EXPOSURE_REDEMPTION_SWEEP_PAGE_SIZE : Nat := 128

/-- Only the claim rows carry an expiry the sweep looks at. -/
def claimRecordExpiresAt : ClaimKey × StoredRow → Option Int
  | (.exposure _, .exposure record) => some record.expiresAt
  | (.ticket _, .ticket record) => some record.expiresAt
  | _ => none

def minExpiry : Option Int → Option Int → Option Int
  | none, b => b
  | a, none => a
  | some a, some b => some (min a b)

/-- One turn of the loop of `collectExpiredKeys`. -/
def collectEntry (nowMs : Int) (acc : List ClaimKey × Option Int)
    (entry : ClaimKey × StoredRow) : List ClaimKey × Option Int :=
  match claimRecordExpiresAt entry with
  | none => acc
  | some expiresAt =>
    if expiresAt ≤ nowMs then (acc.1 ++ [entry.1], acc.2)
    else (acc.1, minExpiry acc.2 (some expiresAt))

/-- The expired keys of a page, and the nearest expiry among its other rows. -/
def collectExpiredKeys (entries : List (ClaimKey × StoredRow)) (nowMs : Int) :
    List ClaimKey × Option Int :=
  entries.foldl (collectEntry nowMs) ([], none)

def persistSweepCursor (entries : List (ClaimKey × StoredRow)) (nextExpiry : Option Int) :
    ClaimM Unit := do
  match entries.getLast? with
  | none => return
  | some entry => modify ({ · with sweepAfter := some ⟨entry.1, nextExpiry⟩ })

/-- The drain finished: merge the pending floor, then clear it. -/
def takeExpiryWithPendingFloor (nextExpiry : Option Int) : ClaimM (Option Int) := do
  let floor := (← get).pendingExpiryFloor
  modify ({ · with pendingExpiryFloor := none })
  return minExpiry nextExpiry floor

def deleteExpired (nowMs : Int) : ClaimM (Option Int) := do
  let cursor := (← get).sweepAfter
  let entries :=
    (← get).list EXPOSURE_REDEMPTION_SWEEP_PAGE_SIZE (cursor.map SweepCursor.after)
  let (expiredKeys, pageNextExpiry) := collectExpiredKeys entries nowMs
  modify (·.deleteKeys expiredKeys)
  let nextExpiry := minExpiry (cursor.bind SweepCursor.nextExpiry) pageNextExpiry
  if entries.length ≥ EXPOSURE_REDEMPTION_SWEEP_PAGE_SIZE then
    persistSweepCursor entries nextExpiry
    -- a full page: more keys may remain, continue at once
    return some nowMs
  else
    modify ({ · with sweepAfter := none })
    takeExpiryWithPendingFloor nextExpiry

def runExposureRedemptionClaimAlarm (nowMs : Int) : ClaimM Unit := do
  match ← deleteExpired nowMs with
  | none => return
  | some nextExpiry => modify (·.setExpiryAlarm nextExpiry)

/-! ## 3. The object as a machine -/

inductive ClaimRoute
  | claim
  | release
  | markSealed
  | acknowledge
  deriving DecidableEq, Repr

inductive ClaimResponse
  | claim (outcome : ExposureRedemptionClaimOutcome)
  | release
  | markSealed (result : Except String Unit)
  | acknowledge (result : Except String ExposureRedemptionAcknowledgeOutcome)
  | alarm
  deriving DecidableEq

def dispatchClaimRoute (input : ClaimInput) : ClaimRoute → ClaimM ClaimResponse
  | .claim => return .claim (← applyExposureRedemptionClaim input)
  | .release => do
    applyExposureRedemptionRelease input
    return .release
  | .markSealed => return .markSealed (← applyExposureRedemptionMarkSealed input)
  | .acknowledge => return .acknowledge (← applyExposureRedemptionAcknowledge input)

/-- What can happen to the object. -/
inductive ClaimEvent
  | request (route : ClaimRoute) (input : ClaimInput)
  | alarm (nowMs : Int)
  deriving DecidableEq, Repr

/-- The clock reading an event carries. -/
def ClaimEvent.nowMs : ClaimEvent → Int
  | request _ input => input.nowMs
  | alarm nowMs => nowMs

def claimStep (event : ClaimEvent) : ClaimM ClaimResponse :=
  match event with
  | .request route input => dispatchClaimRoute input route
  | .alarm nowMs => do
    -- the platform has already cleared the alarm that fires
    modify ({ · with alarm := none })
    runExposureRedemptionClaimAlarm nowMs
    return .alarm

/-- The claim object, started on an empty storage. -/
def claimObject : Machine ClaimStorage ClaimEvent ClaimResponse where
  init := .empty
  step st event := claimStep event st

end Splitch
