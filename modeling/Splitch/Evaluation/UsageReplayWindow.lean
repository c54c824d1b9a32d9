/-
# The usage replay window

One Durable Object for each hashed caller identity (`evaluation-usage-replay-window.ts`) answers a
`/claim` with the event id of the first receipt, for 24 hours.

A claim reads the clock and the storage, hashes, and then writes.  The hash is not a storage
operation, so that other requests run while a claim awaits it; the storage operations before it are
one event here, and those behind it another.
-/
import Splitch.Library.Runs
import Splitch.Library.Sha256

namespace Splitch

/-! ## 1. State -/

def EVALUATION_USAGE_REPLAY_WINDOW_MS : Nat := 24 * 60 * 60 * 1000

structure ReplayWindowState where
  eventId : String
  expiresAt : Nat
  deriving DecidableEq, Repr

/-- A claim that awaits its hash. -/
structure PendingClaim where
  identity : String
  now : Nat
  deriving DecidableEq, Repr

structure EvaluationUsageReplayWindow where
  state : Option ReplayWindowState
  alarm : Option Nat
  /-- In the order of their arrival. -/
  pending : List PendingClaim
  deriving DecidableEq, Repr

def EvaluationUsageReplayWindow.live (window : EvaluationUsageReplayWindow) (now : Nat) :
    Option ReplayWindowState := window.state.filter (now < ·.expiresAt)

/-! ## 2. Requests -/

/-- What the object reads of a request: `identity` is the body's field, where the body parses and
the field is a string. -/
structure ReplayRequest where
  method : String
  pathname : String
  identity : Option String
  deriving DecidableEq, Repr

inductive ReplayResponse
  | error (status : Nat) (text : String)
  | event (eventId : String)
  deriving DecidableEq, Repr

/-- `/^[a-f0-9]{64}$/`. -/
def isHexDigest (text : String) : Bool :=
  text.toList.length == 64 && text.toList.all fun c => c.isDigit || ('a' ≤ c && c ≤ 'f')

def claimIdentity (request : ReplayRequest) : Option String := request.identity.filter isHexDigest

def PendingClaim.eventId (claim : PendingClaim) : String :=
  "sha256:" ++ Sha256.hex (claim.identity ++ "\u001f" ++ toString claim.now)

def PendingClaim.next (claim : PendingClaim) : ReplayWindowState where
  eventId := claim.eventId
  expiresAt := claim.now + EVALUATION_USAGE_REPLAY_WINDOW_MS

namespace EvaluationUsageReplayWindow

/-- A request up to its answer or the hash. -/
def fetch (window : EvaluationUsageReplayWindow) (request : ReplayRequest) (now : Nat) :
    Option ReplayResponse × EvaluationUsageReplayWindow :=
  if request.method ≠ "POST" ∨ request.pathname ≠ "/claim" then
    (some (.error 404 "not found"), window)
  else
    match claimIdentity request with
    | none => (some (.error 400 "invalid replay identity"), window)
    | some identity =>
      match window.live now with
      | some state => (some (.event state.eventId), window)
      | none => (none, { window with pending := window.pending ++ [⟨identity, now⟩] })

/-- The hash of a claim arrives. -/
def hashed (window : EvaluationUsageReplayWindow) (index : Nat) :
    Option ReplayResponse × EvaluationUsageReplayWindow :=
  match window.pending[index]? with
  | none => (none, window)
  | some claim =>
    (some (.event claim.eventId),
      ⟨some claim.next, some claim.next.expiresAt, window.pending.eraseIdx index⟩)

def fireAlarm (window : EvaluationUsageReplayWindow) (now : Nat) : EvaluationUsageReplayWindow :=
  if window.alarm.any (· ≤ now) then
    { window with alarm := none, state := window.live now }
  else window

end EvaluationUsageReplayWindow

/-! ## 3. The object -/

inductive ReplayEvent
  | fetch (request : ReplayRequest) (now : Nat)
  | hashed (index : Nat) (now : Nat)
  | alarm (now : Nat)
  /-- The object is evicted, and its requests with it. -/
  | evicted (now : Nat)
  deriving DecidableEq, Repr

def ReplayEvent.now : ReplayEvent → Nat
  | .fetch _ now | .hashed _ now | .alarm now | .evicted now => now

def usageReplayWindow :
    Machine EvaluationUsageReplayWindow ReplayEvent (Option ReplayResponse) where
  init := ⟨none, none, []⟩
  step window
    | .fetch request now => window.fetch request now
    | .hashed index _ => window.hashed index
    | .alarm now => (none, window.fireAlarm now)
    | .evicted _ => (none, { window with pending := [] })

end Splitch
