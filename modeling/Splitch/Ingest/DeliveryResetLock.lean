/-
# The lock of deliveries and resets

The readers-writer section of the privacy objects (`delivery-reset-lock.ts`).  A call runs in turns: its
synchronous code up to an `await`, and from there on once the promise it awaits has settled.  A protected
operation settles at any time, resolved or rejected, or throws when it is started.

Calls are numbered as they are made, and the promise that an exclusive call puts into `writerQueue` is
known by its number: it is resolved when the call is over.  A call that an operation makes when it is
started is a call made next to it, before the turn or after it: one of the two sees the same counters.

The invariant `Inv` counts the pending exclusive calls, orders them by the promises they await, and says
whose operation may run.
-/
import Mathlib.Data.Finset.Card

namespace Splitch

namespace ResetLock

/-! ## 1. The lock -/

/-- Where a call is. -/
inductive Stage
  | absent
  | readerWaiting (awaited : Option Nat)
  | reading
  | readSettled
  | readDone
  | writerWaiting (earlier : Option Nat)
  | draining (snapshot : Finset Nat)
  | writing
  | writeSettled
  | writeDone
  deriving DecidableEq

structure Lock where
  calls : Nat
  stage : Nat → Stage
  writers : Nat
  writerQueue : Option Nat
  readers : Finset Nat

namespace Lock

def start : Lock := ⟨0, fun _ => .absent, 0, none, ∅⟩

variable (lock : Lock)

def put (n : Nat) (stage : Stage) : Lock := { lock with stage := Function.update lock.stage n stage }

/-- The condition of the loop of `shared`, and what follows it. -/
def checkWriters (n : Nat) (throws : Bool) : Lock :=
  if lock.writers > 0 then lock.put n (.readerWaiting lock.writerQueue)
  else if throws then lock.put n .readDone
  else { lock.put n .reading with readers := insert n lock.readers }

/-- `finally` of `exclusive`. -/
def release (n : Nat) : Lock := { lock.put n .writeDone with writers := lock.writers - 1 }

/-- The condition of the loop of `exclusive`, and what follows it. -/
def checkReaders (n : Nat) (throws : Bool) : Lock :=
  if lock.readers.card > 0 then lock.put n (.draining lock.readers)
  else if throws then lock.release n
  else lock.put n .writing

/-- `shared(run)`, up to its first `await`. -/
def shared (throws : Bool) : Lock :=
  { lock.put lock.calls (.readerWaiting none) with calls := lock.calls + 1 }.checkWriters
    lock.calls throws

/-- `exclusive(run)`, up to its first `await`. -/
def exclusive : Lock :=
  { lock.put lock.calls (.writerWaiting lock.writerQueue) with
    calls := lock.calls + 1
    writers := lock.writers + 1
    writerQueue := some lock.calls }

/-- The promise of an earlier exclusive call is resolved. -/
def Resolved : Option Nat → Prop
  | none => True
  | some w => lock.stage w = .writeDone

instance decidableResolved (promise : Option Nat) : Decidable (lock.Resolved promise) :=
  match promise with
  | none => isTrue trivial
  | some _ => inferInstanceAs (Decidable (_ = _))

/-- The operation of a shared call has settled. -/
def Settled (n : Nat) : Prop := lock.stage n = .readSettled ∨ lock.stage n = .readDone

instance decidableSettled (n : Nat) : Decidable (lock.Settled n) :=
  inferInstanceAs (Decidable (_ ∨ _))

/-- The turn of a call whose promise has settled. -/
def turn (n : Nat) (throws : Bool) : Option Lock :=
  match lock.stage n with
  | .readerWaiting awaited =>
    if lock.Resolved awaited then some (lock.checkWriters n throws) else none
  | .readSettled => some { lock.put n .readDone with readers := lock.readers.erase n }
  | .writerWaiting earlier =>
    if lock.Resolved earlier then some (lock.checkReaders n throws) else none
  | .draining snapshot =>
    if ∀ m ∈ snapshot, lock.Settled m then some (lock.checkReaders n throws) else none
  | .writeSettled => some (lock.release n)
  | _ => none

/-- The operation of a call settles. -/
def settle (n : Nat) : Option Lock :=
  match lock.stage n with
  | .reading => some (lock.put n .readSettled)
  | .writing => some (lock.put n .writeSettled)
  | _ => none

end Lock

/-- What may happen next. -/
inductive Step : Lock → Lock → Prop
  | shared (lock : Lock) (throws : Bool) : Step lock (lock.shared throws)
  | exclusive (lock : Lock) : Step lock lock.exclusive
  | settle {lock lock' : Lock} (n : Nat) (h : lock.settle n = some lock') : Step lock lock'
  | turn {lock lock' : Lock} (n : Nat) (throws : Bool) (h : lock.turn n throws = some lock') :
      Step lock lock'

/-! ## 2. Stages -/

namespace Stage

def exclusive : Stage → Bool
  | .writerWaiting _ | .draining _ | .writing | .writeSettled | .writeDone => true
  | _ => false

/-- An exclusive call that is not over. -/
def pending : Stage → Bool
  | .writerWaiting _ | .draining _ | .writing | .writeSettled => true
  | _ => false

/-- An exclusive call whose turn has come. -/
def past : Stage → Bool
  | .draining _ | .writing | .writeSettled | .writeDone => true
  | _ => false

def inExclusive : Stage → Bool
  | .writing | .writeSettled => true
  | _ => false

def inShared : Stage → Bool
  | .reading | .readSettled => true
  | _ => false

/-- A shared call that was let in. -/
def letIn : Stage → Bool
  | .reading | .readSettled | .readDone => true
  | _ => false

/-- How far a call has come. -/
def rank : Stage → Nat
  | .absent => 0
  | .readerWaiting _ | .writerWaiting _ | .draining _ => 1
  | .reading | .writing => 2
  | .readSettled | .writeSettled => 3
  | .readDone | .writeDone => 4

variable {stage : Stage}

theorem exclusive_of_pending (h : stage.pending = true) : stage.exclusive = true := by
  cases stage <;> first | rfl | cases h

theorem pending_of_inExclusive (h : stage.inExclusive = true) : stage.pending = true := by
  cases stage <;> first | rfl | cases h

theorem past_of_inExclusive (h : stage.inExclusive = true) : stage.past = true := by
  cases stage <;> first | rfl | cases h

theorem letIn_of_inShared (h : stage.inShared = true) : stage.letIn = true := by
  cases stage <;> first | rfl | cases h

theorem pending_of_not_done (h : stage.exclusive = true) (hdone : stage ≠ .writeDone) :
    stage.pending = true := by
  cases stage <;> first | rfl | exact absurd rfl hdone | cases h

end Stage

/-! ## 3. The invariant -/

/-- The latest exclusive call before `bound`. -/
def Latest (stage : Nat → Stage) (bound : Nat) : Option Nat → Prop
  | none => ∀ n < bound, (stage n).exclusive = false
  | some w => w < bound ∧ (stage w).exclusive = true ∧
      ∀ n, w < n → n < bound → (stage n).exclusive = false

structure Inv (lock : Lock) : Prop where
  absent : ∀ n, lock.stage n = .absent ↔ lock.calls ≤ n
  readers : ∀ n, n ∈ lock.readers ↔ (lock.stage n).inShared = true
  writers : lock.writers = ((Finset.range lock.calls).filter fun n => (lock.stage n).pending).card
  queue : Latest lock.stage lock.calls lock.writerQueue
  earlier : ∀ n promise, lock.stage n = .writerWaiting promise → Latest lock.stage n promise
  order : ∀ n, (lock.stage n).past = true →
    ∀ m < n, (lock.stage m).exclusive = true → lock.stage m = .writeDone
  drain : ∀ n snapshot, lock.stage n = .draining snapshot →
    lock.readers ⊆ snapshot ∧ ∀ m ∈ snapshot, (lock.stage m).letIn = true
  alone : ∀ n, (lock.stage n).inExclusive = true → lock.readers = ∅
  awaited : ∀ n w, lock.stage n = .readerWaiting (some w) → (lock.stage w).exclusive = true

theorem inv_start : Inv Lock.start where
  absent n := by simp [Lock.start]
  readers n := by simp [Lock.start, Stage.inShared]
  writers := rfl
  queue n hn := absurd hn (Nat.not_lt_zero n)
  earlier n promise h := by cases h
  order n h := by cases h
  drain n snapshot h := by cases h
  alone n h := by cases h
  awaited n w h := by cases h

variable {lock lock' : Lock} {n m : Nat}

theorem Inv.lt (h : Inv lock) (hstage : lock.stage n ≠ .absent) : n < lock.calls :=
  not_le.mp fun hle => hstage ((h.absent n).mpr hle)

theorem Inv.lt_of_exclusive (h : Inv lock) (hstage : (lock.stage n).exclusive = true) :
    n < lock.calls := by
  refine h.lt fun habsent => ?_
  rw [habsent] at hstage
  cases hstage

/-- An exclusive call that is not over is counted. -/
theorem Inv.writers_pos (h : Inv lock) (hpending : (lock.stage n).pending = true) :
    0 < lock.writers := by
  rw [h.writers, Finset.card_pos]
  refine ⟨n, Finset.mem_filter.mpr ⟨Finset.mem_range.mpr ?_, hpending⟩⟩
  exact h.lt_of_exclusive (Stage.exclusive_of_pending hpending)

theorem Inv.done_of_writers (h : Inv lock) (hwriters : lock.writers = 0)
    (hexclusive : (lock.stage n).exclusive = true) : lock.stage n = .writeDone := by
  by_contra hdone
  exact absurd hwriters (h.writers_pos (Stage.pending_of_not_done hexclusive hdone)).ne'

theorem Latest.congr {stage stage' : Nat → Stage} {bound : Nat} {promise : Option Nat}
    (hsame : ∀ n < bound, (stage' n).exclusive = (stage n).exclusive)
    (h : Latest stage bound promise) : Latest stage' bound promise := by
  cases promise with
  | none => exact fun n hn => (hsame n hn).trans (h n hn)
  | some w =>
    exact ⟨h.1, (hsame w h.1).trans h.2.1, fun n hwn hn => (hsame n hn).trans (h.2.2 n hwn hn)⟩

end ResetLock

end Splitch
