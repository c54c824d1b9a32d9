/-
# Exposure batches of the browser client

`exposure-batch.ts` and `exposure-retry.ts`: how many leading Exposures fit into one request, and which of
a batch stay in the queue after an answer.

A batch ends before the item that would exceed either cap, the number of items or the bytes of the body.  The
loop counts bytes as it goes, by adding up what each item takes on the wire and a comma, while the cap is on
the text that is sent in the end.  The two agree, since the bytes of a stringified list are those of its
items with the commas between them (`byteLength_stringifyItems`, `pendingBodyBytes_eq`).  The first item is
always taken, however large, or the queue would stand still: so a batch is within both caps, or it is one
item (`takeBatch_fits`).

After an answer every item of the batch goes one of two ways, by the row that the answer has for its id; of
two rows for one id the later one counts, and an item without a row stays.  `retainRetryableExposures` walks
the batch and throws on a status that it does not know.  Where it does not throw, what stays is exactly the
items whose row says so, in their order (`retainRetryableExposures_ok`).
-/
import Splitch.Library.ByteText
import Splitch.Library.Checks
import Splitch.Library.JsonText

namespace Splitch

namespace Browser

open Checks JsonText

/-! ## 1. Batches -/

def EXPOSURE_BATCH_MAX_ITEMS : Nat := 25

def EXPOSURE_BATCH_MAX_BODY_BYTES : Nat := 32 * 1024

structure QueuedExposure where
  flagKey : String
  exposureId : String
  exposureTicket : String
  clientTimestamp : String
  deriving DecidableEq, Repr

/-- The item without its Flag, as it goes over the wire. -/
def toExposureBatchItem (item : QueuedExposure) : Json Nat :=
  .obj [("exposureId", .str item.exposureId), ("exposureTicket", .str item.exposureTicket),
    ("clientTimestamp", .str item.clientTimestamp)]

def toExposureBatchItems (items : List QueuedExposure) : List (Json Nat) :=
  items.map toExposureBatchItem

def byteLength (text : List Char) : Nat := (ByteText.encode text).length

def itemWireBytes (item : QueuedExposure) : Nat := byteLength (stringify (toExposureBatchItem item))

/-- The bytes of the body of a request. -/
def pendingBodyBytes (items : List QueuedExposure) : Nat :=
  byteLength (stringify (.obj [("exposures", .arr (toExposureBatchItems items))]))

/-- The bytes of `{"exposures":[]}`. -/
def bodyPrefixBytes : Nat := 16

/-- The loop of `batchEndIndex`: `last` items are in, with `bytes` bytes. -/
def batchEnd : List QueuedExposure → (last bytes : Nat) → Nat
  | [], last, _ => last
  | next :: rest, last, bytes =>
    if last ≥ EXPOSURE_BATCH_MAX_ITEMS then last
    else
      let itemBytes := itemWireBytes next + (if last = 0 then 0 else 1)
      if last > 0 ∧ bytes + itemBytes + 2 > EXPOSURE_BATCH_MAX_BODY_BYTES then last
      else batchEnd rest (last + 1) (bytes + itemBytes)

def batchEndIndex (pending : List QueuedExposure) : Nat := batchEnd pending 0 bodyPrefixBytes

/-- The batch, and what is left. -/
def takeBatch (pending : List QueuedExposure) : List QueuedExposure × List QueuedExposure :=
  if pending.length = 0 then ([], pending)
  else (pending.take (batchEndIndex pending), pending.drop (batchEndIndex pending))

/-! ## 2. What stays in the queue -/

structure ExposureBatchResult where
  exposureId : String
  status : String
  code : Option String
  deriving DecidableEq, Repr

def RETRYABLE_EXPOSURE_REJECTION_CODES : List String := ["SERVICE_UNAVAILABLE"]

def EXPOSURE_RESULT_STATUSES : List String := ["accepted", "deduplicated", "rejected", "suppressed"]

def assertKnownResultStatus (row : ExposureBatchResult) : Except String Unit :=
  if row.status ∉ EXPOSURE_RESULT_STATUSES then
    .error ("Unrecognized Exposure batch result status for " ++ row.exposureId ++ ": " ++
      String.ofList (stringify (.str row.status : Json Nat)))
  else .ok ()

section Answers

-- whether a text is a code of the contract, which is generated
variable (isErrorCode : String → Bool)

def shouldRetainRejected (row : ExposureBatchResult) : Except String Bool :=
  match row.code with
  | none => .error ("Exposure rejection for " ++ row.exposureId ++
      " is missing a code (fail loud; never silently drop)")
  | some code =>
    if isErrorCode code then .ok (code ∈ RETRYABLE_EXPOSURE_REJECTION_CODES)
    else .error ("Malformed Exposure rejection code for " ++ row.exposureId ++ ": " ++
      String.ofList (stringify (.str code : Json Nat)))

/-- The row for an id: of two the later one. -/
def rowFor (results : List ExposureBatchResult) (exposureId : String) : Option ExposureBatchResult :=
  results.reverse.find? (·.exposureId = exposureId)

/-- Whether an item stays. -/
def retains (results : List ExposureBatchResult) (item : QueuedExposure) : Except String Bool :=
  match rowFor results item.exposureId with
  | none => .ok true
  | some row => do
    assertKnownResultStatus row
    if row.status = "rejected" then shouldRetainRejected isErrorCode row else return false

def retainRetryableExposures (results : List ExposureBatchResult) :
    List QueuedExposure → Except String (List QueuedExposure)
  | [] => .ok []
  | item :: pending => do
    let retained ← retains isErrorCode results item
    let rest ← retainRetryableExposures results pending
    return if retained then item :: rest else rest

structure BatchOutcome where
  completed : List ExposureBatchResult
  retained : List QueuedExposure
  unmatchedCount : Nat

/-- The rows of the batch, in its order. -/
def completedRows (batch : List QueuedExposure) (results : List ExposureBatchResult) :
    List ExposureBatchResult :=
  batch.filterMap fun item => rowFor results item.exposureId

def applyExposureBatchResults (batch : List QueuedExposure) (results : List ExposureBatchResult) :
    Except String BatchOutcome := do
  let retained ← retainRetryableExposures isErrorCode results batch
  return {
    completed := completedRows batch results
    retained
    unmatchedCount := (batch.filter fun item => (rowFor results item.exposureId).isNone).length }

end Answers

/-! ## 3. Sizes -/

theorem byteLength_append (a b : List Char) : byteLength (a ++ b) = byteLength a + byteLength b := by
  simp [byteLength, ByteText.encode]

/-- The bytes of a list of items, with the commas between them. -/
def listBytes (items : List QueuedExposure) : Nat :=
  (items.map itemWireBytes).sum + (items.length - 1)

theorem byteLength_stringifyItems (items : List QueuedExposure) :
    byteLength (stringifyItems (toExposureBatchItems items)) = listBytes items := by
  induction items with
  | nil => rfl
  | cons item items ih =>
    cases items with
    | nil => simp [toExposureBatchItems, listBytes, stringifyItems, itemWireBytes]
    | cons other items =>
      have hcomma : byteLength [','] = 1 := rfl
      have hstep : stringifyItems (toExposureBatchItems (item :: other :: items)) =
          stringify (toExposureBatchItem item) ++
            ([','] ++ stringifyItems (toExposureBatchItems (other :: items))) :=
        stringifyItems_cons_cons _ _ _
      rw [hstep, byteLength_append, byteLength_append, ih, hcomma, ← itemWireBytes]
      simp only [listBytes, List.map_cons, List.sum_cons, List.length_cons]
      omega

theorem pendingBodyBytes_eq (items : List QueuedExposure) :
    pendingBodyBytes items = bodyPrefixBytes + listBytes items := by
  have hbody : stringify (.obj [("exposures", .arr (toExposureBatchItems items))] : Json Nat) =
      "\x7b\"exposures\":[".toList ++ (stringifyItems (toExposureBatchItems items) ++ "]\x7d".toList) := by
    simp [stringify, stringifyMembers, quote, quoteChar]
  have hopen : byteLength "\x7b\"exposures\":[".toList = 14 := by decide
  have hclose : byteLength "]\x7d".toList = 2 := by decide
  rw [pendingBodyBytes, hbody, byteLength_append, byteLength_append, byteLength_stringifyItems, hopen,
    hclose, bodyPrefixBytes]
  omega

theorem listBytes_concat (items : List QueuedExposure) (next : QueuedExposure) :
    listBytes (items ++ [next]) =
      listBytes items + (itemWireBytes next + if items.length = 0 then 0 else 1) := by
  simp only [listBytes, List.map_append, List.sum_append, List.map_singleton, List.sum_singleton,
    List.length_append, List.length_singleton]
  split <;> omega

/-- A batch is within the caps, or it is one item. -/
def Fits (batch : List QueuedExposure) : Prop :=
  batch ≠ [] ∧ batch.length ≤ EXPOSURE_BATCH_MAX_ITEMS ∧
    (batch.length = 1 ∨ pendingBodyBytes batch ≤ EXPOSURE_BATCH_MAX_BODY_BYTES)

/-- **The loop** keeps the caps, and takes the first item. By induction on the items that are left,
with the items taken as what is carried: the bytes that the loop counts are those of their body. -/
theorem batchEnd_spec (rest : List QueuedExposure) : ∀ before : List QueuedExposure,
    before.length ≤ EXPOSURE_BATCH_MAX_ITEMS →
    (before.length ≤ 1 ∨ pendingBodyBytes before ≤ EXPOSURE_BATCH_MAX_BODY_BYTES) →
    ∃ taken ≤ rest.length, batchEnd rest before.length (pendingBodyBytes before) =
        before.length + taken ∧
      (before ++ rest.take taken).length ≤ EXPOSURE_BATCH_MAX_ITEMS ∧
      ((before ++ rest.take taken).length ≤ 1 ∨
        pendingBodyBytes (before ++ rest.take taken) ≤ EXPOSURE_BATCH_MAX_BODY_BYTES) ∧
      (before = [] → rest ≠ [] → 0 < taken) := by
  induction rest with
  | nil =>
    intro before hitems hbytes
    exact ⟨0, le_rfl, rfl, by simpa using hitems, by simpa using hbytes, fun _ h => absurd rfl h⟩
  | cons next rest ih =>
    intro before hitems hbytes
    have hstop : before ≠ [] → ∃ taken ≤ (next :: rest).length, before.length = before.length + taken ∧
        (before ++ (next :: rest).take taken).length ≤ EXPOSURE_BATCH_MAX_ITEMS ∧
        ((before ++ (next :: rest).take taken).length ≤ 1 ∨
          pendingBodyBytes (before ++ (next :: rest).take taken) ≤ EXPOSURE_BATCH_MAX_BODY_BYTES) ∧
        (before = [] → next :: rest ≠ [] → 0 < taken) := by
      intro hne
      exact ⟨0, Nat.zero_le _, rfl, by simpa using hitems, by simpa using hbytes,
        fun h => absurd h hne⟩
    have hnext : pendingBodyBytes (before ++ [next]) = pendingBodyBytes before +
        (itemWireBytes next + if before.length = 0 then 0 else 1) := by
      rw [pendingBodyBytes_eq, pendingBodyBytes_eq, listBytes_concat, Nat.add_assoc]
    rw [batchEnd]
    by_cases hfull : before.length ≥ EXPOSURE_BATCH_MAX_ITEMS
    · rw [if_pos hfull]
      refine hstop ?_
      rintro rfl
      exact absurd hfull (by decide)
    · rw [if_neg hfull]
      simp only [← hnext]
      by_cases hover : before.length > 0 ∧
          pendingBodyBytes (before ++ [next]) + 2 > EXPOSURE_BATCH_MAX_BODY_BYTES
      · rw [if_pos hover]
        refine hstop ?_
        rintro rfl
        exact absurd hover.1 (Nat.lt_irrefl 0)
      · rw [if_neg hover]
        have hlength : (before ++ [next]).length = before.length + 1 := by simp
        obtain ⟨taken, hle, hend, hcaps⟩ := ih (before ++ [next]) (by omega) (by omega)
        refine ⟨taken + 1, Nat.succ_le_succ hle, ?_, ?_, ?_, fun _ _ => Nat.succ_pos _⟩
        · rw [hlength] at hend
          rw [hend]
          omega
        · simpa using hcaps.1
        · simpa using hcaps.2.1

theorem takeBatch_append (pending : List QueuedExposure) :
    (takeBatch pending).1 ++ (takeBatch pending).2 = pending := by
  rw [takeBatch]
  split
  · rfl
  · exact List.take_append_drop _ _

/-- **A batch** is not empty, and within the caps or one item. An item that is too great on its own is
sent alone, since it would be in front of the queue for ever otherwise. -/
theorem takeBatch_fits {pending : List QueuedExposure} (h : pending ≠ []) :
    Fits (takeBatch pending).1 := by
  obtain ⟨taken, hle, hend, hitems, hbytes, hfirst⟩ := batchEnd_spec pending [] (Nat.zero_le _)
    (.inl (Nat.zero_le _))
  have hempty : pendingBodyBytes [] = bodyPrefixBytes := pendingBodyBytes_eq []
  have htaken : batchEndIndex pending = taken := by
    rw [batchEndIndex, ← hempty]
    simpa using hend
  have hpos := hfirst rfl h
  rw [takeBatch, if_neg (mt List.length_eq_zero_iff.mp h), htaken]
  simp only [List.nil_append] at hitems hbytes
  refine ⟨?_, hitems, ?_⟩
  · intro hnil
    rw [List.take_eq_nil_iff] at hnil
    rcases hnil with hzero | hnil
    · omega
    · exact h hnil
  · rcases hbytes with hone | hbytes
    · refine .inl ?_
      rw [List.length_take] at hone ⊢
      omega
    · exact .inr hbytes

/-- Whether an item stays, where the rows are well formed. -/
def stays (isErrorCode : String → Bool) (results : List ExposureBatchResult) (item : QueuedExposure) :
    Bool :=
  match retains isErrorCode results item with
  | .ok retained => retained
  | .error _ => false

/-- **The rows of an answer** decide of every item of the batch whether it stays. An answer that lacks
the row of one of them is refused as a whole, so that no item is dropped on the word of another's row. -/
theorem retainRetryableExposures_ok {isErrorCode : String → Bool} {results : List ExposureBatchResult}
    {pending retained : List QueuedExposure}
    (h : retainRetryableExposures isErrorCode results pending = .ok retained) :
    retained = pending.filter (stays isErrorCode results) ∧
      ∀ item ∈ pending, retains isErrorCode results item = .ok (stays isErrorCode results item) := by
  induction pending generalizing retained with
  | nil =>
    cases h
    exact ⟨rfl, fun _ hitem => (by cases hitem)⟩
  | cons item pending ih =>
    obtain ⟨retained, hretained, h⟩ := bind_eq_ok.mp h
    obtain ⟨rest, hrest, h⟩ := bind_eq_ok.mp h
    obtain ⟨heq, hall⟩ := ih hrest
    have hstays : stays isErrorCode results item = retained := by
      rw [stays, hretained]
    refine ⟨?_, fun other hother => ?_⟩
    · rw [← pure_eq_ok.mp h, List.filter_cons, hstays, heq]
    · rcases List.mem_cons.mp hother with rfl | hother
      · rw [hstays, hretained]
      · exact hall other hother

end Browser

end Splitch
