/-
# Bounded request bodies

The raw-body gate of the request handlers (`bounded-body/src/index.ts`): the content type and the
declared length are checked before anything is read, and a stream is read up to the chunk that exceeds
the bound.  What `trim`, `toLowerCase` and the text decoder make of a text is left open.

A stream is a list of chunks, and reading it is counted, as the point of the gate is not to read too much.
The loop adds up what it has read, stops behind the first chunk that takes the sum over the bound, and
otherwise copies the chunks into one buffer of the whole length.  The copy is the concatenation of the
chunks, since each is written where the ones before it end (`copyChunks_eq`); and what a read of the rest
gives depends on the sum so far alone (`readChunks_result`, `readChunks_reads`).

With a declared length that is true or absent, the bodies within the bound are thus accepted, as the bytes of
their chunks, and no others, and nothing is read beyond the chunk that exceeds the bound (`bounded_body`).  A
declared length that is too large is refused unread, which is right as long as it is true (`Truthful.over`).
-/
import Mathlib.Data.List.Basic

namespace Splitch

namespace RequestBody

/-! ## 1. Streams -/

/-- A body as it is read: chunks, to an end or a failure. -/
inductive ByteStream
  | done
  | failed (cause : String)
  | chunk (value : List UInt8) (rest : ByteStream)

/-- A stream of the chunks. -/
def ByteStream.ofChunks : List (List UInt8) → ByteStream
  | [] => .done
  | value :: chunks => .chunk value (ofChunks chunks)

/-- What a use of a stream comes to: its result or what it throws, the number of reads, and whether the
rest was cancelled. -/
structure Read (α : Type) where
  result : Except String α
  reads : Nat
  cancelled : Bool

/-- `bytes.set(chunk, offset)`. -/
def setBytes (bytes chunk : List UInt8) (offset : Nat) : Except String (List UInt8) :=
  if offset + chunk.length ≤ bytes.length then
    .ok (bytes.take offset ++ chunk ++ bytes.drop (offset + chunk.length))
  else .error "offset is out of bounds"

/-- The second loop: the chunks are copied one after the other. -/
def copyChunks (bytes : List UInt8) (offset : Nat) : List (List UInt8) → Except String (List UInt8)
  | [] => .ok bytes
  | chunk :: chunks => do
    let bytes ← setBytes bytes chunk offset
    copyChunks bytes (offset + chunk.length) chunks

/-- The first loop, and what follows it. -/
def readChunks (maxBytes : Nat) (chunks : List (List UInt8)) (byteLength : Nat) :
    ByteStream → Read (Option (List UInt8))
  | .done => ⟨some <$> copyChunks (List.replicate byteLength 0) 0 chunks, 1, false⟩
  | .failed cause => ⟨.error cause, 1, false⟩
  | .chunk value rest =>
    if (value.length : Int) > maxBytes - byteLength then ⟨.ok none, 1, true⟩
    else
      let read := readChunks maxBytes (chunks ++ [value]) (byteLength + value.length) rest
      { read with reads := read.reads + 1 }

def readBoundedRequestBytes (body : Option ByteStream) (maxBytes : Nat) :
    Read (Option (List UInt8)) :=
  match body with
  | none => ⟨.ok (some []), 0, false⟩
  | some stream => readChunks maxBytes [] 0 stream

/-! ## 2. The gate -/

/-- What the language makes of texts. -/
structure Texts where
  trim : String → String
  toLowerCase : String → String
  decode : List UInt8 → String

inductive BoundedBodyFailureReason
  | unsupportedContentType
  | tooLarge
  deriving DecidableEq, Repr

inductive BoundedBodyResult
  | ok (bytes : List UInt8) (text : String)
  | failed (reason : BoundedBodyFailureReason)
  deriving DecidableEq, Repr

structure ReadBoundedBodyOptions where
  maxBytes : Nat
  allowedMediaTypes : List String

structure Request where
  contentType : Option String
  contentLength : Option String
  body : Option ByteStream

def MAX_SAFE_INTEGER : Nat := 9007199254740991

/-- `Number(value)` of a text of digits, where that is a safe integer. -/
def digitsValue (value : String) : Nat :=
  value.toList.foldl (fun sum digit => 10 * sum + (digit.toNat - '0'.toNat)) 0

def trustedContentLength (value : Option String) : Option Nat :=
  value.bind fun value =>
    if value.toList ≠ [] ∧ value.toList.all Char.isDigit then
      if digitsValue value ≤ MAX_SAFE_INTEGER then some (digitsValue value) else none
    else none

section

variable (texts : Texts)

def mediaTypeOf (contentType : Option String) : Option String :=
  contentType.bind fun contentType =>
    let mediaType := texts.toLowerCase
      (texts.trim (String.ofList (contentType.toList.takeWhile (· ≠ ';'))))
    if mediaType.length = 0 then none else some mediaType

def hasAllowedMediaType (contentType : Option String) (allowedMediaTypes : List String) : Bool :=
  match mediaTypeOf texts contentType with
  | none => false
  | some mediaType => allowedMediaTypes.any fun allowed => texts.toLowerCase allowed = mediaType

def readBoundedRequestBody (request : Request) (options : ReadBoundedBodyOptions) :
    Except String BoundedBodyResult :=
  if ¬ hasAllowedMediaType texts request.contentType options.allowedMediaTypes then
    .ok (.failed .unsupportedContentType)
  else if (trustedContentLength request.contentLength).any (· > options.maxBytes) then
    .ok (.failed .tooLarge)
  else do
    let bytes ← (readBoundedRequestBytes request.body options.maxBytes).result
    match bytes with
    | none => return .failed .tooLarge
    | some bytes => return .ok bytes (texts.decode bytes)

end

/-! ## 3. The copy -/

/-- A chunk is written after what was copied, into room that is left for it. -/
theorem setBytes_eq (copied chunk : List UInt8) (room : Nat) :
    setBytes (copied ++ List.replicate (chunk.length + room) 0) chunk copied.length =
      .ok (copied ++ chunk ++ List.replicate room 0) := by
  rw [setBytes, if_pos (by rw [List.length_append, List.length_replicate]; omega)]
  rw [List.take_left, ← List.drop_drop, List.drop_left, List.drop_replicate, Nat.add_sub_cancel_left]

/-- **The copy** is the concatenation of the chunks. -/
theorem copyChunks_eq : ∀ (chunks : List (List UInt8)) (copied : List UInt8),
    copyChunks (copied ++ List.replicate chunks.flatten.length 0) copied.length chunks =
      .ok (copied ++ chunks.flatten)
  | [], copied => by simp [copyChunks]
  | chunk :: chunks, copied => by
    rw [copyChunks, List.flatten_cons, List.length_append, setBytes_eq]
    have hrest := copyChunks_eq chunks (copied ++ chunk)
    rw [List.length_append, List.append_assoc copied chunk chunks.flatten] at hrest
    exact hrest

/-! ## 4. The loop -/

/-- **The read** of a stream of chunks, after some that were within the bound. By induction on the
chunks that are left; what has been read is carried as the chunks themselves, so that the buffer at
the end is their bytes in order. -/
theorem readChunks_result (maxBytes : Nat) : ∀ (rest before : List (List UInt8)),
    before.flatten.length ≤ maxBytes →
      (readChunks maxBytes before before.flatten.length (.ofChunks rest)).result =
        .ok (if (before ++ rest).flatten.length ≤ maxBytes then some (before ++ rest).flatten
          else none)
  | [], before, hwithin => by
    have hcopy := copyChunks_eq before []
    rw [List.nil_append, List.nil_append, List.length_nil] at hcopy
    rw [List.append_nil, if_pos hwithin, ByteStream.ofChunks, readChunks, hcopy]
    rfl
  | chunk :: rest, before, hwithin => by
    have hlen : (before ++ [chunk]).flatten.length = before.flatten.length + chunk.length := by
      simp [List.flatten_append]
    have hall : (before ++ chunk :: rest).flatten.length =
        before.flatten.length + chunk.length + rest.flatten.length := by
      simp [List.flatten_append, Nat.add_assoc]
    rw [ByteStream.ofChunks, readChunks]
    split
    · next hover => rw [if_neg (by omega)]
    · next hroom =>
      have hrest := readChunks_result maxBytes rest (before ++ [chunk]) (by omega)
      rw [hlen, List.append_assoc, List.singleton_append] at hrest
      exact hrest

/-- Nothing is read after a chunk that exceeds the bound. -/
theorem readChunks_reads (maxBytes : Nat) (after : List (List UInt8)) (chunk : List UInt8) :
    ∀ (rest before : List (List UInt8)),
      maxBytes < (before ++ rest ++ [chunk]).flatten.length →
        (readChunks maxBytes before before.flatten.length
          (.ofChunks (rest ++ chunk :: after))).reads ≤ rest.length + 1
  | [], before, hover => by
    rw [List.append_nil, List.flatten_append, List.length_append] at hover
    simp only [List.flatten_cons, List.flatten_nil, List.append_nil] at hover
    rw [List.nil_append, ByteStream.ofChunks, readChunks, if_pos (by omega)]
    exact Nat.le_refl 1
  | value :: rest, before, hover => by
    have hlen : (before ++ [value]).flatten.length = before.flatten.length + value.length := by
      simp [List.flatten_append]
    rw [List.cons_append, ByteStream.ofChunks, readChunks]
    split
    · exact Nat.succ_le_succ (Nat.zero_le _)
    · have hrest := readChunks_reads maxBytes after chunk rest (before ++ [value]) (by
        rw [List.append_assoc before, List.singleton_append]
        exact hover)
      rw [hlen] at hrest
      exact Nat.succ_le_succ hrest

theorem readBoundedRequestBytes_result (chunks : List (List UInt8)) (maxBytes : Nat) :
    (readBoundedRequestBytes (some (.ofChunks chunks)) maxBytes).result =
      .ok (if chunks.flatten.length ≤ maxBytes then some chunks.flatten else none) :=
  readChunks_result maxBytes chunks [] (Nat.zero_le _)

/-! ## 5. The gate -/

/-- The declared length is that of the body, if there is one that is trusted. -/
def Truthful (contentLength : Option String) (total : Nat) : Prop :=
  ∀ declared ∈ trustedContentLength contentLength, declared = total

/-- A body without a stream, or a stream of chunks, and its bytes. -/
inductive Carries : Option ByteStream → List UInt8 → Prop
  | absent : Carries none []
  | stream (chunks : List (List UInt8)) : Carries (some (.ofChunks chunks)) chunks.flatten

theorem Carries.result {body : Option ByteStream} {bytes : List UInt8} (h : Carries body bytes)
    (maxBytes : Nat) :
    (readBoundedRequestBytes body maxBytes).result =
      .ok (if bytes.length ≤ maxBytes then some bytes else none) := by
  cases h with
  | absent => rw [if_pos (by simp)]; rfl
  | stream chunks => exact readBoundedRequestBytes_result chunks maxBytes

/-- A declared length that is refused is that of a body that is refused. -/
theorem Truthful.over {contentLength : Option String} {total maxBytes : Nat}
    (h : Truthful contentLength total)
    (hover : (trustedContentLength contentLength).any (· > maxBytes) = true) : maxBytes < total := by
  cases hdeclared : trustedContentLength contentLength with
  | none =>
    rw [hdeclared] at hover
    cases hover
  | some declared =>
    rw [hdeclared, Option.any_some, decide_eq_true_iff] at hover
    exact h declared hdeclared ▸ hover

/-- **The gate.**  A body with a declared length that is true or absent and a media type that is allowed
is accepted exactly when it is within the bound, as its bytes; and nothing is read after the first chunk
that exceeds the bound. -/
theorem bounded_body (texts : Texts) (options : ReadBoundedBodyOptions) (request : Request)
    {bytes : List UInt8} (hbody : Carries request.body bytes)
    (htrue : Truthful request.contentLength bytes.length) :
    readBoundedRequestBody texts request options =
      .ok (if hasAllowedMediaType texts request.contentType options.allowedMediaTypes then
        if bytes.length ≤ options.maxBytes then .ok bytes (texts.decode bytes)
        else .failed .tooLarge
      else .failed .unsupportedContentType) ∧
    ∀ before chunk after, request.body = some (.ofChunks (before ++ chunk :: after)) →
      options.maxBytes < (before ++ [chunk]).flatten.length →
      (readBoundedRequestBytes request.body options.maxBytes).reads ≤ before.length + 1 := by
  refine ⟨?_, ?_⟩
  · rw [readBoundedRequestBody]
    by_cases hmedia : hasAllowedMediaType texts request.contentType options.allowedMediaTypes
    · rw [if_neg (not_not_intro hmedia), if_pos hmedia]
      split
      · next hover => rw [if_neg (Nat.not_le.mpr (htrue.over hover))]
      · rw [hbody.result]
        by_cases hwithin : bytes.length ≤ options.maxBytes
        · rw [if_pos hwithin, if_pos hwithin]
          rfl
        · rw [if_neg hwithin, if_neg hwithin]
          rfl
    · rw [if_pos hmedia, if_neg hmedia]
  · intro before chunk after hstream hover
    rw [hstream]
    exact readChunks_reads options.maxBytes after chunk before [] hover

/-- Texts of lower-case letters, that nothing is trimmed of. -/
def plainTexts : Texts where
  trim := id
  toLowerCase := id
  decode bytes := String.ofList (bytes.map fun byte => Char.ofNat byte.toNat)

/-- A body as long as the bound, and one whose third chunk exceeds it: the fourth is not read. -/
theorem bounded_body_at_bound :
    readBoundedRequestBody plainTexts
        ⟨some "text/plain;charset=utf-8", some "3", some (.ofChunks [[104], [], [105, 33]])⟩
        ⟨3, ["text/plain"]⟩ = .ok (.ok [104, 105, 33] "hi!") ∧
      readBoundedRequestBody plainTexts
        ⟨some "text/plain", none, some (.ofChunks [[104], [105, 33], [46], [46]])⟩
        ⟨3, ["text/plain"]⟩ = .ok (.failed .tooLarge) ∧
      (readBoundedRequestBytes (some (.ofChunks [[104], [105, 33], [46], [46]])) 3).reads ≤ 3 := by
  have hdeclared : Truthful (some "3") 3 := by
    rintro declared hdeclared
    rw [show trustedContentLength (some "3") = some 3 by decide, Option.mem_some_iff] at hdeclared
    exact hdeclared.symm
  have hundeclared : Truthful none 5 := by
    rintro declared hdeclared
    cases hdeclared
  obtain ⟨hwithin, -⟩ := bounded_body plainTexts ⟨3, ["text/plain"]⟩
    ⟨some "text/plain;charset=utf-8", some "3", some (.ofChunks [[104], [], [105, 33]])⟩
    (.stream [[104], [], [105, 33]]) hdeclared
  obtain ⟨hover, hreads⟩ := bounded_body plainTexts ⟨3, ["text/plain"]⟩
    ⟨some "text/plain", none, some (.ofChunks [[104], [105, 33], [46], [46]])⟩
    (.stream [[104], [105, 33], [46], [46]]) hundeclared
  refine ⟨?_, ?_, hreads [[104], [105, 33]] [46] [[46]] rfl (by decide)⟩
  · rw [hwithin]
    decide
  · rw [hover]
    decide

end RequestBody

end Splitch
