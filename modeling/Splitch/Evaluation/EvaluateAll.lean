/-
# Precomputed Evaluations

`evaluate-all.ts`, `evaluate-all-resolve.ts`, `evaluate-all-entry.ts` and
`evaluate-all-exposure-identity.ts`: one request resolves all Flags of an Environment, each with an
Exposure Ticket where the evaluation exposes, and is answered with the entries, or with nothing but
their ETag where the request names it.

The admission of the identity, the usage and the Idempotency-Key of a request are what it meets
(`Moment`), and the answer of the schema parse is the body itself.  Logging is left out.
-/
import Splitch.Library.Runs
import Splitch.Library.TrimmedText
import Splitch.Redemption.TicketRoundTrip
import Splitch.Sdk.AttributeFingerprint

namespace Splitch

namespace EvaluateAll

open Checks JsonText Evaluator TrimmedText

/-! ## 1. Entries -/

inductive EvaluateAllReason
  | SPLIT
  | DEFAULT
  | DISABLED
  | ERROR
  deriving DecidableEq, Repr

def EvaluateAllReason.name : EvaluateAllReason → String
  | SPLIT => "SPLIT"
  | DEFAULT => "DEFAULT"
  | DISABLED => "DISABLED"
  | ERROR => "ERROR"

/-- What of an entry counts for the ETag. -/
structure TaggedEntry (N : Type) where
  /-- `null` where there is none. -/
  variant : Json N
  variantName : Option String
  reason : EvaluateAllReason
  errorCode : Option String
  exposureIdentity : Option String

structure EvaluateAllEntry (N : Type) extends TaggedEntry N where
  exposureTicket : Option String

/-- A Flag of the provider, with the values of its Variants. -/
structure ServedFlag (N : Type) where
  config : FlagConfig
  value : Variant → Json N

/-- The numbers of JSON texts. -/
structure Numbers (N : Type) where
  toJs : N → JsNumber
  ofInt : Int → N
  ofInt_injective : Function.Injective ofInt

variable {N : Type}

mutual

/-- A value of the request, for the evaluation. -/
def jsonValue (numbers : Numbers N) : Json N → JsonValue
  | .null => .null
  | .bool value => .scalar (.boolean value)
  | .num value => .scalar (.number (numbers.toJs value))
  | .str value => .scalar (.string value)
  | .arr items => .array (jsonItems numbers items)
  | .obj members => .object (jsonMembers numbers members)

def jsonItems (numbers : Numbers N) : List (Json N) → List JsonValue
  | [] => []
  | item :: items => jsonValue numbers item :: jsonItems numbers items

def jsonMembers (numbers : Numbers N) : List (String × Json N) → List (String × JsonValue)
  | [] => []
  | (key, value) :: members => (key, jsonValue numbers value) :: jsonMembers numbers members

end

def reasonForResolution (result : EvaluateResult) : EvaluateAllReason :=
  match result.kind with
  | .disabled => .DISABLED
  | .no_match_default => .DEFAULT
  | _ => .SPLIT

/-- The value of a Variant, or the name that no Variant has. -/
def valueForVariantName (flag : ServedFlag N) : Option String → Except String (Json N)
  | none => .ok .null
  | some variantName =>
    match flag.config.variants.find? (·.name = variantName) with
    | some variant => .ok (flag.value variant)
    | none => .error variantName

section Entry

variable [NumberFormat N] (platform : Hmac) (instants : Instants) (numbers : Numbers N)

def mintedFor (N : Type) [NumberFormat N] (result : EvaluateResult)
    (ticketDeps : MintExposureTicketDeps) : Except String (Option MintedExposureTicket) :=
  match result.exposure with
  | none => .ok none
  | some exposure =>
    (mintExposureTicketWithIdentity N platform instants exposure ticketDeps).map some

def entryFor (result : EvaluateResult) (flag : ServedFlag N) (ticketDeps : MintExposureTicketDeps) :
    Except String (EvaluateAllEntry N) :=
  if result.kind = .error then
    .ok ⟨⟨.null, result.variant, .ERROR, result.errorCode, none⟩, none⟩
  else
    match valueForVariantName flag result.variant with
    | .error variantName =>
      .ok ⟨⟨.null, some variantName, .ERROR, some "INTERNAL_SERVER_ERROR", none⟩, none⟩
    | .ok value => do
      let minted ← mintedFor platform instants N result ticketDeps
      return ⟨⟨value, result.variant, reasonForResolution result, none,
        minted.map (·.exposureIdentity)⟩, minted.map (·.exposureTicket)⟩

/-! ## 2. Resolution -/

structure EvaluateAllRequest (N : Type) where
  targetingKey : String
  idType : String
  attributes : Seen.Attributes N

structure Scope where
  appId : String
  environmentId : String

/-- What a request meets. -/
structure Moment (N : Type) where
  scope : Scope
  /-- The instant that all tickets of the answer are issued at. -/
  ticketNow : Int
  getFlags : Except String (List (ServedFlag N))
  deps : EvaluatePathDeps
  saltStore : SaltStore
  ticketKey : String
  /-- The identity of the App has changed since the request was admitted. -/
  staleBeforeSuccess : Option String
  idempotencyKey : Option String
  billed : (idempotencyKey : String) → Except String Unit

def EXPOSURE_TICKET_REFRESH_WINDOW_MS : Int := EXPOSURE_TICKET_TTL_MS / 2

/-- The window of an instant, as the tag of an answer has it. -/
def exposureTicketRefreshWindow (now : Int) : Int := now / EXPOSURE_TICKET_REFRESH_WINDOW_MS

/-- `Object.fromEntries`: a key that comes again gets the later value. -/
def fromEntries {α : Type} (entries : List (String × α)) : List (String × α) :=
  entries.foldl (fun members entry =>
    if entry.1 ∈ members.map (·.1) then
      members.map fun member => if member.1 = entry.1 then entry else member
    else members ++ [entry]) []

def Moment.ticketDeps (moment : Moment N) : MintExposureTicketDeps where
  saltStore := moment.saltStore
  ticketKey := moment.ticketKey
  now := moment.ticketNow

def Moment.input (moment : Moment N) (body : EvaluateAllRequest N) (flagKey : String) :
    EvaluatePathInput where
  appId := moment.scope.appId
  environmentId := moment.scope.environmentId
  flagKey
  evaluationContext :=
    { targetingKey := body.targetingKey
      idType := body.idType
      attributes := jsonMembers numbers body.attributes.members }

/-- The result of a Flag: `evaluateAllFlag`. -/
def Moment.evaluateAllFlag (moment : Moment N) (body : EvaluateAllRequest N)
    (flag : ServedFlag N) : EvaluateResult :=
  evaluatePath moment.deps (moment.input numbers body flag.config.flagKey)

structure Resolved (N : Type) where
  evaluations : List (String × EvaluateAllEntry N)
  ticketRefreshWindow : Option Int

/-- Once the Flags are there. -/
def resolveFlags (body : EvaluateAllRequest N) (moment : Moment N) (flags : List (ServedFlag N)) :
    Except String (Resolved N) := do
  if flags.any (fun flag => flag.config.flagKey = "__proto__") then
    throw "UNSUPPORTED_OBJECT_KEY"
  let entries ← flags.mapM fun flag => do
    let entry ← entryFor platform instants (moment.evaluateAllFlag numbers body flag) flag
      moment.ticketDeps
    return (flag.config.flagKey, entry)
  return {
    evaluations := fromEntries entries
    ticketRefreshWindow :=
      if entries.any (fun entry => entry.2.exposureTicket.isSome) then
        some (exposureTicketRefreshWindow moment.ticketNow)
      else none }

def resolveAllEvaluations (body : EvaluateAllRequest N) (moment : Moment N) :
    Except String (Resolved N) :=
  match moment.getFlags with
  | .error _ => .error "SERVICE_UNAVAILABLE"
  | .ok flags => resolveFlags platform instants numbers body moment flags

end Entry

/-! ## 3. ETags -/

/-- A text, or `null`. -/
def jsonText : Option String → Json N
  | none => .null
  | some text => .str text

def TaggedEntry.json (entry : TaggedEntry N) : Json N :=
  .obj [("variant", entry.variant), ("variantName", jsonText entry.variantName),
    ("reason", .str entry.reason.name), ("errorCode", jsonText entry.errorCode),
    ("exposureIdentity", jsonText entry.exposureIdentity)]

/-- The canonical form of the attributes, as `seen-set.ts` has it. -/
def canonicalizeJson (value : Json N) : Json N := Seen.stableJsonValue value

def etagMaterial (numbers : Numbers N) (resolved : Resolved N) (scope : Scope)
    (body : EvaluateAllRequest N) : Json N :=
  .obj [("appId", .str scope.appId), ("environmentId", .str scope.environmentId),
    ("targetingKey", .str body.targetingKey), ("idType", .str body.idType),
    ("attributes", canonicalizeJson body.attributes.json),
    ("ticketRefreshWindow", (resolved.ticketRefreshWindow.map numbers.ofInt).elim .null .num),
    ("evaluations", .obj (Seen.inKeyOrder
      (resolved.evaluations.map fun entry => (entry.1, entry.2.toTaggedEntry.json))))]

/-- `digest` is SHA-256. -/
def strongEtag (digest : List UInt8 → List UInt8) (canonical : List Char) : String :=
  "\"" ++ toHex (digest (ByteText.encode canonical)) ++ "\""

def ifNoneMatchMatches (header : Option String) (etag : String) : Bool :=
  match header with
  | none => false
  | some header =>
    if trimmed header.toList = [] then false
    else if trimmed header.toList = ['*'] then true
    else (header.toList.splitOn ',').any fun part =>
      trimmed part = etag.toList || trimmed part = 'W' :: '/' :: etag.toList

/-! ## 4. Answers -/

inductive EvaluateAllAnswer (N : Type)
  | refused (code : String)
  | notModified (etag : String)
  | full (evaluations : List (String × EvaluateAllEntry N)) (etag : String)

section Answer

variable [NumberFormat N] (platform : Hmac) (instants : Instants) (numbers : Numbers N)
  (digest : List UInt8 → List UInt8)

def etagOf (body : EvaluateAllRequest N) (moment : Moment N) (resolved : Resolved N) : String :=
  strongEtag digest (stringify (etagMaterial numbers resolved moment.scope body))

/-- Once all Flags are resolved. -/
def answerResolved (ifNoneMatch : Option String) (moment : Moment N) (resolved : Resolved N)
    (etag : String) : EvaluateAllAnswer N :=
  if ifNoneMatchMatches ifNoneMatch etag then
    match moment.staleBeforeSuccess with
    | some code => .refused code
    | none => .notModified etag
  else
    match moment.idempotencyKey with
    | none => .refused "VALIDATION_ERROR"
    | some idempotencyKey =>
      match moment.billed idempotencyKey with
      | .error code => .refused code
      | .ok _ =>
        match moment.staleBeforeSuccess with
        | some code => .refused code
        | none => .full resolved.evaluations etag

def completeEvaluateAll (body : EvaluateAllRequest N) (moment : Moment N)
    (ifNoneMatch : Option String) : EvaluateAllAnswer N :=
  match resolveAllEvaluations platform instants numbers body moment with
  | .error code => .refused code
  | .ok resolved =>
    answerResolved ifNoneMatch moment resolved (etagOf numbers digest body moment resolved)

/-! ## 5. A client -/

/-- The last full answer, and the tag it came with. -/
structure StoredPayload (N : Type) where
  evaluations : List (String × EvaluateAllEntry N)
  etag : String

/-- A request of the client, and what it meets. -/
structure Fetch (N : Type) where
  body : EvaluateAllRequest N
  moment : Moment N

/-- A client that sends the tag it has, and keeps the last full answer. -/
def client : Machine (Option (StoredPayload N)) (Fetch N) (EvaluateAllAnswer N) where
  init := none
  step stored fetch :=
    let answer := completeEvaluateAll platform instants numbers digest fetch.body fetch.moment
      (stored.map (·.etag))
    (answer, match answer with
      | .full evaluations etag => some ⟨evaluations, etag⟩
      | _ => stored)

end Answer

end EvaluateAll

end Splitch
