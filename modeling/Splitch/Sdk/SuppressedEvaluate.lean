/-
# Evaluations with Exposure suppression

`evaluate` of the SDK (`evaluate.ts`, `resolution.ts`, `evaluate-idempotency-key.ts`) over one seen-set.
Calls are numbered as they are made.  A call runs up to its request to the server, and from there on once
the request has settled; requests settle at any time and in any order.  What is logged is left out, and
so is the telemetry of a cached answer.
-/
import Splitch.Sdk.SeenAnswers

namespace Splitch

namespace Seen

open JsonText

/-! ## 1. Resolutions -/

inductive ResolutionReason
  | SPLIT
  | TARGETING_MATCH
  | DEFAULT
  | DISABLED
  | CACHED
  | STALE
  | ERROR
  deriving DecidableEq, Repr

structure ResolutionDetails (N : Type) where
  value : Json N
  variantName : Option String
  reason : ResolutionReason
  errorCode : Option String
  errorMessage : Option String

structure TransportFailure where
  /-- Absent for a failure of the transport. -/
  status : Option Nat
  errorCode : Option String
  errorMessage : Option String

structure TransportResult (N : Type) extends TransportFailure where
  variant : Option (Json N)
  variantName : Option String
  runId : Option String
  reason : Option ResolutionReason

structure VerifyTransportResult (N : Type) extends TransportFailure where
  details : Option (ResolutionDetails N)

def errorCodeForStatus : Option Nat → String
  | none => "SDK_TRANSPORT_NETWORK"
  | some 400 => "VALIDATION_ERROR"
  | some 401 => "UNAUTHORIZED"
  | some 403 => "FORBIDDEN"
  | some 404 => "FLAG_NOT_FOUND"
  | some 429 => "RATE_LIMITED"
  | some 503 => "SERVICE_UNAVAILABLE"
  | some _ => "SERVICE_UNAVAILABLE"

def errorMessageForStatus (status : Option Nat) (errorCode : String) : String :=
  match status with
  | none =>
    if errorCode = "SDK_TRANSPORT_TIMEOUT" then "splitch evaluate timed out at the transport"
    else if errorCode = "SDK_TRANSPORT_PARSE" then
      "splitch evaluate received an unparseable transport body"
    else "splitch evaluate failed at the transport (local/network error)"
  | some status => s!"splitch evaluate failed: HTTP {status} ({errorCode})"

variable {N : Type}

def resolveSuccess (result : TransportResult N) (defaultValue : Json N) : ResolutionDetails N where
  value := result.variant.getD defaultValue
  variantName := if result.variant.isSome then result.variantName else none
  reason := result.reason.getD (if result.variant.isSome then .SPLIT else .DEFAULT)
  errorCode := none
  errorMessage := none

def resolveError (result : TransportFailure) (defaultValue : Json N) : ResolutionDetails N :=
  let errorCode := result.errorCode.getD (errorCodeForStatus result.status)
  { value := defaultValue
    variantName := none
    reason := .ERROR
    errorCode := some errorCode
    errorMessage := some (result.errorMessage.getD (errorMessageForStatus result.status errorCode)) }

def synthesizeDetails (result : TransportResult N) (defaultValue : Json N) : ResolutionDetails N :=
  if result.status ≠ some 200 then resolveError result.toTransportFailure defaultValue
  else resolveSuccess result defaultValue

/-- What a verification answers: its own details, or those of its failure. -/
def verifiedDetails (result : VerifyTransportResult N) (defaultValue : Json N) : ResolutionDetails N :=
  result.details.getD (synthesizeDetails
    { result.toTransportFailure with variant := none, variantName := none, runId := none, reason := none }
    defaultValue)

/-! ## 2. Calls -/

/-- What a caller passes as `idempotencyKey`. -/
inductive IdempotencyKey
  | omitted
  | text (key : String)
  | other

structure EvaluationContext (N : Type) where
  targetingKey : String
  idType : Option String
  attributes : Option (Attributes N)
  defaultValue : Option (Json N)
  idempotencyKey : IdempotencyKey

/-- `randomUUID` is what the runtime has to offer. -/
def resolveIdempotencyKey (randomUUID : Option String) (idempotencyKey : IdempotencyKey) :
    Except SplitchSdkError String :=
  match idempotencyKey, randomUUID with
  | .text key, _ => if key.isEmpty then .error invalid else .ok key
  | .omitted, some uuid => .ok uuid
  | .omitted, none => .error (.new "SDK_IDEMPOTENCY_KEY_UNAVAILABLE"
      "crypto.randomUUID is unavailable, so evaluate could not generate an idempotencyKey"
      "Pass an idempotencyKey or use a runtime with crypto.randomUUID available" none)
  | .other, _ => .error invalid
where
  invalid : SplitchSdkError := .new "SDK_CONTEXT_INVALID" "evaluate received an invalid idempotencyKey"
    "Omit idempotencyKey to generate one, or pass a non-empty string reused for retries" none

def DEFAULT_ID_TYPE : String := "user"

def EvaluationContext.asked (flagKey : String) (context : EvaluationContext N) : Asked N where
  flagKey := flagKey
  idType := context.idType.getD DEFAULT_ID_TYPE
  targetingKey := context.targetingKey
  attributes := context.attributes.getD ⟨[], .obj List.nodup_nil fun _ h => absurd h List.not_mem_nil⟩

/-- The Default Variant of a call: `false` is the safe off-state. -/
def EvaluationContext.default (context : EvaluationContext N) : Json N :=
  context.defaultValue.getD (.bool false)

/-- A call whose request has not settled. -/
inductive Flight (N : Type)
  | evaluate (asked : Asked N) (defaultValue : Json N)
  | verify (asked : Asked N) (defaultValue : Json N) (runId : String)

def Flight.asked : Flight N → Asked N
  | .evaluate asked _ => asked
  | .verify asked _ _ => asked

structure Client (N : Type) where
  entries : Entries N
  calls : Nat
  flights : Nat → Option (Flight N)

inductive Event (N : Type)
  | evaluate (flagKey : String) (context : EvaluationContext N) (randomUUID : Option String) (now : Int)
  | evaluated (number : Nat) (result : TransportResult N) (now : Int)
  | verified (number : Nat) (result : VerifyTransportResult N) (now : Int)
  | rejected (number : Nat)

inductive Outcome (N : Type)
  | threw (error : SplitchSdkError)
  /-- Answered from the seen-set. -/
  | cached (entry : SeenEntry N) (details : ResolutionDetails N)
  /-- The Exposure-bearing request. -/
  | evaluating
  /-- A request that records no Exposure. -/
  | verifying (runId : String)
  | answered (details : ResolutionDetails N)
  | ignored

/-- A cached no-match takes the Default Variant of this call. -/
def replayCachedHit (entry : SeenEntry N) (defaultValue : Json N) : ResolutionDetails N :=
  ⟨entry.variant.getD defaultValue, entry.variantName, .CACHED, none, none⟩

def Client.send (client : Client N) (entries : Entries N) (flight : Flight N) : Client N where
  entries := entries
  calls := client.calls + 1
  flights := Function.update client.flights client.calls (some flight)

def Client.settle (client : Client N) (number : Nat) (entries : Entries N) : Client N :=
  { client with entries, flights := Function.update client.flights number none }

variable [NumberFormat N] (limits : SeenSetLimits)

/-- `runEvaluate`, up to its request. -/
def Client.evaluate (client : Client N) (flagKey : String) (context : EvaluationContext N)
    (randomUUID : Option String) (now : Int) : Outcome N × Client N :=
  match resolveIdempotencyKey randomUUID context.idempotencyKey with
  | .error error => (.threw error, client)
  | .ok _ =>
    let asked := context.asked flagKey
    match SeenSet.get limits client.entries asked now with
    | (.hit entry, entries) =>
      (.cached entry (replayCachedHit entry context.default), { client with entries })
    | (.contextMiss runId, entries) =>
      (.verifying runId, client.send entries (.verify asked context.default runId))
    | (.miss, entries) => (.evaluating, client.send entries (.evaluate asked context.default))

/-- `runEvaluate`, once the Exposure-bearing request has settled. -/
def Client.evaluated (client : Client N) (number : Nat) (result : TransportResult N) (now : Int) :
    Outcome N × Client N :=
  match client.flights number with
  | some (.evaluate asked defaultValue) =>
    let details := synthesizeDetails result defaultValue
    if details.reason = .ERROR then (.answered details, client.settle number client.entries)
    else
      match result.runId with
      | none => (.answered details, client.settle number client.entries)
      | some runId =>
        (.answered details, client.settle number
          (SeenSet.set limits client.entries asked runId ⟨result.variant, result.variantName⟩ now))
  | _ => (.ignored, client)

/-- `resolveContextMiss`, once the verification has settled. -/
def Client.verified (client : Client N) (number : Nat) (result : VerifyTransportResult N) (now : Int) :
    Outcome N × Client N :=
  match client.flights number with
  | some (.verify asked defaultValue runId) =>
    let details := verifiedDetails result defaultValue
    if details.reason = .ERROR then (.answered details, client.settle number client.entries)
    else
      (.answered details, client.settle number
        (SeenSet.set limits client.entries asked runId ⟨some details.value, details.variantName⟩ now))
  | _ => (.ignored, client)

def client : Machine (Client N) (Event N) (Outcome N) where
  init := ⟨[], 0, fun _ => none⟩
  step
    | client, .evaluate flagKey context randomUUID now => client.evaluate limits flagKey context randomUUID now
    | client, .evaluated number result now => client.evaluated limits number result now
    | client, .verified number result now => client.verified limits number result now
    | client, .rejected number => (.ignored, client.settle number client.entries)

end Seen

end Splitch
