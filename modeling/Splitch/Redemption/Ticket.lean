/-
# Exposure Tickets

`evaluate/exposure-ticket.ts`, the verifying half.  A ticket is `encoded.signature`; it is
accepted when the signature is the MAC of `encoded` under one of the configured keys, the payload
decodes with all its fields, and the payload's `issued_at` is fresh.

What the platform provides is a parameter (`TicketPlatform`): the MAC, the base64 and JSON
decoding of a payload into a record of fields, and `Date.parse`.
-/
import Splitch.Redemption.ClaimStorage

namespace Splitch

/-! ## 1. Data -/

def MIN_TICKET_KEY_LENGTH : Nat := 32

/-- Tickets older than 24 hours are rejected. -/
def EXPOSURE_TICKET_TTL_MS : Int := 24 * 60 * 60 * 1000

/-- Tickets from further in the future than this are invalid. -/
def TICKET_FUTURE_SKEW_MS : Int := 5 * 60 * 1000

structure ExposureTicketPayload where
  app_id : String
  environment_id : String
  experiment_id : String
  run_id : String
  flag_key : String
  variant : String
  id_type : String
  targeting_key_hash : String
  entity_family_hash : String
  identity_version : String
  issued_at : String
  deriving DecidableEq, Repr

structure VerifyExposureTicketDeps where
  ticketKey : String
  previousTicketKey : Option String

inductive TicketRejection
  | invalid
  | expired
  deriving DecidableEq, Repr

inductive VerifyExposureTicketResult
  | ok (payload : ExposureTicketPayload)
  | rejected (reason : TicketRejection) (issuedAt : Option String)
  deriving DecidableEq, Repr

/-- What the verifier takes from its platform. -/
structure TicketPlatform where
  /-- HMAC-SHA256 of the payload under the secret, as base64url text. -/
  sign : (payload secret : String) → String
  /-- The JSON object behind the base64url text, restricted to its string fields. -/
  parseRecord : (encoded : String) → Option (String → Option String)
  /-- `Date.parse`, where it is finite. -/
  dateParse : String → Option Int

/-! ## 2. Verification -/

/-- `String.length` of the source: UTF-16 code units. -/
def utf16Length (s : String) : Nat :=
  s.toList.foldl (fun n c => n + if c.toNat ≤ 0xFFFF then 1 else 2) 0

def assertStrongTicketKey (secret : String) : Except String Unit :=
  if utf16Length secret < MIN_TICKET_KEY_LENGTH then
    .error "evaluation-api: EXPOSURE_TICKET_KEY must be at least 32 characters"
  else .ok ()

def splitTicket (ticket : String) : Option (String × String) :=
  match (ticket.toList.splitOn '.').map String.ofList with
  | [encoded, signature] =>
    if encoded.isEmpty ∨ signature.isEmpty then none else some (encoded, signature)
  | _ => none

/-- The comparison runs over all characters, whatever it finds. -/
def verifyMac (platform : TicketPlatform) (payload signature secret : String) : Bool :=
  let expected := platform.sign payload secret
  if expected.length ≠ signature.length then false
  else (expected.toList.zip signature.toList).foldl
    (fun mismatch pair => mismatch ||| (pair.1.toNat ^^^ pair.2.toNat)) 0 == 0

def macMatchesAnyKey (platform : TicketPlatform) (encoded signature : String)
    (keys : List String) : Bool :=
  keys.any (fun key => verifyMac platform encoded signature key)

/-- A field must be there and not be empty. -/
def requiredField (record : String → Option String) (field : String) : Option String :=
  (record field).filter (fun value => !value.isEmpty)

def decodePayload (platform : TicketPlatform) (encoded : String) :
    Option ExposureTicketPayload := do
  let record ← platform.parseRecord encoded
  let app_id ← requiredField record "app_id"
  let environment_id ← requiredField record "environment_id"
  let experiment_id ← requiredField record "experiment_id"
  let run_id ← requiredField record "run_id"
  let flag_key ← requiredField record "flag_key"
  let variant ← requiredField record "variant"
  let id_type ← requiredField record "id_type"
  let targeting_key_hash ← requiredField record "targeting_key_hash"
  let entity_family_hash ← requiredField record "entity_family_hash"
  let identity_version ← requiredField record "identity_version"
  let issued_at ← requiredField record "issued_at"
  return { app_id, environment_id, experiment_id, run_id, flag_key, variant, id_type,
           targeting_key_hash, entity_family_hash, identity_version, issued_at }

def checkTicketFreshness (platform : TicketPlatform) (payload : ExposureTicketPayload)
    (nowMs : Int) : VerifyExposureTicketResult :=
  match platform.dateParse payload.issued_at with
  | none => .rejected .invalid none
  | some issuedAtMs =>
    if nowMs - issuedAtMs > EXPOSURE_TICKET_TTL_MS then
      .rejected .expired (some payload.issued_at)
    else if issuedAtMs - nowMs > TICKET_FUTURE_SKEW_MS then .rejected .invalid none
    else .ok payload

/-- The keys a ticket may be signed with. -/
def VerifyExposureTicketDeps.keys (deps : VerifyExposureTicketDeps) : List String :=
  deps.ticketKey :: (deps.previousTicketKey.filter (fun key => !key.isEmpty)).toList

/-- The authentic payload of a ticket, before its age is looked at. -/
def ticketPayload (platform : TicketPlatform) (deps : VerifyExposureTicketDeps)
    (ticket : String) : Option ExposureTicketPayload :=
  match splitTicket ticket with
  | none => none
  | some (encoded, signature) =>
    if macMatchesAnyKey platform encoded signature deps.keys then decodePayload platform encoded
    else none

def verifyExposureTicket (platform : TicketPlatform) (deps : VerifyExposureTicketDeps)
    (ticket : String) (nowMs : Int) : Except String VerifyExposureTicketResult := do
  deps.keys.forM assertStrongTicketKey
  match ticketPayload platform deps ticket with
  | none => return .rejected .invalid none
  | some payload => return checkTicketFreshness platform payload nowMs

/-! ## 3. When a ticket is accepted -/

/-- `verifyExposureTicket` accepts the ticket at `nowMs`. -/
def TicketAccepted (platform : TicketPlatform) (deps : VerifyExposureTicketDeps)
    (ticket : String) (nowMs : Int) : Prop :=
  ∃ payload, verifyExposureTicket platform deps ticket nowMs = .ok (.ok payload)

/-- A payload is fresh from five minutes before its issue to twenty-four hours after it, both
ends included. -/
theorem checkTicketFreshness_eq_ok {platform : TicketPlatform} {payload p : ExposureTicketPayload}
    {nowMs : Int} :
    checkTicketFreshness platform payload nowMs = .ok p ↔
      p = payload ∧ ∃ issuedAtMs, platform.dateParse payload.issued_at = some issuedAtMs ∧
        nowMs - issuedAtMs ≤ EXPOSURE_TICKET_TTL_MS ∧
        issuedAtMs - nowMs ≤ TICKET_FUTURE_SKEW_MS := by
  unfold checkTicketFreshness
  cases platform.dateParse payload.issued_at with
  | none => simp
  | some issuedAtMs =>
    simp only [Option.some.injEq, exists_eq_left']
    split
    · refine ⟨fun h => (by cases h), fun ⟨_, hage, _⟩ => ?_⟩
      omega
    · split
      · refine ⟨fun h => (by cases h), fun ⟨_, _, hskew⟩ => ?_⟩
        omega
      · refine ⟨fun h => ?_, fun ⟨hp, _, _⟩ => by rw [hp]⟩
        cases h
        exact ⟨rfl, by omega, by omega⟩

/-- The ticket is authentic, under strong keys, and says it was issued at `issuedAtMs`. -/
def TicketIssuedAt (platform : TicketPlatform) (deps : VerifyExposureTicketDeps)
    (ticket : String) (issuedAtMs : Int) : Prop :=
  deps.keys.forM assertStrongTicketKey = .ok () ∧
    ∃ payload, ticketPayload platform deps ticket = some payload ∧
      platform.dateParse payload.issued_at = some issuedAtMs

/-- **A ticket is accepted** exactly when it is authentic and its `issued_at` is fresh. -/
theorem ticketAccepted_iff {platform : TicketPlatform} {deps : VerifyExposureTicketDeps}
    {ticket : String} {nowMs : Int} :
    TicketAccepted platform deps ticket nowMs ↔
      ∃ issuedAtMs, TicketIssuedAt platform deps ticket issuedAtMs ∧
        nowMs - issuedAtMs ≤ EXPOSURE_TICKET_TTL_MS ∧
        issuedAtMs - nowMs ≤ TICKET_FUTURE_SKEW_MS := by
  unfold TicketAccepted TicketIssuedAt verifyExposureTicket
  cases deps.keys.forM assertStrongTicketKey with
  | error message => simp [bind, Except.bind]
  | ok =>
    cases ticketPayload platform deps ticket with
    | none => simp [bind, Except.bind, pure, Except.pure]
    | some payload =>
      simp [bind, Except.bind, pure, Except.pure, checkTicketFreshness_eq_ok]

/-- What the verifier returns is the authentic payload of the ticket. -/
theorem ticketPayload_of_verified {platform : TicketPlatform} {deps : VerifyExposureTicketDeps}
    {ticket : String} {nowMs : Int} {payload : ExposureTicketPayload}
    (h : verifyExposureTicket platform deps ticket nowMs = .ok (.ok payload)) :
    ticketPayload platform deps ticket = some payload := by
  unfold verifyExposureTicket at h
  cases hkeys : deps.keys.forM assertStrongTicketKey with
  | error message => simp [hkeys, bind, Except.bind] at h
  | ok =>
    cases hp : ticketPayload platform deps ticket with
    | none => simp [hkeys, hp, bind, Except.bind, pure, Except.pure] at h
    | some p =>
      simp only [hkeys, hp, bind, Except.bind, pure, Except.pure, Except.ok.injEq,
        checkTicketFreshness_eq_ok] at h
      rw [h.1]

/-- The accumulated difference is zero when it started at zero and no pair differs. -/
theorem mismatch_eq_zero (pairs : List (Char × Char)) (start : Nat) :
    pairs.foldl (fun mismatch pair => mismatch ||| (pair.1.toNat ^^^ pair.2.toNat)) start = 0 ↔
      start = 0 ∧ ∀ pair ∈ pairs, pair.1 = pair.2 := by
  induction pairs generalizing start with
  | nil => simp
  | cons pair pairs ih =>
    have hxor : pair.1.toNat ^^^ pair.2.toNat = 0 ↔ pair.1 = pair.2 := by
      rw [← Char.toNat_inj]
      refine ⟨fun h => ?_, fun h => by rw [h, Nat.xor_self]⟩
      calc pair.1.toNat = (pair.1.toNat ^^^ pair.2.toNat) ^^^ pair.2.toNat := by
            rw [Nat.xor_assoc, Nat.xor_self, Nat.xor_zero]
        _ = pair.2.toNat := by rw [h, Nat.zero_xor]
    rw [List.foldl_cons, ih, Nat.or_eq_zero_iff, hxor, List.forall_mem_cons, and_assoc]

/-- **The comparison accepts exactly the expected signature.** It gathers the differences of all
characters, and does not end at the first; what it has gathered is zero just when there is none. -/
theorem verifyMac_iff {platform : TicketPlatform} {payload signature secret : String} :
    verifyMac platform payload signature secret = true ↔
      signature = platform.sign payload secret := by
  unfold verifyMac
  by_cases hlen : (platform.sign payload secret).length = signature.length
  · have hlist : (platform.sign payload secret).toList.length = signature.toList.length := by
      rwa [String.length_toList, String.length_toList]
    simp only [hlen, ne_eq, not_true_eq_false, if_false, beq_iff_eq, mismatch_eq_zero, true_and]
    constructor
    · intro h
      refine String.toList_inj.mp (List.ext_getElem hlist.symm fun i hi hi' => ?_)
      have hz : i < ((platform.sign payload secret).toList.zip signature.toList).length := by
        simp only [List.length_zip]
        omega
      have hpair := h _ (List.getElem_mem hz)
      rw [List.getElem_zip] at hpair
      exact hpair.symm
    · rintro rfl pair hpair
      obtain ⟨i, hi, rfl⟩ := List.mem_iff_getElem.mp hpair
      rw [List.getElem_zip]
  · simp only [hlen, ne_eq, not_false_eq_true, if_true, Bool.false_eq_true, false_iff]
    rintro rfl
    exact hlen rfl

end Splitch
