/-
# Exposure Tickets from mint to verification

A ticket goes through a JSON text, its UTF-8 bytes, base64url, a dot and the signature, and comes back the
other way.  Each layer is read back exactly, so what remains is about where the parts meet.

The verifier splits at the dots, and must find two parts: base64url text has no dot and is not empty, for the
payload and for the signature (`splitTicket_minted`).  The signature matches under any key ring that has the
key, in any position, since a MAC is compared as a whole text (`ticketPayload_minted`).  The payload is
refused where a field is empty, and a minted one has no empty field if the names of the Exposure are not:
hashes never are (`complete_iff`).  What is left is the clock.  So the verifier's answer is known at every
time (`exposure_ticket_round_trip`): accepted from five minutes before the issue to twenty-four hours after,
expired later, invalid earlier.

The converse needs a supposition about the MAC, since texts may have one MAC: whoever presents a ticket has
not computed the MAC of a text that no holder of the key has signed.  Then an accepted ticket is a minted one
(`accepted_ticket_was_minted`).  The key signs Exposure Identities too, and gives them out; but their text
starts with a domain and a colon, which base64url has not, so none of them is a ticket.
-/
import Splitch.Library.Sha256
import Splitch.Redemption.TicketMint

namespace Splitch

open Checks JsonText Evaluator

section Platform

variable {N : Type} [NumberFormat N] {platform : Hmac} {instants : Instants}

/-! ## 1. The parts of a ticket -/

theorem splitTicket_append {encoded signature : String} (hencoded : '.' ∉ encoded.toList)
    (hsignature : '.' ∉ signature.toList) (hne : encoded.isEmpty = false)
    (hne' : signature.isEmpty = false) :
    splitTicket (encoded ++ "." ++ signature) = some (encoded, signature) := by
  have hsplit : (encoded ++ "." ++ signature).toList.splitOn '.' =
      [encoded.toList, signature.toList] := by
    rw [String.toList_append, String.toList_append, List.append_assoc]
    rw [show (".").toList ++ signature.toList = '.' :: signature.toList from rfl,
      List.splitOn_append_cons_self_of_not_mem hencoded, List.splitOn_eq_singleton hsignature]
  rw [splitTicket, hsplit]
  simp only [List.map_cons, List.map_nil, String.ofList_toList, hne, hne', Bool.false_eq_true, or_self,
    if_false]

/-- The parts make up the ticket. -/
theorem eq_of_splitTicket {ticket encoded signature : String}
    (h : splitTicket ticket = some (encoded, signature)) :
    ticket = encoded ++ "." ++ signature := by
  rw [splitTicket] at h
  split at h
  · next encoded' signature' hsplit =>
    split at h
    · cases h
    · cases h
      obtain ⟨first, rest, hlist, rfl, hrest⟩ := List.map_eq_cons_iff.mp hsplit
      obtain ⟨second, rest, rfl, rfl, hnil⟩ := List.map_eq_cons_iff.mp hrest
      have hjoin : ['.'].intercalate (ticket.toList.splitOn '.') = ticket.toList :=
        List.intercalate_splitOn '.'
      rw [hlist, List.map_eq_nil_iff.mp hnil] at hjoin
      rw [← String.toList_inj, ← hjoin]
      simp
  · cases h

theorem not_dot_bytesToBase64Url (data : List UInt8) : '.' ∉ (bytesToBase64Url data).toList :=
  fun h => absurd (isUrlDigit_of_mem h) (by decide)

theorem signed_ne_empty (text secret : String) : (sign platform text secret).isEmpty = false := by
  refine bytesToBase64Url_ne_empty fun hnil => ?_
  have hlength := platform.length_hmac (utf8Bytes secret) (utf8Bytes text)
  rw [hnil] at hlength
  cases hlength

theorem payloadText_ne_empty (payload : ExposureTicketPayload) :
    (payloadText N payload).isEmpty = false := by
  refine bytesToBase64Url_ne_empty fun hnil => ?_
  have hdecode := ByteText.decodeFrom_encode (stringify (jsonOf N payload.fields))
  rw [hnil, jsonOf, stringify] at hdecode
  cases hdecode

theorem splitTicket_minted (ticketKey : String) (payload : ExposureTicketPayload) :
    splitTicket (mintPayload N platform ticketKey payload).exposureTicket =
      some (payloadText N payload, sign platform (payloadText N payload) ticketKey) :=
  splitTicket_append (not_dot_bytesToBase64Url _) (not_dot_bytesToBase64Url _)
    (payloadText_ne_empty payload) (signed_ne_empty _ _)

theorem macMatchesAnyKey_iff {tickets : TicketPlatform} {encoded signature : String}
    {keys : List String} :
    macMatchesAnyKey tickets encoded signature keys = true ↔
      ∃ key ∈ keys, signature = tickets.sign encoded key := by
  rw [macMatchesAnyKey, List.any_eq_true]
  exact exists_congr fun key => and_congr_right fun _ => verifyMac_iff

/-- The payload of a minted ticket, under a key ring that has its key. -/
theorem ticketPayload_minted {vdeps : VerifyExposureTicketDeps} {ticketKey : String}
    (hkey : ticketKey ∈ vdeps.keys) (payload : ExposureTicketPayload) :
    ticketPayload (ticketPlatform N platform instants) vdeps
        (mintPayload N platform ticketKey payload).exposureTicket =
      if payload.Complete then some payload else none := by
  have hmac : macMatchesAnyKey (ticketPlatform N platform instants) (payloadText N payload)
      (sign platform (payloadText N payload) ticketKey) vdeps.keys = true :=
    macMatchesAnyKey_iff.mpr ⟨ticketKey, hkey, rfl⟩
  rw [ticketPayload, splitTicket_minted]
  simp only [hmac, if_true, decodePayload_payloadText]

/-! ## 2. The round trip -/

/-- The names of an Exposure. -/
def exposureNames (exposure : ExposureDecision) : List String :=
  [exposure.appId, exposure.environmentId, exposure.experimentId, exposure.liveRunId,
    exposure.flagKey, exposure.variant, exposure.idType]

/-- **A payload is complete** when the Exposure has all its names: hashes are never empty. -/
theorem complete_iff {deps : MintExposureTicketDeps} {exposure : ExposureDecision}
    {payload : ExposureTicketPayload}
    (hpayload : exposurePayload platform instants deps exposure = .ok payload) :
    payload.Complete ↔ "" ∉ exposureNames exposure ∧ instants.toISOString deps.now ≠ "" := by
  obtain ⟨targetingKeyHash, hhash, hpayload⟩ := bind_eq_ok.mp hpayload
  obtain ⟨entityFamilyHash, hfamily, hpayload⟩ := bind_eq_ok.mp hpayload
  obtain ⟨identityVersion, hversion, hpayload⟩ := bind_eq_ok.mp hpayload
  rw [← pure_eq_ok.mp hpayload]
  have hhash := computeTargetingKeyHash_ne_empty hhash
  have hfamily := computeEntityFamilyHash_ne_empty hfamily
  have hversion := keyVersionOf_ne_empty hversion
  simp only [ExposureTicketPayload.Complete, ExposureTicketPayload.fields,
    ExposureTicketPayload.identityFields, List.cons_append, List.nil_append, List.forall_mem_cons,
    List.not_mem_nil, false_implies, implies_true, and_true, hhash, hfamily, hversion, ne_eq,
    not_false_eq_true, true_and]
  simp only [exposureNames, List.mem_cons, List.not_mem_nil, or_false, not_or, and_assoc,
    eq_comm (a := "")]

/-- What the verifier says of the ticket of a complete payload. -/
theorem verifyExposureTicket_minted {vdeps : VerifyExposureTicketDeps} {ticketKey : String}
    {payload : ExposureTicketPayload} {issuedAtMs : Int} (hcomplete : payload.Complete)
    (hdate : instants.dateParse payload.issued_at = some issuedAtMs) (hkey : ticketKey ∈ vdeps.keys)
    (hstrong : ∀ key ∈ vdeps.keys, MIN_TICKET_KEY_LENGTH ≤ utf16Length key) (nowMs : Int) :
    verifyExposureTicket (ticketPlatform N platform instants) vdeps
        (mintPayload N platform ticketKey payload).exposureTicket nowMs =
      .ok (if nowMs - issuedAtMs > EXPOSURE_TICKET_TTL_MS then
          .rejected .expired (some payload.issued_at)
        else if issuedAtMs - nowMs > TICKET_FUTURE_SKEW_MS then .rejected .invalid none
        else .ok payload) := by
  have hkeys : vdeps.keys.forM assertStrongTicketKey = .ok () := by
    refine forM_eq_ok.mpr fun key hmem => ?_
    rw [assertStrongTicketKey, if_neg (Nat.not_lt.mpr (hstrong key hmem))]
  have hdate : (ticketPlatform N platform instants).dateParse payload.issued_at = some issuedAtMs := hdate
  rw [verifyExposureTicket, hkeys, ticketPayload_minted hkey, if_pos hcomplete]
  simp only [bind, Except.bind, pure, Except.pure, checkTicketFreshness, hdate]

theorem issued_at_eq {deps : MintExposureTicketDeps} {exposure : ExposureDecision}
    {payload : ExposureTicketPayload}
    (h : exposurePayload platform instants deps exposure = .ok payload) :
    payload.issued_at = instants.toISOString deps.now := by
  obtain ⟨_, -, h⟩ := bind_eq_ok.mp h
  obtain ⟨_, -, h⟩ := bind_eq_ok.mp h
  obtain ⟨_, -, h⟩ := bind_eq_ok.mp h
  rw [← pure_eq_ok.mp h]

/-- What a mint has signed. -/
theorem mintExposureTicket_ok {deps : MintExposureTicketDeps} {exposure : ExposureDecision}
    {ticket : String} (h : mintExposureTicket N platform instants exposure deps = .ok ticket) :
    ∃ payload, exposurePayload platform instants deps exposure = .ok payload ∧
      mintExposureTicketWithIdentity N platform instants exposure deps =
        .ok (mintPayload N platform deps.ticketKey payload) ∧
      ticket = (mintPayload N platform deps.ticketKey payload).exposureTicket := by
  obtain ⟨minted, hminted, hticket⟩ := bind_eq_ok.mp h
  obtain ⟨_, -, hmint⟩ := bind_eq_ok.mp hminted
  obtain ⟨payload, hpayload, hmint⟩ := bind_eq_ok.mp hmint
  refine ⟨payload, hpayload, ?_, ?_⟩
  · rw [hminted, pure_eq_ok.mp hmint]
  · rw [← pure_eq_ok.mp hticket, ← pure_eq_ok.mp hmint]

/-- **Round trip.**  A ticket that was minted is accepted, with the payload it was minted from, from five
minutes before its issue to twenty-four hours after it, and is refused at every other time. -/
theorem exposure_ticket_round_trip {deps : MintExposureTicketDeps} {exposure : ExposureDecision}
    {ticket : String} {vdeps : VerifyExposureTicketDeps}
    (hmint : mintExposureTicket N platform instants exposure deps = .ok ticket)
    (hnames : "" ∉ exposureNames exposure)
    (hinstant : instants.toISOString deps.now ≠ "" ∧
      instants.dateParse (instants.toISOString deps.now) = some deps.now)
    (hkey : deps.ticketKey ∈ vdeps.keys)
    (hstrong : ∀ key ∈ vdeps.keys, MIN_TICKET_KEY_LENGTH ≤ utf16Length key) :
    ∃ payload, exposurePayload platform instants deps exposure = .ok payload ∧
      ∀ nowMs, verifyExposureTicket (ticketPlatform N platform instants) vdeps ticket nowMs =
        .ok (if nowMs - deps.now > EXPOSURE_TICKET_TTL_MS then
            .rejected .expired (some payload.issued_at)
          else if deps.now - nowMs > TICKET_FUTURE_SKEW_MS then .rejected .invalid none
          else .ok payload) := by
  obtain ⟨payload, hpayload, -, hticket⟩ := mintExposureTicket_ok hmint
  refine ⟨payload, hpayload, fun nowMs => ?_⟩
  rw [hticket]
  refine verifyExposureTicket_minted ((complete_iff hpayload).mpr ⟨hnames, hinstant.1⟩) ?_ hkey
    hstrong nowMs
  rw [issued_at_eq hpayload]
  exact hinstant.2

def sha256Hmac : Hmac := ⟨Sha256.hmac, Sha256.length_hmac⟩

def thirdOfJuly : Instants where
  toISOString _ := "2026-07-03T00:00:00.000Z"
  dateParse text := if text = "2026-07-03T00:00:00.000Z" then some 1783036800000 else none

def oneEpoch : SaltStore where
  currentKeyVersion _ := .ok "app-v1"
  saltFor _ _ := .ok [1, 2, 3]
  retainedKeyVersions _ := .ok ["app-v1"]
  saltsFor := none

def checkoutExposure : ExposureDecision where
  appId := "app_1"
  environmentId := "env_1"
  experimentId := "exp_1"
  flagKey := "checkout"
  idType := "user"
  liveRunId := "run_1"
  targetingKey := "user-1"
  variant := "treatment"

def julyDeps : MintExposureTicketDeps where
  saltStore := oneEpoch
  ticketKey := "splitch-test-exposure-ticket-key-32chars"
  now := 1783036800000

theorem minted_july : ∃ ticket,
    mintExposureTicket Nat sha256Hmac thirdOfJuly checkoutExposure julyDeps = .ok ticket := by
  have hsome : (mintExposureTicket Nat sha256Hmac thirdOfJuly checkoutExposure
      julyDeps).toOption.isSome = true := by
    decide +kernel
  cases hmint : mintExposureTicket Nat sha256Hmac thirdOfJuly checkoutExposure julyDeps with
  | ok ticket => exact ⟨ticket, rfl⟩
  | error message =>
    rw [hmint] at hsome
    cases hsome

/-- The key of the mint was replaced by another one, and is kept as the previous one. -/
theorem exposure_ticket_round_trip_rotated : ∃ ticket payload,
    mintExposureTicket Nat sha256Hmac thirdOfJuly checkoutExposure julyDeps = .ok ticket ∧
      exposurePayload sha256Hmac thirdOfJuly julyDeps checkoutExposure = .ok payload ∧
      ∀ nowMs, verifyExposureTicket (ticketPlatform Nat sha256Hmac thirdOfJuly)
          ⟨"splitch-other-exposure-ticket-key-32char", some julyDeps.ticketKey⟩ ticket nowMs =
        .ok (if nowMs - 1783036800000 > EXPOSURE_TICKET_TTL_MS then
            .rejected .expired (some payload.issued_at)
          else if 1783036800000 - nowMs > TICKET_FUTURE_SKEW_MS then .rejected .invalid none
          else .ok payload) := by
  obtain ⟨ticket, hticket⟩ := minted_july
  let vdeps : VerifyExposureTicketDeps :=
    ⟨"splitch-other-exposure-ticket-key-32char", some julyDeps.ticketKey⟩
  have hkey : julyDeps.ticketKey ∈ vdeps.keys := by decide
  obtain ⟨payload, hpayload, hverify⟩ :=
    exposure_ticket_round_trip hticket (by decide) (by decide) hkey (by decide)
  exact ⟨ticket, payload, hticket, hpayload, hverify⟩

/-! ## 3. Only minted tickets are accepted -/

variable (N platform instants) in
/-- A call of `mintExposureTicketWithIdentity` that returned. -/
structure Mint where
  deps : MintExposureTicketDeps
  exposure : ExposureDecision
  payload : ExposureTicketPayload
  minted : MintedExposureTicket
  payload_eq : exposurePayload platform instants deps exposure = .ok payload
  minted_eq : mintExposureTicketWithIdentity N platform instants exposure deps = .ok minted

/-- A holder of the key has signed the text: it mints a ticket and an Exposure Identity. -/
def Signed (mints : List (Mint N platform instants)) (key text : String) : Prop :=
  ∃ mint ∈ mints, mint.deps.ticketKey = key ∧
    (text = payloadText N mint.payload ∨ text = identityText N mint.payload)

theorem Mint.minted_ok (mint : Mint N platform instants) :
    mint.minted = mintPayload N platform mint.deps.ticketKey mint.payload := by
  obtain ⟨_, -, hminted⟩ := bind_eq_ok.mp mint.minted_eq
  obtain ⟨payload, hpayload, hminted⟩ := bind_eq_ok.mp hminted
  rw [mint.payload_eq] at hpayload
  cases hpayload
  exact (pure_eq_ok.mp hminted).symm

/-- **Only minted tickets are accepted.**  When the signature of a ticket is the MAC of a text under a key
of the ring only if a holder of that key has signed the text, then a ticket that is accepted is one that was
minted under a key of the ring; what is returned is its payload, and it is fresh. -/
theorem accepted_ticket_was_minted {mints : List (Mint N platform instants)}
    {vdeps : VerifyExposureTicketDeps} {ticket : String} {nowMs : Int}
    {payload : ExposureTicketPayload}
    (hunforged : ∀ key ∈ vdeps.keys, ∀ text,
      splitTicket ticket = some (text, sign platform text key) → Signed mints key text)
    (haccepted : verifyExposureTicket (ticketPlatform N platform instants) vdeps ticket nowMs =
      .ok (.ok payload)) :
    ∃ mint ∈ mints, mint.deps.ticketKey ∈ vdeps.keys ∧ mint.payload = payload ∧
      mint.minted.exposureTicket = ticket ∧
      ∃ issuedAtMs, instants.dateParse payload.issued_at = some issuedAtMs ∧
        nowMs - issuedAtMs ≤ EXPOSURE_TICKET_TTL_MS ∧ issuedAtMs - nowMs ≤ TICKET_FUTURE_SKEW_MS := by
  have hpayload := ticketPayload_of_verified haccepted
  have hfresh := ticketAccepted_iff.mp ⟨payload, haccepted⟩
  obtain ⟨issuedAtMs, ⟨-, payload', hpayload', hdate⟩, hage, hskew⟩ := hfresh
  rw [hpayload, Option.some_inj] at hpayload'
  rw [ticketPayload] at hpayload
  cases hsplit : splitTicket ticket with
  | none =>
    rw [hsplit] at hpayload
    cases hpayload
  | some parts =>
    obtain ⟨encoded, signature⟩ := parts
    rw [hsplit] at hpayload
    simp only at hpayload
    split at hpayload
    · next hmatch =>
      obtain ⟨key, hkey, hsignature⟩ := macMatchesAnyKey_iff.mp hmatch
      rw [hsignature] at hsplit
      obtain ⟨mint, hmem, hmint, htext⟩ := hunforged key hkey encoded hsplit
      rcases htext with rfl | rfl
      · rw [decodePayload_payloadText] at hpayload
        split at hpayload
        · refine ⟨mint, hmem, hmint ▸ hkey, Option.some_inj.mp hpayload, ?_, issuedAtMs, ?_, hage, hskew⟩
          · rw [mint.minted_ok, eq_of_splitTicket hsplit, hmint]
            rfl
          · rw [hpayload']
            exact hdate
        · cases hpayload
      · rw [decodePayload_identityText] at hpayload
        cases hpayload
    · cases hpayload

/-- The ticket of the third of July, an hour later. -/
theorem accepted_ticket_was_minted_july : ∃ (mint : Mint Nat sha256Hmac thirdOfJuly) (ticket : String)
    (payload : ExposureTicketPayload),
    verifyExposureTicket (ticketPlatform Nat sha256Hmac thirdOfJuly) ⟨julyDeps.ticketKey, none⟩ ticket
        1783040400000 = .ok (.ok payload) ∧
      ∃ mint' ∈ [mint], mint'.deps.ticketKey ∈ [julyDeps.ticketKey] ∧ mint'.payload = payload ∧
        mint'.minted.exposureTicket = ticket ∧
        ∃ issuedAtMs, thirdOfJuly.dateParse payload.issued_at = some issuedAtMs ∧
          1783040400000 - issuedAtMs ≤ EXPOSURE_TICKET_TTL_MS ∧
          issuedAtMs - 1783040400000 ≤ TICKET_FUTURE_SKEW_MS := by
  obtain ⟨ticket, hticket⟩ := minted_july
  obtain ⟨payload, hpayload, hminted, rfl⟩ := mintExposureTicket_ok hticket
  let vdeps : VerifyExposureTicketDeps := ⟨julyDeps.ticketKey, none⟩
  have hkey : julyDeps.ticketKey ∈ vdeps.keys := List.mem_singleton_self _
  have hdate : thirdOfJuly.dateParse payload.issued_at = some 1783036800000 := by
    rw [issued_at_eq hpayload]
    decide
  have hverify : verifyExposureTicket (ticketPlatform Nat sha256Hmac thirdOfJuly) vdeps _
      1783040400000 = _ :=
    verifyExposureTicket_minted ((complete_iff hpayload).mpr (by decide)) hdate hkey (by decide) _
  rw [if_neg (by decide), if_neg (by decide)] at hverify
  let mint : Mint Nat sha256Hmac thirdOfJuly :=
    ⟨julyDeps, checkoutExposure, payload, _, hpayload, hminted⟩
  refine ⟨mint, _, payload, hverify, accepted_ticket_was_minted ?_ hverify⟩
  intro key hkey text hsplit
  rw [splitTicket_minted] at hsplit
  obtain ⟨htext, -⟩ := Prod.mk.inj (Option.some_inj.mp hsplit)
  exact ⟨mint, List.mem_singleton_self _, (List.mem_singleton.mp hkey).symm, .inl htext.symm⟩

end Platform

end Splitch
