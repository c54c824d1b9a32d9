/-
# Minting of Exposure Tickets

`evaluate/exposure-ticket.ts`, the minting half, with the base64url, UTF-8 and JSON that a ticket goes
through (`ticketPlatform`).

A mint makes two texts of one payload and signs both with one key: the ticket's, which is the whole payload,
and the Exposure Identity's, which is the payload without its time and behind a domain.  The verifier later
reads only what a signature covers, so it matters that the two kinds of text are never confused.

The layers are general (`ByteText`, `JsonText`), and here they are composed.  base64url differs from base64
in two digits and in the padding, which the reader has to put back from the length; so bytes that are written
are read back (`base64UrlToBytes_bytesToBase64Url`).  A record that was written from fields has each of them
(`parseRecord_encodeFields`), and the payload is read back when all its fields have a text
(`decodePayload_payloadText`).

The text of an Identity is never read as a payload (`decodePayload_identityText`): its domain ends with a
colon, and a character outside the alphabet refuses the whole text.
-/
import Splitch.Evaluator.Evaluate
import Splitch.Identity.EntityHashes
import Splitch.Library.JsonText
import Splitch.Redemption.Ticket

namespace Splitch

open Checks JsonText Evaluator

/-! ## 1. base64url -/

def toUrl (c : Char) : Char := if c = '+' then '-' else if c = '/' then '_' else c

def fromUrl (c : Char) : Char := if c = '-' then '+' else if c = '_' then '/' else c

/-- `btoa`, with the URL alphabet and without the padding. -/
def bytesToBase64Url (data : List UInt8) : String :=
  String.ofList (((ByteText.btoa data).map toUrl).rdropWhile (· = '='))

def base64UrlToBytes (value : String) : Option (List UInt8) :=
  let padded := value.toList.map fromUrl
  let padLength := (4 - utf16Length (String.ofList padded) % 4) % 4
  ByteText.atob (padded ++ List.replicate padLength '=')

/-- The characters of base64url text. -/
def isUrlDigit (c : Char) : Bool :=
  (ByteText.digitValue c).isSome && c ≠ '+' && c ≠ '/' || c = '-' || c = '_'

theorem toUrl_digitChar : ∀ n < 64, fromUrl (toUrl (ByteText.digitChar n)) = ByteText.digitChar n ∧
    isUrlDigit (toUrl (ByteText.digitChar n)) = true ∧
      (ByteText.digitChar n).toNat ≤ 0xFFFF := by
  decide

theorem toList_bytesToBase64Url (data : List UInt8) :
    (bytesToBase64Url data).toList =
      (ByteText.digits data).map fun n => toUrl (ByteText.digitChar n) := by
  have hlast : ∀ c ∈ (ByteText.digits data).map (fun n => toUrl (ByteText.digitChar n)), c ≠ '=' := by
    intro c hc
    obtain ⟨n, hn, rfl⟩ := List.mem_map.mp hc
    have hdigit := (toUrl_digitChar n (ByteText.digits_lt data n hn)).2.1
    intro heq
    rw [heq] at hdigit
    exact absurd hdigit (by decide)
  have hpad : ∀ k, (List.replicate k '=').map toUrl = List.replicate k '=' := by
    intro k
    rw [List.map_replicate]
    rfl
  have hdrop : ∀ (text : List Char) (k : Nat), (∀ c ∈ text, c ≠ '=') →
      (text ++ List.replicate k '=').rdropWhile (· = '=') = text := by
    intro text k htext
    induction k with
    | zero =>
      rw [List.replicate_zero, List.append_nil, List.rdropWhile_eq_self_iff]
      intro hne
      rw [decide_eq_true_eq]
      exact htext _ (List.getLast_mem hne)
    | succ k ih =>
      rw [List.replicate_succ', ← List.append_assoc, List.rdropWhile_concat_pos _ _ _ (by decide), ih]
  rw [bytesToBase64Url, String.toList_ofList, ByteText.btoa, List.map_append, List.map_map,
    ByteText.padding, hpad]
  exact hdrop _ _ hlast

theorem isUrlDigit_of_mem {data : List UInt8} {c : Char} (h : c ∈ (bytesToBase64Url data).toList) :
    isUrlDigit c = true := by
  rw [toList_bytesToBase64Url] at h
  obtain ⟨n, hn, rfl⟩ := List.mem_map.mp h
  exact (toUrl_digitChar n (ByteText.digits_lt data n hn)).2.1

theorem bytesToBase64Url_ne_empty {data : List UInt8} (h : data ≠ []) :
    (bytesToBase64Url data).isEmpty = false := by
  rw [String.isEmpty_eq_false_iff, ne_eq, ← String.toList_eq_nil_iff, toList_bytesToBase64Url,
    List.map_eq_nil_iff]
  intro hnil
  exact h (by rw [← ByteText.bytes_digits data, hnil]; rfl)

/-- The length of a text in the Basic Multilingual Plane. -/
theorem utf16Length_ofList {text : List Char} (h : ∀ c ∈ text, c.toNat ≤ 0xFFFF) :
    utf16Length (String.ofList text) = text.length := by
  have hfold : ∀ (text : List Char) (start : Nat), (∀ c ∈ text, c.toNat ≤ 0xFFFF) →
      text.foldl (fun n c => n + if c.toNat ≤ 0xFFFF then 1 else 2) start = start + text.length := by
    intro text
    induction text with
    | nil => exact fun start _ => rfl
    | cons c text ih =>
      intro start htext
      rw [List.foldl_cons, if_pos (htext c List.mem_cons_self),
        ih _ fun d hd => htext d (List.mem_cons_of_mem _ hd), List.length_cons]
      omega
  rw [utf16Length, String.toList_ofList, hfold text 0 h, Nat.zero_add]

/-- **base64url is read back.** The two characters that are replaced on the way out are put back on
the way in, and the padding that was cut off follows from the length. -/
theorem base64UrlToBytes_bytesToBase64Url (data : List UInt8) :
    base64UrlToBytes (bytesToBase64Url data) = some data := by
  have hdigits : (bytesToBase64Url data).toList.map fromUrl =
      (ByteText.digits data).map ByteText.digitChar := by
    rw [toList_bytesToBase64Url, List.map_map]
    exact List.map_congr_left fun n hn => (toUrl_digitChar n (ByteText.digits_lt data n hn)).1
  have hlength : utf16Length (String.ofList ((ByteText.digits data).map ByteText.digitChar)) =
      (ByteText.digits data).length := by
    rw [utf16Length_ofList, List.length_map]
    intro c hc
    obtain ⟨n, hn, rfl⟩ := List.mem_map.mp hc
    exact (toUrl_digitChar n (ByteText.digits_lt data n hn)).2.2
  simp only [base64UrlToBytes, hdigits, hlength]
  exact ByteText.atob_digits data

/-- A character outside the alphabet is refused. -/
theorem base64UrlToBytes_colon {value : String} (h : ':' ∈ value.toList) :
    base64UrlToBytes value = none := by
  refine ByteText.atob_eq_none (c := ':') ?_ (by decide) (by decide) (by decide)
  exact List.mem_append_left _ (List.mem_map.mpr ⟨':', h, by decide⟩)

/-! ## 2. Minting -/

def EXPOSURE_IDENTITY_DOMAIN : String := "splitch-exposure-identity-v1:"

/-- The texts of instants. -/
structure Instants where
  toISOString : Int → String
  /-- `Date.parse`, where it is finite. -/
  dateParse : String → Option Int

structure MintExposureTicketDeps where
  saltStore : SaltStore
  ticketKey : String
  now : Int

structure MintedExposureTicket where
  exposureIdentity : String
  exposureTicket : String
  deriving DecidableEq, Repr

def ExposureTicketPayload.identityFields (payload : ExposureTicketPayload) : List (String × String) :=
  [("app_id", payload.app_id), ("environment_id", payload.environment_id),
    ("experiment_id", payload.experiment_id), ("run_id", payload.run_id),
    ("flag_key", payload.flag_key), ("variant", payload.variant), ("id_type", payload.id_type),
    ("targeting_key_hash", payload.targeting_key_hash),
    ("entity_family_hash", payload.entity_family_hash),
    ("identity_version", payload.identity_version)]

def ExposureTicketPayload.fields (payload : ExposureTicketPayload) : List (String × String) :=
  payload.identityFields ++ [("issued_at", payload.issued_at)]

/-- A record of texts, as JSON. -/
def jsonOf (N : Type) (fields : List (String × String)) : Json N :=
  .obj (fields.map fun field => (field.1, .str field.2))

section Platform

variable (N : Type) [NumberFormat N] (platform : Hmac) (instants : Instants)

/-- The JSON of a record, as base64url of its UTF-8 bytes. -/
def encodeFields (fields : List (String × String)) : String :=
  bytesToBase64Url (ByteText.encode (stringify (jsonOf N fields)))

def sign (payload secret : String) : String :=
  bytesToBase64Url (platform.hmac (utf8Bytes secret) (utf8Bytes payload))

/-- What the verifier does with a text, under this platform. -/
def ticketPlatform : TicketPlatform where
  sign := sign platform
  parseRecord encoded :=
    (base64UrlToBytes encoded).bind fun data =>
      match (parse (ByteText.decode data) : Option (Json N)) with
      | some (.obj members) => some fun key => (Json.get key (.obj members)).bind Json.text?
      | _ => none
  dateParse := instants.dateParse

def exposurePayload (deps : MintExposureTicketDeps) (exposure : ExposureDecision) :
    Except String ExposureTicketPayload := do
  let targetingKeyHash ← computeTargetingKeyHash platform deps.saltStore
    { appId := exposure.appId, idType := exposure.idType, targetingKey := exposure.targetingKey }
  let entityFamilyHash ← computeEntityFamilyHash platform deps.saltStore
    { appId := exposure.appId, idType := exposure.idType, targetingKey := exposure.targetingKey }
  let identityVersion ← keyVersionOf targetingKeyHash
  return {
    app_id := exposure.appId
    environment_id := exposure.environmentId
    experiment_id := exposure.experimentId
    run_id := exposure.liveRunId
    flag_key := exposure.flagKey
    variant := exposure.variant
    id_type := exposure.idType
    targeting_key_hash := targetingKeyHash
    entity_family_hash := entityFamilyHash
    identity_version := identityVersion
    issued_at := instants.toISOString deps.now }

/-- The text that the MAC of a ticket is about. -/
def payloadText (payload : ExposureTicketPayload) : String := encodeFields N payload.fields

/-- The text that the MAC of an Exposure Identity is about. -/
def identityText (payload : ExposureTicketPayload) : String :=
  EXPOSURE_IDENTITY_DOMAIN ++ encodeFields N payload.identityFields

/-- The two signatures. -/
def mintPayload (ticketKey : String) (payload : ExposureTicketPayload) : MintedExposureTicket where
  exposureIdentity := sign platform (identityText N payload) ticketKey
  exposureTicket := payloadText N payload ++ "." ++ sign platform (payloadText N payload) ticketKey

def mintExposureTicketWithIdentity (exposure : ExposureDecision) (deps : MintExposureTicketDeps) :
    Except String MintedExposureTicket := do
  assertStrongTicketKey deps.ticketKey
  let payload ← exposurePayload platform instants deps exposure
  return mintPayload N platform deps.ticketKey payload

def mintExposureTicket (exposure : ExposureDecision) (deps : MintExposureTicketDeps) :
    Except String String := do
  return (← mintExposureTicketWithIdentity N platform instants exposure deps).exposureTicket

/-! ## 3. What the verifier reads in a minted text -/

/-- The record behind a text that was written from fields. -/
theorem parseRecord_encodeFields (fields : List (String × String)) :
    (ticketPlatform N platform instants).parseRecord (encodeFields N fields) =
      some fun key => (Json.get key (jsonOf N fields)).bind Json.text? := by
  have hhead : (stringify (jsonOf N fields)).head? ≠ some (Char.ofNat 0xFEFF) := by
    rw [jsonOf, stringify, List.cons_append, List.head?_cons, ne_eq, Option.some_inj]
    decide
  simp only [ticketPlatform, encodeFields, base64UrlToBytes_bytesToBase64Url, Option.bind_some,
    ByteText.decode_encode hhead, parse_stringify]
  rfl

/-- A field that is there is required to have a text. -/
theorem requiredField_eq {record : String → Option String} {field value : String}
    (h : record field = some value) :
    requiredField record field = if value = "" then none else some value := by
  rw [requiredField, h, Option.filter_some]
  by_cases hvalue : value = ""
  · rw [if_pos hvalue, hvalue]
    rfl
  · have hempty : value.isEmpty = false := by rwa [String.isEmpty_eq_false_iff]
    rw [if_neg hvalue, hempty]
    rfl

/-- Every field has a text. -/
def ExposureTicketPayload.Complete (payload : ExposureTicketPayload) : Prop :=
  ∀ field ∈ payload.fields, field.2 ≠ ""

instance (payload : ExposureTicketPayload) : Decidable payload.Complete :=
  inferInstanceAs (Decidable (∀ field ∈ payload.fields, field.2 ≠ ""))

/-- Each field of a payload is found in the record behind its text. -/
theorem exists_record (payload : ExposureTicketPayload) : ∃ record,
    (ticketPlatform N platform instants).parseRecord (payloadText N payload) = some record ∧
      ∀ field ∈ payload.fields, requiredField record field.1 =
        if field.2 = "" then none else some field.2 := by
  refine ⟨_, parseRecord_encodeFields N platform instants payload.fields, fun field hfield => ?_⟩
  have hkeys : (payload.fields.map fun field => field.1).Nodup := by
    simp [ExposureTicketPayload.fields, ExposureTicketPayload.identityFields]
  have hmem : (field.1, (Json.str field.2 : Json N)) ∈
      payload.fields.map fun field => (field.1, Json.str field.2) :=
    List.mem_map.mpr ⟨field, hfield, rfl⟩
  refine requiredField_eq ?_
  rw [jsonOf, Json.get_of_mem (by rwa [List.map_map]) hmem]
  rfl

/-- **A payload is read back** when it is complete. The text is an object with one member for each
field; the reader asks for every field, and refuses a payload in which one that must not be empty is. -/
theorem decodePayload_payloadText (payload : ExposureTicketPayload) :
    decodePayload (ticketPlatform N platform instants) (payloadText N payload) =
      if payload.Complete then some payload else none := by
  obtain ⟨record, hrecord, hget⟩ := exists_record N platform instants payload
  have hbind : ∀ (value : String) (next : String → Option ExposureTicketPayload),
      (if value = "" then none else some value).bind next =
        if value ≠ "" then next value else none := by
    intro value next
    rw [ite_not]
    split <;> rfl
  have hand : ∀ (p q : Prop) [Decidable p] [Decidable q] (x : Option ExposureTicketPayload),
      (if p then if q then x else none else none) = if p ∧ q then x else none := by
    intro p q _ _ x
    rw [ite_and]
  simp only [ExposureTicketPayload.fields, ExposureTicketPayload.identityFields, List.cons_append,
    List.nil_append, List.forall_mem_cons] at hget
  obtain ⟨happ, henv, hexp, hrun, hflag, hvariant, hid, hhash, hfamily, hversion, hissued, -⟩ := hget
  rw [decodePayload, hrecord]
  simp only [Option.bind_eq_bind, Option.bind_some, happ, henv, hexp, hrun, hflag, hvariant, hid, hhash,
    hfamily, hversion, hissued, Option.pure_def, hbind, hand]
  refine if_congr ?_ rfl rfl
  simp only [ExposureTicketPayload.Complete, ExposureTicketPayload.fields,
    ExposureTicketPayload.identityFields, List.cons_append, List.nil_append, List.forall_mem_cons,
    List.not_mem_nil, false_implies, implies_true, and_true]

/-- A domain has a colon, and base64url has none. -/
theorem decodePayload_identityText (payload : ExposureTicketPayload) :
    decodePayload (ticketPlatform N platform instants) (identityText N payload) = none := by
  have hcolon : ':' ∈ (identityText N payload).toList := by
    rw [identityText, String.toList_append]
    exact List.mem_append_left _ (by decide)
  have hrecord : (ticketPlatform N platform instants).parseRecord (identityText N payload) = none := by
    simp only [ticketPlatform, base64UrlToBytes_colon hcolon, Option.bind_none]
  rw [decodePayload, hrecord]
  rfl

end Platform

end Splitch
