/-
# Answers of Precomputed Evaluations that have not been modified

A client asks with the tag of its last payload, and is told that the payload has not been modified.  It then
goes on with entries and tickets that were made for an earlier request, perhaps under another key.  That is
sound if the tag says enough: the same tag means the same entries, and tickets that are still good.

The tag of an answer leaves the tickets out, which differ from one answer to the next by their time of issue.
It has their Exposure Identities, and the window of twelve hours that they were issued in.  So the argument
goes backwards through what the tag was made of.

* A tag is the digest of a material, and the header matches it and no other one
  (`ifNoneMatchMatches_strongEtag`).  Digests of the run are supposed not to collide.
* The material is JSON in a canonical order, so one material is one context, one window, and entries that are
  equal (`etagMaterial_inj`).
* An Exposure Identity is the MAC of all fields of a ticket but the time, and one text is one list of fields
  (`identityText_inj`).  MACs of the run are supposed not to collide, also under several keys.

The stored tickets therefore name the same Exposures as those that would be minted now (`minted_alike`), and
were issued in the same window.  A ticket lives for twenty-four hours (`minted_accepted`), of which the window
leaves twelve (`lt_of_refreshWindow_eq`, `conditional_hit`).
-/
import Splitch.Evaluation.EvaluateAll

namespace Splitch

namespace EvaluateAll

open Checks JsonText Evaluator TrimmedText

variable {N : Type}

/-! ## 1. Tags -/

/-- A character of a tag is neither a blank nor a comma. -/
theorem isTrimmed_toHex {data : List UInt8} {c : Char} (h : c ∈ (toHex data).toList) :
    isTrimmed c = false ∧ c ≠ ',' := by
  have hdigit : ∀ n < 16, isTrimmed (Nat.digitChar n) = false ∧ Nat.digitChar n ≠ ',' := by decide
  rw [toHex, String.toList_ofList] at h
  obtain ⟨byte, -, hc⟩ := List.mem_flatMap.mp h
  have hbyte := byte.toNat_lt
  rcases List.mem_cons.mp hc with rfl | hc
  · exact hdigit _ (by omega)
  · rw [List.mem_singleton.mp hc]
    exact hdigit _ (Nat.mod_lt _ (by decide))

theorem isTrimmed_strongEtag {digest : List UInt8 → List UInt8} {canonical : List Char} {c : Char}
    (h : c ∈ (strongEtag digest canonical).toList) : isTrimmed c = false ∧ c ≠ ',' := by
  rw [strongEtag, String.toList_append, String.toList_append] at h
  rcases List.mem_append.mp h with h | h
  · rcases List.mem_append.mp h with h | h
    · rw [show ("\"").toList = ['"'] from rfl, List.mem_singleton] at h
      rw [h]
      decide
    · exact isTrimmed_toHex h
  · rw [show ("\"").toList = ['"'] from rfl, List.mem_singleton] at h
    rw [h]
    decide

theorem strongEtag_cons (digest : List UInt8 → List UInt8) (canonical : List Char) :
    ∃ rest, (strongEtag digest canonical).toList = '"' :: rest := by
  rw [strongEtag, String.toList_append, String.toList_append, List.append_assoc]
  exact ⟨_, rfl⟩

/-- **A tag matches itself** and no other tag. A strong tag is quoted hexadecimal: it has no comma to
be split at, no space to be trimmed, and is neither empty, nor the star, nor the weak form of another. -/
theorem ifNoneMatchMatches_strongEtag {digest : List UInt8 → List UInt8} {canonical : List Char}
    {etag : String} (hetag : ∃ canonical', etag = strongEtag digest canonical') :
    ifNoneMatchMatches (some etag) (strongEtag digest canonical) = true ↔
      etag = strongEtag digest canonical := by
  obtain ⟨canonical', rfl⟩ := hetag
  have htrim : trimmed (strongEtag digest canonical').toList = (strongEtag digest canonical').toList :=
    trimmed_eq_self (fun c hc => (isTrimmed_strongEtag (List.mem_of_head? hc)).1)
      fun c hc => (isTrimmed_strongEtag (List.mem_of_getLast? hc)).1
  have hsplit : (strongEtag digest canonical').toList.splitOn ',' =
      [(strongEtag digest canonical').toList] :=
    List.splitOn_eq_singleton fun hc => (isTrimmed_strongEtag hc).2 rfl
  obtain ⟨rest, hcons⟩ := strongEtag_cons digest canonical'
  have hweak : (strongEtag digest canonical').toList ≠
      'W' :: '/' :: (strongEtag digest canonical).toList := by
    rw [hcons]
    exact fun heq => absurd (List.cons.inj heq).1 (by decide)
  have hempty : (strongEtag digest canonical').toList ≠ [] := by
    rw [hcons]
    exact List.cons_ne_nil _ _
  have hstar : (strongEtag digest canonical').toList ≠ ['*'] := by
    rw [hcons]
    exact fun heq => absurd (List.cons.inj heq).1 (by decide)
  simp only [ifNoneMatchMatches, htrim, if_neg hempty, if_neg hstar, hsplit, List.any_cons,
    List.any_nil, Bool.or_false, decide_eq_false hweak, decide_eq_true_eq, String.toList_inj]

/-! ## 2. What a tag says -/

theorem jsonText_injective : Function.Injective (jsonText : Option String → Json N) := by
  intro a b h
  cases a <;> cases b <;> cases h <;> rfl

theorem name_injective : Function.Injective EvaluateAllReason.name := by
  intro a b h
  cases a <;> cases b <;> first | rfl | exact absurd h (by decide)

theorem json_injective : Function.Injective (TaggedEntry.json : TaggedEntry N → Json N) := by
  intro a b h
  simp only [TaggedEntry.json, Json.obj.injEq, List.cons.injEq, Prod.mk.injEq, Json.str.injEq,
    true_and, and_true] at h
  obtain ⟨hvariant, hname, hreason, hcode, hidentity⟩ := h
  cases a
  cases b
  simp only at hvariant hname hreason hcode hidentity
  rw [hvariant, jsonText_injective hname, name_injective hreason, jsonText_injective hcode,
    jsonText_injective hidentity]

/-- What of an answer its tag is about. -/
def Resolved.tagged (resolved : Resolved N) : List (String × TaggedEntry N) :=
  resolved.evaluations.map fun entry => (entry.1, entry.2.toTaggedEntry)

/-- **One material** is one context, one window and the same entries. The entries are sorted before
they are written, so their order is lost and nothing else is. -/
theorem etagMaterial_inj {numbers : Numbers N} {resolved resolved' : Resolved N} {scope scope' : Scope}
    {body body' : EvaluateAllRequest N}
    (h : etagMaterial numbers resolved scope body = etagMaterial numbers resolved' scope' body') :
    scope = scope' ∧ body.targetingKey = body'.targetingKey ∧ body.idType = body'.idType ∧
      canonicalizeJson body.attributes.json = canonicalizeJson body'.attributes.json ∧
      resolved.ticketRefreshWindow = resolved'.ticketRefreshWindow ∧
      resolved.tagged.Perm resolved'.tagged := by
  simp only [etagMaterial, Json.obj.injEq, List.cons.injEq, Prod.mk.injEq, Json.str.injEq, true_and,
    and_true] at h
  obtain ⟨happ, henvironment, hkey, htype, hattributes, hwindow, hevaluations⟩ := h
  refine ⟨?_, hkey, htype, hattributes, ?_, ?_⟩
  · cases scope
    cases scope'
    rw [Scope.mk.injEq]
    exact ⟨happ, henvironment⟩
  · cases hold : resolved.ticketRefreshWindow with
    | none =>
      cases hnew : resolved'.ticketRefreshWindow with
      | none => rfl
      | some window =>
        rw [hold, hnew] at hwindow
        cases hwindow
    | some window =>
      cases hnew : resolved'.ticketRefreshWindow with
      | none =>
        rw [hold, hnew] at hwindow
        cases hwindow
      | some window' =>
        rw [hold, hnew] at hwindow
        rw [numbers.ofInt_injective (Json.num.inj hwindow)]
  · have hperm := (Seen.inKeyOrder_perm (resolved.evaluations.map fun entry =>
      (entry.1, entry.2.toTaggedEntry.json))).symm
    rw [hevaluations] at hperm
    have hperm := hperm.trans (Seen.inKeyOrder_perm _)
    have hjson : ∀ resolved : Resolved N, (resolved.evaluations.map fun entry =>
        (entry.1, entry.2.toTaggedEntry.json)) =
          resolved.tagged.map (Prod.map id TaggedEntry.json) := by
      intro resolved
      rw [Resolved.tagged, List.map_map]
      rfl
    rw [hjson, hjson] at hperm
    exact (List.map_perm_map_iff (Function.Injective.prodMap Function.injective_id json_injective)).mp
      hperm

/-! ## 3. What an Exposure Identity says -/

section Identity

variable (N) [NumberFormat N]

theorem bytesToBase64Url_injective : Function.Injective bytesToBase64Url := by
  intro data data' h
  have hdata := base64UrlToBytes_bytesToBase64Url data
  rw [h, base64UrlToBytes_bytesToBase64Url] at hdata
  exact (Option.some_inj.mp hdata).symm

theorem encode_injective : Function.Injective ByteText.encode := by
  intro text text' h
  have htext := ByteText.decodeFrom_encode text
  rw [h, ByteText.decodeFrom_encode] at htext
  exact htext.symm

omit [NumberFormat N] in
theorem jsonOf_injective : Function.Injective (jsonOf N) := by
  intro fields fields' h
  rw [jsonOf, jsonOf, Json.obj.injEq] at h
  refine List.map_injective_iff.mpr ?_ h
  rintro ⟨key, value⟩ ⟨key', value'⟩ heq
  rw [Prod.mk.injEq, Json.str.injEq] at heq
  exact Prod.ext heq.1 heq.2

/-- **One text** is one list of fields. -/
theorem identityText_inj {payload payload' : ExposureTicketPayload}
    (h : identityText N payload = identityText N payload') :
    payload.identityFields = payload'.identityFields := by
  rw [identityText, identityText, ← String.toList_inj, String.toList_append, String.toList_append,
    List.append_cancel_left_eq, String.toList_inj] at h
  exact jsonOf_injective N (stringify_injective (encode_injective (bytesToBase64Url_injective h)))

end Identity

/-! ## 4. What an answer has minted -/

section Resolution

variable [NumberFormat N] (platform : Hmac) (instants : Instants) (numbers : Numbers N)

/-- The evaluation of a Flag of the request exposes, and its ticket is minted from the payload. -/
def Mints (fetch : Fetch N) (exposure : ExposureDecision) (payload : ExposureTicketPayload) : Prop :=
  ∃ flags flag, fetch.moment.getFlags = .ok flags ∧ flag ∈ flags ∧
    (fetch.moment.evaluateAllFlag numbers fetch.body flag).exposure = some exposure ∧
    exposurePayload platform instants fetch.moment.ticketDeps exposure = .ok payload

variable {platform instants numbers}

/-- What a ticket and an Exposure Identity of an entry are. -/
theorem entryFor_ok {result : EvaluateResult} {flag : ServedFlag N} {ticketDeps : MintExposureTicketDeps}
    {entry : EvaluateAllEntry N} (h : entryFor platform instants result flag ticketDeps = .ok entry) :
    entry.exposureIdentity = none ∧ entry.exposureTicket = none ∨
      ∃ exposure payload, result.exposure = some exposure ∧
        exposurePayload platform instants ticketDeps exposure = .ok payload ∧
        entry.exposureIdentity = some (sign platform (identityText N payload) ticketDeps.ticketKey) ∧
        entry.exposureTicket =
          some (mintPayload N platform ticketDeps.ticketKey payload).exposureTicket := by
  rw [entryFor] at h
  split at h
  · cases h
    exact .inl ⟨rfl, rfl⟩
  · split at h
    · cases h
      exact .inl ⟨rfl, rfl⟩
    · obtain ⟨minted, hminted, h⟩ := bind_eq_ok.mp h
      rw [← pure_eq_ok.mp h]
      rw [mintedFor] at hminted
      split at hminted
      · cases hminted
        exact .inl ⟨rfl, rfl⟩
      · next exposure hexposure =>
        obtain ⟨ticket, hticket, hmint⟩ := map_eq_ok.mp hminted
        obtain ⟨_, -, hticket⟩ := bind_eq_ok.mp hticket
        obtain ⟨payload, hpayload, hticket⟩ := bind_eq_ok.mp hticket
        refine .inr ⟨exposure, payload, hexposure, hpayload, ?_, ?_⟩
        · rw [← hmint, ← pure_eq_ok.mp hticket]
          rfl
        · rw [← hmint, ← pure_eq_ok.mp hticket]
          rfl

theorem mem_of_mem_fromEntries {α : Type} {entries : List (String × α)} {entry : String × α}
    (h : entry ∈ fromEntries entries) : entry ∈ entries := by
  have hstep : ∀ (entries members : List (String × α)) (entry : String × α),
      entry ∈ entries.foldl (fun members entry =>
        if entry.1 ∈ members.map (·.1) then
          members.map fun member => if member.1 = entry.1 then entry else member
        else members ++ [entry]) members → entry ∈ members ∨ entry ∈ entries := by
    intro entries
    induction entries with
    | nil => exact fun members entry h => .inl h
    | cons head entries ih =>
      intro members entry h
      rw [List.foldl_cons] at h
      rcases ih _ entry h with h | h
      · split at h
        · obtain ⟨member, hmember, heq⟩ := List.mem_map.mp h
          split at heq
          · rw [← heq]
            exact .inr List.mem_cons_self
          · rw [← heq]
            exact .inl hmember
        · rcases List.mem_append.mp h with h | h
          · exact .inl h
          · rw [List.mem_singleton.mp h]
            exact .inr List.mem_cons_self
      · exact .inr (List.mem_cons_of_mem _ h)
  rcases hstep entries [] entry h with h | h
  · exact absurd h List.not_mem_nil
  · exact h

/-- Every entry of an answer is the entry of a Flag, and its window is the one of its tickets. -/
theorem resolveAllEvaluations_ok {fetch : Fetch N} {resolved : Resolved N}
    (h : resolveAllEvaluations platform instants numbers fetch.body fetch.moment = .ok resolved) :
    ∀ entry ∈ resolved.evaluations,
      (entry.2.exposureIdentity = none ∧ entry.2.exposureTicket = none) ∨
      resolved.ticketRefreshWindow = some (exposureTicketRefreshWindow fetch.moment.ticketNow) ∧
      ∃ exposure payload, Mints platform instants numbers fetch exposure payload ∧
        entry.2.exposureIdentity =
          some (sign platform (identityText N payload) fetch.moment.ticketKey) ∧
        entry.2.exposureTicket =
          some (mintPayload N platform fetch.moment.ticketKey payload).exposureTicket := by
  rw [resolveAllEvaluations] at h
  split at h
  · cases h
  next flags hget =>
  rw [resolveFlags] at h
  obtain ⟨-, h⟩ := refuse_eq_ok.mp h
  obtain ⟨entries, hentries, h⟩ := bind_eq_ok.mp h
  rw [← pure_eq_ok.mp h]
  intro entry hentry
  have hentry := mem_of_mem_fromEntries hentry
  obtain ⟨flag, hflag, hflagentry⟩ := (mem_of_mapM_eq_ok hentries entry).mp hentry
  obtain ⟨found, hfound, hpair⟩ := bind_eq_ok.mp hflagentry
  rw [← pure_eq_ok.mp hpair] at hentry ⊢
  rcases entryFor_ok hfound with hnone | ⟨exposure, payload, hexposure, hpayload, hid, hticket⟩
  · exact .inl hnone
  · have hany : entries.any (fun entry => entry.2.exposureTicket.isSome) = true := by
      refine List.any_eq_true.mpr ⟨_, hentry, ?_⟩
      rw [hticket]
      rfl
    exact .inr ⟨if_pos hany, exposure, payload, ⟨flags, flag, hget, hflag, hexposure, hpayload⟩, hid,
      hticket⟩

end Resolution

/-! ## 5. Runs of a client -/

section Run

variable [NumberFormat N] {platform : Hmac} {instants : Instants} {numbers : Numbers N}
  {digest : List UInt8 → List UInt8}

/-- The stored payload is the one that the answer to the request has resolved. -/
def StoredFrom (platform : Hmac) (instants : Instants) (numbers : Numbers N)
    (digest : List UInt8 → List UInt8) (stored : StoredPayload N) (fetch : Fetch N)
    (resolved : Resolved N) : Prop :=
  resolveAllEvaluations platform instants numbers fetch.body fetch.moment = .ok resolved ∧
    stored.evaluations = resolved.evaluations ∧
    stored.etag = etagOf numbers digest fetch.body fetch.moment resolved

/-- A full answer has what was resolved, and its tag. -/
theorem completeEvaluateAll_full {fetch : Fetch N} {ifNoneMatch : Option String}
    {evaluations : List (String × EvaluateAllEntry N)} {etag : String}
    (h : completeEvaluateAll platform instants numbers digest fetch.body fetch.moment ifNoneMatch =
      .full evaluations etag) :
    ∃ resolved, StoredFrom platform instants numbers digest ⟨evaluations, etag⟩ fetch resolved := by
  rw [completeEvaluateAll] at h
  split at h
  · cases h
  · next resolved hresolved =>
    rw [answerResolved] at h
    split at h
    · split at h <;> cases h
    · split at h
      · cases h
      · split at h
        · cases h
        · split at h
          · cases h
          · cases h
            exact ⟨resolved, hresolved, rfl, rfl⟩

/-- An answer without a body is given to the tag of the resolution. -/
theorem completeEvaluateAll_notModified {fetch : Fetch N} {ifNoneMatch : Option String} {etag : String}
    (h : completeEvaluateAll platform instants numbers digest fetch.body fetch.moment ifNoneMatch =
      .notModified etag) :
    ∃ resolved, resolveAllEvaluations platform instants numbers fetch.body fetch.moment = .ok resolved ∧
      etag = etagOf numbers digest fetch.body fetch.moment resolved ∧
      ifNoneMatchMatches ifNoneMatch etag = true := by
  rw [completeEvaluateAll] at h
  split at h
  · cases h
  · next resolved hresolved =>
    rw [answerResolved] at h
    split at h
    · next hmatch =>
      split at h
      · cases h
      · cases h
        exact ⟨resolved, hresolved, rfl, hmatch⟩
    · split at h
      · cases h
      · split at h
        · cases h
        · split at h <;> cases h

/-- What a client has stored comes of one of its requests. -/
theorem exists_storedFrom (es : List (Fetch N)) :
    ∀ stored ∈ (client platform instants numbers digest).run es,
      ∃ fetch ∈ es, ∃ resolved, StoredFrom platform instants numbers digest stored fetch resolved := by
  induction es using List.reverseRecOn with
  | nil => exact fun stored h => by cases h
  | append_singleton es fetch ih =>
    intro stored h
    rw [Machine.run_concat] at h
    simp only [Machine.next, client] at h
    split at h
    · next evaluations etag hfull =>
      obtain ⟨resolved, hresolved⟩ := completeEvaluateAll_full hfull
      rw [← Option.some_inj.mp h]
      exact ⟨fetch, List.mem_append_right _ List.mem_cons_self, resolved, hresolved⟩
    · obtain ⟨fetch', hmem, hresolved⟩ := ih stored h
      exact ⟨fetch', List.mem_append_left _ hmem, hresolved⟩

/-- No two materials of the requests have one tag, unless they are one. -/
def TagsDiffer (platform : Hmac) (instants : Instants) (numbers : Numbers N)
    (digest : List UInt8 → List UInt8) (fetches : List (Fetch N)) : Prop :=
  ∀ a ∈ fetches, ∀ b ∈ fetches, ∀ resolved resolved',
    resolveAllEvaluations platform instants numbers a.body a.moment = .ok resolved →
    resolveAllEvaluations platform instants numbers b.body b.moment = .ok resolved' →
    etagOf numbers digest a.body a.moment resolved = etagOf numbers digest b.body b.moment resolved' →
    etagMaterial numbers resolved a.moment.scope a.body =
      etagMaterial numbers resolved' b.moment.scope b.body

/-- No two Exposure Identities of the requests are one, unless their keys and their texts are. -/
def IdentitiesDiffer (platform : Hmac) (instants : Instants) (numbers : Numbers N)
    (fetches : List (Fetch N)) : Prop :=
  ∀ a ∈ fetches, ∀ b ∈ fetches, ∀ exposure payload exposure' payload',
    Mints platform instants numbers a exposure payload →
    Mints platform instants numbers b exposure' payload' →
    sign platform (identityText N payload) a.moment.ticketKey =
      sign platform (identityText N payload') b.moment.ticketKey →
    a.moment.ticketKey = b.moment.ticketKey ∧ identityText N payload = identityText N payload'

/-- What the requests of a run rely on: the texts of their instants are read back, and the Exposures have
all their names. -/
structure Regular (platform : Hmac) (instants : Instants) (numbers : Numbers N)
    (fetches : List (Fetch N)) : Prop where
  instants_eq : ∀ fetch ∈ fetches, instants.toISOString fetch.moment.ticketNow ≠ "" ∧
    instants.dateParse (instants.toISOString fetch.moment.ticketNow) = some fetch.moment.ticketNow
  names : ∀ fetch ∈ fetches, ∀ exposure payload,
    Mints platform instants numbers fetch exposure payload → "" ∉ exposureNames exposure

/-- An hour of one window is less than twelve hours from any other. -/
theorem lt_of_refreshWindow_eq {a b : Int}
    (h : exposureTicketRefreshWindow a = exposureTicketRefreshWindow b) :
    b - a < EXPOSURE_TICKET_REFRESH_WINDOW_MS := by
  simp only [exposureTicketRefreshWindow, EXPOSURE_TICKET_REFRESH_WINDOW_MS,
    EXPOSURE_TICKET_TTL_MS] at h ⊢
  omega

/-- **The materials of a hit.** The tag of the payload that is held is the tag of what the request resolves
to, so both come of one material: the same entries, up to their tickets, under the same window. -/
theorem resolved_alike {fetches : List (Fetch N)} {fetch : Fetch N} {etag : String}
    (htags : TagsDiffer platform instants numbers digest (fetches ++ [fetch]))
    (hhit : (client platform instants numbers digest).out
      ((client platform instants numbers digest).run fetches) fetch = .notModified etag) :
    ∃ stored resolved, (client platform instants numbers digest).run fetches = some stored ∧
      resolveAllEvaluations platform instants numbers fetch.body fetch.moment = .ok resolved ∧
      ∃ old ∈ fetches, ∃ found, StoredFrom platform instants numbers digest stored old found ∧
        found.ticketRefreshWindow = resolved.ticketRefreshWindow ∧
        found.tagged.Perm resolved.tagged := by
  obtain ⟨resolved, hresolved, hetag, hmatch⟩ := completeEvaluateAll_notModified hhit
  cases hstored : (client platform instants numbers digest).run fetches with
  | none =>
    rw [hstored] at hmatch
    cases hmatch
  | some stored =>
    rw [hstored, Option.map_some] at hmatch
    obtain ⟨old, hold, found, hfound, hevaluations, htag⟩ := exists_storedFrom fetches stored hstored
    have hsame : stored.etag = etagOf numbers digest fetch.body fetch.moment resolved := by
      rw [hetag] at hmatch
      exact (ifNoneMatchMatches_strongEtag ⟨_, htag⟩).mp hmatch
    have hmaterial := htags old (List.mem_append_left _ hold) fetch
      (List.mem_append_right _ List.mem_cons_self) found resolved hfound hresolved (by rw [← htag, hsame])
    obtain ⟨-, -, -, -, hwindow, hperm⟩ := etagMaterial_inj hmaterial
    refine ⟨stored, resolved, rfl, hresolved, old, hold, found, ?_, hwindow, hperm⟩
    exact ⟨hfound, hevaluations, htag⟩

/-- **The tickets of one Flag.** Where two requests resolve to the same entries, an entry with a ticket has one
on both sides, minted under one key and for one identity: the entries agree in their Exposure Identity, and
that is signed. -/
theorem minted_alike {fetches : List (Fetch N)} {old fetch : Fetch N} {found resolved : Resolved N}
    (hidentities : IdentitiesDiffer platform instants numbers fetches) (hold : old ∈ fetches)
    (hfetch : fetch ∈ fetches)
    (hfound : resolveAllEvaluations platform instants numbers old.body old.moment = .ok found)
    (hresolved : resolveAllEvaluations platform instants numbers fetch.body fetch.moment = .ok resolved)
    (hperm : found.tagged.Perm resolved.tagged) {flagKey ticket : String} {entry : EvaluateAllEntry N}
    (hentry : (flagKey, entry) ∈ found.evaluations) (hticket : entry.exposureTicket = some ticket) :
    ∃ exposure payload exposure' current, Mints platform instants numbers old exposure payload ∧
      Mints platform instants numbers fetch exposure' current ∧
      fetch.moment.ticketKey = old.moment.ticketKey ∧ payload.identityFields = current.identityFields ∧
      ticket = (mintPayload N platform old.moment.ticketKey payload).exposureTicket ∧
      found.ticketRefreshWindow = some (exposureTicketRefreshWindow old.moment.ticketNow) ∧
      resolved.ticketRefreshWindow = some (exposureTicketRefreshWindow fetch.moment.ticketNow) := by
  rcases resolveAllEvaluations_ok hfound _ hentry with ⟨-, hnone⟩ |
    ⟨holdwindow, exposure, payload, hmints, hidentity, hminted⟩
  · rw [hnone] at hticket
    cases hticket
  -- the entry that a full answer would have
  obtain ⟨pair, hpair, hpaireq⟩ : ∃ pair ∈ resolved.evaluations,
      (pair.1, pair.2.toTaggedEntry) = (flagKey, entry.toTaggedEntry) :=
    List.mem_map.mp (hperm.mem_iff.mp (List.mem_map.mpr ⟨_, hentry, rfl⟩))
  have hcurrentid : pair.2.exposureIdentity = entry.exposureIdentity :=
    congrArg TaggedEntry.exposureIdentity (Prod.mk.inj hpaireq).2
  rcases resolveAllEvaluations_ok hresolved pair hpair with ⟨hnone, -⟩ |
    ⟨hnewwindow, exposure', current, hcurrent, hcurrentidentity, -⟩
  · rw [hcurrentid, hidentity] at hnone
    cases hnone
  rw [hcurrentidentity, hidentity, Option.some_inj] at hcurrentid
  obtain ⟨hkey, htext⟩ := hidentities fetch hfetch old hold _ _ _ _ hcurrent hmints hcurrentid
  rw [hticket, Option.some_inj] at hminted
  exact ⟨exposure, payload, exposure', current, hmints, hcurrent, hkey, (identityText_inj N htext).symm,
    hminted, holdwindow, hnewwindow⟩

/-- **A ticket that was minted** is accepted for a day, under every ring of strong keys with its own. -/
theorem minted_accepted {fetches : List (Fetch N)} {fetch : Fetch N} {exposure : ExposureDecision}
    {payload : ExposureTicketPayload} (hregular : Regular platform instants numbers fetches)
    (hfetch : fetch ∈ fetches) (hmints : Mints platform instants numbers fetch exposure payload)
    {vdeps : VerifyExposureTicketDeps} (hring : fetch.moment.ticketKey ∈ vdeps.keys)
    (hstrong : ∀ key ∈ vdeps.keys, MIN_TICKET_KEY_LENGTH ≤ utf16Length key) {nowMs : Int}
    (hfrom : fetch.moment.ticketNow ≤ nowMs)
    (hto : nowMs - fetch.moment.ticketNow ≤ EXPOSURE_TICKET_TTL_MS) :
    verifyExposureTicket (ticketPlatform N platform instants) vdeps
      (mintPayload N platform fetch.moment.ticketKey payload).exposureTicket nowMs = .ok (.ok payload) := by
  have hnames := hregular.names fetch hfetch _ _ hmints
  obtain ⟨htext, hread⟩ := hregular.instants_eq fetch hfetch
  obtain ⟨flags, flag, -, -, -, hpayload⟩ := hmints
  have hcomplete : payload.Complete := (complete_iff hpayload).mpr ⟨hnames, htext⟩
  have hdate : instants.dateParse payload.issued_at = some fetch.moment.ticketNow := by
    rw [issued_at_eq hpayload]
    exact hread
  rw [verifyExposureTicket_minted hcomplete hdate hring hstrong, if_neg (not_lt.mpr hto), if_neg]
  simp only [TICKET_FUTURE_SKEW_MS]
  omega

/-- **A payload that has not been modified.**  Whenever, in a run of requests with a clock that does not go
back, a client is told that its payload has not been modified, the payload has for each Flag the entry that
a full answer to this request would have, up to the time of issue of its ticket, and each of its tickets is
accepted, for the same Exposure, at this time and for another twelve hours. -/
theorem conditional_hit {fetches : List (Fetch N)} {fetch : Fetch N} {etag : String}
    (htimed : Machine.Timed (fun fetch : Fetch N => fetch.moment.ticketNow) (fetches ++ [fetch]))
    (htags : TagsDiffer platform instants numbers digest (fetches ++ [fetch]))
    (hidentities : IdentitiesDiffer platform instants numbers (fetches ++ [fetch]))
    (hregular : Regular platform instants numbers (fetches ++ [fetch]))
    (hhit : (client platform instants numbers digest).out
      ((client platform instants numbers digest).run fetches) fetch = .notModified etag) :
    ∃ stored resolved, (client platform instants numbers digest).run fetches = some stored ∧
      resolveAllEvaluations platform instants numbers fetch.body fetch.moment = .ok resolved ∧
      (stored.evaluations.map fun entry => (entry.1, entry.2.toTaggedEntry)).Perm resolved.tagged ∧
      ∀ flagKey entry ticket, (flagKey, entry) ∈ stored.evaluations →
        entry.exposureTicket = some ticket →
        ∃ exposure payload current, Mints platform instants numbers fetch exposure current ∧
          payload.identityFields = current.identityFields ∧
          ∀ vdeps : VerifyExposureTicketDeps, fetch.moment.ticketKey ∈ vdeps.keys →
            (∀ key ∈ vdeps.keys, MIN_TICKET_KEY_LENGTH ≤ utf16Length key) →
            ∀ nowMs, fetch.moment.ticketNow ≤ nowMs →
              nowMs ≤ fetch.moment.ticketNow + EXPOSURE_TICKET_REFRESH_WINDOW_MS →
              verifyExposureTicket (ticketPlatform N platform instants) vdeps ticket nowMs =
                .ok (.ok payload) := by
  obtain ⟨stored, resolved, hstored, hresolved, old, hold, found, hfrom, hwindow, hperm⟩ :=
    resolved_alike htags hhit
  obtain ⟨hfound, hevaluations, -⟩ := hfrom
  have hfirst : old ∈ fetches ++ [fetch] := List.mem_append_left _ hold
  have hlast : fetch ∈ fetches ++ [fetch] := List.mem_append_right _ List.mem_cons_self
  have htagged : (stored.evaluations.map fun entry => (entry.1, entry.2.toTaggedEntry)).Perm
      resolved.tagged := by
    rw [hevaluations]
    exact hperm
  refine ⟨stored, resolved, hstored, hresolved, htagged, fun flagKey entry ticket hentry hticket => ?_⟩
  obtain ⟨_, payload, exposure, current, hmints, hcurrent, hkey, hfields, rfl, holdwindow, hnewwindow⟩ :=
    minted_alike hidentities hfirst hlast hfound hresolved hperm (hevaluations ▸ hentry) hticket
  refine ⟨exposure, payload, current, hcurrent, hfields, fun vdeps hring hstrong nowMs hfrom hto => ?_⟩
  -- the ticket is not older than its window
  rw [holdwindow, hnewwindow, Option.some_inj] at hwindow
  have hage := lt_of_refreshWindow_eq hwindow
  have hclock : old.moment.ticketNow ≤ fetch.moment.ticketNow :=
    ((Machine.timed_concat _).mp htimed).2 old hold
  refine minted_accepted hregular hfirst hmints (hkey ▸ hring) hstrong (hclock.trans hfrom) ?_
  simp only [EXPOSURE_TICKET_REFRESH_WINDOW_MS, EXPOSURE_TICKET_TTL_MS] at hage hto ⊢
  omega

def wholeNumbers : Numbers Int where
  toJs n := .finite n
  ofInt := id
  ofInt_injective := Function.injective_id

def checkoutFlag : ServedFlag Int where
  config :=
    { flagKey := "checkout", appId := "app_1", environmentId := "env_1"
      experimentId := some "exp_1", enabled := true, defaultVariant := "control"
      variants := [⟨"var_1", "control"⟩, ⟨"var_2", "treatment"⟩], availableVariantNames := []
      targetingRules := [], rollout := none }
  value variant := .str variant.name

/-- All traffic of the Run goes to one arm. -/
def oneArm : Allocation where
  entries := [("treatment", 100)]
  nodup := by decide

def julyFetch : Fetch Int where
  body :=
    { targetingKey := "user-1", idType := "user"
      attributes := ⟨[], .obj List.nodup_nil fun _ h => absurd h List.not_mem_nil⟩ }
  moment :=
    { scope := ⟨"app_1", "env_1"⟩
      ticketNow := 1783036800000
      getFlags := .ok [checkoutFlag]
      deps :=
        { hash := hashToUnitInterval
          regExp := fun _ _ => none
          getFlag := fun _ _ _ => .ok checkoutFlag.config
          getExperiment := fun _ _ _ => .ok ⟨"user", some ⟨"run_1", "salt", oneArm, []⟩⟩
          getAll := fun _ _ _ => .ok fun _ => none }
      saltStore := oneEpoch
      ticketKey := julyDeps.ticketKey
      staleBeforeSuccess := none
      idempotencyKey := some "evaluation-1"
      billed := fun _ => .ok () }

def sha256Bytes (data : List UInt8) : List UInt8 := Sha256.digestBytes data

/-- The only Flag of the request is exposed, with a ticket. -/
theorem resolved_july : ∃ resolved,
    resolveAllEvaluations sha256Hmac thirdOfJuly wholeNumbers julyFetch.body julyFetch.moment =
      .ok resolved ∧ ∃ entry ticket, resolved.evaluations = [("checkout", entry)] ∧
        entry.exposureTicket = some ticket := by
  have hsome : ((resolveAllEvaluations sha256Hmac thirdOfJuly wholeNumbers julyFetch.body
      julyFetch.moment).toOption.map fun resolved => resolved.evaluations.map fun entry =>
        (entry.1, entry.2.exposureTicket.isSome)) = some [("checkout", true)] := by
    decide +kernel
  cases hresolved : resolveAllEvaluations sha256Hmac thirdOfJuly wholeNumbers julyFetch.body
      julyFetch.moment with
  | error message =>
    rw [hresolved] at hsome
    cases hsome
  | ok resolved =>
    rw [hresolved] at hsome
    obtain ⟨⟨flagKey, entry⟩, rest, hlist, hentry, hrest⟩ :=
      List.map_eq_cons_iff.mp (Option.some_inj.mp hsome)
    obtain ⟨rfl, hticket⟩ := Prod.mk.inj hentry
    obtain ⟨ticket, hticket⟩ := Option.isSome_iff_exists.mp hticket
    exact ⟨resolved, rfl, entry, ticket, by rw [hlist, List.map_eq_nil_iff.mp hrest], hticket⟩

theorem mints_july {exposure exposure' : ExposureDecision} {payload payload' : ExposureTicketPayload}
    (h : Mints sha256Hmac thirdOfJuly wholeNumbers julyFetch exposure payload)
    (h' : Mints sha256Hmac thirdOfJuly wholeNumbers julyFetch exposure' payload') :
    exposure' = exposure ∧ payload' = payload := by
  obtain ⟨flags, flag, hflags, hflag, hexposure, hpayload⟩ := h
  obtain ⟨flags', flag', hflags', hflag', hexposure', hpayload'⟩ := h'
  have hsingle : flags = [checkoutFlag] ∧ flags' = [checkoutFlag] :=
    ⟨(Except.ok.inj hflags).symm, (Except.ok.inj hflags').symm⟩
  rw [hsingle.1, List.mem_singleton] at hflag
  rw [hsingle.2, List.mem_singleton] at hflag'
  rw [hflag] at hexposure
  rw [hflag', hexposure, Option.some_inj] at hexposure'
  rw [← hexposure', hpayload] at hpayload'
  exact ⟨hexposure'.symm, (Except.ok.inj hpayload').symm⟩

theorem names_july {exposure : ExposureDecision} {payload : ExposureTicketPayload}
    (h : Mints sha256Hmac thirdOfJuly wholeNumbers julyFetch exposure payload) :
    "" ∉ exposureNames exposure := by
  have hall : (julyFetch.moment.evaluateAllFlag wholeNumbers julyFetch.body
      checkoutFlag).exposure.all (fun exposure => "" ∉ exposureNames exposure) = true := by
    decide +kernel
  obtain ⟨flags, flag, hflags, hflag, hexposure, -⟩ := h
  rw [← Except.ok.inj hflags, List.mem_singleton] at hflag
  rw [hflag] at hexposure
  rw [hexposure] at hall
  exact of_decide_eq_true hall

/-- A client asks again in the same millisecond.  At noon the ticket is accepted. -/
theorem conditional_hit_july : ∃ (etag : String) (stored : StoredPayload Int) (resolved : Resolved Int)
    (entry : EvaluateAllEntry Int) (ticket : String) (payload : ExposureTicketPayload),
    (client sha256Hmac thirdOfJuly wholeNumbers sha256Bytes).out
      ((client sha256Hmac thirdOfJuly wholeNumbers sha256Bytes).run [julyFetch]) julyFetch =
        .notModified etag ∧
      (client sha256Hmac thirdOfJuly wholeNumbers sha256Bytes).run [julyFetch] = some stored ∧
      (stored.evaluations.map fun entry => (entry.1, entry.2.toTaggedEntry)).Perm resolved.tagged ∧
      ("checkout", entry) ∈ stored.evaluations ∧ entry.exposureTicket = some ticket ∧
      verifyExposureTicket (ticketPlatform Int sha256Hmac thirdOfJuly) ⟨julyDeps.ticketKey, none⟩ ticket
        1783080000000 = .ok (.ok payload) := by
  obtain ⟨resolved, hresolved, entry, ticket, hentries, hticket⟩ := resolved_july
  let etag := etagOf wholeNumbers sha256Bytes julyFetch.body julyFetch.moment resolved
  have hrun : (client sha256Hmac thirdOfJuly wholeNumbers sha256Bytes).run [julyFetch] =
      some ⟨resolved.evaluations, etag⟩ := by
    simp only [Machine.run, Machine.exec_cons, Machine.exec_nil, Machine.next, client,
      completeEvaluateAll, hresolved]
    rfl
  have hmatch : ifNoneMatchMatches (some etag) etag = true :=
    (ifNoneMatchMatches_strongEtag ⟨_, rfl⟩).mpr rfl
  have hhit : (client sha256Hmac thirdOfJuly wholeNumbers sha256Bytes).out
      ((client sha256Hmac thirdOfJuly wholeNumbers sha256Bytes).run [julyFetch]) julyFetch =
        .notModified etag := by
    rw [hrun]
    simp only [Machine.out, client, completeEvaluateAll, hresolved, answerResolved, Option.map_some]
    rw [if_pos hmatch]
    rfl
  have hall : ∀ fetch ∈ [julyFetch] ++ [julyFetch], fetch = julyFetch := by
    intro fetch hmem
    rcases List.mem_append.mp hmem with hmem | hmem <;> exact List.mem_singleton.mp hmem
  have htimed : Machine.Timed (fun fetch : Fetch Int => fetch.moment.ticketNow)
      ([julyFetch] ++ [julyFetch]) := List.pairwise_pair.mpr (le_refl _)
  obtain ⟨stored, resolved', hstored, -, hperm, htickets⟩ := conditional_hit htimed
    (by
      intro a ha b hb found found' hfound hfound' _
      rw [hall a ha] at hfound ⊢
      rw [hall b hb] at hfound' ⊢
      rw [hfound] at hfound'
      rw [Except.ok.inj hfound'])
    (by
      intro a ha b hb exposure payload exposure' payload' hmints hmints' _
      rw [hall a ha] at hmints ⊢
      rw [hall b hb] at hmints' ⊢
      exact ⟨rfl, by rw [(mints_july hmints hmints').2]⟩)
    ⟨by
      intro fetch hfetch
      rw [hall fetch hfetch]
      decide, by
      intro fetch hfetch exposure payload hmints
      rw [hall fetch hfetch] at hmints
      exact names_july hmints⟩
    hhit
  have hentry : ("checkout", entry) ∈ stored.evaluations := by
    rw [hrun, Option.some_inj] at hstored
    rw [← hstored, hentries]
    exact List.mem_cons_self
  obtain ⟨exposure, payload, current, -, -, hverify⟩ := htickets "checkout" entry ticket hentry hticket
  refine ⟨etag, stored, resolved', entry, ticket, payload, hhit, hstored, hperm, hentry, hticket, ?_⟩
  exact hverify ⟨julyDeps.ticketKey, none⟩ (List.mem_singleton_self _) (by decide) 1783080000000
    (by decide) (by decide)

end Run

end EvaluateAll

end Splitch
