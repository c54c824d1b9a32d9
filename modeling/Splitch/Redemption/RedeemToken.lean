/-
# One right to append

The claim store exists so that of all redemptions of one ticket at most one may append.  Seen so,
it hands out a single TOKEN: free, held by a redemption, on its way back in a release that is
still in flight, or spent on a write.  `TokenInv` says that the stores, the late calls, the
sink's log and what every redemption knows agree on where the token is.

The claim row stands for the token: while it is not free the row is there, and a claim that meets
a live row is not acquired.  So the token is never doubled, provided that the row does not expire
under the redemption that holds it and that the sink does not commit a write it then reports as
failed; `ingested_at_most_once` is the result under exactly these two provisos.
-/
import Splitch.Redemption.RedeemSafety

namespace Splitch

open Calls Expiring

/-! ## 1. Where the token is -/

/-- The right to append for one ticket. -/
inductive Token
  | free
  | held (id : Nat)
  /-- A release is on its way whose caller has gone on. -/
  | releasing
  | spent
  deriving DecidableEq

section Token

variable (platform : RedeemPlatform) (N F : String)

/-- The redemption is one of the fingerprint `F` at the claim object `N`. -/
def concerns : Option Redemption → Bool
  | none => false
  | some r =>
    decide (RedeemWorld.objectName (claimInputOf platform r.request) = N ∧
      ticketFingerprint platform r.request.exposureTicket = F)

/-- The late call is a release of `F` at `N`. -/
def isRelease (call : LateCall) : Bool :=
  decide (call.route = .release ∧ RedeemWorld.objectName call.input = N ∧
    call.input.ticketFingerprint = F)

/-- The late calls, the sink's log and the claim row agree with the token. -/
structure Ledger (token : Token) (world : RedeemWorld) : Prop where
  late : world.late.countP (isRelease N F) = if token = .releasing then 1 else 0
  writes : world.ingested.countP (fun write =>
    concerns platform N F (world.redemptions write.redemption)) = if token = .spent then 1 else 0
  row : token ≠ .free → (world.claims N).ticketRow F ≠ none
  known : ∀ write ∈ world.ingested, ∃ r, world.redemptions write.redemption = some r

/-- A redemption keeps to the protocol, and if it believes to hold the token, it does. -/
def Holds (token : Token) (id : Nat) (r : Redemption) : Prop :=
  ∃ k : Knowledge, Follows (redeemProtocol platform r.request) HonestIfAny k r.program ∧
    (k.holds = true → concerns platform N F (some r) = true → token = .held id)

def Holders (token : Token) (world : RedeemWorld) : Prop :=
  ∀ id r, world.redemptions id = some r → Holds platform N F token id r

def TokenInv (world : RedeemWorld) : Prop :=
  ∃ token, Ledger platform N F token world ∧ Holders platform N F token world

/-- The row of `F`, if there is one, has not expired at `now`. -/
def RowLive (world : RedeemWorld) (now : Int) : Prop :=
  ∀ t ∈ (world.claims N).ticketRow F, now < t.expiresAt

instance (world : RedeemWorld) (now : Int) : Decidable (RowLive N F world now) :=
  inferInstanceAs (Decidable (∀ t ∈ (world.claims N).ticketRow F, now < t.expiresAt))

end Token

/-! ## 2. Calls that leave the token where it is -/

section Ledger

variable {platform : RedeemPlatform} {N F : String} {token : Token} {world : RedeemWorld}

theorem isRelease_claimInputOf (r : Redemption) :
    isRelease N F ⟨.release, claimInputOf platform r.request⟩
      = concerns platform N F (some r) := by
  exact decide_eq_decide.mpr (by simp [claimInputOf])

/-- Only the request of a redemption matters. -/
theorem concerns_congr {r r' : Redemption} (h : r'.request = r.request) :
    concerns platform N F (some r') = concerns platform N F (some r) := by
  simp only [concerns, h]

/-- The claim object keeps a live row through every call that is not its release. -/
theorem serve_row {route : ClaimRoute} {input : RedemptionClaimContext} {nowMs : Int}
    (hlive : RowLive N F world nowMs) (hharmless : isRelease N F ⟨route, input⟩ = false)
    (hrow : (world.claims N).ticketRow F ≠ none) :
    ((world.serve route input nowMs).2.claims N).ticketRow F ≠ none := by
  by_cases hname : N = RedeemWorld.objectName input
  · subst hname
    simp only [RedeemWorld.serve, Function.update_self]
    obtain ⟨t, ht⟩ := Option.ne_none_iff_exists'.mp hrow
    have hnow : (ClaimEvent.request route
        ⟨input.exposureId, input.ticketFingerprint, nowMs⟩).nowMs < t.expiresAt := hlive t ht
    rcases ticketRow_step ht hnow with h | ⟨i, heq, hf⟩
    · exact h
    · cases heq
      simp only [isRelease, decide_eq_false_iff_not, true_and] at hharmless
      exact absurd hf hharmless
  · simp only [RedeemWorld.serve, Function.update_of_ne hname]
    exact hrow

theorem Ledger.serve (h : Ledger platform N F token world) {route : ClaimRoute}
    {input : RedemptionClaimContext} {nowMs : Int} (hlive : RowLive N F world nowMs)
    (hharmless : isRelease N F ⟨route, input⟩ = false) :
    Ledger platform N F token (world.serve route input nowMs).2 :=
  ⟨h.late, h.writes, fun ht => serve_row hlive hharmless (h.row ht), h.known⟩

/-- However a call goes that is no release of the ticket, the ledger stays as it is. -/
theorem Ledger.rpc (h : Ledger platform N F token world) {route : ClaimRoute}
    {input : RedemptionClaimContext} {fate : Fate} (hlive : RowLive N F world fate.nowMs)
    (hharmless : isRelease N F ⟨route, input⟩ = false) :
    Ledger platform N F token (world.rpc route input fate).2 := by
  rcases world.rpc_cases route input fate with he | ⟨_, he⟩ | ⟨_, he⟩ | ⟨_, he⟩ <;> rw [he]
  · exact h.serve hlive hharmless
  · exact h.serve hlive hharmless
  · exact h
  · refine ⟨?_, h.writes, h.row, h.known⟩
    rw [List.countP_append, List.countP_singleton, h.late]
    simp [hharmless]

/-- The ledger looks at the requests of the redemptions only. -/
theorem Ledger.setRedemption (h : Ledger platform N F token world) {id : Nat}
    {r r' : Redemption} (hr : world.redemptions id = some r) (hreq : r'.request = r.request) :
    Ledger platform N F token (world.setRedemption id r') := by
  have hsame : ∀ id', concerns platform N F ((world.setRedemption id r').redemptions id')
      = concerns platform N F (world.redemptions id') := by
    intro id'
    by_cases hid : id' = id
    · subst hid
      rw [world.setRedemption_self, hr, concerns_congr hreq]
    · rw [world.setRedemption_of_ne _ hid]
  refine ⟨h.late, ?_, h.row, fun write hw => ?_⟩
  · rw [← h.writes]
    exact List.countP_congr fun write _ => by rw [hsame]
  · obtain ⟨r'', hr''⟩ := h.known write hw
    by_cases hid : write.redemption = id
    · exact ⟨r', hid ▸ world.setRedemption_self id r'⟩
    · exact ⟨r'', by rw [world.setRedemption_of_ne _ hid, hr'']⟩

end Ledger

/-! ## 3. Calls that move the token -/

/-- What an answer to the redemption `id` does to the token: the ledger follows it, nobody else
loses it, and the redemption holds it if it has learned that it does. -/
structure Moves (platform : RedeemPlatform) (N F : String) (token : Token) (id : Nat)
    (r : Redemption) (k : Knowledge) (call : RedeemCall) (answered : call.Reply × RedeemWorld)
    (token' : Token) : Prop where
  ledger : Ledger platform N F token' answered.2
  others : ∀ id', id' ≠ id → token = .held id' → token' = .held id'
  self : (k.learn call answered.1).holds = true → concerns platform N F (some r) = true →
    token' = .held id

section Moves

variable {platform : RedeemPlatform} {N F : String} {token : Token} {world : RedeemWorld}
  {id : Nat} {r : Redemption} {k : Knowledge} {fate : Fate}

/-- An answer that leaves the ledger alone and teaches nothing about the token. -/
theorem Moves.stay {call : RedeemCall} {answered : call.Reply × RedeemWorld}
    (hledger : Ledger platform N F token answered.2)
    (hheld : k.holds = true → concerns platform N F (some r) = true → token = .held id)
    (hlearn : (k.learn call answered.1).holds = true → k.holds = true) :
    Moves platform N F token id r k call answered token :=
  ⟨hledger, fun _ _ ht => ht, fun hl hc => hheld (hlearn hl) hc⟩

/-- A claim that is acquired on the ticket takes the token, which was free. -/
theorem claim_moves (h : Ledger platform N F token world)
    (hlive : RowLive N F world fate.nowMs) (hfree : k.holds = false) :
    ∃ token', Moves platform N F token id r k (.claim (claimInputOf platform r.request))
      (world.answer id fate (.claim (claimInputOf platform r.request))) token' := by
  have hharmless : isRelease N F ⟨.claim, claimInputOf platform r.request⟩ = false := by
    simp [isRelease]
  have hkept := h.rpc hlive hharmless
  by_cases hacq : (world.answer id fate (.claim (claimInputOf platform r.request))).1
      = .ok .acquired ∧ concerns platform N F (some r) = true
  · obtain ⟨hreply, hconcern⟩ := hacq
    obtain ⟨hname, hfp⟩ := of_decide_eq_true hconcern
    subst hname hfp
    obtain ⟨hout, hworld⟩ := claim_of_answer hreply
    have htoken : token = .free := by
      by_contra hne
      obtain ⟨t, ht⟩ := Option.ne_none_iff_exists'.mp (h.row hne)
      exact not_acquired_of_ticket ((age_eq_some _).mpr ⟨ht, hlive t ht⟩) hout
    subst htoken
    refine ⟨.held id, ⟨?_, fun _ _ ht => (by cases ht), fun _ _ => rfl⟩⟩
    rw [hworld]
    refine ⟨h.late, h.writes, fun _ => ?_, h.known⟩
    have hrow := ticketRow_of_acquired hout
    simp only [RedeemWorld.serve, Function.update_self]
    exact hrow
  · refine ⟨token, hkept, fun _ _ ht => ht, fun hl hc => ?_⟩
    have hne : (world.answer id fate (.claim (claimInputOf platform r.request))).1
        ≠ .ok .acquired := fun he => hacq ⟨he, hc⟩
    rw [Knowledge.learn_claim_holds hne, hfree] at hl
    cases hl

/-- A release by the redemption that holds the token gives it back, now or later. -/
theorem release_moves (h : Ledger platform N F token world)
    (hlive : RowLive N F world fate.nowMs) (hholds : k.holds = true)
    (hheld : k.holds = true → concerns platform N F (some r) = true → token = .held id) :
    ∃ token', Moves platform N F token id r k (.release (claimInputOf platform r.request))
      (world.answer id fate (.release (claimInputOf platform r.request))) token' := by
  have hself : ∀ token' reply,
      (k.learn (.release (claimInputOf platform r.request)) reply).holds = true →
      concerns platform N F (some r) = true → token' = Token.held id := by
    intro token' reply hl
    cases hl
  by_cases hconcern : concerns platform N F (some r) = true
  · have htoken := hheld hholds hconcern
    subst htoken
    have hlate := h.late
    have hwrites := h.writes
    have hothers : ∀ token', ∀ id', id' ≠ id → Token.held id = .held id' →
        token' = Token.held id' := by
      rintro token' id' hne ⟨⟩
      exact absurd rfl hne
    rcases world.rpc_cases .release (claimInputOf platform r.request) fate with
      he | ⟨_, he⟩ | ⟨_, he⟩ | ⟨_, he⟩ <;> simp only [RedeemWorld.answer, he]
    · exact ⟨.free, ⟨hlate, hwrites, fun hne => absurd rfl hne, h.known⟩, hothers _, hself _ _⟩
    · exact ⟨.free, ⟨hlate, hwrites, fun hne => absurd rfl hne, h.known⟩, hothers _, hself _ _⟩
    · exact ⟨.free, ⟨hlate, hwrites, fun hne => absurd rfl hne, h.known⟩, hothers _, hself _ _⟩
    · refine ⟨.releasing, ⟨?_, hwrites, fun _ => h.row (by simp), h.known⟩, hothers _,
        hself _ _⟩
      rw [List.countP_append, List.countP_singleton, isRelease_claimInputOf, hlate]
      simp [hconcern]
  · have hharmless : isRelease N F ⟨.release, claimInputOf platform r.request⟩ = false := by
      rw [isRelease_claimInputOf]
      exact Bool.eq_false_iff.mpr hconcern
    exact ⟨token, h.rpc hlive hharmless, fun _ _ ht => ht, hself _ _⟩

/-- The write spends the token. -/
theorem ingest_moves (h : Ledger platform N F token world) {exposure : AssembledExposure}
    (hr : world.redemptions id = some r) (hholds : k.holds = true)
    (hheld : k.holds = true → concerns platform N F (some r) = true → token = .held id)
    (hsink : ∀ write ∈ (world.answer id fate (.ingest exposure)).2.ingested,
      write.returned = true) :
    ∃ token', Moves platform N F token id r k (.ingest exposure)
      (world.answer id fate (.ingest exposure)) token' := by
  simp only [RedeemWorld.answer] at hsink ⊢
  cases hfate : fate.ingest with
  | threw committed cause =>
    cases committed with
    | false => exact ⟨token, Moves.stay h hheld fun hl => hl⟩
    | true =>
      simp only [hfate] at hsink
      exact absurd (hsink ⟨id, exposure, false⟩ (by simp)) (by simp)
  | succeeded =>
    have hself : ∀ token', (k.learn (.ingest exposure) (.ok ())).holds = true →
        concerns platform N F (some r) = true → token' = Token.held id := by
      intro token' hl
      cases hl
    have hknown : ∀ write ∈ world.ingested ++ [⟨id, exposure, true⟩], ∃ r,
        world.redemptions write.redemption = some r := by
      intro write hw
      rcases List.mem_append.mp hw with hw | hw
      · exact h.known write hw
      · exact ⟨r, by rw [List.mem_singleton.mp hw, hr]⟩
    have hcount := h.writes
    by_cases hconcern : concerns platform N F (some r) = true
    · have htoken := hheld hholds hconcern
      subst htoken
      refine ⟨.spent, ⟨h.late, ?_, fun _ => h.row (by simp), hknown⟩, ?_, hself _⟩
      · rw [List.countP_append, List.countP_singleton, hcount, hr]
        simp [hconcern]
      · rintro id' hne ⟨⟩
        exact absurd rfl hne
    · refine ⟨token, ⟨h.late, ?_, h.row, hknown⟩, fun _ _ ht => ht, hself _⟩
      rw [List.countP_append, List.countP_singleton, hcount, hr]
      simp [hconcern]

/-- **An answer moves the token by the rules**: whatever the redemption was allowed to call. -/
theorem answer_moves (h : Ledger platform N F token world) {call : RedeemCall}
    (hr : world.redemptions id = some r) (hallowed : k.Allowed platform r.request call)
    (hheld : k.holds = true → concerns platform N F (some r) = true → token = .held id)
    (hlive : RowLive N F world fate.nowMs)
    (hsink : ∀ write ∈ (world.answer id fate call).2.ingested, write.returned = true) :
    ∃ token', Moves platform N F token id r k call (world.answer id fate call) token' := by
  cases call with
  | claim input =>
    obtain ⟨hinput, hfree, _⟩ := hallowed
    subst hinput
    exact claim_moves h hlive hfree
  | release input =>
    obtain ⟨hinput, hholds⟩ := hallowed
    subst hinput
    exact release_moves h hlive hholds hheld
  | ingest exposure => exact ingest_moves h hr hallowed.1 hheld hsink
  | markSealed input =>
    exact ⟨token, Moves.stay (h.rpc hlive (by simp [isRelease])) hheld fun hl => hl⟩
  | acknowledge input =>
    exact ⟨token, Moves.stay (h.rpc hlive (by simp [isRelease])) hheld fun hl => hl⟩
  | ensureHoldover input sourceCreatedAtMs =>
    refine ⟨token, Moves.stay ⟨h.late, h.writes, h.row, h.known⟩ hheld fun hl => ?_⟩
    rwa [Knowledge.learn_ensureHoldover_holds] at hl
  | now => exact ⟨token, Moves.stay h hheld fun hl => hl⟩
  | admissionCurrent => exact ⟨token, Moves.stay h hheld fun hl => hl⟩
  | sourceId => exact ⟨token, Moves.stay h hheld fun hl => hl⟩

end Moves

/-! ## 4. Steps -/

section Steps

variable {platform : RedeemPlatform} {N F : String} {world : RedeemWorld}

/-- A new redemption holds nothing. -/
theorem TokenInv.submit (h : TokenInv platform N F world) (id : Nat)
    (request : RedemptionRequest) :
    TokenInv platform N F (world.submit platform id request) := by
  obtain ⟨token, hledger, hholders⟩ := h
  unfold RedeemWorld.submit
  cases hr : world.redemptions id with
  | some r => exact ⟨token, hledger, hholders⟩
  | none =>
    have hold : ∀ write ∈ world.ingested, write.redemption ≠ id := by
      rintro write hw rfl
      obtain ⟨r, hknown⟩ := hledger.known write hw
      rw [hr] at hknown
      cases hknown
    refine ⟨token, ⟨hledger.late, ?_, hledger.row, fun write hw => ?_⟩, fun id' r' hr' => ?_⟩
    · rw [← hledger.writes]
      exact List.countP_congr fun write hw => by rw [world.setRedemption_of_ne _ (hold write hw)]
    · rw [world.setRedemption_of_ne _ (hold write hw)]
      exact hledger.known write hw
    · by_cases hid : id' = id
      · subst hid
        rw [world.setRedemption_self] at hr'
        cases hr'
        exact ⟨Knowledge.start, redeemOne_follows, fun hk => by simp [Knowledge.start] at hk⟩
      · rw [world.setRedemption_of_ne _ hid] at hr'
        exact hholders id' r' hr'

theorem TokenInv.advance (h : TokenInv platform N F world) {id : Nat} {fate : Fate}
    (hlive : RowLive N F world fate.nowMs)
    (hsink : ∀ write ∈ (world.advance id fate).ingested, write.returned = true) :
    TokenInv platform N F (world.advance id fate) := by
  obtain ⟨token, hledger, hholders⟩ := h
  rcases world.advance_cases id fate with he | ⟨r, call, next, hr, hprog, he⟩
  · rw [he]
    exact ⟨token, hledger, hholders⟩
  · obtain ⟨k, hf, hheld⟩ := hholders id r hr
    rw [hprog] at hf
    obtain ⟨hallowed, hnext⟩ := hf.step (world.answer id fate call).1
    have hsame := (answer_grows world id fate call).1
    rw [he] at hsink ⊢
    obtain ⟨token', hmoves⟩ := answer_moves hledger hr hallowed hheld hlive hsink
    refine ⟨token', hmoves.ledger.setRedemption ((congrFun hsame id).trans hr) rfl, ?_⟩
    intro id' r' hr'
    by_cases hid : id' = id
    · subst hid
      rw [RedeemWorld.setRedemption_self] at hr'
      cases hr'
      exact ⟨_, hnext, hmoves.self⟩
    · rw [RedeemWorld.setRedemption_of_ne _ _ hid, hsame] at hr'
      obtain ⟨k', hf', hheld'⟩ := hholders id' r' hr'
      exact ⟨k', hf', fun hk hc => hmoves.others id' hid (hheld' hk hc)⟩

/-- A late release ends the token's way back; any other late call leaves it alone. -/
theorem TokenInv.deliver (h : TokenInv platform N F world) {index : Nat} {nowMs : Int}
    (hlive : RowLive N F world nowMs) :
    TokenInv platform N F (world.deliver index nowMs) := by
  obtain ⟨token, hledger, hholders⟩ := h
  unfold RedeemWorld.deliver
  cases hl : world.late[index]? with
  | none => exact ⟨token, hledger, hholders⟩
  | some late =>
    obtain ⟨hindex, hget⟩ := List.getElem?_eq_some_iff.mp hl
    have hcount : (world.late.eraseIdx index).countP (isRelease N F)
        + (if isRelease N F late then 1 else 0) = world.late.countP (isRelease N F) := by
      rw [← (List.getElem_cons_eraseIdx_perm hindex).countP_eq, List.countP_cons, hget]
    rw [hledger.late] at hcount
    by_cases hrelease : isRelease N F late = true
    · have htoken : token = .releasing := by
        by_contra hne
        simp [hrelease, hne] at hcount
      subst htoken
      refine ⟨.free, ⟨?_, hledger.writes, fun hne => absurd rfl hne, hledger.known⟩, ?_⟩
      · simpa [hrelease] using hcount
      · intro id r hr
        obtain ⟨k, hf, hheld⟩ := hholders id r hr
        exact ⟨k, hf, fun hk hc => absurd (hheld hk hc) (by simp)⟩
    · have hserved := hledger.serve hlive (Bool.eq_false_iff.mpr hrelease)
      refine ⟨token, ⟨?_, hserved.writes, hserved.row, hserved.known⟩, hholders⟩
      simpa [hrelease] using hcount

theorem TokenInv.sweep (h : TokenInv platform N F world) {name : String} {nowMs : Int}
    (hlive : RowLive N F world nowMs) : TokenInv platform N F (world.sweep name nowMs) := by
  obtain ⟨token, hledger, hholders⟩ := h
  refine ⟨token, ⟨hledger.late, hledger.writes, fun hne => ?_, hledger.known⟩, hholders⟩
  by_cases hname : N = name
  · subst hname
    obtain ⟨t, ht⟩ := Option.ne_none_iff_exists'.mp (hledger.row hne)
    simp only [RedeemWorld.sweep, Function.update_self]
    have hnow : (ClaimEvent.alarm nowMs).nowMs < t.expiresAt := hlive t ht
    rcases ticketRow_step ht hnow with h | ⟨i, heq, _⟩
    · exact h
    · cases heq
  · simp only [RedeemWorld.sweep, Function.update_of_ne hname]
    exact hledger.row hne

/-- **Every step keeps the token single**, as long as its row has not expired and the sink has
told the truth. -/
theorem TokenInv.step (h : TokenInv platform N F world) {event : RedeemEvent}
    (hlive : ∀ now, event.nowMs = some now → RowLive N F world now)
    (hsink : ∀ write ∈ (world.step platform event).ingested, write.returned = true) :
    TokenInv platform N F (world.step platform event) := by
  cases event with
  | submit id request => exact h.submit id request
  | advance id fate => exact h.advance (hlive _ rfl) hsink
  | deliver index nowMs => exact h.deliver (hlive _ rfl)
  | sweep name nowMs => exact h.sweep (hlive _ rfl)

theorem tokenInv_empty : TokenInv platform N F .empty :=
  ⟨.free, ⟨rfl, rfl, fun hne => absurd rfl hne, fun _ hw => by cases hw⟩,
    fun _ _ hr => by cases hr⟩

end Steps

end Splitch
