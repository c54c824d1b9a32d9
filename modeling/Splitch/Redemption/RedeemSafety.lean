/-
# A reported redemption is a real one

Whatever fails and however the redemptions interleave, an item is reported `accepted` or
`deduplicated` only if its ticket's Exposure was appended and its holdover is complete or durably
owned.

What a redemption knows (`RedeemProtocol`) has to be TRUE, and stay true while others move.  Both
facts it can know are about logs that only grow, so staying true is free (`Grows`); they become
true because a row that says a ticket was redeemed is never written without the append
(`StoresBacked`), not even by a call that arrives long after its caller has gone.
-/
import Splitch.Redemption.ClaimEffects
import Splitch.Redemption.RedeemProtocol

namespace Splitch

open Calls

/-! ## 1. Facts about the world -/

/-- A write that the sink has confirmed was made by a redemption of the fingerprint `F`. -/
def Appended (platform : RedeemPlatform) (world : RedeemWorld) (F : String) : Prop :=
  ∃ write ∈ world.ingested, write.returned = true ∧ ∃ r,
    world.redemptions write.redemption = some r ∧
      ticketFingerprint platform r.request.exposureTicket = F

/-- The holdover coordinator has told the redemption `id` that the holdover of the request's
ticket is complete or durably owned. -/
def HoldoverOwned (platform : RedeemPlatform) (world : RedeemWorld) (id : Nat)
    (request : RedemptionRequest) : Prop :=
  ∃ answer ∈ world.ensured, answer.redemption = id ∧
    (answer.result = .ok .completed ∨ answer.result = .ok .owned) ∧
    ∃ payload, PayloadOf platform request payload ∧ answer.input = holdoverInput payload request

/-- The logs grow, and redemptions keep their requests. -/
structure Grows (world world' : RedeemWorld) : Prop where
  ingested : ∀ write ∈ world.ingested, write ∈ world'.ingested
  ensured : ∀ answer ∈ world.ensured, answer ∈ world'.ensured
  requests : ∀ id r, world.redemptions id = some r →
    ∃ r', world'.redemptions id = some r' ∧ r'.request = r.request

theorem Grows.refl (world : RedeemWorld) : Grows world world :=
  ⟨fun _ h => h, fun _ h => h, fun _ r h => ⟨r, h, rfl⟩⟩

theorem Grows.trans {world world' world'' : RedeemWorld} (h : Grows world world')
    (h' : Grows world' world'') : Grows world world'' := by
  refine ⟨fun _ hm => h'.ingested _ (h.ingested _ hm), fun _ hm => h'.ensured _ (h.ensured _ hm),
    fun id r hr => ?_⟩
  obtain ⟨r', hr', hreq⟩ := h.requests id r hr
  obtain ⟨r'', hr'', hreq'⟩ := h'.requests id r' hr'
  exact ⟨r'', hr'', hreq'.trans hreq⟩

theorem Appended.grows {platform : RedeemPlatform} {world world' : RedeemWorld} {F : String}
    (h : Appended platform world F) (hg : Grows world world') : Appended platform world' F := by
  obtain ⟨write, hmem, hret, r, hr, hf⟩ := h
  obtain ⟨r', hr', hreq⟩ := hg.requests _ r hr
  exact ⟨write, hg.ingested _ hmem, hret, r', hr', by rw [hreq, hf]⟩

theorem HoldoverOwned.grows {platform : RedeemPlatform} {world world' : RedeemWorld} {id : Nat}
    {request : RedemptionRequest} (h : HoldoverOwned platform world id request)
    (hg : Grows world world') : HoldoverOwned platform world' id request := by
  obtain ⟨answer, hmem, hrest⟩ := h
  exact ⟨answer, hg.ensured _ hmem, hrest⟩

/-- A claim outcome that reaches the caller is the claim object's own answer. -/
theorem claim_of_answer {world : RedeemWorld} {id : Nat} {fate : Fate}
    {input : RedemptionClaimContext} {outcome : ExposureRedemptionClaimOutcome}
    (hr : (world.answer id fate (.claim input)).1 = .ok outcome) :
    (claimStep (.request .claim ⟨input.exposureId, input.ticketFingerprint, fate.nowMs⟩)
        (world.claims (RedeemWorld.objectName input))).1 = .claim outcome ∧
      (world.answer id fate (.claim input)).2 = (world.serve .claim input fate.nowMs).2 := by
  simp only [RedeemWorld.answer] at hr ⊢
  rcases world.rpc_cases .claim input fate with he | ⟨_, he⟩ | ⟨_, he⟩ | ⟨_, he⟩ <;>
    rw [he] at hr ⊢
  · refine ⟨?_, rfl⟩
    have hr : parseClaimOutcome (claimStep
        (.request .claim ⟨input.exposureId, input.ticketFingerprint, fate.nowMs⟩)
        (world.claims (RedeemWorld.objectName input))).1 = .ok outcome := hr
    cases hresponse : (claimStep
        (.request .claim ⟨input.exposureId, input.ticketFingerprint, fate.nowMs⟩)
        (world.claims (RedeemWorld.objectName input))).1 with
    | claim o =>
      rw [hresponse] at hr
      cases hr
      rfl
    | _ =>
      rw [hresponse] at hr
      cases hr
  all_goals cases hr

/-! ## 2. No row redeems a ticket without the append -/

/-- Every stored row and every seal still on its way is backed by `A`. -/
structure StoresBacked (A : String → Prop) (world : RedeemWorld) : Prop where
  rows : ∀ name F, (world.claims name).rows.Redeemed F → A F
  late : ∀ call ∈ world.late, call.route = .markSealed → A call.input.ticketFingerprint

section Stores

variable {A : String → Prop} {world : RedeemWorld}

theorem StoresBacked.mono {A' : String → Prop} (h : StoresBacked A world)
    (himp : ∀ F, A F → A' F) : StoresBacked A' world :=
  ⟨fun name F hF => himp F (h.rows name F hF), fun call hc hr => himp _ (h.late call hc hr)⟩

theorem StoresBacked.serve (h : StoresBacked A world) (route : ClaimRoute)
    (input : RedemptionClaimContext) (nowMs : Int)
    (hseal : route = .markSealed → A input.ticketFingerprint) :
    StoresBacked A (world.serve route input nowMs).2 := by
  refine ⟨fun name F hF => ?_, h.late⟩
  by_cases hname : name = RedeemWorld.objectName input
  · subst hname
    simp only [RedeemWorld.serve, Function.update_self] at hF
    rcases redeemed_step hF with hold | ⟨input', heq, hfp⟩
    · exact h.rows _ F hold
    · cases heq
      exact hfp ▸ hseal rfl
  · simp only [RedeemWorld.serve, Function.update_of_ne hname] at hF
    exact h.rows name F hF

theorem StoresBacked.rpc (h : StoresBacked A world) {route : ClaimRoute}
    {input : RedemptionClaimContext} {fate : Fate}
    (hseal : route = .markSealed → A input.ticketFingerprint) :
    StoresBacked A (world.rpc route input fate).2 := by
  rcases world.rpc_cases route input fate with he | ⟨_, he⟩ | ⟨_, he⟩ | ⟨_, he⟩ <;> rw [he]
  · exact h.serve route input fate.nowMs hseal
  · exact h.serve route input fate.nowMs hseal
  · exact h
  · refine ⟨h.rows, fun call hc hr => ?_⟩
    rcases List.mem_append.mp hc with hc | hc
    · exact h.late call hc hr
    · rw [List.mem_singleton.mp hc] at hr ⊢
      exact hseal hr

/-- An answer to a call is given in a world that stays backed. -/
theorem StoresBacked.answer (h : StoresBacked A world) (id : Nat) (fate : Fate)
    (call : RedeemCall)
    (hseal : ∀ input, call = .markSealed input → A input.ticketFingerprint) :
    StoresBacked A (world.answer id fate call).2 := by
  cases call with
  | claim input => exact h.rpc (fun hr => by cases hr)
  | release input => exact h.rpc (fun hr => by cases hr)
  | markSealed input => exact h.rpc (fun _ => hseal input rfl)
  | acknowledge input => exact h.rpc (fun hr => by cases hr)
  | ingest exposure =>
    unfold RedeemWorld.answer
    split <;> exact ⟨h.rows, h.late⟩
  | ensureHoldover input sourceCreatedAtMs => exact ⟨h.rows, h.late⟩
  | _ => exact h

theorem StoresBacked.sweep (h : StoresBacked A world) (name : String) (nowMs : Int) :
    StoresBacked A (world.sweep name nowMs) := by
  refine ⟨fun name' F hF => ?_, h.late⟩
  by_cases hname : name' = name
  · subst hname
    simp only [RedeemWorld.sweep, Function.update_self] at hF
    rcases redeemed_step hF with hold | ⟨input, heq, _⟩
    · exact h.rows _ F hold
    · cases heq
  · simp only [RedeemWorld.sweep, Function.update_of_ne hname] at hF
    exact h.rows name' F hF

theorem StoresBacked.deliver (h : StoresBacked A world) (index : Nat) (nowMs : Int) :
    StoresBacked A (world.deliver index nowMs) := by
  unfold RedeemWorld.deliver
  cases hl : world.late[index]? with
  | none => exact h
  | some call =>
    have hserved := h.serve call.route call.input nowMs
      (h.late call (List.mem_of_getElem? hl))
    exact ⟨hserved.rows, fun c hc => hserved.late c (List.mem_of_mem_eraseIdx hc)⟩

/-- What the claim store reports as redeemed is backed. -/
theorem StoresBacked.of_claim (h : StoresBacked A world) {input : RedemptionClaimContext}
    {id : Nat} {fate : Fate} {outcome : ExposureRedemptionClaimOutcome}
    (hr : (world.answer id fate (.claim input)).1 = .ok outcome)
    (ho : outcome = .resumeAck ∨ outcome = .deduplicated) : A input.ticketFingerprint :=
  h.rows _ _ (redeemed_of_claim (claim_of_answer hr).1 ho)

end Stores

/-! ## 3. What a redemption knows is true -/

/-- The redemption keeps to the protocol on knowledge that is true of the world. -/
def Informed (platform : RedeemPlatform) (world : RedeemWorld) (id : Nat) (r : Redemption) :
    Prop :=
  ∃ k : Knowledge, Follows (redeemProtocol platform r.request) HonestIfAny k r.program ∧
    (k.appended = true →
      Appended platform world (ticketFingerprint platform r.request.exposureTicket)) ∧
    (k.owned = true → HoldoverOwned platform world id r.request)

theorem Informed.grows {platform : RedeemPlatform} {world world' : RedeemWorld} {id : Nat}
    {r : Redemption} (h : Informed platform world id r) (hg : Grows world world') :
    Informed platform world' id r := by
  obtain ⟨k, hf, ha, ho⟩ := h
  exact ⟨k, hf, fun h => (ha h).grows hg, fun h => (ho h).grows hg⟩

/-- The write was made by a redemption that had verified its ticket. -/
def Authentic (platform : RedeemPlatform) (world : RedeemWorld) (write : IngestWrite) : Prop :=
  ∃ r payload, world.redemptions write.redemption = some r ∧ PayloadOf platform r.request payload

theorem Authentic.grows {platform : RedeemPlatform} {world world' : RedeemWorld}
    {write : IngestWrite} (h : Authentic platform world write) (hg : Grows world world') :
    Authentic platform world' write := by
  obtain ⟨r, payload, hr, hp⟩ := h
  obtain ⟨r', hr', hreq⟩ := hg.requests _ r hr
  exact ⟨r', payload, hr', hreq ▸ hp⟩

/-- The invariant of the pool. -/
structure Backed (platform : RedeemPlatform) (world : RedeemWorld) : Prop where
  stores : StoresBacked (Appended platform world) world
  informed : ∀ id r, world.redemptions id = some r → Informed platform world id r
  authentic : ∀ write ∈ world.ingested, Authentic platform world write

section Steps

variable {platform : RedeemPlatform} {world : RedeemWorld}

/-- Answering a call changes no redemption and only extends the logs. -/
theorem answer_grows (world : RedeemWorld) (id : Nat) (fate : Fate) (call : RedeemCall) :
    (world.answer id fate call).2.redemptions = world.redemptions ∧
      Grows world (world.answer id fate call).2 := by
  have hrpc : ∀ route input, (world.rpc route input fate).2.redemptions = world.redemptions ∧
      Grows world (world.rpc route input fate).2 := by
    intro route input
    rcases world.rpc_cases route input fate with he | ⟨_, he⟩ | ⟨_, he⟩ | ⟨_, he⟩ <;> rw [he]
    all_goals exact ⟨rfl, fun _ h => h, fun _ h => h, fun _ r h => ⟨r, h, rfl⟩⟩
  cases call with
  | claim input => exact hrpc .claim input
  | release input => exact hrpc .release input
  | markSealed input => exact hrpc .markSealed input
  | acknowledge input => exact hrpc .acknowledge input
  | ingest exposure =>
    unfold RedeemWorld.answer
    split
    · exact ⟨rfl, fun _ h => List.mem_append_left _ h, fun _ h => h, fun _ r h => ⟨r, h, rfl⟩⟩
    · exact ⟨rfl, fun _ h => List.mem_append_left _ h, fun _ h => h, fun _ r h => ⟨r, h, rfl⟩⟩
    · exact ⟨rfl, fun _ h => h, fun _ h => h, fun _ r h => ⟨r, h, rfl⟩⟩
  | ensureHoldover input sourceCreatedAtMs =>
    exact ⟨rfl, fun _ h => h, fun _ h => List.mem_append_left _ h, fun _ r h => ⟨r, h, rfl⟩⟩
  | _ => exact ⟨rfl, fun _ h => h, fun _ h => h, fun _ r h => ⟨r, h, rfl⟩⟩

/-- Only an ingest writes, and in the name of the redemption that called it. -/
theorem answer_ingested {id : Nat} {fate : Fate} {call : RedeemCall} {write : IngestWrite}
    (h : write ∈ (world.answer id fate call).2.ingested) :
    write ∈ world.ingested ∨ (write.redemption = id ∧ ∃ exposure, call = .ingest exposure) := by
  have hrpc : ∀ route input, (world.rpc route input fate).2.ingested = world.ingested := by
    intro route input
    rcases world.rpc_cases route input fate with he | ⟨_, he⟩ | ⟨_, he⟩ | ⟨_, he⟩ <;> rw [he] <;>
      rfl
  cases call with
  | claim input => exact Or.inl (hrpc .claim input ▸ h)
  | release input => exact Or.inl (hrpc .release input ▸ h)
  | markSealed input => exact Or.inl (hrpc .markSealed input ▸ h)
  | acknowledge input => exact Or.inl (hrpc .acknowledge input ▸ h)
  | ingest exposure =>
    have hmem : write ∈ world.ingested ∨ write.redemption = id := by
      simp only [RedeemWorld.answer] at h
      cases hfate : fate.ingest with
      | succeeded =>
        simp only [hfate] at h
        exact (List.mem_append.mp h).imp_right fun hnew => by rw [List.mem_singleton.mp hnew]
      | threw committed cause =>
        cases committed <;> simp only [hfate] at h
        · exact Or.inl h
        · exact (List.mem_append.mp h).imp_right fun hnew => by rw [List.mem_singleton.mp hnew]
    exact hmem.imp_right fun hid => ⟨hid, exposure, rfl⟩
  | _ => exact Or.inl h

/-- **What a reply teaches is true**, where it is given. That a ticket's Exposure was appended is
learned from the sink itself, or from a claim that is answered as redeemed; the second is backed by a
row, and the row by an append before it. -/
theorem learn_appended (h : Backed platform world) {id : Nat} {fate : Fate} {r : Redemption}
    {k : Knowledge} {call : RedeemCall} (hr : world.redemptions id = some r)
    (hallowed : k.Allowed platform r.request call)
    (hold : k.appended = true →
      Appended platform world (ticketFingerprint platform r.request.exposureTicket))
    (hlearned : (k.learn call (world.answer id fate call).1).appended = true) :
    Appended platform (world.answer id fate call).2
      (ticketFingerprint platform r.request.exposureTicket) := by
  have hg := (answer_grows world id fate call).2
  cases call with
  | claim input =>
    have hinput : input = claimInputOf platform r.request := hallowed.1
    cases hreply : (world.answer id fate (.claim input)).1 with
    | error cause =>
      rw [hreply] at hlearned
      exact (hold hlearned).grows hg
    | ok outcome =>
      rw [hreply] at hlearned
      cases outcome with
      | resumeAck =>
        have := h.stores.of_claim hreply (Or.inl rfl)
        rw [hinput] at this
        exact this.grows hg
      | deduplicated =>
        have := h.stores.of_claim hreply (Or.inr rfl)
        rw [hinput] at this
        exact this.grows hg
      | acquired => exact (hold hlearned).grows hg
      | conflict => exact (hold hlearned).grows hg
      | busy => exact (hold hlearned).grows hg
  | ingest exposure =>
    simp only [RedeemWorld.answer] at hlearned hg ⊢
    cases hfate : fate.ingest with
    | succeeded =>
      exact ⟨⟨id, exposure, true⟩, by simp, rfl, r, hr, rfl⟩
    | threw committed cause =>
      cases committed <;>
      · simp only [hfate] at hlearned hg ⊢
        exact (hold hlearned).grows hg
  | ensureHoldover input sourceCreatedAtMs =>
    rw [Knowledge.learn_ensureHoldover_appended] at hlearned
    exact (hold hlearned).grows hg
  | _ => exact (hold hlearned).grows hg

theorem learn_owned {id : Nat} {fate : Fate} {r : Redemption}
    {k : Knowledge} {call : RedeemCall} (hallowed : k.Allowed platform r.request call)
    (hold : k.owned = true → HoldoverOwned platform world id r.request)
    (hlearned : (k.learn call (world.answer id fate call).1).owned = true) :
    HoldoverOwned platform (world.answer id fate call).2 id r.request := by
  have hg := (answer_grows world id fate call).2
  cases call with
  | ensureHoldover input sourceCreatedAtMs =>
    obtain ⟨payload, hp, hinput⟩ := hallowed
    simp only [RedeemWorld.answer] at hlearned hg ⊢
    have hanswer : ∀ status, fate.holdover = .ok status →
        status = .completed ∨ status = .owned →
        HoldoverOwned platform { world with
          ensured := world.ensured ++ [⟨id, input, fate.holdover⟩] } id r.request := by
      intro status hfate hs
      refine ⟨⟨id, input, fate.holdover⟩, by simp, rfl, ?_, payload, hp, hinput⟩
      rcases hs with rfl | rfl
      · exact Or.inl hfate
      · exact Or.inr hfate
    cases hfate : fate.holdover with
    | error _ =>
      rw [hfate] at hlearned hg
      exact (hold hlearned).grows hg
    | ok status =>
      cases status with
      | completed => exact hfate ▸ hanswer _ hfate (Or.inl rfl)
      | owned => exact hfate ▸ hanswer _ hfate (Or.inr rfl)
      | poisoned =>
        rw [hfate] at hlearned hg
        exact (hold hlearned).grows hg
      | suppressed =>
        rw [hfate] at hlearned hg
        exact (hold hlearned).grows hg
  | claim input =>
    rw [Knowledge.learn_claim_owned] at hlearned
    exact (hold hlearned).grows hg
  | ingest exposure =>
    rw [Knowledge.learn_ingest_owned] at hlearned
    exact (hold hlearned).grows hg
  | _ => exact (hold hlearned).grows hg

/-- A redemption that goes on keeps its request. -/
theorem setRedemption_grows {r r' : Redemption} {id : Nat} (hreq : r'.request = r.request)
    (hr : world.redemptions id = some r) : Grows world (world.setRedemption id r') := by
  refine ⟨fun _ h => h, fun _ h => h, fun id' r'' hr'' => ?_⟩
  by_cases hid : id' = id
  · subst hid
    rw [hr] at hr''
    cases hr''
    exact ⟨r', world.setRedemption_self id' r', hreq⟩
  · exact ⟨r'', by rw [world.setRedemption_of_ne r' hid, hr''], rfl⟩

theorem advance_grows (world : RedeemWorld) (id : Nat) (fate : Fate) :
    Grows world (world.advance id fate) := by
  rcases world.advance_cases id fate with he | ⟨r, call, next, hr, -, he⟩
  · rw [he]
    exact Grows.refl world
  · obtain ⟨hsame, hg⟩ := answer_grows world id fate call
    rw [he]
    exact hg.trans (setRedemption_grows (r := r) rfl ((congrFun hsame id).trans hr))

theorem submit_grows (world : RedeemWorld) (id : Nat) (request : RedemptionRequest) :
    Grows world (world.submit platform id request) := by
  unfold RedeemWorld.submit
  cases hr : world.redemptions id with
  | some r => exact Grows.refl world
  | none =>
    refine ⟨fun _ h => h, fun _ h => h, fun id' r' hr' => ⟨r', ?_, rfl⟩⟩
    have hid : id' ≠ id := by
      rintro rfl
      rw [hr] at hr'
      cases hr'
    rw [world.setRedemption_of_ne _ hid, hr']

theorem deliver_grows (world : RedeemWorld) (index : Nat) (nowMs : Int) :
    (world.deliver index nowMs).redemptions = world.redemptions ∧
      (world.deliver index nowMs).ingested = world.ingested ∧
      Grows world (world.deliver index nowMs) := by
  unfold RedeemWorld.deliver
  cases world.late[index]? <;>
    exact ⟨rfl, rfl, fun _ h => h, fun _ h => h, fun _ r h => ⟨r, h, rfl⟩⟩

/-- **The logs of the pool only grow.** -/
theorem step_grows (world : RedeemWorld) (event : RedeemEvent) :
    Grows world (world.step platform event) := by
  cases event with
  | submit id request => exact submit_grows world id request
  | advance id fate => exact advance_grows world id fate
  | deliver index nowMs => exact (deliver_grows world index nowMs).2.2
  | sweep name nowMs => exact ⟨fun _ h => h, fun _ h => h, fun _ r h => ⟨r, h, rfl⟩⟩

theorem exec_grows (world : RedeemWorld) (es : List RedeemEvent) :
    Grows world ((redeemPool platform).exec world es) :=
  Machine.exec_invariant _ (fun world' event h => h.trans (step_grows world' event))
    (Grows.refl world) es

/-- A redemption of the pool is one that was submitted. -/
theorem submitted_of_redemptions {platform : RedeemPlatform} {es : List RedeemEvent} {id : Nat}
    {r : Redemption} (h : ((redeemPool platform).run es).redemptions id = some r) :
    RedeemEvent.submit id r.request ∈ es := by
  induction es using List.reverseRecOn generalizing r with
  | nil => cases h
  | append_singleton es event ih =>
    rw [Machine.run_concat] at h
    refine List.mem_append.mpr ?_
    cases event with
    | submit id' request =>
      change (RedeemWorld.submit platform _ id' request).redemptions id = some r at h
      rw [RedeemWorld.submit] at h
      split at h
      · exact .inl (ih h)
      · by_cases hid : id = id'
        · subst hid
          rw [RedeemWorld.setRedemption_self] at h
          cases h
          exact .inr (List.mem_singleton_self _)
        · rw [RedeemWorld.setRedemption_of_ne _ _ hid] at h
          exact .inl (ih h)
    | advance id' fate =>
      change (RedeemWorld.advance _ id' fate).redemptions id = some r at h
      rcases RedeemWorld.advance_cases ((redeemPool platform).run es) id' fate with
        he | ⟨r', call, next, hr', -, he⟩ <;> rw [he] at h
      · exact .inl (ih h)
      · by_cases hid : id = id'
        · subst hid
          rw [RedeemWorld.setRedemption_self] at h
          cases h
          have hsubmitted := ih hr'
          exact .inl hsubmitted
        · rw [RedeemWorld.setRedemption_of_ne _ _ hid, (answer_grows _ id' fate call).1] at h
          exact .inl (ih h)
    | deliver index nowMs =>
      refine .inl (ih ?_)
      rwa [← (deliver_grows _ index nowMs).1]
    | sweep name nowMs => exact .inl (ih h)

/-! ## 4. Every step keeps the pool backed -/

theorem Backed.advance (h : Backed platform world) (id : Nat) (fate : Fate) :
    Backed platform (world.advance id fate) := by
  have hgrows := advance_grows world id fate
  rcases world.advance_cases id fate with he | ⟨r, call, next, hr, hprog, he⟩
  · rw [he]
    exact h
  · obtain ⟨k, hf, ha, ho⟩ := h.informed id r hr
    rw [hprog] at hf
    obtain ⟨hallowed, hnext⟩ := hf.step (world.answer id fate call).1
    have hsame := (answer_grows world id fate call).1
    rw [he] at hgrows ⊢
    have hmove : Grows (world.answer id fate call).2
        ((world.answer id fate call).2.setRedemption id
          ⟨r.request, next (world.answer id fate call).1⟩) :=
      setRedemption_grows (r := r) rfl ((congrFun hsame id).trans hr)
    refine ⟨?_, fun id' r' hr' => ?_, fun write hw => ?_⟩
    · have hseal : ∀ input, call = .markSealed input →
          Appended platform world input.ticketFingerprint := by
        rintro input rfl
        have hinput : input = claimInputOf platform r.request := hallowed.1
        rw [hinput]
        exact ha hallowed.2
      have hmono := (h.stores.answer id fate call hseal).mono fun F hF => hF.grows hgrows
      exact ⟨hmono.rows, hmono.late⟩
    · by_cases hid : id' = id
      · subst hid
        rw [RedeemWorld.setRedemption_self] at hr'
        cases hr'
        exact ⟨_, hnext, fun hl => (learn_appended h hr hallowed ha hl).grows hmove,
          fun hl => (learn_owned hallowed ho hl).grows hmove⟩
      · rw [RedeemWorld.setRedemption_of_ne _ _ hid, hsame] at hr'
        exact (h.informed id' r' hr').grows hgrows
    · rcases answer_ingested hw with hold | ⟨rfl, exposure, rfl⟩
      · exact (h.authentic write hold).grows hgrows
      · obtain ⟨_, payload, hp⟩ := hallowed
        exact ⟨_, payload, RedeemWorld.setRedemption_self _ _ _, hp⟩

theorem Backed.submit (h : Backed platform world) (id : Nat) (request : RedemptionRequest) :
    Backed platform (world.submit platform id request) := by
  have hg : Grows world (world.submit platform id request) := submit_grows world id request
  unfold RedeemWorld.submit at hg ⊢
  cases hr : world.redemptions id with
  | some r => exact h
  | none =>
    rw [hr] at hg
    have hmono := h.stores.mono fun F hF => hF.grows hg
    refine ⟨⟨hmono.rows, hmono.late⟩, fun id' r' hr' => ?_,
      fun write hw => (h.authentic write hw).grows hg⟩
    by_cases hid : id' = id
    · subst hid
      rw [world.setRedemption_self] at hr'
      cases hr'
      exact ⟨Knowledge.start, redeemOne_follows, fun hk => by simp [Knowledge.start] at hk,
        fun hk => by simp [Knowledge.start] at hk⟩
    · rw [world.setRedemption_of_ne _ hid] at hr'
      exact (h.informed id' r' hr').grows hg

/-- **Every step keeps the pool backed.** -/
theorem Backed.step (h : Backed platform world) (event : RedeemEvent) :
    Backed platform (world.step platform event) := by
  cases event with
  | submit id request => exact h.submit id request
  | advance id fate => exact h.advance id fate
  | deliver index nowMs =>
    have hstores := h.stores.deliver index nowMs
    obtain ⟨hsame, hingested, hg⟩ := deliver_grows world index nowMs
    refine ⟨hstores.mono fun F hF => hF.grows hg, fun id r hr => ?_, fun write hw => ?_⟩
    · exact (h.informed id r (hsame ▸ hr)).grows hg
    · exact (h.authentic write (hingested ▸ hw)).grows hg
  | sweep name nowMs => exact ⟨h.stores.sweep name nowMs, h.informed, h.authentic⟩

end Steps

theorem redeemPool_backed (platform : RedeemPlatform) (es : List RedeemEvent) :
    Backed platform ((redeemPool platform).run es) := by
  refine Machine.exec_invariant _ (fun world event h => h.step event) ?_ es
  refine ⟨⟨fun name F hF => ?_, fun call hc => by simp [redeemPool, RedeemWorld.empty] at hc⟩,
    fun id r hr => by simp [redeemPool, RedeemWorld.empty] at hr,
    fun write hw => by simp [redeemPool, RedeemWorld.empty] at hw⟩
  rcases hF with ⟨t, ht, _⟩ | ⟨E, e, he, _⟩
  · simp [redeemPool, RedeemWorld.empty, ClaimStorage.empty, ClaimStorage.rows,
      ClaimStorage.ticketRow] at ht
  · simp [redeemPool, RedeemWorld.empty, ClaimStorage.empty, ClaimStorage.rows,
      ClaimStorage.exposureRow] at he

end Splitch
