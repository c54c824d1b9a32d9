/-
# Concurrent redemptions

Any number of redemptions run at once, each a `redeemOne` with one call outstanding.  They share
the claim objects, one for each App and Environment, the ingest sink and the holdover
coordinator.  A step of the pool answers one outstanding call; what the call meets there (a
clock, a fault, a result) is the step's `Fate`.

A claim-store call that throws may have been lost on its way, or applied with only the reply
lost, or it may still be on its way when the caller has long gone on: then it is applied later,
by a step of its own.
-/
import Splitch.Redemption.ClaimSweep
import Splitch.Redemption.Redeem

namespace Splitch

/-! ## 1. Fates -/

/-- What becomes of a claim-store call. -/
inductive RpcFate
  | replied
  /-- It never reaches the object. -/
  | refused (cause : ClaimStoreFault)
  /-- It is applied, and the caller is told it failed. -/
  | lostReply (cause : ClaimStoreFault)
  /-- The caller is told it failed while it is still on its way. -/
  | delayed (cause : ClaimStoreFault)
  deriving DecidableEq, Repr

inductive IngestFate
  | succeeded
  /-- The sink throws, before or after the write was committed. -/
  | threw (committed : Bool) (cause : IngestFault)
  deriving DecidableEq, Repr

/-- What the outstanding call of a redemption meets. -/
structure Fate where
  /-- The clock where the call is served. -/
  nowMs : Int
  admissionCurrent : Bool
  rpc : RpcFate
  sourceId : Except Unit String
  ingest : IngestFate
  holdover : Except Unit HoldoverWriteStatus

/-! ## 2. The world -/

structure Redemption where
  request : RedemptionRequest
  program : RedeemM (Option ExposureBatchResult)

/-- A claim-store call its caller has given up on. -/
structure LateCall where
  route : ClaimRoute
  input : RedemptionClaimContext
  deriving DecidableEq, Repr

/-- A write the ingest sink has committed. -/
structure IngestWrite where
  redemption : Nat
  exposure : AssembledExposure
  /-- The sink has told the redemption so. -/
  returned : Bool
  deriving DecidableEq, Repr

/-- An answer of the holdover coordinator. -/
structure HoldoverAnswer where
  redemption : Nat
  input : HashedAssignmentPutInput
  result : Except Unit HoldoverWriteStatus
  deriving DecidableEq

structure RedeemWorld where
  claims : String → ClaimStorage
  redemptions : Nat → Option Redemption
  late : List LateCall
  ingested : List IngestWrite
  ensured : List HoldoverAnswer

namespace RedeemWorld

def empty : RedeemWorld where
  claims _ := .empty
  redemptions _ := none
  late := []
  ingested := []
  ensured := []

/-- Both axes, so that Environments never share an object. -/
def exposureRedemptionClaimScopeName (appId environmentId : String) : String :=
  appId ++ "\u001f" ++ environmentId

/-- The claim object a call is addressed to. -/
def objectName (input : RedemptionClaimContext) : String :=
  exposureRedemptionClaimScopeName input.appId input.environmentId

/-- The claim object serves a call. -/
def serve (world : RedeemWorld) (route : ClaimRoute) (input : RedemptionClaimContext)
    (nowMs : Int) : ClaimResponse × RedeemWorld :=
  let served := claimStep (.request route ⟨input.exposureId, input.ticketFingerprint, nowMs⟩)
    (world.claims (objectName input))
  (served.1, { world with claims := Function.update world.claims (objectName input) served.2 })

/-- `DurableExposureRedemptionClaimStore.rpc`. -/
def rpc (world : RedeemWorld) (route : ClaimRoute) (input : RedemptionClaimContext)
    (fate : Fate) : Except ClaimStoreFault ClaimResponse × RedeemWorld :=
  match fate.rpc with
  | .replied =>
    let served := world.serve route input fate.nowMs
    (.ok served.1, served.2)
  | .refused cause => (.error cause, world)
  | .lostReply cause => (.error cause, (world.serve route input fate.nowMs).2)
  | .delayed cause => (.error cause, { world with late := world.late ++ [⟨route, input⟩] })

end RedeemWorld

/-! ## 3. Replies

A 409 of the object is an HTTP fault; a reply of the wrong shape is a protocol fault. -/

def parseClaimOutcome : ClaimResponse → Except ClaimStoreFault ExposureRedemptionClaimOutcome
  | .claim outcome => .ok outcome
  | _ => .error .protocol

def parseOk : ClaimResponse → Except ClaimStoreFault Unit
  | .release => .ok ()
  | .markSealed (.ok _) => .ok ()
  | .markSealed (.error _) => .error (.http 409)
  | _ => .error .protocol

def parseAcknowledgeOutcome :
    ClaimResponse → Except ClaimStoreFault ExposureRedemptionAcknowledgeOutcome
  | .acknowledge (.ok outcome) => .ok outcome
  | .acknowledge (.error _) => .error (.http 409)
  | _ => .error .protocol

/-- The world answers a call of the redemption `id`. -/
def RedeemWorld.answer (world : RedeemWorld) (id : Nat) (fate : Fate) :
    (call : RedeemCall) → call.Reply × RedeemWorld
  | .now => (fate.nowMs, world)
  | .admissionCurrent => (fate.admissionCurrent, world)
  | .claim input =>
    ((world.rpc .claim input fate).1 >>= parseClaimOutcome, (world.rpc .claim input fate).2)
  | .release input =>
    ((world.rpc .release input fate).1 >>= parseOk, (world.rpc .release input fate).2)
  | .markSealed input =>
    ((world.rpc .markSealed input fate).1 >>= parseOk, (world.rpc .markSealed input fate).2)
  | .acknowledge input =>
    ((world.rpc .acknowledge input fate).1 >>= parseAcknowledgeOutcome,
      (world.rpc .acknowledge input fate).2)
  | .sourceId => (fate.sourceId, world)
  | .ingest exposure =>
    match fate.ingest with
    | .succeeded =>
      (.ok (), { world with ingested := world.ingested ++ [⟨id, exposure, true⟩] })
    | .threw true cause =>
      (.error cause, { world with ingested := world.ingested ++ [⟨id, exposure, false⟩] })
    | .threw false cause => (.error cause, world)
  | .ensureHoldover input _ =>
    (fate.holdover, { world with ensured := world.ensured ++ [⟨id, input, fate.holdover⟩] })

/-! ## 4. The pool as a machine -/

inductive RedeemEvent
  /-- A batch item arrives; `id` names its redemption. -/
  | submit (id : Nat) (request : RedemptionRequest)
  /-- The outstanding call of a redemption is answered. -/
  | advance (id : Nat) (fate : Fate)
  /-- A late call reaches its claim object. -/
  | deliver (index : Nat) (nowMs : Int)
  /-- The alarm of a claim object fires. -/
  | sweep (name : String) (nowMs : Int)

/-- The clock an event shows, if it reads one. -/
def RedeemEvent.nowMs : RedeemEvent → Option Int
  | submit _ _ => none
  | advance _ fate => some fate.nowMs
  | deliver _ nowMs => some nowMs
  | sweep _ nowMs => some nowMs

namespace RedeemWorld

def setRedemption (world : RedeemWorld) (id : Nat) (redemption : Redemption) : RedeemWorld :=
  { world with redemptions := Function.update world.redemptions id (some redemption) }

def submit (platform : RedeemPlatform) (world : RedeemWorld) (id : Nat)
    (request : RedemptionRequest) : RedeemWorld :=
  match world.redemptions id with
  | some _ => world
  | none => world.setRedemption id ⟨request, redeemOne platform request⟩

def advance (world : RedeemWorld) (id : Nat) (fate : Fate) : RedeemWorld :=
  match world.redemptions id with
  | none => world
  | some redemption =>
    match redemption.program with
    | .done _ => world
    | .call call next =>
      let answered := world.answer id fate call
      answered.2.setRedemption id { redemption with program := next answered.1 }

def deliver (world : RedeemWorld) (index : Nat) (nowMs : Int) : RedeemWorld :=
  match world.late[index]? with
  | none => world
  | some late =>
    { (world.serve late.route late.input nowMs).2 with late := world.late.eraseIdx index }

def sweep (world : RedeemWorld) (name : String) (nowMs : Int) : RedeemWorld :=
  { world with
    claims := Function.update world.claims name
      (claimStep (.alarm nowMs) (world.claims name)).2 }

def step (platform : RedeemPlatform) (world : RedeemWorld) : RedeemEvent → RedeemWorld
  | .submit id request => world.submit platform id request
  | .advance id fate => world.advance id fate
  | .deliver index nowMs => world.deliver index nowMs
  | .sweep name nowMs => world.sweep name nowMs

end RedeemWorld

def redeemPool (platform : RedeemPlatform) : Machine RedeemWorld RedeemEvent Unit where
  init := .empty
  step world event := ((), world.step platform event)

/-! ## 5. What one call changes -/

namespace RedeemWorld

@[simp] theorem serve_redemptions (world : RedeemWorld) (route : ClaimRoute)
    (input : RedemptionClaimContext) (nowMs : Int) :
    (world.serve route input nowMs).2.redemptions = world.redemptions := rfl

@[simp] theorem serve_late (world : RedeemWorld) (route : ClaimRoute)
    (input : RedemptionClaimContext) (nowMs : Int) :
    (world.serve route input nowMs).2.late = world.late := rfl

@[simp] theorem serve_ingested (world : RedeemWorld) (route : ClaimRoute)
    (input : RedemptionClaimContext) (nowMs : Int) :
    (world.serve route input nowMs).2.ingested = world.ingested := rfl

@[simp] theorem serve_ensured (world : RedeemWorld) (route : ClaimRoute)
    (input : RedemptionClaimContext) (nowMs : Int) :
    (world.serve route input nowMs).2.ensured = world.ensured := rfl

theorem setRedemption_self (world : RedeemWorld) (id : Nat) (r : Redemption) :
    (world.setRedemption id r).redemptions id = some r := Function.update_self ..

theorem setRedemption_of_ne (world : RedeemWorld) {id id' : Nat} (r : Redemption)
    (h : id' ≠ id) : (world.setRedemption id r).redemptions id' = world.redemptions id' :=
  Function.update_of_ne h ..

/-- A redemption without an outstanding call does not move; one with a call goes on by its
answer. -/
theorem advance_cases (world : RedeemWorld) (id : Nat) (fate : Fate) :
    world.advance id fate = world ∨
      ∃ r call next, world.redemptions id = some r ∧ r.program = .call call next ∧
        world.advance id fate = (world.answer id fate call).2.setRedemption id
          ⟨r.request, next (world.answer id fate call).1⟩ := by
  unfold advance
  cases hr : world.redemptions id with
  | none => exact Or.inl rfl
  | some r =>
    obtain ⟨request, program⟩ := r
    cases program with
    | done result => exact Or.inl rfl
    | call call next => exact Or.inr ⟨_, call, next, rfl, rfl, rfl⟩

/-- The ways a claim-store call can go. -/
theorem rpc_cases (world : RedeemWorld) (route : ClaimRoute) (input : RedemptionClaimContext)
    (fate : Fate) :
    (world.rpc route input fate = (.ok (world.serve route input fate.nowMs).1,
        (world.serve route input fate.nowMs).2)) ∨
      (∃ cause, world.rpc route input fate
        = (.error cause, (world.serve route input fate.nowMs).2)) ∨
      (∃ cause, world.rpc route input fate = (.error cause, world)) ∨
      ∃ cause, world.rpc route input fate
        = (.error cause, { world with late := world.late ++ [⟨route, input⟩] }) := by
  unfold rpc
  cases fate.rpc with
  | replied => exact Or.inl rfl
  | lostReply cause => exact Or.inr (Or.inl ⟨cause, rfl⟩)
  | refused cause => exact Or.inr (Or.inr (Or.inl ⟨cause, rfl⟩))
  | delayed cause => exact Or.inr (Or.inr (Or.inr ⟨cause, rfl⟩))

end RedeemWorld

end Splitch
