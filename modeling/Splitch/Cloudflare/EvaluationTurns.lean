/-
# What a call of the runtime does to its tables

Calls of the Worker runtime read, await and write, and between two awaits other calls and alarms run.  What
holds of the tables in every run must therefore be shown of one TURN of a call, from an await to the next
one, on tables that may have changed since the call has read them.

`RpcMove` lists what one turn may do to Assignments, claims and Exposures, and to what has been answered:
nothing, the replay of a claim, or a commit.  A commit is the interesting one.  It was decided on what the
call had read before, and is made on what is there now; it says which rows it adds and what it leaves, and
what its answer was.

An Exposure is decided only for an Entity for which no Assignment was read (`evaluatePath_exposure`), and it
is written with the Assignment, where there is none by then, in one transaction (`writeExposure_ok`).

Every turn of a call is one of the moves (`stepRpc_move`), by one lemma for each stage.  What follows from
the moves over whole runs is the matter of `StickyExposures` and `SnapshotVersions`.
-/
import Splitch.Library.Checks
import Splitch.Cloudflare.SplitchState

namespace Splitch

namespace Cloudflare

open SplitchWorld SplitchStorage Checks

/-! ## 1. An Exposure is decided only for an Entity without Assignment -/

section

variable {core : EvaluationCore} {input : EvaluatePathInput} {flag : FlagConfig}

/-- Without a Run there is no Exposure; with one it is of this Experiment. -/
theorem evaluateTargetingRule_exposure {experimentId : Option String} {run : Option RunConfig}
    {rule : ResolvedTargetingRule} {result : EvaluateResult} {exposure : ExposureDecision}
    (h : evaluateTargetingRule core input flag experimentId run rule = .ok (some result))
    (hexposure : result.exposure = some exposure) :
    run.isSome ∧ experimentId = some exposure.experimentId := by
  obtain ⟨matches_, _, h⟩ := bind_eq_ok.mp h
  cases matches_ with
  | false => cases h
  | true =>
    obtain ⟨directVariant, _, h⟩ := bind_eq_ok.mp h
    cases h
    cases experimentId with
    | none => cases hexposure
    | some experimentId =>
      cases run with
      | none => cases hexposure
      | some run => cases hexposure; exact ⟨rfl, rfl⟩

theorem firstMatch_exposure {experimentId : Option String} {run : Option RunConfig}
    {rules : List ResolvedTargetingRule} {result : EvaluateResult} {exposure : ExposureDecision}
    (h : firstMatch core input flag experimentId run rules = .ok (some result))
    (hexposure : result.exposure = some exposure) :
    run.isSome ∧ experimentId = some exposure.experimentId := by
  induction rules with
  | nil => cases h
  | cons rule rules ih =>
    obtain ⟨matched, hmatched, h⟩ := bind_eq_ok.mp h
    cases matched with
    | none => exact ih h
    | some matched =>
      cases h
      exact evaluateTargetingRule_exposure hmatched hexposure

theorem evaluateFlagOnly_exposure {experimentId : Option String} {result : EvaluateResult}
    (h : evaluateFlagOnly core input flag experimentId = .ok result) : result.exposure = none := by
  obtain ⟨matched, hmatched, h⟩ := bind_eq_ok.mp h
  cases matched with
  | some matched =>
    cases h
    cases hexposure : result.exposure with
    | none => rfl
    | some exposure => exact absurd (firstMatch_exposure hmatched hexposure).1 (by simp)
  | none =>
    change unmatchedResult core input flag = .ok result at h
    unfold unmatchedResult at h
    split at h
    · cases h
      rfl
    · dsimp only at h
      split at h
      · cases h
        rfl
      · cases h

theorem evaluateLiveRun_exposure {experimentId : String} {run : RunConfig}
    {result : EvaluateResult} {exposure : ExposureDecision}
    (h : evaluateLiveRun core input flag experimentId run = .ok result)
    (hexposure : result.exposure = some exposure) : exposure.experimentId = experimentId := by
  unfold evaluateLiveRun at h
  split at h
  · cases h
    cases hexposure
    rfl
  · obtain ⟨matched, hmatched, h⟩ := bind_eq_ok.mp h
    cases matched with
    | some matched =>
      cases h
      exact (Option.some.inj (firstMatch_exposure hmatched hexposure).2).symm
    | none =>
      cases h
      cases hexposure
      rfl

/-- **An evaluation exposes only what is not held.** -/
theorem evaluatePath_exposure {provider : Provider} {held : String → Option AssignmentEntry}
    {exposure : ExposureDecision}
    (hexposure : (evaluatePath core input provider held).exposure = some exposure) :
    held exposure.experimentId = none := by
  unfold evaluatePath at hexposure
  dsimp only at hexposure
  split at hexposure
  · rename_i result hresult
    obtain ⟨flag, _, hresult⟩ := bind_eq_ok.mp hresult
    split at hresult
    · cases hresult
      cases hexposure
    · unfold evaluateEnabledFlag at hresult
      split at hresult
      · rw [evaluateFlagOnly_exposure hresult] at hexposure
        cases hexposure
      · rename_i experimentId _
        obtain ⟨experiment, _, hresult⟩ := bind_eq_ok.mp hresult
        split at hresult
        · cases hresult
        · split at hresult
          · cases hresult
            cases hexposure
          · rename_i hnone
            split at hresult
            · rw [evaluateFlagOnly_exposure hresult] at hexposure
              cases hexposure
            · rw [evaluateLiveRun_exposure hresult hexposure]
              exact hnone
  · cases hexposure

end

/-! ## 2. Tables -/

namespace SplitchStorage

variable (storage : SplitchStorage)

/-- Assignments, claims and Exposures, of which configuration and alarm keep all. -/
def tables : (String → String → String → Option AssignmentEntry) × List EvaluationClaim ×
    List ExposureRow :=
  (storage.assignments, storage.evaluationClaims, storage.exposureOutbox)

@[simp] theorem tables_recordPushClaim (deliveryId : String) (version : Nat) (now : Int) :
    (storage.recordPushClaim deliveryId version now).tables = storage.tables := by
  unfold recordPushClaim
  split <;> rfl

@[simp] theorem tables_ensureAlarm (now : Int) :
    (storage.ensureAlarm now).tables = storage.tables := by
  unfold ensureAlarm
  split <;> rfl

theorem claim_eq_none {idempotencyKey : String} :
    storage.claim idempotencyKey = none ↔
      ∀ claim ∈ storage.evaluationClaims, claim.idempotencyKey ≠ idempotencyKey := by
  simp [claim]

end SplitchStorage

theorem tables_applyTransaction (env : SplitchEnv) (snapshot : ConfigSnapshot)
    (payload deliveryId identityKey : String) (now : Int) (storage : SplitchStorage) :
    (applyTransaction env snapshot payload deliveryId identityKey now storage).2.tables =
      storage.tables := by
  unfold applyTransaction
  split
  · exact tables_recordPushClaim ..
  · split
    · rfl
    · split
      · exact tables_recordPushClaim ..
      · exact tables_recordPushClaim ..

/-- What is written with an Exposure: the Assignment, where there is none, and one row. -/
theorem writeExposure_ok {env : SplitchEnv} {call : EvaluationCall} {input : CommitInput}
    {now : Int} {storage written : SplitchStorage}
    (h : writeExposure env call input now storage = .ok written) :
    (input.result.exposure = none ∧ written = storage) ∨
      ∃ exposure row, input.result.exposure = some exposure ∧
        row.idempotencyKey = call.request.idempotencyKey ∧
        row.idType = call.request.context.idType ∧
        row.targetingKeyHash = input.targetingKeyHash ∧ row.exposureId = input.exposureId ∧
        row.experimentId = exposure.experimentId ∧ row.runId = exposure.liveRunId ∧
        row.variantName = exposure.variant ∧
        (∀ other ∈ storage.exposureOutbox, other.exposureId ≠ row.exposureId) ∧
        written.assignments = (keepAssignment storage exposure.experimentId
          call.request.context.idType input.targetingKeyHash
          { runId := exposure.liveRunId, variant := exposure.variant }).assignments ∧
        written.evaluationClaims = storage.evaluationClaims ∧
        written.exposureOutbox = storage.exposureOutbox ++ [row] := by
  unfold writeExposure at h
  split at h
  · cases h
    exact .inl ⟨‹_›, rfl⟩
  · rename_i exposure hexposure
    split at h
    · cases h
    · rename_i run hrun
      split at h
      · cases h
      · rename_i hunique
        cases h
        let kept := keepAssignment storage exposure.experimentId call.request.context.idType
          input.targetingKeyHash { runId := exposure.liveRunId, variant := exposure.variant }
        have hkept : kept.evaluationClaims = storage.evaluationClaims ∧
            kept.exposureOutbox = storage.exposureOutbox := by
          unfold kept keepAssignment
          split <;> exact ⟨rfl, rfl⟩
        refine .inr ⟨exposure, exposureRowOf env call input exposure run kept.inserted now,
          hexposure, rfl, rfl, rfl, rfl, rfl, rfl, rfl,
          fun other hother heq => hunique ⟨other, hother, heq⟩, rfl, hkept.1, ?_⟩
        exact congrArg (· ++ _) hkept.2

/-! ## 3. Turns -/

def fingerprintOf (env : SplitchEnv) (request : EvaluationRequest) : String :=
  env.sha256Hex (env.canonicalJson request.flagKey request.context request.defaultValue)

/-- A call carries the fingerprint of its request; what it is about to expose, it did not find
held. -/
structure Consistent (env : SplitchEnv) (call : EvaluationCall) : Prop where
  hashing : ∀ fingerprint, call.stage = .hashing fingerprint →
    fingerprint = fingerprintOf env call.request
  committing : ∀ input, call.stage = .committing input →
    input.fingerprint = fingerprintOf env call.request
  unheld : ∀ input, call.stage = .committing input →
    ∀ exposure, input.result.exposure = some exposure → input.held exposure.experimentId = none

def CallsConsistent (env : SplitchEnv) (world : SplitchWorld) : Prop :=
  ∀ id call, world.calls id = some call → Consistent env call

variable {env : SplitchEnv} {world after : SplitchWorld}

theorem consistent_of_eq (h : after.calls = world.calls) :
    CallsConsistent env world → CallsConsistent env after :=
  fun hcalls id call hcall => hcalls id call (h ▸ hcall)

theorem consistent_of_update {id : Nat} {next : Option EvaluationCall}
    (h : after.calls = Function.update world.calls id next)
    (hnext : CallsConsistent env world → ∀ call ∈ next, Consistent env call) :
    CallsConsistent env world → CallsConsistent env after := by
  intro hcalls other call hcall
  rw [h] at hcall
  by_cases hother : other = id
  · rw [hother, Function.update_self] at hcall
    exact hnext hcalls call hcall
  · rw [Function.update_of_ne hother] at hcall
    exact hcalls other call hcall

/-- What one turn of a call may do to tables, log and calls. -/
inductive RpcMove (env : SplitchEnv) (world after : SplitchWorld) (event : RpcEvent) : Prop
  | quiet (tables : after.storage.tables = world.storage.tables) (log : after.log = world.log)
      (calls : CallsConsistent env world → CallsConsistent env after)
  | replayed (request : EvaluationRequest) (claim : EvaluationClaim)
      (found : world.storage.claim request.idempotencyKey = some claim)
      (fingerprint : CallsConsistent env world → claim.fingerprint = fingerprintOf env request)
      (tables : after.storage.tables = world.storage.tables)
      (log : after.log = world.log ++ [.answered request claim.result])
      (calls : CallsConsistent env world → CallsConsistent env after)
  | committed (id : Nat) (now : Int) (call : EvaluationCall) (input : CommitInput)
      (written : SplitchStorage) (resumed : event = .resume id now)
      (running : world.calls id = some call) (stage : call.stage = .committing input)
      (free : world.storage.claim call.request.idempotencyKey = none)
      (writes : writeExposure env call input now world.storage = .ok written)
      (tables : after.storage.tables = (written.insertClaim
        { idempotencyKey := call.request.idempotencyKey
          fingerprint := input.fingerprint
          result := input.details
          createdAt := now }).tables)
      (log : after.log = world.log ++
        [.committed call input.details, .answered call.request input.details])
      (calls : CallsConsistent env world → CallsConsistent env after)

theorem applySnapshot_rpc {event : RpcEvent} (payload deliveryId identityKey : String)
    (now : Int) :
    RpcMove env world (world.applySnapshot env payload deliveryId identityKey now).2 event := by
  unfold applySnapshot
  split
  · exact .quiet rfl rfl (consistent_of_eq rfl)
  · rename_i snapshot _
    refine .quiet ?_ rfl (consistent_of_eq rfl)
    exact (tables_ensureAlarm ..).trans (tables_applyTransaction ..)

theorem announceSnapshot_rpc {event : RpcEvent} (appId environmentId : String)
    (environmentVersion : Nat) :
    RpcMove env world (world.announceSnapshot appId environmentId environmentVersion).2 event := by
  unfold announceSnapshot
  split
  · exact .quiet rfl rfl (consistent_of_eq rfl)
  · split
    · exact .quiet rfl rfl (consistent_of_eq rfl)
    · exact .quiet rfl rfl (consistent_of_eq rfl)

theorem evaluateDetails_rpc {event : RpcEvent} (id : Nat) (flagKey : String)
    (context : CloudflareEvaluationContext) :
    RpcMove env world (world.evaluateDetails env id flagKey context).2 event := by
  unfold evaluateDetails
  split
  · exact .quiet rfl rfl (consistent_of_eq rfl)
  · split
    · exact .quiet rfl rfl (consistent_of_eq rfl)
    · split
      · exact .quiet rfl rfl (consistent_of_eq rfl)
      · exact .quiet rfl rfl (consistent_of_eq rfl)
      · refine .quiet rfl rfl (consistent_of_update rfl ?_)
        rintro - call ⟨⟩
        exact ⟨nofun, nofun, nofun⟩

theorem resume_rpc (id : Nat) (now : Int) :
    RpcMove env world (world.resume env id now).2 (.resume id now) := by
  have hended : CallsConsistent env world →
      ∀ call : EvaluationCall, call ∈ (none : Option EvaluationCall) → Consistent env call :=
    fun _ call hcall => by cases hcall
  unfold resume
  split
  · exact .quiet rfl rfl (consistent_of_eq rfl)
  · rename_i call hcall
    split
    · unfold fingerprinted
      dsimp only
      split
      · rename_i prior hprior
        split
        · exact .quiet rfl rfl (consistent_of_update rfl hended)
        · rename_i replayed hreplayed
          obtain ⟨hsame, hresult⟩ := ite_error_eq_ok.mp hreplayed
          cases hresult
          exact .replayed call.request prior hprior (fun _ => not_not.mp hsame)
            (tables_ensureAlarm ..) rfl (consistent_of_update rfl hended)
      · split
        · exact .quiet rfl rfl (consistent_of_update rfl hended)
        · refine .quiet rfl rfl (consistent_of_update rfl ?_)
          rintro - call ⟨⟩
          refine ⟨?_, nofun, nofun⟩
          rintro fingerprint ⟨⟩
          rfl
    · rename_i fingerprint hstage
      refine .quiet rfl rfl (consistent_of_update rfl ?_)
      rintro hcalls next ⟨⟩
      refine ⟨nofun, ?_, ?_⟩
      · rintro input ⟨⟩
        exact (hcalls id call hcall).hashing fingerprint hstage
      · rintro input ⟨⟩ exposure hexposure
        exact evaluatePath_exposure hexposure
    · rename_i input hstage
      unfold commitEvaluation
      dsimp only
      split
      · rename_i existing hexisting
        split
        · exact .quiet rfl rfl (consistent_of_update rfl hended)
        · rename_i replayed hreplayed
          obtain ⟨hsame, hresult⟩ := ite_error_eq_ok.mp hreplayed
          cases hresult
          refine .replayed call.request existing hexisting (fun hcalls => ?_)
            (tables_ensureAlarm ..) rfl (consistent_of_update rfl hended)
          exact (not_not.mp hsame).trans ((hcalls id call hcall).committing input hstage)
      · rename_i hfree
        split
        · exact .quiet rfl rfl (consistent_of_update rfl hended)
        · rename_i written hwritten
          refine .committed id now call input written rfl hcall hstage hfree hwritten
            (tables_ensureAlarm ..) ?_ (consistent_of_update rfl hended)
          simp [note, setCall]

/-- **Every turn of a call is one of the moves.** -/
theorem stepRpc_move (event : RpcEvent) :
    RpcMove env world ((splitchState env).next world (.rpc event)) event := by
  cases event with
  | applySnapshot payload deliveryId identityKey now => exact applySnapshot_rpc ..
  | announceSnapshot appId environmentId version => exact announceSnapshot_rpc ..
  | resume id now => exact resume_rpc id now
  | evaluateDetails id flagKey context =>
    change RpcMove env world (if (world.calls id).isSome then (none, world)
      else world.evaluateDetails env id flagKey context).2 _
    split
    · exact .quiet rfl rfl (consistent_of_eq rfl)
    · exact evaluateDetails_rpc id flagKey context

end Cloudflare

end Splitch
