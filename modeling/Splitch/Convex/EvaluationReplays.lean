/-
# Evaluations and their replays

What an evaluation writes: its claim, and the Exposure of its result where the snapshot is not
behind.  Everything else that it does is scheduling, which leaves the tables of evaluations alone, as do all
events that are no evaluations; each of these has a lemma that says so, by a view on the tables
(`evaluateHandler_eq_ok`).

The claims are kept (`ClaimsOk`): there is one of a key at most, and a claim stays what it is until retention
removes it, which is no operation of the contract.  An evaluation that finds its own claim is answered from
it, whatever has become of the configuration since (`replay_of_claim`), and writes nothing.  While the
snapshot is behind, an evaluation still answers, but adds no Exposure (`exposures_of_step`).

With what holds of the synchronization this makes the contract of the component
(`configuration_sync`): versions, the `overdue` mark and its five seconds, replays, and Exposures.  The last
section shows a replay and the deadline on a run in which a version is announced and not stored.
-/
import Splitch.Convex.SyncGrace
import Splitch.Library.Sha256

namespace Splitch

namespace Convex

open ComponentTables Checks
open Cloudflare (ConfigSnapshot parseConfigSnapshot ResolutionDetails)

/-! ## 1. Rows that are unique -/

section

variable {α κ : Type}

theorem unique_eq_none {p : α → Bool} {rows : List α} (h : unique p rows = .ok none) :
    ∀ row ∈ rows, p row = false := by
  unfold unique at h
  split at h
  · rename_i hnone
    exact fun row hrow => by simpa using List.filter_eq_nil_iff.mp hnone row hrow
  · cases h
  · cases h

/-- Where the keys of the rows are new, there is one row of a key at most. -/
theorem unique_of_nodup {key : α → κ} {rows : List α} (h : (rows.map key).Nodup) {p : α → Bool}
    {k : κ} (hp : ∀ row, p row = true ↔ key row = k) : ∃ found, unique p rows = .ok found := by
  have hsame : (rows.filter p).length ≤ 1 := by
    have hnodup : ((rows.filter p).map key).Nodup := h.sublist (List.filter_sublist.map key)
    have hall : ∀ row ∈ rows.filter p, key row = k :=
      fun row hrow => (hp row).mp (List.mem_filter.mp hrow).2
    rw [List.map_congr_left hall, List.map_const', List.nodup_replicate] at hnodup
    exact hnodup
  unfold unique
  split
  · exact ⟨none, rfl⟩
  · exact ⟨_, rfl⟩
  · rename_i hnone hone
    match hrows : rows.filter p with
    | [] => exact absurd hrows hnone
    | [row] => exact absurd hrows (hone row)
    | first :: second :: rest =>
      rw [hrows] at hsame
      exact absurd hsame (by simp)

theorem unique_eq_some {key : α → κ} {rows : List α} (h : (rows.map key).Nodup) {p : α → Bool}
    {k : κ} (hp : ∀ row, p row = true ↔ key row = k) {row : α} (hrow : row ∈ rows)
    (hk : key row = k) : unique p rows = .ok (some row) := by
  obtain ⟨found, hfound⟩ := unique_of_nodup h hp
  cases found with
  | none => exact absurd ((hp row).mpr hk) (by rw [unique_eq_none hfound row hrow]; exact nofun)
  | some found =>
    have hlisted : found ∈ rows.filter p := by
      unfold unique at hfound
      split at hfound
      · cases hfound
      · rename_i hone
        cases hfound
        rw [hone]
        exact List.mem_cons_self
      · cases hfound
    obtain ⟨hmem, hpfound⟩ := List.mem_filter.mp hlisted
    rw [hfound, List.inj_on_of_nodup_map h hrow hmem (hk.trans ((hp found).mp hpfound).symm)]

end

def AssignmentRow.key (row : AssignmentRow) : String × String × String :=
  (row.idType, row.targetingKeyHash, row.experimentId)

theorem AssignmentRow.key_eq {row : AssignmentRow} {idType targetingKeyHash experimentId : String} :
    decide (row.idType = idType ∧ row.targetingKeyHash = targetingKeyHash ∧
      row.experimentId = experimentId) = true ↔ row.key = (idType, targetingKeyHash, experimentId) := by
  rw [decide_eq_true_iff]
  unfold AssignmentRow.key
  rw [Prod.mk.injEq, Prod.mk.injEq]

/-! ## 2. What an evaluation writes -/

namespace ComponentTables

/-- What evaluations write. -/
def evaluationView (db : ComponentTables) :
    List AssignmentRow × List EvaluationClaimRow × List ExposureRow × List MetricEventClaimRow ×
      List MetricEventRow :=
  (db.assignments, db.evaluationClaims, db.exposureOutbox, db.metricEventClaims,
    db.metricEventOutbox)

end ComponentTables

section

variable {env : ConvexEnv} {db after : ComponentTables} {now : Int}

theorem evaluationView_ensureRetentionScheduled
    (h : db.ensureRetentionScheduled now = .ok after) :
    after.evaluationView = db.evaluationView := by
  unfold ensureRetentionScheduled at h
  split at h
  · cases h
    rfl
  · split at h
    · cases h
      rfl
    · obtain ⟨due, -, h⟩ := bind_eq_ok.mp h
      cases due with
      | none => cases h; rfl
      | some dueAt => cases h; rfl

theorem evaluationView_ensureExposureDrainScheduled (dueAt : Int) :
    (db.ensureExposureDrainScheduled now dueAt).evaluationView = db.evaluationView := by
  unfold ensureExposureDrainScheduled
  split
  · rfl
  · split
    · rfl
    · dsimp only
      split
      · rfl
      · split
        · rfl
        · split <;> rfl

theorem evaluationView_scheduleSyncRecovery (integration : IntegrationRow) (delay : Int) :
    (db.scheduleSyncRecovery now integration delay).evaluationView = db.evaluationView := by
  unfold scheduleSyncRecovery
  dsimp only
  split
  · rfl
  · split
    · rfl
    · split <;> rfl

theorem evaluationView_scheduleSyncDeadline (integration : IntegrationRow) :
    (db.scheduleSyncDeadline now integration).evaluationView = db.evaluationView := by
  unfold scheduleSyncDeadline
  split <;> rfl

theorem evaluationView_ensureSyncBackstopScheduled :
    (db.ensureSyncBackstopScheduled now).evaluationView = db.evaluationView := by
  unfold ensureSyncBackstopScheduled
  split
  · rfl
  · split
    · rfl
    · split <;> rfl

theorem evaluationView_scheduleRecoveryAdoption (integration : IntegrationRow) :
    (db.scheduleRecoveryAdoption now integration).evaluationView = db.evaluationView := by
  unfold scheduleRecoveryAdoption
  split
  · rfl
  · split <;> rfl

theorem evaluationView_runScheduled (id : Nat) :
    (db.runScheduled now id).evaluationView = db.evaluationView := by
  unfold runScheduled
  split
  · rfl
  · split
    · rfl
    · split
      · unfold recoverSyncHandler
        split
        · rfl
        · split
          · rfl
          · split <;> rfl
      · unfold markSyncOverdueHandler
        split
        · rfl
        · split
          · rfl
          · split <;> rfl
      · rfl
      · rfl

theorem evaluationView_activate {appId environmentId : String} {environmentVersion : Nat}
    (h : db.activateHandler now appId environmentId environmentVersion = .ok after) :
    after.evaluationView = db.evaluationView := by
  obtain ⟨integration, -, h⟩ := bind_eq_ok.mp h
  obtain ⟨retained, hretained, h⟩ := bind_eq_ok.mp h
  cases h
  rw [evaluationView_scheduleRecoveryAdoption]
  refine (evaluationView_ensureRetentionScheduled hretained).trans ?_
  rw [evaluationView_ensureSyncBackstopScheduled, evaluationView_scheduleSyncDeadline, evaluationView_scheduleSyncRecovery]
  rfl

theorem evaluationView_announce {deliveryId appId environmentId : String}
    {environmentVersion : Nat} {answer : Announcement × ComponentTables}
    (h : db.announceHandler now deliveryId appId environmentId environmentVersion = .ok answer) :
    answer.2.evaluationView = db.evaluationView := by
  obtain ⟨integration, -, h⟩ := bind_eq_ok.mp h
  obtain ⟨-, h⟩ := ite_error_eq_ok.mp h
  obtain ⟨prior, -, h⟩ := bind_eq_ok.mp h
  split at h
  · cases h
    rfl
  · obtain ⟨retained, hretained, h⟩ := bind_eq_ok.mp h
    cases h
    rw [evaluationView_scheduleSyncDeadline, evaluationView_scheduleSyncRecovery]
    have hview := evaluationView_ensureRetentionScheduled hretained
    exact hview

theorem evaluationView_commitSnapshot {payload : String}
    (h : db.commitSnapshotHandler env payload = .ok after) :
    after.evaluationView = db.evaluationView := by
  obtain ⟨snapshot, -, h⟩ := bind_eq_ok.mp h
  obtain ⟨integration, -, h⟩ := bind_eq_ok.mp h
  obtain ⟨-, h⟩ := ite_error_eq_ok.mp h
  obtain ⟨-, h⟩ := ite_error_eq_ok.mp h
  obtain ⟨-, h⟩ := ite_error_eq_ok.mp h
  obtain ⟨-, h⟩ := ite_error_eq_ok.mp h
  cases h
  unfold cancelPendingSyncRecovery
  split
  · rfl
  · split <;> rfl

/-- The assignments and Exposures that an evaluation leaves: those it found, or, where the snapshot
is not behind, one Exposure more and perhaps the assignment of an entity that had none. -/
def Written (db after : ComponentTables) (behind : Bool) : Prop :=
  (after.assignments = db.assignments ∧ after.exposureOutbox = db.exposureOutbox) ∨
  behind = false ∧
    (∃ exposure, exposure.state = .pending ∧
      after.exposureOutbox = db.exposureOutbox ++ [exposure]) ∧
    (after.assignments = db.assignments ∨ ∃ added,
      after.assignments = db.assignments ++ [added] ∧
      db.assignmentOf added.idType added.targetingKeyHash added.experimentId = .ok none)

/-- What an evaluation of a key that has no claim may have written. -/
structure Evaluated (env : ConvexEnv) (db after : ComponentTables) (args : EvaluateArgs)
    (runtime : Runtime) (claim : EvaluationClaimRow) : Prop where
  idempotencyKey : claim.idempotencyKey = args.idempotencyKey
  fingerprint : claim.fingerprint = fingerprintOf env args runtime.snapshotVersion
  unclaimed : db.evaluationClaimOf args.idempotencyKey = .ok none
  claims : after.evaluationClaims = db.evaluationClaims ++ [claim]
  metricEvents : after.metricEventClaims = db.metricEventClaims
  deliveries : after.metricEventOutbox = db.metricEventOutbox
  written : Written db after runtime.behind

theorem written_persistExposure {args : EvaluateArgs} {runtime : ReadyRuntime}
    {exposure : Cloudflare.ExposureDecision} {fingerprint : String}
    (hsyncing : runtime.syncing = false)
    (h : persistExposure env db now args runtime exposure fingerprint = .ok after) :
    Written db after runtime.syncing ∧ after.evaluationClaims = db.evaluationClaims ∧
      after.metricEventClaims = db.metricEventClaims ∧
      after.metricEventOutbox = db.metricEventOutbox := by
  obtain ⟨assignments, row, hpending, hassigned, hafter⟩ := persistExposure_eq_ok h
  let inserted : ComponentTables :=
    { db with assignments, exposureOutbox := db.exposureOutbox ++ [row] }
  have hview : after.evaluationView = inserted.evaluationView := by
    rw [hafter]
    exact evaluationView_ensureExposureDrainScheduled now
  have hassignments : after.assignments = assignments := congrArg (fun view => view.1) hview
  refine ⟨.inr ⟨hsyncing, ⟨row, hpending, congrArg (fun view => view.2.2.1) hview⟩, ?_⟩,
    congrArg (fun view => view.2.1) hview, congrArg (fun view => view.2.2.2.1) hview,
    congrArg (fun view => view.2.2.2.2) hview⟩
  rw [hassignments]
  exact hassigned

/-- **What an evaluation that answers has written**: nothing, or its claim and perhaps an Exposure. A
replay schedules the retention again, which no evaluation reads; so of two evaluations of a key the
second leaves what the first has written. -/
theorem evaluateHandler_eq_ok {args : EvaluateArgs} {answer : ResolutionDetails × ComponentTables}
    (h : evaluateHandler env db now args = .ok answer) :
    args.idempotencyKey.isEmpty = false ∧
      ∃ runtime, runtimeState env db args.flagKey args.context = .ok runtime ∧
        (answer.2.evaluationView = db.evaluationView ∨
          ∃ claim, claim.result = answer.1 ∧ Evaluated env db answer.2 args runtime claim) := by
  obtain ⟨hkey, h⟩ := ite_error_eq_ok.mp h
  obtain ⟨runtime, hruntime, h⟩ := bind_eq_ok.mp h
  obtain ⟨found, hfound, h⟩ := bind_eq_ok.mp h
  refine ⟨by simpa using hkey, runtime, hruntime, ?_⟩
  cases found with
  | some claim =>
    obtain ⟨-, h⟩ := ite_error_eq_ok.mp h
    obtain ⟨scheduled, hscheduled, h⟩ := bind_eq_ok.mp h
    cases h
    exact .inl (evaluationView_ensureRetentionScheduled hscheduled)
  | none =>
    cases runtime with
    | overdue snapshotVersion announcedVersion =>
      cases h
      exact .inl rfl
    | ready runtime =>
      rcases evaluateFresh_eq_ok h with hidle | ⟨persisted, hpersisted, hscheduled⟩
      · exact .inl (congrArg evaluationView hidle)
      · have hwritten : Written db persisted runtime.syncing ∧
            persisted.evaluationClaims = db.evaluationClaims ∧
            persisted.metricEventClaims = db.metricEventClaims ∧
            persisted.metricEventOutbox = db.metricEventOutbox := by
          rcases hpersisted with rfl | ⟨hsyncing, exposure, hpersisted⟩
          · exact ⟨.inl ⟨rfl, rfl⟩, rfl, rfl, rfl⟩
          · exact written_persistExposure hsyncing hpersisted
        obtain ⟨hwritten, hclaims, hmetrics, hdeliveries⟩ := hwritten
        have hview := evaluationView_ensureRetentionScheduled hscheduled
        have hassignments : answer.2.assignments = persisted.assignments :=
          congrArg (fun view => view.1) hview
        have hexposures : answer.2.exposureOutbox = persisted.exposureOutbox :=
          congrArg (fun view => view.2.2.1) hview
        refine .inr ⟨{ idempotencyKey := args.idempotencyKey
                       fingerprint := fingerprintOf env args runtime.snapshot.environmentVersion
                       result := answer.1
                       createdAt := now }, rfl, rfl, rfl, hfound, ?_, ?_, ?_, ?_⟩
        · exact (congrArg (fun view => view.2.1) hview).trans (congrArg (· ++ [_]) hclaims)
        · exact (congrArg (fun view => view.2.2.2.1) hview).trans hmetrics
        · exact (congrArg (fun view => view.2.2.2.2) hview).trans hdeliveries
        · unfold Written
          rw [hassignments, hexposures]
          exact hwritten

/-! ## 3. The state an evaluation finds -/

theorem runtimeState_eq_ok {flagKey : String} {context : Cloudflare.EvaluationContext}
    {runtime : Runtime} (h : runtimeState env db flagKey context = .ok runtime) :
    ∃ row stored, db.integration = some row ∧ row.state = .active ∧ db.snapshot = some stored ∧
      (runtime.behind = true ↔ stored.environmentVersion < row.announcedVersion) ∧
      ((∃ snapshot, parseConfigSnapshot env.core stored.payload "Convex" = .ok snapshot ∧
        snapshot.environmentVersion = stored.environmentVersion) →
        runtime.snapshotVersion = stored.environmentVersion) := by
  unfold runtimeState at h
  split at h
  · rename_i row hrow
    obtain ⟨hinstalled, h⟩ := ite_error_eq_ok.mp h
    push Not at hinstalled
    dsimp only at h
    split at h
    · rename_i stored hstored
      refine ⟨row, stored, hrow, hinstalled.1, hstored, ?_⟩
      split at h
      · rename_i hoverdue
        cases h
        exact ⟨⟨fun _ => of_decide_eq_true hoverdue.1, fun _ => rfl⟩, fun _ => rfl⟩
      · obtain ⟨snapshot, hsnapshot, h⟩ := bind_eq_ok.mp h
        have hready : ∃ assignments, runtime = .ready
            { syncing := decide (stored.environmentVersion < row.announcedVersion)
              integration := row
              snapshot
              assignments } := by
          split at h
          · obtain ⟨assignment, -, h⟩ := bind_eq_ok.mp h
            cases h
            exact ⟨_, rfl⟩
          · obtain ⟨assignment, -, h⟩ := bind_eq_ok.mp h
            cases h
            exact ⟨_, rfl⟩
        obtain ⟨assignments, rfl⟩ := hready
        refine ⟨decide_eq_true_iff, ?_⟩
        rintro ⟨parsed, hparsed, hversion⟩
        cases hsnapshot.symm.trans hparsed
        exact hversion
    · cases h
  · cases h

/-- An active installation with a snapshot evaluates. -/
theorem runtimeState_ready (flagKey : String) (context : Cloudflare.EvaluationContext)
    {row : IntegrationRow} {stored : SnapshotRow} (hrow : db.integration = some row)
    (hactive : row.state = .active) (hbound : row.syncFields.bound = true)
    (hstored : db.snapshot = some stored)
    (hparsed : ∃ snapshot, parseConfigSnapshot env.core stored.payload "Convex" = .ok snapshot ∧
      snapshot.environmentVersion = stored.environmentVersion)
    (hassignments : (db.assignments.map (·.key)).Nodup) :
    ∃ runtime, runtimeState env db flagKey context = .ok runtime ∧
      runtime.snapshotVersion = stored.environmentVersion := by
  obtain ⟨snapshot, hsnapshot, hversion⟩ := hparsed
  obtain ⟨happ, henvironment⟩ : row.appId.isSome ∧ row.environmentId.isSome :=
    Bool.and_eq_true_iff.mp hbound
  unfold runtimeState
  rw [hrow]
  dsimp only
  rw [if_neg (by simp [hactive, Option.isSome_iff_ne_none.mp happ,
    Option.isSome_iff_ne_none.mp henvironment]), hstored]
  dsimp only
  split
  · exact ⟨_, rfl, rfl⟩
  · cases hexperiment : (snapshot.flags.find? (·.key = flagKey)).bind (·.experimentId) with
    | none =>
      exact ⟨.ready ⟨_, row, snapshot, _⟩, bind_eq_ok.mpr ⟨snapshot, hsnapshot, by
        rw [hexperiment]
        rfl⟩, hversion⟩
    | some experimentId =>
      obtain ⟨found, hfound⟩ := unique_of_nodup (k := (context.idType,
        localTargetingKeyHash env row.componentIdentityKey context, experimentId)) hassignments
        fun row => AssignmentRow.key_eq
      exact ⟨.ready ⟨_, row, snapshot, _⟩, bind_eq_ok.mpr ⟨snapshot, hsnapshot, by
        rw [hexperiment]
        exact bind_eq_ok.mpr ⟨found, hfound, rfl⟩⟩, hversion⟩

/-! ## 4. Claims -/

/-- What holds of the claims, the assignments and the Exposures of evaluations. -/
structure ClaimsOk (db : ComponentTables) : Prop where
  keys : (db.evaluationClaims.map (·.idempotencyKey)).Nodup
  claims : ∀ claim ∈ db.evaluationClaims, claim.idempotencyKey.isEmpty = false ∧
    ∃ row, db.integration = some row ∧ row.state = .active
  assignments : (db.assignments.map (·.key)).Nodup
  exposures : ∀ exposure ∈ db.exposureOutbox, exposure.state = .pending
  metricEvents : db.metricEventClaims = []

/-- Where nothing is completed or terminal, retention is never at a loss for a time. -/
theorem ClaimsOk.ensureRetentionScheduled (h : ClaimsOk db) :
    ∃ after, db.ensureRetentionScheduled now = .ok after := by
  have hdue : ∃ due, db.nextRetentionDueAt = .ok due := by
    have hexposures : db.exposureOutbox.filter (·.state = .terminal) = [] := by
      refine List.filter_eq_nil_iff.mpr fun exposure hexposure => ?_
      rw [h.exposures exposure hexposure]
      decide
    unfold nextRetentionDueAt
    rw [hexposures, h.metricEvents]
    exact ⟨_, rfl⟩
  obtain ⟨due, hdue⟩ := hdue
  unfold ComponentTables.ensureRetentionScheduled
  split
  · exact ⟨_, rfl⟩
  · split
    · exact ⟨_, rfl⟩
    · rw [hdue]
      cases due with
      | none => exact ⟨_, rfl⟩
      | some dueAt => exact ⟨_, rfl⟩

theorem ClaimsOk.of_view (h : ClaimsOk db) (hview : after.evaluationView = db.evaluationView)
    (hactive : (∃ row, db.integration = some row ∧ row.state = .active) →
      ∃ row, after.integration = some row ∧ row.state = .active) : ClaimsOk after := by
  have hclaims : after.evaluationClaims = db.evaluationClaims :=
    congrArg (fun view => view.2.1) hview
  have hassignments : after.assignments = db.assignments := congrArg (fun view => view.1) hview
  have hexposures : after.exposureOutbox = db.exposureOutbox :=
    congrArg (fun view => view.2.2.1) hview
  have hmetrics : after.metricEventClaims = db.metricEventClaims :=
    congrArg (fun view => view.2.2.2.1) hview
  refine ⟨hclaims ▸ h.keys, ?_, hassignments ▸ h.assignments, hexposures ▸ h.exposures,
    hmetrics.trans h.metricEvents⟩
  rw [hclaims]
  exact fun claim hclaim => ⟨(h.claims claim hclaim).1, hactive (h.claims claim hclaim).2⟩

theorem ClaimsOk.evaluated (h : ClaimsOk db) {args : EvaluateArgs} {runtime : Runtime}
    {claim : EvaluationClaimRow} (hkey : args.idempotencyKey.isEmpty = false)
    (hevaluated : Evaluated env db after args runtime claim)
    (hactive : ∃ row, after.integration = some row ∧ row.state = .active) : ClaimsOk after := by
  refine ⟨?_, ?_, ?_, ?_, hevaluated.metricEvents.trans h.metricEvents⟩
  · rw [hevaluated.claims, List.map_append]
    refine List.nodup_append.mpr ⟨h.keys, List.nodup_singleton _, ?_⟩
    rintro key hold other hother rfl
    obtain ⟨old, holdClaim, rfl⟩ := List.mem_map.mp hold
    have hsame : old.idempotencyKey = args.idempotencyKey :=
      (List.mem_singleton.mp hother).trans hevaluated.idempotencyKey
    have hunclaimed := unique_eq_none hevaluated.unclaimed old holdClaim
    exact of_decide_eq_false hunclaimed hsame
  · intro claim' hclaim'
    rw [hevaluated.claims] at hclaim'
    refine ⟨?_, hactive⟩
    rcases List.mem_append.mp hclaim' with hold | hnew
    · exact (h.claims claim' hold).1
    · rw [List.mem_singleton.mp hnew, hevaluated.idempotencyKey]
      exact hkey
  · rcases hevaluated.written with ⟨hassignments, -⟩ | ⟨-, -, hassignments | ⟨added, hassignments,
      hunassigned⟩⟩
    · exact hassignments ▸ h.assignments
    · exact hassignments ▸ h.assignments
    · rw [hassignments, List.map_append]
      refine List.nodup_append.mpr ⟨h.assignments, List.nodup_singleton _, ?_⟩
      rintro key hold other hother rfl
      obtain ⟨old, holdRow, hkeyOld⟩ := List.mem_map.mp hold
      have hother' := unique_eq_none hunassigned old holdRow
      rw [List.mem_singleton.mp hother] at hkeyOld
      rw [AssignmentRow.key_eq.mpr hkeyOld] at hother'
      cases hother'
  · rcases hevaluated.written with ⟨-, hexposures⟩ | ⟨-, ⟨exposure, hpending, hexposures⟩, -⟩
    · exact hexposures ▸ h.exposures
    · rw [hexposures]
      intro exposure' hexposure'
      rcases List.mem_append.mp hexposure' with hold | hnew
      · exact h.exposures exposure' hold
      · rw [List.mem_singleton.mp hnew]
        exact hpending

/-- What one event does to the claims and the Exposures: nothing, or it is an evaluation, and it
wrote its claim. -/
inductive EvaluationMove (env : ConvexEnv) (db : ComponentTables) (event : SyncEvent) : Prop
  | kept (view : (ComponentTables.syncStep env db event).2.evaluationView = db.evaluationView)
  | evaluated (args : EvaluateArgs) (runtime : Runtime) (claim : EvaluationClaimRow)
      (action : event.action = .evaluate args) (key : args.idempotencyKey.isEmpty = false)
      (found : runtimeState env db args.flagKey args.context = .ok runtime)
      (answered : (ComponentTables.syncStep env db event).1 = .ok (some claim.result))
      (wrote : Evaluated env db (ComponentTables.syncStep env db event).2 args runtime claim)

theorem evaluationMove (env : ConvexEnv) (db : ComponentTables) (event : SyncEvent) :
    EvaluationMove env db event := by
  obtain ⟨now, action⟩ := event
  have hcommitting : ∀ {α : Type} (outcome : Except String (α × ComponentTables)),
      (∀ answer, outcome = .ok answer → answer.2.evaluationView = db.evaluationView) →
      (db.committing outcome).2.evaluationView = db.evaluationView := by
    intro α outcome houtcome
    cases outcome with
    | error message => rfl
    | ok answer => exact houtcome answer rfl
  cases action with
  | activate appId environmentId environmentVersion =>
    refine .kept (hcommitting _ fun answer hanswer => ?_)
    obtain ⟨activated, hactivated, rfl⟩ := map_eq_ok.mp hanswer
    exact evaluationView_activate hactivated
  | announce deliveryId appId environmentId environmentVersion =>
    refine .kept (hcommitting _ fun answer hanswer => ?_)
    obtain ⟨announced, hannounced, rfl⟩ := map_eq_ok.mp hanswer
    exact evaluationView_announce hannounced
  | commitSnapshot payload =>
    refine .kept (hcommitting _ fun answer hanswer => ?_)
    obtain ⟨committed, hcommitted, rfl⟩ := map_eq_ok.mp hanswer
    exact evaluationView_commitSnapshot hcommitted
  | runScheduled id => exact .kept (evaluationView_runScheduled id)
  | evaluate args =>
    cases houtcome : evaluateHandler env db now args with
    | error message =>
      refine .kept ?_
      change (db.committing ((evaluateHandler env db now args).map _)).2.evaluationView = _
      rw [houtcome]
      rfl
    | ok answer =>
      have hstep : ComponentTables.syncStep env db ⟨now, .evaluate args⟩ =
          (.ok (some answer.1), answer.2) := by
        change db.committing ((evaluateHandler env db now args).map _) = _
        rw [houtcome]
        rfl
      obtain ⟨hkey, runtime, hruntime, hkept | ⟨claim, hresult, hevaluated⟩⟩ :=
        evaluateHandler_eq_ok houtcome
      · refine .kept ?_
        rw [hstep]
        exact hkept
      · refine .evaluated args runtime claim rfl hkey hruntime ?_ ?_
        · rw [hstep, hresult]
        · rw [hstep]
          exact hevaluated

theorem ClaimsOk.step (h : ClaimsOk db) (hsynced : Synced env db) (event : SyncEvent) :
    ClaimsOk (ComponentTables.syncStep env db event).2 := by
  obtain ⟨row, hrow, hinv⟩ := hsynced
  obtain ⟨⟨next, hnext, hmove⟩, -⟩ := step_move env hinv.jobs hrow event
  have hactive : (∃ row, db.integration = some row ∧ row.state = .active) →
      ∃ row, (ComponentTables.syncStep env db event).2.integration = some row ∧
        row.state = .active := by
    rintro ⟨_, hrow', hstate⟩
    cases hrow.symm.trans hrow'
    exact ⟨next, hnext, hmove.active hstate⟩
  cases evaluationMove env db event with
  | kept view => exact h.of_view view hactive
  | evaluated args runtime claim action key found answered wrote =>
    obtain ⟨active, stored, hactiveRow, hstate, -⟩ := runtimeState_eq_ok found
    exact h.evaluated key wrote (hactive ⟨active, hactiveRow, hstate⟩)

/-- **No Exposure while behind.**  An event that changes the Exposures is an evaluation, and the
snapshot is not behind. -/
theorem exposures_of_step (hsynced : Synced env db) (event : SyncEvent) :
    (ComponentTables.syncStep env db event).2.exposureOutbox = db.exposureOutbox ∨
      ¬ db.Behind ∧ ∃ args stored claim, event.action = .evaluate args ∧
        db.snapshot = some stored ∧
        (ComponentTables.syncStep env db event).1 = .ok (some claim.result) ∧
        claim ∈ (ComponentTables.syncStep env db event).2.evaluationClaims ∧
        claim.idempotencyKey = args.idempotencyKey ∧
        claim.fingerprint = fingerprintOf env args stored.environmentVersion := by
  obtain ⟨row, hrow, hinv⟩ := hsynced
  cases evaluationMove env db event with
  | kept view => exact .inl (congrArg (fun view => view.2.2.1) view)
  | evaluated args runtime claim action key found answered wrote =>
    rcases wrote.written with ⟨-, hexposures⟩ | ⟨hcurrent, -, -⟩
    · exact .inl hexposures
    · obtain ⟨_, stored, hrow', hactive, hstored, hbehind, hversion⟩ := runtimeState_eq_ok found
      cases hrow.symm.trans hrow'
      refine .inr ⟨?_, args, stored, claim, action, hstored, answered, ?_, wrote.idempotencyKey, ?_⟩
      · rintro ⟨_, hrow', hlags⟩
        cases hrow.symm.trans hrow'
        rw [hbehind.mpr (hlags stored hstored)] at hcurrent
        cases hcurrent
      · rw [wrote.claims]
        exact List.mem_append_right _ List.mem_cons_self
      · rw [wrote.fingerprint, hversion (hinv.parsed stored hstored)]

/-- **A replay** of a claimed evaluation is answered from its claim. The fingerprint covers the
version of the stored snapshot, so a claim is replayed under the very snapshot that it was computed
from; only the mark that the answer is stale may differ. -/
theorem replay_of_claim (hsynced : Synced env db) (hclaims : ClaimsOk db) {event : SyncEvent}
    {args : EvaluateArgs} (haction : event.action = .evaluate args) {stored : SnapshotRow}
    (hstored : db.snapshot = some stored) {claim : EvaluationClaimRow}
    (hclaim : claim ∈ db.evaluationClaims) (hkey : claim.idempotencyKey = args.idempotencyKey)
    (hfingerprint : claim.fingerprint = fingerprintOf env args stored.environmentVersion) :
    (∃ details, (ComponentTables.syncStep env db event).1 = .ok (some details) ∧
      details.variantName = claim.result.variantName ∧ details.value = claim.result.value) ∧
      (ComponentTables.syncStep env db event).2.exposureOutbox = db.exposureOutbox := by
  obtain ⟨row, hrow, hinv⟩ := hsynced
  obtain ⟨hnonempty, _, hrow', hactive⟩ := hclaims.claims claim hclaim
  cases hrow.symm.trans hrow'
  obtain ⟨runtime, hruntime, hversion⟩ := runtimeState_ready args.flagKey args.context hrow
    hactive (hinv.bound hactive) hstored (hinv.parsed stored hstored) hclaims.assignments
  have hfound : db.evaluationClaimOf args.idempotencyKey = .ok (some claim) :=
    unique_eq_some hclaims.keys (fun _ => decide_eq_true_iff) hclaim hkey
  obtain ⟨after, hafter⟩ : ∃ after, db.ensureRetentionScheduled event.now = .ok after :=
    hclaims.ensureRetentionScheduled
  let details := if runtime.behind then staleDetails claim.result else claim.result
  have hanswer : evaluateHandler env db event.now args = .ok (details, after) := by
    unfold evaluateHandler
    rw [if_neg (by rw [← hkey, hnonempty]; exact nofun)]
    refine bind_eq_ok.mpr ⟨runtime, hruntime, bind_eq_ok.mpr ⟨some claim, hfound, ?_⟩⟩
    refine ite_error_eq_ok.mpr ⟨?_, bind_eq_ok.mpr ⟨after, hafter, rfl⟩⟩
    rw [hversion]
    exact not_not.mpr hfingerprint
  have hstep : ComponentTables.syncStep env db event = (.ok (some details), after) := by
    unfold syncStep
    rw [haction]
    change db.committing ((evaluateHandler env db event.now args).map _) = _
    rw [hanswer]
    rfl
  rw [hstep]
  refine ⟨⟨details, rfl, ?_, ?_⟩, ?_⟩
  · unfold details staleDetails
    split
    · split <;> rfl
    · rfl
  · unfold details staleDetails
    split
    · split <;> rfl
    · rfl
  · exact congrArg (fun view => view.2.2.1) (evaluationView_ensureRetentionScheduled hafter)

/-! ## 5. The contract -/

theorem claimsOk_run (args : InitializeArgs) (es : List SyncEvent) :
    ClaimsOk ((configurationSync env args).run es) := by
  refine ((configurationSync env args).exec_invariant
    (I := fun db => Synced env db ∧ ClaimsOk db) (fun _ e h => ⟨h.1.step e, h.2.step h.1 e⟩)
    ⟨Synced.init args, ?_⟩ es).2
  exact ⟨List.nodup_nil, fun claim hclaim => absurd hclaim List.not_mem_nil, List.nodup_nil,
    fun exposure hexposure => absurd hexposure List.not_mem_nil, rfl⟩

/-- **Claims stay**: every event of the run keeps the table, or adds the claim of an evaluation to its
end. -/
theorem claims_of_prefix (args : InitializeArgs) {es fs : List SyncEvent} (hbefore : es <+: fs)
    {claim : EvaluationClaimRow}
    (hclaim : claim ∈ ((configurationSync env args).run es).evaluationClaims) :
    claim ∈ ((configurationSync env args).run fs).evaluationClaims := by
  obtain ⟨gs, rfl⟩ := hbefore
  induction gs using List.reverseRecOn with
  | nil =>
    rw [List.append_nil]
    exact hclaim
  | append_singleton gs e ih =>
    rw [← List.append_assoc, Machine.run_concat]
    cases evaluationMove env ((configurationSync env args).run (es ++ gs)) e with
    | kept view =>
      have hkept : ((configurationSync env args).next
          ((configurationSync env args).run (es ++ gs)) e).evaluationClaims = _ :=
        congrArg (fun view => view.2.1) view
      rw [hkept]
      exact ih
    | evaluated args' runtime claim' action key found answered wrote =>
      have hadded : ((configurationSync env args).next
          ((configurationSync env args).run (es ++ gs)) e).evaluationClaims = _ := wrote.claims
      rw [hadded]
      exact List.mem_append_left _ ih

/-- **Configuration sync**, in every run of one installation.  Announced and stored versions do not
fall.  `overdue` is set while the snapshot is behind alone; and where the snapshot of the active
installation has been behind since the event `e`, at least five seconds ago, and the deadlines that
are due have run, it is set.  While the snapshot of the active installation is behind, a recovery of
the announced version is pending.  An event that adds an Exposure is an evaluation while the
snapshot is not behind, and it claims its idempotency key.  Claims stay; and an evaluation whose key
is claimed under its arguments and the stored snapshot is answered with the Variant of the claim and
adds no Exposure. -/
theorem configuration_sync (env : ConvexEnv) (args : InitializeArgs) :
    (∀ es fs, es <+: fs →
      (∀ row, ((configurationSync env args).run es).integration = some row →
        ∃ later, ((configurationSync env args).run fs).integration = some later ∧
          row.announcedVersion ≤ later.announcedVersion) ∧
      ∀ stored, ((configurationSync env args).run es).snapshot = some stored →
        ∃ later, ((configurationSync env args).run fs).snapshot = some later ∧
          stored.environmentVersion ≤ later.environmentVersion) ∧
    (∀ es, ((configurationSync env args).run es).Overdue →
      ((configurationSync env args).run es).Behind) ∧
    (∀ es e fs now, Machine.Timed SyncEvent.now (es ++ [e] ++ fs) →
      (∀ gs, gs <+: fs → ((configurationSync env args).run (es ++ [e] ++ gs)).Lagging) →
      e.now + SYNC_DEADLINE_MS ≤ now →
      ((configurationSync env args).run (es ++ [e] ++ fs)).Punctual now →
      ((configurationSync env args).run (es ++ [e] ++ fs)).Overdue) ∧
    (∀ es, ((configurationSync env args).run es).Lagging →
      ((configurationSync env args).run es).RecoveryPending) ∧
    (∀ es e, let db := (configurationSync env args).run es
      let after := (configurationSync env args).next db e
      after.exposureOutbox = db.exposureOutbox ∨
        ¬ db.Behind ∧ ∃ evaluated stored claim, e.action = .evaluate evaluated ∧
          db.snapshot = some stored ∧
          (configurationSync env args).out db e = .ok (some claim.result) ∧
          claim ∈ after.evaluationClaims ∧ claim.idempotencyKey = evaluated.idempotencyKey ∧
          claim.fingerprint = fingerprintOf env evaluated stored.environmentVersion) ∧
    (∀ es fs, es <+: fs → ∀ claim ∈ ((configurationSync env args).run es).evaluationClaims,
      claim ∈ ((configurationSync env args).run fs).evaluationClaims) ∧
    ∀ es e evaluated stored, let db := (configurationSync env args).run es
      e.action = .evaluate evaluated → db.snapshot = some stored →
      ∀ claim ∈ db.evaluationClaims, claim.idempotencyKey = evaluated.idempotencyKey →
        claim.fingerprint = fingerprintOf env evaluated stored.environmentVersion →
        (∃ details, (configurationSync env args).out db e = .ok (some details) ∧
          details.variantName = claim.result.variantName ∧
          details.value = claim.result.value) ∧
        ((configurationSync env args).next db e).exposureOutbox = db.exposureOutbox := by
  refine ⟨fun es fs hbefore => versions_le args hbefore,
    fun es => (synced_run env args es).behind_of_overdue, ?_,
    fun es => (synced_run env args es).recoveryPending,
    fun es e => exposures_of_step (synced_run env args es) e,
    fun es fs hbefore claim hclaim => claims_of_prefix args hbefore hclaim, ?_⟩
  · intro es e fs now htimed hlags hnow hpunctual
    exact overdue_of_lagging args (htimed.of_prefix _ (List.prefix_append _ _)) hlags hnow hpunctual
  · intro es e evaluated stored db haction hstored claim hclaim hkey hfingerprint
    exact replay_of_claim (synced_run env args es) (claimsOk_run args es) haction hstored hclaim hkey
      hfingerprint

end

/-! ## 6. A version that is announced and not stored -/

/-- One Flag, whose Experiment is on its first Run. -/
def checkoutSnapshot : ConfigSnapshot where
  environmentVersion := 1
  appId := "app_1"
  environmentId := "env_1"
  flags :=
    [{ key := "checkout"
       environmentId := "env_1"
       experimentId := some "exp_1"
       enabled := true
       defaultVariantId := "var_1"
       variants := [{ id := "var_1", name := "treatment", value := "true" }]
       availableVariantNames := ["treatment"]
       targetingRules := []
       rollout := none }]
  experiments :=
    [{ id := "exp_1", environmentId := "env_1", targetingKeyType := "user", liveRunId := some "run_1" }]
  runs :=
    [{ id := "run_1"
       experimentId := "exp_1"
       salt := "salt_1"
       allocation := [("treatment", 100)]
       targetingRules := []
       configHash := "hash_1" }]

def checkoutCore : Cloudflare.EvaluationCore where
  configSnapshotSchema payload :=
    if payload = "\x7b\"environmentVersion\":1\x7d" then some checkoutSnapshot else none
  matchesCondition _ _ := .ok false
  fractionalEval _ _ weights := (weights.headD ("", 0)).1

def checkoutEnv : ConvexEnv where
  core := checkoutCore
  evaluatePath := Cloudflare.evaluatePath checkoutCore
  sha256Hex := Sha256.hex
  hmacHex _ _ := "6fdc485f12746b6e354eb8da1afa1b6755e63dcab8da62c31d192e9609e36c76"
  stableUuid := id
  canonicalJson flagKey context defaultValue snapshotVersion :=
    "\x7b\"context\":\x7b\"attributes\":" ++ context.attributes ++ ",\"idType\":\"" ++
      context.idType ++ "\",\"targetingKey\":\"" ++ context.targetingKey ++
      "\"\x7d,\"defaultValue\":" ++ defaultValue ++ ",\"flagKey\":\"" ++ flagKey ++
      "\",\"snapshotVersion\":" ++ toString snapshotVersion ++ "\x7d"

def checkoutSync : Machine ComponentTables SyncEvent (Except String (Option ResolutionDetails)) :=
  configurationSync checkoutEnv
    { installationId := "9b2f1c1e-6a35-4f0b-8a59-2d2a4c1f0001"
      webhookSecret := "d2ViaG9vay1zZWNyZXQtb2YtdGhlLWluc3RhbGxhdGlv"
      componentIdentityKey := "c3BsaXRjaC1pZGVudGl0eS1rZXktZm9yLXRoZS1ydW4"
      callbackUrl := "https://fleet-otter-1.convex.site/configuration"
      endpoint := "https://edge.splitch.dev" }

def checkoutEvaluated (now : Int) : SyncEvent where
  now
  action := .evaluate
    { flagKey := "checkout"
      context := { targetingKey := "user_1", idType := "user", attributes := "\x7b\x7d" }
      defaultValue := "false"
      idempotencyKey := "request_1" }

/-- An evaluation at version 1, and the announcement of version 2. -/
def announcedSync : List SyncEvent :=
  [⟨1000, .activate "app_1" "env_1" 1⟩, ⟨1001, .commitSnapshot "\x7b\"environmentVersion\":1\x7d"⟩,
    checkoutEvaluated 2000, ⟨3000, .announce "delivery_1" "app_1" "env_1" 2⟩]

/-- The evaluation is repeated while version 2 is not stored: the Variant is the same, and no Exposure is
added. -/
example :
    let db := checkoutSync.run announcedSync
    (checkoutSync.out db (checkoutEvaluated 3500)).toOption.join.map
        (fun details => (details.variantName, details.reason)) = some (some "treatment", "STALE") ∧
      (checkoutSync.next db (checkoutEvaluated 3500)).exposureOutbox.length = 1 := by
  decide +kernel

/-- The deadline that the announcement has scheduled runs five seconds after it. -/
example : (checkoutSync.run (announcedSync ++ [⟨8000, .runScheduled 8⟩])).integration.bind
    (·.syncOverdueVersion) = some 2 := by
  decide +kernel

end Convex

end Splitch
