/-
# What an installation repairs

Installs and uninstalls are actions of several steps, with the component's own events in between.  A removal
purges the tables in batches.  One that stops between two of its batches can leave the installation row
without the snapshot that its `snapshotVersion` names, or a queued Metric Event without its delivery row
(`HalfPurged`).  A later install finds the row, sends that version with its pull, and takes the answer that
nothing has changed for a snapshot that it has.

So an install repairs what it finds just where it does not find that.  The invariant goes with the action
that is running (`StageOk`): what it has been answered, and that the component is whole where the action
relies on it.  What happens around it leaves the installation row and its versions, or moves them by the
moves of the synchronization (`Around`).  An install then ends in one of two ways.  It commits a snapshot,
which is announced (`repaired_of_commit`); or it was told that nothing changed, and finds the snapshot that
its row names (`repaired_of_notModified`).

In every run whose installs meet no such component when they pull, what an install that resolves
leaves is whole (`install_repairs`).  The last section has two removals that stop halfway, and installs behind
them that resolve and repair nothing.
-/
import Splitch.Library.Sha256
import Splitch.Convex.InstallLifecycle
import Splitch.Convex.EvaluationReplays

namespace Splitch

namespace Convex

open ComponentTables Checks
open Cloudflare (parseConfigSnapshot)

/-! ## 1. A component that is whole -/

namespace ComponentTables

/-- Every Metric Event that is queued has its delivery row. -/
def Whole (db : ComponentTables) : Prop :=
  ∀ claim ∈ db.metricEventClaims, claim.state = .queued →
    ∃ row ∈ db.metricEventOutbox, row.eventId = claim.eventId

/-- What an install that returns this version promises. -/
def Repaired (db : ComponentTables) (environmentVersion : Nat) : Prop :=
  (∃ row stored, db.integration = some row ∧ db.snapshot = some stored ∧
    row.snapshotVersion = some stored.environmentVersion ∧
    environmentVersion ≤ stored.environmentVersion) ∧ db.Whole

/-- **A removal stopped halfway**: the snapshots are purged and the installation row, which names
the current version, is not; or the delivery row of a queued Metric Event is purged and its claim is
not. -/
def HalfPurged (db : ComponentTables) (environmentVersion : Nat) : Prop :=
  (db.snapshot = none ∧
    ∃ row, db.integration = some row ∧ row.snapshotVersion = some environmentVersion) ∨
  ∃ claim ∈ db.metricEventClaims, claim.state = .queued ∧
    ∀ row ∈ db.metricEventOutbox, row.eventId ≠ claim.eventId

/-- The version is announced. -/
def Announced (db : ComponentTables) (environmentVersion : Nat) : Prop :=
  ∃ row, db.integration = some row ∧ environmentVersion ≤ row.announcedVersion

end ComponentTables

section

variable {env : ConvexEnv} {db after : ComponentTables} {row next : IntegrationRow} {now : Int}

theorem not_halfPurged {environmentVersion : Nat} (h : ¬ db.HalfPurged environmentVersion) :
    db.Whole ∧ (db.snapshot = none → ∀ row, db.integration = some row →
      row.snapshotVersion ≠ some environmentVersion) := by
  constructor
  · intro claim hclaim hqueued
    by_contra hno
    push Not at hno
    exact h (.inr ⟨claim, hclaim, hqueued, hno⟩)
  · exact fun hnone row hrow hversion => h (.inl ⟨hnone, row, hrow, hversion⟩)

/-! ## 2. What happens around an action -/

/-- What an event that is no removal does to the tables: an installation row stays, its versions do
not fall, and a queued Metric Event keeps its delivery row. -/
structure Around (db after : ComponentTables) : Prop where
  jobs : JobsOk after
  absent : db.integration = none → after.integration = none ∧ after.snapshot = db.snapshot
  kept : ∀ row, db.integration = some row → ∃ next, after.integration = some next ∧
    row.announcedVersion ≤ next.announcedVersion ∧
    ((after.snapshot = db.snapshot ∧ next.snapshotVersion = row.snapshotVersion) ∨
      ∃ stored, after.snapshot = some stored ∧
        next.snapshotVersion = some stored.environmentVersion ∧
        row.announcedVersion ≤ stored.environmentVersion)
  whole : db.Whole → after.Whole

theorem SyncMove.stored_cases (h : SyncMove env now db after row next) :
    (after.snapshot = db.snapshot ∧ next.snapshotVersion = row.snapshotVersion) ∨
      ∃ stored, after.snapshot = some stored ∧
        next.snapshotVersion = some stored.environmentVersion ∧
        row.announcedVersion ≤ stored.environmentVersion := by
  cases h with
  | quiet fields snapshot => exact .inl ⟨snapshot, congrArg SyncFields.snapshotVersion fields⟩
  | announced version _ fields snapshot =>
    exact .inl ⟨snapshot, congrArg SyncFields.snapshotVersion fields⟩
  | committed stored _ _ current _ fields snapshot =>
    exact .inr ⟨stored, snapshot, congrArg SyncFields.snapshotVersion fields, current⟩
  | recovered fields snapshot => exact .inl ⟨snapshot, congrArg SyncFields.snapshotVersion fields⟩
  | expired job installationId version _ _ fields snapshot =>
    exact .inl ⟨snapshot, congrArg SyncFields.snapshotVersion fields⟩

theorem whole_of_rows (hclaims : after.metricEventClaims = db.metricEventClaims)
    (hdeliveries : after.metricEventOutbox = db.metricEventOutbox) (h : db.Whole) :
    after.Whole := by
  unfold ComponentTables.Whole
  rw [hclaims, hdeliveries]
  exact h

/-- Without an installation row the synchronization does nothing. -/
theorem syncStep_absent (env : ConvexEnv) (hjobs : JobsOk db) (habsent : db.integration = none) (event : SyncEvent) :
    let after := (ComponentTables.syncStep env db event).2
    after.integration = none ∧ after.snapshot = db.snapshot ∧ JobsOk after := by
  have hidle : db.integration = none ∧ db.snapshot = db.snapshot ∧ JobsOk db :=
    ⟨habsent, rfl, hjobs⟩
  have hrequired : ∀ integration, db.requiredIntegration ≠ .ok integration := by
    intro integration hintegration
    unfold requiredIntegration at hintegration
    rw [habsent] at hintegration
    cases hintegration
  have hthrows : ∀ {α : Type} (outcome : Except String (α × ComponentTables)),
      (∀ answer, outcome ≠ .ok answer) → (db.committing outcome).2 = db := by
    intro α outcome houtcome
    cases outcome with
    | error message => rfl
    | ok answer => exact absurd rfl (houtcome answer)
  intro after
  unfold after syncStep
  split
  · rw [hthrows]
    · exact hidle
    · intro answer hanswer
      obtain ⟨activated, hactivated, -⟩ := map_eq_ok.mp hanswer
      obtain ⟨integration, hintegration, -⟩ := bind_eq_ok.mp hactivated
      exact hrequired integration hintegration
  · rw [hthrows]
    · exact hidle
    · intro answer hanswer
      obtain ⟨announced, hannounced, -⟩ := map_eq_ok.mp hanswer
      obtain ⟨integration, hintegration, -⟩ := bind_eq_ok.mp hannounced
      exact hrequired integration hintegration
  · rw [hthrows]
    · exact hidle
    · intro answer hanswer
      obtain ⟨committed, hcommitted, -⟩ := map_eq_ok.mp hanswer
      obtain ⟨snapshot, -, hcommitted⟩ := bind_eq_ok.mp hcommitted
      obtain ⟨integration, hintegration, -⟩ := bind_eq_ok.mp hcommitted
      exact hrequired integration hintegration
  · rename_i id _
    unfold runScheduled
    split
    · exact hidle
    · split
      · exact hidle
      · have hcancelled : (db.cancel id).integration = none := habsent
        split
        · unfold recoverSyncHandler
          rw [hcancelled]
          exact ⟨habsent, rfl, hjobs.cancel id⟩
        · unfold markSyncOverdueHandler
          rw [hcancelled]
          exact ⟨habsent, rfl, hjobs.cancel id⟩
        · exact ⟨habsent, rfl, hjobs.cancel id⟩
        · exact hidle
  · rw [hthrows]
    · exact hidle
    · intro answer hanswer
      obtain ⟨evaluated, hevaluated, -⟩ := map_eq_ok.mp hanswer
      obtain ⟨-, runtime, hruntime, -⟩ := evaluateHandler_eq_ok hevaluated
      obtain ⟨row, -, hrow, -⟩ := runtimeState_eq_ok hruntime
      rw [habsent] at hrow
      cases hrow

theorem around_syncStep (env : ConvexEnv) (hjobs : JobsOk db) (event : SyncEvent) :
    Around db (ComponentTables.syncStep env db event).2 := by
  have hwhole : db.Whole → (ComponentTables.syncStep env db event).2.Whole := by
    cases evaluationMove env db event with
    | kept view =>
      exact whole_of_rows (congrArg (fun view => view.2.2.2.1) view)
        (congrArg (fun view => view.2.2.2.2) view)
    | evaluated args runtime claim action key found answered wrote =>
      exact whole_of_rows wrote.metricEvents wrote.deliveries
  cases hrow : db.integration with
  | none =>
    obtain ⟨habsent, hsnapshot, hafter⟩ := syncStep_absent env hjobs hrow event
    exact ⟨hafter, fun _ => ⟨habsent, hsnapshot⟩, fun row h => (by rw [hrow] at h; cases h), hwhole⟩
  | some row =>
    obtain ⟨⟨next, hnext, hmove⟩, hafter⟩ := step_move env hjobs hrow event
    refine ⟨hafter, fun h => (by rw [hrow] at h; cases h), ?_, hwhole⟩
    intro row' hrow'
    cases hrow.symm.trans hrow'
    exact ⟨next, hnext, hmove.announcedVersion_le, hmove.stored_cases⟩

theorem around_activate (env : ConvexEnv) (hjobs : JobsOk db) {appId environmentId : String}
    {environmentVersion : Nat}
    (h : db.activateHandler now appId environmentId environmentVersion = .ok after) :
    Around db after := by
  have hstep : (ComponentTables.syncStep env db
      { now, action := .activate appId environmentId environmentVersion }).2 = after := by
    change (db.committing ((db.activateHandler now appId environmentId environmentVersion).map
      fun db => ((none : Option Cloudflare.ResolutionDetails), db))).2 = after
    rw [h]
    rfl
  exact hstep ▸ around_syncStep env hjobs _

theorem around_commitSnapshot (hjobs : JobsOk db) {payload : String}
    (h : db.commitSnapshotHandler env payload = .ok after) : Around db after := by
  have hstep : (ComponentTables.syncStep env db
      { now := 0, action := .commitSnapshot payload }).2 = after := by
    change (db.committing ((db.commitSnapshotHandler env payload).map
      fun db => ((none : Option Cloudflare.ResolutionDetails), db))).2 = after
    rw [h]
    rfl
  exact hstep ▸ around_syncStep env hjobs _

/-- What keeps the view of the synchronization keeps the installation row and its versions. -/
theorem around_of_view (hview : after.syncView = db.syncView) (hjobs : JobsOk after)
    (hwhole : db.Whole → after.Whole) : Around db after := by
  have hintegration : after.integration.map (·.syncFields) = db.integration.map (·.syncFields) :=
    congrArg Prod.fst hview
  have hsnapshot : after.snapshot = db.snapshot := congrArg (fun view => view.2.1) hview
  refine ⟨hjobs, ?_, ?_, hwhole⟩
  · intro habsent
    rw [habsent] at hintegration
    exact ⟨Option.map_eq_none_iff.mp hintegration, hsnapshot⟩
  · intro row hrow
    obtain ⟨next, hnext, hfields, -, -⟩ := fields_of_view hrow hview
    exact ⟨next, hnext, (congrArg SyncFields.announcedVersion hfields).ge,
      .inl ⟨hsnapshot, congrArg SyncFields.snapshotVersion hfields⟩⟩

theorem Around.refl (hjobs : JobsOk db) : Around db db := around_of_view rfl hjobs id

theorem replayMetricEventClaim_eq_ok {eventId fingerprint : String} {replay : ComponentTables}
    (h : db.replayMetricEventClaim now eventId fingerprint = .ok (some replay)) :
    db.ensureRetentionScheduled now = .ok replay := by
  obtain ⟨claim, -, h⟩ := bind_eq_ok.mp h
  cases claim with
  | none => cases h
  | some claim =>
    obtain ⟨-, h⟩ := ite_error_eq_ok.mp h
    have hretained : ∀ delivery : Option MetricEventRow,
        (if claim.state = .queued ∧ delivery.isNone then
          throw "METRIC_EVENT_OUTBOX_MISSING: Queued Metric Event has no delivery row"
        else do
          let retained ← db.ensureRetentionScheduled now
          return some retained) = (.ok (some replay) : Except String (Option ComponentTables)) →
        db.ensureRetentionScheduled now = .ok replay := by
      intro delivery h
      obtain ⟨-, h⟩ := ite_error_eq_ok.mp h
      obtain ⟨retained, hretained, h⟩ := bind_eq_ok.mp h
      cases h
      exact hretained
    obtain ⟨-, h⟩ := ite_error_eq_ok.mp h
    dsimp only at h
    split at h
    · obtain ⟨delivery, -, h⟩ := bind_eq_ok.mp h
      exact hretained delivery h
    · obtain ⟨delivery, -, h⟩ := bind_eq_ok.mp h
      exact hretained delivery h

/-- A Metric Event is queued together with its delivery row. -/
theorem around_insertMetricEvent (hjobs : JobsOk db) {claim : MetricEventClaimRow}
    {delivery : MetricEventRow} (hrow : delivery.eventId = claim.eventId)
    (h : (((db.insertMetricEvent claim delivery).runAfter now 0
      (.deliverMetricEvent claim.eventId)).2.runAfter now DELIVERY_LEASE_MS
        (.watchMetricEvent claim.eventId)).2.ensureRetentionScheduled now = .ok after) :
    Around db after := by
  have hinserted : JobsOk (db.insertMetricEvent claim delivery) := hjobs.of_same rfl rfl rfl
  obtain ⟨hview, hkeeps⟩ := syncView_ensureRetentionScheduled h
  rw [syncView_runAfter rfl, syncView_runAfter rfl] at hview
  have hrows := evaluationView_ensureRetentionScheduled h
  have hclaims : after.metricEventClaims = db.metricEventClaims ++ [claim] :=
    congrArg (fun view => view.2.2.2.1) hrows
  have hdeliveries : after.metricEventOutbox = db.metricEventOutbox ++ [delivery] :=
    congrArg (fun view => view.2.2.2.2) hrows
  refine around_of_view hview (hkeeps ((hinserted.runAfter now 0 _).runAfter now _ _)) ?_
  intro hwhole claim' hclaim' hqueued
  rw [hclaims] at hclaim'
  rw [hdeliveries]
  rcases List.mem_append.mp hclaim' with hold | hnew
  · obtain ⟨row, hrow', hid⟩ := hwhole claim' hold hqueued
    exact ⟨row, List.mem_append_left _ hrow', hid⟩
  · rw [List.mem_singleton.mp hnew]
    exact ⟨delivery, List.mem_append_right _ List.mem_cons_self, hrow⟩

theorem around_queueMetricEvent {env : LifecycleEnv} (hjobs : JobsOk db) {args : TrackRequest}
    (h : db.queueMetricEventHandler env now args = .ok after) : Around db after := by
  obtain ⟨integration, -, h⟩ := bind_eq_ok.mp h
  obtain ⟨-, h⟩ := ite_error_eq_ok.mp h
  obtain ⟨replay, hreplay, h⟩ := bind_eq_ok.mp h
  cases replay with
  | some replay =>
    cases h
    have hretained := replayMetricEventClaim_eq_ok hreplay
    obtain ⟨hview, hkeeps⟩ := syncView_ensureRetentionScheduled hretained
    have hrows := evaluationView_ensureRetentionScheduled hretained
    exact around_of_view hview (hkeeps hjobs) (whole_of_rows
      (congrArg (fun view => view.2.2.2.1) hrows) (congrArg (fun view => view.2.2.2.2) hrows))
  | none =>
    obtain ⟨orphaned, -, h⟩ := bind_eq_ok.mp h
    cases orphaned with
    | some orphanedDelivery =>
      obtain ⟨-, h⟩ := ite_error_eq_ok.mp h
      cases h
    | none =>
      obtain ⟨deletion, -, h⟩ := bind_eq_ok.mp h
      obtain ⟨-, h⟩ := ite_error_eq_ok.mp h
      exact around_insertMetricEvent hjobs rfl h

/-! ## 3. The tables -/

/-- What holds of the tables: the installation row names the version of the stored snapshot, and
without the row there is no snapshot. -/
structure TablesOk (db : ComponentTables) : Prop where
  jobs : JobsOk db
  version : ∀ row stored, db.integration = some row → db.snapshot = some stored →
    row.snapshotVersion = some stored.environmentVersion
  absent : db.integration = none → db.snapshot = none

theorem TablesOk.around (h : TablesOk db) (haround : Around db after) : TablesOk after := by
  refine ⟨haround.jobs, ?_, ?_⟩
  · intro next stored hnext hstored
    cases hrow : db.integration with
    | none =>
      obtain ⟨habsent, -⟩ := haround.absent hrow
      rw [habsent] at hnext
      cases hnext
    | some row =>
      obtain ⟨_, hnext', -, ⟨hsnapshot, hversion⟩ | ⟨stored', hstored', hversion, -⟩⟩ :=
        haround.kept row hrow
      · cases hnext.symm.trans hnext'
        exact hversion.trans (h.version row stored hrow (hsnapshot ▸ hstored))
      · cases hnext.symm.trans hnext'
        cases hstored.symm.trans hstored'
        exact hversion
  · intro hnone
    cases hrow : db.integration with
    | none =>
      obtain ⟨-, hsnapshot⟩ := haround.absent hrow
      exact hsnapshot.trans (h.absent hrow)
    | some row =>
      obtain ⟨next, hnext, -⟩ := haround.kept row hrow
      rw [hnone] at hnext
      cases hnext

theorem Around.announced (h : Around db after) {environmentVersion : Nat}
    (hannounced : db.Announced environmentVersion) : after.Announced environmentVersion := by
  obtain ⟨row, hrow, hle⟩ := hannounced
  obtain ⟨next, hnext, hle', -⟩ := h.kept row hrow
  exact ⟨next, hnext, hle.trans hle'⟩

theorem TablesOk.initialize (h : TablesOk db) (env : LifecycleEnv) (now : Int)
    (args : InitializeArgs) : TablesOk (db.initializeHandler env now args).2 := by
  unfold initializeHandler
  split
  · obtain ⟨hview, hjobs⟩ := syncView_ensureSyncBackstopScheduled h.jobs now
    have hrows : (db.ensureSyncBackstopScheduled now).evaluationView = db.evaluationView :=
      evaluationView_ensureSyncBackstopScheduled
    have hbacked : Around db (db.ensureSyncBackstopScheduled now) :=
      around_of_view hview hjobs (whole_of_rows (congrArg (fun view => view.2.2.2.1) hrows)
        (congrArg (fun view => view.2.2.2.2) hrows))
    dsimp only
    split
    · refine (h.around hbacked).around (around_of_view (syncView_patch fun _ => rfl) ?_ id)
      refine hjobs.patch fun integration hintegration => ?_
      have hpoints := hjobs.points integration hintegration
      exact ⟨hpoints.recovery, hpoints.drain⟩
    · exact h.around hbacked
  · rename_i habsent
    refine ⟨⟨h.jobs.ids, h.jobs.below, ?_⟩, ?_, fun hnone => by cases hnone⟩
    · rintro integration ⟨⟩
      exact ⟨fun id hid => (by cases hid), fun id hid => (by cases hid)⟩
    · intro row stored _ hstored
      rw [show db.snapshot = none from h.absent habsent] at hstored
      cases hstored

theorem TablesOk.revokeLocal (h : TablesOk db) (hrevoked : db.revokeLocalHandler = .ok after) :
    TablesOk after := by
  obtain ⟨integration, -, hrevoked⟩ := bind_eq_ok.mp hrevoked
  cases hrevoked
  have hcancelled : ∃ cancelled : ComponentTables, JobsOk cancelled ∧
      cancelled.integration = db.integration ∧ cancelled.snapshot = db.snapshot ∧
      db.cancelSyncBackstop integration = cancelled.patchIntegration fun row =>
        { row with syncBackstopJobId := none, syncBackstopDueAt := none } := by
    unfold cancelSyncBackstop
    dsimp only
    split
    · exact ⟨db, h.jobs, rfl, rfl, rfl⟩
    · split
      · exact ⟨_, h.jobs.cancel _, rfl, rfl, rfl⟩
      · exact ⟨db, h.jobs, rfl, rfl, rfl⟩
  obtain ⟨cancelled, hjobs, hintegration, hsnapshot, heq⟩ := hcancelled
  rw [heq]
  refine ⟨?_, ?_, ?_⟩
  · have hpatched : JobsOk (cancelled.patchIntegration fun row =>
        { row with syncBackstopJobId := none, syncBackstopDueAt := none }) :=
      hjobs.patch fun row hrow => ⟨(hjobs.points row hrow).recovery, (hjobs.points row hrow).drain⟩
    exact hpatched.patch fun row hrow =>
      ⟨(hpatched.points row hrow).recovery, (hpatched.points row hrow).drain⟩
  · intro row stored hrow hstored
    obtain ⟨patched, hpatched, rfl⟩ := Option.map_eq_some_iff.mp hrow
    obtain ⟨old, hold, rfl⟩ := Option.map_eq_some_iff.mp hpatched
    exact h.version old stored (hintegration ▸ hold) (hsnapshot ▸ hstored)
  · intro hnone
    have hold : db.integration = none :=
      hintegration ▸ Option.map_eq_none_iff.mp (Option.map_eq_none_iff.mp hnone)
    exact hsnapshot.trans (h.absent hold)

/-- The snapshots are purged before the installation row. -/
theorem TablesOk.purgeBatch (h : TablesOk db) : TablesOk db.purgeBatchHandler.2 := by
  have hrows : ∀ after : ComponentTables, after.integration = db.integration →
      after.snapshot = db.snapshot → after.scheduled = db.scheduled →
      after.nextJobId = db.nextJobId → TablesOk after := by
    intro after hintegration hsnapshot hscheduled hnextJobId
    refine ⟨h.jobs.of_same hintegration hscheduled hnextJobId, ?_, ?_⟩
    · rw [hintegration, hsnapshot]
      exact h.version
    · rw [hintegration, hsnapshot]
      exact h.absent
  unfold purgeBatchHandler
  split
  · exact hrows _ rfl rfl rfl rfl
  split
  · exact hrows _ rfl rfl rfl rfl
  split
  · exact hrows _ rfl rfl rfl rfl
  split
  · exact hrows _ rfl rfl rfl rfl
  split
  · exact hrows _ rfl rfl rfl rfl
  split
  · exact hrows _ rfl rfl rfl rfl
  split
  · exact hrows _ rfl rfl rfl rfl
  split
  · refine ⟨h.jobs.of_same rfl rfl rfl, ?_, fun _ => rfl⟩
    exact fun row stored _ hstored => by cases hstored
  · rename_i hsnapshot
    have hnone : db.snapshot = none := by simpa using hsnapshot
    split
    · refine ⟨⟨h.jobs.ids, h.jobs.below, ?_⟩, ?_, fun _ => hnone⟩
      · exact fun integration hintegration => by cases hintegration
      · exact fun row stored hrow => by cases hrow
    · exact h

/-! ## 4. The action that runs -/

/-- What an install that pulls knows: the snapshot it read of, or one that is announced, is stored. -/
def Pulled (db : ComponentTables) (read : IntegrationRow) (environmentVersion : Nat) : Prop :=
  (db.snapshot = none → ∀ row, db.integration = some row →
    row.snapshotVersion = read.snapshotVersion) ∧
  ∀ stored version, db.snapshot = some stored → read.snapshotVersion = some version →
    version ≤ stored.environmentVersion ∨ environmentVersion ≤ stored.environmentVersion

/-- The stage of an install, at a version of the remote Environment. -/
def StageOk (db : ComponentTables) (remote : Nat) : InstallStage → Prop
  | .initializing _ | .registering _ => True
  | .activating environmentVersion => environmentVersion ≤ remote
  | .reading environmentVersion => environmentVersion ≤ remote ∧ db.Announced environmentVersion
  | .pulling integration environmentVersion => environmentVersion ≤ remote ∧
      db.Announced environmentVersion ∧ Pulled db integration environmentVersion
  | .committing _ environmentVersion => db.Announced environmentVersion

theorem Pulled.around {environmentVersion : Nat} {read : IntegrationRow}
    (h : Pulled db read environmentVersion) (hannounced : db.Announced environmentVersion)
    (haround : Around db after) : Pulled after read environmentVersion := by
  obtain ⟨row, hrow, hle⟩ := hannounced
  obtain ⟨next, hnext, -, ⟨hsnapshot, hversion⟩ | ⟨stored, hstored, hversion, hcurrent⟩⟩ :=
    haround.kept row hrow
  · constructor
    · intro hnone next' hnext'
      cases hnext.symm.trans hnext'
      exact hversion.trans (h.1 (hsnapshot ▸ hnone) row hrow)
    · intro stored version hstored
      exact h.2 stored version (hsnapshot ▸ hstored)
  · constructor
    · intro hnone
      rw [hstored] at hnone
      cases hnone
    · intro stored' version hstored' _
      cases hstored.symm.trans hstored'
      exact .inr (hle.trans hcurrent)

theorem StageOk.around {remote later : Nat} {stage : InstallStage} (h : StageOk db remote stage)
    (haround : Around db after) (hle : remote ≤ later) : StageOk after later stage := by
  cases stage with
  | initializing callbackUrl => trivial
  | registering initialized => trivial
  | activating environmentVersion => exact le_trans h hle
  | reading environmentVersion => exact ⟨h.1.trans hle, haround.announced h.2⟩
  | pulling integration environmentVersion =>
    exact ⟨h.1.trans hle, haround.announced h.2.1, h.2.2.around h.2.1 haround⟩
  | committing payload environmentVersion => exact haround.announced h

end

/-- What holds of every world: its tables are in order, and so is the install that runs. -/
structure LifecycleOk (world : LifecycleWorld) : Prop where
  tables : TablesOk world.db
  stage : ∀ args stage, world.running = some (.install args stage) →
    StageOk world.db world.environmentVersion stage

/-- An install that commits has found the queued Metric Events whole. -/
def CommitsWhole (world : LifecycleWorld) : Prop :=
  ∀ args payload environmentVersion,
    world.running = some (.install args (.committing payload environmentVersion)) → world.db.Whole

/-- Where an install pulls, no removal has stopped halfway. -/
def PullsUnpurged (world : LifecycleWorld) (event : LifecycleEvent) : Prop :=
  ∀ args integration environmentVersion answer,
    world.running = some (.install args (.pulling integration environmentVersion)) →
    event.action = .proceed answer → ¬ world.db.HalfPurged world.environmentVersion

/-- An install that resolves has repaired the component. -/
def ResolvesRepaired (answered : LifecycleAnswer × LifecycleWorld) : Prop :=
  ∀ environmentVersion, answered.1 = .installed environmentVersion →
    answered.2.db.Repaired environmentVersion

/-- What one step of the machine has to show. -/
structure Advances (world : LifecycleWorld) (event : LifecycleEvent)
    (answered : LifecycleAnswer × LifecycleWorld) : Prop where
  ok : LifecycleOk answered.2
  repaired : CommitsWhole world → PullsUnpurged world event →
    CommitsWhole answered.2 ∧ ResolvesRepaired answered

section

variable {env : LifecycleEnv} {world : LifecycleWorld} {event : LifecycleEvent}

/-- What happens around the action that runs. -/
theorem advances_around (h : LifecycleOk world) {after : ComponentTables} {later : Nat}
    (haround : Around world.db after) (hle : world.environmentVersion ≤ later) :
    Advances world event
      (.idle, { world with db := after, environmentVersion := later }) := by
  refine ⟨⟨h.tables.around haround, ?_⟩, fun hwhole _ => ⟨?_, fun version hanswer => ?_⟩⟩
  · exact fun args stage hrunning => (h.stage args stage hrunning).around haround hle
  · exact fun args payload version hrunning => haround.whole (hwhole args payload version hrunning)
  · cases hanswer

/-- The action that runs is over, and resolves no install. -/
theorem advances_over {answer : LifecycleAnswer} {after : ComponentTables} (h : TablesOk after)
    (hanswer : ∀ version, answer ≠ .installed version) :
    Advances world event (answer, { world with db := after, running := none }) := by
  refine ⟨⟨h, fun args stage hrunning => by cases hrunning⟩, fun _ _ => ⟨?_, ?_⟩⟩
  · exact fun args payload version hrunning => by cases hrunning
  · exact fun version hresolved => absurd hresolved (hanswer version)

/-- The install goes on to a stage that is no commit. -/
theorem advances_install {after : ComponentTables} {args : InstallArgs} {stage : InstallStage}
    (h : TablesOk after) (hstage : StageOk after world.environmentVersion stage)
    (hcommit : ∀ payload version, stage ≠ .committing payload version) :
    Advances world event (world.goOn after (.install args stage)) := by
  refine ⟨⟨h, ?_⟩, fun _ _ => ⟨?_, fun version hanswer => by cases hanswer⟩⟩
  · rintro args' stage' ⟨⟩
    exact hstage
  · rintro args' payload version ⟨⟩
    exact absurd rfl (hcommit payload version)

theorem advances_uninstall {after : ComponentTables} {stage : UninstallStage} (h : TablesOk after) :
    Advances world event (world.goOn after (.uninstall stage)) := by
  refine ⟨⟨h, ?_⟩, fun _ _ => ⟨?_, fun version hanswer => by cases hanswer⟩⟩
  · exact fun args stage hrunning => by cases hrunning
  · exact fun args payload version hrunning => by cases hrunning

/-- **An install that has been told that nothing changed** finds its snapshot, where no removal has
stopped halfway. -/
theorem repaired_of_notModified (h : TablesOk world.db) {integration : IntegrationRow}
    {environmentVersion : Nat}
    (hstage : StageOk world.db world.environmentVersion (.pulling integration environmentVersion))
    (hcurrent : integration.snapshotVersion = some world.environmentVersion)
    (hunpurged : ¬ world.db.HalfPurged world.environmentVersion) :
    world.db.Repaired environmentVersion := by
  obtain ⟨hle, ⟨row, hrow, -⟩, hread, hstored⟩ := hstage
  obtain ⟨hwhole, hversion⟩ := not_halfPurged hunpurged
  cases hsnapshot : world.db.snapshot with
  | none => exact absurd ((hread hsnapshot row hrow).trans hcurrent) (hversion hsnapshot row hrow)
  | some stored =>
    refine ⟨⟨row, stored, hrow, hsnapshot, h.version row stored hrow hsnapshot, ?_⟩, hwhole⟩
    rcases hstored stored _ hsnapshot hcurrent with hstoredVersion | hstoredVersion
    · exact hle.trans hstoredVersion
    · exact hstoredVersion

/-- **An install that commits** stores a snapshot that is announced. -/
theorem repaired_of_commit (h : TablesOk world.db) {after : ComponentTables} {payload : String}
    {environmentVersion : Nat} (hannounced : world.db.Announced environmentVersion)
    (hwhole : world.db.Whole)
    (hcommitted : world.db.commitSnapshotHandler env.toConvexEnv payload = .ok after) :
    after.Repaired environmentVersion := by
  obtain ⟨row, hrow, hle⟩ := hannounced
  obtain ⟨⟨next, stored, hnext, hsnapshot, hversion, hcurrent, -⟩, -⟩ :=
    commitSnapshot_move 0 h.jobs hrow hcommitted
  refine ⟨⟨next, stored, hnext, hsnapshot, hversion, hle.trans hcurrent⟩, ?_⟩
  have hrows := evaluationView_commitSnapshot hcommitted
  exact whole_of_rows (congrArg (fun view => view.2.2.2.1) hrows)
    (congrArg (fun view => view.2.2.2.2) hrows) hwhole

/-! ## 5. Steps -/

theorem advances_installStep (h : LifecycleOk world) (env : LifecycleEnv) (event : LifecycleEvent)
    {args : InstallArgs} {stage : InstallStage} {answer : RemoteAnswer}
    (hrunning : world.running = some (.install args stage))
    (haction : event.action = .proceed answer) :
    Advances world event (world.installStep env event.now args answer stage) := by
  have hstage := h.stage args stage hrunning
  have hrejected : Advances world event world.rejected :=
    advances_over h.tables (fun _ => by simp)
  cases stage with
  | initializing callbackUrl =>
    have hinitialized := h.tables.initialize env event.now
      { installationId := args.installationId
        webhookSecret := args.webhookSecret
        componentIdentityKey := args.componentIdentityKey
        callbackUrl
        endpoint := args.endpoint }
    unfold LifecycleWorld.installStep
    dsimp only
    split
    · rename_i heq
      rw [heq] at hinitialized
      exact advances_over hinitialized (fun _ => by simp)
    · rename_i heq
      rw [heq] at hinitialized
      exact advances_install hinitialized trivial (fun _ _ => by simp)
  | registering initialized =>
    cases answer with
    | failed => exact hrejected
    | answered payload => exact advances_install h.tables (le_refl _) (fun _ _ => by simp)
  | activating environmentVersion =>
    unfold LifecycleWorld.installStep
    dsimp only
    split
    · exact hrejected
    · rename_i after hactivated
      have haround := around_activate env.toConvexEnv h.tables.jobs hactivated
      refine advances_install (h.tables.around haround) ⟨hstage, ?_⟩ (fun _ _ => by simp)
      cases hrow : world.db.integration with
      | none =>
        obtain ⟨integration, hintegration, -⟩ := bind_eq_ok.mp hactivated
        unfold requiredIntegration at hintegration
        rw [hrow] at hintegration
        cases hintegration
      | some row =>
        obtain ⟨⟨next, hnext, hversion, -⟩, -⟩ :=
          activate_move env.toConvexEnv h.tables.jobs hrow hactivated
        exact ⟨next, hnext, hversion⟩
  | reading environmentVersion =>
    unfold LifecycleWorld.installStep
    dsimp only
    split
    · exact hrejected
    · rename_i integration hintegration
      split
      · exact hrejected
      · refine advances_install h.tables ⟨hstage.1, hstage.2, ?_, ?_⟩ (fun _ _ => by simp)
        · intro _ row hrow
          cases hintegration.symm.trans hrow
          rfl
        · intro stored version hstored hversion
          have hrowVersion := h.tables.version integration stored hintegration hstored
          rw [hversion] at hrowVersion
          exact .inl (Option.some.inj hrowVersion).le
  | pulling integration environmentVersion =>
    unfold LifecycleWorld.installStep
    dsimp only
    cases answer with
    | failed => exact hrejected
    | answered payload =>
      dsimp only
      split
      · rename_i hcurrent
        refine ⟨⟨h.tables, fun args stage hover => by cases hover⟩, fun _ hunpurged => ⟨?_, ?_⟩⟩
        · exact fun args payload version hover => by cases hover
        · rintro version ⟨⟩
          exact repaired_of_notModified h.tables hstage hcurrent
            (hunpurged args integration environmentVersion _ hrunning haction)
      · refine ⟨⟨h.tables, ?_⟩, fun _ hunpurged => ⟨?_, fun version hanswer => by cases hanswer⟩⟩
        · rintro args' stage ⟨⟩
          exact hstage.2.1
        · exact fun _ _ _ _ => (not_halfPurged
            (hunpurged args integration environmentVersion _ hrunning haction)).1
  | committing payload environmentVersion =>
    unfold LifecycleWorld.installStep
    dsimp only
    split
    · exact hrejected
    · rename_i after hcommitted
      have haround := around_commitSnapshot h.tables.jobs hcommitted
      refine ⟨⟨h.tables.around haround, fun args stage hover => by cases hover⟩,
        fun hwhole _ => ⟨fun args payload version hover => (by cases hover), ?_⟩⟩
      rintro version ⟨⟩
      exact repaired_of_commit h.tables hstage (hwhole _ _ _ hrunning) hcommitted

theorem advances_uninstallStep (h : LifecycleOk world) (event : LifecycleEvent)
    (answer : RemoteAnswer) (stage : UninstallStage) :
    Advances world event (world.uninstallStep answer stage) := by
  have hrejected : Advances world event world.rejected :=
    advances_over h.tables (fun _ => by simp)
  cases stage with
  | deleting integration =>
    cases answer with
    | failed => exact hrejected
    | answered payload => exact advances_uninstall h.tables
  | revoking =>
    unfold LifecycleWorld.uninstallStep
    dsimp only
    split
    · exact hrejected
    · rename_i after hrevoked
      exact advances_uninstall (h.tables.revokeLocal hrevoked)
  | purging =>
    have hpurged := h.tables.purgeBatch
    unfold LifecycleWorld.uninstallStep
    dsimp only
    split
    · rename_i heq
      rw [heq] at hpurged
      exact advances_over hpurged (fun _ => by simp)
    · rename_i heq
      rw [heq] at hpurged
      exact advances_uninstall hpurged

theorem step_proceed {env : LifecycleEnv} {now : Int} {args : InstallArgs} {stage : InstallStage}
    {answer : RemoteAnswer} (hrunning : world.running = some (.install args stage)) :
    world.step env { now, action := .proceed answer } =
      world.installStep env now args answer stage := by
  unfold LifecycleWorld.step
  dsimp only
  rw [hrunning]

/-- **Every step** keeps the world in order, and repairs what it resolves. Installs and uninstalls are
cut into their transactions, and between two of them any event of the component may come; such an
event keeps whole what was whole, which is why an install has its repair still when it resolves. -/
theorem advances_step (env : LifecycleEnv) (h : LifecycleOk world) (event : LifecycleEvent) :
    Advances world event (world.step env event) := by
  have hidle : Advances world event (.idle, world) :=
    advances_around h (.refl h.tables.jobs) le_rfl
  have hcomponent : ∀ sync, Advances world event (world.component env sync) :=
    fun sync => advances_around h (around_syncStep env.toConvexEnv h.tables.jobs sync) le_rfl
  unfold LifecycleWorld.step
  split
  · split
    · exact hidle
    · split
      · refine ⟨h, fun hwhole _ => ⟨hwhole, fun version hanswer => by cases hanswer⟩⟩
      · exact advances_install h.tables trivial (fun _ _ => by simp)
  · split
    · exact hidle
    · split
      · exact hidle
      · exact advances_uninstall h.tables
  · rename_i answer haction
    split
    · exact hidle
    · rename_i args stage hrunning
      exact advances_installStep h env event hrunning haction
    · exact advances_uninstallStep h event answer _
  · exact advances_over h.tables (fun _ => by simp)
  · exact advances_around h (.refl h.tables.jobs) (le_max_left _ _)
  · exact hcomponent _
  · exact hcomponent _
  · exact hcomponent _
  · exact hcomponent _
  · unfold LifecycleWorld.committed
    split
    · exact hidle
    · rename_i after hqueued
      exact advances_around h (around_queueMetricEvent h.tables.jobs hqueued) le_rfl

/-! ## 6. Runs -/

theorem lifecycleOk_init (env : LifecycleEnv) : LifecycleOk (installLifecycle env).init := by
  refine ⟨⟨⟨List.nodup_nil, ?_, ?_⟩, ?_, fun _ => rfl⟩, ?_⟩
  · exact fun job hjob => absurd hjob List.not_mem_nil
  · exact fun integration hintegration => by cases hintegration
  · exact fun row stored hrow => by cases hrow
  · exact fun args stage hrunning => by cases hrunning

theorem lifecycleOk_run (env : LifecycleEnv) (es : List LifecycleEvent) :
    LifecycleOk ((installLifecycle env).run es) :=
  (installLifecycle env).exec_invariant (I := LifecycleOk)
    (fun _ event h => (advances_step env h event).ok) (lifecycleOk_init env) es

end

/-- **What an install repairs.**  In every run in which no install pulls from a component whose
removal stopped halfway, each install that resolves leaves a stored snapshot, of the version of the
installation row and no older than the version it returns, and the delivery rows of all queued
Metric Events.

And an install that is told that its version is current resolves, and has repaired the component
just when no removal had stopped halfway. -/
theorem install_repairs (env : LifecycleEnv) :
    (∀ es, (installLifecycle env).Guarded PullsUnpurged (installLifecycle env).init es →
      ∀ before event, before ++ [event] <+: es → ResolvesRepaired
        ((installLifecycle env).step ((installLifecycle env).run before) event)) ∧
    ∀ es args integration environmentVersion now payload,
      let world := (installLifecycle env).run es
      let answered := (installLifecycle env).step world { now, action := .proceed (.answered payload) }
      world.running = some (.install args (.pulling integration environmentVersion)) →
      integration.snapshotVersion = some world.environmentVersion →
      answered.1 = .installed environmentVersion ∧
        (answered.2.db.Repaired environmentVersion ↔
          ¬ world.db.HalfPurged world.environmentVersion) := by
  constructor
  · intro es hguarded before event hbefore
    obtain ⟨rest, rfl⟩ := hbefore
    rw [Machine.guarded_append, Machine.guarded_append] at hguarded
    obtain ⟨⟨hbefore, hevent, -⟩, -⟩ := hguarded
    have hinv := (installLifecycle env).exec_invariant_of_guarded
      (I := fun world => LifecycleOk world ∧ CommitsWhole world)
      (fun world event h hunpurged => ⟨(advances_step env h.1 event).ok,
        ((advances_step env h.1 event).repaired h.2 hunpurged).1⟩)
      ⟨lifecycleOk_init env, fun args payload version hrunning => by cases hrunning⟩ hbefore
    exact ((advances_step env hinv.1 event).repaired hinv.2 hevent).2
  · intro es args integration environmentVersion now payload world answered hrunning hcurrent
    have hok := lifecycleOk_run env es
    have hanswered : answered =
        (.installed environmentVersion, { world with running := none }) := by
      have hstep : answered = LifecycleWorld.installStep env world now args (.answered payload)
          (.pulling integration environmentVersion) := step_proceed hrunning
      rw [hstep]
      exact if_pos hcurrent
    rw [hanswered]
    refine ⟨rfl, ?_, repaired_of_notModified hok.tables (hok.stage _ _ hrunning) hcurrent⟩
    rintro ⟨⟨row, stored, -, hstored, -⟩, hwhole⟩ (⟨hnone, -⟩ | ⟨claim, hclaim, hqueued, hpurged⟩)
    · rw [hstored] at hnone
      cases hnone
    · obtain ⟨delivery, hdelivery, hid⟩ := hwhole claim hclaim hqueued
      exact hpurged delivery hdelivery hid

/-! ## 7. Removals that stop halfway -/

def removedPayload : String :=
  "\x7b\"schemaVersion\":1,\"environmentVersion\":1,\"appId\":\"app_1\"," ++
  "\"environmentId\":\"env_1\",\"flags\":[],\"experiments\":[],\"runs\":[]\x7d"

/-- An Environment without Flags. -/
def removedEnv : LifecycleEnv where
  core :=
    { configSnapshotSchema := fun payload =>
        if payload = removedPayload then
          some
            { environmentVersion := 1
              appId := "app_1"
              environmentId := "env_1"
              flags := []
              experiments := []
              runs := [] }
        else none
      matchesCondition := fun _ _ => .ok false
      fractionalEval := fun _ _ weights => (weights.headD ("", 0)).1 }
  evaluatePath := fun _ _ _ =>
    .error { errorCode := "FLAG_NOT_FOUND", message := "Flag not found", resolutionReason := "ERROR" }
  sha256Hex := Sha256.hex
  hmacHex := fun _ _ => "6fdc485f12746b6e354eb8da1afa1b6755e63dcab8da62c31d192e9609e36c76"
  stableUuid := id
  canonicalJson := fun flagKey context defaultValue snapshotVersion =>
    "\x7b\"context\":\x7b\"attributes\":" ++ context.attributes ++ ",\"idType\":\"" ++
      context.idType ++ "\",\"targetingKey\":\"" ++ context.targetingKey ++
      "\"\x7d,\"defaultValue\":" ++ defaultValue ++ ",\"flagKey\":\"" ++ flagKey ++
      "\",\"snapshotVersion\":" ++ toString snapshotVersion ++ "\x7d"
  callbackUrlError := fun _ => none
  metricEventJson := fun eventName idType targetingKeyHash fields dimensions =>
    "\x7b\"dimensions\":" ++ dimensions ++ ",\"eventName\":\"" ++ eventName ++
      "\",\"fields\":" ++ fields ++ ",\"idType\":\"" ++ idType ++
      "\",\"targetingKeyHash\":\"" ++ targetingKeyHash ++ "\"\x7d"
  remoteAppId := "app_1"
  remoteEnvironmentId := "env_1"

/-- An install up to its pull. -/
def installing (installationId : String) (now : Int) : List LifecycleEvent :=
  let proceed (now : Int) : LifecycleEvent := { now, action := .proceed (.answered removedPayload) }
  [{ now
     action := .install
      { installationId
        webhookSecret := "d2ViaG9vay1zZWNyZXQtb2YtdGhlLWluc3RhbGxhdGlv"
        componentIdentityKey := "c3BsaXRjaC1pZGVudGl0eS1rZXktZm9yLXRoZS1ydW4"
        endpoint := "https://edge.splitch.dev"
        siteCallbackUrl := .ok "https://fleet-otter-1.convex.site/configuration" } },
    proceed now, proceed (now + 1), proceed (now + 2), proceed (now + 3)]

/-- An uninstall that stops after its first batch. -/
def removing (now : Int) : List LifecycleEvent :=
  let proceed (now : Int) : LifecycleEvent := { now, action := .proceed (.answered "") }
  [{ now, action := .uninstall }, proceed now, proceed (now + 1), proceed (now + 2),
    ⟨now + 3, .stop⟩]

def pulled (now : Int) : LifecycleEvent := { now, action := .proceed (.answered removedPayload) }

def queuedEvent : LifecycleEvent where
  now := 3000
  action := .queueMetricEvent
    { eventName := "purchase"
      targetingKey := "user_1"
      idType := "user"
      eventId := "0f8fad5b-d9cb-469f-a165-70867728950e"
      fields := "\x7b\x7d"
      dimensions := "\x7b\x7d" }

/-- The first install, of version 1. -/
def installed : List LifecycleEvent :=
  ⟨0, .publish 1⟩ :: installing "9b2f1c1e-6a35-4f0b-8a59-2d2a4c1f0001" 1000 ++ [pulled 1004, pulled 1005]

def snapshotPurged : List LifecycleEvent :=
  installed ++ removing 4000 ++ installing "9b2f1c1e-6a35-4f0b-8a59-2d2a4c1f0002" 5000

def deliveryPurged : List LifecycleEvent :=
  installed ++ [queuedEvent] ++ removing 4000 ++
    installing "9b2f1c1e-6a35-4f0b-8a59-2d2a4c1f0002" 5000

/-- The second install, after the removal that stopped, is told that nothing changed. -/
def reinstalled (es : List LifecycleEvent) : LifecycleAnswer × LifecycleWorld :=
  (installLifecycle removedEnv).step ((installLifecycle removedEnv).run es) (pulled 5004)

theorem reinstalled_snapshotPurged : (reinstalled snapshotPurged).1 = .installed 1 ∧
    (reinstalled snapshotPurged).2.db.snapshot = none := by
  decide +kernel

theorem reinstalled_deliveryPurged : (reinstalled deliveryPurged).1 = .installed 1 ∧
    (reinstalled deliveryPurged).2.db.metricEventOutbox = [] ∧
    (reinstalled deliveryPurged).2.db.metricEventClaims.map (·.state) = [.queued] := by
  decide +kernel

/-- **Installs that resolve without a snapshot**, and without the delivery row of a Metric Event
that is queued. -/
theorem reinstalled_unrepaired :
    ¬ ResolvesRepaired (reinstalled snapshotPurged) ∧
      ¬ ResolvesRepaired (reinstalled deliveryPurged) := by
  constructor
  · intro h
    obtain ⟨hanswer, hnone⟩ := reinstalled_snapshotPurged
    obtain ⟨⟨row, stored, -, hstored, -⟩, -⟩ := h 1 hanswer
    rw [hnone] at hstored
    cases hstored
  · intro h
    obtain ⟨hanswer, hpurged, hqueued⟩ := reinstalled_deliveryPurged
    obtain ⟨-, hwhole⟩ := h 1 hanswer
    obtain ⟨claim, hclaim, hstate⟩ := List.mem_map.mp (hqueued ▸ List.mem_cons_self)
    obtain ⟨delivery, hdelivery, -⟩ := hwhole claim hclaim hstate
    rw [hpurged] at hdelivery
    exact List.not_mem_nil hdelivery

end Convex

end Splitch
