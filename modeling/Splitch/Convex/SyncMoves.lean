/-
# What a mutation does to the synchronization

The component is driven by events of many kinds: announcements, pulls that come back, scheduled recoveries
and deadlines, evaluations, and what an operator does.  Most of them touch the synchronization hardly or not
at all, and what holds of it over a run should not be proved anew for each.

`SyncMove` lists what one event can do to the stored snapshot, to the installation row and to the scheduled
recoveries and deadlines.  The snapshot stays, or one that was announced takes the place of no later one.
The row's version rises or stays, and where it rises its recovery and its deadline are scheduled
(`announced_move`).  A job is scheduled, runs, or is cancelled, and those of another installation are left
alone.

Every event of the component is one of these moves (`step_move`).  Two events need an argument.  A commit
cancels the recovery that waits, and must leave the deadlines, which are jobs like it
(`commitSnapshot_move`); and an evaluation writes rows of its own, and leaves everything that the moves look
at (`evaluateHandler_view`).
-/
import Splitch.Convex.SyncJobs

namespace Splitch

namespace Convex

open ComponentTables Checks
open Cloudflare (parseConfigSnapshot)

/-! ## 1. Moves -/

/-- What one event at `now` may do to the synchronization. -/
inductive SyncMove (env : ConvexEnv) (now : Int) (db after : ComponentTables)
    (row next : IntegrationRow) : Prop
  | quiet (fields : next.syncFields = row.syncFields) (snapshot : after.snapshot = db.snapshot)
      (jobs : after.syncJobs = db.syncJobs)
  | announced (version : Nat) (higher : row.announcedVersion ≤ version)
      (fields : next.syncFields = { row.syncFields with
        announcedVersion := version
        syncRecoveryJobId := next.syncRecoveryJobId
        syncRecoveryVersion := next.syncRecoveryVersion
        state := .active
        bound := true })
      (snapshot : after.snapshot = db.snapshot) (recovery : Recovering after next version)
      (kept : ∀ job ∈ db.scheduled, job.IsDeadline → job ∈ after.scheduled)
      (deadline : next.isBehind version → ∃ job ∈ after.scheduled,
        job.function = .markSyncOverdue row.installationId version)
      (bounded : ∀ job ∈ after.scheduled, job.IsDeadline → job ∈ db.scheduled ∨
        (job.function = .markSyncOverdue row.installationId version ∧
          job.dueAt = now + SYNC_DEADLINE_MS))
  | committed (stored : SnapshotRow) (active : row.state = .active)
      (parsed : ∃ snapshot, parseConfigSnapshot env.core stored.payload "Convex" = .ok snapshot ∧
        snapshot.environmentVersion = stored.environmentVersion)
      (current : row.announcedVersion ≤ stored.environmentVersion)
      (onward : ∀ old, db.snapshot = some old →
        old.environmentVersion ≤ stored.environmentVersion)
      (fields : next.syncFields = { row.syncFields with
        snapshotVersion := some stored.environmentVersion
        syncRecoveryJobId := none
        syncRecoveryVersion := none
        syncOverdueVersion := none })
      (snapshot : after.snapshot = some stored) (deadlines : SameDeadlines db after)
  | recovered
      (fields : next.syncFields = { row.syncFields with
        syncRecoveryJobId := next.syncRecoveryJobId
        syncRecoveryVersion := next.syncRecoveryVersion })
      (snapshot : after.snapshot = db.snapshot)
      (recovery : row.state = .active → ∀ version, row.isBehind version →
        Recovering db row version → Recovering after next version)
      (deadlines : SameDeadlines db after)
  | expired (job : ScheduledJob) (installationId : String) (version : Nat)
      (listed : job ∈ db.scheduled) (function : job.function = .markSyncOverdue installationId version)
      (fields : next.syncFields = { row.syncFields with
        syncOverdueVersion :=
          if row.state = .active ∧ row.installationId = installationId ∧
            row.syncOverdueVersion = none ∧ row.isBehind version then some version
          else row.syncOverdueVersion })
      (snapshot : after.snapshot = db.snapshot)
      (kept : ∀ other ∈ db.scheduled, other.function.isSync → other = job ∨ other ∈ after.scheduled)
      (bounded : ∀ other ∈ after.scheduled, other.function.isSync → other ∈ db.scheduled)

section

variable {env : ConvexEnv} {db after : ComponentTables} {row next : IntegrationRow} {now : Int}

theorem SyncMove.refl : SyncMove env now db db row row := .quiet rfl rfl rfl

/-- Where the view is kept, the row keeps its fields. -/
theorem fields_of_view (hrow : db.integration = some row) (hview : after.syncView = db.syncView) :
    ∃ next, after.integration = some next ∧ next.syncFields = row.syncFields ∧
      after.snapshot = db.snapshot ∧ after.syncJobs = db.syncJobs := by
  have hintegration : after.integration.map (·.syncFields) = db.integration.map (·.syncFields) :=
    congrArg Prod.fst hview
  rw [hrow] at hintegration
  obtain ⟨next, hnext, hfields⟩ := Option.map_eq_some_iff.mp hintegration
  have hrest : (after.snapshot, after.syncJobs) = (db.snapshot, db.syncJobs) :=
    congrArg Prod.snd hview
  exact ⟨next, hnext, hfields, congrArg Prod.fst hrest, congrArg Prod.snd hrest⟩

/-- A recovery that is pending is one of the jobs that matter. -/
theorem recovering_of_syncView {version : Nat} (hfields : next.syncFields = row.syncFields)
    (hjobs : after.syncJobs = db.syncJobs) (h : Recovering db row version) :
    Recovering after next version := by
  obtain ⟨hversion, job, hjob, hjobId, hfunction, hpending⟩ := h
  have hrecoveryVersion : next.syncRecoveryVersion = row.syncRecoveryVersion :=
    congrArg SyncFields.syncRecoveryVersion hfields
  have hrecoveryJobId : next.syncRecoveryJobId = row.syncRecoveryJobId :=
    congrArg SyncFields.syncRecoveryJobId hfields
  refine ⟨hrecoveryVersion.trans hversion, job, ?_, hrecoveryJobId.trans hjobId, hfunction,
    hpending⟩
  have hmem : job ∈ db.syncJobs :=
    List.mem_filter.mpr ⟨hjob, by rw [hfunction]; rfl⟩
  rw [← hjobs] at hmem
  exact (List.mem_filter.mp hmem).1

theorem isBehind_of_snapshotVersion {integration : IntegrationRow} {version : Nat}
    (h : next.snapshotVersion = integration.snapshotVersion) :
    next.isBehind version = integration.isBehind version := by
  unfold IntegrationRow.isBehind
  rw [h]

/-- A move goes on through what keeps the view. -/
theorem SyncMove.trans_quiet {mid : ComponentTables} {last : IntegrationRow}
    (h : SyncMove env now db mid row next) (hfields : last.syncFields = next.syncFields)
    (hsnapshot : after.snapshot = mid.snapshot) (hjobs : after.syncJobs = mid.syncJobs) :
    SyncMove env now db after row last := by
  have hsame := sameDeadlines_of_syncJobs hjobs
  have hjobId : last.syncRecoveryJobId = next.syncRecoveryJobId :=
    congrArg SyncFields.syncRecoveryJobId hfields
  have hversion : last.syncRecoveryVersion = next.syncRecoveryVersion :=
    congrArg SyncFields.syncRecoveryVersion hfields
  cases h with
  | quiet hnext hsnap hsyncJobs =>
    exact .quiet (hfields.trans hnext) (hsnapshot.trans hsnap) (hjobs.trans hsyncJobs)
  | announced version hhigher hnext hsnap hrecovery hkept hdeadline hbounded =>
    refine .announced version hhigher ?_ (hsnapshot.trans hsnap)
      (recovering_of_syncView hfields hjobs hrecovery)
      (fun job hjob hjobDeadline => (hsame job hjobDeadline).mpr (hkept job hjob hjobDeadline))
      (fun hbehind => ?_)
      (fun job hjob hjobDeadline => hbounded job ((hsame job hjobDeadline).mp hjob) hjobDeadline)
    · rw [hfields, hjobId, hversion]
      exact hnext
    · rw [isBehind_of_snapshotVersion (congrArg SyncFields.snapshotVersion hfields)] at hbehind
      obtain ⟨job, hjob, hfunction⟩ := hdeadline hbehind
      exact ⟨job, (hsame job ⟨_, _, hfunction⟩).mpr hjob, hfunction⟩
  | committed stored hactive hparsed hcurrent honward hnext hsnap hdeadlines =>
    exact .committed stored hactive hparsed hcurrent honward (hfields.trans hnext) (hsnapshot.trans hsnap)
      (hdeadlines.trans hsame)
  | recovered hnext hsnap hrecovery hdeadlines =>
    refine .recovered ?_ (hsnapshot.trans hsnap) (fun hactive version hbehind hrecovering =>
      recovering_of_syncView hfields hjobs (hrecovery hactive version hbehind hrecovering))
      (hdeadlines.trans hsame)
    rw [hfields, hjobId, hversion]
    exact hnext
  | expired job installationId version hlisted hfunction hnext hsnap hkept hbounded =>
    refine .expired job installationId version hlisted hfunction (hfields.trans hnext)
      (hsnapshot.trans hsnap) (fun other hother hsync => ?_) fun other hother hsync => ?_
    · rcases hkept other hother hsync with heq | hmem
      · exact .inl heq
      · exact .inr ((mem_scheduled_of_syncJobs hjobs hsync).mpr hmem)
    · exact hbounded other ((mem_scheduled_of_syncJobs hjobs hsync).mp hother) hsync

/-- The rows that the announcement of a version hands to the scheduling of its recovery and of its
deadline. -/
structure Announces (row recovering limited : IntegrationRow) (version : Nat) : Prop where
  recovers : recovering.announcedVersion = version
  jobId : recovering.syncRecoveryJobId = row.syncRecoveryJobId
  recoveryVersion : recovering.syncRecoveryVersion = row.syncRecoveryVersion
  limit : limited.announcedVersion = version
  installationId : limited.installationId = row.installationId
  snapshotVersion : limited.snapshotVersion = row.snapshotVersion

/-- **Announcing a version**: its recovery and its deadline are scheduled. -/
theorem announced_move (now : Int) {patched : ComponentTables}
    {renewed announced limited : IntegrationRow} {version : Nat}
    (hannounces : Announces row announced limited version)
    (hjobs : JobsOk patched) (hrenewed : patched.integration = some renewed)
    (hfields : renewed.syncFields =
      { row.syncFields with announcedVersion := version, state := .active, bound := true })
    (hsnapshot : patched.snapshot = db.snapshot) (hsame : SameDeadlines db patched)
    (hhigher : row.announcedVersion ≤ version) (delay : Int) :
    let after := (patched.scheduleSyncRecovery now announced delay).scheduleSyncDeadline now limited
    (∃ next, after.integration = some next ∧ next.announcedVersion = version ∧
      SyncMove env now db after row next) ∧ JobsOk after := by
  have hjobId : announced.syncRecoveryJobId = renewed.syncRecoveryJobId :=
    hannounces.jobId.trans (congrArg SyncFields.syncRecoveryJobId hfields).symm
  have hrecoveryVersion : announced.syncRecoveryVersion = renewed.syncRecoveryVersion :=
    hannounces.recoveryVersion.trans (congrArg SyncFields.syncRecoveryVersion hfields).symm
  obtain ⟨next, hnext, ⟨recoveryJobId, recoveryVersion, hnextRow⟩, hsnapshot', hrecovering, hsame',
    hjobs'⟩ := recovering_scheduleSyncRecovery hjobs hrenewed delay hjobId hrecoveryVersion
  rw [hannounces.recovers] at hrecovering
  have hdeadlines := hsame.trans hsame'
  have hnextFields : next.syncFields = { row.syncFields with
      announcedVersion := version
      syncRecoveryJobId := next.syncRecoveryJobId
      syncRecoveryVersion := next.syncRecoveryVersion
      state := .active
      bound := true } := by
    rw [hnextRow]
    exact congrArg (fun fields : SyncFields => { fields with
      syncRecoveryJobId := recoveryJobId, syncRecoveryVersion := recoveryVersion }) hfields
  have hversion : next.announcedVersion = version :=
    congrArg SyncFields.announcedVersion hnextFields
  have hbehind : next.isBehind version = limited.isBehind version := by
    refine isBehind_of_snapshotVersion ?_
    exact (congrArg SyncFields.snapshotVersion hnextFields).trans hannounces.snapshotVersion.symm
  intro after
  unfold after scheduleSyncDeadline
  rw [hannounces.limit, hannounces.installationId]
  split
  · rename_i hcurrent
    refine ⟨⟨next, hnext, hversion, .announced version hhigher hnextFields (hsnapshot'.trans hsnapshot)
      hrecovering (fun job hjob hdeadline => (hdeadlines job hdeadline).mpr hjob)
      (fun h => absurd (hbehind ▸ h) hcurrent) fun job hjob hdeadline => ?_⟩, hjobs'⟩
    exact .inl ((hdeadlines job hdeadline).mp hjob)
  · refine ⟨⟨next, hnext, hversion, .announced version hhigher hnextFields (hsnapshot'.trans hsnapshot)
      ?_ (fun job hjob hdeadline => ?_) (fun _ => ?_) fun job hjob hdeadline => ?_⟩,
      hjobs'.runAfter now _ _⟩
    · obtain ⟨hversion, job, hjob, hnamed⟩ := hrecovering
      exact ⟨hversion, job, List.mem_append_left _ hjob, hnamed⟩
    · exact List.mem_append_left _ ((hdeadlines job hdeadline).mpr hjob)
    · exact ⟨_, List.mem_append_right _ List.mem_cons_self, rfl⟩
    · rcases List.mem_append.mp hjob with hold | hnew
      · exact .inl ((hdeadlines job hdeadline).mp hold)
      · rw [List.mem_singleton.mp hnew]
        exact .inr ⟨rfl, rfl⟩

/-! ## 2. Every event is one of the moves -/

theorem activate_move (env : ConvexEnv) (hjobs : JobsOk db) (hrow : db.integration = some row)
    {appId environmentId : String} {environmentVersion : Nat}
    (h : db.activateHandler now appId environmentId environmentVersion = .ok after) :
    (∃ next, after.integration = some next ∧ environmentVersion ≤ next.announcedVersion ∧
      SyncMove env now db after row next) ∧ JobsOk after := by
  obtain ⟨integration, hintegration, h⟩ := bind_eq_ok.mp h
  unfold requiredIntegration at hintegration
  rw [hrow] at hintegration
  cases hintegration
  let version := max row.announcedVersion environmentVersion
  let patched := db.patchIntegration fun integration =>
    { integration with
      appId := some appId
      environmentId := some environmentId
      announcedVersion := version
      state := .active }
  have hpatchedJobs : JobsOk patched := hjobs.patch fun integration hintegration =>
    ⟨(hjobs.points integration hintegration).recovery, (hjobs.points integration hintegration).drain⟩
  have hrenewed : patched.integration = some
      { row with
        appId := some appId
        environmentId := some environmentId
        announcedVersion := version
        state := .active } := by
    change db.integration.map _ = _
    rw [hrow]
    rfl
  have hannounces : Announces row { row with announcedVersion := version, state := .active }
      { row with announcedVersion := version } version := ⟨rfl, rfl, rfl, rfl, rfl, rfl⟩
  obtain ⟨⟨next, hnext, hversion, hmove⟩, hjobs'⟩ := announced_move now hannounces hpatchedJobs hrenewed rfl
    (Eq.refl db.snapshot) (SameDeadlines.refl db) (le_max_left _ _) SYNC_RECOVERY_DELAY_MS
  obtain ⟨retained, hretained, h⟩ := bind_eq_ok.mp h
  have hafter : _ = after := Except.ok.inj h
  obtain ⟨hbackedView, hbackedJobs⟩ := syncView_ensureSyncBackstopScheduled hjobs' now
  obtain ⟨hretainedView, hkeeps⟩ := syncView_ensureRetentionScheduled hretained
  obtain ⟨hadoptedView, hadoptedJobs⟩ := syncView_scheduleRecoveryAdoption (hkeeps hbackedJobs) now
    { row with state := .active }
  obtain ⟨last, hlast, hfields, hsnapshot, hsyncJobs⟩ :=
    fields_of_view hnext (hadoptedView.trans (hretainedView.trans hbackedView))
  have hlastVersion : last.announcedVersion = next.announcedVersion :=
    congrArg SyncFields.announcedVersion hfields
  rw [← hafter]
  refine ⟨⟨last, hlast, ?_, hmove.trans_quiet hfields hsnapshot hsyncJobs⟩, hadoptedJobs⟩
  rw [hlastVersion, hversion]
  exact le_max_right _ _

theorem announce_move (hjobs : JobsOk db) (hrow : db.integration = some row)
    {deliveryId appId environmentId : String} {environmentVersion : Nat}
    {answer : Announcement × ComponentTables}
    (h : db.announceHandler now deliveryId appId environmentId environmentVersion = .ok answer) :
    (∃ next, answer.2.integration = some next ∧ SyncMove env now db answer.2 row next) ∧
      JobsOk answer.2 := by
  obtain ⟨integration, hintegration, h⟩ := bind_eq_ok.mp h
  unfold requiredIntegration at hintegration
  rw [hrow] at hintegration
  cases hintegration
  obtain ⟨hscope, h⟩ := ite_error_eq_ok.mp h
  obtain ⟨prior, -, h⟩ := bind_eq_ok.mp h
  split at h
  · cases h
    exact ⟨⟨row, hrow, .refl⟩, hjobs⟩
  · rename_i hfresh
    obtain ⟨retained, hretained, h⟩ := bind_eq_ok.mp h
    cases h
    push Not at hscope hfresh
    obtain ⟨hview, hkeeps⟩ := syncView_ensureRetentionScheduled hretained
    have hclaimed : JobsOk { db with
        webhookClaims := db.webhookClaims ++ [{ deliveryId, claimedAt := now }] } :=
      hjobs.of_same rfl rfl rfl
    have hretainedJobs := hkeeps hclaimed
    obtain ⟨kept, hkept, hkeptFields, hsnapshot, hsyncJobs⟩ := fields_of_view hrow hview
    let announced := retained.patchIntegration fun row =>
      { row with announcedVersion := environmentVersion }
    have hannouncedJobs : JobsOk announced := hretainedJobs.patch fun integration hintegration =>
      ⟨(hretainedJobs.points integration hintegration).recovery,
        (hretainedJobs.points integration hintegration).drain⟩
    have hrenewed : (announced.runAfter now 0 .sync).2.integration =
        some { kept with announcedVersion := environmentVersion } := by
      change retained.integration.map _ = _
      rw [hkept]
      rfl
    have hrenewedFields : { kept with announcedVersion := environmentVersion }.syncFields =
        { row.syncFields with
          announcedVersion := environmentVersion
          state := .active
          bound := true } := by
      have hannouncedFields := congrArg (fun fields : SyncFields =>
        { fields with announcedVersion := environmentVersion }) hkeptFields
      refine hannouncedFields.trans ?_
      unfold IntegrationRow.syncFields
      rw [hscope.1, hscope.2.1, hscope.2.2]
      rfl
    have hsame : SameDeadlines db (announced.runAfter now 0 .sync).2 :=
      (sameDeadlines_of_syncJobs hsyncJobs).trans (sameDeadlines_runAfter nofun)
    have hannounces : Announces row { row with announcedVersion := environmentVersion }
        { row with announcedVersion := environmentVersion } environmentVersion :=
      ⟨rfl, rfl, rfl, rfl, rfl, rfl⟩
    obtain ⟨⟨next, hnext, -, hmove⟩, hafter⟩ := announced_move now hannounces (hannouncedJobs.runAfter now 0 .sync) hrenewed
      hrenewedFields hsnapshot hsame hfresh.2.le SYNC_RECOVERY_DELAY_MS
    exact ⟨⟨next, hnext, hmove⟩, hafter⟩

theorem JobsOk.cancelPendingSyncRecovery (hjobs : JobsOk db) (hrow : db.integration = some row) :
    JobsOk (db.cancelPendingSyncRecovery row) ∧
      SameDeadlines db (db.cancelPendingSyncRecovery row) ∧
      (db.cancelPendingSyncRecovery row).integration = db.integration ∧
      (db.cancelPendingSyncRecovery row).snapshot = db.snapshot := by
  unfold ComponentTables.cancelPendingSyncRecovery
  split
  · exact ⟨hjobs, .refl db, rfl, rfl⟩
  · rename_i existing hexisting
    split
    · obtain ⟨-, hid⟩ := job_eq_some hexisting
      exact ⟨hjobs.cancel existing.id,
        sameDeadlines_cancel (hjobs.recovery_not_deadline hrow hid), rfl, rfl⟩
    · exact ⟨hjobs, .refl db, rfl, rfl⟩

/-- **A commit** stores a snapshot that is announced, in the place of no later one. -/
theorem commitSnapshot_eq_ok (hrow : db.integration = some row) {payload : String}
    (h : db.commitSnapshotHandler env payload = .ok after) :
    ∃ snapshot, parseConfigSnapshot env.core payload "Convex" = .ok snapshot ∧
      row.state = .active ∧ row.announcedVersion ≤ snapshot.environmentVersion ∧
      (∀ old, db.snapshot = some old → old.environmentVersion ≤ snapshot.environmentVersion) ∧
      after = ({ db with snapshot := some ⟨snapshot.environmentVersion, payload⟩
          }.cancelPendingSyncRecovery row).patchIntegration fun row =>
        { row with
          snapshotVersion := some snapshot.environmentVersion
          syncRecoveryJobId := none
          syncRecoveryVersion := none
          syncOverdueVersion := none } := by
  obtain ⟨snapshot, hparsed, h⟩ := bind_eq_ok.mp h
  obtain ⟨integration, hintegration, h⟩ := bind_eq_ok.mp h
  unfold requiredIntegration at hintegration
  rw [hrow] at hintegration
  cases hintegration
  obtain ⟨hactive, h⟩ := ite_error_eq_ok.mp h
  obtain ⟨-, h⟩ := ite_error_eq_ok.mp h
  obtain ⟨hcurrent, h⟩ := ite_error_eq_ok.mp h
  obtain ⟨honward, h⟩ := ite_error_eq_ok.mp h
  refine ⟨snapshot, hparsed, not_not.mp hactive, Nat.le_of_not_lt hcurrent, ?_,
    (Except.ok.inj h).symm⟩
  intro old hold
  rw [hold] at honward
  simpa using honward

theorem commitSnapshot_move (now : Int) (hjobs : JobsOk db) (hrow : db.integration = some row)
    {payload : String} (h : db.commitSnapshotHandler env payload = .ok after) :
    (∃ next stored, after.integration = some next ∧ after.snapshot = some stored ∧
      next.snapshotVersion = some stored.environmentVersion ∧
      row.announcedVersion ≤ stored.environmentVersion ∧ SyncMove env now db after row next) ∧
      JobsOk after := by
  obtain ⟨snapshot, hparsed, hactive, hcurrent, honward, hafter⟩ := commitSnapshot_eq_ok hrow h
  let stored : ComponentTables := { db with
    snapshot := some { environmentVersion := snapshot.environmentVersion, payload } }
  have hstoredJobs : JobsOk stored := hjobs.of_same rfl rfl rfl
  have hstoredRow : stored.integration = some row := hrow
  obtain ⟨hcancelled, hsame, hintegration, hsnapshot⟩ :=
    hstoredJobs.cancelPendingSyncRecovery hstoredRow
  rw [hafter]
  refine ⟨⟨{ row with
      snapshotVersion := some snapshot.environmentVersion
      syncRecoveryJobId := none
      syncRecoveryVersion := none
      syncOverdueVersion := none }, _, ?_, hsnapshot, rfl, hcurrent,
      .committed _ hactive ⟨snapshot, hparsed, rfl⟩ hcurrent honward rfl hsnapshot hsame⟩, ?_⟩
  · change (stored.cancelPendingSyncRecovery row).integration.map _ = _
    rw [hintegration, hstoredRow]
    rfl
  · refine hcancelled.patch fun integration hintegration => ⟨nofun, ?_⟩
    exact (hcancelled.points integration hintegration).drain

/-- Two listed jobs of one id are one job. -/
theorem JobsOk.eq_of_id (hjobs : JobsOk db) {job other : ScheduledJob} (hjob : job ∈ db.scheduled)
    (hother : other ∈ db.scheduled) (hid : other.id = job.id) : other = job :=
  List.inj_on_of_nodup_map hjobs.ids hother hjob hid

theorem recovering_cancel {id version : Nat} (h : Recovering db row version)
    (hid : row.syncRecoveryJobId ≠ some id) : Recovering (db.cancel id) row version := by
  obtain ⟨hversion, job, hjob, hjobId, hfunction⟩ := h
  refine ⟨hversion, job, List.mem_filter.mpr ⟨hjob, decide_eq_true fun heq => ?_⟩, hjobId,
    hfunction⟩
  exact hid (heq ▸ hjobId)

theorem recoverSync_move (hjobs : JobsOk db) (hrow : db.integration = some row)
    {job : ScheduledJob} (hjob : job ∈ db.scheduled) {environmentVersion : Nat}
    (hfunction : job.function = .recoverSync environmentVersion) :
    let after := (db.cancel job.id).recoverSyncHandler now environmentVersion
    (∃ next, after.integration = some next ∧ SyncMove env now db after row next) ∧ JobsOk after := by
  have hcancelled : JobsOk (db.cancel job.id) := hjobs.cancel job.id
  have hcancelledRow : (db.cancel job.id).integration = some row := hrow
  have hsame : SameDeadlines db (db.cancel job.id) := by
    refine sameDeadlines_cancel fun other hother hid => ?_
    rintro ⟨installationId, version, hdeadline⟩
    rw [hjobs.eq_of_id hjob hother hid, hfunction] at hdeadline
    cases hdeadline
  -- The job that a pending recovery is named by recovers the version of the installation row.
  have hversion : ∀ version, Recovering db row version → row.syncRecoveryJobId = some job.id →
      version = environmentVersion := by
    rintro version ⟨-, named, hnamed, hnamedId, hrecovers, -⟩ hid
    have heq : named.id = job.id := Option.some.inj (hnamedId.symm.trans hid)
    rw [hjobs.eq_of_id hjob hnamed heq, hfunction] at hrecovers
    exact (ScheduledFunction.recoverSync.inj hrecovers).symm
  unfold recoverSyncHandler
  rw [hcancelledRow]
  dsimp only
  split
  · rename_i hother
    refine ⟨⟨row, hcancelledRow, .recovered rfl rfl (fun hactive version hbehind hrecovering => ?_)
      hsame⟩, hcancelled⟩
    refine recovering_cancel hrecovering fun hid => ?_
    rcases hother with hinactive | hunnamed
    · exact hinactive hactive
    · exact hunnamed (hversion version hrecovering hid ▸ hrecovering.1)
  · rename_i hnamed
    push Not at hnamed
    split
    · rename_i hcurrent
      refine ⟨⟨{ row with syncRecoveryJobId := none, syncRecoveryVersion := none }, ?_,
        .recovered rfl rfl (fun _ version hbehind hrecovering => ?_) hsame⟩, ?_⟩
      · change (db.cancel job.id).integration.map _ = _
        rw [hcancelledRow]
        rfl
      · have heq : version = environmentVersion :=
          Option.some.inj (hrecovering.1.symm.trans hnamed.2)
        exact absurd (heq ▸ hbehind) hcurrent
      · refine hcancelled.patch fun integration hintegration => ⟨nofun, ?_⟩
        exact (hcancelled.points integration hintegration).drain
    · obtain ⟨hnext, hsnapshot, hrecovering, hdeadlines, hafter⟩ :=
        recovering_schedule (hcancelled.runAfter now 0 .sync) hcancelledRow now
          SYNC_RECOVERY_DELAY_MS environmentVersion
      have hsynced : SameDeadlines db ((db.cancel job.id).runAfter now 0 .sync).2 :=
        hsame.trans (sameDeadlines_runAfter nofun)
      refine ⟨⟨_, hnext, .recovered rfl hsnapshot (fun _ version _ hpending => ?_)
        (hsynced.trans hdeadlines)⟩, hafter⟩
      have heq : version = environmentVersion :=
        Option.some.inj (hpending.1.symm.trans hnamed.2)
      exact heq ▸ hrecovering

theorem markSyncOverdue_move (hjobs : JobsOk db) (hrow : db.integration = some row)
    {job : ScheduledJob} (hjob : job ∈ db.scheduled) {installationId : String}
    {environmentVersion : Nat}
    (hfunction : job.function = .markSyncOverdue installationId environmentVersion) :
    let after := (db.cancel job.id).markSyncOverdueHandler installationId environmentVersion
    (∃ next, after.integration = some next ∧ SyncMove env now db after row next) ∧ JobsOk after := by
  have hcancelled : JobsOk (db.cancel job.id) := hjobs.cancel job.id
  have hcancelledRow : (db.cancel job.id).integration = some row := hrow
  have hkept : ∀ other ∈ db.scheduled, other = job ∨ other ∈ (db.cancel job.id).scheduled := by
    intro other hother
    by_cases hid : other.id = job.id
    · exact .inl (hjobs.eq_of_id hjob hother hid)
    · exact .inr (List.mem_filter.mpr ⟨hother, decide_eq_true hid⟩)
  have hbounded : ∀ other ∈ (db.cancel job.id).scheduled, other ∈ db.scheduled :=
    fun other hother => (List.mem_filter.mp hother).1
  unfold markSyncOverdueHandler
  rw [hcancelledRow]
  dsimp only
  split
  · rename_i hskipped
    refine ⟨⟨row, hcancelledRow, .expired job installationId environmentVersion hjob hfunction ?_
      rfl (fun other hother _ => hkept other hother) fun other hother _ => hbounded other hother⟩,
      hcancelled⟩
    rw [if_neg]
    · rfl
    · rintro ⟨hactive, hinstallation, hnone, -⟩
      rcases hskipped with hinactive | hother | hsome
      · exact hinactive hactive
      · exact hother hinstallation
      · rw [hnone] at hsome
        cases hsome
  · rename_i hpending
    push Not at hpending
    split
    · rename_i hcurrent
      refine ⟨⟨row, hcancelledRow, .expired job installationId environmentVersion hjob hfunction ?_
        rfl (fun other hother _ => hkept other hother) fun other hother _ => hbounded other hother⟩,
        hcancelled⟩
      rw [if_neg]
      · rfl
      · exact fun h => hcurrent h.2.2.2
    · rename_i hbehind
      refine ⟨⟨{ row with syncOverdueVersion := some environmentVersion }, ?_,
        .expired job installationId environmentVersion hjob hfunction ?_ rfl
          (fun other hother _ => hkept other hother) fun other hother _ => hbounded other hother⟩,
        ?_⟩
      · change (db.cancel job.id).integration.map _ = _
        rw [hcancelledRow]
        rfl
      · rw [if_pos]
        · rfl
        · exact ⟨hpending.1, hpending.2.1, by simpa using hpending.2.2, not_not.mp hbehind⟩
      · refine hcancelled.patch fun integration hintegration => ?_
        have hpoints := hcancelled.points integration hintegration
        exact ⟨hpoints.recovery, hpoints.drain⟩

theorem runScheduled_move (hjobs : JobsOk db) (hrow : db.integration = some row) (id : Nat) :
    (∃ next, (db.runScheduled now id).integration = some next ∧
      SyncMove env now db (db.runScheduled now id) row next) ∧ JobsOk (db.runScheduled now id) := by
  have hidle : (∃ next, db.integration = some next ∧ SyncMove env now db db row next) ∧ JobsOk db :=
    ⟨⟨row, hrow, .refl⟩, hjobs⟩
  unfold runScheduled
  split
  · exact hidle
  · rename_i job hfound
    have hjob : job ∈ db.scheduled := List.mem_of_find?_eq_some hfound
    have hid : job.id = id := by simpa using List.find?_some hfound
    split
    · exact hidle
    · split
      · rename_i environmentVersion hfunction
        exact hid ▸ recoverSync_move hjobs hrow hjob hfunction
      · rename_i installationId environmentVersion hfunction
        exact hid ▸ markSyncOverdue_move hjobs hrow hjob hfunction
      · rename_i hfunction
        refine ⟨⟨row, hrow, .quiet rfl rfl (syncJobs_cancel fun other hother hotherId => ?_)⟩,
          hjobs.cancel id⟩
        rw [hjobs.eq_of_id hjob hother (hotherId.trans hid.symm), hfunction]
        rfl
      · exact hidle

/-! ## 3. An evaluation leaves the synchronization -/

theorem persistExposure_view (hjobs : JobsOk db) {args : EvaluateArgs} {runtime : ReadyRuntime}
    {exposure : Cloudflare.ExposureDecision} {fingerprint : String}
    (h : persistExposure env db now args runtime exposure fingerprint = .ok after) :
    after.syncView = db.syncView ∧ JobsOk after := by
  obtain ⟨assignments, inserted, -, -, rfl⟩ := persistExposure_eq_ok h
  have hinserted : JobsOk { db with
      assignments, exposureOutbox := db.exposureOutbox ++ [inserted] } := hjobs.of_same rfl rfl rfl
  exact syncView_ensureExposureDrainScheduled hinserted now now

theorem evaluateFresh_view (hjobs : JobsOk db) {args : EvaluateArgs} {runtime : ReadyRuntime}
    {fingerprint : String} {answer : Cloudflare.ResolutionDetails × ComponentTables}
    (h : evaluateFresh env db now args runtime fingerprint = .ok answer) :
    answer.2.syncView = db.syncView ∧ JobsOk answer.2 := by
  rcases evaluateFresh_eq_ok h with hidle | ⟨persisted, hpersisted, hscheduled⟩
  · rw [hidle]
    exact ⟨rfl, hjobs⟩
  · have hpersistedView : persisted.syncView = db.syncView ∧ JobsOk persisted := by
      rcases hpersisted with rfl | ⟨-, exposure, hpersisted⟩
      · exact ⟨rfl, hjobs⟩
      · exact persistExposure_view hjobs hpersisted
    obtain ⟨hview, hpersistedJobs⟩ := hpersistedView
    obtain ⟨hscheduledView, hkeeps⟩ := syncView_ensureRetentionScheduled hscheduled
    exact ⟨hscheduledView.trans hview, hkeeps (hpersistedJobs.of_same rfl rfl rfl)⟩

theorem evaluateHandler_view (hjobs : JobsOk db) {args : EvaluateArgs}
    {answer : Cloudflare.ResolutionDetails × ComponentTables}
    (h : evaluateHandler env db now args = .ok answer) :
    answer.2.syncView = db.syncView ∧ JobsOk answer.2 := by
  obtain ⟨-, h⟩ := ite_error_eq_ok.mp h
  obtain ⟨runtime, -, h⟩ := bind_eq_ok.mp h
  obtain ⟨claim, -, h⟩ := bind_eq_ok.mp h
  split at h
  · obtain ⟨-, h⟩ := ite_error_eq_ok.mp h
    obtain ⟨scheduled, hscheduled, h⟩ := bind_eq_ok.mp h
    cases h
    exact (syncView_ensureRetentionScheduled hscheduled).imp_right fun hkeeps => hkeeps hjobs
  · split at h
    · cases h
      exact ⟨rfl, hjobs⟩
    · exact evaluateFresh_view hjobs h

/-- **Every event of the component is one of the moves.** A handler that throws commits nothing, so it
is the move that changes nothing; for the others the move is read off what the handler has written. -/
theorem step_move (env : ConvexEnv) (hjobs : JobsOk db) (hrow : db.integration = some row) (event : SyncEvent) :
    let after := (ComponentTables.syncStep env db event).2
    (∃ next, after.integration = some next ∧ SyncMove env event.now db after row next) ∧
      JobsOk after := by
  have hcommitting : ∀ {α : Type} (outcome : Except String (α × ComponentTables)),
      (∀ answer, outcome = .ok answer →
        (∃ next, answer.2.integration = some next ∧ SyncMove env event.now db answer.2 row next) ∧
          JobsOk answer.2) →
      (∃ next, (db.committing outcome).2.integration = some next ∧
        SyncMove env event.now db (db.committing outcome).2 row next) ∧
        JobsOk (db.committing outcome).2 := by
    intro α outcome houtcome
    cases outcome with
    | error message => exact ⟨⟨row, hrow, .refl⟩, hjobs⟩
    | ok answer => exact houtcome answer rfl
  intro after
  unfold after syncStep
  split
  · refine hcommitting _ fun answer hanswer => ?_
    obtain ⟨activated, hactivated, rfl⟩ := map_eq_ok.mp hanswer
    obtain ⟨⟨next, hnext, -, hmove⟩, hafter⟩ := activate_move env hjobs hrow hactivated
    exact ⟨⟨next, hnext, hmove⟩, hafter⟩
  · refine hcommitting _ fun answer hanswer => ?_
    obtain ⟨announced, hannounced, rfl⟩ := map_eq_ok.mp hanswer
    exact announce_move hjobs hrow hannounced
  · refine hcommitting _ fun answer hanswer => ?_
    obtain ⟨committed, hcommitted, rfl⟩ := map_eq_ok.mp hanswer
    obtain ⟨⟨next, stored, hnext, -, -, -, hmove⟩, hafter⟩ :=
      commitSnapshot_move event.now hjobs hrow hcommitted
    exact ⟨⟨next, hnext, hmove⟩, hafter⟩
  · exact runScheduled_move hjobs hrow _
  · refine hcommitting _ fun answer hanswer => ?_
    obtain ⟨evaluated, hevaluated, rfl⟩ := map_eq_ok.mp hanswer
    obtain ⟨hview, hafter⟩ := evaluateHandler_view hjobs hevaluated
    obtain ⟨next, hnext, hfields, hsnapshot, hsyncJobs⟩ := fields_of_view hrow hview
    exact ⟨⟨next, hnext, .quiet hfields hsnapshot hsyncJobs⟩, hafter⟩

end

end Convex

end Splitch
