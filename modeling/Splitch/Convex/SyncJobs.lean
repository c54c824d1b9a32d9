/-
# The jobs of the synchronization

Of the tables only a part matters here: the stored snapshot, some fields of the installation row
(`SyncFields`), and the scheduled recoveries and deadlines.

The installation row names jobs by their ids (`JobsOk`): a job that it names is of the kind it is
named for, so that cancelling one never cancels another.
-/
import Splitch.Convex.ConfigurationSync

namespace Splitch

namespace Convex

open ComponentTables Checks

/-! ## 1. Jobs -/

/-- The jobs that the installation row names. -/
structure PointsOk (db : ComponentTables) (integration : IntegrationRow) : Prop where
  recovery : ∀ id, integration.syncRecoveryJobId = some id → id < db.nextJobId ∧
    ∀ job ∈ db.scheduled, job.id = id → ∃ version,
      integration.syncRecoveryVersion = some version ∧ job.function = .recoverSync version ∧
        job.state = .pending
  drain : ∀ id, integration.exposureDrainJobId = some id → id < db.nextJobId ∧
    ∀ job ∈ db.scheduled, job.id = id → job.function = .drain

/-- Ids of jobs are new, and the installation row names jobs of the right kind. -/
structure JobsOk (db : ComponentTables) : Prop where
  ids : (db.scheduled.map (·.id)).Nodup
  below : ∀ job ∈ db.scheduled, job.id < db.nextJobId
  points : ∀ integration, db.integration = some integration → PointsOk db integration

section

variable {db : ComponentTables} {integration : IntegrationRow}

theorem PointsOk.runAfter (h : PointsOk db integration) (now delay : Int)
    (function : ScheduledFunction) : PointsOk (db.runAfter now delay function).2 integration := by
  constructor
  · intro id hid
    obtain ⟨hbelow, hjobs⟩ := h.recovery id hid
    refine ⟨Nat.lt_succ_of_lt hbelow, fun job hjob hjobId => ?_⟩
    rcases List.mem_append.mp hjob with hold | hnew
    · exact hjobs job hold hjobId
    · rw [List.mem_singleton.mp hnew] at hjobId
      exact absurd hbelow (hjobId ▸ lt_irrefl _)
  · intro id hid
    obtain ⟨hbelow, hjobs⟩ := h.drain id hid
    refine ⟨Nat.lt_succ_of_lt hbelow, fun job hjob hjobId => ?_⟩
    rcases List.mem_append.mp hjob with hold | hnew
    · exact hjobs job hold hjobId
    · rw [List.mem_singleton.mp hnew] at hjobId
      exact absurd hbelow (hjobId ▸ lt_irrefl _)

theorem PointsOk.cancel (h : PointsOk db integration) (id : Nat) :
    PointsOk (db.cancel id) integration := by
  constructor
  · intro named hnamed
    obtain ⟨hbelow, hjobs⟩ := h.recovery named hnamed
    exact ⟨hbelow, fun job hjob => hjobs job (List.mem_filter.mp hjob).1⟩
  · intro named hnamed
    obtain ⟨hbelow, hjobs⟩ := h.drain named hnamed
    exact ⟨hbelow, fun job hjob => hjobs job (List.mem_filter.mp hjob).1⟩

theorem JobsOk.runAfter (h : JobsOk db) (now delay : Int) (function : ScheduledFunction) :
    JobsOk (db.runAfter now delay function).2 := by
  refine ⟨?_, fun job hjob => ?_, fun integration hintegration =>
    (h.points integration hintegration).runAfter now delay function⟩
  · change ((db.scheduled ++ [_]).map ScheduledJob.id).Nodup
    rw [List.map_append]
    refine List.nodup_append.mpr ⟨h.ids, List.nodup_singleton _, ?_⟩
    rintro id hold other hother rfl
    obtain ⟨job, hjob, hid⟩ := List.mem_map.mp hold
    have hbelow := h.below job hjob
    rw [hid, List.mem_singleton.mp hother] at hbelow
    exact lt_irrefl _ hbelow
  · rcases List.mem_append.mp hjob with hold | hnew
    · exact Nat.lt_succ_of_lt (h.below job hold)
    · rw [List.mem_singleton.mp hnew]
      exact Nat.lt_succ_self _

theorem JobsOk.cancel (h : JobsOk db) (id : Nat) : JobsOk (db.cancel id) := by
  refine ⟨h.ids.sublist (List.filter_sublist.map _), fun job hjob => ?_,
    fun integration hintegration => (h.points integration hintegration).cancel id⟩
  exact h.below job (List.mem_filter.mp hjob).1

theorem JobsOk.patch (h : JobsOk db) {f : IntegrationRow → IntegrationRow}
    (hpoints : ∀ integration, db.integration = some integration → PointsOk db (f integration)) :
    JobsOk (db.patchIntegration f) := by
  refine ⟨h.ids, h.below, fun integration hintegration => ?_⟩
  obtain ⟨old, hold, rfl⟩ := Option.map_eq_some_iff.mp hintegration
  exact ⟨(hpoints old hold).recovery, (hpoints old hold).drain⟩

theorem JobsOk.of_same (h : JobsOk db) {after : ComponentTables}
    (hintegration : after.integration = db.integration) (hscheduled : after.scheduled = db.scheduled)
    (hnextJobId : after.nextJobId = db.nextJobId) : JobsOk after := by
  constructor
  · exact hscheduled ▸ h.ids
  · rw [hscheduled, hnextJobId]
    exact h.below
  · intro integration hrow
    have hpoints := h.points integration (hintegration ▸ hrow)
    constructor
    · rw [hscheduled, hnextJobId]
      exact hpoints.recovery
    · rw [hscheduled, hnextJobId]
      exact hpoints.drain

/-- A job that is found is listed under its id. -/
theorem job_eq_some {id : Option Nat} {job : ScheduledJob} (h : db.job id = some job) :
    job ∈ db.scheduled ∧ id = some job.id := by
  obtain ⟨id, rfl, hfound⟩ := Option.bind_eq_some_iff.mp h
  refine ⟨List.mem_of_find?_eq_some hfound, ?_⟩
  have hid : job.id = id := by simpa using List.find?_some hfound
  rw [hid]

/-- The job that was scheduled last has the new id alone. -/
theorem eq_of_id_runAfter (h : JobsOk db) {now delay : Int} {function : ScheduledFunction}
    {job : ScheduledJob} (hjob : job ∈ (db.runAfter now delay function).2.scheduled)
    (hid : job.id = db.nextJobId) : job.function = function ∧ job.state = .pending := by
  rcases List.mem_append.mp hjob with hold | hnew
  · exact absurd (h.below job hold) (hid ▸ lt_irrefl _)
  · rw [List.mem_singleton.mp hnew]
    exact ⟨rfl, rfl⟩

end

/-! ## 2. What matters -/

/-- The fields of the installation row that the synchronization reads and writes. -/
structure SyncFields where
  installationId : String
  announcedVersion : Nat
  snapshotVersion : Option Nat
  syncRecoveryJobId : Option Nat
  syncRecoveryVersion : Option Nat
  syncOverdueVersion : Option Nat
  state : InstallState
  /-- The App and the Environment are known. -/
  bound : Bool
  deriving DecidableEq, Repr

def IntegrationRow.syncFields (integration : IntegrationRow) : SyncFields where
  installationId := integration.installationId
  announcedVersion := integration.announcedVersion
  snapshotVersion := integration.snapshotVersion
  syncRecoveryJobId := integration.syncRecoveryJobId
  syncRecoveryVersion := integration.syncRecoveryVersion
  syncOverdueVersion := integration.syncOverdueVersion
  state := integration.state
  bound := integration.appId.isSome && integration.environmentId.isSome

def ScheduledFunction.isSync : ScheduledFunction → Bool
  | .recoverSync _ | .markSyncOverdue _ _ => true
  | _ => false

namespace ComponentTables

/-- The scheduled recoveries and deadlines. -/
def syncJobs (db : ComponentTables) : List ScheduledJob := db.scheduled.filter (·.function.isSync)

/-- What matters of the tables. -/
def syncView (db : ComponentTables) : Option SyncFields × Option SnapshotRow × List ScheduledJob :=
  (db.integration.map (·.syncFields), db.snapshot, db.syncJobs)

end ComponentTables

section

variable {db : ComponentTables}

theorem syncJobs_runAfter {now delay : Int} {function : ScheduledFunction}
    (h : function.isSync = false) : (db.runAfter now delay function).2.syncJobs = db.syncJobs := by
  change (db.scheduled ++ [_]).filter _ = _
  rw [List.filter_append]
  simp [syncJobs, h]

theorem syncView_runAfter {now delay : Int} {function : ScheduledFunction}
    (h : function.isSync = false) : (db.runAfter now delay function).2.syncView = db.syncView :=
  Prod.ext rfl (Prod.ext rfl (syncJobs_runAfter h))

theorem syncJobs_cancel {id : Nat}
    (h : ∀ job ∈ db.scheduled, job.id = id → job.function.isSync = false) :
    (db.cancel id).syncJobs = db.syncJobs := by
  unfold syncJobs cancel
  rw [List.filter_filter]
  refine List.filter_congr fun job hjob => ?_
  by_cases hid : job.id = id
  · simp [h job hjob hid]
  · simp [hid]

theorem syncView_patch {f : IntegrationRow → IntegrationRow}
    (h : ∀ integration, (f integration).syncFields = integration.syncFields) :
    (db.patchIntegration f).syncView = db.syncView := by
  unfold syncView patchIntegration
  refine Prod.ext ?_ rfl
  rw [Option.map_map]
  exact congrArg (Option.map · db.integration) (funext h)

/-! ## 3. Retention and drain leave the synchronization -/

theorem syncView_ensureRetentionScheduled {now : Int} {after : ComponentTables}
    (h : db.ensureRetentionScheduled now = .ok after) :
    after.syncView = db.syncView ∧ (JobsOk db → JobsOk after) := by
  unfold ensureRetentionScheduled at h
  split at h
  · cases h
    exact ⟨rfl, id⟩
  · split at h
    · cases h
      exact ⟨rfl, id⟩
    · obtain ⟨due, hdue, h⟩ := bind_eq_ok.mp h
      cases due with
      | none =>
        cases h
        exact ⟨rfl, id⟩
      | some dueAt =>
        cases h
        constructor
        · rw [syncView_patch]
          · exact syncView_runAfter rfl
          · exact fun _ => rfl
        · intro hjobs
          refine (hjobs.runAfter now (dueAt - now) _).patch fun integration hintegration => ?_
          have hpoints := (hjobs.points integration hintegration).runAfter now (dueAt - now)
            (.purgeExpired dueAt)
          exact ⟨hpoints.recovery, hpoints.drain⟩

/-- Scheduling what is no recovery and no deadline, and naming it, leaves the synchronization. -/
theorem syncView_schedule (hjobs : JobsOk db) {now delay : Int} {function : ScheduledFunction}
    (hfunction : function.isSync = false) {f : IntegrationRow → IntegrationRow}
    (hfields : ∀ integration, (f integration).syncFields = integration.syncFields)
    (hdrain : ∀ integration, (f integration).exposureDrainJobId = integration.exposureDrainJobId) :
    let after := (db.runAfter now delay function).2.patchIntegration f
    after.syncView = db.syncView ∧ JobsOk after := by
  constructor
  · rw [syncView_patch hfields]
    exact syncView_runAfter hfunction
  · refine (hjobs.runAfter now delay function).patch fun integration hintegration => ?_
    have hpoints := (hjobs.points integration hintegration).runAfter now delay function
    have hjobId := congrArg SyncFields.syncRecoveryJobId (hfields integration)
    have hversion := congrArg SyncFields.syncRecoveryVersion (hfields integration)
    refine ⟨fun id hid => ?_, fun id hid => hpoints.drain id ((hdrain integration).symm.trans hid)⟩
    obtain ⟨hbelow, hrecovers⟩ := hpoints.recovery id (hjobId.symm.trans hid)
    refine ⟨hbelow, fun job hjob hjobId => ?_⟩
    obtain ⟨version, hrecovery, hkind⟩ := hrecovers job hjob hjobId
    exact ⟨version, hversion.trans hrecovery, hkind⟩

theorem syncView_ensureSyncBackstopScheduled (hjobs : JobsOk db) (now : Int) :
    (db.ensureSyncBackstopScheduled now).syncView = db.syncView ∧
      JobsOk (db.ensureSyncBackstopScheduled now) := by
  unfold ensureSyncBackstopScheduled
  split
  · exact ⟨rfl, hjobs⟩
  · split
    · exact ⟨rfl, hjobs⟩
    · split
      · exact ⟨rfl, hjobs⟩
      · exact syncView_schedule hjobs rfl (fun _ => rfl) fun _ => rfl

theorem syncView_scheduleRecoveryAdoption (hjobs : JobsOk db) (now : Int)
    (integration : IntegrationRow) :
    (db.scheduleRecoveryAdoption now integration).syncView = db.syncView ∧
      JobsOk (db.scheduleRecoveryAdoption now integration) := by
  unfold scheduleRecoveryAdoption
  split
  · exact ⟨rfl, hjobs⟩
  · split
    · exact ⟨rfl, hjobs⟩
    · exact syncView_schedule hjobs rfl (fun _ => rfl) fun _ => rfl

theorem syncView_ensureExposureDrainScheduled (hjobs : JobsOk db) (now dueAt : Int) :
    (db.ensureExposureDrainScheduled now dueAt).syncView = db.syncView ∧
      JobsOk (db.ensureExposureDrainScheduled now dueAt) := by
  -- Scheduling the drain leaves the view, and the row names the new job.
  have hschedule : ∀ db : ComponentTables, JobsOk db →
      let after := (db.runAfter now (dueAt - now) .drain).2.patchIntegration fun integration =>
        { integration with
          exposureDrainJobId := some db.nextJobId
          exposureDrainDueAt := some dueAt }
      after.syncView = db.syncView ∧ JobsOk after := by
    intro db hjobs
    constructor
    · rw [syncView_patch]
      · exact syncView_runAfter rfl
      · exact fun _ => rfl
    · refine (hjobs.runAfter now (dueAt - now) .drain).patch fun integration hintegration => ?_
      have hpoints := (hjobs.points integration hintegration).runAfter now (dueAt - now) .drain
      refine ⟨hpoints.recovery, ?_⟩
      rintro id ⟨⟩
      exact ⟨Nat.lt_succ_self _, fun job hjob hid => (eq_of_id_runAfter hjobs hjob hid).1⟩
  unfold ensureExposureDrainScheduled
  split
  · exact ⟨rfl, hjobs⟩
  · rename_i integration hintegration
    split
    · exact ⟨rfl, hjobs⟩
    · dsimp only
      split
      · exact hschedule db hjobs
      · rename_i existing hexisting
        split
        · exact ⟨rfl, hjobs⟩
        · split
          · exact ⟨rfl, hjobs⟩
          · obtain ⟨hmem, hid⟩ := job_eq_some hexisting
            have hdrain := ((hjobs.points integration hintegration).drain existing.id hid).2
            obtain ⟨hview, hjobs'⟩ := hschedule (db.cancel existing.id) (hjobs.cancel existing.id)
            refine ⟨hview.trans (Prod.ext rfl (Prod.ext rfl ?_)), hjobs'⟩
            refine syncJobs_cancel fun job hjob hjobId => ?_
            rw [hdrain job hjob hjobId]
            rfl

end

/-! ## 4. Recovery and deadline -/

/-- A job that recovers this version is pending, and the installation row names it. -/
def Recovering (db : ComponentTables) (integration : IntegrationRow) (version : Nat) : Prop :=
  integration.syncRecoveryVersion = some version ∧ ∃ job ∈ db.scheduled,
    integration.syncRecoveryJobId = some job.id ∧ job.function = .recoverSync version ∧
      job.state = .pending

/-- The job ends the grace of some version. -/
def ScheduledJob.IsDeadline (job : ScheduledJob) : Prop :=
  ∃ installationId version, job.function = .markSyncOverdue installationId version

/-- The same deadlines are pending. -/
def SameDeadlines (db after : ComponentTables) : Prop :=
  ∀ job : ScheduledJob, job.IsDeadline → (job ∈ after.scheduled ↔ job ∈ db.scheduled)

section

variable {db after : ComponentTables} {integration : IntegrationRow} {now : Int}

theorem SameDeadlines.refl (db : ComponentTables) : SameDeadlines db db := fun _ _ => Iff.rfl

theorem SameDeadlines.trans {last : ComponentTables} (h : SameDeadlines db after)
    (h' : SameDeadlines after last) : SameDeadlines db last :=
  fun job hjob => (h' job hjob).trans (h job hjob)

theorem ScheduledJob.IsDeadline.isSync {job : ScheduledJob} (h : job.IsDeadline) :
    job.function.isSync = true := by
  obtain ⟨installationId, version, hfunction⟩ := h
  rw [hfunction]
  rfl

theorem mem_scheduled_of_syncJobs (h : after.syncJobs = db.syncJobs) {job : ScheduledJob}
    (hsync : job.function.isSync = true) : job ∈ after.scheduled ↔ job ∈ db.scheduled := by
  have hmem : ∀ tables : ComponentTables, job ∈ tables.syncJobs ↔ job ∈ tables.scheduled := by
    intro tables
    simp [syncJobs, hsync]
  rw [← hmem, ← hmem, h]

theorem sameDeadlines_of_syncJobs (h : after.syncJobs = db.syncJobs) : SameDeadlines db after :=
  fun _ hdeadline => mem_scheduled_of_syncJobs h hdeadline.isSync

theorem sameDeadlines_runAfter {delay : Int} {function : ScheduledFunction}
    (h : ∀ installationId version, function ≠ .markSyncOverdue installationId version) :
    SameDeadlines db (db.runAfter now delay function).2 := by
  rintro job ⟨installationId, version, hfunction⟩
  refine ⟨fun hjob => ?_, fun hjob => List.mem_append_left _ hjob⟩
  rcases List.mem_append.mp hjob with hold | hnew
  · exact hold
  · rw [List.mem_singleton.mp hnew] at hfunction
    exact absurd hfunction (h installationId version)

theorem sameDeadlines_cancel {id : Nat}
    (h : ∀ job ∈ db.scheduled, job.id = id → ¬ job.IsDeadline) :
    SameDeadlines db (db.cancel id) := by
  intro job hdeadline
  refine ⟨fun hjob => (List.mem_filter.mp hjob).1, fun hjob => ?_⟩
  refine List.mem_filter.mpr ⟨hjob, decide_eq_true fun hid => ?_⟩
  exact h job hjob hid hdeadline

/-- The job that the installation row names for the recovery is none that ends a grace. -/
theorem JobsOk.recovery_not_deadline (h : JobsOk db) (hrow : db.integration = some integration)
    {id : Nat} (hid : integration.syncRecoveryJobId = some id) :
    ∀ job ∈ db.scheduled, job.id = id → ¬ job.IsDeadline := by
  rintro job hjob hjobId ⟨installationId, version, hfunction⟩
  obtain ⟨_, -, hrecovery, -⟩ := ((h.points integration hrow).recovery id hid).2 job hjob hjobId
  rw [hrecovery] at hfunction
  cases hfunction

/-- Scheduling a recovery, and naming it. -/
theorem recovering_schedule (h : JobsOk db) (hrow : db.integration = some integration)
    (now delay : Int) (version : Nat) :
    let next := { integration with
      syncRecoveryJobId := some db.nextJobId
      syncRecoveryVersion := some version }
    let after := (db.runAfter now delay (.recoverSync version)).2.patchIntegration fun row =>
      { row with syncRecoveryJobId := some db.nextJobId, syncRecoveryVersion := some version }
    after.integration = some next ∧ after.snapshot = db.snapshot ∧ Recovering after next version ∧
      SameDeadlines db after ∧ JobsOk after := by
  intro next after
  have hintegration : after.integration = some next := by
    change db.integration.map _ = _
    rw [hrow]
    rfl
  refine ⟨hintegration, rfl, ⟨rfl, _, List.mem_append_right _ List.mem_cons_self, rfl, rfl, rfl⟩,
    sameDeadlines_runAfter nofun, ?_⟩
  refine (h.runAfter now delay _).patch fun row hrow' => ?_
  have hpoints := (h.points row hrow').runAfter now delay (.recoverSync version)
  refine ⟨?_, hpoints.drain⟩
  rintro id ⟨⟩
  exact ⟨Nat.lt_succ_self _, fun job hjob hid => ⟨version, rfl, eq_of_id_runAfter h hjob hid⟩⟩

/-- `scheduleSyncRecovery` leaves a recovery of the announced version pending, and only the fields
of the recovery may change. -/
theorem recovering_scheduleSyncRecovery (h : JobsOk db) (hrow : db.integration = some integration)
    (delay : Int) {announced : IntegrationRow}
    (hjobId : announced.syncRecoveryJobId = integration.syncRecoveryJobId)
    (hversion : announced.syncRecoveryVersion = integration.syncRecoveryVersion) :
    ∃ next, (db.scheduleSyncRecovery now announced delay).integration = some next ∧
      (∃ jobId version, next =
        { integration with syncRecoveryJobId := jobId, syncRecoveryVersion := version }) ∧
      (db.scheduleSyncRecovery now announced delay).snapshot = db.snapshot ∧
      Recovering (db.scheduleSyncRecovery now announced delay) next announced.announcedVersion ∧
      SameDeadlines db (db.scheduleSyncRecovery now announced delay) ∧
      JobsOk (db.scheduleSyncRecovery now announced delay) := by
  have hschedule : ∀ db : ComponentTables, JobsOk db → db.integration = some integration → _ :=
    fun db h hrow => recovering_schedule h hrow now delay announced.announcedVersion
  unfold scheduleSyncRecovery
  dsimp only
  split
  · obtain ⟨hnext, hsnapshot, hrecovering, hsame, hjobs⟩ := hschedule db h hrow
    exact ⟨_, hnext, ⟨_, _, rfl⟩, hsnapshot, hrecovering, hsame, hjobs⟩
  · rename_i existing hexisting
    obtain ⟨hmem, hid⟩ := job_eq_some hexisting
    rw [hjobId] at hid
    split
    · rename_i hcurrent
      obtain ⟨version, hrecovery, hfunction, hpending⟩ :=
        ((h.points integration hrow).recovery existing.id hid).2 existing hmem rfl
      rw [hversion, hrecovery] at hcurrent
      cases hcurrent
      exact ⟨integration, hrow, ⟨_, _, rfl⟩, rfl,
        ⟨hrecovery, existing, hmem, hid, hfunction, hpending⟩, SameDeadlines.refl db, h⟩
    · split
      · obtain ⟨hnext, hsnapshot, hrecovering, hsame, hjobs⟩ :=
          hschedule (db.cancel existing.id) (h.cancel existing.id) hrow
        refine ⟨_, hnext, ⟨_, _, rfl⟩, hsnapshot, hrecovering, ?_, hjobs⟩
        exact (sameDeadlines_cancel (h.recovery_not_deadline hrow hid)).trans hsame
      · obtain ⟨hnext, hsnapshot, hrecovering, hsame, hjobs⟩ := hschedule db h hrow
        exact ⟨_, hnext, ⟨_, _, rfl⟩, hsnapshot, hrecovering, hsame, hjobs⟩

end

end Convex

end Splitch
