/-
# The grace of an announced version

What holds of the synchronization in every state of the component (`Synced`): the installation row
speaks of the snapshot that is stored, `overdue` is set while it is behind alone, and while it is
behind a recovery of the announced version is pending and its grace is running or over.

A version that is announced schedules a recovery and a deadline.  The recovery may fail and be scheduled
again, or be taken over by the one of a newer version, so what is kept is that SOME recovery of the version
announced last is pending while the snapshot is behind.  The deadline is different.  It is due five seconds
after the announcement that it was scheduled for, nothing cancels it, and it leaves only by running.  So a
grace that has been running for five seconds is over (`overdue_of_lagging`): its deadline has run, has found
the snapshot behind, and has set `overdue`.

A newer announcement does not start the grace again, as the deadline of the older version marks it as well
while the snapshot is behind that one (`SyncMove.graced`).

Every step is one of the moves, so each part is shown of moves; versions do not fall, neither the announced
nor the stored one (`versions_le`).
-/
import Splitch.Convex.SyncMoves

namespace Splitch

namespace Convex

open ComponentTables Checks
open Cloudflare (parseConfigSnapshot)

/-! ## 1. What is behind -/

namespace ComponentTables

/-- The stored snapshot, if there is one, is behind the announced version. -/
def Behind (db : ComponentTables) : Prop :=
  ∃ row, db.integration = some row ∧
    ∀ stored, db.snapshot = some stored → stored.environmentVersion < row.announcedVersion

/-- The installation is active, and its snapshot is behind. -/
def Lagging (db : ComponentTables) : Prop :=
  db.Behind ∧ ∃ row, db.integration = some row ∧ row.state = .active

def Overdue (db : ComponentTables) : Prop :=
  ∃ row, db.integration = some row ∧ row.syncOverdueVersion.isSome

/-- A recovery of the announced version is pending. -/
def RecoveryPending (db : ComponentTables) : Prop :=
  ∃ row, db.integration = some row ∧ Recovering db row row.announcedVersion

/-- Every deadline that is due has run. -/
def Punctual (db : ComponentTables) (now : Int) : Prop :=
  ∀ job ∈ db.scheduled, job.IsDeadline → now < job.dueAt

end ComponentTables

/-- The grace of the row is over, or a job that `P` allows ends it. -/
def Graced (P : ScheduledJob → Prop) (db : ComponentTables) (row : IntegrationRow) : Prop :=
  row.syncOverdueVersion.isSome ∨ ∃ job ∈ db.scheduled, P job ∧ ∃ version,
    job.function = .markSyncOverdue row.installationId version ∧ row.isBehind version

structure SyncInv (env : ConvexEnv) (db : ComponentTables) (row : IntegrationRow) : Prop where
  jobs : JobsOk db
  version : row.snapshotVersion = db.snapshot.map (·.environmentVersion)
  parsed : ∀ stored, db.snapshot = some stored →
    ∃ snapshot, parseConfigSnapshot env.core stored.payload "Convex" = .ok snapshot ∧
      snapshot.environmentVersion = stored.environmentVersion
  bound : row.state = .active → row.syncFields.bound = true
  overdue : row.syncOverdueVersion.isSome → row.state = .active ∧ row.isBehind row.announcedVersion
  deadlines : ∀ job ∈ db.scheduled, ∀ installationId version,
    job.function = .markSyncOverdue installationId version →
      installationId = row.installationId ∧ version ≤ row.announcedVersion
  recovering : row.state = .active → row.isBehind row.announcedVersion →
    Recovering db row row.announcedVersion
  graced : row.state = .active → row.isBehind row.announcedVersion → Graced (fun _ => True) db row

/-- The tables hold an installation row, and the synchronization is in order. -/
def Synced (env : ConvexEnv) (db : ComponentTables) : Prop :=
  ∃ row, db.integration = some row ∧ SyncInv env db row

section

variable {env : ConvexEnv} {db after : ComponentTables} {row next : IntegrationRow} {now : Int}

theorem isBehind_mono {version higher : Nat} (h : row.isBehind version) (hle : version ≤ higher) :
    row.isBehind higher := by
  unfold IntegrationRow.isBehind at h ⊢
  split at h
  · rfl
  · exact decide_eq_true ((of_decide_eq_true h).trans_le hle)

/-- The installation row speaks of the stored snapshot. -/
theorem SyncInv.isBehind_iff (h : SyncInv env db row) (version : Nat) :
    row.isBehind version = true ↔
      ∀ stored, db.snapshot = some stored → stored.environmentVersion < version := by
  unfold IntegrationRow.isBehind
  rw [h.version]
  cases db.snapshot with
  | none => simp
  | some stored => simp

theorem SyncInv.behind_iff (h : SyncInv env db row) (hrow : db.integration = some row) :
    db.Behind ↔ row.isBehind row.announcedVersion = true := by
  constructor
  · rintro ⟨_, hrow', hbehind⟩
    cases hrow.symm.trans hrow'
    exact (h.isBehind_iff _).mpr hbehind
  · exact fun hbehind => ⟨row, hrow, (h.isBehind_iff _).mp hbehind⟩

/-! ## 2. One move -/

theorem SyncMove.installationId (h : SyncMove env now db after row next) :
    next.installationId = row.installationId := by
  cases h with
  | quiet fields => exact congrArg SyncFields.installationId fields
  | announced version _ fields => exact congrArg SyncFields.installationId fields
  | committed stored _ _ _ _ fields => exact congrArg SyncFields.installationId fields
  | recovered fields => exact congrArg SyncFields.installationId fields
  | expired job installationId version _ _ fields => exact congrArg SyncFields.installationId fields

/-- **Announced versions do not fall.** -/
theorem SyncMove.announcedVersion_le (h : SyncMove env now db after row next) :
    row.announcedVersion ≤ next.announcedVersion := by
  cases h with
  | quiet fields => exact (congrArg SyncFields.announcedVersion fields).ge
  | announced version higher fields =>
    exact higher.trans (congrArg SyncFields.announcedVersion fields).ge
  | committed stored _ _ _ _ fields => exact (congrArg SyncFields.announcedVersion fields).ge
  | recovered fields => exact (congrArg SyncFields.announcedVersion fields).ge
  | expired job installationId version _ _ fields =>
    exact (congrArg SyncFields.announcedVersion fields).ge

/-- **Stored versions do not fall.** -/
theorem SyncMove.snapshot_le (h : SyncMove env now db after row next) {old : SnapshotRow}
    (hold : db.snapshot = some old) :
    ∃ stored, after.snapshot = some stored ∧ old.environmentVersion ≤ stored.environmentVersion := by
  cases h with
  | quiet _ snapshot => exact ⟨old, snapshot.trans hold, le_rfl⟩
  | announced version _ _ snapshot => exact ⟨old, snapshot.trans hold, le_rfl⟩
  | committed stored _ _ _ onward _ snapshot => exact ⟨stored, snapshot, onward old hold⟩
  | recovered _ snapshot => exact ⟨old, snapshot.trans hold, le_rfl⟩
  | expired job installationId version _ _ _ snapshot =>
    exact ⟨old, snapshot.trans hold, le_rfl⟩

/-- An active installation stays active. -/
theorem SyncMove.active (h : SyncMove env now db after row next) (hactive : row.state = .active) :
    next.state = .active := by
  cases h with
  | quiet fields => exact (congrArg SyncFields.state fields).trans hactive
  | announced version _ fields => exact congrArg SyncFields.state fields
  | committed stored _ _ _ _ fields => exact (congrArg SyncFields.state fields).trans hactive
  | recovered fields => exact (congrArg SyncFields.state fields).trans hactive
  | expired job installationId version _ _ fields =>
    exact (congrArg SyncFields.state fields).trans hactive

/-- A deadline is one from before, or that of the version that was just announced. -/
theorem SyncMove.deadline_cases (h : SyncMove env now db after row next) {job : ScheduledJob}
    (hjob : job ∈ after.scheduled) (hdeadline : job.IsDeadline) : job ∈ db.scheduled ∨
      (job.function = .markSyncOverdue row.installationId next.announcedVersion ∧
        job.dueAt = now + SYNC_DEADLINE_MS) := by
  cases h with
  | quiet _ _ jobs => exact .inl ((sameDeadlines_of_syncJobs jobs job hdeadline).mp hjob)
  | announced version _ fields _ _ _ _ bounded =>
    have hversion : next.announcedVersion = version := congrArg SyncFields.announcedVersion fields
    exact hversion ▸ bounded job hjob hdeadline
  | committed stored _ _ _ _ _ _ deadlines => exact .inl ((deadlines job hdeadline).mp hjob)
  | recovered _ _ _ deadlines => exact .inl ((deadlines job hdeadline).mp hjob)
  | expired expiring installationId version _ _ _ _ _ bounded =>
    exact .inl (bounded job hjob hdeadline.isSync)

/-- **While the snapshot stays behind, a grace goes on until it is over.** Either `overdue` is set, or
the job that will set it is still scheduled: a move drops the job only where it runs, which sets
`overdue`, and a new announcement leaves the older job in its place. -/
theorem SyncMove.graced (h : SyncMove env now db after row next) {P : ScheduledJob → Prop}
    (hactive : row.state = .active) (hbehind : next.isBehind next.announcedVersion)
    (hgraced : Graced P db row) : Graced P after next := by
  have hinstallation := h.installationId
  -- Where `overdue` and the version of the snapshot are kept, the job that ends the grace is too.
  have hkeep : next.syncOverdueVersion = row.syncOverdueVersion →
      next.snapshotVersion = row.snapshotVersion →
      (∀ job ∈ db.scheduled, job.IsDeadline → job ∈ after.scheduled) → Graced P after next := by
    intro hoverdue hsnapshotVersion hkept
    rcases hgraced with hover | ⟨job, hjob, hP, version, hfunction, hjobBehind⟩
    · exact .inl (hoverdue ▸ hover)
    · refine .inr ⟨job, hkept job hjob ⟨_, _, hfunction⟩, hP, version, hinstallation ▸ hfunction, ?_⟩
      rw [isBehind_of_snapshotVersion hsnapshotVersion]
      exact hjobBehind
  cases h with
  | quiet fields _ jobs =>
    exact hkeep (congrArg SyncFields.syncOverdueVersion fields)
      (congrArg SyncFields.snapshotVersion fields)
      fun job hjob hdeadline => (sameDeadlines_of_syncJobs jobs job hdeadline).mpr hjob
  | announced version _ fields _ _ kept =>
    exact hkeep (congrArg SyncFields.syncOverdueVersion fields)
      (congrArg SyncFields.snapshotVersion fields) kept
  | committed stored _ _ current _ fields =>
    have hannounced : next.announcedVersion = row.announcedVersion :=
      congrArg SyncFields.announcedVersion fields
    have hversion : next.snapshotVersion = some stored.environmentVersion :=
      congrArg SyncFields.snapshotVersion fields
    unfold IntegrationRow.isBehind at hbehind
    rw [hversion, hannounced] at hbehind
    exact absurd (of_decide_eq_true hbehind) (Nat.not_lt.mpr current)
  | recovered fields _ _ deadlines =>
    exact hkeep (congrArg SyncFields.syncOverdueVersion fields)
      (congrArg SyncFields.snapshotVersion fields)
      fun job hjob hdeadline => (deadlines job hdeadline).mpr hjob
  | expired expiring installationId version _ function fields _ kept =>
    have hoverdue : next.syncOverdueVersion = if row.state = .active ∧
        row.installationId = installationId ∧ row.syncOverdueVersion = none ∧ row.isBehind version
        then some version else row.syncOverdueVersion :=
      congrArg SyncFields.syncOverdueVersion fields
    have hsnapshotVersion : next.snapshotVersion = row.snapshotVersion :=
      congrArg SyncFields.snapshotVersion fields
    cases hover : row.syncOverdueVersion with
    | some since =>
      refine .inl ?_
      rw [hoverdue, if_neg (fun h => by rw [hover] at h; cases h.2.2.1), hover]
      rfl
    | none =>
      rcases hgraced with hset | ⟨job, hjob, hP, jobVersion, hfunction, hjobBehind⟩
      · rw [hover] at hset
        cases hset
      · rcases kept job hjob (by rw [hfunction]; rfl) with rfl | hpending
        · rw [hfunction] at function
          cases function
          refine .inl ?_
          rw [hoverdue, if_pos ⟨hactive, rfl, hover, hjobBehind⟩]
          rfl
        · refine .inr ⟨job, hpending, hP, jobVersion, hinstallation ▸ hfunction, ?_⟩
          rw [isBehind_of_snapshotVersion hsnapshotVersion]
          exact hjobBehind

/-- A move that keeps the versions and the state of the installation row keeps the synchronization
in order, where it keeps the recovery and sets `overdue` while the snapshot is behind alone. -/
theorem SyncInv.keep (h : SyncInv env db row) (hmove : SyncMove env now db after row next)
    (hjobs : JobsOk after) (hstate : next.state = row.state)
    (hbound : next.syncFields.bound = row.syncFields.bound)
    (hannounced : next.announcedVersion = row.announcedVersion)
    (hversion : next.snapshotVersion = row.snapshotVersion) (hsnapshot : after.snapshot = db.snapshot)
    (hdeadlines : ∀ job ∈ after.scheduled, job.IsDeadline → job ∈ db.scheduled)
    (hoverdue : next.syncOverdueVersion.isSome → row.syncOverdueVersion.isSome ∨
      row.state = .active ∧ row.isBehind row.announcedVersion)
    (hrecovery : row.state = .active → row.isBehind row.announcedVersion →
      Recovering db row row.announcedVersion → Recovering after next row.announcedVersion) :
    SyncInv env after next := by
  have hbehind : next.isBehind next.announcedVersion = row.isBehind row.announcedVersion := by
    rw [isBehind_of_snapshotVersion hversion, hannounced]
  refine ⟨hjobs, ?_, ?_, ?_, ?_, ?_, ?_, ?_⟩
  · rw [hversion, hsnapshot]
    exact h.version
  · rw [hsnapshot]
    exact h.parsed
  · rw [hstate, hbound]
    exact h.bound
  · rw [hstate, hbehind]
    intro hset
    rcases hoverdue hset with hold | hnew
    · exact h.overdue hold
    · exact hnew
  · intro job hjob installationId version hfunction
    rw [hmove.installationId, hannounced]
    exact h.deadlines job (hdeadlines job hjob ⟨_, _, hfunction⟩) installationId version hfunction
  · rw [hstate, hbehind, hannounced]
    exact fun hactive hlags => hrecovery hactive hlags (h.recovering hactive hlags)
  · rw [hstate]
    intro hactive hlags
    exact hmove.graced hactive hlags (h.graced hactive (hbehind ▸ hlags))

/-- **Every move keeps the synchronization in order.** The moves that touch no field of the
synchronization are told apart from those that announce, commit or let a deadline pass, so each part
of the invariant is argued where its own field changes. -/
theorem SyncInv.move (h : SyncInv env db row) (hmove : SyncMove env now db after row next)
    (hjobs : JobsOk after) : SyncInv env after next := by
  have hkeep := h.keep hmove hjobs
  cases hmove with
  | quiet fields snapshot jobs =>
    refine hkeep (congrArg SyncFields.state fields) (congrArg SyncFields.bound fields)
      (congrArg SyncFields.announcedVersion fields)
      (congrArg SyncFields.snapshotVersion fields) snapshot ?_ ?_ ?_
    · exact fun job hjob hdeadline => (sameDeadlines_of_syncJobs jobs job hdeadline).mp hjob
    · have hoverdue : next.syncOverdueVersion = row.syncOverdueVersion :=
        congrArg SyncFields.syncOverdueVersion fields
      exact fun hset => .inl (hoverdue ▸ hset)
    · exact fun _ _ hrecovering => recovering_of_syncView fields jobs hrecovering
  | announced version higher fields snapshot recovery kept deadline bounded =>
    have hannounced : next.announcedVersion = version := congrArg SyncFields.announcedVersion fields
    have hversion : next.snapshotVersion = row.snapshotVersion :=
      congrArg SyncFields.snapshotVersion fields
    have hstate : next.state = .active := congrArg SyncFields.state fields
    have hinstallation : next.installationId = row.installationId :=
      congrArg SyncFields.installationId fields
    refine ⟨hjobs, ?_, ?_, ?_, ?_, ?_, ?_, ?_⟩
    · rw [hversion, snapshot]
      exact h.version
    · rw [snapshot]
      exact h.parsed
    · exact fun _ => congrArg SyncFields.bound fields
    · have hoverdue : next.syncOverdueVersion = row.syncOverdueVersion :=
        congrArg SyncFields.syncOverdueVersion fields
      rw [hoverdue, hannounced, isBehind_of_snapshotVersion hversion]
      exact fun hset => ⟨hstate, isBehind_mono (h.overdue hset).2 higher⟩
    · intro job hjob installationId jobVersion hfunction
      rw [hinstallation, hannounced]
      rcases bounded job hjob ⟨_, _, hfunction⟩ with hold | ⟨hnew, -⟩
      · obtain ⟨hjobInstallation, hle⟩ := h.deadlines job hold installationId jobVersion hfunction
        exact ⟨hjobInstallation, hle.trans higher⟩
      · rw [hfunction] at hnew
        cases hnew
        exact ⟨rfl, le_rfl⟩
    · exact fun _ _ => hannounced ▸ recovery
    · intro _ hlags
      rw [hannounced] at hlags
      obtain ⟨job, hjob, hfunction⟩ := deadline hlags
      exact .inr ⟨job, hjob, trivial, version, hinstallation ▸ hfunction, hlags⟩
  | committed stored active parsed current onward fields snapshot deadlines =>
    have hversion : next.snapshotVersion = some stored.environmentVersion :=
      congrArg SyncFields.snapshotVersion fields
    have hannounced : next.announcedVersion = row.announcedVersion :=
      congrArg SyncFields.announcedVersion fields
    have hstate : next.state = row.state := congrArg SyncFields.state fields
    have hinstallation : next.installationId = row.installationId :=
      congrArg SyncFields.installationId fields
    have hcurrent : ¬ next.isBehind next.announcedVersion := by
      unfold IntegrationRow.isBehind
      rw [hversion, hannounced]
      exact fun hlags => absurd (of_decide_eq_true hlags) (Nat.not_lt.mpr current)
    refine ⟨hjobs, ?_, ?_, ?_, ?_, ?_, ?_, ?_⟩
    · rw [hversion, snapshot]
      rfl
    · rw [snapshot]
      rintro _ ⟨⟩
      exact parsed
    · rw [hstate]
      exact fun hactive => (congrArg SyncFields.bound fields).trans (h.bound hactive)
    · have hoverdue : next.syncOverdueVersion = none :=
        congrArg SyncFields.syncOverdueVersion fields
      rw [hoverdue]
      exact fun hset => by cases hset
    · intro job hjob installationId version hfunction
      rw [hinstallation, hannounced]
      exact h.deadlines job ((deadlines job ⟨_, _, hfunction⟩).mp hjob) installationId version
        hfunction
    · exact fun _ hlags => absurd hlags hcurrent
    · exact fun _ hlags => absurd hlags hcurrent
  | recovered fields snapshot recovery deadlines =>
    have hbound : next.syncFields.bound = row.syncFields.bound := by
      rw [fields]
    refine hkeep (congrArg SyncFields.state fields) hbound
      (congrArg SyncFields.announcedVersion fields) (congrArg SyncFields.snapshotVersion fields)
      snapshot (fun job hjob hdeadline => (deadlines job hdeadline).mp hjob) ?_
      fun hactive hlags => recovery hactive _ hlags
    have hoverdue : next.syncOverdueVersion = row.syncOverdueVersion :=
      congrArg SyncFields.syncOverdueVersion fields
    exact fun hset => .inl (hoverdue ▸ hset)
  | expired job installationId version listed function fields snapshot kept bounded =>
    have hbound : next.syncFields.bound = row.syncFields.bound := by
      rw [fields]
    refine hkeep (congrArg SyncFields.state fields) hbound
      (congrArg SyncFields.announcedVersion fields) (congrArg SyncFields.snapshotVersion fields)
      snapshot (fun other hother hdeadline => bounded other hother hdeadline.isSync) ?_ ?_
    · have hoverdue : next.syncOverdueVersion = if row.state = .active ∧
          row.installationId = installationId ∧ row.syncOverdueVersion = none ∧
          row.isBehind version then some version else row.syncOverdueVersion :=
        congrArg SyncFields.syncOverdueVersion fields
      rw [hoverdue]
      split
      · rename_i hexpires
        obtain ⟨-, hle⟩ := h.deadlines job listed installationId version function
        exact fun _ => .inr ⟨hexpires.1, isBehind_mono hexpires.2.2.2 hle⟩
      · exact .inl
    · rintro - - ⟨hversion, recovering, hlisted, hnamed, hrecovers, hpending⟩
      refine ⟨(congrArg SyncFields.syncRecoveryVersion fields).trans hversion, recovering, ?_,
        (congrArg SyncFields.syncRecoveryJobId fields).trans hnamed, hrecovers, hpending⟩
      rcases kept recovering hlisted (by rw [hrecovers]; rfl) with rfl | hkept
      · rw [hrecovers] at function
        cases function
      · exact hkept

theorem Synced.step (h : Synced env db) (event : SyncEvent) :
    Synced env (ComponentTables.syncStep env db event).2 := by
  obtain ⟨row, hrow, hinv⟩ := h
  obtain ⟨⟨next, hnext, hmove⟩, hjobs⟩ := step_move env hinv.jobs hrow event
  exact ⟨next, hnext, hinv.move hmove hjobs⟩

/-! ## 3. Runs -/

/-- No deadline is due later than five seconds after `t`. -/
def DeadlinesBy (db : ComponentTables) (t : Int) : Prop :=
  ∀ job ∈ db.scheduled, job.IsDeadline → job.dueAt ≤ t + SYNC_DEADLINE_MS

theorem Synced.init (args : InitializeArgs) : Synced env (configurationSync env args).init := by
  refine ⟨initializedRow args, rfl, ⟨⟨List.nodup_nil, ?_, ?_⟩, rfl, ?_, ?_, ?_, ?_, ?_, ?_⟩⟩
  · exact fun job hjob => absurd hjob List.not_mem_nil
  · intro integration hintegration
    cases hintegration
    exact ⟨fun id hid => (by cases hid), fun id hid => (by cases hid)⟩
  · exact fun stored hstored => by cases hstored
  · exact fun hactive => by cases hactive
  · exact fun hset => by cases hset
  · exact fun job hjob => absurd hjob List.not_mem_nil
  · exact fun hactive => by cases hactive
  · exact fun hactive => by cases hactive

theorem synced_run (env : ConvexEnv) (args : InitializeArgs) (es : List SyncEvent) :
    Synced env ((configurationSync env args).run es) :=
  (configurationSync env args).exec_invariant (fun _ e h => h.step e) (Synced.init args) es

theorem Synced.lagging_iff (h : Synced env db) (hrow : db.integration = some row) :
    db.Lagging ↔ row.state = .active ∧ row.isBehind row.announcedVersion = true := by
  obtain ⟨_, hrow', hinv⟩ := h
  cases hrow.symm.trans hrow'
  constructor
  · rintro ⟨hbehind, active, hactiveRow, hactive⟩
    cases hrow.symm.trans hactiveRow
    exact ⟨hactive, (hinv.behind_iff hrow).mp hbehind⟩
  · exact fun ⟨hactive, hlags⟩ => ⟨(hinv.behind_iff hrow).mpr hlags, row, hrow, hactive⟩

theorem Synced.behind_of_overdue (h : Synced env db) (hoverdue : db.Overdue) : db.Behind := by
  obtain ⟨row, hrow, hinv⟩ := h
  obtain ⟨_, hrow', hset⟩ := hoverdue
  cases hrow.symm.trans hrow'
  exact (hinv.behind_iff hrow).mpr (hinv.overdue hset).2

theorem Synced.recoveryPending (h : Synced env db) (hlags : db.Lagging) : db.RecoveryPending := by
  obtain ⟨row, hrow, hinv⟩ := id h
  obtain ⟨hactive, hbehind⟩ := (h.lagging_iff hrow).mp hlags
  exact ⟨row, hrow, hinv.recovering hactive hbehind⟩

theorem deadlinesBy_run (env : ConvexEnv) (args : InitializeArgs) : ∀ es, Machine.Timed SyncEvent.now es →
    ∀ t, Machine.Before SyncEvent.now es t →
      DeadlinesBy ((configurationSync env args).run es) t := by
  refine Machine.timed_induction SyncEvent.now (I := fun es t =>
    DeadlinesBy ((configurationSync env args).run es) t) ?_ ?_ ?_
  · exact fun t job hjob => absurd hjob List.not_mem_nil
  · exact fun es t t' hle h job hjob hdeadline =>
      (h job hjob hdeadline).trans (Int.add_le_add_right hle _)
  · intro es e _ h job hjob hdeadline
    rw [Machine.run_concat] at hjob
    obtain ⟨row, hrow, hinv⟩ := synced_run env args es
    obtain ⟨⟨next, hnext, hmove⟩, -⟩ := step_move env hinv.jobs hrow e
    rcases hmove.deadline_cases hjob hdeadline with hold | ⟨-, hdue⟩
    · exact h job hold hdeadline
    · exact hdue.le

/-- **While the snapshot stays behind, what ends its grace stays.** By induction on the run, with the
grace of the state before it as what is carried; the jobs are those of a predicate, so that the
deadline they were scheduled for is carried too. -/
theorem graced_exec (args : InitializeArgs) {P : ScheduledJob → Prop} (fs : List SyncEvent)
    (hsynced : Synced env db)
    (hlags : ∀ gs, gs <+: fs → ((configurationSync env args).exec db gs).Lagging)
    (hgraced : ∃ row, db.integration = some row ∧ Graced P db row) :
    ∃ row, ((configurationSync env args).exec db fs).integration = some row ∧
      Graced P ((configurationSync env args).exec db fs) row := by
  induction fs generalizing db with
  | nil => exact hgraced
  | cons e fs ih =>
    obtain ⟨row, hrow, hgraced⟩ := hgraced
    have hnextSynced := hsynced.step e
    have hnow := (hsynced.lagging_iff hrow).mp (hlags [] List.nil_prefix)
    obtain ⟨_, hrow', hinv⟩ := hsynced
    cases hrow.symm.trans hrow'
    obtain ⟨⟨next, hnext, hmove⟩, -⟩ := step_move env hinv.jobs hrow e
    refine ih hnextSynced (fun gs hgs => hlags (e :: gs) (List.cons_prefix_cons.mpr ⟨rfl, hgs⟩))
      ⟨next, hnext, ?_⟩
    have hlater := hlags [e] (List.cons_prefix_cons.mpr ⟨rfl, List.nil_prefix⟩)
    exact hmove.graced hnow.1 ((hnextSynced.lagging_iff hnext).mp hlater).2 hgraced

/-- **The grace ends.**  A snapshot that has been behind since the event `e`, five seconds ago, is
overdue. -/
theorem overdue_of_lagging (args : InitializeArgs) {es : List SyncEvent} {e : SyncEvent}
    {fs : List SyncEvent} (htimed : Machine.Timed SyncEvent.now (es ++ [e]))
    (hlags : ∀ gs, gs <+: fs → ((configurationSync env args).run (es ++ [e] ++ gs)).Lagging)
    (hnow : e.now + SYNC_DEADLINE_MS ≤ now)
    (hpunctual : ((configurationSync env args).run (es ++ [e] ++ fs)).Punctual now) :
    ((configurationSync env args).run (es ++ [e] ++ fs)).Overdue := by
  have hsynced := synced_run env args (es ++ [e])
  have hby := deadlinesBy_run env args (es ++ [e]) htimed e.now
    (fun earlier hearlier => by
      rcases List.mem_append.mp hearlier with hold | hlast
      · exact ((Machine.timed_concat SyncEvent.now).mp htimed).2 earlier hold
      · rw [List.mem_singleton.mp hlast])
  have hexec := Machine.run_append (configurationSync env args) (es ++ [e])
  simp only [hexec] at hlags hpunctual ⊢
  obtain ⟨row, hrow, hinv⟩ := id hsynced
  obtain ⟨hactive, hbehind⟩ := (hsynced.lagging_iff hrow).mp (hlags [] List.nil_prefix)
  have hgraced : Graced (fun job => job.dueAt ≤ now)
      ((configurationSync env args).run (es ++ [e])) row := by
    rcases hinv.graced hactive hbehind with hover | ⟨job, hjob, -, version, hfunction, hjobBehind⟩
    · exact .inl hover
    · have hdue := hby job hjob ⟨_, _, hfunction⟩
      exact .inr ⟨job, hjob, hdue.trans hnow, version, hfunction, hjobBehind⟩
  obtain ⟨last, hlast, hover | ⟨job, hjob, hdue, version, hfunction, -⟩⟩ :=
    graced_exec args fs hsynced hlags ⟨row, hrow, hgraced⟩
  · exact ⟨last, hlast, hover⟩
  · exact absurd hdue (not_le.mpr (hpunctual job hjob ⟨_, _, hfunction⟩))

/-- **Versions do not fall**, from any state of a run to any later one. A commit is refused below the
stored version, and no announcement lowers the announced one. -/
theorem versions_le (args : InitializeArgs) {es fs : List SyncEvent} (hbefore : es <+: fs) :
    (∀ row, ((configurationSync env args).run es).integration = some row →
      ∃ later, ((configurationSync env args).run fs).integration = some later ∧
        row.announcedVersion ≤ later.announcedVersion) ∧
    ∀ stored, ((configurationSync env args).run es).snapshot = some stored →
      ∃ later, ((configurationSync env args).run fs).snapshot = some later ∧
        stored.environmentVersion ≤ later.environmentVersion := by
  obtain ⟨gs, rfl⟩ := hbefore
  induction gs using List.reverseRecOn with
  | nil =>
    rw [List.append_nil]
    exact ⟨fun row hrow => ⟨row, hrow, le_rfl⟩, fun stored hstored => ⟨stored, hstored, le_rfl⟩⟩
  | append_singleton gs e ih =>
    rw [← List.append_assoc, Machine.run_concat]
    obtain ⟨row, hrow, hinv⟩ := synced_run env args (es ++ gs)
    obtain ⟨⟨next, hnext, hmove⟩, -⟩ := step_move env hinv.jobs hrow e
    constructor
    · intro first hfirst
      obtain ⟨_, hrow', hle⟩ := ih.1 first hfirst
      cases hrow.symm.trans hrow'
      exact ⟨next, hnext, hle.trans hmove.announcedVersion_le⟩
    · intro first hfirst
      obtain ⟨stored, hstored, hle⟩ := ih.2 first hfirst
      obtain ⟨later, hlater, hle'⟩ := hmove.snapshot_le hstored
      exact ⟨later, hlater, hle.trans hle'⟩

end

end Convex

end Splitch
