/-
# What one outbox operation can do

The outbox of an Entity holds jobs that write its holdover, and an alarm that tries them again.  An attempt
of a job looks at the tombstone, at the identity version and at the App, writes, and then drops the row, keeps
it for later, or gives it up; it has nine ways out, and each of its calls may throw.

`AttemptStep` lists what the ways out do to the object, and `EnsureStep` and `RetryStep` do the same for the
operations around it.  A list says for each way which row was there, what was put to KV, what the rows and
the alarm are afterwards, and what was answered or thrown.  So the code is unfolded once, here, and what the
outbox promises is then read off these lists: that no job is lost, that nothing old is put, and who retries.

The alarm is what the lists have in common.  Dropping and keeping a row both move it to the first job that is
due (`drop_apply`, `keep_apply`), and an alarm that stands there owns every job that is pending
(`rescheduled_owned`).  Where an operation throws before it has moved the alarm, the list says so.
-/
import Splitch.Library.Rows
import Splitch.Holdover.HoldoverOutbox

namespace Splitch

open StateActions

/-! ## 1. Storage -/

namespace HoldoverWriteOutboxStorage

/-- The rows, in key order. -/
def rows (storage : HoldoverWriteOutboxStorage) : List HoldoverWriteJob :=
  storage.jobs.toList.map Prod.snd

/-- The alarm moved to the first due job. -/
def rescheduled (storage : HoldoverWriteOutboxStorage) : HoldoverWriteOutboxStorage :=
  { storage with
    alarm := ((storage.rows.filter fun job => job.status = .pending).map
      holdoverWriteJobDueAtMs).min? }

/-- A row dropped, and the alarm moved. -/
def settled (storage : HoldoverWriteOutboxStorage) (experimentId : String) :
    HoldoverWriteOutboxStorage :=
  { storage with jobs := storage.jobs.erase experimentId }.rescheduled

/-- A row written, and the alarm moved. -/
def kept (storage : HoldoverWriteOutboxStorage) (job : HoldoverWriteJob) :
    HoldoverWriteOutboxStorage :=
  { storage with jobs := storage.jobs.insert job.experimentId job }.rescheduled

/-- The rows up to a cutoff purged. -/
def purged (storage : HoldoverWriteOutboxStorage) (cutoff : DeletionCutoff) :
    HoldoverWriteOutboxStorage :=
  { storage with jobs := storage.jobs.filter fun _ job => !cutoff.covers job.createdAtMs }

/-- The tombstone of a deletion written, and the alarm cancelled. -/
def tombstoned (storage : HoldoverWriteOutboxStorage) (deleteBeforeTsMs : Int) :
    HoldoverWriteOutboxStorage :=
  { storage with suppression := some (.deleteBeforeTsMs deleteBeforeTsMs), alarm := none }

/-- Does the fence list this identity version? -/
def versionReset (storage : HoldoverWriteOutboxStorage) (identityVersion : Option String) :
    Except String Bool :=
  match identityVersion with
  | none => .ok false
  | some version => isAppIdentityVersionReset storage.appIdentityResetFence version

/-- **Owned**: where a job is pending, an alarm is armed. -/
def Owned (storage : HoldoverWriteOutboxStorage) : Prop :=
  ∀ (experimentId : String) (job : HoldoverWriteJob), storage.jobs[experimentId]? = some job →
    job.status = .pending → storage.alarm.isSome

variable {storage : HoldoverWriteOutboxStorage}

theorem mem_rows {job : HoldoverWriteJob} :
    job ∈ storage.rows ↔ ∃ experimentId : String, storage.jobs[experimentId]? = some job := Rows.mem_rows

theorem owned_of_alarm (h : storage.alarm.isSome) : storage.Owned := fun _ _ _ _ => h

/-- Moving the alarm to the first due job owns every pending one. -/
theorem rescheduled_owned : storage.rescheduled.Owned := by
  intro experimentId job hjob hpending
  have hmem : holdoverWriteJobDueAtMs job ∈ (storage.rows.filter fun job =>
      job.status = .pending).map holdoverWriteJobDueAtMs :=
    List.mem_map_of_mem (List.mem_filter.mpr ⟨mem_rows.mpr ⟨experimentId, hjob⟩, by simpa⟩)
  rw [Option.isSome_iff_ne_none]
  intro hnone
  rw [rescheduled, List.min?_eq_none_iff] at hnone
  rw [hnone] at hmem
  cases hmem

/-- Fewer rows under the same alarm stay owned. -/
theorem Owned.purged (h : storage.Owned) (cutoff : DeletionCutoff) :
    (storage.purged cutoff).Owned := fun experimentId job hjob hpending =>
  h experimentId job (Rows.getElem?_filter_eq_some.mp hjob).1 hpending

end HoldoverWriteOutboxStorage

/-- The row after a put that failed. -/
def failedJob (job : HoldoverWriteJob) (nowMs : Int) : HoldoverWriteJob :=
  { job with
    status := if HOLDOVER_WRITE_MAX_ATTEMPTS ≤ job.attempt + 1 then .poisoned else .pending
    attempt := job.attempt + 1
    updatedAtMs := nowMs }

/-- Work that nothing may put any more: its identity version is fenced, or the tombstone covers
it. -/
def Doomed (storage : HoldoverWriteOutboxStorage) (job : HoldoverWriteJob) : Prop :=
  (∃ version, job.identityVersion = some version ∧
      version ∈ fenced storage.appIdentityResetFence) ∨
    HoldoverWriteOutbox.isStaleUnderEntityCutoff storage job.createdAtMs = true

namespace HoldoverWriteOutbox

variable {world : HoldoverWriteOutboxWorld}

/-! ## 2. The helpers -/

theorem resolve_apply {α : Type} (answer : Except String α) :
    resolve answer world = (answer, world) := rfl

theorem getStorage_apply : getStorage world = (.ok world.storage, world) := rfl

theorem setStorage_apply (f : HoldoverWriteOutboxStorage → HoldoverWriteOutboxStorage) :
    setStorage f world = (.ok (), { world with storage := f world.storage }) := rfl

theorem record_apply (act : OutboxAct) :
    record act world = (.ok (), { world with log := world.log ++ [act] }) := rfl

theorem listJobs_apply : listJobs world = (.ok world.storage.rows, world) := rfl

/-- Rescheduling moves the alarm and says whether jobs remain. -/
theorem reschedule_apply : reschedulePendingHoldoverWriteAlarm world =
    (.ok (!world.storage.rows.isEmpty),
      { world with storage := world.storage.rescheduled }) := by
  unfold reschedulePendingHoldoverWriteAlarm
  rw [andThen_of_ok listJobs_apply]
  cases hmin : ((world.storage.rows.filter fun job => job.status = .pending).map
      holdoverWriteJobDueAtMs).min? with
  | none =>
    rw [HoldoverWriteOutboxStorage.rescheduled, hmin]
    rfl
  | some dueAtMs =>
    have hrows : world.storage.rows ≠ [] := by
      intro hnil
      rw [hnil] at hmin
      cases hmin
    rw [HoldoverWriteOutboxStorage.rescheduled, hmin, List.isEmpty_eq_false_iff.mpr hrows]
    rfl

variable (world) in
theorem isIdentityVersionReset_apply (identityVersion : Option String) :
    isIdentityVersionReset identityVersion world =
      (world.storage.versionReset identityVersion, world) := by
  cases identityVersion <;> rfl

theorem versionReset_true {storage : HoldoverWriteOutboxStorage} {identityVersion : Option String}
    (h : storage.versionReset identityVersion = .ok true) :
    ∃ version, identityVersion = some version ∧
      version ∈ fenced storage.appIdentityResetFence := by
  cases identityVersion with
  | none => cases h
  | some version => exact ⟨version, rfl, of_decide_eq_true (isAppIdentityVersionReset_ok h).symm⟩

/-! ## 3. The attempt -/

/-- What an attempt can do. -/
inductive AttemptStep (job : HoldoverWriteJob) (nowMs : Int) (fate : OutboxFate)
    (world : HoldoverWriteOutboxWorld) :
    Except String HoldoverWriteEnsureStatus × HoldoverWriteOutboxWorld → Prop
  | fenceThrew (message : String)
      (h : world.storage.versionReset job.identityVersion = .error message) :
      AttemptStep job nowMs fate world (.error message, world)
  | lookupThrew (message : String)
      (h : fate.isAppSuppressedFor job.experimentId = .error message) :
      AttemptStep job nowMs fate world (.error message, world)
  | recheck : AttemptStep job nowMs fate world (.ok .suppressed,
      { world with storage :=
        { world.storage with alarm := some (nowMs + APP_SUPPRESSION_RECHECK_MS) } })
  | dropped (h : Doomed world.storage job) : AttemptStep job nowMs fate world (.ok .suppressed,
      { world with storage := world.storage.settled job.experimentId })
  | poisoned (h : job.status = .poisoned) :
      AttemptStep job nowMs fate world (.ok .poisoned, world)
  | completed (hpending : job.status = .pending)
      (hfresh : isStaleUnderEntityCutoff world.storage job.createdAtMs = false) :
      AttemptStep job nowMs fate world (.ok .completed,
        ⟨world.storage.settled job.experimentId, world.log ++ [.putHashed job.put true]⟩)
  | failed (status : HoldoverWriteEnsureStatus) (hpending : job.status = .pending)
      (hfresh : isStaleUnderEntityCutoff world.storage job.createdAtMs = false) :
      AttemptStep job nowMs fate world (.ok status,
        ⟨world.storage.kept (failedJob job nowMs), world.log ++ [.putHashed job.put false]⟩)

/-- Dropping a row and moving the alarm. -/
theorem drop_apply {α : Type} (experimentId : String) (a : α) :
    (deleteJob experimentId >>= fun _ => reschedulePendingHoldoverWriteAlarm >>= fun _ =>
        pure a : OutboxM α) world =
      (.ok a, { world with storage := world.storage.settled experimentId }) := by
  rw [deleteJob, andThen_of_ok (setStorage_apply _), andThen_of_ok reschedule_apply]
  rfl

/-- Writing a row and moving the alarm. -/
theorem keep_apply {α : Type} (job : HoldoverWriteJob) (a : α) :
    (putJob job >>= fun _ => reschedulePendingHoldoverWriteAlarm >>= fun _ =>
        pure a : OutboxM α) world =
      (.ok a, { world with storage := world.storage.kept job }) := by
  rw [putJob, andThen_of_ok (setStorage_apply _), andThen_of_ok reschedule_apply]
  rfl

/-- **The attempt** does what `AttemptStep` lists, one case for each of its exits. -/
theorem attempt_step (job : HoldoverWriteJob) (nowMs : Int) (fate : OutboxFate)
    (world : HoldoverWriteOutboxWorld) :
    AttemptStep job nowMs fate world (attemptHoldoverWriteJob job nowMs fate world) := by
  unfold attemptHoldoverWriteJob
  have hversion := isIdentityVersionReset_apply world job.identityVersion
  cases hreset : world.storage.versionReset job.identityVersion with
  | error message =>
    rw [hreset] at hversion
    rw [andThen_of_error hversion]
    exact .fenceThrew message hreset
  | ok reset =>
    rw [hreset] at hversion
    rw [andThen_of_ok hversion]
    cases reset with
    | true =>
      rw [if_pos rfl, drop_apply]
      exact .dropped (Or.inl (versionReset_true hreset))
    | false =>
      rw [if_neg Bool.false_ne_true]
      cases hlookup : fate.isAppSuppressedFor job.experimentId with
      | error message =>
        rw [andThen_of_error (resolve_apply _)]
        exact .lookupThrew message hlookup
      | ok suppressed =>
        rw [andThen_of_ok (resolve_apply _)]
        cases suppressed with
        | true => exact .recheck
        | false =>
          rw [if_neg Bool.false_ne_true, andThen_of_ok getStorage_apply]
          cases hstale : isStaleUnderEntityCutoff world.storage job.createdAtMs with
          | true =>
            rw [if_pos rfl, drop_apply]
            exact .dropped (Or.inr hstale)
          | false =>
            rw [if_neg Bool.false_ne_true]
            cases hstatus : job.status with
            | poisoned => exact .poisoned hstatus
            | pending =>
              rw [if_neg (by decide), andThen_of_ok (record_apply _)]
              cases hput : fate.putHashed job.experimentId with
              | ok answer =>
                dsimp only
                rw [drop_apply]
                exact .completed hstatus hstale
              | error cause =>
                have hkept : ∀ status, AttemptStep job nowMs fate world (.ok status,
                    ⟨world.storage.kept (failedJob job nowMs),
                      world.log ++ [.putHashed job.put false]⟩) :=
                  fun status => .failed status hstatus hstale
                unfold failedJob at hkept
                dsimp only
                by_cases hlast : HOLDOVER_WRITE_MAX_ATTEMPTS ≤ job.attempt + 1
                · rw [if_pos hlast, keep_apply]
                  rw [if_pos hlast] at hkept
                  exact hkept .poisoned
                · rw [if_neg hlast, keep_apply]
                  rw [if_neg hlast] at hkept
                  exact hkept .owned

/-! ## 4. Ensure -/

theorem preflight_cases (input : HashedAssignmentPutInput) (sourceCreatedAtMs : Int)
    (fate : OutboxFate) (world : HoldoverWriteOutboxWorld) :
    (∃ message, preflightSuppression input sourceCreatedAtMs fate world
        = (.error message, world)) ∨
      preflightSuppression input sourceCreatedAtMs fate world
        = (.ok (some .suppressed), world) ∨
      (isStaleUnderEntityCutoff world.storage sourceCreatedAtMs = true ∧
        preflightSuppression input sourceCreatedAtMs fate world = (.ok (some .suppressed),
          { world with storage := world.storage.purged (.upTo sourceCreatedAtMs) })) ∨
      (world.storage.versionReset input.identityVersion = .ok false ∧
        fate.isAppSuppressed = .ok false ∧
        isStaleUnderEntityCutoff world.storage sourceCreatedAtMs = false ∧
        preflightSuppression input sourceCreatedAtMs fate world = (.ok none, world)) := by
  unfold preflightSuppression
  have hversion := isIdentityVersionReset_apply world input.identityVersion
  cases hreset : world.storage.versionReset input.identityVersion with
  | error message =>
    rw [hreset] at hversion
    exact Or.inl ⟨message, andThen_of_error hversion⟩
  | ok reset =>
    rw [hreset] at hversion
    rw [andThen_of_ok hversion]
    cases reset with
    | true => exact Or.inr (Or.inl rfl)
    | false =>
      rw [if_neg Bool.false_ne_true]
      cases hlookup : fate.isAppSuppressed with
      | error message => exact Or.inl ⟨message, andThen_of_error (resolve_apply _)⟩
      | ok suppressed =>
        rw [andThen_of_ok (resolve_apply _)]
        cases suppressed with
        | true => exact Or.inr (Or.inl rfl)
        | false =>
          rw [if_neg Bool.false_ne_true, andThen_of_ok getStorage_apply]
          cases hstale : isStaleUnderEntityCutoff world.storage sourceCreatedAtMs with
          | true => exact Or.inr (Or.inr (Or.inl ⟨rfl, rfl⟩))
          | false => exact Or.inr (Or.inr (Or.inr ⟨rfl, rfl, rfl, rfl⟩))

theorem deferred_cases (existing : Option HoldoverWriteJob) (nowMs : Int)
    (world : HoldoverWriteOutboxWorld) :
    resultForDeferredExistingJob existing nowMs world = (.ok (some .poisoned), world) ∨
      resultForDeferredExistingJob existing nowMs world
        = (.ok (some .owned), { world with storage := world.storage.rescheduled }) ∨
      resultForDeferredExistingJob existing nowMs world = (.ok none, world) := by
  cases existing with
  | none => exact Or.inr (Or.inr rfl)
  | some job =>
    unfold resultForDeferredExistingJob
    by_cases hpoisoned : job.status = .poisoned
    · exact Or.inl (by simp only [hpoisoned, if_true]; rfl)
    · by_cases hdue : holdoverWriteJobDueAtMs job ≤ nowMs
      · exact Or.inr (Or.inr (by simp only [hpoisoned, hdue, if_true, if_false]; rfl))
      · refine Or.inr (Or.inl ?_)
        simp only [hpoisoned, hdue, if_false]
        rw [andThen_of_ok reschedule_apply]
        rfl

/-- The object after first ownership of a job. -/
def sealing (world : HoldoverWriteOutboxWorld) (job : HoldoverWriteJob) :
    HoldoverWriteOutboxWorld where
  storage := { world.storage with jobs := world.storage.jobs.insert job.experimentId job }
  log := world.log ++ [.sealedJob job.experimentId]

/-- What an ensure can do. -/
inductive EnsureStep (input : HashedAssignmentPutInput) (nowMs sourceCreatedAtMs : Int)
    (fate : OutboxFate) (world : HoldoverWriteOutboxWorld) :
    Except String HoldoverWriteEnsureStatus × HoldoverWriteOutboxWorld → Prop
  | threw (message : String) :
      EnsureStep input nowMs sourceCreatedAtMs fate world (.error message, world)
  | suppressed : EnsureStep input nowMs sourceCreatedAtMs fate world (.ok .suppressed, world)
  | stale (h : isStaleUnderEntityCutoff world.storage sourceCreatedAtMs = true) :
      EnsureStep input nowMs sourceCreatedAtMs fate world (.ok .suppressed,
        { world with storage := world.storage.purged (.upTo sourceCreatedAtMs) })
  | poisoned (hfresh : isStaleUnderEntityCutoff world.storage sourceCreatedAtMs = false) :
      EnsureStep input nowMs sourceCreatedAtMs fate world (.ok .poisoned, world)
  | deferred (hfresh : isStaleUnderEntityCutoff world.storage sourceCreatedAtMs = false) :
      EnsureStep input nowMs sourceCreatedAtMs fate world
        (.ok .owned, { world with storage := world.storage.rescheduled })
  | retried (hfresh : isStaleUnderEntityCutoff world.storage sourceCreatedAtMs = false)
      (job : HoldoverWriteJob) (hjob : world.storage.jobs[input.experimentId]? = some job)
      {result : Except String HoldoverWriteEnsureStatus × HoldoverWriteOutboxWorld}
      (h : AttemptStep job nowMs fate world result) :
      EnsureStep input nowMs sourceCreatedAtMs fate world result
  | sealed (hfresh : isStaleUnderEntityCutoff world.storage sourceCreatedAtMs = false)
      (hversion : world.storage.versionReset input.identityVersion = .ok false)
      (hlookup : fate.isAppSuppressed = .ok false)
      (hregister : fate.registerEntity = .ok .registered)
      (hnone : world.storage.jobs[input.experimentId]? = none)
      {result : Except String HoldoverWriteEnsureStatus × HoldoverWriteOutboxWorld}
      (h : AttemptStep (sealedJob input sourceCreatedAtMs nowMs) nowMs fate
        (sealing world (sealedJob input sourceCreatedAtMs nowMs)) result) :
      EnsureStep input nowMs sourceCreatedAtMs fate world result

/-- **Ensure** does what `EnsureStep` lists. The preflight has four outcomes and writes nothing, so
the cases of what follows need not tell how it was passed. -/
theorem ensure_step (input : HashedAssignmentPutInput) (nowMs : Int)
    (sourceCreatedAtMs : Option Int) (fate : OutboxFate) (world : HoldoverWriteOutboxWorld) :
    EnsureStep input nowMs (sourceCreatedAtMs.getD nowMs) fate world
      (ensureHoldoverWriteJob input nowMs sourceCreatedAtMs fate world) := by
  unfold ensureHoldoverWriteJob
  rcases preflight_cases input (sourceCreatedAtMs.getD nowMs) fate world with
    ⟨message, h⟩ | h | ⟨hstale, h⟩ | ⟨hversion, hlookup, hfresh, h⟩
  · rw [andThen_of_error h]
    exact .threw message
  · rw [andThen_of_ok h]
    exact .suppressed
  · rw [andThen_of_ok h]
    exact .stale hstale
  · rw [andThen_of_ok h]
    dsimp only
    cases hregister : fate.registerEntity with
    | error message =>
      rw [andThen_of_error (resolve_apply _)]
      exact .threw message
    | ok registration =>
      rw [andThen_of_ok (resolve_apply _)]
      cases registration with
      | suppressed => exact .suppressed
      | registered =>
        dsimp only
        rw [andThen_of_ok getStorage_apply]
        rcases deferred_cases world.storage.jobs[input.experimentId]? nowMs world with
          hdefer | hdefer | hdefer
        · rw [andThen_of_ok hdefer]
          exact .poisoned hfresh
        · rw [andThen_of_ok hdefer]
          exact .deferred hfresh
        · rw [andThen_of_ok hdefer]
          dsimp only
          cases hexisting : world.storage.jobs[input.experimentId]? with
          | some job => exact .retried hfresh job hexisting (attempt_step job nowMs fate world)
          | none =>
            dsimp only
            rw [andThen_of_ok (record_apply _), putJob, andThen_of_ok (setStorage_apply _)]
            exact .sealed hfresh hversion hlookup hregister hexisting (attempt_step _ _ _ _)

/-! ## 5. The alarm -/

/-- What one turn of the alarm's loop can do. -/
inductive RetryStep (nowMs : Int) (cutoff : Option DeletionCutoff) (fate : OutboxFate)
    (job : HoldoverWriteJob) (world : HoldoverWriteOutboxWorld) : HoldoverWriteOutboxWorld → Prop
  | skipped : RetryStep nowMs cutoff fate job world world
  | dropped (h : cutoff.any (·.covers job.createdAtMs) = true) :
      RetryStep nowMs cutoff fate job world { world with
        storage := { world.storage with jobs := world.storage.jobs.erase job.experimentId } }
  | attempted {result : Except String HoldoverWriteEnsureStatus × HoldoverWriteOutboxWorld}
      (h : AttemptStep job nowMs fate world result) :
      RetryStep nowMs cutoff fate job world result.2

theorem retry_step (nowMs : Int) (cutoff : Option DeletionCutoff) (fate : OutboxFate)
    (job : HoldoverWriteJob) (world : HoldoverWriteOutboxWorld) :
    RetryStep nowMs cutoff fate job world (retryDueAlarmJob nowMs cutoff fate job world).2 := by
  unfold retryDueAlarmJob
  by_cases hpending : job.status ≠ .pending
  · rw [if_pos hpending]
    exact .skipped
  · rw [if_neg hpending]
    by_cases hcovered : cutoff.any (·.covers job.createdAtMs) = true
    · rw [if_pos hcovered]
      exact .dropped hcovered
    · rw [if_neg hcovered]
      by_cases hearly : nowMs < holdoverWriteJobDueAtMs job
      · rw [if_pos hearly]
        exact .skipped
      · rw [if_neg hearly, andThen_state fun _ _ => rfl]
        exact .attempted (attempt_step job nowMs fate world)

/-- The object after the loop of an alarm. -/
def swept (nowMs : Int) (fate : OutboxFate) (world : HoldoverWriteOutboxWorld) :
    HoldoverWriteOutboxWorld :=
  (world.storage.rows.forM
    (retryDueAlarmJob nowMs (readEntitySuppression world.storage) fate) world).2

/-- The object after the alarm has left its slot. -/
def fired (world : HoldoverWriteOutboxWorld) : HoldoverWriteOutboxWorld :=
  { world with storage := { world.storage with alarm := none } }

/-- What the delivery of an alarm can leave. -/
inductive AlarmStep (nowMs : Int) (fate : OutboxFate) (world : HoldoverWriteOutboxWorld) :
    HoldoverWriteOutboxWorld → Prop
  | idle (h : world.storage.rows = []) : AlarmStep nowMs fate world (fired world)
  | armed (alarm : Int) : AlarmStep nowMs fate world
      { world with storage := { world.storage with alarm := some alarm } }
  | sweptAll : AlarmStep nowMs fate world
      { swept nowMs fate (fired world) with
        storage := (swept nowMs fate (fired world)).storage.rescheduled }
  | sweepThrew (alarm : Int) : AlarmStep nowMs fate world
      { swept nowMs fate (fired world) with
        storage := { (swept nowMs fate (fired world)).storage with alarm := some alarm } }

/-- **The alarm** does what `AlarmStep` lists. It has fired before it runs, so where it throws the
runtime arms it again, unless it has armed itself before. -/
theorem alarm_step (nowMs : Int) (fate : OutboxFate) (world : HoldoverWriteOutboxWorld) :
    AlarmStep nowMs fate world (deliverAlarm nowMs fate world).2 := by
  have hrun : ∀ r, runHoldoverWriteAlarm nowMs fate (fired world) = r →
      AlarmStep nowMs fate world (if r.1.isOk then r.2
        else { r.2 with storage :=
          { r.2.storage with alarm := some (r.2.storage.alarm.getD nowMs) } }) := by
    rintro _ rfl
    unfold runHoldoverWriteAlarm
    rw [andThen_of_ok listJobs_apply]
    by_cases hempty : (fired world).storage.rows.isEmpty = true
    · rw [if_pos hempty]
      exact .idle (List.isEmpty_iff.mp hempty)
    · rw [if_neg hempty]
      cases fate.isAppSuppressed with
      | error message =>
        rw [andThen_of_error (resolve_apply _)]
        exact .armed nowMs
      | ok suppressed =>
        rw [andThen_of_ok (resolve_apply _)]
        cases suppressed with
        | true => exact .armed _
        | false =>
          rw [if_neg Bool.false_ne_true, andThen_of_ok getStorage_apply, andThen_apply]
          have hswept : (((fired world).storage.rows.forM (retryDueAlarmJob nowMs
              (readEntitySuppression (fired world).storage) fate)) (fired world)).2
                = swept nowMs fate (fired world) := rfl
          rw [hswept]
          cases (((fired world).storage.rows.forM (retryDueAlarmJob nowMs
              (readEntitySuppression (fired world).storage) fate)) (fired world)).1 with
          | error message => exact .sweepThrew _
          | ok _ =>
            dsimp only
            rw [andThen_of_ok reschedule_apply]
            exact .sweptAll
  unfold deliverAlarm
  rw [deleteAlarm, andThen_of_ok (setStorage_apply _)]
  change AlarmStep nowMs fate world ((tryCatch (runHoldoverWriteAlarm nowMs fate) _ :
    OutboxM Unit) (fired world)).2
  specialize hrun _ rfl
  cases hr : (runHoldoverWriteAlarm nowMs fate (fired world)).1 with
  | ok _ =>
    rw [hr] at hrun
    rw [catch_of_ok (Prod.ext hr rfl)]
    exact hrun
  | error message =>
    rw [hr] at hrun
    rw [catch_of_error (Prod.ext hr rfl)]
    exact hrun

/-! ## 6. Deletion and reset -/

theorem purge_apply (cutoff : DeletionCutoff) : (purgeEntityOutboxState cutoff world).2 =
    { world with storage := (world.storage.purged cutoff).rescheduled } := by
  rw [purgeEntityOutboxState, purgeStaleJobs, andThen_of_ok (setStorage_apply _),
    reschedule_apply]
  rfl

/-- The object after a deletion up to `deleteBeforeTsMs`. -/
def deleted (world : HoldoverWriteOutboxWorld) (deleteBeforeTsMs : Int) :
    HoldoverWriteOutboxWorld :=
  { world with storage :=
    ((world.storage.tombstoned deleteBeforeTsMs).purged (.upTo deleteBeforeTsMs)).rescheduled }

/-- **A deletion** writes its tombstone and purges, whether the Entity is unregistered or not. -/
theorem delete_apply (deleteBeforeTsMs : Int)
    (markEntityPurged : Option (Except String Unit)) :
    (deleteResponse deleteBeforeTsMs markEntityPurged world).2 = deleted world deleteBeforeTsMs := by
  have hsuppress : suppressEntityOutbox deleteBeforeTsMs world = (.ok (), { world with
      storage := world.storage.tombstoned deleteBeforeTsMs }) := rfl
  have hdelete : (deleteEntityOutbox deleteBeforeTsMs world).2
      = deleted world deleteBeforeTsMs := by
    rw [deleteEntityOutbox, andThen_of_ok hsuppress, purge_apply]
    rfl
  rw [deleteResponse, andThen_state, hdelete]
  intro remainingJobs s
  cases markEntityPurged with
  | none => rfl
  | some answer => cases remainingJobs <;> cases answer <;> rfl

/-- The object after an App reset that has extended the fence to `next`. -/
def reset (world : HoldoverWriteOutboxWorld) (next : List String) : HoldoverWriteOutboxWorld :=
  { world with storage :=
    { world.storage with jobs := ∅, appIdentityResetFence := some next, alarm := none } }

theorem extendFence_of_ok {versions next : List String}
    (h : extendAppIdentityResetFence world.storage.appIdentityResetFence versions = .ok next) :
    extendFence versions world = (.ok next, { world with storage :=
      { world.storage with appIdentityResetFence := some next } }) := by
  rw [extendFence, andThen_of_ok getStorage_apply, h]
  rfl

theorem extendFence_of_error {versions : List String} {message : String}
    (h : extendAppIdentityResetFence world.storage.appIdentityResetFence versions
      = .error message) : extendFence versions world = (.error message, world) := by
  rw [extendFence, andThen_of_ok getStorage_apply, h]
  rfl

/-- **An App reset** is rejected before it writes, or extends the fence and drops all jobs. -/
theorem reset_cases (destroyedVersions : List String) (world : HoldoverWriteOutboxWorld) :
    ((resolve (requireDestroyedIdentityVersions destroyedVersions)
        >>= resetAppOutboxState) world).2 = world ∨
      ∃ next, (∀ version, version ∈ next ↔
          version ∈ fenced world.storage.appIdentityResetFence ∨ version ∈ destroyedVersions) ∧
        ((resolve (requireDestroyedIdentityVersions destroyedVersions)
          >>= resetAppOutboxState) world).2 = reset world next := by
  cases hrequire : requireDestroyedIdentityVersions destroyedVersions with
  | error message => exact Or.inl (congrArg Prod.snd (andThen_of_error (resolve_apply _)))
  | ok required =>
    rw [andThen_of_ok (resolve_apply _), resetAppOutboxState]
    cases hextend : extendAppIdentityResetFence world.storage.appIdentityResetFence required with
    | error message =>
      exact Or.inl (congrArg Prod.snd (andThen_of_error (extendFence_of_error hextend)))
    | ok next =>
      refine Or.inr ⟨next, fun version => ?_, ?_⟩
      · rw [extendAppIdentityResetFence_ok hextend, requireDestroyedIdentityVersions_ok hrequire,
          List.mem_eraseDups]
      · rw [andThen_of_ok (extendFence_of_ok hextend)]
        rfl

end HoldoverWriteOutbox

/-- The work that the sample runs of the outbox are about. -/
def outboxInput : HashedAssignmentPutInput where
  appId := "app_1"
  experimentId := "exp_c0ffee"
  idType := "user"
  targetingKeyHash := "v1:5f1d"
  identityVersion := some "v1"
  runId := "run_1"
  sourceCreatedAtMs := none
  variant := "control"

end Splitch
