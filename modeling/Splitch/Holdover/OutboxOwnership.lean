/-
# The outbox owns its work

What the outbox has accepted it either puts, or gives up for a reason: a deletion, a reset of the
identity version, or eight attempts.  Until then an alarm stands for it.  Three facts about every
run: where a job is pending an alarm is armed, no job sees more than eight attempts, and a row
that disappears has been put, deleted or reset.

One way through the code breaks the first: an ensure that has written its job row looks at App
suppression a second time, and throws with no alarm armed if that look fails (`Strands`).
-/
import Splitch.Holdover.OutboxEffects

namespace Splitch

open StateActions HoldoverWriteOutbox

/-! ## 1. Attempts -/

/-- The calls of `putHashed` for an Experiment since its row was last created. -/
def attemptsSinceSealed (experimentId : String) (log : List OutboxAct) : Nat :=
  log.foldl (fun attempts act => match act with
    | .sealedJob sealedId => if sealedId = experimentId then 0 else attempts
    | .putHashed input _ =>
      if input.experimentId = experimentId then attempts + 1 else attempts) 0

theorem attemptsSinceSealed_sealed (E E' : String) (log : List OutboxAct) :
    attemptsSinceSealed E (log ++ [.sealedJob E']) =
      if E' = E then 0 else attemptsSinceSealed E log := by
  rw [attemptsSinceSealed, List.foldl_append]
  rfl

theorem attemptsSinceSealed_put (E : String) (job : HoldoverWriteJob) (resolved : Bool)
    (log : List OutboxAct) :
    attemptsSinceSealed E (log ++ [.putHashed job.put resolved]) =
      if job.experimentId = E then attemptsSinceSealed E log + 1
      else attemptsSinceSealed E log := by
  rw [attemptsSinceSealed, List.foldl_append]
  rfl

/-! ## 2. Rows -/

/-- Every row lies under its own Experiment and counts its attempts, and none is over eight. -/
structure SoundRows (world : HoldoverWriteOutboxWorld) : Prop where
  keyed : Rows.Keyed (fun job : HoldoverWriteJob => job.experimentId) world.storage.jobs
  counted : ∀ (E : String) (job : HoldoverWriteJob), world.storage.jobs[E]? = some job →
    attemptsSinceSealed E world.log = job.attempt
  bounded : ∀ E, attemptsSinceSealed E world.log ≤ HOLDOVER_WRITE_MAX_ATTEMPTS
  open' : ∀ (E : String) (job : HoldoverWriteJob), world.storage.jobs[E]? = some job →
    job.status = .pending → job.attempt < HOLDOVER_WRITE_MAX_ATTEMPTS

/-- The row of a job, whatever became of its status. -/
def HoldoverWriteJob.SameWork (job' job : HoldoverWriteJob) : Prop :=
  job'.toHashedAssignmentPutInput = job.toHashedAssignmentPutInput ∧
    job'.createdAtMs = job.createdAtMs

/-- From `before` to `after` the tombstone and the fence stay, no row appears, and every row
stays, unless it was put or nothing may put it any more. -/
structure Settles (before after : HoldoverWriteOutboxWorld) : Prop where
  suppression : after.storage.suppression = before.storage.suppression
  fence : after.storage.appIdentityResetFence = before.storage.appIdentityResetFence
  fresh : ∀ E : String, before.storage.jobs[E]? = none → after.storage.jobs[E]? = none
  rows : ∃ acts, after.log = before.log ++ acts ∧
    ∀ (E : String) (job : HoldoverWriteJob), before.storage.jobs[E]? = some job →
      (∃ job', after.storage.jobs[E]? = some job' ∧ job'.SameWork job) ∨
        (after.storage.jobs[E]? = none ∧
          (.putHashed job.put true ∈ acts ∨ Doomed after.storage job))

variable {world world' world'' : HoldoverWriteOutboxWorld} {job : HoldoverWriteJob}

theorem HoldoverWriteJob.SameWork.put_eq {job' : HoldoverWriteJob} (h : job'.SameWork job) :
    job'.put = job.put := by
  rw [HoldoverWriteJob.put, HoldoverWriteJob.put, h.1, h.2]

theorem Doomed.congr {storage storage' : HoldoverWriteOutboxStorage} {job' : HoldoverWriteJob}
    (h : Doomed storage job') (hsuppression : storage'.suppression = storage.suppression)
    (hfence : storage'.appIdentityResetFence = storage.appIdentityResetFence)
    (hwork : job'.SameWork job) : Doomed storage' job := by
  rcases h with ⟨version, hversion, hmem⟩ | hstale
  · refine Or.inl ⟨version, ?_, hfence ▸ hmem⟩
    rw [← hwork.1]
    exact hversion
  · refine Or.inr ?_
    rw [← hstale, ← hwork.2, isStaleUnderEntityCutoff, isStaleUnderEntityCutoff,
      readEntitySuppression, readEntitySuppression, hsuppression]

theorem Settles.of_same (hjobs : world'.storage.jobs = world.storage.jobs)
    (hsuppression : world'.storage.suppression = world.storage.suppression)
    (hfence : world'.storage.appIdentityResetFence = world.storage.appIdentityResetFence)
    (hlog : world'.log = world.log) : Settles world world' where
  suppression := hsuppression
  fence := hfence
  fresh E h := hjobs ▸ h
  rows := ⟨[], by rw [hlog, List.append_nil], fun E job h =>
    Or.inl ⟨job, hjobs ▸ h, rfl, rfl⟩⟩

theorem Settles.trans (h : Settles world world') (h' : Settles world' world'') :
    Settles world world'' where
  suppression := h'.suppression.trans h.suppression
  fence := h'.fence.trans h.fence
  fresh E hnone := h'.fresh E (h.fresh E hnone)
  rows := by
    obtain ⟨acts, hlog, hrows⟩ := h.rows
    obtain ⟨acts', hlog', hrows'⟩ := h'.rows
    refine ⟨acts ++ acts', by rw [hlog', hlog, List.append_assoc], fun E job hjob => ?_⟩
    rcases hrows E job hjob with ⟨job', hjob', hwork⟩ | ⟨hgone, hcause⟩
    · rcases hrows' E job' hjob' with ⟨job'', hjob'', hwork'⟩ | ⟨hgone, hcause⟩
      · exact Or.inl ⟨job'', hjob'', hwork'.1.trans hwork.1, hwork'.2.trans hwork.2⟩
      · refine Or.inr ⟨hgone, hcause.imp (fun hput => ?_) fun hdoomed => ?_⟩
        · exact List.mem_append_right _ (hwork.put_eq ▸ hput)
        · exact hdoomed.congr rfl rfl hwork
    · refine Or.inr ⟨h'.fresh E hgone, hcause.imp (fun hput => ?_) fun hdoomed => ?_⟩
      · exact List.mem_append_left _ hput
      · exact hdoomed.congr h'.suppression h'.fence ⟨rfl, rfl⟩

/-- A row that is dropped, put or doomed. -/
theorem Settles.erase {acts : List OutboxAct}
    (hjob : world.storage.jobs[job.experimentId]? = some job)
    (hjobs : world'.storage.jobs = world.storage.jobs.erase job.experimentId)
    (hsuppression : world'.storage.suppression = world.storage.suppression)
    (hfence : world'.storage.appIdentityResetFence = world.storage.appIdentityResetFence)
    (hlog : world'.log = world.log ++ acts)
    (hcause : .putHashed job.put true ∈ acts ∨ Doomed world.storage job) :
    Settles world world' where
  suppression := hsuppression
  fence := hfence
  fresh E h := by
    rw [hjobs, Rows.getElem?_erase_eq, h, ite_self]
  rows := by
    refine ⟨acts, hlog, fun E job' hjob' => ?_⟩
    by_cases hE : E = job.experimentId
    · subst hE
      cases hjob.symm.trans hjob'
      refine Or.inr ⟨by rw [hjobs, Rows.getElem?_erase_eq, if_pos rfl], hcause.imp id ?_⟩
      exact fun hdoomed => hdoomed.congr hsuppression hfence ⟨rfl, rfl⟩
    · exact Or.inl ⟨job', by rw [hjobs, Rows.getElem?_erase_eq, if_neg hE, hjob'], rfl, rfl⟩

/-- A row that is rewritten. -/
theorem Settles.rewrite {job' : HoldoverWriteJob} {acts : List OutboxAct}
    (hjob : world.storage.jobs[job.experimentId]? = some job) (hwork : job'.SameWork job)
    (hjobs : world'.storage.jobs = world.storage.jobs.insert job.experimentId job')
    (hsuppression : world'.storage.suppression = world.storage.suppression)
    (hfence : world'.storage.appIdentityResetFence = world.storage.appIdentityResetFence)
    (hlog : world'.log = world.log ++ acts) : Settles world world' where
  suppression := hsuppression
  fence := hfence
  fresh E h := by
    rw [hjobs, Rows.getElem?_insert_eq, if_neg, h]
    rintro rfl
    rw [hjob] at h
    cases h
  rows := by
    refine ⟨acts, hlog, fun E old hold => Or.inl ?_⟩
    by_cases hE : E = job.experimentId
    · subst hE
      cases hjob.symm.trans hold
      exact ⟨job', by rw [hjobs, Rows.getElem?_insert_eq, if_pos rfl], hwork⟩
    · exact ⟨old, by rw [hjobs, Rows.getElem?_insert_eq, if_neg hE, hold], rfl, rfl⟩

/-- Fewer rows under the same log. -/
theorem SoundRows.fewer (h : SoundRows world) (hlog : world'.log = world.log)
    (hrows : ∀ (E : String) job, world'.storage.jobs[E]? = some job →
      world.storage.jobs[E]? = some job) : SoundRows world' where
  keyed E job hjob := h.keyed E job (hrows E job hjob)
  counted E job hjob := by
    rw [hlog]
    exact h.counted E job (hrows E job hjob)
  bounded E := hlog ▸ h.bounded E
  open' E job hjob := h.open' E job (hrows E job hjob)

/-- A put of a pending row that then goes. -/
theorem SoundRows.put_erase (h : SoundRows world) {resolved : Bool}
    (hjob : world.storage.jobs[job.experimentId]? = some job) (hpending : job.status = .pending)
    (hjobs : world'.storage.jobs = world.storage.jobs.erase job.experimentId)
    (hlog : world'.log = world.log ++ [.putHashed job.put resolved]) : SoundRows world' where
  keyed := hjobs ▸ h.keyed.erase job.experimentId
  counted E job' hjob' := by
    rw [hjobs] at hjob'
    obtain ⟨hne, hold⟩ := Rows.of_getElem?_erase hjob'
    rw [hlog, attemptsSinceSealed_put, if_neg (Ne.symm hne)]
    exact h.counted E job' hold
  bounded E := by
    rw [hlog, attemptsSinceSealed_put]
    split
    · rename_i hE
      subst hE
      rw [h.counted _ job hjob]
      exact h.open' _ job hjob hpending
    · exact h.bounded E
  open' E job' hjob' := by
    rw [hjobs] at hjob'
    exact h.open' E job' (Rows.of_getElem?_erase hjob').2

/-- A put of a pending row that fails, and is counted. -/
theorem SoundRows.put_failed (h : SoundRows world) {nowMs : Int} {resolved : Bool}
    (hjob : world.storage.jobs[job.experimentId]? = some job) (hpending : job.status = .pending)
    (hjobs : world'.storage.jobs
      = world.storage.jobs.insert job.experimentId (failedJob job nowMs))
    (hlog : world'.log = world.log ++ [.putHashed job.put resolved]) : SoundRows world' where
  keyed := hjobs ▸ h.keyed.insert (failedJob job nowMs)
  counted E job' hjob' := by
    rw [hjobs, Rows.getElem?_insert_eq] at hjob'
    rw [hlog, attemptsSinceSealed_put]
    split at hjob'
    · rename_i hE
      cases hjob'
      rw [if_pos hE.symm, hE, h.counted _ job hjob]
      rfl
    · rename_i hE
      rw [if_neg (Ne.symm hE)]
      exact h.counted E job' hjob'
  bounded E := by
    rw [hlog, attemptsSinceSealed_put]
    split
    · rename_i hE
      subst hE
      rw [h.counted _ job hjob]
      exact h.open' _ job hjob hpending
    · exact h.bounded E
  open' E job' hjob' hstatus := by
    rw [hjobs, Rows.getElem?_insert_eq] at hjob'
    split at hjob'
    · cases hjob'
      rw [failedJob] at hstatus ⊢
      dsimp only at hstatus ⊢
      split at hstatus
      · cases hstatus
      · omega
    · exact h.open' E job' hjob' hstatus

/-- A job that is first owned. -/
theorem SoundRows.sealing (h : SoundRows world) {input : HashedAssignmentPutInput}
    (sourceCreatedAtMs nowMs : Int) :
    SoundRows (sealing world (sealedJob input sourceCreatedAtMs nowMs)) where
  keyed := h.keyed.insert (sealedJob input sourceCreatedAtMs nowMs)
  counted E job' hjob' := by
    rw [HoldoverWriteOutbox.sealing, Rows.getElem?_insert_eq] at hjob'
    rw [HoldoverWriteOutbox.sealing, attemptsSinceSealed_sealed]
    split at hjob'
    · rename_i hE
      cases hjob'
      rw [if_pos hE.symm]
      rfl
    · rename_i hE
      rw [if_neg (Ne.symm hE)]
      exact h.counted E job' hjob'
  bounded E := by
    rw [HoldoverWriteOutbox.sealing, attemptsSinceSealed_sealed]
    split
    · exact Nat.zero_le _
    · exact h.bounded E
  open' E job' hjob' hstatus := by
    rw [HoldoverWriteOutbox.sealing, Rows.getElem?_insert_eq] at hjob'
    split at hjob'
    · cases hjob'
      exact (by decide : 0 < HOLDOVER_WRITE_MAX_ATTEMPTS)
    · exact h.open' E job' hjob' hstatus

/-! ## 3. The steps -/

namespace HoldoverWriteOutbox

variable {result : Except String HoldoverWriteEnsureStatus × HoldoverWriteOutboxWorld}
  {nowMs : Int} {fate : OutboxFate}

/-- **An attempt** at a stored job settles it or leaves it, and counts its put. A job is dropped where
its version is reset or its put has succeeded, and a put that failed is written back with the attempt
counted. -/
theorem AttemptStep.settles (h : AttemptStep job nowMs fate world result)
    (hsound : SoundRows world) (hjob : world.storage.jobs[job.experimentId]? = some job) :
    Settles world result.2 ∧ SoundRows result.2 := by
  cases h with
  | fenceThrew => exact ⟨.of_same rfl rfl rfl rfl, hsound⟩
  | lookupThrew => exact ⟨.of_same rfl rfl rfl rfl, hsound⟩
  | recheck => exact ⟨.of_same rfl rfl rfl rfl, hsound.fewer rfl fun _ _ h => h⟩
  | dropped hdoomed =>
    exact ⟨.erase hjob rfl rfl rfl (List.append_nil _).symm (Or.inr hdoomed),
      hsound.fewer rfl fun _ _ h => (Rows.of_getElem?_erase h).2⟩
  | poisoned => exact ⟨.of_same rfl rfl rfl rfl, hsound⟩
  | completed hpending _ =>
    exact ⟨.erase hjob rfl rfl rfl rfl (Or.inl List.mem_cons_self),
      hsound.put_erase hjob hpending rfl rfl⟩
  | failed _ hpending _ =>
    have hwork : (failedJob job nowMs).SameWork job := ⟨rfl, rfl⟩
    exact ⟨.rewrite hjob hwork rfl rfl rfl rfl, hsound.put_failed hjob hpending rfl rfl⟩

/-- An attempt touches no row but its own. -/
theorem AttemptStep.others (h : AttemptStep job nowMs fate world result) {E : String}
    (hE : E ≠ job.experimentId) :
    result.2.storage.jobs[E]? = world.storage.jobs[E]? := by
  have herase : (world.storage.jobs.erase job.experimentId)[E]? = world.storage.jobs[E]? := by
    rw [Rows.getElem?_erase_eq, if_neg hE]
  cases h with
  | fenceThrew => rfl
  | lookupThrew => rfl
  | recheck => rfl
  | dropped => exact herase
  | poisoned => rfl
  | completed => exact herase
  | failed =>
    change (world.storage.jobs.insert job.experimentId (failedJob job nowMs))[E]? = _
    rw [Rows.getElem?_insert_eq, if_neg hE]

/-- An attempt that does not throw leaves an alarm for every pending job. -/
theorem AttemptStep.owned (h : AttemptStep job nowMs fate world result)
    (howned : world.storage.Owned) : result.2.storage.Owned := by
  cases h with
  | fenceThrew => exact howned
  | lookupThrew => exact howned
  | recheck => exact HoldoverWriteOutboxStorage.owned_of_alarm rfl
  | dropped => exact HoldoverWriteOutboxStorage.rescheduled_owned
  | poisoned => exact howned
  | completed => exact HoldoverWriteOutboxStorage.rescheduled_owned
  | failed => exact HoldoverWriteOutboxStorage.rescheduled_owned

/-- What the loop of an alarm keeps: the jobs to come still lie in their rows. -/
structure Sweeping (start : HoldoverWriteOutboxWorld) (rest : List HoldoverWriteJob)
    (world : HoldoverWriteOutboxWorld) : Prop where
  settles : Settles start world
  sound : SoundRows world
  stored : ∀ job ∈ rest, world.storage.jobs[job.experimentId]? = some job
  distinct : rest.Pairwise fun a b => a.experimentId ≠ b.experimentId

theorem RetryStep.sweeping {start : HoldoverWriteOutboxWorld} {rest : List HoldoverWriteJob}
    (h : RetryStep nowMs (readEntitySuppression start.storage) fate job world world')
    (hsweep : Sweeping start (job :: rest) world) : Sweeping start rest world' := by
  obtain ⟨hsettles, hsound, hstored, hdistinct⟩ := hsweep
  have hjob := hstored job List.mem_cons_self
  have hrest : ∀ job' ∈ rest, world.storage.jobs[job'.experimentId]? = some job' :=
    fun job' hmem => hstored job' (List.mem_cons_of_mem job hmem)
  have hne : ∀ job' ∈ rest, job'.experimentId ≠ job.experimentId :=
    fun job' hmem => Ne.symm ((List.pairwise_cons.mp hdistinct).1 job' hmem)
  have htail := (List.pairwise_cons.mp hdistinct).2
  cases h with
  | skipped => exact ⟨hsettles, hsound, hrest, htail⟩
  | dropped hcovered =>
    refine ⟨hsettles.trans ?_, ?_, fun job' hmem => ?_, htail⟩
    · refine .erase hjob rfl rfl rfl (List.append_nil _).symm (Or.inr (Or.inr ?_))
      rw [isStaleUnderEntityCutoff, readEntitySuppression, hsettles.suppression]
      exact hcovered
    · exact hsound.fewer rfl fun _ _ h => (Rows.of_getElem?_erase h).2
    · change (world.storage.jobs.erase job.experimentId)[job'.experimentId]? = some job'
      rw [Rows.getElem?_erase_eq, if_neg (hne job' hmem), hrest job' hmem]
  | attempted hattempt =>
    obtain ⟨hsettles', hsound'⟩ := hattempt.settles hsound hjob
    exact ⟨hsettles.trans hsettles', hsound',
      fun job' hmem => by rw [hattempt.others (hne job' hmem), hrest job' hmem], htail⟩

theorem swept_settles (hsound : SoundRows world) (nowMs : Int) (fate : OutboxFate) :
    Settles world (swept nowMs fate world) ∧ SoundRows (swept nowMs fate world) := by
  have hstart : Sweeping world world.storage.rows world := by
    refine ⟨.of_same rfl rfl rfl rfl, hsound, fun job hmem => ?_, hsound.keyed.rows_distinct⟩
    obtain ⟨E, hE⟩ := HoldoverWriteOutboxStorage.mem_rows.mp hmem
    obtain rfl : job.experimentId = E := hsound.keyed E job hE
    exact hE
  obtain ⟨rest, hsweep⟩ := forM_invariant (I := Sweeping world)
    (fun job rest world' hsweep => (retry_step _ _ _ _ _).sweeping hsweep)
    world.storage.rows world hstart
  exact ⟨hsweep.settles, hsweep.sound⟩

/-- **An alarm** settles rows and leaves the others. -/
theorem AlarmStep.settles (h : AlarmStep nowMs fate world world') (hsound : SoundRows world) :
    Settles world world' ∧ SoundRows world' := by
  have hfired : SoundRows (fired world) := hsound.fewer rfl fun _ _ h => h
  obtain ⟨hswept, hsound'⟩ := swept_settles hfired nowMs fate
  have hstart : Settles world (fired world) := .of_same rfl rfl rfl rfl
  have hall := hstart.trans hswept
  cases h with
  | idle => exact ⟨.of_same rfl rfl rfl rfl, hfired⟩
  | armed => exact ⟨.of_same rfl rfl rfl rfl, hsound.fewer rfl fun _ _ h => h⟩
  | sweptAll => exact ⟨hall.trans (.of_same rfl rfl rfl rfl), hsound'.fewer rfl fun _ _ h => h⟩
  | sweepThrew => exact ⟨hall.trans (.of_same rfl rfl rfl rfl), hsound'.fewer rfl fun _ _ h => h⟩

/-- **An alarm** leaves an alarm for every pending job, also where it throws. -/
theorem AlarmStep.owned (h : AlarmStep nowMs fate world world') : world'.storage.Owned := by
  cases h with
  | idle hempty =>
    intro E job hjob
    have hmem := HoldoverWriteOutboxStorage.mem_rows.mpr ⟨E, hjob⟩
    change job ∈ world.storage.rows at hmem
    rw [hempty] at hmem
    cases hmem
  | armed => exact HoldoverWriteOutboxStorage.owned_of_alarm rfl
  | sweptAll => exact HoldoverWriteOutboxStorage.rescheduled_owned
  | sweepThrew => exact HoldoverWriteOutboxStorage.owned_of_alarm rfl

/-- What one operation leaves of the rows it finds: a row stays, or it was put, or a cutoff that
the operation knows covers it, or its version is in the fence. -/
def Accounts (before after : HoldoverWriteOutboxWorld) (covers : HoldoverWriteJob → Prop) : Prop :=
  ∃ acts, after.log = before.log ++ acts ∧
    ∀ (E : String) (job : HoldoverWriteJob), before.storage.jobs[E]? = some job →
      (∃ job', after.storage.jobs[E]? = some job' ∧ job'.SameWork job) ∨
        (after.storage.jobs[E]? = none ∧
          (.putHashed job.put true ∈ acts ∨ covers job ∨ Doomed after.storage job))

theorem Accounts.of_settles {covers : HoldoverWriteJob → Prop} (h : Settles world world') :
    Accounts world world' covers := by
  obtain ⟨acts, hlog, hrows⟩ := h.rows
  exact ⟨acts, hlog, fun E job hjob => (hrows E job hjob).imp_right fun hgone =>
    hgone.imp_right fun hcause => hcause.imp_right Or.inr⟩

/-- A purge drops what its cutoff covers. -/
theorem Accounts.of_filter {covers : HoldoverWriteJob → Prop} {cutoff : DeletionCutoff}
    (hcovers : ∀ job : HoldoverWriteJob, cutoff.covers job.createdAtMs = true → covers job)
    (hjobs : world'.storage.jobs
      = world.storage.jobs.filter fun _ job => !cutoff.covers job.createdAtMs)
    (hlog : world'.log = world.log) : Accounts world world' covers := by
  refine ⟨[], by rw [hlog, List.append_nil], fun E job hjob => ?_⟩
  rw [hjobs, Std.ExtTreeMap.getElem?_filter', hjob]
  cases hcovered : cutoff.covers job.createdAtMs with
  | true => exact Or.inr ⟨by simp [hcovered], Or.inr (Or.inl (hcovers job hcovered))⟩
  | false => exact Or.inl ⟨job, by simp [hcovered], rfl, rfl⟩

/-- **An ensure** accounts for every row. It adds its own and deletes rows in one branch only, where
its work is stale: what it purges there is no younger than the work, and so lies under the cutoff as
well. -/
theorem EnsureStep.accounts {input : HashedAssignmentPutInput} {sourceCreatedAtMs : Int}
    {covers : HoldoverWriteJob → Prop}
    (h : EnsureStep input nowMs sourceCreatedAtMs fate world result) (hsound : SoundRows world)
    (hcovers : isStaleUnderEntityCutoff world.storage sourceCreatedAtMs = true →
      ∀ job : HoldoverWriteJob, job.createdAtMs ≤ sourceCreatedAtMs → covers job) :
    Accounts world result.2 covers ∧ SoundRows result.2 := by
  have hsame : Settles world world := .of_same rfl rfl rfl rfl
  cases h with
  | threw => exact ⟨.of_settles hsame, hsound⟩
  | suppressed => exact ⟨.of_settles hsame, hsound⟩
  | stale hstale =>
    have hupTo : ∀ job : HoldoverWriteJob,
        (DeletionCutoff.upTo sourceCreatedAtMs).covers job.createdAtMs = true → covers job :=
      fun job hcovered => hcovers hstale job (of_decide_eq_true hcovered)
    exact ⟨.of_filter hupTo rfl rfl,
      hsound.fewer rfl fun _ _ h => (Rows.getElem?_filter_eq_some.mp h).1⟩
  | poisoned => exact ⟨.of_settles hsame, hsound⟩
  | deferred =>
    exact ⟨.of_settles (.of_same rfl rfl rfl rfl), hsound.fewer rfl fun _ _ h => h⟩
  | retried _ job hjob hattempt =>
    rw [← hsound.keyed _ job hjob] at hjob
    obtain ⟨hsettles, hsound'⟩ := hattempt.settles hsound hjob
    exact ⟨.of_settles hsettles, hsound'⟩
  | «sealed» _ _ _ _ hnone hattempt =>
    have hstored : (sealing world (sealedJob input sourceCreatedAtMs nowMs)).storage.jobs[
        (sealedJob input sourceCreatedAtMs nowMs).experimentId]?
        = some (sealedJob input sourceCreatedAtMs nowMs) := by
      rw [sealing, Rows.getElem?_insert_eq, if_pos rfl]
    obtain ⟨hsettles, hsound'⟩ :=
      hattempt.settles (hsound.sealing sourceCreatedAtMs nowMs) hstored
    obtain ⟨acts, hlog, hrows⟩ := hsettles.rows
    refine ⟨⟨_ :: acts, by rw [hlog, sealing, List.append_assoc]; rfl, fun E job hjob => ?_⟩,
      hsound'⟩
    have hkept : (sealing world (sealedJob input sourceCreatedAtMs nowMs)).storage.jobs[E]?
        = some job := by
      rw [sealing, Rows.getElem?_insert_eq, if_neg, hjob]
      rintro rfl
      cases hnone.symm.trans hjob
    exact (hrows E job hkept).imp_right fun hgone => hgone.imp_right fun hcause =>
      hcause.imp (List.mem_cons_of_mem _) Or.inr

/-- **An ensure** leaves an alarm for every pending job, unless it throws at the second lookup. By
then the pending row is written and the alarm is not set yet, so an alarm must have been there; in all
other branches the alarm is armed after the row, or no row is written. -/
theorem EnsureStep.owned {input : HashedAssignmentPutInput} {sourceCreatedAtMs : Int}
    (h : EnsureStep input nowMs sourceCreatedAtMs fate world result)
    (howned : world.storage.Owned)
    (hlook : world.storage.jobs[input.experimentId]? = none →
      world.storage.versionReset input.identityVersion = .ok false →
      fate.isAppSuppressed = .ok false →
      isStaleUnderEntityCutoff world.storage sourceCreatedAtMs = false →
      fate.registerEntity = .ok .registered →
      ∀ message, fate.isAppSuppressedFor input.experimentId = .error message →
        world.storage.alarm.isSome) : result.2.storage.Owned := by
  cases h with
  | threw => exact howned
  | suppressed => exact howned
  | stale => exact howned.purged _
  | poisoned => exact howned
  | deferred => exact HoldoverWriteOutboxStorage.rescheduled_owned
  | retried _ _ _ hattempt => exact hattempt.owned howned
  | «sealed» hfresh hversion hlookup hregister hnone hattempt =>
    cases hattempt with
    | fenceThrew message hthrew => cases hversion.symm.trans hthrew
    | lookupThrew message hthrew =>
      exact HoldoverWriteOutboxStorage.owned_of_alarm
        (hlook hnone hversion hlookup hfresh hregister message hthrew)
    | recheck => exact HoldoverWriteOutboxStorage.owned_of_alarm rfl
    | dropped => exact HoldoverWriteOutboxStorage.rescheduled_owned
    | poisoned hpoisoned => cases hpoisoned
    | completed => exact HoldoverWriteOutboxStorage.rescheduled_owned
    | failed => exact HoldoverWriteOutboxStorage.rescheduled_owned

end HoldoverWriteOutbox

/-! ## 4. The operations -/

/-- An ensure that first owns its job while no alarm is armed, and whose second look at App
suppression throws. -/
def Strands (world : HoldoverWriteOutboxWorld) : OutboxEvent → Prop
  | .ensure input nowMs sourceCreatedAtMs fate =>
    world.storage.jobs[input.experimentId]? = none ∧ world.storage.alarm = none ∧
      world.storage.versionReset input.identityVersion = .ok false ∧
      fate.isAppSuppressed = .ok false ∧
      isStaleUnderEntityCutoff world.storage (sourceCreatedAtMs.getD nowMs) = false ∧
      fate.registerEntity = .ok .registered ∧
      (fate.isAppSuppressedFor input.experimentId).isOk = false
  | _ => False

/-- A reset lists the identity version of every job the outbox holds: its caller destroys all
versions of the App. -/
def ResetsItsVersions (world : HoldoverWriteOutboxWorld) : OutboxEvent → Prop
  | .resetApp destroyedVersions => ∀ job ∈ world.storage.rows,
      ∃ version ∈ destroyedVersions, job.identityVersion = some version
  | _ => True

/-- The operations under which the outbox owns its work. -/
def OwningOperation (world : HoldoverWriteOutboxWorld) (event : OutboxEvent) : Prop :=
  ¬ Strands world event ∧ ResetsItsVersions world event

/-- Why the row of a job is gone after the last operation of `history`, which did `acts`. -/
def Departed (history : List OutboxEvent) (acts : List OutboxAct)
    (after : HoldoverWriteOutboxWorld) (job : HoldoverWriteJob) : Prop :=
  .putHashed job.put true ∈ acts ∨
    (∃ deleteBeforeTsMs mark, .delete deleteBeforeTsMs mark ∈ history ∧
      job.createdAtMs ≤ deleteBeforeTsMs) ∨
    (∃ deleteBeforeTsMs, .purge deleteBeforeTsMs ∈ history.getLast? ∧
      (deleteBeforeTsMs.elim .infinity DeletionCutoff.upTo).covers job.createdAtMs) ∨
    ∃ version, job.identityVersion = some version ∧
      version ∈ fenced after.storage.appIdentityResetFence

/-- The tombstone is that of a deletion of the history. -/
def TombstoneFrom (history : List OutboxEvent) (world : HoldoverWriteOutboxWorld) : Prop :=
  ∀ row, world.storage.suppression = some row →
    ∃ deleteBeforeTsMs mark, .delete deleteBeforeTsMs mark ∈ history ∧
      row = .deleteBeforeTsMs deleteBeforeTsMs

variable {history : List OutboxEvent}

theorem TombstoneFrom.later (h : TombstoneFrom history world) (event : OutboxEvent)
    (hsuppression : world'.storage.suppression = world.storage.suppression) :
    TombstoneFrom (history ++ [event]) world' := by
  intro row hrow
  obtain ⟨c, mark, hmem, heq⟩ := h row (hsuppression ▸ hrow)
  exact ⟨c, mark, List.mem_append_left _ hmem, heq⟩

/-- What the tombstone covers, a deletion of the history covers. -/
theorem TombstoneFrom.covers (h : TombstoneFrom history world) {createdAtMs : Int}
    (hstale : isStaleUnderEntityCutoff world.storage createdAtMs = true) :
    ∃ deleteBeforeTsMs mark, .delete deleteBeforeTsMs mark ∈ history ∧
      createdAtMs ≤ deleteBeforeTsMs := by
  cases hrow : world.storage.suppression with
  | none => simp [isStaleUnderEntityCutoff, readEntitySuppression, hrow] at hstale
  | some row =>
    obtain ⟨c, mark, hmem, rfl⟩ := h row hrow
    refine ⟨c, mark, hmem, ?_⟩
    simpa [isStaleUnderEntityCutoff, readEntitySuppression, hrow, DeletionCutoff.covers]
      using hstale

theorem isStaleUnderEntityCutoff_mono {storage : HoldoverWriteOutboxStorage} {a b : Int}
    (hle : a ≤ b) (h : isStaleUnderEntityCutoff storage b = true) :
    isStaleUnderEntityCutoff storage a = true := by
  rw [isStaleUnderEntityCutoff, Option.any_eq_true] at h ⊢
  obtain ⟨cutoff, hcutoff, hcovers⟩ := h
  refine ⟨cutoff, hcutoff, ?_⟩
  cases cutoff with
  | infinity => rfl
  | upTo ms => exact decide_eq_true (hle.trans (of_decide_eq_true hcovers))

theorem HoldoverWriteOutbox.EnsureStep.suppression {input : HashedAssignmentPutInput}
    {nowMs sourceCreatedAtMs : Int} {fate : OutboxFate}
    {result : Except String HoldoverWriteEnsureStatus × HoldoverWriteOutboxWorld}
    (h : EnsureStep input nowMs sourceCreatedAtMs fate world result) (hsound : SoundRows world) :
    result.2.storage.suppression = world.storage.suppression := by
  cases h with
  | threw => rfl
  | suppressed => rfl
  | stale => rfl
  | poisoned => rfl
  | deferred => rfl
  | retried _ job hjob hattempt =>
    rw [← hsound.keyed _ job hjob] at hjob
    exact (hattempt.settles hsound hjob).1.suppression
  | «sealed» _ _ _ _ _ hattempt =>
    refine (hattempt.settles (hsound.sealing sourceCreatedAtMs nowMs) ?_).1.suppression
    rw [sealing, Rows.getElem?_insert_eq, if_pos rfl]

/-- What every run of the outbox keeps. -/
structure OwningState (history : List OutboxEvent) (world : HoldoverWriteOutboxWorld) : Prop where
  sound : SoundRows world
  tombstone : TombstoneFrom history world
  owned : world.storage.Owned

/-- Every row that the last operation of `history` found is there after it, or departed. -/
def RowsAccounted (history : List OutboxEvent) (before after : HoldoverWriteOutboxWorld) : Prop :=
  ∃ acts, after.log = before.log ++ acts ∧
    ∀ (E : String) (job : HoldoverWriteJob), before.storage.jobs[E]? = some job →
      (∃ job', after.storage.jobs[E]? = some job' ∧ job'.SameWork job) ∨
        (after.storage.jobs[E]? = none ∧ Departed history acts after job)

/-- What is accounted for has departed for one of the reasons. -/
theorem HoldoverWriteOutbox.Accounts.departed {covers : HoldoverWriteJob → Prop}
    (h : Accounts world world' covers) (htombstone : TombstoneFrom history world')
    (hcovers : ∀ job, covers job → ∀ acts, Departed history acts world' job) :
    RowsAccounted history world world' := by
  obtain ⟨acts, hlog, hrows⟩ := h
  refine ⟨acts, hlog, fun E job hjob => (hrows E job hjob).imp_right fun ⟨hgone, hcause⟩ =>
    ⟨hgone, ?_⟩⟩
  rcases hcause with hput | hcovered | hreset | hstale
  · exact Or.inl hput
  · exact hcovers job hcovered acts
  · exact Or.inr (Or.inr (Or.inr hreset))
  · exact Or.inr (Or.inl (htombstone.covers hstale))

/-- The same, where no row goes but by its own settlement. -/
theorem Settles.departed (h : Settles world world') (htombstone : TombstoneFrom history world') :
    RowsAccounted history world world' :=
  (Accounts.of_settles h : Accounts world world' fun _ => False).departed htombstone
    fun _ hnever => hnever.elim

/-- The event is the last of the history that ends with it. -/
theorem last_of_history (history : List OutboxEvent) (event : OutboxEvent) :
    (history ++ [event]).getLast? = some event := by
  rw [List.getLast?_append, List.getLast?_singleton, Option.some_or]

/-- **One operation** keeps the state owned and accounts for every row it found. A row may leave
because it was put, because a deletion or a reset of the history covers it, or because this operation
is one: which it is follows from the list of effects of its kind. -/
theorem outboxStep_owns {event : OutboxEvent} (h : OwningState history world)
    (hevent : OwningOperation world event) :
    OwningState (history ++ [event]) (outboxStep event world).2 ∧
      RowsAccounted (history ++ [event]) world (outboxStep event world).2 := by
  obtain ⟨hsound, htombstone, howned⟩ := h
  cases event with
  | ensure input nowMs sourceCreatedAtMs fate =>
    rw [outboxStep, mapOk_apply]
    have hstep := ensure_step input nowMs sourceCreatedAtMs fate world
    have htomb := htombstone.later (.ensure input nowMs sourceCreatedAtMs fate)
      (hstep.suppression hsound)
    obtain ⟨haccounts, hsound'⟩ := hstep.accounts hsound fun hstale job hle =>
      isStaleUnderEntityCutoff_mono hle hstale
    refine ⟨⟨hsound', htomb, hstep.owned howned ?_⟩, haccounts.departed htomb fun job hstale _ => ?_⟩
    · intro hnone hversion hlookup hfresh hregister message hthrew
      rw [Option.isSome_iff_ne_none]
      intro halarm
      exact hevent.1 ⟨hnone, halarm, hversion, hlookup, hfresh, hregister, by rw [hthrew]; rfl⟩
    · obtain ⟨c, mark, hmem, hle⟩ := htombstone.covers hstale
      exact Or.inr (Or.inl ⟨c, mark, List.mem_append_left _ hmem, hle⟩)
  | alarm nowMs fate =>
    rw [outboxStep, mapOk_apply]
    have hstep := alarm_step nowMs fate world
    obtain ⟨hsettles, hsound'⟩ := hstep.settles hsound
    have htomb := htombstone.later (.alarm nowMs fate) hsettles.suppression
    exact ⟨⟨hsound', htomb, hstep.owned⟩, hsettles.departed htomb⟩
  | delete deleteBeforeTsMs mark =>
    rw [outboxStep, mapOk_apply, delete_apply]
    have htomb : TombstoneFrom (history ++ [.delete deleteBeforeTsMs mark])
        (deleted world deleteBeforeTsMs) := fun row hrow =>
      ⟨deleteBeforeTsMs, mark, List.mem_append_right _ List.mem_cons_self,
        (Option.some.inj hrow).symm⟩
    have hupTo : ∀ job : HoldoverWriteJob,
        (DeletionCutoff.upTo deleteBeforeTsMs).covers job.createdAtMs = true →
          job.createdAtMs ≤ deleteBeforeTsMs := fun _ hcovered => of_decide_eq_true hcovered
    have hfiltered : Accounts world (deleted world deleteBeforeTsMs)
        fun job => job.createdAtMs ≤ deleteBeforeTsMs := .of_filter hupTo rfl rfl
    refine ⟨⟨hsound.fewer rfl fun _ _ h => (Rows.getElem?_filter_eq_some.mp h).1, htomb,
      HoldoverWriteOutboxStorage.rescheduled_owned⟩, hfiltered.departed htomb fun job hle _ => ?_⟩
    exact Or.inr (Or.inl ⟨deleteBeforeTsMs, mark, List.mem_append_right _ List.mem_cons_self, hle⟩)
  | purge deleteBeforeTsMs =>
    rw [outboxStep, mapOk_apply, purge_apply]
    have htomb : TombstoneFrom (history ++ [.purge deleteBeforeTsMs]) { world with
        storage := (world.storage.purged (deleteBeforeTsMs.elim .infinity .upTo)).rescheduled } :=
      htombstone.later _ rfl
    have hfiltered : Accounts world { world with
        storage := (world.storage.purged (deleteBeforeTsMs.elim .infinity .upTo)).rescheduled }
        fun job => (deleteBeforeTsMs.elim .infinity DeletionCutoff.upTo).covers job.createdAtMs :=
      .of_filter (fun _ hcovered => hcovered) rfl rfl
    refine ⟨⟨hsound.fewer rfl fun _ _ h => (Rows.getElem?_filter_eq_some.mp h).1, htomb,
      HoldoverWriteOutboxStorage.rescheduled_owned⟩,
      hfiltered.departed htomb fun job hcovered _ => ?_⟩
    exact Or.inr (Or.inr (Or.inl ⟨deleteBeforeTsMs, last_of_history history _, hcovered⟩))
  | resumeAlarms =>
    rw [outboxStep, mapOk_apply, reschedule_apply]
    have hsettles : Settles world { world with storage := world.storage.rescheduled } :=
      .of_same rfl rfl rfl rfl
    have htomb := htombstone.later .resumeAlarms hsettles.suppression
    exact ⟨⟨hsound.fewer rfl fun _ _ h => h, htomb,
      HoldoverWriteOutboxStorage.rescheduled_owned⟩, hsettles.departed htomb⟩
  | resetApp destroyedVersions =>
    rw [outboxStep, mapOk_apply]
    rcases reset_cases destroyedVersions world with hsame | ⟨next, hnext, hreset⟩
    · rw [hsame]
      exact ⟨⟨hsound, htombstone.later _ rfl, howned⟩,
        Settles.departed (.of_same rfl rfl rfl rfl) (htombstone.later _ rfl)⟩
    · rw [hreset]
      have hempty : ∀ (E : String) (job : HoldoverWriteJob),
          (reset world next).storage.jobs[E]? ≠ some job := fun E job hjob => by
        rw [reset, Std.ExtTreeMap.getElem?_empty] at hjob
        cases hjob
      refine ⟨⟨hsound.fewer rfl fun E job hjob => absurd hjob (hempty E job),
        htombstone.later _ rfl, fun E job hjob => absurd hjob (hempty E job)⟩,
        [], (List.append_nil _).symm, fun E job hjob => Or.inr ⟨Std.ExtTreeMap.getElem?_empty, ?_⟩⟩
      obtain ⟨version, hmem, hversion⟩ :=
        hevent.2 job (HoldoverWriteOutboxStorage.mem_rows.mpr ⟨E, hjob⟩)
      exact Or.inr (Or.inr (Or.inr ⟨version, hversion, (hnext version).mpr (Or.inr hmem)⟩))

/-! ## 5. Runs -/

theorem owningState_empty : OwningState [] .empty where
  sound := {
    keyed := fun E job hjob => by
      rw [HoldoverWriteOutboxWorld.empty, Std.ExtTreeMap.getElem?_empty] at hjob
      cases hjob
    counted := fun E job hjob => by
      rw [HoldoverWriteOutboxWorld.empty, Std.ExtTreeMap.getElem?_empty] at hjob
      cases hjob
    bounded := fun _ => Nat.zero_le _
    open' := fun E job hjob => by
      rw [HoldoverWriteOutboxWorld.empty, Std.ExtTreeMap.getElem?_empty] at hjob
      cases hjob }
  tombstone _ hrow := by cases hrow
  owned E job hjob := by
    rw [HoldoverWriteOutboxWorld.empty, Std.ExtTreeMap.getElem?_empty] at hjob
    cases hjob

/-- The state is owned after every run of owning operations. -/
theorem run_owningState {es : List OutboxEvent}
    (hes : holdoverWriteOutbox.Guarded OwningOperation .empty es) :
    OwningState es (holdoverWriteOutbox.run es) := by
  induction es using List.reverseRecOn with
  | nil => exact owningState_empty
  | append_singleton es event ih =>
    obtain ⟨hbefore, hevent⟩ := holdoverWriteOutbox.guarded_append.mp hes
    rw [Machine.run_concat]
    exact (outboxStep_owns (ih hbefore) hevent.1).1

/-- **The outbox owns its work.**  Where no ensure of a run strands its job and every reset lists
the identity versions of the jobs it drops, after every operation each pending job has an armed
alarm, no job has seen more than `HOLDOVER_WRITE_MAX_ATTEMPTS` puts since it was created, and each
job the operation found is still there, or was put, or lies under a deletion cutoff, or its
identity version was reset. -/
theorem outbox_owns_its_work (es : List OutboxEvent)
    (hes : holdoverWriteOutbox.Guarded OwningOperation .empty es)
    (before : List OutboxEvent) (event : OutboxEvent) (hp : before ++ [event] <+: es) :
    (holdoverWriteOutbox.run (before ++ [event])).storage.Owned ∧
      (∀ experimentId, attemptsSinceSealed experimentId
        (holdoverWriteOutbox.run (before ++ [event])).log ≤ HOLDOVER_WRITE_MAX_ATTEMPTS) ∧
      RowsAccounted (before ++ [event]) (holdoverWriteOutbox.run before)
        (holdoverWriteOutbox.run (before ++ [event])) := by
  obtain ⟨after, rfl⟩ := hp
  obtain ⟨hstate, hevent⟩ := holdoverWriteOutbox.guarded_append.mp
    (holdoverWriteOutbox.guarded_append.mp hes).1
  obtain ⟨howns, hrows⟩ := outboxStep_owns (run_owningState hstate) hevent.1
  rw [Machine.run_concat]
  exact ⟨howns.owned, howns.sound.bounded, hrows⟩

/-! ## 6. A run that owns, and one that strands -/

/-- The put fails. -/
def putFails : OutboxFate where
  isAppSuppressed := .ok false
  registerEntity := .ok .registered
  isAppSuppressedFor _ := .ok false
  putHashed _ := .error "assignment-store: KV PUT failed"

/-- The second look at App suppression fails. -/
def secondLookFails : OutboxFate where
  isAppSuppressed := .ok false
  registerEntity := .ok .registered
  isAppSuppressedFor _ := .error "KV GET failed"
  putHashed _ := .ok ()

/-- A job whose put fails, whose second look then fails, and which a reset drops. -/
def owningRun : List OutboxEvent :=
  [.ensure outboxInput 200 (some 80) putFails, .alarm 1200 secondLookFails, .resetApp ["v1"]]

theorem outbox_owns_its_work_sample :
    (holdoverWriteOutbox.run owningRun).storage.Owned ∧
      (∀ experimentId, attemptsSinceSealed experimentId
        (holdoverWriteOutbox.run owningRun).log ≤ HOLDOVER_WRITE_MAX_ATTEMPTS) ∧
      RowsAccounted owningRun (holdoverWriteOutbox.run (owningRun.take 2))
        (holdoverWriteOutbox.run owningRun) := by
  have hrows : ∀ job ∈ (holdoverWriteOutbox.run (owningRun.take 2)).storage.rows,
      ∃ version ∈ ["v1"], job.identityVersion = some version := by decide +kernel
  exact outbox_owns_its_work owningRun
    ⟨⟨fun h => absurd h.2.2.2.2.2.2 (by decide), trivial⟩, ⟨not_false, trivial⟩,
      ⟨not_false, hrows⟩, trivial⟩
    (owningRun.take 2) (.resetApp ["v1"]) (List.prefix_refl _)

/-- **A job is stranded**: the first ensure of an outbox writes its pending row, and then throws
with no alarm armed. -/
theorem outbox_strands_a_job :
    ¬ ∀ (es before : List OutboxEvent) (event : OutboxEvent), before ++ [event] <+: es →
      (holdoverWriteOutbox.run (before ++ [event])).storage.Owned ∧
        (∀ experimentId, attemptsSinceSealed experimentId
          (holdoverWriteOutbox.run (before ++ [event])).log ≤ HOLDOVER_WRITE_MAX_ATTEMPTS) ∧
        RowsAccounted (before ++ [event]) (holdoverWriteOutbox.run before)
          (holdoverWriteOutbox.run (before ++ [event])) := by
  intro h
  have howned := (h [.ensure outboxInput 200 (some 80) secondLookFails] []
    (.ensure outboxInput 200 (some 80) secondLookFails) (List.prefix_refl _)).1
  have hjob : (holdoverWriteOutbox.run
      [.ensure outboxInput 200 (some 80) secondLookFails]).storage.jobs["exp_c0ffee"]?
        = some (sealedJob outboxInput 80 200) := by decide +kernel
  have halarm : (holdoverWriteOutbox.run
      [.ensure outboxInput 200 (some 80) secondLookFails]).storage.alarm = none := by
    decide +kernel
  have harmed := howned "exp_c0ffee" (sealedJob outboxInput 80 200) hjob rfl
  rw [List.nil_append, halarm] at harmed
  cases harmed

end Splitch
