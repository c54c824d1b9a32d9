/-
# The deletion cutoff of the outbox

After a deletion up to `C` nothing created at or before `C` may be put again.  Work of that age may still
come: an attempt that was under way, a retry of a stale caller, a job that waits for its alarm.  What holds
them off is the tombstone, against which every later attempt is checked.

The invariant is that the tombstone is at least `C` and that every row was created after it (`CutOff`).
Attempts, ensures and alarms keep it and put nothing old, by their lists of ways out; an ensure of old work
is answered `suppressed`.  A deletion establishes it from any state (`deleted_cutOff`).

But `suppressEntityOutbox` writes the tombstone UNCONDITIONALLY, also where it is lower than the one that is
there.  So the promise holds exactly as long as no later deletion lowers it (`deletion_cutoff_holds`), and a
late deletion reopens the outbox for what the earlier one has cut off (`deletion_cutoff_lowered`).
-/
import Splitch.Holdover.OutboxEffects

namespace Splitch

open StateActions HoldoverWriteOutbox

/-! ## 1. The invariant -/

/-- The tombstone stands at `C` or above, and no row lies at or below `C`. -/
structure CutOff (C : Int) (world : HoldoverWriteOutboxWorld) : Prop where
  tombstone : ∃ ms, world.storage.suppression = some (.deleteBeforeTsMs ms) ∧ C ≤ ms
  rows : ∀ (experimentId : String) (job : HoldoverWriteJob),
    world.storage.jobs[experimentId]? = some job → C < job.createdAtMs

/-- Between two states of the object, all calls of `putHashed` were for work created after `C`. -/
def PutsOnlyAfter (C : Int) (before after : HoldoverWriteOutboxWorld) : Prop :=
  ∃ acts, after.log = before.log ++ acts ∧
    ∀ input resolved, OutboxAct.putHashed input resolved ∈ acts →
      ∃ createdAtMs, input.sourceCreatedAtMs = some createdAtMs ∧ C < createdAtMs

variable {C : Int} {world world' : HoldoverWriteOutboxWorld}

theorem PutsOnlyAfter.of_log (h : world'.log = world.log) : PutsOnlyAfter C world world' :=
  ⟨[], by rw [h, List.append_nil], fun _ _ hmem => by cases hmem⟩

theorem PutsOnlyAfter.trans {world'' : HoldoverWriteOutboxWorld}
    (h : PutsOnlyAfter C world world') (h' : PutsOnlyAfter C world' world'') :
    PutsOnlyAfter C world world'' := by
  obtain ⟨acts, hlog, hputs⟩ := h
  obtain ⟨acts', hlog', hputs'⟩ := h'
  refine ⟨acts ++ acts', by rw [hlog', hlog, List.append_assoc], fun input resolved hmem => ?_⟩
  rcases List.mem_append.mp hmem with hmem | hmem
  · exact hputs input resolved hmem
  · exact hputs' input resolved hmem

/-- One put of a job created after `C`. -/
theorem PutsOnlyAfter.put {job : HoldoverWriteJob} {resolved : Bool} (hjob : C < job.createdAtMs)
    (h : world'.log = world.log ++ [.putHashed job.put resolved]) :
    PutsOnlyAfter C world world' := by
  refine ⟨_, h, fun input _ hmem => ?_⟩
  cases List.mem_singleton.mp hmem
  exact ⟨job.createdAtMs, rfl, hjob⟩

/-- Under the tombstone, what is not stale was created after `C`. -/
theorem CutOff.of_fresh (h : CutOff C world) {createdAtMs : Int}
    (hfresh : isStaleUnderEntityCutoff world.storage createdAtMs = false) : C < createdAtMs := by
  obtain ⟨ms, hms, hle⟩ := h.tombstone
  have hlt : ¬ createdAtMs ≤ ms := by
    simpa [isStaleUnderEntityCutoff, readEntitySuppression, hms, DeletionCutoff.covers]
      using hfresh
  omega

/-- Fewer rows under the same tombstone. -/
theorem CutOff.fewer (h : CutOff C world)
    (htombstone : world'.storage.suppression = world.storage.suppression)
    (hrows : ∀ (experimentId : String) job, world'.storage.jobs[experimentId]? = some job →
      world.storage.jobs[experimentId]? = some job) : CutOff C world' where
  tombstone := htombstone ▸ h.tombstone
  rows experimentId job hjob := h.rows experimentId job (hrows experimentId job hjob)

/-- A further row created after `C`. -/
theorem CutOff.insert (h : CutOff C world)
    (htombstone : world'.storage.suppression = world.storage.suppression) {job : HoldoverWriteJob}
    (hjobs : world'.storage.jobs = world.storage.jobs.insert job.experimentId job)
    (hjob : C < job.createdAtMs) : CutOff C world' where
  tombstone := htombstone ▸ h.tombstone
  rows experimentId job' hjob' := by
    rw [hjobs, Rows.getElem?_insert_eq] at hjob'
    split at hjob'
    · cases hjob'
      exact hjob
    · exact h.rows experimentId job' hjob'

/-! ## 2. One operation -/

namespace HoldoverWriteOutbox

/-- What an operation below the tombstone keeps and does. -/
def KeepsCutoff (C : Int) (before after : HoldoverWriteOutboxWorld) : Prop :=
  CutOff C after ∧ PutsOnlyAfter C before after

theorem AttemptStep.keepsCutoff {job : HoldoverWriteJob} {nowMs : Int} {fate : OutboxFate}
    {result : Except String HoldoverWriteEnsureStatus × HoldoverWriteOutboxWorld}
    (h : AttemptStep job nowMs fate world result) (hcut : CutOff C world) :
    KeepsCutoff C world result.2 := by
  cases h with
  | fenceThrew => exact ⟨hcut, .of_log rfl⟩
  | lookupThrew => exact ⟨hcut, .of_log rfl⟩
  | recheck => exact ⟨hcut.fewer rfl fun _ _ hjob => hjob, .of_log rfl⟩
  | dropped => exact ⟨hcut.fewer rfl fun _ _ hjob => (Rows.of_getElem?_erase hjob).2, .of_log rfl⟩
  | poisoned => exact ⟨hcut, .of_log rfl⟩
  | completed _ hfresh =>
    exact ⟨hcut.fewer rfl fun _ _ hjob => (Rows.of_getElem?_erase hjob).2,
      .put (hcut.of_fresh hfresh) rfl⟩
  | failed _ _ hfresh =>
    have hcreated : C < (failedJob job nowMs).createdAtMs := hcut.of_fresh hfresh
    exact ⟨hcut.insert rfl rfl hcreated, .put (hcut.of_fresh hfresh) rfl⟩

/-- **Ensure under a tombstone**: nothing old is put, and old work is answered `suppressed`. Every
branch that puts, or answers otherwise, lies behind the check of the work against the cutoff. -/
theorem EnsureStep.keepsCutoff {input : HashedAssignmentPutInput} {nowMs sourceCreatedAtMs : Int}
    {fate : OutboxFate}
    {result : Except String HoldoverWriteEnsureStatus × HoldoverWriteOutboxWorld}
    (h : EnsureStep input nowMs sourceCreatedAtMs fate world result) (hcut : CutOff C world) :
    KeepsCutoff C world result.2 ∧
      (sourceCreatedAtMs ≤ C → ∀ status, result.1 = .ok status → status = .suppressed) := by
  have hold : ∀ {P : Prop}, isStaleUnderEntityCutoff world.storage sourceCreatedAtMs = false →
      sourceCreatedAtMs ≤ C → P := fun hfresh hle => by
    have hlt := hcut.of_fresh hfresh
    omega
  cases h with
  | threw => exact ⟨⟨hcut, .of_log rfl⟩, fun _ _ h => by cases h⟩
  | suppressed => exact ⟨⟨hcut, .of_log rfl⟩, fun _ _ h => (Except.ok.inj h).symm⟩
  | stale =>
    exact ⟨⟨hcut.fewer rfl fun _ _ hjob => (Rows.getElem?_filter_eq_some.mp hjob).1, .of_log rfl⟩,
      fun _ _ h => (Except.ok.inj h).symm⟩
  | poisoned hfresh => exact ⟨⟨hcut, .of_log rfl⟩, hold hfresh⟩
  | deferred hfresh =>
    exact ⟨⟨hcut.fewer rfl fun _ _ hjob => hjob, .of_log rfl⟩, hold hfresh⟩
  | retried hfresh job hjob hattempt => exact ⟨hattempt.keepsCutoff hcut, hold hfresh⟩
  | «sealed» hfresh _ _ _ _ hattempt =>
    have hsealing : CutOff C (sealing world (sealedJob input sourceCreatedAtMs nowMs)) :=
      hcut.insert rfl rfl (hcut.of_fresh hfresh)
    obtain ⟨hafter, hputs⟩ := hattempt.keepsCutoff hsealing
    refine ⟨⟨hafter, PutsOnlyAfter.trans ⟨_, rfl, fun _ _ hmem => ?_⟩ hputs⟩, hold hfresh⟩
    cases List.mem_singleton.mp hmem

theorem RetryStep.keepsCutoff {nowMs : Int} {cutoff : Option DeletionCutoff} {fate : OutboxFate}
    {job : HoldoverWriteJob} (h : RetryStep nowMs cutoff fate job world world')
    (hcut : CutOff C world) : KeepsCutoff C world world' := by
  cases h with
  | skipped => exact ⟨hcut, .of_log rfl⟩
  | dropped => exact ⟨hcut.fewer rfl fun _ _ hjob => (Rows.of_getElem?_erase hjob).2, .of_log rfl⟩
  | attempted hattempt => exact hattempt.keepsCutoff hcut

/-- **The loop of an alarm**, by the loop rule: each turn keeps the tombstone and puts nothing
old. -/
theorem cutOff_swept (hcut : CutOff C world) (nowMs : Int) (fate : OutboxFate) :
    KeepsCutoff C world (swept nowMs fate world) := by
  obtain ⟨_, hkeeps⟩ := forM_invariant
    (f := retryDueAlarmJob nowMs (readEntitySuppression world.storage) fate)
    (I := fun _ world' => KeepsCutoff C world world')
    (fun job _ world' hkeeps => by
      obtain ⟨hafter, hputs⟩ := (retry_step _ _ _ _ _).keepsCutoff hkeeps.1
      exact ⟨hafter, hkeeps.2.trans hputs⟩)
    world.storage.rows world ⟨hcut, .of_log rfl⟩
  exact hkeeps

theorem AlarmStep.keepsCutoff {nowMs : Int} {fate : OutboxFate}
    (h : AlarmStep nowMs fate world world') (hcut : CutOff C world) :
    KeepsCutoff C world world' := by
  have hfired : CutOff C (fired world) := hcut.fewer rfl fun _ _ hjob => hjob
  obtain ⟨hswept, hputs⟩ := cutOff_swept hfired nowMs fate
  cases h with
  | idle => exact ⟨hfired, .of_log rfl⟩
  | armed => exact ⟨hcut.fewer rfl fun _ _ hjob => hjob, .of_log rfl⟩
  | sweptAll => exact ⟨hswept.fewer rfl fun _ _ hjob => hjob, hputs⟩
  | sweepThrew => exact ⟨hswept.fewer rfl fun _ _ hjob => hjob, hputs⟩

/-- **A deletion cuts off** all that was created up to its cutoff, from any state. -/
theorem deleted_cutOff (world : HoldoverWriteOutboxWorld) (deleteBeforeTsMs : Int)
    (hle : C ≤ deleteBeforeTsMs) : CutOff C (deleted world deleteBeforeTsMs) where
  tombstone := ⟨deleteBeforeTsMs, rfl, hle⟩
  rows experimentId job hjob := by
    have hkept := (Rows.getElem?_filter_eq_some.mp hjob).2
    have hlt : ¬ job.createdAtMs ≤ deleteBeforeTsMs := by
      simpa [DeletionCutoff.covers] using hkept
    omega

/-- **One operation**: below a tombstone, all operations but a lower deletion keep it and put
nothing old. -/
theorem outboxStep_keepsCutoff (hcut : CutOff C world) (event : OutboxEvent)
    (hrise : ∀ deleteBeforeTsMs mark, event = .delete deleteBeforeTsMs mark →
      C ≤ deleteBeforeTsMs) :
    KeepsCutoff C world (holdoverWriteOutbox.next world event) := by
  change KeepsCutoff C world (outboxStep event world).2
  cases event with
  | ensure input nowMs sourceCreatedAtMs fate =>
    rw [outboxStep, mapOk_apply]
    exact ((ensure_step input nowMs sourceCreatedAtMs fate world).keepsCutoff hcut).1
  | alarm nowMs fate =>
    rw [outboxStep, mapOk_apply]
    exact (alarm_step nowMs fate world).keepsCutoff hcut
  | delete deleteBeforeTsMs mark =>
    rw [outboxStep, mapOk_apply, delete_apply]
    exact ⟨deleted_cutOff world deleteBeforeTsMs (hrise deleteBeforeTsMs mark rfl), .of_log rfl⟩
  | purge deleteBeforeTsMs =>
    rw [outboxStep, mapOk_apply, purge_apply]
    exact ⟨hcut.fewer rfl fun _ _ hjob => (Rows.getElem?_filter_eq_some.mp hjob).1, .of_log rfl⟩
  | resumeAlarms =>
    rw [outboxStep, mapOk_apply, reschedule_apply]
    exact ⟨hcut.fewer rfl fun _ _ hjob => hjob, .of_log rfl⟩
  | resetApp destroyedVersions =>
    rw [outboxStep, mapOk_apply]
    rcases reset_cases destroyedVersions world with h | ⟨next, _, h⟩
    · rw [h]
      exact ⟨hcut, .of_log rfl⟩
    · rw [h]
      refine ⟨hcut.fewer rfl fun _ _ hjob => ?_, .of_log rfl⟩
      rw [reset, Std.ExtTreeMap.getElem?_empty] at hjob
      cases hjob

end HoldoverWriteOutbox

/-! ## 3. Runs -/

/-- Below a tombstone, a run without a lower deletion keeps it. -/
theorem exec_cutOff (hcut : CutOff C world) (es : List OutboxEvent)
    (hrise : ∀ deleteBeforeTsMs mark, .delete deleteBeforeTsMs mark ∈ es →
      C ≤ deleteBeforeTsMs) : CutOff C (holdoverWriteOutbox.exec world es) := by
  induction es generalizing world with
  | nil => exact hcut
  | cons event es ih =>
    refine ih (outboxStep_keepsCutoff hcut event fun c mark heq => ?_).1 fun c mark hmem => ?_
    · exact hrise c mark (heq ▸ List.mem_cons_self)
    · exact hrise c mark (List.mem_cons_of_mem event hmem)

/-- **The cutoff holds while it is not lowered.**  From any state, after a deletion up to `C` and
any further operations none of which is a deletion up to less, the next operation puts only work
created after `C`; and an ensure of work created up to `C` that answers, answers `suppressed`. -/
theorem deletion_cutoff_holds (world : HoldoverWriteOutboxWorld) (C : Int)
    (mark : Option (Except String Unit)) (later : List OutboxEvent)
    (hrise : ∀ deleteBeforeTsMs mark', .delete deleteBeforeTsMs mark' ∈ later →
      C ≤ deleteBeforeTsMs)
    (between : List OutboxEvent) (event : OutboxEvent) (hp : between ++ [event] <+: later) :
    let before := holdoverWriteOutbox.exec world (.delete C mark :: between)
    PutsOnlyAfter C before (holdoverWriteOutbox.next before event) ∧
      ∀ input nowMs sourceCreatedAtMs fate,
        event = .ensure input nowMs sourceCreatedAtMs fate →
        sourceCreatedAtMs.getD nowMs ≤ C →
        ∀ status, holdoverWriteOutbox.out before event = .ok (.ensure status) →
          status = .suppressed := by
  intro before
  have hmem : ∀ e, e ∈ between ++ [event] → e ∈ later := fun e he => hp.subset he
  have hdeleted : CutOff C (holdoverWriteOutbox.next world (.delete C mark)) := by
    change CutOff C (outboxStep (.delete C mark) world).2
    rw [outboxStep, mapOk_apply, delete_apply]
    exact deleted_cutOff world C (le_refl C)
  have hcut : CutOff C before := exec_cutOff hdeleted between fun c mark' hdelete =>
    hrise c mark' (hmem _ (List.mem_append_left _ hdelete))
  refine ⟨(outboxStep_keepsCutoff hcut event fun c mark' heq => ?_).2, ?_⟩
  · exact hrise c mark' (hmem _ (heq ▸ List.mem_append_right _ List.mem_cons_self))
  · rintro input nowMs sourceCreatedAtMs fate rfl hle status hanswer
    have hensure := (ensure_step input nowMs sourceCreatedAtMs fate before).keepsCutoff hcut
    change (outboxStep _ before).1 = _ at hanswer
    rw [outboxStep, mapOk_apply] at hanswer
    cases hreply : (ensureHoldoverWriteJob input nowMs sourceCreatedAtMs fate before).1 with
    | error message =>
      rw [hreply] at hanswer
      cases hanswer
    | ok status' =>
      rw [hreply] at hanswer
      cases hanswer
      exact hensure.2 hle status hreply

/-! ## 4. A lower deletion -/

/-- All calls succeed. -/
def outboxCallsDone : OutboxFate where
  isAppSuppressed := .ok false
  registerEntity := .ok .registered
  isAppSuppressedFor _ := .ok false
  putHashed _ := .ok ()

/-- After a deletion up to 100 that a deletion up to 150 follows, work of 80 is suppressed. -/
theorem deletion_cutoff_holds_sample :
    PutsOnlyAfter 100 (holdoverWriteOutbox.exec .empty [.delete 100 none, .delete 150 none])
        (holdoverWriteOutbox.next
          (holdoverWriteOutbox.exec .empty [.delete 100 none, .delete 150 none])
          (.ensure outboxInput 200 (some 80) outboxCallsDone)) ∧
      ∀ status, holdoverWriteOutbox.out
        (holdoverWriteOutbox.exec .empty [.delete 100 none, .delete 150 none])
        (.ensure outboxInput 200 (some 80) outboxCallsDone) = .ok (.ensure status) →
        status = .suppressed := by
  have hrise : ∀ deleteBeforeTsMs mark, OutboxEvent.delete deleteBeforeTsMs mark ∈
      [.delete 150 none, .ensure outboxInput 200 (some 80) outboxCallsDone] →
      100 ≤ deleteBeforeTsMs := by
    intro c mark hmem
    simp only [List.mem_cons, OutboxEvent.delete.injEq, reduceCtorEq, List.not_mem_nil,
      or_false] at hmem
    omega
  obtain ⟨hputs, hensure⟩ := deletion_cutoff_holds .empty 100 none
    [.delete 150 none, .ensure outboxInput 200 (some 80) outboxCallsDone] hrise
    [.delete 150 none] (.ensure outboxInput 200 (some 80) outboxCallsDone) (List.prefix_refl _)
  exact ⟨hputs, hensure outboxInput 200 (some 80) outboxCallsDone rfl (by decide)⟩

/-- **A late deletion reopens the outbox**: deletions up to 100 and then, late, up to 50 have both
been answered, and work created at 80 is put. -/
theorem deletion_cutoff_lowered :
    ¬ ∀ (es : List OutboxEvent) (C : Int) (mark : Option (Except String Unit)) (remaining : Bool)
        (between : List OutboxEvent) (event : OutboxEvent),
      holdoverWriteOutbox.out (holdoverWriteOutbox.run es) (.delete C mark)
        = .ok (.delete remaining) →
      PutsOnlyAfter C (holdoverWriteOutbox.run (es ++ .delete C mark :: between))
        (holdoverWriteOutbox.next (holdoverWriteOutbox.run (es ++ .delete C mark :: between))
          event) := by
  intro h
  obtain ⟨acts, hlog, hputs⟩ := h [] 100 none false [.delete 50 none]
    (.ensure outboxInput 200 (some 80) outboxCallsDone) rfl
  have hbefore : (holdoverWriteOutbox.run ([] ++ .delete 100 none :: [.delete 50 none])).log
      = [] := by decide +kernel
  have hafter : (holdoverWriteOutbox.next
      (holdoverWriteOutbox.run ([] ++ .delete 100 none :: [.delete 50 none]))
      (.ensure outboxInput 200 (some 80) outboxCallsDone)).log
        = [.sealedJob "exp_c0ffee",
          .putHashed { outboxInput with sourceCreatedAtMs := some 80 } true] := by decide +kernel
  rw [hbefore, hafter, List.nil_append] at hlog
  obtain ⟨createdAtMs, hcreated, hlt⟩ := hputs { outboxInput with sourceCreatedAtMs := some 80 }
    true (by rw [← hlog]; exact List.mem_cons_of_mem _ List.mem_cons_self)
  cases hcreated
  omega

end Splitch
