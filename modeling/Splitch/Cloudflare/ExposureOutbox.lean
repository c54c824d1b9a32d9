/-
# The Exposure outbox: its alarm, its rows and their deadline

A row of the outbox is owed until an alarm has delivered it.  The alarm reads its clock once and picks the
rows that are due.  It takes them one after the other, each when the one before has been answered: a row
that is past its deadline by that clock leaves, the others are sent.  Three things should hold in every
run, whatever comes back of a delivery and however long it takes.

Where no alarm is running, it is armed no later than anything is due (`Armed`).  It has fired before it
runs, so until it ends what is owed is the list of the rows it still has in hand; its end arms it for what
has stayed.

A row leaves `pending` by an accepted delivery, a rejected one or its deadline (`LeavesBy`), and is not
sent again (`OutboxInv`).  Rows are told apart by the serial of their insertion, which is counted over
the whole run.

A delivery starts within the deadline of its row.  This holds of the first one of an alarm.  Of the others
it holds as long as the deliveries before have not taken too long, since the deadline was looked up at the
time the alarm had started; and each turn decides about it by itself, so that the condition on a run is
exact (`exposure_outbox_drains_iff`).
-/
import Splitch.Cloudflare.StickyExposures

namespace Splitch

namespace Cloudflare

open SplitchWorld SplitchStorage

/-! ## 1. What is said of a world -/

namespace SplitchStorage

/-- When a pending row is to be sent, and when anything stored is to be pruned. -/
def dueTimes (storage : SplitchStorage) : List Int :=
  storage.pendingExposures.map (·.nextAttemptAt) ++
    (storage.evaluationClaims.map (·.createdAt) ++ storage.terminalExposures.map (·.createdAt) ++
      storage.pushClaims.map (·.appliedAt)).map (· + RETENTION_MS)

/-- The alarm is armed no later than anything is due; what is overdue when it is set is due at
once. -/
def Armed (storage : SplitchStorage) : Prop :=
  ∀ due ∈ storage.dueTimes, ∃ alarm, storage.alarm = some alarm ∧ alarm.time ≤ max alarm.setAt due

end SplitchStorage

namespace SplitchWorld

def Pending (world : SplitchWorld) (serial : Nat) : Prop :=
  ∃ row ∈ world.storage.pendingExposures, row.serial = serial

/-- No delivery has started at its row's deadline or later. -/
def Timely (world : SplitchWorld) : Prop :=
  ∀ serial createdAt sentAt, .sent serial createdAt sentAt ∈ world.log →
    sentAt - createdAt < PRIVACY_DEADLINE_MS

/-- When a row was created, and when it was sent. -/
def sendOf : SplitchEntry → Option (Int × Int)
  | .sent _ createdAt sentAt => some (createdAt, sentAt)
  | _ => none

theorem timely_iff {world : SplitchWorld} : world.Timely ↔
    ∀ send ∈ world.log.filterMap sendOf, send.2 - send.1 < PRIVACY_DEADLINE_MS := by
  constructor
  · intro h send hsend
    obtain ⟨entry, hentry, heq⟩ := List.mem_filterMap.mp hsend
    cases entry with
    | sent serial createdAt sentAt =>
      cases heq
      exact h serial createdAt sentAt hentry
    | committed call details => cases heq
    | answered request details => cases heq
    | left serial cause => cases heq
  · intro h serial createdAt sentAt hmem
    exact h (createdAt, sentAt) (List.mem_filterMap.mpr ⟨_, hmem, rfl⟩)

instance (world : SplitchWorld) : Decidable world.Timely := decidable_of_iff' _ timely_iff

/-- The rows that the alarm under way still has to finish. -/
def owed (world : SplitchWorld) : List ExposureRow :=
  match world.alarmRun with
  | none => []
  | some run => run.sending :: run.rest

end SplitchWorld

/-- A turn of a call leaves the alarm and what it is due for, or leaves it armed. -/
def Rearms (env : SplitchEnv) (world : SplitchWorld) (event : RpcEvent) : Prop :=
  let after := (splitchState env).next world (.rpc event)
  (after.storage.dueTimes = world.storage.dueTimes ∧
    after.storage.alarm = world.storage.alarm) ∨ Armed after.storage

/-- A row that is no longer pending was under way, and has been accepted or rejected, or was past
its deadline when the alarm started. -/
def LeavesBy (env : SplitchEnv) (world : SplitchWorld) (event : SplitchEvent) : Prop :=
  ∀ row ∈ world.storage.pendingExposures,
    ((splitchState env).next world event).Pending row.serial ∨
      (∃ response now run, event = .delivered response now ∧ world.alarmRun = some run ∧
        run.sending = row ∧ (deliverExposure response = .accepted ∨
          deliverExposure response = .terminal)) ∨
      (∃ now, event = .alarm now ∧ exceededPrivacyDeadline row now) ∨
      ∃ response now run, event = .delivered response now ∧ world.alarmRun = some run ∧
        exceededPrivacyDeadline row run.startedAt

/-- What every reachable world keeps, and `Timely`. -/
structure Drains (env : SplitchEnv) (world : SplitchWorld) : Prop where
  armed : world.alarmRun = none → Armed world.storage
  rearms : ∀ event, Rearms env world event
  leavesBy : ∀ event, LeavesBy env world event
  recorded : ∀ serial < world.storage.inserted,
    world.Pending serial ∨ ∃ cause, .left serial cause ∈ world.log
  left : ∀ serial cause, .left serial cause ∈ world.log → ¬ world.Pending serial
  notResent : world.log.Pairwise fun earlier later => ∀ serial cause,
    earlier = .left serial cause → ∀ createdAt sentAt, later ≠ .sent serial createdAt sentAt
  timely : world.Timely

/-- The next row that the alarm under way sends. -/
def AlarmRun.next (run : AlarmRun) : Option ExposureRow :=
  run.rest.find? fun row => ! exceededPrivacyDeadline row run.startedAt

/-- **A delivery is answered in time for the next**: when it comes back, the next row that the alarm
sends is not past its deadline. -/
def AnsweredInTime (world : SplitchWorld) (event : SplitchEvent) : Prop :=
  ∀ response now run row, event = .delivered response now → world.alarmRun = some run →
    run.next = some row → exceededPrivacyDeadline row now = false

/-! ## 2. The alarm -/

section

variable {storage : SplitchStorage} {now : Int}

theorem exists_min_le {times : List Int} {time : Int} (h : time ∈ times) :
    ∃ least, times.min? = some least ∧ least ≤ time := by
  cases hleast : times.min? with
  | none =>
    rw [List.min?_eq_none_iff.mp hleast] at h
    cases h
  | some least => exact ⟨least, rfl, (List.min?_eq_some_iff.mp hleast).2 time h⟩

theorem exists_least_of_mem {times : List Int} {leasts : List (Option Int)}
    (hmem : times.min? ∈ leasts) {time : Int} (h : time ∈ times) :
    ∃ least ∈ leasts.filterMap id, least ≤ time := by
  obtain ⟨least, hleast, hle⟩ := exists_min_le h
  exact ⟨least, List.mem_filterMap.mpr ⟨_, hmem, hleast⟩, hle⟩

theorem exists_candidate_le {due : Int} (h : due ∈ storage.dueTimes) :
    ∃ candidate ∈ storage.alarmCandidates, candidate ≤ due := by
  unfold dueTimes at h
  unfold alarmCandidates
  rcases List.mem_append.mp h with hpending | hretained
  · obtain ⟨least, hleast, hle⟩ := exists_min_le hpending
    exact ⟨least, List.mem_append_left _ (Option.mem_toList.mpr hleast), hle⟩
  · obtain ⟨time, htime, rfl⟩ := List.mem_map.mp hretained
    have hstored : ∃ least ∈ [(storage.evaluationClaims.map (·.createdAt)).min?,
        (storage.terminalExposures.map (·.createdAt)).min?,
        (storage.pushClaims.map (·.appliedAt)).min?].filterMap id, least ≤ time := by
      rcases List.mem_append.mp htime with htime | hpush
      · rcases List.mem_append.mp htime with hclaim | hterminal
        · exact exists_least_of_mem List.mem_cons_self hclaim
        · exact exists_least_of_mem (List.mem_cons_of_mem _ List.mem_cons_self) hterminal
      · exact exists_least_of_mem
          (List.mem_cons_of_mem _ (List.mem_cons_of_mem _ List.mem_cons_self)) hpush
    obtain ⟨least, hleast, hle⟩ := hstored
    exact ⟨least + RETENTION_MS, List.mem_append_right _ (List.mem_map_of_mem hleast),
      Int.add_le_add_right hle _⟩

@[simp] theorem dueTimes_ensureAlarm : (storage.ensureAlarm now).dueTimes = storage.dueTimes := by
  unfold ensureAlarm
  split <;> rfl

/-- **`ensureAlarm` arms the alarm.** -/
theorem armed_ensureAlarm : Armed (storage.ensureAlarm now) := by
  intro due hdue
  rw [dueTimes_ensureAlarm] at hdue
  obtain ⟨candidate, hcandidate, hle⟩ := exists_candidate_le hdue
  unfold ensureAlarm
  cases hleast : storage.alarmCandidates.min? with
  | none =>
    rw [List.min?_eq_none_iff.mp hleast] at hcandidate
    cases hcandidate
  | some least =>
    have hleast_le := (List.min?_eq_some_iff.mp hleast).2 candidate hcandidate
    exact ⟨_, rfl, max_le_max_left now (hleast_le.trans hle)⟩

end

/-! ## 3. Rows -/

/-- The rows, those the alarm under way still owes, and what the log says of them. -/
structure OutboxInv (world : SplitchWorld) (rows : List ExposureRow) : Prop where
  below : ∀ row ∈ world.storage.exposureOutbox, row.serial < world.storage.inserted
  serials : (world.storage.exposureOutbox.map (·.serial)).Nodup
  ids : (world.storage.exposureOutbox.map (·.exposureId)).Nodup
  owed : ∀ row ∈ rows, row ∈ world.storage.pendingExposures
  once : rows.Nodup
  recorded : ∀ serial < world.storage.inserted,
    world.Pending serial ∨ ∃ cause, .left serial cause ∈ world.log
  left : ∀ serial cause, .left serial cause ∈ world.log →
    serial < world.storage.inserted ∧ ¬ world.Pending serial
  notResent : world.log.Pairwise fun earlier later => ∀ serial cause,
    earlier = .left serial cause → ∀ createdAt sentAt, later ≠ .sent serial createdAt sentAt

theorem mem_pending {storage : SplitchStorage} {row : ExposureRow} :
    row ∈ storage.pendingExposures ↔ row ∈ storage.exposureOutbox ∧ row.state = .pending := by
  simp [pendingExposures]

section

variable {world after : SplitchWorld} {rows : List ExposureRow}

/-- Two rows of the outbox with one id are one row. -/
theorem OutboxInv.eq_of_id (h : OutboxInv world rows) {row other : ExposureRow}
    (hrow : row ∈ world.storage.exposureOutbox) (hother : other ∈ world.storage.exposureOutbox)
    (hid : row.exposureId = other.exposureId) : row = other :=
  List.inj_on_of_nodup_map h.ids hrow hother hid

theorem OutboxInv.eq_of_serial (h : OutboxInv world rows) {row other : ExposureRow}
    (hrow : row ∈ world.storage.exposureOutbox) (hother : other ∈ world.storage.exposureOutbox)
    (hserial : row.serial = other.serial) : row = other :=
  List.inj_on_of_nodup_map h.serials hrow hother hserial

theorem OutboxInv.pending_of_rows (h : OutboxInv world rows) {row : ExposureRow}
    (hrow : row ∈ rows) : world.Pending row.serial := ⟨row, h.owed row hrow, rfl⟩

/-- Where the rows and the counter stay and nothing is recorded as left, all is kept but what is
owed and what is sent. -/
theorem OutboxInv.of_same (h : OutboxInv world rows)
    (houtbox : after.storage.exposureOutbox = world.storage.exposureOutbox)
    (hinserted : after.storage.inserted = world.storage.inserted)
    (hleft : ∀ serial cause, SplitchEntry.left serial cause ∈ after.log ↔
      .left serial cause ∈ world.log)
    (hnotResent : after.log.Pairwise fun earlier later => ∀ serial cause,
      earlier = .left serial cause → ∀ createdAt sentAt, later ≠ .sent serial createdAt sentAt) :
    OutboxInv after rows := by
  have hpending : after.storage.pendingExposures = world.storage.pendingExposures := by
    unfold pendingExposures
    rw [houtbox]
  have hsame : ∀ serial, after.Pending serial ↔ world.Pending serial := by
    intro serial
    unfold SplitchWorld.Pending
    rw [hpending]
  constructor
  · rw [houtbox, hinserted]
    exact h.below
  · rw [houtbox]
    exact h.serials
  · rw [houtbox]
    exact h.ids
  · rw [hpending]
    exact h.owed
  · exact h.once
  · intro serial hserial
    rw [hsame]
    rcases h.recorded serial (hinserted ▸ hserial) with hpending | ⟨cause, hcause⟩
    · exact .inl hpending
    · exact .inr ⟨cause, (hleft serial cause).mpr hcause⟩
  · intro serial cause hcause
    rw [hsame, hinserted]
    exact h.left serial cause ((hleft serial cause).mp hcause)
  · exact hnotResent

end

/-! ## 4. The end of a delivery -/

section

variable {storage : SplitchStorage} {row other : ExposureRow} {outcome : ExposureOutcome}
  {now : Int}

/-- What the end of a delivery does not edit, a row keeps. -/
theorem keys_finish {β : Type} {key : ExposureRow → β}
    (hkey : ∀ (stored : ExposureRow) state context attemptCount nextAttemptAt,
      key { stored with state, context, attemptCount, nextAttemptAt } = key stored) :
    ((storage.finishExposure row outcome now).exposureOutbox.map key).Sublist
      (storage.exposureOutbox.map key) := by
  cases outcome with
  | accepted => exact List.filter_sublist.map _
  | terminal =>
    suffices hkeys : _ = storage.exposureOutbox.map key from hkeys ▸ List.Sublist.refl _
    refine (List.map_map ..).trans (List.map_congr_left fun stored _ => ?_)
    dsimp only [Function.comp]
    split
    · exact hkey stored ..
    · rfl
  | retry =>
    suffices hkeys : _ = storage.exposureOutbox.map key from hkeys ▸ List.Sublist.refl _
    refine (List.map_map ..).trans (List.map_congr_left fun stored _ => ?_)
    dsimp only [Function.comp]
    split
    · exact hkey stored ..
    · rfl

/-- Another row is left as it is. -/
theorem mem_map_ite_of_ne {outbox : List ExposureRow} (edit : ExposureRow → ExposureRow)
    (hid : ∀ stored, (edit stored).exposureId = stored.exposureId)
    (hne : other.exposureId ≠ row.exposureId) :
    other ∈ (outbox.map fun stored =>
      if stored.exposureId = row.exposureId then edit stored else stored) ↔ other ∈ outbox := by
  rw [List.mem_map]
  constructor
  · rintro ⟨stored, hstored, heq⟩
    split at heq
    · rename_i hsame
      rw [← heq, hid] at hne
      exact absurd hsame hne
    · exact heq ▸ hstored
  · intro hother
    exact ⟨other, hother, if_neg hne⟩

theorem mem_pending_finish_of_ne (hne : other.exposureId ≠ row.exposureId) :
    other ∈ (storage.finishExposure row outcome now).pendingExposures ↔
      other ∈ storage.pendingExposures := by
  rw [mem_pending, mem_pending]
  refine and_congr_left fun _ => ?_
  cases outcome with
  | accepted => simp [finishExposure, hne]
  | terminal =>
    exact mem_map_ite_of_ne (fun stored => { stored with state := .terminal, context := none })
      (fun _ => rfl) hne
  | retry =>
    exact mem_map_ite_of_ne (fun stored => { stored with
      attemptCount := row.attemptCount + 1
      nextAttemptAt := now + nextExposureAttempt row.exposureId (row.attemptCount + 1) })
      (fun _ => rfl) hne

/-- What is accepted or made terminal is no longer pending. -/
theorem ne_of_pending_finish (houtcome : outcome ≠ .retry)
    (h : other ∈ (storage.finishExposure row outcome now).pendingExposures) :
    other.exposureId ≠ row.exposureId := by
  obtain ⟨hmem, hstate⟩ := mem_pending.mp h
  cases outcome with
  | accepted => exact of_decide_eq_true (List.mem_filter.mp hmem).2
  | retry => exact absurd rfl houtcome
  | terminal =>
    obtain ⟨stored, -, rfl⟩ := List.mem_map.mp hmem
    split at hstate
    · cases hstate
    · rename_i hne
      rw [if_neg hne]
      exact hne

/-- What is to be retried stays pending. -/
theorem pending_finish_retry (h : row ∈ storage.pendingExposures) :
    ∃ later ∈ (storage.finishExposure row .retry now).pendingExposures,
      later.serial = row.serial ∧ later.createdAt = row.createdAt := by
  obtain ⟨hmem, hstate⟩ := mem_pending.mp h
  refine ⟨{ row with
    attemptCount := row.attemptCount + 1
    nextAttemptAt := now + nextExposureAttempt row.exposureId (row.attemptCount + 1) }, ?_, rfl,
    rfl⟩
  refine mem_pending.mpr ⟨List.mem_map.mpr ⟨row, hmem, if_pos rfl⟩, hstate⟩

theorem inserted_finish :
    (storage.finishExposure row outcome now).inserted = storage.inserted := by
  cases outcome <;> rfl

end

section

variable {world after : SplitchWorld} {row : ExposureRow} {rest : List ExposureRow}
  {outcome : ExposureOutcome} {now : Int}

/-- What is pending after a delivery was pending before. -/
theorem OutboxInv.pending_of_finish (h : OutboxInv world (row :: rest)) {serial : Nat}
    (hafter : after.storage = world.storage.finishExposure row outcome now)
    (hpending : after.Pending serial) : world.Pending serial := by
  obtain ⟨other, hother, rfl⟩ := hpending
  rw [hafter] at hother
  by_cases hid : other.exposureId = row.exposureId
  · -- Serial and id of the row are those of a stored one.
    have hpair : (other.serial, other.exposureId) ∈
        world.storage.exposureOutbox.map (fun row => (row.serial, row.exposureId)) :=
      (keys_finish (fun _ _ _ _ _ => rfl)).subset (List.mem_map_of_mem (mem_pending.mp hother).1)
    obtain ⟨stored, hstored, heq⟩ := List.mem_map.mp hpair
    obtain ⟨hserial, hstoredId⟩ := Prod.mk.inj heq
    have hrow := mem_pending.mp (h.owed row List.mem_cons_self)
    have hsame : stored = row := h.eq_of_id hstored hrow.1 (hstoredId.trans hid)
    exact ⟨stored, mem_pending.mpr ⟨hstored, hsame ▸ hrow.2⟩, hserial⟩
  · exact ⟨other, (mem_pending_finish_of_ne hid).mp hother, rfl⟩

/-- **The end of a delivery** takes its row from what is owed: it is recorded as left, or stays
pending. Serials and ids of the other rows are those they had, since the row is written in place, so a
row that is still owed is told apart from this one by its id. -/
theorem OutboxInv.finish (h : OutboxInv world (row :: rest))
    (hstorage : after.storage = world.storage.finishExposure row outcome now)
    (hlog : (outcome ≠ .retry ∧ ∃ cause, after.log = world.log ++ [.left row.serial cause]) ∨
      (outcome = .retry ∧ after.log = world.log)) : OutboxInv after rest := by
  have hrow : row ∈ world.storage.pendingExposures := h.owed row List.mem_cons_self
  have hrowOutbox := (mem_pending.mp hrow).1
  have hinserted : after.storage.inserted = world.storage.inserted :=
    (congrArg (·.inserted) hstorage).trans inserted_finish
  have hserials : (after.storage.exposureOutbox.map (·.serial)).Sublist
      (world.storage.exposureOutbox.map (·.serial)) :=
    hstorage ▸ keys_finish fun _ _ _ _ _ => rfl
  have hids : (after.storage.exposureOutbox.map (·.exposureId)).Sublist
      (world.storage.exposureOutbox.map (·.exposureId)) :=
    hstorage ▸ keys_finish fun _ _ _ _ _ => rfl
  have hothers : ∀ other, other.exposureId ≠ row.exposureId →
      (other ∈ after.storage.pendingExposures ↔ other ∈ world.storage.pendingExposures) :=
    fun other hne => hstorage ▸ mem_pending_finish_of_ne hne
  have hne : ∀ other ∈ world.storage.pendingExposures, other ≠ row →
      other.exposureId ≠ row.exposureId := fun other hother hother_ne hid =>
    hother_ne (h.eq_of_id (mem_pending.mp hother).1 hrowOutbox hid)
  have hold : ∀ serial cause, SplitchEntry.left serial cause ∈ world.log →
      .left serial cause ∈ after.log := by
    intro serial cause hcause
    rcases hlog with ⟨-, _, hlog⟩ | ⟨-, hlog⟩
    · rw [hlog]
      exact List.mem_append_left _ hcause
    · exact hlog ▸ hcause
  constructor
  · intro other hother
    obtain ⟨stored, hstored, heq⟩ := List.mem_map.mp (hserials.subset (List.mem_map_of_mem hother))
    rw [hinserted, ← heq]
    exact h.below stored hstored
  · exact h.serials.sublist hserials
  · exact h.ids.sublist hids
  · intro other hother
    have hpending := h.owed other (List.mem_cons_of_mem _ hother)
    refine (hothers other (hne other hpending fun heq => ?_)).mpr hpending
    exact (List.nodup_cons.mp h.once).1 (heq ▸ hother)
  · exact (List.nodup_cons.mp h.once).2
  · intro serial hserial
    rcases h.recorded serial (hinserted ▸ hserial) with ⟨other, hother, rfl⟩ | ⟨cause, hcause⟩
    · by_cases hsame : other = row
      · rcases hlog with ⟨-, cause, hlog⟩ | ⟨houtcome, -⟩
        · right
          refine ⟨cause, ?_⟩
          rw [hlog, hsame]
          exact List.mem_append_right _ List.mem_cons_self
        · left
          obtain ⟨later, hlater, hserial, -⟩ := pending_finish_retry hrow
          rw [hsame, ← hserial]
          rw [houtcome] at hstorage
          exact ⟨later, hstorage ▸ hlater, rfl⟩
      · exact .inl ⟨other, (hothers other (hne other hother hsame)).mpr hother, rfl⟩
    · exact .inr ⟨cause, hold serial cause hcause⟩
  · intro serial cause hcause
    have hknown : .left serial cause ∈ world.log → serial < after.storage.inserted ∧
        ¬ after.Pending serial := by
      intro hcause
      obtain ⟨hserial, hpending⟩ := h.left serial cause hcause
      exact ⟨hinserted ▸ hserial, fun hafter => hpending (h.pending_of_finish hstorage hafter)⟩
    rcases hlog with ⟨houtcome, cause', hlog⟩ | ⟨-, hlog⟩
    · rw [hlog] at hcause
      rcases List.mem_append.mp hcause with hcause | hcause
      · exact hknown hcause
      · cases List.mem_singleton.mp hcause
        refine ⟨hinserted ▸ h.below row hrowOutbox, ?_⟩
        rintro ⟨other, hother, hserial⟩
        rw [hstorage] at hother
        have hid := ne_of_pending_finish houtcome hother
        have hpending := (mem_pending_finish_of_ne hid).mp hother
        exact hid (congrArg _ (h.eq_of_serial (mem_pending.mp hpending).1 hrowOutbox hserial))
    · exact hknown (hlog ▸ hcause)
  · rcases hlog with ⟨-, cause, hlog⟩ | ⟨-, hlog⟩
    · rw [hlog]
      refine List.pairwise_append.mpr ⟨h.notResent, List.pairwise_singleton _ _, ?_⟩
      rintro earlier - later hlater serial cause' - createdAt sentAt hsent
      cases (List.mem_singleton.mp hlater).symm.trans hsent
    · exact hlog ▸ h.notResent

/-- A row past its deadline is finished without a delivery. -/
theorem OutboxInv.expire (h : OutboxInv world (row :: rest)) :
    OutboxInv ((world.withStorage (·.finishExposure row .terminal now)).note
      (.left row.serial .deadline)) rest := by
  have hstorage : ((world.withStorage (·.finishExposure row .terminal now)).note
      (.left row.serial .deadline)).storage = world.storage.finishExposure row .terminal now := rfl
  exact h.finish hstorage (.inl ⟨nofun, .deadline, rfl⟩)

/-- **The start of a delivery** is recorded, of a row that is pending. -/
theorem OutboxInv.sent (h : OutboxInv world (row :: rest)) {sentAt : Int}
    (hstorage : after.storage = world.storage)
    (hlog : after.log = world.log ++ [.sent row.serial row.createdAt sentAt]) :
    OutboxInv after (row :: rest) := by
  refine h.of_same (by rw [hstorage]) (by rw [hstorage]) (fun serial cause => ?_) ?_
  · rw [hlog]
    refine ⟨fun hmem => ?_, List.mem_append_left _⟩
    rcases List.mem_append.mp hmem with hmem | hmem
    · exact hmem
    · cases List.mem_singleton.mp hmem
  · rw [hlog]
    refine List.pairwise_append.mpr ⟨h.notResent, List.pairwise_singleton _ _, ?_⟩
    rintro earlier hearlier later hlater serial cause rfl createdAt sentAt hsent
    cases (List.mem_singleton.mp hlater).symm.trans hsent
    exact (h.left _ cause hearlier).2 (h.pending_of_rows List.mem_cons_self)

end

/-! ## 5. The alarm -/

section

variable {storage : SplitchStorage} {now : Int}

@[simp] theorem pendingExposures_pruneExpired :
    (storage.pruneExpired now).pendingExposures = storage.pendingExposures := by
  unfold pendingExposures pruneExpired
  rw [List.filter_filter]
  refine List.filter_congr fun row _ => ?_
  cases row.state <;> simp

@[simp] theorem pendingExposures_ensureAlarm :
    (storage.ensureAlarm now).pendingExposures = storage.pendingExposures := by
  unfold ensureAlarm
  split <;> rfl

@[simp] theorem exposureOutbox_ensureAlarm :
    (storage.ensureAlarm now).exposureOutbox = storage.exposureOutbox := by
  unfold ensureAlarm
  split <;> rfl

@[simp] theorem inserted_ensureAlarm : (storage.ensureAlarm now).inserted = storage.inserted := by
  unfold ensureAlarm
  split <;> rfl

theorem dueExposures_subset {row : ExposureRow} (h : row ∈ storage.dueExposures now) :
    row ∈ storage.pendingExposures := by
  have hsorted := List.mem_of_mem_take h
  exact (List.mem_filter.mp ((List.mem_insertionSort _).mp hsorted)).1

theorem dueExposures_nodup (h : (storage.exposureOutbox.map (·.exposureId)).Nodup) :
    (storage.dueExposures now).Nodup := by
  have hpending : storage.pendingExposures.Nodup :=
    (List.Nodup.of_map _ h).sublist List.filter_sublist
  refine List.Nodup.sublist (List.take_sublist _ _) ?_
  exact (List.perm_insertionSort _ _).nodup_iff.mpr (hpending.sublist List.filter_sublist)

end

section

variable {world after : SplitchWorld} {rows : List ExposureRow} {now startedAt : Int}

theorem OutboxInv.pruned (h : OutboxInv world rows)
    (houtbox : after.storage.exposureOutbox = (world.storage.pruneExpired now).exposureOutbox)
    (hinserted : after.storage.inserted = world.storage.inserted) (hlog : after.log = world.log) :
    OutboxInv after rows := by
  have hsublist : after.storage.exposureOutbox.Sublist world.storage.exposureOutbox :=
    houtbox ▸ List.filter_sublist
  have hpending : after.storage.pendingExposures = world.storage.pendingExposures :=
    (congrArg (List.filter _) houtbox).trans (@pendingExposures_pruneExpired _ now)
  have hsame : ∀ serial, after.Pending serial ↔ world.Pending serial := by
    intro serial
    unfold SplitchWorld.Pending
    rw [hpending]
  constructor
  · intro row hrow
    rw [hinserted]
    exact h.below row (hsublist.subset hrow)
  · exact h.serials.sublist (hsublist.map _)
  · exact h.ids.sublist (hsublist.map _)
  · rw [hpending]
    exact h.owed
  · exact h.once
  · intro serial hserial
    rw [hsame, hlog]
    exact h.recorded serial (hinserted ▸ hserial)
  · intro serial cause hcause
    rw [hsame, hinserted]
    exact h.left serial cause (hlog ▸ hcause)
  · exact hlog ▸ h.notResent

theorem OutboxInv.owing (h : OutboxInv world rows) {due : List ExposureRow}
    (hdue : ∀ row ∈ due, row ∈ world.storage.pendingExposures) (honce : due.Nodup) :
    OutboxInv world due :=
  ⟨h.below, h.serials, h.ids, hdue, honce, h.recorded, h.left, h.notResent⟩

/-- **The rows that are still to be delivered**, up to the next one sent. -/
theorem OutboxInv.deliverRest (h : OutboxInv world rows) :
    OutboxInv (SplitchWorld.deliverRest now startedAt rows world)
      (SplitchWorld.deliverRest now startedAt rows world).owed := by
  induction rows generalizing world with
  | nil =>
    exact h.pruned (exposureOutbox_ensureAlarm.trans
      (Eq.refl (world.storage.pruneExpired startedAt).exposureOutbox)) inserted_ensureAlarm rfl
  | cons row rest ih =>
    unfold SplitchWorld.deliverRest
    split
    · exact ih h.expire
    · exact h.sent rfl rfl

theorem armed_deliverRest
    (hended : (SplitchWorld.deliverRest now startedAt rows world).alarmRun = none) :
    Armed (SplitchWorld.deliverRest now startedAt rows world).storage := by
  induction rows generalizing world with
  | nil => exact armed_ensureAlarm
  | cons row rest ih =>
    unfold SplitchWorld.deliverRest at hended ⊢
    split at hended
    · rw [if_pos ‹_›]
      exact ih hended
    · cases hended

/-- What does not stay pending is past its deadline. -/
theorem OutboxInv.leaves_deliverRest (h : OutboxInv world rows) {row : ExposureRow}
    (hrow : row ∈ world.storage.pendingExposures) :
    (SplitchWorld.deliverRest now startedAt rows world).Pending row.serial ∨
      exceededPrivacyDeadline row startedAt := by
  induction rows generalizing world with
  | nil =>
    have hkept : (SplitchWorld.deliverRest now startedAt [] world).storage.pendingExposures =
        world.storage.pendingExposures :=
      pendingExposures_ensureAlarm.trans pendingExposures_pruneExpired
    exact .inl ⟨row, hkept ▸ hrow, rfl⟩
  | cons next rest ih =>
    unfold SplitchWorld.deliverRest
    split
    · rename_i hexceeded
      by_cases hsame : row = next
      · exact .inr (hsame ▸ hexceeded)
      · refine ih h.expire ((mem_pending_finish_of_ne fun hid => hsame ?_).mpr hrow)
        have hnext := h.owed next List.mem_cons_self
        exact h.eq_of_id (mem_pending.mp hrow).1 (mem_pending.mp hnext).1 hid
    · exact .inl ⟨row, hrow, rfl⟩

theorem exceededPrivacyDeadline_eq_false {row : ExposureRow} :
    exceededPrivacyDeadline row now = false ↔ now - row.createdAt < PRIVACY_DEADLINE_MS := by
  unfold exceededPrivacyDeadline
  rw [decide_eq_false_iff_not, not_le]

/-- An entry that is not a send keeps `Timely`; a send keeps it where it is in time. -/
theorem timely_note {entry : SplitchEntry} : (world.note entry).Timely ↔ world.Timely ∧
    ∀ serial createdAt sentAt, entry = .sent serial createdAt sentAt →
      sentAt - createdAt < PRIVACY_DEADLINE_MS := by
  constructor
  · intro h
    refine ⟨fun serial createdAt sentAt hmem => h _ _ _ (List.mem_append_left _ hmem), ?_⟩
    rintro serial createdAt sentAt rfl
    exact h _ _ _ (List.mem_append_right _ List.mem_cons_self)
  · rintro ⟨hworld, hentry⟩ serial createdAt sentAt hmem
    rcases List.mem_append.mp hmem with hmem | hmem
    · exact hworld _ _ _ hmem
    · exact hentry _ _ _ (List.mem_singleton.mp hmem).symm

theorem timely_deliverRest : (SplitchWorld.deliverRest now startedAt rows world).Timely ↔
    world.Timely ∧ ∀ row, (rows.find? fun row => ! exceededPrivacyDeadline row startedAt) =
      some row → exceededPrivacyDeadline row now = false := by
  induction rows generalizing world with
  | nil => exact ⟨fun h => ⟨h, nofun⟩, fun h => h.1⟩
  | cons next rest ih =>
    unfold SplitchWorld.deliverRest
    split
    · rename_i hexceeded
      rw [ih, timely_note, List.find?_cons_of_neg (by simpa using hexceeded)]
      refine and_congr_left fun _ => ⟨fun h => h.1, fun h => ⟨h, ?_⟩⟩
      rintro serial createdAt sentAt ⟨⟩
    · rename_i hwithin
      rw [timely_note, List.find?_cons_of_pos (by simpa using hwithin)]
      refine and_congr_right fun _ => ?_
      constructor
      · rintro h row ⟨⟩
        exact exceededPrivacyDeadline_eq_false.mpr (h _ _ _ rfl)
      · rintro h serial createdAt sentAt ⟨⟩
        exact exceededPrivacyDeadline_eq_false.mp (h next rfl)

end

/-! ## 6. Calls -/

/-- An entry of an evaluation. -/
def SplitchEntry.OfCall : SplitchEntry → Prop
  | .committed .. | .answered .. => True
  | .sent .. | .left .. => False

/-- One more row, pending under the next serial. -/
def Enqueued (storage after : SplitchStorage) : Prop :=
  ∃ row : ExposureRow, row.state = .pending ∧ row.serial = storage.inserted ∧
    (∀ other ∈ storage.exposureOutbox, other.exposureId ≠ row.exposureId) ∧
    after.exposureOutbox = storage.exposureOutbox ++ [row] ∧
    after.inserted = storage.inserted + 1

/-- What a turn of a call may do to outbox and alarm. -/
structure CallMove (world after : SplitchWorld) : Prop where
  rows : (after.storage.exposureOutbox = world.storage.exposureOutbox ∧
    after.storage.inserted = world.storage.inserted) ∨ Enqueued world.storage after.storage
  alarmRun : after.alarmRun = world.alarmRun
  log : ∃ entries, after.log = world.log ++ entries ∧ ∀ entry ∈ entries, entry.OfCall
  rearms : (after.storage.dueTimes = world.storage.dueTimes ∧
    after.storage.alarm = world.storage.alarm) ∨ Armed after.storage

section

variable {env : SplitchEnv} {world after : SplitchWorld}

theorem log_of_eq (h : after.log = world.log) :
    ∃ entries, after.log = world.log ++ entries ∧ ∀ entry ∈ entries, entry.OfCall :=
  ⟨[], h.trans (List.append_nil _).symm, fun _ hentry => absurd hentry List.not_mem_nil⟩

theorem callMove_of_storage (hstorage : after.storage = world.storage)
    (hrun : after.alarmRun = world.alarmRun) (hlog : after.log = world.log) :
    CallMove world after :=
  ⟨.inl ⟨by rw [hstorage], by rw [hstorage]⟩, hrun, log_of_eq hlog,
    .inl ⟨by rw [hstorage], by rw [hstorage]⟩⟩

theorem rows_applyTransaction (env : SplitchEnv) (snapshot : ConfigSnapshot)
    (payload deliveryId identityKey : String) (now : Int) (storage : SplitchStorage) :
    let after := (applyTransaction env snapshot payload deliveryId identityKey now storage).2
    after.exposureOutbox = storage.exposureOutbox ∧ after.inserted = storage.inserted := by
  have hrecord : ∀ storage : SplitchStorage, ∀ version,
      (storage.recordPushClaim deliveryId version now).exposureOutbox = storage.exposureOutbox ∧
        (storage.recordPushClaim deliveryId version now).inserted = storage.inserted := by
    intro storage version
    unfold recordPushClaim
    split <;> exact ⟨rfl, rfl⟩
  intro after
  unfold after applyTransaction
  split
  · exact hrecord _ _
  · split
    · exact ⟨rfl, rfl⟩
    · split
      · exact hrecord _ _
      · exact hrecord _ _

theorem applySnapshot_call (payload deliveryId identityKey : String) (now : Int) :
    CallMove world (world.applySnapshot env payload deliveryId identityKey now).2 := by
  unfold applySnapshot
  split
  · exact callMove_of_storage rfl rfl rfl
  · rename_i snapshot _
    obtain ⟨houtbox, hinserted⟩ :=
      rows_applyTransaction env snapshot payload deliveryId identityKey now world.storage
    refine ⟨.inl ⟨?_, ?_⟩, rfl, log_of_eq rfl, .inr armed_ensureAlarm⟩
    · exact exposureOutbox_ensureAlarm.trans houtbox
    · exact inserted_ensureAlarm.trans hinserted

theorem announceSnapshot_call (appId environmentId : String) (environmentVersion : Nat) :
    CallMove world (world.announceSnapshot appId environmentId environmentVersion).2 := by
  unfold announceSnapshot
  split
  · exact callMove_of_storage rfl rfl rfl
  · split
    · exact callMove_of_storage rfl rfl rfl
    · exact ⟨.inl ⟨rfl, rfl⟩, rfl, log_of_eq rfl, .inl ⟨rfl, rfl⟩⟩

theorem evaluateDetails_call (id : Nat) (flagKey : String)
    (context : CloudflareEvaluationContext) :
    CallMove world (world.evaluateDetails env id flagKey context).2 := by
  unfold evaluateDetails
  split
  · exact callMove_of_storage rfl rfl rfl
  · split
    · exact callMove_of_storage rfl rfl rfl
    · split
      · exact callMove_of_storage rfl rfl rfl
      · exact callMove_of_storage rfl rfl rfl
      · exact callMove_of_storage rfl rfl rfl

/-- What is written with an Exposure is one more row, pending under the next serial. -/
theorem rows_writeExposure {call : EvaluationCall} {input : CommitInput} {now : Int}
    {storage written : SplitchStorage}
    (h : writeExposure env call input now storage = .ok written) :
    (written.exposureOutbox = storage.exposureOutbox ∧ written.inserted = storage.inserted) ∨
      Enqueued storage written := by
  unfold writeExposure at h
  split at h
  · cases h
    exact .inl ⟨rfl, rfl⟩
  · rename_i exposure _
    split at h
    · cases h
    · rename_i run _
      split at h
      · cases h
      · rename_i hunique
        cases h
        let kept := keepAssignment storage exposure.experimentId call.request.context.idType
          input.targetingKeyHash { runId := exposure.liveRunId, variant := exposure.variant }
        have hkept : kept.exposureOutbox = storage.exposureOutbox ∧
            kept.inserted = storage.inserted := by
          unfold kept keepAssignment
          split <;> exact ⟨rfl, rfl⟩
        refine .inr ⟨exposureRowOf env call input exposure run kept.inserted now, rfl, hkept.2,
          fun other hother heq => hunique ⟨other, hother, heq⟩, ?_, ?_⟩
        · exact congrArg (· ++ _) hkept.1
        · exact congrArg (· + 1) hkept.2

theorem resume_call (id : Nat) (now : Int) :
    CallMove world (world.resume env id now).2 := by
  -- A call that is replayed answers, and arms the alarm.
  have hreplayed : ∀ request replayed, CallMove world
      (((world.setCall id none).note (.answered request replayed)).withStorage
        (·.ensureAlarm now)) := by
    intro request replayed
    refine ⟨.inl ⟨exposureOutbox_ensureAlarm, inserted_ensureAlarm⟩, rfl,
      ⟨[.answered request replayed], rfl, ?_⟩, .inr armed_ensureAlarm⟩
    intro entry hentry
    rw [List.mem_singleton.mp hentry]
    trivial
  unfold resume
  split
  · exact callMove_of_storage rfl rfl rfl
  · rename_i call hcall
    split
    · unfold fingerprinted
      dsimp only
      split
      · split
        · exact callMove_of_storage rfl rfl rfl
        · exact hreplayed _ _
      · split
        · exact callMove_of_storage rfl rfl rfl
        · exact callMove_of_storage rfl rfl rfl
    · exact callMove_of_storage rfl rfl rfl
    · rename_i input _
      unfold commitEvaluation
      dsimp only
      split
      · split
        · exact callMove_of_storage rfl rfl rfl
        · exact hreplayed _ _
      · split
        · exact callMove_of_storage rfl rfl rfl
        · rename_i written hwritten
          refine ⟨?_, rfl, ⟨[.committed call input.details,
            .answered call.request input.details], ?_, ?_⟩, .inr armed_ensureAlarm⟩
          · rcases rows_writeExposure hwritten with ⟨houtbox, hinserted⟩ |
              ⟨row, hstate, hserial, hunique, houtbox, hinserted⟩
            · exact .inl ⟨exposureOutbox_ensureAlarm.trans houtbox,
                inserted_ensureAlarm.trans hinserted⟩
            · exact .inr ⟨row, hstate, hserial, hunique, exposureOutbox_ensureAlarm.trans houtbox,
                inserted_ensureAlarm.trans hinserted⟩
          · simp [note, setCall]
          · intro entry hentry
            rcases List.mem_pair.mp hentry with rfl | rfl <;> trivial

/-- **Every turn of a call** leaves the rows or adds one, and leaves the alarm right. -/
theorem stepRpc_call (event : RpcEvent) :
    CallMove world ((splitchState env).next world (.rpc event)) := by
  cases event with
  | applySnapshot payload deliveryId identityKey now => exact applySnapshot_call ..
  | announceSnapshot appId environmentId version => exact announceSnapshot_call ..
  | resume id now => exact resume_call id now
  | evaluateDetails id flagKey context =>
    change CallMove world (if (world.calls id).isSome then (none, world)
      else world.evaluateDetails env id flagKey context).2
    split
    · exact callMove_of_storage rfl rfl rfl
    · exact evaluateDetails_call id flagKey context

variable {rows : List ExposureRow}

theorem pairwise_append_ofCall {log entries : List SplitchEntry}
    (hlog : log.Pairwise fun earlier later => ∀ serial cause,
      earlier = .left serial cause → ∀ createdAt sentAt, later ≠ .sent serial createdAt sentAt)
    (hentries : ∀ entry ∈ entries, entry.OfCall) :
    (log ++ entries).Pairwise fun earlier later => ∀ serial cause,
      earlier = .left serial cause → ∀ createdAt sentAt, later ≠ .sent serial createdAt sentAt := by
  have hnot : ∀ entry ∈ entries, ∀ serial createdAt sentAt,
      entry ≠ .sent serial createdAt sentAt := by
    rintro entry hentry serial createdAt sentAt rfl
    exact hentries _ hentry
  refine List.pairwise_append.mpr ⟨hlog, ?_, ?_⟩
  · refine List.pairwise_of_forall_mem_list fun earlier _ later hlater => ?_
    exact fun serial _ _ createdAt sentAt => hnot later hlater serial createdAt sentAt
  · intro earlier _ later hlater serial _ _ createdAt sentAt
    exact hnot later hlater serial createdAt sentAt

/-- **A turn of a call keeps what is said of the rows.** It may only add a row, and the row takes the
next serial: so it is pending, none of the rows that are owed, and nothing has been recorded of it. -/
theorem OutboxInv.call (h : OutboxInv world rows) (hmove : CallMove world after) :
    OutboxInv after rows := by
  obtain ⟨entries, hlog, hentries⟩ := hmove.log
  have hleft : ∀ serial cause, SplitchEntry.left serial cause ∈ after.log ↔
      .left serial cause ∈ world.log := by
    intro serial cause
    rw [hlog]
    refine ⟨fun hmem => ?_, List.mem_append_left _⟩
    rcases List.mem_append.mp hmem with hmem | hmem
    · exact hmem
    · exact absurd (hentries _ hmem) id
  have hnotResent := pairwise_append_ofCall h.notResent hentries
  rw [← hlog] at hnotResent
  rcases hmove.rows with ⟨houtbox, hinserted⟩ |
    ⟨row, hstate, hserial, hunique, houtbox, hinserted⟩
  · exact h.of_same houtbox hinserted hleft hnotResent
  · have hpending : after.storage.pendingExposures = world.storage.pendingExposures ++ [row] := by
      unfold pendingExposures
      rw [houtbox, List.filter_append]
      simp [hstate]
    have hcases : ∀ serial, after.Pending serial ↔
        world.Pending serial ∨ serial = world.storage.inserted := by
      intro serial
      unfold SplitchWorld.Pending
      rw [hpending]
      constructor
      · rintro ⟨other, hother, rfl⟩
        rcases List.mem_append.mp hother with hold | hnew
        · exact .inl ⟨other, hold, rfl⟩
        · exact .inr (List.mem_singleton.mp hnew ▸ hserial)
      · rintro (⟨other, hother, rfl⟩ | rfl)
        · exact ⟨other, List.mem_append_left _ hother, rfl⟩
        · exact ⟨row, List.mem_append_right _ List.mem_cons_self, hserial⟩
    constructor
    · intro other hother
      rw [hinserted]
      rw [houtbox] at hother
      rcases List.mem_append.mp hother with hold | hnew
      · exact Nat.lt_succ_of_lt (h.below other hold)
      · rw [List.mem_singleton.mp hnew, hserial]
        exact Nat.lt_succ_self _
    · rw [houtbox, List.map_append]
      refine List.nodup_append.mpr ⟨h.serials, List.nodup_singleton _, ?_⟩
      rintro serial hold other hother rfl
      obtain ⟨stored, hstored, rfl⟩ := List.mem_map.mp hold
      have hbelow := h.below stored hstored
      rw [(List.mem_singleton.mp hother).trans hserial] at hbelow
      exact lt_irrefl _ hbelow
    · rw [houtbox, List.map_append]
      refine List.nodup_append.mpr ⟨h.ids, List.nodup_singleton _, ?_⟩
      rintro id hold other hother rfl
      obtain ⟨stored, hstored, rfl⟩ := List.mem_map.mp hold
      exact hunique stored hstored (List.mem_singleton.mp hother)
    · intro other hother
      rw [hpending]
      exact List.mem_append_left _ (h.owed other hother)
    · exact h.once
    · intro serial hbelow
      rw [hcases]
      rw [hinserted] at hbelow
      rcases Nat.lt_succ_iff_lt_or_eq.mp hbelow with hold | heq
      · rcases h.recorded serial hold with hpending | ⟨cause, hcause⟩
        · exact .inl (.inl hpending)
        · exact .inr ⟨cause, (hleft serial cause).mpr hcause⟩
      · exact .inl (.inr heq)
    · intro serial cause hcause
      obtain ⟨hbelow, hnot⟩ := h.left serial cause ((hleft serial cause).mp hcause)
      rw [hcases, hinserted]
      refine ⟨Nat.lt_succ_of_lt hbelow, ?_⟩
      rintro (hpending | rfl)
      · exact hnot hpending
      · exact lt_irrefl _ hbelow
    · exact hnotResent

theorem CallMove.timely_iff (hmove : CallMove world after) : after.Timely ↔ world.Timely := by
  obtain ⟨entries, hlog, hentries⟩ := hmove.log
  unfold Timely
  rw [hlog]
  refine ⟨fun h serial createdAt sentAt hmem => h _ _ _ (List.mem_append_left _ hmem),
    fun h serial createdAt sentAt hmem => ?_⟩
  rcases List.mem_append.mp hmem with hmem | hmem
  · exact h _ _ _ hmem
  · exact absurd (hentries _ hmem) id

theorem CallMove.pending (hmove : CallMove world after) {row : ExposureRow}
    (hrow : row ∈ world.storage.pendingExposures) : after.Pending row.serial := by
  refine ⟨row, ?_, rfl⟩
  obtain ⟨hmem, hstate⟩ := mem_pending.mp hrow
  rcases hmove.rows with ⟨houtbox, -⟩ | ⟨_, -, -, -, houtbox, -⟩
  · exact mem_pending.mpr ⟨houtbox ▸ hmem, hstate⟩
  · exact mem_pending.mpr ⟨houtbox ▸ List.mem_append_left _ hmem, hstate⟩

end

/-! ## 7. Turns -/

section

variable {env : SplitchEnv} {world : SplitchWorld}

/-- The world in which an alarm starts its deliveries. -/
def fired (world : SplitchWorld) (now : Int) : SplitchWorld :=
  { world with
    storage := ({ world.storage with alarm := none } : SplitchStorage).pruneExpired now }

theorem pendingExposures_fired (now : Int) :
    (fired world now).storage.pendingExposures = world.storage.pendingExposures := by
  unfold fired
  exact pendingExposures_pruneExpired

/-- What comes back of a delivery finishes its row, and is recorded where it takes it away. -/
def answered (world : SplitchWorld) (run : AlarmRun) (response : ExposureResponse) : SplitchWorld :=
  let outcome := deliverExposure response
  let finished := world.withStorage (·.finishExposure run.sending outcome run.startedAt)
  match leaveOf outcome with
  | none => finished
  | some cause => finished.note (.left run.sending.serial cause)

theorem alarm_eq {now : Int} (hidle : world.alarmRun = none) :
    world.alarm now =
      deliverRest now now ((fired world now).storage.dueExposures now) (fired world now) := by
  unfold SplitchWorld.alarm
  rw [if_neg (by rw [hidle]; exact Bool.false_ne_true)]
  rfl

theorem alarm_eq_self {now : Int} {run : AlarmRun} (hrun : world.alarmRun = some run) :
    world.alarm now = world := by
  unfold SplitchWorld.alarm
  rw [hrun]
  rfl

theorem delivered_eq {response : ExposureResponse} {now : Int} {run : AlarmRun}
    (hrun : world.alarmRun = some run) :
    world.delivered response now =
      deliverRest now run.startedAt run.rest (answered world run response) := by
  unfold SplitchWorld.delivered
  rw [hrun]
  rfl

theorem delivered_eq_self {response : ExposureResponse} {now : Int}
    (hidle : world.alarmRun = none) : world.delivered response now = world := by
  unfold SplitchWorld.delivered
  rw [hidle]

theorem owed_eq {run : AlarmRun} (hrun : world.alarmRun = some run) :
    world.owed = run.sending :: run.rest := by
  unfold SplitchWorld.owed
  rw [hrun]

theorem OutboxInv.fired {rows : List ExposureRow} (h : OutboxInv world rows) (now : Int) :
    OutboxInv (fired world now) ((fired world now).storage.dueExposures now) := by
  have hpruned : OutboxInv (Cloudflare.fired world now) rows := h.pruned rfl rfl rfl
  exact hpruned.owing (fun _ => dueExposures_subset) (dueExposures_nodup hpruned.ids)

theorem storage_answered {run : AlarmRun} {response : ExposureResponse} :
    (answered world run response).storage = world.storage.finishExposure run.sending
      (deliverExposure response) run.startedAt := by
  unfold answered
  cases deliverExposure response <;> rfl

theorem OutboxInv.answered (h : OutboxInv world world.owed) {run : AlarmRun}
    (hrun : world.alarmRun = some run) (response : ExposureResponse) :
    OutboxInv (answered world run response) run.rest := by
  rw [owed_eq hrun] at h
  refine h.finish storage_answered ?_
  unfold Cloudflare.answered
  cases deliverExposure response with
  | accepted => exact .inl ⟨by decide, .accepted, rfl⟩
  | terminal => exact .inl ⟨by decide, .rejected, rfl⟩
  | retry => exact .inr ⟨rfl, rfl⟩

/-- What every reachable world keeps. -/
structure OutboxKept (world : SplitchWorld) : Prop where
  rows : OutboxInv world world.owed
  armed : world.alarmRun = none → Armed world.storage

theorem OutboxKept.next (h : OutboxKept world) (event : SplitchEvent) :
    OutboxKept ((splitchState env).next world event) := by
  cases event with
  | rpc event =>
    have hmove : CallMove world ((splitchState env).next world (.rpc event)) := stepRpc_call event
    generalize (splitchState env).next world (.rpc event) = after at hmove ⊢
    have howed : after.owed = world.owed := by
      unfold SplitchWorld.owed
      rw [hmove.alarmRun]
    refine ⟨howed ▸ h.rows.call hmove, fun hidle => ?_⟩
    rw [hmove.alarmRun] at hidle
    rcases hmove.rearms with ⟨hdue, halarm⟩ | harmed
    · intro due hmem
      rw [halarm]
      exact h.armed hidle due (hdue ▸ hmem)
    · exact harmed
  | alarm now =>
    change OutboxKept (world.alarm now)
    cases hrun : world.alarmRun with
    | some run =>
      rw [alarm_eq_self hrun]
      exact h
    | none =>
      rw [alarm_eq hrun]
      exact ⟨(h.rows.fired now).deliverRest, armed_deliverRest⟩
  | delivered response now =>
    change OutboxKept (world.delivered response now)
    cases hrun : world.alarmRun with
    | none =>
      rw [delivered_eq_self hrun]
      exact h
    | some run =>
      rw [delivered_eq hrun]
      exact ⟨(h.rows.answered hrun response).deliverRest, armed_deliverRest⟩

theorem outboxKept_empty : OutboxKept SplitchWorld.empty := by
  refine ⟨⟨fun row hrow => ?_, List.nodup_nil, List.nodup_nil, fun row hrow => ?_, List.nodup_nil,
    fun serial hserial => ?_, fun serial cause hcause => ?_, List.Pairwise.nil⟩,
    fun _ due hdue => ?_⟩
  · cases hrow
  · cases hrow
  · exact absurd hserial (Nat.not_lt_zero _)
  · cases hcause
  · cases hdue

theorem timely_answered {run : AlarmRun} {response : ExposureResponse} :
    (answered world run response).Timely ↔ world.Timely := by
  unfold answered
  dsimp only
  split
  · exact Iff.rfl
  · rw [timely_note]
    refine ⟨fun h => h.1, fun h => ⟨h, ?_⟩⟩
    rintro serial createdAt sentAt ⟨⟩

/-- **A turn keeps deliveries timely just when the one it answers is answered in time.** An alarm
picks its rows by its own clock reading, so the first delivery starts in time whatever it finds; the
next one starts when the one before is answered, and by then the deadline of its row may have passed. -/
theorem timely_next_iff (htimely : world.Timely) (event : SplitchEvent) :
    AnsweredInTime world event ↔ ((splitchState env).next world event).Timely := by
  cases event with
  | rpc event =>
    have hmove : CallMove world ((splitchState env).next world (.rpc event)) := stepRpc_call event
    refine ⟨fun _ => hmove.timely_iff.mpr htimely, ?_⟩
    rintro - response now run row ⟨⟩
  | alarm now =>
    change _ ↔ (world.alarm now).Timely
    have hafter : (world.alarm now).Timely := by
      cases hrun : world.alarmRun with
      | some run =>
        rw [alarm_eq_self hrun]
        exact htimely
      | none =>
        rw [alarm_eq hrun, timely_deliverRest]
        refine ⟨htimely, fun row hrow => ?_⟩
        simpa using List.find?_some hrow
    refine ⟨fun _ => hafter, ?_⟩
    rintro - response now run row ⟨⟩
  | delivered response now =>
    change _ ↔ (world.delivered response now).Timely
    cases hrun : world.alarmRun with
    | none =>
      rw [delivered_eq_self hrun]
      refine ⟨fun _ => htimely, fun _ response now run row _ hsome => ?_⟩
      cases hrun.symm.trans hsome
    | some run =>
      rw [delivered_eq hrun, timely_deliverRest, timely_answered]
      constructor
      · intro hguard
        exact ⟨htimely, fun row hrow => hguard response now run row rfl hrun hrow⟩
      · rintro ⟨-, hnext⟩ response' now' run' row hevent hsome hrow
        cases hevent
        cases hrun.symm.trans hsome
        exact hnext row hrow

theorem leavesBy (h : OutboxKept world) (event : SplitchEvent) : LeavesBy env world event := by
  intro row hrow
  cases event with
  | rpc event =>
    have hmove : CallMove world ((splitchState env).next world (.rpc event)) := stepRpc_call event
    exact .inl (hmove.pending hrow)
  | alarm now =>
    change (world.alarm now).Pending row.serial ∨ _
    cases hrun : world.alarmRun with
    | some run =>
      rw [alarm_eq_self hrun]
      exact .inl ⟨row, hrow, rfl⟩
    | none =>
      rw [alarm_eq hrun]
      have hkept : row ∈ (fired world now).storage.pendingExposures := by
        rw [pendingExposures_fired]
        exact hrow
      rcases (h.rows.fired now).leaves_deliverRest hkept with hpending | hexceeded
      · exact .inl hpending
      · exact .inr (.inr (.inl ⟨now, rfl, hexceeded⟩))
  | delivered response now =>
    change (world.delivered response now).Pending row.serial ∨ _
    cases hrun : world.alarmRun with
    | none =>
      rw [delivered_eq_self hrun]
      exact .inl ⟨row, hrow, rfl⟩
    | some run =>
      rw [delivered_eq hrun]
      have hanswered := h.rows.answered hrun response
      have hsending : run.sending ∈ world.storage.pendingExposures :=
        h.rows.owed _ (owed_eq hrun ▸ List.mem_cons_self)
      by_cases hsame : row = run.sending
      · by_cases hretry : deliverExposure response = .retry
        · -- The row under way is to be retried, and keeps serial and creation.
          obtain ⟨later, hlater, hserial, hcreated⟩ :=
            pending_finish_retry hsending
          have hkept : later ∈ (answered world run response).storage.pendingExposures := by
            rw [storage_answered, hretry]
            exact hlater
          rw [hsame, ← hserial]
          rcases hanswered.leaves_deliverRest hkept with hpending | hexceeded
          · exact .inl hpending
          · refine .inr (.inr (.inr ⟨response, now, run, rfl, rfl, ?_⟩))
            unfold exceededPrivacyDeadline at hexceeded ⊢
            rw [← hcreated]
            exact hexceeded
        · refine .inr (.inl ⟨response, now, run, rfl, rfl, hsame.symm, ?_⟩)
          cases houtcome : deliverExposure response with
          | accepted => exact .inl rfl
          | terminal => exact .inr rfl
          | retry => exact absurd houtcome hretry
      · have hkept : row ∈ (answered world run response).storage.pendingExposures := by
          rw [storage_answered]
          refine (mem_pending_finish_of_ne fun hid => hsame ?_).mpr hrow
          exact h.rows.eq_of_id (mem_pending.mp hrow).1 (mem_pending.mp hsending).1 hid
        rcases hanswered.leaves_deliverRest hkept with hpending | hexceeded
        · exact .inl hpending
        · exact .inr (.inr (.inr ⟨response, now, run, rfl, rfl, hexceeded⟩))

theorem OutboxKept.drains (h : OutboxKept world) (htimely : world.Timely) : Drains env world where
  armed := h.armed
  rearms event := (stepRpc_call event).rearms
  leavesBy event := leavesBy h event
  recorded := h.rows.recorded
  left serial cause hcause := (h.rows.left serial cause hcause).2
  notResent := h.rows.notResent
  timely := htimely

end

/-! ## 8. Runs -/

/-- **The outbox drains, and honours the deadline just as long as deliveries are answered in time.**
What is said of the rows and of the alarm holds in every run, by `OutboxKept.next`. Only the deadline
needs the answers, and each turn decides about it by itself, which makes the condition of the run
exact. -/
theorem exposure_outbox_drains_iff (env : SplitchEnv) (events : List SplitchEvent) :
    (∀ before, before <+: events → Drains env ((splitchState env).run before)) ↔
      (splitchState env).Guarded AnsweredInTime SplitchWorld.empty events := by
  have hkept : ∀ before, OutboxKept ((splitchState env).run before) := fun before =>
    (splitchState env).exec_invariant (fun _ event h => h.next event) outboxKept_empty before
  have hempty : SplitchWorld.empty.Timely := fun _ _ _ hmem => by cases hmem
  rw [Machine.guarded_iff_forall_prefix (splitchState env) (I := OutboxKept) (P := Timely)
    (fun _ event h => h.next event) (fun _ event _ htimely => timely_next_iff htimely event)
    outboxKept_empty hempty]
  constructor
  · intro h before hbefore
    exact (h before hbefore).timely
  · intro h before hbefore
    exact (hkept before).drains (h before hbefore)

/-! ## 9. A delivery that starts too late -/

/-- Two rows, five seconds apart, are due when the alarm starts, a day later; the first delivery
times out after eight seconds. -/
def overdueRun : List SplitchEvent :=
  let evaluation (id : Nat) (targetingKey idempotencyKey : String) (now : Int) :
      List SplitchEvent :=
    [.rpc (.evaluateDetails id "checkout" { targetingKey, idempotencyKey }),
      .rpc (.resume id now), .rpc (.resume id now), .rpc (.resume id now)]
  [.rpc (.applySnapshot (restartedPayload 1 "control") "delivery_1"
      "c3BsaXRjaC1pZGVudGl0eS1rZXktZm9yLXRoZS1ydW4" 0)] ++
    evaluation 0 "user_1" "request_1" 1000 ++ evaluation 1 "user_2" "request_2" 6000 ++
    [.alarm 86400500, .delivered .failed 86408500]

/-- **A row is sent after its deadline**: the second row is 86402.5 s old when its delivery
starts. -/
theorem sent_after_deadline :
    let world := (splitchState restartedEnv).run overdueRun
    ¬ world.Timely ∧
      world.log.filterMap sendOf = [(1000, 86400500), (6000, 86408500)] := by
  decide +kernel

end Cloudflare

end Splitch
