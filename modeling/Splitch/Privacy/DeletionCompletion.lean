/-
# A privacy delete job is completed when every store is done

A deletion job goes over many stores, each of which is called with the cutoff and the identity of the job,
and records which of them are done.  Workers take the job by a claim with a token and a lease; one that is
slow may lose it to another and go on all the same, with a copy of the progress that is out of date.

Only the worker that holds the token writes the rows, as every write asks for it.  And the copy of that
worker is what the job has recorded (`StageOk`): it has read the progress with its claim, and every change
since then is its own.  So no write takes back a store that is done (`RowsOk.update`), and what is recorded as
done has succeeded, with the cutoff and the identity of the job.  A worker without the token may call stores,
but records nothing (`LostToken.turn`).

One turn of a worker is a call of a store or a write of the rows, and the others see only the rows
(`JobInv.turn`).  Within a worker the order of the stores is fixed, the suppressions before the deletions
(`suppresses_before`), and a deletion is called only when every suppression has succeeded.

From the invariant of the rows, the calls and the copies, the five promises of a job hold over every run of
its workers (`entity_delete_job`).
-/
import Splitch.Privacy.EntityDeleteJob

namespace Splitch

namespace Privacy

open PrivacyRows PrivacyWorld

/-! ## 1. The rows -/

/-- The cutoff and the identity of the job. -/
def jobTarget (request : PrivacyRequestRow) (job : PrivacyJobRow) : Option DeletionTarget :=
  (entityInput request job).bind fun entity =>
    (present job.deleteBeforeTs).map fun deleteBeforeTs =>
    { entity, deleteBeforeTs, identityVersion := job.identityVersion }

/-- The writes of the workers leave whose job it is. -/
structure SameIdentity (rows after : PrivacyRows) : Prop where
  orgId : after.request.orgId = rows.request.orgId
  appId : after.request.appId = rows.request.appId
  subjectRef : after.request.subjectRef = rows.request.subjectRef
  requestedBy : after.request.requestedBy = rows.request.requestedBy
  deleteBeforeTs : after.job.deleteBeforeTs = rows.job.deleteBeforeTs
  identityVersion : after.job.identityVersion = rows.job.identityVersion
  idType : after.job.idType = rows.job.idType
  entityFamilyHash : after.job.entityFamilyHash = rows.job.entityFamilyHash

section

variable {rows after last : PrivacyRows} {number : Nat} {log : List StoreCall}

theorem SameIdentity.refl (rows : PrivacyRows) : SameIdentity rows rows :=
  ⟨rfl, rfl, rfl, rfl, rfl, rfl, rfl, rfl⟩

theorem SameIdentity.trans (h : SameIdentity rows after) (h' : SameIdentity after last) :
    SameIdentity rows last where
  orgId := h'.orgId.trans h.orgId
  appId := h'.appId.trans h.appId
  subjectRef := h'.subjectRef.trans h.subjectRef
  requestedBy := h'.requestedBy.trans h.requestedBy
  deleteBeforeTs := h'.deleteBeforeTs.trans h.deleteBeforeTs
  identityVersion := h'.identityVersion.trans h.identityVersion
  idType := h'.idType.trans h.idType
  entityFamilyHash := h'.entityFamilyHash.trans h.entityFamilyHash

/-- The target is read of the request and of the job at any time. -/
theorem SameIdentity.jobTarget (h : SameIdentity rows after) (h' : SameIdentity rows last) :
    jobTarget after.request last.job = jobTarget rows.request rows.job := by
  unfold Privacy.jobTarget entityInput
  rw [h.orgId, h.appId, h.subjectRef, h.requestedBy, h'.deleteBeforeTs, h'.identityVersion,
    h'.idType, h'.entityFamilyHash]

theorem renewPrivacyJobLease_eq_some {leaseExpiresAt updatedAt : Int}
    (h : rows.renewPrivacyJobLease number leaseExpiresAt updatedAt = some after) :
    (rows.job.status = .running ∧ rows.job.claimToken = some number) ∧ after =
      { rows with job := { rows.job with leaseExpiresAt := some leaseExpiresAt, updatedAt } } := by
  unfold renewPrivacyJobLease at h
  split at h
  · rename_i hguard
    exact ⟨hguard, (Option.some.inj h).symm⟩
  · cases h

theorem updatePrivacyJob_eq_some {status : PrivacyJobStatus} {states : EntityDeleteStoreStatus}
    {updatedAt : Int} {errorCode : Option String}
    (h : rows.updatePrivacyJob status states updatedAt errorCode number = some after) :
    rows.job.claimToken = some number ∧ SameIdentity rows after ∧ after.job.status = status ∧
      after.job.storeStatusJson = states ∧
      after.job.claimToken = (if status = .running then some number else none) ∧
      (after.request.status = .completed ↔ status = .completed) := by
  unfold updatePrivacyJob at h
  split at h
  · rename_i hguard
    cases h
    refine ⟨hguard.2, ⟨rfl, rfl, rfl, rfl, rfl, rfl, rfl, rfl⟩, rfl, rfl, ?_, ?_⟩
    · rw [← hguard.2]
    · cases status <;> simp
  · cases h

/-! ## 2. What holds of the rows -/

/-- The store has succeeded for this target. -/
def Succeeded (log : List StoreCall) (target : Option DeletionTarget) (store : DeleteStore) :
    Prop :=
  ∃ called, target = some called ∧ .succeeded store called ∈ log

/-- What holds of the rows of a job, with the calls of the stores so far. -/
structure RowsOk (target : Option DeletionTarget) (log : List StoreCall) (rows : PrivacyRows) :
    Prop where
  status : rows.request.status = .completed ↔ rows.job.status = .completed
  running : rows.job.claimToken ≠ none → rows.job.status = .running
  recorded : ∀ store, rows.job.storeStatusJson store = .done → Succeeded log target store
  completed : rows.job.status = .completed → ∀ store, rows.job.storeStatusJson store = .done

/-- What one worker's turn may do to the rows. -/
structure RowsMove (number : Nat) (rows after : PrivacyRows) : Prop where
  identity : SameIdentity rows after
  token : after = rows ∨ after.job.claimToken = some number ∨ after.job.claimToken = none
  kept : ∀ store, rows.job.storeStatusJson store = .done → after.job.storeStatusJson store = .done

theorem RowsMove.refl (number : Nat) (rows : PrivacyRows) : RowsMove number rows rows :=
  ⟨.refl rows, .inl rfl, fun _ => id⟩

variable {target : Option DeletionTarget}

theorem RowsOk.mono (h : RowsOk target log rows) {longer : List StoreCall} (hlog : log ⊆ longer) :
    RowsOk target longer rows := by
  refine ⟨h.status, h.running, fun store hdone => ?_, h.completed⟩
  obtain ⟨called, htarget, hsucceeded⟩ := h.recorded store hdone
  exact ⟨called, htarget, hlog hsucceeded⟩

theorem RowsOk.claim (h : RowsOk target log rows) {now leaseExpiresAt : Int}
    (hclaimed : rows.claimPrivacyJob now leaseExpiresAt number = some after) :
    RowsOk target log after ∧ RowsMove number rows after ∧
      after.job.storeStatusJson = rows.job.storeStatusJson := by
  unfold claimPrivacyJob at hclaimed
  split at hclaimed
  · rename_i hguard
    cases hclaimed
    refine ⟨⟨⟨fun hcompleted => ?_, nofun⟩, fun _ => rfl, h.recorded, nofun⟩,
      ⟨⟨rfl, rfl, rfl, rfl, rfl, rfl, rfl, rfl⟩, .inr (.inl rfl), fun _ => id⟩, rfl⟩
    exact absurd (h.status.mp hcompleted) hguard.1
  · cases hclaimed

theorem RowsOk.renew (h : RowsOk target log rows) {leaseExpiresAt updatedAt : Int}
    (hrenewed : rows.renewPrivacyJobLease number leaseExpiresAt updatedAt = some after) :
    RowsOk target log after ∧ RowsMove number rows after ∧
      after.job.storeStatusJson = rows.job.storeStatusJson ∧ rows.job.claimToken = some number := by
  obtain ⟨⟨hrunning, htoken⟩, rfl⟩ := renewPrivacyJobLease_eq_some hrenewed
  exact ⟨⟨h.status, h.running, h.recorded, h.completed⟩,
    ⟨⟨rfl, rfl, rfl, rfl, rfl, rfl, rfl, rfl⟩, .inr (.inl htoken), fun _ => id⟩, rfl, htoken⟩

/-- An update by the worker that holds the token, of states that keep what is recorded as done. -/
theorem RowsOk.update {status : PrivacyJobStatus} {states : EntityDeleteStoreStatus}
    {updatedAt : Int} {errorCode : Option String}
    (hupdated : rows.updatePrivacyJob status states updatedAt errorCode number = some after)
    (hkept : ∀ store, rows.job.storeStatusJson store = .done → states store = .done)
    (hsucceeded : ∀ store, states store = .done → Succeeded log target store)
    (hcompleted : status = .completed → ∀ store, states store = .done) :
    RowsOk target log after ∧ RowsMove number rows after := by
  obtain ⟨-, hidentity, hstatus, hstates, htoken, hrequest⟩ := updatePrivacyJob_eq_some hupdated
  refine ⟨⟨?_, ?_, ?_, ?_⟩, ⟨hidentity, .inr ?_, ?_⟩⟩
  · rw [hstatus]
    exact hrequest
  · rw [htoken, hstatus]
    intro hclaimed
    by_contra hstopped
    exact hclaimed (if_neg hstopped)
  · rw [hstates]
    exact hsucceeded
  · rw [hstatus, hstates]
    exact hcompleted
  · rw [htoken]
    split
    · exact .inl rfl
    · exact .inr rfl
  · rw [hstates]
    exact hkept

/-! ## 3. What holds of a worker -/

/-- A worker that has tried its claim, of which there is one. -/
def PastClaim : WorkerStage → Prop
  | .reading | .claiming _ => False
  | _ => True

/-- What holds of a worker's copy of the progress. -/
structure CopyOk (rows : PrivacyRows) (log : List StoreCall) (number : Nat)
    (target : Option DeletionTarget) (job : ClaimedJob) : Prop where
  aimed : target = some job.target
  succeeded : ∀ store, job.states store = .done → Succeeded log target store
  recorded : rows.job.claimToken = some number → rows.job.storeStatusJson = job.states

/-- A worker is at a store that is not done, and at a deletion after the suppressions. -/
structure AtStore (job : ClaimedJob) (store : DeleteStore) : Prop where
  pending : job.states store ≠ .done
  suppressed : store.suppresses = false → ∀ first, first.suppresses = true →
    job.states first = .done

/-- What holds of a worker at its next call. -/
def StageOk (initial rows : PrivacyRows) (log : List StoreCall) (number : Nat) : WorkerStage → Prop
  | .reading | .recovering | .stopped => True
  | .claiming request => ∃ read, SameIdentity initial read ∧ request = read.request
  | .renewing job store | .operating job store | .recordingFailure job store =>
    CopyOk rows log number (jobTarget initial.request initial.job) job ∧ AtStore job store
  | .renewingAgain job store | .recordingDone job store =>
    CopyOk rows log number (jobTarget initial.request initial.job) job ∧ AtStore job store ∧
      .succeeded store job.target ∈ log
  | .completing job =>
    CopyOk rows log number (jobTarget initial.request initial.job) job ∧
      ∀ store, job.states store = .done
  | .recordingRecovery states =>
    rows.job.claimToken = some number → rows.job.storeStatusJson = states

variable {initial : PrivacyRows} {job : ClaimedJob} {store : DeleteStore}

theorem CopyOk.move {longer : List StoreCall} {mover : Nat} (h : CopyOk rows log number target job)
    (hlog : log ⊆ longer) (hmove : RowsMove mover rows after) (hother : mover ≠ number) :
    CopyOk after longer number target job := by
  refine ⟨h.aimed, fun store hdone => ?_, fun htoken => ?_⟩
  · obtain ⟨called, htarget, hsucceeded⟩ := h.succeeded store hdone
    exact ⟨called, htarget, hlog hsucceeded⟩
  · rcases hmove.token with rfl | hclaimed | hcleared
    · exact h.recorded htoken
    · exact absurd (Option.some.inj (hclaimed.symm.trans htoken)) hother
    · rw [hcleared] at htoken
      cases htoken

theorem CopyOk.renewed (h : CopyOk rows log number target job) (hrows : RowsOk target log rows)
    {leaseExpiresAt updatedAt : Int}
    (hrenewed : rows.renewPrivacyJobLease number leaseExpiresAt updatedAt = some after) :
    CopyOk after log number target job := by
  obtain ⟨-, -, hstates, htoken⟩ := hrows.renew hrenewed
  exact ⟨h.aimed, h.succeeded, fun _ => hstates.trans (h.recorded htoken)⟩

theorem CopyOk.mono (h : CopyOk rows log number target job) {longer : List StoreCall}
    (hlog : log ⊆ longer) : CopyOk rows longer number target job := by
  refine ⟨h.aimed, fun store hdone => ?_, h.recorded⟩
  obtain ⟨called, htarget, hsucceeded⟩ := h.succeeded store hdone
  exact ⟨called, htarget, hlog hsucceeded⟩

/-- A copy in which a store that has now succeeded is done, or one that was not done has failed. -/
theorem CopyOk.update (h : CopyOk rows log number target job) (hat : AtStore job store)
    (state : StoreState) (hstate : state = .done → .succeeded store job.target ∈ log) :
    (∀ other, job.states other = .done → Function.update job.states store state other = .done) ∧
      ∀ other, Function.update job.states store state other = .done →
        Succeeded log target other := by
  constructor
  · intro other hdone
    rw [Function.update_of_ne]
    · exact hdone
    · rintro rfl
      exact hat.pending hdone
  · intro other hdone
    by_cases hother : other = store
    · subst hother
      rw [Function.update_self] at hdone
      exact ⟨job.target, h.aimed, hstate hdone⟩
    · rw [Function.update_of_ne hother] at hdone
      exact h.succeeded other hdone

/-- **The frame of a turn**: it leaves what holds of the other workers. What a worker knows is about
calls that have been made, which stay made, and about the rows while it holds the token; a turn of
another worker that changes the rows takes the token away. -/
theorem StageOk.move {longer : List StoreCall} {mover : Nat} {stage : WorkerStage}
    (h : StageOk initial rows log number stage) (hlog : log ⊆ longer)
    (hmove : RowsMove mover rows after) (hother : mover ≠ number) :
    StageOk initial after longer number stage := by
  cases stage with
  | reading | recovering | stopped => trivial
  | claiming => exact h
  | renewing | operating | recordingFailure => exact ⟨h.1.move hlog hmove hother, h.2⟩
  | renewingAgain | recordingDone =>
    exact ⟨h.1.move hlog hmove hother, h.2.1, hlog h.2.2⟩
  | completing => exact ⟨h.1.move hlog hmove hother, h.2⟩
  | recordingRecovery states =>
    intro htoken
    rcases hmove.token with rfl | hclaimed | hcleared
    · exact h htoken
    · exact absurd (Option.some.inj (hclaimed.symm.trans htoken)) hother
    · rw [hcleared] at htoken
      cases htoken

/-- The suppressions come before the deletions. -/
theorem suppresses_before {before rest : List DeleteStore} {first : DeleteStore}
    (hstores : DELETE_STORES = before ++ store :: rest) (hdeletes : store.suppresses = false)
    (hfirst : first.suppresses = true) : first ∈ before := by
  have hsorted : DELETE_STORES.Pairwise fun a b => a.suppresses = false → b.suppresses = false := by
    decide
  have hmem : first ∈ DELETE_STORES := by
    cases first <;> decide
  rw [hstores] at hsorted hmem
  rcases List.mem_append.mp hmem with hbefore | hrest
  · exact hbefore
  rcases List.mem_cons.mp hrest with rfl | hlater
  · rw [hdeletes] at hfirst
    cases hfirst
  · have hrest := (List.pairwise_append.mp hsorted).2.1
    rw [List.rel_of_pairwise_cons hrest hlater hdeletes] at hfirst
    cases hfirst

theorem PastClaim.nextStep (job : ClaimedJob) : PastClaim (nextStep job) := by
  unfold Privacy.nextStep
  split <;> trivial

theorem StageOk.nextStep (h : CopyOk rows log number (jobTarget initial.request initial.job) job) :
    StageOk initial rows log number (nextStep job) := by
  unfold Privacy.nextStep
  split
  · rename_i store hfound
    obtain ⟨hpending, before, rest, hstores, hbefore⟩ := List.find?_eq_some_iff_append.mp hfound
    refine ⟨h, by simpa using hpending, fun hdeletes first hfirst => ?_⟩
    simpa using hbefore first (suppresses_before hstores hdeletes hfirst)
  · rename_i hnone
    refine ⟨h, fun store => ?_⟩
    have hmem : store ∈ DELETE_STORES := by
      cases store <;> decide
    simpa using List.find?_eq_none.mp hnone store hmem

/-- A worker starts on the target of the job with the progress that its claim has read. -/
theorem StageOk.startJob (number : Nat) {request : PrivacyRequestRow}
    (hrequest : ∃ read, SameIdentity initial read ∧ request = read.request)
    (hidentity : SameIdentity initial rows)
    (hrows : RowsOk (jobTarget initial.request initial.job) log rows) :
    StageOk initial rows log number (startJob request rows.job) ∧
      PastClaim (startJob request rows.job) := by
  obtain ⟨read, hread, rfl⟩ := hrequest
  have htarget := hread.jobTarget hidentity
  unfold Privacy.startJob
  split
  · exact ⟨trivial, trivial⟩
  rename_i entity hentity
  split
  · exact ⟨trivial, trivial⟩
  rename_i deleteBeforeTs hcutoff
  refine ⟨StageOk.nextStep ⟨?_, hrows.recorded, fun _ => rfl⟩, .nextStep _⟩
  rw [← htarget]
  simp [jobTarget, hentity, hcutoff]

/-! ## 4. A turn -/

/-- The suppressions have succeeded where a deletion is called. -/
def Ordered (log : List StoreCall) : Prop :=
  ∀ before store called, before ++ [.called store called] <+: log → store.suppresses = false →
    ∀ first, first.suppresses = true → .succeeded first called ∈ before

theorem Ordered.succeeded (h : Ordered log) (store : DeleteStore) (called : DeletionTarget) :
    Ordered (log ++ [.succeeded store called]) := by
  intro before other target hbefore
  rcases List.prefix_concat_iff.mp hbefore with hlast | hearlier
  · cases (List.append_inj_right' hlast rfl)
  · exact h before other target hearlier

theorem Ordered.called (h : Ordered log) {called : DeletionTarget}
    (hsuppressed : store.suppresses = false → ∀ first, first.suppresses = true →
      .succeeded first called ∈ log) :
    Ordered (log ++ [.called store called]) := by
  intro before other target hbefore
  rcases List.prefix_concat_iff.mp hbefore with hlast | hearlier
  · obtain ⟨rfl, hcall⟩ := List.append_inj' hlast rfl
    cases hcall
    exact hsuppressed
  · exact h before other target hearlier

/-- What holds of every state of a job. -/
structure JobInv (initial : PrivacyRows) (world : PrivacyWorld) : Prop where
  identity : SameIdentity initial world.rows
  rows : RowsOk (jobTarget initial.request initial.job) world.log world.rows
  holder : ∀ number, world.rows.job.claimToken = some number → PastClaim (world.worker number)
  stage : ∀ number, StageOk initial world.rows world.log number (world.worker number)
  order : Ordered world.log

/-- What holds of the rows, of the calls and of one worker, after its turn. -/
structure TurnOk (initial : PrivacyRows) (world : PrivacyWorld) (number : Nat)
    (rows : PrivacyRows) (log : List StoreCall) (stage : WorkerStage) : Prop where
  move : RowsMove number world.rows rows
  calls : world.log ⊆ log
  ok : RowsOk (jobTarget initial.request initial.job) log rows
  past : rows.job.claimToken = some number ∨ PastClaim (world.worker number) → PastClaim stage
  stage : StageOk initial rows log number stage
  order : Ordered log

variable {world : PrivacyWorld} {stage : WorkerStage}

theorem TurnOk.inv (hinv : JobInv initial world)
    (h : TurnOk initial world number rows log stage) :
    JobInv initial { rows, worker := Function.update world.worker number stage, log } where
  identity := hinv.identity.trans h.move.identity
  rows := h.ok
  holder := fun other htoken => by
    dsimp only at htoken ⊢
    by_cases hother : other = number
    · subst hother
      rw [Function.update_self]
      exact h.past (.inl htoken)
    rw [Function.update_of_ne hother]
    rcases h.move.token with rfl | hclaimed | hcleared
    · exact hinv.holder other htoken
    · exact absurd (Option.some.inj (htoken.symm.trans hclaimed)) hother
    · exact absurd (htoken.symm.trans hcleared) (Option.some_ne_none other)
  stage := fun other => by
    dsimp only
    by_cases hother : other = number
    · subst hother
      rw [Function.update_self]
      exact h.stage
    rw [Function.update_of_ne hother]
    exact (hinv.stage other).move h.calls h.move (Ne.symm hother)
  order := h.order

/-- A turn that leaves the rows and the calls. -/
theorem TurnOk.rest (hinv : JobInv initial world) (hpast : PastClaim stage ∨
      ¬ PastClaim (world.worker number))
    (hstage : StageOk initial world.rows world.log number stage) :
    TurnOk initial world number world.rows world.log stage where
  move := .refl number world.rows
  calls := List.Subset.refl _
  ok := hinv.rows
  past := fun hclaimed => hpast.resolve_right fun h => h (hclaimed.elim (hinv.holder number) id)
  stage := hstage
  order := hinv.order

/-- A turn that writes the rows. -/
theorem TurnOk.written (hinv : JobInv initial world) (outcome : CallOutcome)
    (write : Option PrivacyRows) (next failure : WorkerStage)
    (hpast : PastClaim next ∧ PastClaim failure)
    (hwrite : ∀ after, write = some after →
      RowsOk (jobTarget initial.request initial.job) world.log after ∧
        RowsMove number world.rows after ∧ StageOk initial after world.log number next)
    (hfailure : ∀ after, StageOk initial after world.log number failure) :
    TurnOk initial world number (PrivacyWorld.written world.rows outcome write).2 world.log
      (if (PrivacyWorld.written world.rows outcome write).1 then next else failure) := by
  have hrest : TurnOk initial world number world.rows world.log failure :=
    .rest hinv (.inl hpast.2) (hfailure _)
  cases write with
  | none => cases outcome <;> exact hrest
  | some after =>
    obtain ⟨hrows, hmove, hnext⟩ := hwrite after rfl
    cases outcome with
    | failed => exact hrest
    | lost => exact ⟨hmove, List.Subset.refl _, hrows, fun _ => hpast.2, hfailure _, hinv.order⟩
    | ok => exact ⟨hmove, List.Subset.refl _, hrows, fun _ => hpast.1, hnext, hinv.order⟩

/-- A turn that calls a store, with what the worker's copy says of the stores before it. -/
theorem TurnOk.called (h : TurnOk initial world number rows world.log (.operating job store))
    (hcopy : CopyOk world.rows world.log number (jobTarget initial.request initial.job) job)
    (hat : AtStore job store) :
    TurnOk initial world number rows (world.log ++ [.called store job.target])
      (.operating job store) := by
  have hlog : world.log ⊆ world.log ++ [.called store job.target] := List.subset_append_left _ _
  refine ⟨h.move, hlog, h.ok.mono hlog, h.past, ⟨h.stage.1.mono hlog, hat⟩,
    h.order.called fun hdeletes first hfirst => ?_⟩
  obtain ⟨called, htarget, hsucceeded⟩ :=
    hcopy.succeeded first (hat.suppressed hdeletes first hfirst)
  cases hcopy.aimed.symm.trans htarget
  exact hsucceeded

/-- The turn of a worker, of which the others see what it writes. -/
theorem JobInv.turn (hinv : JobInv initial world) (number : Nat) (now : Int)
    (outcome : CallOutcome) : ∃ rows log stage,
      world.run number now outcome =
        { rows, worker := Function.update world.worker number stage, log } ∧
      TurnOk initial world number rows log stage := by
  have hstage := hinv.stage number
  have hheld := hinv.holder number
  cases hworker : world.worker number with
  | reading =>
    have hpast : ¬ PastClaim (world.worker number) := by
      rw [hworker]
      exact id
    by_cases hstops : outcome ≠ .ok ∨ world.rows.job.status = .completed
    · refine ⟨_, _, .stopped, ?_, .rest hinv (.inr hpast) trivial⟩
      simp only [run, hworker, if_pos hstops, goTo]
    · refine ⟨_, _, .claiming world.rows.request, ?_,
        .rest hinv (.inr hpast) ⟨_, hinv.identity, rfl⟩⟩
      simp only [run, hworker, if_neg hstops, goTo]
  | claiming request =>
    rw [hworker] at hstage
    cases hclaim : world.rows.claimPrivacyJob now (now + PRIVACY_JOB_LEASE_MS) number with
    | none =>
      refine ⟨_, _, .stopped, ?_, .rest hinv (.inl trivial) trivial⟩
      simp only [run, hworker, hclaim, goTo]
    | some claimed =>
      obtain ⟨hrows, hmove, -⟩ := hinv.rows.claim hclaim
      obtain ⟨hstart, hpast⟩ := StageOk.startJob number hstage
        (hinv.identity.trans hmove.identity) hrows
      refine ⟨_, _, _, ?_, TurnOk.written hinv outcome (some claimed)
        (startJob request claimed.job) .stopped ⟨hpast, trivial⟩
        (fun after hafter => ?_) fun _ => trivial⟩
      · simp only [run, hworker, hclaim]
        rfl
      · cases hafter
        exact ⟨hrows, hmove, hstart⟩
  | renewing job store =>
    rw [hworker] at hstage
    obtain ⟨hcopy, hat⟩ := hstage
    have hturn := TurnOk.written hinv outcome
      (world.rows.renewPrivacyJobLease number (now + PRIVACY_JOB_LEASE_MS) now)
      (.operating job store) .recovering ⟨trivial, trivial⟩
      (fun after hafter => by
        obtain ⟨hrows, hmove, -⟩ := hinv.rows.renew hafter
        exact ⟨hrows, hmove, hcopy.renewed hinv.rows hafter, hat⟩) fun _ => trivial
    cases htold : (PrivacyWorld.written world.rows outcome
        (world.rows.renewPrivacyJobLease number (now + PRIVACY_JOB_LEASE_MS) now)).1 with
    | true =>
      rw [htold] at hturn
      refine ⟨_, _, .operating job store, ?_, hturn.called hcopy hat⟩
      simp only [run, hworker, htold]
      rfl
    | false =>
      rw [htold] at hturn
      refine ⟨_, _, .recovering, ?_, hturn⟩
      simp only [run, hworker, htold]
      rfl
  | operating job store =>
    rw [hworker] at hstage
    obtain ⟨hcopy, hat⟩ := hstage
    by_cases hok : outcome = .ok
    · have hlog : world.log ⊆ world.log ++ [.succeeded store job.target] :=
        List.subset_append_left _ _
      refine ⟨_, _, .renewingAgain job store, ?_, .refl _ _, hlog, hinv.rows.mono hlog,
        fun _ => trivial, ⟨hcopy.mono hlog, hat, ?_⟩, hinv.order.succeeded store job.target⟩
      · simp only [run, hworker, if_pos hok]
        rfl
      · exact List.mem_append_right _ List.mem_cons_self
    · refine ⟨_, _, .recordingFailure job store, ?_, .rest hinv (.inl trivial) ⟨hcopy, hat⟩⟩
      simp only [run, hworker, if_neg hok]
      rfl
  | recordingFailure job store =>
    rw [hworker] at hstage
    obtain ⟨hcopy, hat⟩ := hstage
    obtain ⟨hkept, hsucceeded⟩ := hcopy.update hat .failed nofun
    refine ⟨_, _, _, ?_, TurnOk.written hinv outcome
      (world.rows.updatePrivacyJob .failed (Function.update job.states store .failed) now
        (some "PRIVACY_STORE_FAILED") number)
      .recovering .recovering ⟨trivial, trivial⟩
      (fun after hafter => ?_) fun _ => trivial⟩
    · simp only [run, hworker]
      rfl
    · obtain ⟨htoken, -⟩ := updatePrivacyJob_eq_some hafter
      have hrecorded := hcopy.recorded htoken
      obtain ⟨hrows, hmove⟩ := RowsOk.update hafter (hrecorded ▸ hkept) hsucceeded nofun
      exact ⟨hrows, hmove, trivial⟩
  | renewingAgain job store =>
    rw [hworker] at hstage
    obtain ⟨hcopy, hat, hmem⟩ := hstage
    refine ⟨_, _, _, ?_, TurnOk.written hinv outcome
      (world.rows.renewPrivacyJobLease number (now + PRIVACY_JOB_LEASE_MS) now)
      (.recordingDone job store) .recovering ⟨trivial, trivial⟩
      (fun after hafter => ?_) fun _ => trivial⟩
    · simp only [run, hworker]
      rfl
    · obtain ⟨hrows, hmove, -⟩ := hinv.rows.renew hafter
      exact ⟨hrows, hmove, hcopy.renewed hinv.rows hafter, hat, hmem⟩
  | recordingDone job store =>
    rw [hworker] at hstage
    obtain ⟨hcopy, hat, hmem⟩ := hstage
    obtain ⟨hkept, hsucceeded⟩ := hcopy.update hat .done fun _ => hmem
    refine ⟨_, _, _, ?_, TurnOk.written hinv outcome
      (world.rows.updatePrivacyJob .running (Function.update job.states store .done) now
        none number)
      (nextStep { job with states := Function.update job.states store .done })
      .recovering ⟨.nextStep _, trivial⟩ (fun after hafter => ?_) fun _ => trivial⟩
    · simp only [run, hworker]
      rfl
    · obtain ⟨htoken, -, -, hstates, -⟩ := updatePrivacyJob_eq_some hafter
      have hrecorded := hcopy.recorded htoken
      obtain ⟨hrows, hmove⟩ := RowsOk.update hafter (hrecorded ▸ hkept) hsucceeded nofun
      exact ⟨hrows, hmove, .nextStep ⟨hcopy.aimed, hsucceeded, fun _ => hstates⟩⟩
  | completing job =>
    rw [hworker] at hstage
    obtain ⟨hcopy, hdone⟩ := hstage
    refine ⟨_, _, _, ?_, TurnOk.written hinv outcome
      (world.rows.updatePrivacyJob .completed job.states now none number)
      .stopped .recovering ⟨trivial, trivial⟩
      (fun after hafter => ?_) fun _ => trivial⟩
    · simp only [run, hworker]
      rfl
    · obtain ⟨hrows, hmove⟩ := RowsOk.update hafter (fun store _ => hdone store) hcopy.succeeded
        fun _ => hdone
      exact ⟨hrows, hmove, trivial⟩
  | recovering =>
    by_cases hreads : outcome = .ok ∧ world.rows.job.status = .running ∧
        world.rows.job.claimToken = some number
    · refine ⟨_, _, .recordingRecovery world.rows.job.storeStatusJson, ?_,
        .rest hinv (.inl trivial) fun _ => rfl⟩
      simp only [run, hworker, if_pos hreads]
      rfl
    · refine ⟨_, _, .stopped, ?_, .rest hinv (.inl trivial) trivial⟩
      simp only [run, hworker, if_neg hreads]
      rfl
  | recordingRecovery states =>
    rw [hworker] at hstage
    refine ⟨_, _, _, ?_, TurnOk.written hinv outcome
      (world.rows.updatePrivacyJob .failed states now (some "PRIVACY_JOB_FAILED") number)
      .stopped .stopped ⟨trivial, trivial⟩
      (fun after hafter => ?_) fun _ => trivial⟩
    · simp only [run, hworker]
      rfl
    · obtain ⟨htoken, -⟩ := updatePrivacyJob_eq_some hafter
      cases hstage htoken
      obtain ⟨hrows, hmove⟩ := RowsOk.update hafter (fun _ => id) hinv.rows.recorded nofun
      exact ⟨hrows, hmove, trivial⟩
  | stopped =>
    refine ⟨world.rows, world.log, .stopped, ?_, .rest hinv (.inl trivial) trivial⟩
    simp only [run, hworker]
    rw [← hworker, Function.update_eq_self]

/-! ## 5. A worker without the token -/

theorem run_rows_of_ne (htoken : world.rows.job.claimToken ≠ some number)
    (hpast : PastClaim (world.worker number)) (now : Int) (outcome : CallOutcome) :
    (world.run number now outcome).rows = world.rows := by
  have hrenew (leaseExpiresAt updatedAt : Int) :
      world.rows.renewPrivacyJobLease number leaseExpiresAt updatedAt = none :=
    if_neg fun h => htoken h.2
  have hupdate (status : PrivacyJobStatus) (states : EntityDeleteStoreStatus) (updatedAt : Int)
      (errorCode : Option String) :
      world.rows.updatePrivacyJob status states updatedAt errorCode number = none :=
    if_neg fun h => htoken h.2
  have hnone : PrivacyWorld.written world.rows outcome none = (false, world.rows) := by
    cases outcome <;> rfl
  cases hworker : world.worker number with
  | reading | claiming =>
    rw [hworker] at hpast
    exact hpast.elim
  | renewing | recordingFailure | renewingAgain | recordingDone | completing
  | recordingRecovery =>
    simp [run, hworker, hrenew, hupdate, hnone, write, goTo]
  | operating | recovering =>
    simp only [run, hworker]
    split <;> rfl
  | stopped => simp only [run, hworker]

/-- A worker that has lost the token, and has no claim to make. -/
def LostToken (number : Nat) (world : PrivacyWorld) : Prop :=
  PastClaim (world.worker number) ∧ world.rows.job.claimToken ≠ some number

theorem PastClaim.turn (hinv : JobInv initial world) (h : PastClaim (world.worker number))
    (turn : WorkerTurn) :
    PastClaim ((world.run turn.number turn.now turn.outcome).worker number) := by
  obtain ⟨rows, log, stage, hrun, hok⟩ := hinv.turn turn.number turn.now turn.outcome
  rw [hrun]
  dsimp only
  by_cases hown : number = turn.number
  · subst hown
    rw [Function.update_self]
    exact hok.past (.inr h)
  · rw [Function.update_of_ne hown]
    exact h

theorem LostToken.turn (hinv : JobInv initial world) (h : LostToken number world)
    (turn : WorkerTurn) : LostToken number (world.run turn.number turn.now turn.outcome) := by
  obtain ⟨hpast, htoken⟩ := h
  refine ⟨hpast.turn hinv turn, ?_⟩
  by_cases hown : turn.number = number
  · subst hown
    rw [run_rows_of_ne htoken hpast]
    exact htoken
  obtain ⟨rows, log, stage, hrun, hok⟩ := hinv.turn turn.number turn.now turn.outcome
  rw [hrun]
  dsimp only
  rcases hok.move.token with rfl | hclaimed | hcleared
  · exact htoken
  · rw [hclaimed]
    exact fun h => hown (Option.some.inj h)
  · rw [hcleared]
    exact nofun

/-! ## 6. Runs of the workers -/

theorem jobInv_next (turn : WorkerTurn) (hinv : JobInv initial world) :
    JobInv initial ((entityDeleteJob initial).next world turn) := by
  obtain ⟨rows, log, stage, hrun, hok⟩ := hinv.turn turn.number turn.now turn.outcome
  rw [show (entityDeleteJob initial).next world turn =
    world.run turn.number turn.now turn.outcome from rfl, hrun]
  exact hok.inv hinv

theorem move_next (turn : WorkerTurn) (hinv : JobInv initial world) :
    RowsMove turn.number world.rows ((entityDeleteJob initial).next world turn).rows := by
  obtain ⟨rows, log, stage, hrun, hok⟩ := hinv.turn turn.number turn.now turn.outcome
  rw [show (entityDeleteJob initial).next world turn =
    world.run turn.number turn.now turn.outcome from rfl, hrun]
  exact hok.move

end

/-! ## 7. The promises -/

section

variable (orgId : String) (appId : Option String) (subjectRef : List String) (requestedBy : String)
  (deleteBeforeTs : Option String) (identityVersion : String)
  (idType entityFamilyHash : Option String) (receivedAt : Int)

theorem jobInv_init :
    let initial := beginEntityPrivacyJob orgId appId subjectRef requestedBy deleteBeforeTs
      identityVersion idType entityFamilyHash receivedAt
    JobInv initial (entityDeleteJob initial).init where
  identity := .refl _
  rows := ⟨⟨nofun, nofun⟩, fun h => absurd rfl h, nofun, nofun⟩
  holder := nofun
  stage := fun _ => trivial
  order := fun before store called hbefore => by
    have := List.prefix_nil.mp hbefore
    simp at this

/-- **An Entity deletion job is completed when every store is done.**  In every run of its
workers: a completed job has deleted in each store with its own cutoff and identity; a deletion is
called after the suppressions and the tombstone have succeeded; what is recorded as done stays done;
a worker that has held the token and does not hold it now changes neither row; and the request
is completed just when the job is. -/
theorem entity_delete_job :
    let initial := beginEntityPrivacyJob orgId appId subjectRef requestedBy deleteBeforeTs
      identityVersion idType entityFamilyHash receivedAt
    let reached := (entityDeleteJob initial).run
    ∀ turns,
      ((reached turns).rows.job.status = .completed → ∃ target,
        jobTarget (reached turns).rows.request (reached turns).rows.job = some target ∧
        ∀ store, .succeeded store target ∈ (reached turns).log) ∧
      (∀ before store target, before ++ [.called store target] <+: (reached turns).log →
        store.suppresses = false →
        ∀ first, first.suppresses = true → .succeeded first target ∈ before) ∧
      (∀ later store, (reached turns).rows.job.storeStatusJson store = .done →
        (reached (turns ++ later)).rows.job.storeStatusJson store = .done) ∧
      (∀ later turn rest, (reached turns).rows.job.claimToken = some turn.number →
        (reached (turns ++ later)).rows.job.claimToken ≠ some turn.number →
        (reached (turns ++ later ++ rest ++ [turn])).rows =
          (reached (turns ++ later ++ rest)).rows) ∧
      ((reached turns).rows.request.status = .completed ↔
        (reached turns).rows.job.status = .completed) := by
  intro initial reached turns
  have hinv (turns : List WorkerTurn) : JobInv initial (reached turns) :=
    (entityDeleteJob initial).exec_invariant (fun _ turn => jobInv_next turn)
      (jobInv_init orgId appId subjectRef requestedBy deleteBeforeTs identityVersion idType
        entityFamilyHash receivedAt) turns
  have hidentity := (hinv turns).identity
  refine ⟨fun hcompleted => ?_, (hinv turns).order, fun later store hdone => ?_,
    fun later turn rest hheld hlost => ?_, (hinv turns).rows.status⟩
  · have hrecorded (store : DeleteStore) := (hinv turns).rows.recorded store
      ((hinv turns).rows.completed hcompleted store)
    obtain ⟨target, htarget, -⟩ := hrecorded .assignments
    refine ⟨target, (hidentity.jobTarget hidentity).trans htarget, fun store => ?_⟩
    obtain ⟨called, hcalled, hsucceeded⟩ := hrecorded store
    cases htarget.symm.trans hcalled
    exact hsucceeded
  · induction later using List.reverseRecOn with
    | nil =>
      rw [List.append_nil]
      exact hdone
    | append_singleton later turn ih =>
      rw [← List.append_assoc]
      exact (congrArg (fun world => world.rows.job.storeStatusJson store = .done)
        ((entityDeleteJob initial).run_concat (turns ++ later) turn)).mpr
          ((move_next turn (hinv _)).kept store ih)
  · have hpast : JobInv initial (reached (turns ++ later)) ∧
        PastClaim ((reached (turns ++ later)).worker turn.number) := by
      rw [show reached (turns ++ later) = (entityDeleteJob initial).exec (reached turns) later from
        (entityDeleteJob initial).run_append turns later]
      refine (entityDeleteJob initial).exec_invariant
        (I := fun world => JobInv initial world ∧ PastClaim (world.worker turn.number))
        (fun world next h => ⟨jobInv_next next h.1, h.2.turn h.1 next⟩) ?_ later
      exact ⟨hinv turns, (hinv turns).holder turn.number hheld⟩
    have hkept : JobInv initial (reached (turns ++ later ++ rest)) ∧
        LostToken turn.number (reached (turns ++ later ++ rest)) := by
      rw [show reached (turns ++ later ++ rest) =
        (entityDeleteJob initial).exec (reached (turns ++ later)) rest from
          (entityDeleteJob initial).run_append (turns ++ later) rest]
      refine (entityDeleteJob initial).exec_invariant
        (I := fun world => JobInv initial world ∧ LostToken turn.number world)
        (fun world next h => ⟨jobInv_next next h.1, h.2.turn h.1 next⟩) ?_ rest
      exact ⟨hpast.1, hpast.2, hlost⟩
    rw [show reached (turns ++ later ++ rest ++ [turn]) =
      (entityDeleteJob initial).next (reached (turns ++ later ++ rest)) turn from
        (entityDeleteJob initial).run_concat (turns ++ later ++ rest) turn]
    exact run_rows_of_ne hkept.2.2 hkept.2.1 turn.now turn.outcome

end

end Privacy

end Splitch
