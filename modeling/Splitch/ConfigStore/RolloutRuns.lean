/-
# Salts through the writes of a Flag

What one write does to the salts is known (`RolloutSalts`); here they are followed through a run of the
machine.  The invariant is about the PROPOSALS, since they are what survives from one step to a later one:
each fits the row that its preview has read, whatever is written meanwhile, and the version of that row
tells whether it is still there, since versions only rise (`Sound`).

A step then does one of three things (`Changes`): it leaves the Configurations alone, it adds a proposal
that fits the row it has just read, or it lands one row in one Environment.  A landed row keeps the salts
of the one before it under a condition on the state that the step finds (`Timely`): a Request is up to date
when it is applied, and a Sync finds Environments that agree on the salts that both have, since it copies
rows, salts and all.  For a Request it is enough that the row of its preview is still there
(`upToDate_of_version`): then nothing has come between.

Along a run whose steps are timely a salt goes unchanged for as long as the rollout is there
(`baseline_salt_stays`, `rule_salt_stays`).  Where the salt of a rule has come from needs no condition
(`salts_minted`): proposals too hold only salts that were there, or were minted for them.
-/
import Splitch.ConfigStore.RolloutSalts

namespace Splitch

namespace FlagWrites

open Evaluator (PercentageRollout)

/-! ## 1. One step -/

variable {world : FlagWorld} {write : FlagWrite} {configs : FlagConfigs} {environmentId : String}

/-- What has been previewed, and may be created or applied yet. -/
def FlagWorld.Proposes (world : FlagWorld) (proposal : Proposal) : Prop :=
  proposal ∈ world.proposals ∨ ∃ request ∈ world.requests, request.toProposal = proposal

/-- The same proposal at another version, and against another Configuration. -/
def Proposal.Restates (proposal' proposal : Proposal) : Prop :=
  ∃ (current : FlagConfigResult) (version : Nat),
    proposal' = { proposal with current, proposed := { proposal.proposed with version } }

/-- Every proposal fits the Configuration that its preview has read, and the version of that one tells
whether it is still there. -/
def Sound (world : FlagWorld) : Prop :=
  ∀ proposal, world.Proposes proposal →
    Fits proposal.operation proposal.before.toFlagConfigResult proposal.proposed ∧
      ∃ current, world.configs proposal.operation.environmentId = some current ∧
        proposal.before.version ≤ current.version ∧
        (proposal.before.version = current.version → current = proposal.before)

/-- **Timely**: a Request that is applied is up to date, and a Sync finds Environments that agree on the
salts that both have. -/
def Timely (world : FlagWorld) : FlagWrite → Prop
  | .apply number _ => number ∈ world.checked → ∀ request current,
      world.requests[number]? = some request → request.status = .pending →
      world.configs request.operation.environmentId = some current →
        request.UpToDate current
  | .sync input _ => ∀ source target, world.configs input.fromEnvironmentId = some source →
      world.configs input.environmentId = some target →
        KeepsBaseline target.toFlagConfigResult source.toFlagConfigResult ∧
          KeepsRules target.toFlagConfigResult source.toFlagConfigResult
  | _ => True

/-- The version of the row that the preview has read is enough. -/
theorem upToDate_of_version {proposal : Proposal} {current : FlagConfigRow} (hsound : Sound world)
    (hproposes : world.Proposes proposal)
    (hcurrent : world.configs proposal.operation.environmentId = some current)
    (hversion : proposal.before.version = current.version) : proposal.UpToDate current := by
  obtain ⟨-, found, hfound, -, hsame⟩ := hsound proposal hproposes
  rw [hcurrent] at hfound
  cases hfound
  cases hsame hversion
  exact ⟨fun _ _ now hnow => ⟨now, hnow, rfl⟩, fun _ _ _ _ _ hsalt => hsalt⟩

/-- The operation of a write that lands it. -/
def FlagWrite.operation (world : FlagWorld) : FlagWrite → Option Operation
  | .write operation _ => some operation
  | .apply number _ => (world.requests[number]?).map (·.operation)
  | _ => none

/-- What a write mints, directly or for a proposal. -/
def FlagWrite.Mints (id salt : String) : FlagWrite → Prop
  | .write operation surroundings => operation.Mints surroundings id salt
  | .preview operation _ surroundings => operation.Mints surroundings id salt
  | _ => False

/-- A Promotion lands that moves the rules of the Environment. -/
def MovesRules (environmentId : String) (world : FlagWorld) (write : FlagWrite) : Prop :=
  (flagStep world write).1 = .ok ⟨⟩ ∧ ∃ operation ∈ write.operation world,
    operation.environmentId = environmentId ∧ operation.movesRules = true

/-- A Configuration or a proposal has that salt under that id. -/
def FlagWorld.Knows (world : FlagWorld) (id salt : String) : Prop :=
  (∃ environmentId row, world.configs environmentId = some row ∧
    HoldsSalt row.toFlagConfigResult id salt) ∨
  ∃ proposal, world.Proposes proposal ∧ HoldsSalt proposal.proposed id salt

/-- What a write does to the Configuration that it finds. -/
structure Lands (world : FlagWorld) (write : FlagWrite) (environmentId : String)
    (current row : FlagConfigRow) : Prop where
  advances : Advances current row
  baseline : Timely world write → KeepsBaseline current.toFlagConfigResult row.toFlagConfigResult
  rules : Timely world write → ¬ MovesRules environmentId world write →
    KeepsRules current.toFlagConfigResult row.toFlagConfigResult

/-- No proposal is new. -/
def FlagWorld.Inherits (after world : FlagWorld) : Prop :=
  ∀ proposal', after.Proposes proposal' → ∃ proposal, world.Proposes proposal ∧ proposal'.Restates proposal

/-- What a step does: nothing to the Configurations, a proposal more, or a row in one Environment. -/
inductive Changes (world : FlagWorld) (write : FlagWrite) : FlagWorld → Prop
  | kept {after : FlagWorld} (hconfigs : after.configs = world.configs)
      (hinherits : after.Inherits world) : Changes world write after
  | previewed (proposal : Proposal)
      (hcurrent : world.configs proposal.operation.environmentId = some proposal.before)
      (hfits : Fits proposal.operation proposal.before.toFlagConfigResult proposal.proposed)
      (hsalts : ∀ id salt, HoldsSalt proposal.proposed id salt →
        world.Knows id salt ∨ write.Mints id salt) :
      Changes world write { world with proposals := world.proposals ++ [proposal] }
  | landed {after : FlagWorld} (environmentId : String) (row : FlagConfigRow)
      (hconfigs : after.configs = (world.land environmentId row).configs)
      (hinherits : after.Inherits world)
      (hlands : ∀ current, world.configs environmentId = some current →
        Lands world write environmentId current row)
      (hsalts : ∀ id salt, HoldsSalt row.toFlagConfigResult id salt →
        world.Knows id salt ∨ write.Mints id salt) :
      Changes world write after

theorem Proposal.Restates.refl (proposal : Proposal) : proposal.Restates proposal :=
  ⟨proposal.current, proposal.proposed.version, rfl⟩

theorem FlagWorld.inherits_of_proposes {after : FlagWorld}
    (h : ∀ proposal, after.Proposes proposal → world.Proposes proposal) : after.Inherits world :=
  fun proposal hproposal => ⟨proposal, h proposal hproposal, .refl proposal⟩

theorem FlagWorld.Inherits.refl : world.Inherits world := inherits_of_proposes fun _ h => h

theorem FlagWorld.proposes_resolve {number : Nat} {status : ApprovalStatus} {proposal : Proposal}
    (h : (world.resolve number status).Proposes proposal) : world.Proposes proposal := by
  rcases h with hproposal | ⟨request, hrequest, rfl⟩
  · exact .inl hproposal
  obtain ⟨index, hindex⟩ := List.getElem?_of_mem hrequest
  change (List.modify _ number _)[index]? = some request at hindex
  rw [List.getElem?_modify] at hindex
  obtain ⟨before, hbefore, rfl⟩ := Option.map_eq_some_iff.mp hindex
  refine .inr ⟨before, List.mem_of_getElem? hbefore, ?_⟩
  split
  · split <;> rfl
  · rfl

/-- A Request more states a proposal that was there. -/
theorem FlagWorld.inherits_requested {request : ApprovalRequest} {proposal : Proposal}
    (hproposal : world.Proposes proposal) (hrestates : request.toProposal.Restates proposal) :
    ({ world with requests := world.requests ++ [request] } : FlagWorld).Inherits world := by
  rintro other (hother | ⟨found, hfound, rfl⟩)
  · exact ⟨other, .inl hother, .refl other⟩
  rcases List.mem_append.mp hfound with hfound | hfound
  · exact ⟨found.toProposal, .inr ⟨found, hfound, rfl⟩, .refl _⟩
  · cases List.mem_singleton.mp hfound
    exact ⟨proposal, hproposal, hrestates⟩

section

variable {surroundings : Surroundings} {operation : Operation} {number : Nat}

theorem changes_refused (failure : WriteFailure) (h : flagStep world write = (.error failure, world)) :
    Changes world write (flagStep world write).2 := by
  rw [h]
  exact .kept rfl .refl

theorem changes_write :
    Changes world (.write operation surroundings) (flagStep world (.write operation surroundings)).2 := by
  cases hrow : writeOperation surroundings world.configs operation with
  | error failure => exact changes_refused failure (by rw [flagStep, hrow, landed])
  | ok row =>
    have hstep : flagStep world (.write operation surroundings) =
        (.ok ⟨⟩, world.land operation.environmentId row) := by rw [flagStep, hrow, landed]
    obtain ⟨current, hwritten, hadvances⟩ := write_written hrow
    rw [hstep]
    refine .landed operation.environmentId row rfl .refl (fun found hfound => ?_) fun id salt hholds =>
      (hwritten.salt hholds).imp_left .inl
    cases hwritten.found.symm.trans hfound
    refine ⟨hadvances, fun _ => hwritten.fits.baseline, fun _ hmoves => hwritten.fits.rules ?_⟩
    refine Bool.not_eq_true _ ▸ fun htrue => hmoves ?_
    exact ⟨congrArg Prod.fst hstep, operation, rfl, rfl, htrue⟩

/-- The row that is there stays, and the initial one has no salts. -/
theorem changes_initial {after : FlagWorld} {row : FlagConfigRow}
    (hrow : (world.configs environmentId).getD initialFlagConfig = row)
    (hconfigs : after.configs = (world.land environmentId row).configs)
    (hinherits : after.Inherits world) : Changes world write after := by
  refine .landed environmentId row hconfigs hinherits (fun current hcurrent => ?_)
    fun id salt hholds => ?_
  · rw [hcurrent] at hrow
    cases hrow
    exact ⟨.inl rfl, fun _ => keepsBaseline_of_same rfl, fun _ _ => keepsRules_of_same rfl⟩
  · cases hfound : world.configs environmentId with
    | none =>
      rw [hfound] at hrow
      cases hrow
      obtain ⟨rule, hrule, -⟩ := hholds
      cases hrule
    | some found =>
      rw [hfound] at hrow
      cases hrow
      exact .inl (.inl ⟨environmentId, found, hfound, hholds⟩)

theorem ensureInitialFlagConfig_eq_ok {row : FlagConfigRow}
    (h : ensureInitialFlagConfig surroundings configs environmentId = .ok row) :
    (configs environmentId).getD initialFlagConfig = row := by
  unfold ensureInitialFlagConfig at h
  obtain ⟨_, -, h⟩ := Checks.bind_eq_ok.mp h
  exact Checks.pure_eq_ok.mp h

theorem changes_ensureInitial :
    Changes world (.ensureInitial environmentId surroundings)
      (flagStep world (.ensureInitial environmentId surroundings)).2 := by
  cases hrow : ensureInitialFlagConfig surroundings world.configs environmentId with
  | error failure => exact changes_refused failure (by rw [flagStep, hrow, landed])
  | ok row =>
    rw [flagStep, hrow, landed]
    exact changes_initial (ensureInitialFlagConfig_eq_ok hrow) rfl .refl

/-- A Sync lands the rows of the source. -/
theorem lands_synced {input : SyncFlagConfigInput} {target row : FlagConfigRow}
    (htarget : world.configs input.environmentId = some target)
    (hrow : row.toFlagConfigResult = synced (world.configs input.fromEnvironmentId) target) :
    Lands world (.sync input surroundings) input.environmentId target row := by
  refine ⟨.inr (congrArg FlagConfigResult.version hrow), fun htimely old hold new hnew => ?_,
    fun htimely _ id old new hold hnew => ?_⟩
  · rw [hrow] at hnew
    obtain ⟨source, hsource, hnew⟩ := Option.bind_eq_some_iff.mp hnew
    exact (htimely source target hsource htarget).1 old hold new hnew
  · rw [hrow] at hnew
    cases hsource : world.configs input.fromEnvironmentId with
    | none =>
      rw [hsource] at hnew
      cases hnew
    | some source =>
      rw [hsource] at hnew
      exact (htimely source target hsource htarget).2 id old new hold hnew

theorem changes_sync {input : SyncFlagConfigInput} :
    Changes world (.sync input surroundings) (flagStep world (.sync input surroundings)).2 := by
  cases htarget : prepareSync surroundings world.configs input with
  | error failure => exact changes_refused failure (by rw [flagStep, syncStep, htarget])
  | ok target =>
    have hinitial : (world.configs input.environmentId).getD initialFlagConfig = target := by
      unfold prepareSync at htarget
      obtain ⟨_, -, htarget⟩ := Checks.bind_eq_ok.mp htarget
      exact ensureInitialFlagConfig_eq_ok htarget
    cases hrow : syncFlagConfig surroundings world.configs input target with
    | error failure =>
      rw [flagStep, syncStep, htarget]
      dsimp only
      rw [hrow, landed]
      exact changes_initial hinitial rfl .refl
    | ok row =>
      have hsynced := replaceRows_eq_ok hrow
      rw [flagStep, syncStep, htarget]
      dsimp only
      rw [hrow, landed, FlagWorld.land_land]
      refine .landed input.environmentId row rfl .refl (fun current hcurrent => ?_)
        fun id salt hholds => ?_
      · rw [hcurrent] at hinitial
        cases hinitial
        exact lands_synced hcurrent hsynced
      · rw [hsynced] at hholds
        cases hsource : world.configs input.fromEnvironmentId with
        | none =>
          rw [hsource] at hholds
          obtain ⟨rule, hrule, -⟩ := hholds
          cases hrule
        | some source =>
          rw [hsource] at hholds
          exact .inl (.inl ⟨input.fromEnvironmentId, source, hsource, hholds⟩)

theorem changes_preview {current : FlagConfigResult} :
    Changes world (.preview operation current surroundings)
      (flagStep world (.preview operation current surroundings)).2 := by
  cases hpreview : previewOperation surroundings world.configs operation with
  | error failure => exact changes_refused failure (by rw [flagStep, hpreview, previewed])
  | ok found =>
    obtain ⟨before, proposed⟩ := found
    have hwritten := preview_written hpreview
    rw [flagStep, hpreview, previewed]
    exact .previewed _ hwritten.found hwritten.fits fun id salt hholds =>
      (hwritten.salt hholds).imp_left .inl

theorem createApproval_eq_ok {proposal : Proposal} {request : ApprovalRequest}
    (h : createApproval surroundings configs proposal = .ok request) : request.toProposal = proposal := by
  unfold createApproval at h
  obtain ⟨_, -, h⟩ := Checks.bind_eq_ok.mp h
  obtain ⟨_, -, h⟩ := Checks.bind_eq_ok.mp h
  rw [← Checks.pure_eq_ok.mp h]

theorem changes_create :
    Changes world (.create number surroundings) (flagStep world (.create number surroundings)).2 := by
  cases hproposal : world.proposals[number]? with
  | none => exact changes_refused .FLAG_NOT_FOUND (by rw [flagStep, hproposal])
  | some proposal =>
    cases hrequest : createApproval surroundings world.configs proposal with
    | error failure =>
      refine changes_refused failure ?_
      rw [flagStep, hproposal]
      dsimp only
      rw [hrequest, requested]
    | ok request =>
      rw [flagStep, hproposal]
      dsimp only
      rw [hrequest, requested]
      refine .kept rfl (FlagWorld.inherits_requested (.inl (List.mem_of_getElem? hproposal)) ?_)
      rw [createApproval_eq_ok hrequest]
      exact .refl proposal

theorem replacePromotionRequest_eq_ok {request replacement : ApprovalRequest}
    {expectedConfigVersion : Nat}
    (h : replacePromotionRequest surroundings configs request expectedConfigVersion =
      .ok replacement) : replacement.toProposal.Restates request.toProposal := by
  unfold replacePromotionRequest at h
  obtain ⟨_, -, h⟩ := Checks.bind_eq_ok.mp h
  obtain ⟨_, -, h⟩ := Checks.bind_eq_ok.mp h
  obtain ⟨_, -, h⟩ := Checks.bind_eq_ok.mp h
  obtain ⟨_, -, h⟩ := Checks.bind_eq_ok.mp h
  obtain ⟨current, -, h⟩ := Checks.bind_eq_ok.mp h
  obtain ⟨_, -, h⟩ := Checks.bind_eq_ok.mp h
  obtain ⟨_, -, h⟩ := Checks.bind_eq_ok.mp h
  rw [← Checks.pure_eq_ok.mp h]
  exact ⟨current.toFlagConfigResult, current.version + 1, rfl⟩

/-- A step that is about a Request does what it does to it, or nothing. -/
theorem changes_onRequest {next : ApprovalRequest → Except WriteFailure Unit × FlagWorld}
    (h : ∀ request, world.requests[number]? = some request → Changes world write (next request).2) :
    Changes world write (onRequest world number next).2 := by
  cases hrequest : world.requests[number]? with
  | none =>
    rw [onRequest, hrequest]
    exact .kept rfl .refl
  | some request =>
    rw [onRequest, hrequest]
    exact h request hrequest

theorem changes_replace {expectedConfigVersion : Nat} :
    Changes world (.replace number expectedConfigVersion surroundings)
      (flagStep world (.replace number expectedConfigVersion surroundings)).2 := by
  refine changes_onRequest fun request hrequest => ?_
  cases hreplacement : replacePromotionRequest surroundings world.configs request
      expectedConfigVersion with
  | error failure => exact .kept rfl .refl
  | ok replacement =>
    refine .kept rfl (FlagWorld.inherits_requested ?_ (replacePromotionRequest_eq_ok hreplacement))
    exact .inr ⟨request, List.mem_of_getElem? hrequest, rfl⟩

theorem changes_review :
    Changes world (.review number surroundings) (flagStep world (.review number surroundings)).2 := by
  refine changes_onRequest fun request hrequest => ?_
  unfold reviewed
  split
  · exact .kept rfl (FlagWorld.inherits_of_proposes fun _ => FlagWorld.proposes_resolve)
  · exact .kept rfl .refl
  · exact .kept rfl .refl

/-- **An application** lands what was proposed, where the Request is up to date. -/
theorem changes_apply (hsound : Sound world) :
    Changes world (.apply number surroundings) (flagStep world (.apply number surroundings)).2 := by
  refine changes_onRequest fun request hrequest => ?_
  unfold applyStep
  split
  · next hchecked =>
    cases hrow : applyApprovedFlagConfig surroundings world.configs request with
    | error failure => exact .kept rfl .refl
    | ok row =>
      obtain ⟨current, hcurrent, hpending, hrollout, hrules, hversion⟩ :=
        applyApprovedFlagConfig_eq_ok hrow
      have hproposes : world.Proposes request.toProposal :=
        .inr ⟨request, List.mem_of_getElem? hrequest, rfl⟩
      have hfits := (hsound _ hproposes).1
      have haccepted : (flagStep world (.apply number surroundings)).1 = .ok ⟨⟩ := by
        rw [flagStep, onRequest, hrequest]
        dsimp only
        rw [applyStep, if_pos hchecked, hrow]
      refine .landed request.operation.environmentId row rfl
        (FlagWorld.inherits_of_proposes fun _ => FlagWorld.proposes_resolve) (fun found hfound => ?_)
        fun id salt hholds => ?_
      · cases hcurrent.symm.trans hfound
        refine ⟨.inr hversion, fun htimely => ?_, fun htimely hmoves => ?_⟩
        · exact touched_keepsBaseline hfits
            (htimely hchecked request current hrequest hpending hcurrent) hrollout
        · refine touched_keepsRules hfits
            (htimely hchecked request current hrequest hpending hcurrent) ?_ hrules
          refine Bool.not_eq_true _ ▸ fun htrue => hmoves ?_
          have hoperation : (FlagWrite.apply number surroundings).operation world =
              some request.operation :=
            congrArg (Option.map fun request : ApprovalRequest => request.operation) hrequest
          exact ⟨haccepted, request.operation, hoperation, rfl, htrue⟩
      · unfold HoldsSalt at hholds
        rw [hrules] at hholds
        unfold touched at hholds
        split at hholds
        · exact .inl (.inr ⟨request.toProposal, hproposes, hholds⟩)
        · exact .inl (.inl ⟨_, current, hcurrent, hholds⟩)
  · exact .kept rfl .refl

end

/-- **One step of the machine.** -/
theorem changes_flagStep (hsound : Sound world) : Changes world write (flagStep world write).2 := by
  cases write with
  | write operation surroundings => exact changes_write
  | sync input surroundings => exact changes_sync
  | ensureInitial environmentId surroundings => exact changes_ensureInitial
  | preview operation current surroundings => exact changes_preview
  | create number surroundings => exact changes_create
  | replace number expectedConfigVersion surroundings => exact changes_replace
  | review number surroundings => exact changes_review
  | apply number surroundings => exact changes_apply hsound
  | resolve number stale =>
    exact .kept rfl (FlagWorld.inherits_of_proposes fun _ => FlagWorld.proposes_resolve)

/-! ## 2. Runs -/

theorem sound_start : Sound (flagWrites configs).init := by
  rintro proposal (hproposal | ⟨request, hrequest, -⟩)
  · cases hproposal
  · cases hrequest

/-- What is sound stays sound where the Configurations only advance, and no proposal is new. -/
theorem sound_of_inherits {after : FlagWorld} (hsound : Sound world) (hinherits : after.Inherits world)
    (hadvances : ∀ environmentId current, world.configs environmentId = some current →
      ∃ row, after.configs environmentId = some row ∧ Advances current row) : Sound after := by
  intro proposal' hproposal'
  obtain ⟨proposal, hproposal, current', version, rfl⟩ := hinherits proposal' hproposal'
  obtain ⟨hfits, current, hcurrent, hle, hsame⟩ := hsound proposal hproposal
  refine ⟨⟨hfits.baseline, hfits.rules⟩, ?_⟩
  obtain ⟨row, hrow, rfl | hversion⟩ := hadvances _ current hcurrent
  · exact ⟨row, hrow, hle, hsame⟩
  · have hlt : proposal.before.version < row.version := by omega
    exact ⟨row, hrow, hlt.le, fun heq => absurd heq hlt.ne⟩

/-- **Soundness is kept**: a proposal fits what it was made of, whatever is written meanwhile. -/
theorem sound_flagStep (hsound : Sound world) : Sound (flagStep world write).2 := by
  have hchanges : Changes world write (flagStep world write).2 := changes_flagStep hsound
  generalize (flagStep world write).2 = after at hchanges
  cases hchanges with
  | kept hconfigs hinherits =>
    refine sound_of_inherits hsound hinherits fun environmentId current hcurrent => ?_
    exact ⟨current, (congrFun hconfigs environmentId).trans hcurrent, .inl rfl⟩
  | previewed proposal hcurrent hfits =>
    rintro other (hother | hother)
    · rcases List.mem_append.mp hother with hother | hother
      · exact hsound other (.inl hother)
      · cases List.mem_singleton.mp hother
        exact ⟨hfits, proposal.before, hcurrent, le_rfl, fun _ => rfl⟩
    · exact hsound other (.inr hother)
  | landed environmentId row hconfigs hinherits hlands =>
    refine sound_of_inherits hsound hinherits fun other current hcurrent => ?_
    rw [hconfigs]
    by_cases henvironment : other = environmentId
    · subst henvironment
      exact ⟨row, world.land_self _ row, (hlands current hcurrent).advances⟩
    · exact ⟨current, (world.land_of_ne row henvironment).trans hcurrent, .inl rfl⟩

theorem sound_run (writes : List FlagWrite) : Sound ((flagWrites configs).run writes) :=
  (flagWrites configs).exec_invariant (fun _ _ => sound_flagStep) sound_start writes

/-- What a timely step does to the Configuration of one Environment. -/
theorem row_flagStep (hsound : Sound world) (htimely : Timely world write) {row : FlagConfigRow}
    (hrow : world.configs environmentId = some row) :
    ∃ row', (flagStep world write).2.configs environmentId = some row' ∧
      KeepsBaseline row.toFlagConfigResult row'.toFlagConfigResult ∧
      (¬ MovesRules environmentId world write →
        KeepsRules row.toFlagConfigResult row'.toFlagConfigResult) := by
  have hsame : KeepsBaseline row.toFlagConfigResult row.toFlagConfigResult := keepsBaseline_of_same rfl
  have hchanges : Changes world write (flagStep world write).2 := changes_flagStep hsound
  generalize (flagStep world write).2 = after at hchanges
  cases hchanges with
  | kept hconfigs =>
    exact ⟨row, (congrFun hconfigs environmentId).trans hrow, hsame, fun _ => keepsRules_of_same rfl⟩
  | previewed => exact ⟨row, hrow, hsame, fun _ => keepsRules_of_same rfl⟩
  | landed other row' hconfigs _ hlands =>
    rw [hconfigs]
    by_cases henvironment : environmentId = other
    · subst henvironment
      have hland := hlands row hrow
      exact ⟨row', world.land_self _ row', hland.baseline htimely, hland.rules htimely⟩
    · exact ⟨row, (world.land_of_ne row' henvironment).trans hrow, hsame,
        fun _ => keepsRules_of_same rfl⟩

/-- **What timely steps keep of the row of one Environment**, a run keeps. The row is there before each
step, so that the step is read with both of its rows. -/
theorem row_exec {P : FlagConfigRow → Prop} {guard : FlagWorld → FlagWrite → Prop}
    (hstep : ∀ world write row row', guard world write → world.configs environmentId = some row →
      (flagStep world write).2.configs environmentId = some row' →
      KeepsBaseline row.toFlagConfigResult row'.toFlagConfigResult →
      (¬ MovesRules environmentId world write →
        KeepsRules row.toFlagConfigResult row'.toFlagConfigResult) → P row → P row')
    (hsound : Sound world) {row : FlagConfigRow} (hrow : world.configs environmentId = some row)
    (hP : P row) {writes : List FlagWrite} (htimely : (flagWrites configs).Guarded Timely world writes)
    (hguarded : (flagWrites configs).Guarded guard world writes) :
    ∃ row', ((flagWrites configs).exec world writes).configs environmentId = some row' ∧ P row' := by
  refine ((flagWrites configs).exec_invariant_of_guarded
    (I := fun world => Sound world ∧ ∃ row, world.configs environmentId = some row ∧ P row)
    ?_ ⟨hsound, row, hrow, hP⟩ ((flagWrites configs).guarded_and.mpr ⟨htimely, hguarded⟩)).2
  rintro world write ⟨hsound, row, hrow, hP⟩ ⟨htimely, hguard⟩
  refine ⟨sound_flagStep hsound, ?_⟩
  obtain ⟨row', hrow', hbaseline, hrules⟩ := row_flagStep hsound htimely hrow
  exact ⟨row', hrow', hstep world write row row' hguard hrow hrow' hbaseline hrules hP⟩

/-- The write leaves the Environment a baseline. -/
def BaselineStays (environmentId : String) (world : FlagWorld) (write : FlagWrite) : Prop :=
  ∀ row, (flagStep world write).2.configs environmentId = some row → row.rollout ≠ none

/-- **The salt of a baseline that stays** does not change. The invariant carries the baseline with it:
at each write there is one before and one after, and a timely write hands the salt of the first to the
second. -/
theorem baseline_salt_stays (hsound : Sound world) {row : FlagConfigRow} {old : PercentageRollout}
    (hrow : world.configs environmentId = some row) (hold : row.rollout = some old)
    {writes : List FlagWrite} (htimely : (flagWrites configs).Guarded Timely world writes)
    (hstays : (flagWrites configs).Guarded (BaselineStays environmentId) world writes) :
    ∃ row' new, ((flagWrites configs).exec world writes).configs environmentId = some row' ∧
      row'.rollout = some new ∧ new.salt = old.salt := by
  refine (row_exec (P := fun row => ∃ new, row.rollout = some new ∧ new.salt = old.salt)
    (fun _ _ _ row' hguard _ hrow' hbaseline _ ⟨new, hnew, hsalt⟩ => ?_) hsound hrow ⟨old, hold, rfl⟩
    htimely hstays).imp fun row' ⟨hrow', new, hnew, hsalt⟩ => ⟨new, hrow', hnew, hsalt⟩
  obtain ⟨next, hnext⟩ := Option.ne_none_iff_exists'.mp (hguard row' hrow')
  exact ⟨next, hnext, (hbaseline new hnew next hnext).trans hsalt⟩

/-- The write leaves the rule of that id a rollout, and moves no rules. -/
def RuleStays (environmentId id : String) (world : FlagWorld) (write : FlagWrite) : Prop :=
  ¬ MovesRules environmentId world write ∧
    ∀ row, (flagStep world write).2.configs environmentId = some row →
      persistedSalt row.targetingRules id ≠ none

/-- **The salt of a rule that stays** does not change. As for the baseline, but by the id of the rule,
whose place in the list may change, and for writes that do not replace the rules by those of another
Environment. -/
theorem rule_salt_stays (hsound : Sound world) {row : FlagConfigRow} {id old : String}
    (hrow : world.configs environmentId = some row)
    (hold : persistedSalt row.targetingRules id = some old) {writes : List FlagWrite}
    (htimely : (flagWrites configs).Guarded Timely world writes)
    (hstays : (flagWrites configs).Guarded (RuleStays environmentId id) world writes) :
    ∃ row', ((flagWrites configs).exec world writes).configs environmentId = some row' ∧
      persistedSalt row'.targetingRules id = some old := by
  refine row_exec (fun _ _ _ row' hguard _ hrow' _ hrules hold => ?_) hsound hrow hold htimely hstays
  obtain ⟨hmoves, hstays⟩ := hguard
  obtain ⟨new, hnew⟩ := Option.ne_none_iff_exists'.mp (hstays row' hrow')
  exact hnew.trans (congrArg some (hrules hmoves id old new hold hnew))

/-- What is known after a step was known before it, or is minted by it. -/
theorem knows_flagStep (hsound : Sound world) {id salt : String}
    (hknows : (flagStep world write).2.Knows id salt) : world.Knows id salt ∨ write.Mints id salt := by
  have hchanges : Changes world write (flagStep world write).2 := changes_flagStep hsound
  have hinherited : ∀ after : FlagWorld, after.Inherits world →
      (∃ proposal, after.Proposes proposal ∧ HoldsSalt proposal.proposed id salt) →
        world.Knows id salt := by
    rintro after hinherits ⟨proposal', hproposal', hholds⟩
    obtain ⟨proposal, hproposal, current, version, rfl⟩ := hinherits proposal' hproposal'
    exact .inr ⟨proposal, hproposal, hholds⟩
  generalize (flagStep world write).2 = after at hknows hchanges
  cases hchanges with
  | kept hconfigs hinherits =>
    rcases hknows with ⟨environmentId, row, hrow, hholds⟩ | hproposed
    · rw [hconfigs] at hrow
      exact .inl (.inl ⟨environmentId, row, hrow, hholds⟩)
    · exact .inl (hinherited after hinherits hproposed)
  | previewed proposal _ _ hsalts =>
    rcases hknows with hheld | ⟨other, hother | hother, hholds⟩
    · exact .inl (.inl hheld)
    · rcases List.mem_append.mp hother with hother | hother
      · exact .inl (.inr ⟨other, .inl hother, hholds⟩)
      · cases List.mem_singleton.mp hother
        exact hsalts id salt hholds
    · exact .inl (.inr ⟨other, .inr hother, hholds⟩)
  | landed environmentId row hconfigs hinherits _ hsalts =>
    rcases hknows with ⟨other, found, hfound, hholds⟩ | hproposed
    · rw [hconfigs] at hfound
      by_cases henvironment : other = environmentId
      · rw [henvironment, FlagWorld.land_self] at hfound
        cases hfound
        exact hsalts id salt hholds
      · rw [FlagWorld.land_of_ne _ _ henvironment] at hfound
        exact .inl (.inl ⟨other, found, hfound, hholds⟩)
    · exact .inl (hinherited after hinherits hproposed)

/-- **Where a salt has come from**: it was there at the start, or a write of the run has minted it. A
proposal that waits for its review knows a salt before the row does, so the induction is over what the
world knows and not over what is stored. -/
theorem salts_minted (writes : List FlagWrite) {id salt : String}
    (hknows : ((flagWrites configs).run writes).Knows id salt) :
    (∃ environmentId row, configs environmentId = some row ∧
      HoldsSalt row.toFlagConfigResult id salt) ∨ ∃ write ∈ writes, write.Mints id salt := by
  induction writes using List.reverseRecOn with
  | nil =>
    rcases hknows with hheld | ⟨proposal, hproposal | ⟨request, hrequest, -⟩, -⟩
    · exact .inl hheld
    · cases hproposal
    · cases hrequest
  | append_singleton writes write ih =>
    rw [Machine.run_concat] at hknows
    rcases knows_flagStep (sound_run writes) hknows with hbefore | hmints
    · refine (ih hbefore).imp_right fun ⟨minting, hmem, hmints⟩ => ⟨minting, ?_, hmints⟩
      exact List.mem_append_left _ hmem
    · exact .inr ⟨write, List.mem_concat_self, hmints⟩

end FlagWrites

end Splitch
