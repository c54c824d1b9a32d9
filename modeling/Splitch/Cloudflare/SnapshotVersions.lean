/-
# The snapshot an evaluation runs on

A snapshot of the configuration is announced, pulled, stored, parsed and cached, and evaluations run on it
while newer ones come in.  Of a turn of the object only a few things matter here: the integration row, the
stored payload, the cached configuration and the calls under way.  `SnapshotMove` lists what a turn can do to
them, and alarms and deliveries are shown to leave them alone.

The invariant (`Versioned`) is that the three copies of the snapshot agree: the stored payload
parses to a snapshot of the stored version, which is at most the announced one, and the cache, where
there is one, is that snapshot.  A transaction keeps what is published, or publishes a newer snapshot of the
same scope (`applyTransaction_cases`), which is where the versions are compared.

What a call was handed is said by the state it started in (`Handed`), since payload and version move on while
it waits.  When it commits, its version is compared once more with the announced one, and so what is committed
was decided on a snapshot that is not known to be stale at that moment (`Versioned.commitsFresh`).

Scope and versions never go back along a run (`exec_onward`), and with the invariant this is
`snapshot_never_goes_back`.
-/
import Splitch.Cloudflare.EvaluationTurns

namespace Splitch

namespace Cloudflare

open SplitchWorld SplitchStorage

/-! ## 1. What the tables keep -/

namespace SplitchStorage

variable (storage : SplitchStorage)

/-- Integration and payload, of which most operations keep both. -/
def published : Option IntegrationRow × Option String := (storage.integration, storage.snapshot)

@[simp] theorem published_insertClaim (claim : EvaluationClaim) :
    (storage.insertClaim claim).published = storage.published := rfl

@[simp] theorem published_pruneExpired (now : Int) :
    (storage.pruneExpired now).published = storage.published := rfl

@[simp] theorem published_recordPushClaim (deliveryId : String) (version : Nat) (now : Int) :
    (storage.recordPushClaim deliveryId version now).published = storage.published := by
  unfold recordPushClaim
  split <;> rfl

@[simp] theorem published_ensureAlarm (now : Int) :
    (storage.ensureAlarm now).published = storage.published := by
  unfold ensureAlarm
  split <;> rfl

@[simp] theorem published_finishExposure (row : ExposureRow) (outcome : ExposureOutcome)
    (now : Int) : (storage.finishExposure row outcome now).published = storage.published := by
  cases outcome <;> rfl

@[simp] theorem published_keepAssignment (experimentId idType targetingKeyHash : String)
    (entry : AssignmentEntry) :
    (keepAssignment storage experimentId idType targetingKeyHash entry).published =
      storage.published := by
  unfold keepAssignment
  split <;> rfl

end SplitchStorage

theorem published_writeExposure {env : SplitchEnv} {call : EvaluationCall} {input : CommitInput}
    {now : Int} {storage written : SplitchStorage}
    (h : writeExposure env call input now storage = .ok written) :
    written.published = storage.published := by
  unfold writeExposure at h
  split at h
  · cases h
    rfl
  · split at h
    · cases h
    · split at h
      · cases h
      · cases h
        exact published_keepAssignment ..

/-! ## 2. What a turn does to the snapshot -/

/-- A call that goes on keeps what it has read, and gets behind the check for staleness only
where it is not stale. -/
structure GoesOn (before after : EvaluationCall) : Prop where
  request : after.request = before.request
  integration : after.integration = before.integration
  configuration : after.configuration = before.configuration
  fresh : after.stage ≠ .fingerprinting →
    before.stage ≠ .fingerprinting ∨
      before.integration.announcedVersion ≤ before.integration.snapshotVersion

/-- What one turn may do to snapshot, cache and calls. -/
inductive SnapshotMove (env : SplitchEnv) (world after : SplitchWorld) : Prop
  | stays (published : after.storage.published = world.storage.published)
      (cached : after.cachedConfiguration = world.cachedConfiguration ∨
        after.cachedConfiguration = none)
      (calls : ∀ id call, after.calls id = some call →
        ∃ old, world.calls id = some old ∧ GoesOn old call)
  | announced (row : IntegrationRow) (version : Nat)
      (stored : world.storage.integration = some row)
      (integration : after.storage.integration =
        some { row with announcedVersion := max row.announcedVersion version })
      (snapshot : after.storage.snapshot = world.storage.snapshot)
      (cached : after.cachedConfiguration = world.cachedConfiguration)
      (calls : after.calls = world.calls)
  | applied (payload : String) (snapshot : ConfigSnapshot) (row : IntegrationRow)
      (parsed : parseConfigSnapshot env.core payload "Cloudflare" = .ok snapshot)
      (version : row.snapshotVersion = snapshot.environmentVersion)
      (ordered : row.snapshotVersion ≤ row.announcedVersion)
      (replaces : ∀ old, world.storage.integration = some old →
        old.snapshotVersion ≤ row.snapshotVersion ∧ old.announcedVersion ≤ row.announcedVersion ∧
          old.appId = row.appId ∧ old.environmentId = row.environmentId)
      (integration : after.storage.integration = some row)
      (stored : after.storage.snapshot = some payload)
      (cached : after.cachedConfiguration = none) (calls : after.calls = world.calls)
  | started (id : Nat) (call : EvaluationCall) (free : world.calls id = none)
      (integration : world.storage.integration = some call.integration)
      (configuration : world.configuration env call.integration.snapshotVersion =
        .ok (some call.configuration))
      (stage : call.stage = .fingerprinting) (storage : after.storage = world.storage)
      (cached : after.cachedConfiguration = some call.configuration)
      (calls : after.calls = Function.update world.calls id (some call))

theorem GoesOn.refl (call : EvaluationCall) : GoesOn call call :=
  ⟨rfl, rfl, rfl, fun h => .inl h⟩

variable {env : SplitchEnv} {world after : SplitchWorld}

/-- Where the calls are the same, each goes on. -/
theorem goesOn_of_eq (h : after.calls = world.calls) (id : Nat) (call : EvaluationCall)
    (hcall : after.calls id = some call) : ∃ old, world.calls id = some old ∧ GoesOn old call :=
  ⟨call, h ▸ hcall, GoesOn.refl call⟩

/-- A call that ends leaves the others. -/
theorem goesOn_of_ended {id : Nat} (h : after.calls = Function.update world.calls id none)
    (other : Nat) (call : EvaluationCall) (hcall : after.calls other = some call) :
    ∃ old, world.calls other = some old ∧ GoesOn old call := by
  rw [h] at hcall
  by_cases hother : other = id
  · rw [hother, Function.update_self] at hcall
    cases hcall
  · rw [Function.update_of_ne hother] at hcall
    exact ⟨call, hcall, GoesOn.refl call⟩

theorem goesOn_of_resumed {id : Nat} {old next : EvaluationCall} (hold : world.calls id = some old)
    (hnext : GoesOn old next) (h : after.calls = Function.update world.calls id (some next))
    (other : Nat) (call : EvaluationCall) (hcall : after.calls other = some call) :
    ∃ old, world.calls other = some old ∧ GoesOn old call := by
  rw [h] at hcall
  by_cases hother : other = id
  · rw [hother, Function.update_self] at hcall
    cases hcall
    exact ⟨old, hother ▸ hold, hnext⟩
  · rw [Function.update_of_ne hother] at hcall
    exact ⟨call, hcall, GoesOn.refl call⟩

/-- The transaction keeps what is published, or publishes a newer snapshot of the same scope. -/
theorem applyTransaction_cases (env : SplitchEnv) (snapshot : ConfigSnapshot)
    (payload deliveryId identityKey : String) (now : Int) (storage : SplitchStorage) :
    let after := (applyTransaction env snapshot payload deliveryId identityKey now storage).2
    after.published = storage.published ∨
      ∃ row : IntegrationRow, after.published = (some row, some payload) ∧
        row.snapshotVersion = snapshot.environmentVersion ∧
        row.snapshotVersion ≤ row.announcedVersion ∧
        ∀ old, storage.integration = some old →
          old.snapshotVersion ≤ row.snapshotVersion ∧
            old.announcedVersion ≤ row.announcedVersion ∧ old.appId = row.appId ∧
            old.environmentId = row.environmentId := by
  intro after
  unfold after applyTransaction
  split
  · rename_i hnone
    refine .inr ⟨_, published_recordPushClaim .., rfl, le_refl _, fun old hold => ?_⟩
    rw [hnone] at hold
    cases hold
  · rename_i existing hexisting
    split
    · exact .inl rfl
    · split
      · exact .inl (published_recordPushClaim ..)
      · rename_i hnewer
        refine .inr ⟨_, published_recordPushClaim .., rfl, le_max_right _ _, fun old hold => ?_⟩
        cases hexisting.symm.trans hold
        exact ⟨(not_le.mp hnewer).le, le_max_left _ _, rfl, rfl⟩

theorem applySnapshot_move (payload deliveryId identityKey : String) (now : Int) :
    SnapshotMove env world
      (world.applySnapshot env payload deliveryId identityKey now).2 := by
  unfold applySnapshot
  split
  · exact .stays rfl (.inl rfl) (goesOn_of_eq rfl)
  · rename_i snapshot hparsed
    let applied := applyTransaction env snapshot payload deliveryId identityKey now world.storage
    change SnapshotMove env world
      { world with storage := applied.2.ensureAlarm now, cachedConfiguration := none }
    rcases applyTransaction_cases env snapshot payload deliveryId identityKey now world.storage
      with hkept | ⟨row, hrow, hversion, hordered, hreplaces⟩
    · exact .stays ((published_ensureAlarm ..).trans hkept) (.inr rfl) (goesOn_of_eq rfl)
    · have hpublished := (published_ensureAlarm applied.2 now).trans hrow
      exact .applied payload snapshot row hparsed hversion hordered hreplaces
        (congrArg Prod.fst hpublished) (congrArg Prod.snd hpublished) rfl rfl

theorem announceSnapshot_move (appId environmentId : String) (environmentVersion : Nat) :
    SnapshotMove env world (world.announceSnapshot appId environmentId environmentVersion).2 := by
  unfold announceSnapshot
  split
  · exact .stays rfl (.inl rfl) (goesOn_of_eq rfl)
  · rename_i row hrow
    split
    · exact .stays rfl (.inl rfl) (goesOn_of_eq rfl)
    · refine .announced row environmentVersion hrow ?_ rfl rfl rfl
      change world.storage.integration.map _ = _
      rw [hrow]
      rfl

theorem evaluateDetails_move (id : Nat) (flagKey : String)
    (context : CloudflareEvaluationContext) (hfree : world.calls id = none) :
    SnapshotMove env world (world.evaluateDetails env id flagKey context).2 := by
  unfold evaluateDetails
  split
  · exact .stays rfl (.inl rfl) (goesOn_of_eq rfl)
  · split
    · exact .stays rfl (.inl rfl) (goesOn_of_eq rfl)
    · rename_i integration hintegration
      split
      · exact .stays rfl (.inl rfl) (goesOn_of_eq rfl)
      · exact .stays rfl (.inl rfl) (goesOn_of_eq rfl)
      · rename_i configuration hconfiguration
        exact .started id _ hfree hintegration hconfiguration rfl rfl rfl rfl

theorem resume_move (id : Nat) (now : Int) : SnapshotMove env world (world.resume env id now).2 := by
  unfold resume
  split
  · exact .stays rfl (.inl rfl) (goesOn_of_eq rfl)
  · rename_i call hcall
    split
    · unfold fingerprinted
      dsimp only
      split
      · split
        · exact .stays rfl (.inl rfl) (goesOn_of_ended rfl)
        · exact .stays (published_ensureAlarm ..) (.inl rfl) (goesOn_of_ended rfl)
      · split
        · exact .stays rfl (.inl rfl) (goesOn_of_ended rfl)
        · rename_i hfresh
          have hgoes : ∀ fingerprint, GoesOn call { call with stage := .hashing fingerprint } :=
            fun fingerprint => ⟨rfl, rfl, rfl, fun _ => .inr (not_lt.mp hfresh)⟩
          exact .stays rfl (.inl rfl) (goesOn_of_resumed hcall (hgoes _) rfl)
    · rename_i fingerprint hstage
      have hgoes : ∀ input, GoesOn call { call with stage := .committing input } :=
        fun input => ⟨rfl, rfl, rfl, fun _ => .inl (by rw [hstage]; exact nofun)⟩
      exact .stays rfl (.inl rfl) (goesOn_of_resumed hcall (hgoes _) rfl)
    · unfold commitEvaluation
      dsimp only
      split
      · split
        · exact .stays rfl (.inl rfl) (goesOn_of_ended rfl)
        · exact .stays (published_ensureAlarm ..) (.inl rfl) (goesOn_of_ended rfl)
      · split
        · exact .stays rfl (.inl rfl) (goesOn_of_ended rfl)
        · rename_i written hwritten
          refine .stays ?_ (.inl rfl) (goesOn_of_ended rfl)
          exact (published_ensureAlarm ..).trans
            ((published_insertClaim ..).trans (published_writeExposure hwritten))

/-- Deliveries leave the snapshot, its cache and the calls alone. -/
theorem deliverRest_keeps (now startedAt : Int) (rows : List ExposureRow) (world : SplitchWorld) :
    let after := deliverRest now startedAt rows world
    after.storage.published = world.storage.published ∧
      after.cachedConfiguration = world.cachedConfiguration ∧ after.calls = world.calls := by
  induction rows generalizing world with
  | nil => exact ⟨published_ensureAlarm .., rfl, rfl⟩
  | cons row rows ih =>
    unfold deliverRest
    split
    · obtain ⟨hpublished, hcached, hcalls⟩ := ih
        ((world.withStorage (·.finishExposure row .terminal startedAt)).note
          (.left row.serial .deadline))
      exact ⟨hpublished.trans (published_finishExposure ..), hcached, hcalls⟩
    · exact ⟨rfl, rfl, rfl⟩

theorem stays_of_keeps (h : after.storage.published = world.storage.published ∧
    after.cachedConfiguration = world.cachedConfiguration ∧ after.calls = world.calls) :
    SnapshotMove env world after :=
  .stays h.1 (.inl h.2.1) (goesOn_of_eq h.2.2)

theorem alarm_move (now : Int) : SnapshotMove env world (world.alarm now) := by
  unfold SplitchWorld.alarm
  split
  · exact stays_of_keeps ⟨rfl, rfl, rfl⟩
  · exact stays_of_keeps (deliverRest_keeps now now _ _)

theorem delivered_move (response : ExposureResponse) (now : Int) :
    SnapshotMove env world (world.delivered response now) := by
  unfold delivered
  split
  · exact stays_of_keeps ⟨rfl, rfl, rfl⟩
  · rename_i run hrun
    dsimp only
    obtain ⟨hpublished, hcached, hcalls⟩ := deliverRest_keeps now run.startedAt run.rest _
    refine stays_of_keeps ⟨hpublished.trans ?_, hcached.trans ?_, hcalls.trans ?_⟩
    all_goals split
    · exact published_finishExposure ..
    · exact published_finishExposure ..
    all_goals rfl

/-- **Every turn is one of the moves.** The turns of alarms and deliveries move no version, so what
follows about versions is argued over the moves of the three calls alone. -/
theorem step_move (event : SplitchEvent) :
    SnapshotMove env world ((splitchState env).next world event) := by
  cases event with
  | alarm now => exact alarm_move now
  | delivered response now => exact delivered_move response now
  | rpc event =>
    cases event with
    | applySnapshot payload deliveryId identityKey now => exact applySnapshot_move ..
    | announceSnapshot appId environmentId version => exact announceSnapshot_move ..
    | resume id now => exact resume_move id now
    | evaluateDetails id flagKey context =>
      change SnapshotMove env world (if (world.calls id).isSome then (none, world)
        else world.evaluateDetails env id flagKey context).2
      split
      · exact stays_of_keeps ⟨rfl, rfl, rfl⟩
      · rename_i hfree
        exact evaluateDetails_move id flagKey context (Option.not_isSome_iff_eq_none.mp hfree)

/-! ## 3. The invariant -/

/-- The configuration is what the stored payload parses to, and of the stored version. -/
structure ParsedFrom (env : SplitchEnv) (storage : SplitchStorage)
    (configuration : Configuration) : Prop where
  stored : ∃ payload, storage.snapshot = some payload ∧
    parseConfigSnapshot env.core payload "Cloudflare" = .ok configuration.snapshot
  provided : configSnapshotProvider configuration.snapshot = .ok configuration.provider
  version : configuration.snapshot.environmentVersion = configuration.snapshotVersion
  current : ∀ row, storage.integration = some row →
    row.snapshotVersion = configuration.snapshotVersion

structure Versioned (env : SplitchEnv) (world : SplitchWorld) : Prop where
  ordered : ∀ row, world.storage.integration = some row →
    row.snapshotVersion ≤ row.announcedVersion
  stored : ∀ row, world.storage.integration = some row → ∀ payload,
    world.storage.snapshot = some payload → ∀ snapshot,
      parseConfigSnapshot env.core payload "Cloudflare" = .ok snapshot →
        snapshot.environmentVersion = row.snapshotVersion
  cached : ∀ configuration, world.cachedConfiguration = some configuration →
    ParsedFrom env world.storage configuration
  fresh : ∀ id call, world.calls id = some call → call.stage ≠ .fingerprinting →
    call.integration.announcedVersion ≤ call.integration.snapshotVersion

/-- What `configuration` hands out is the stored snapshot. -/
theorem Versioned.configuration (h : Versioned env world) {row : IntegrationRow}
    {configuration : Configuration} (hrow : world.storage.integration = some row)
    (hconfiguration : world.configuration env row.snapshotVersion = .ok (some configuration)) :
    ParsedFrom env world.storage configuration ∧
      configuration.snapshotVersion = row.snapshotVersion := by
  unfold SplitchWorld.configuration at hconfiguration
  split at hconfiguration
  · rename_i cached hcached
    cases hconfiguration
    obtain ⟨hcached, hversion⟩ := Option.filter_eq_some_iff.mp hcached
    exact ⟨h.cached _ hcached, of_decide_eq_true hversion⟩
  · split at hconfiguration
    · cases hconfiguration
    · rename_i payload hpayload
      obtain ⟨snapshot, hparsed, hconfiguration⟩ := Checks.bind_eq_ok.mp hconfiguration
      obtain ⟨provider, hprovider, hconfiguration⟩ := Checks.bind_eq_ok.mp hconfiguration
      cases hconfiguration
      refine ⟨⟨⟨payload, hpayload, hparsed⟩, hprovider, ?_, fun other hother => ?_⟩, rfl⟩
      · exact h.stored row hrow payload hpayload snapshot hparsed
      · cases hrow.symm.trans hother
        rfl

theorem ParsedFrom.congr {storage storage' : SplitchStorage} {configuration : Configuration}
    (h : ParsedFrom env storage configuration) (hsame : storage'.published = storage.published) :
    ParsedFrom env storage' configuration := by
  have hintegration : storage'.integration = storage.integration := congrArg Prod.fst hsame
  have hsnapshot : storage'.snapshot = storage.snapshot := congrArg Prod.snd hsame
  exact ⟨hsnapshot ▸ h.stored, h.provided, h.version, hintegration ▸ h.current⟩

theorem Versioned.move (h : Versioned env world) (hmove : SnapshotMove env world after) :
    Versioned env after := by
  cases hmove with
  | stays hpublished hcached hcalls =>
    have hintegration : after.storage.integration = world.storage.integration :=
      congrArg Prod.fst hpublished
    have hsnapshot : after.storage.snapshot = world.storage.snapshot :=
      congrArg Prod.snd hpublished
    refine ⟨fun row hrow => h.ordered row (hintegration ▸ hrow), fun row hrow payload hpayload =>
      h.stored row (hintegration ▸ hrow) payload (hsnapshot ▸ hpayload),
      fun configuration hconfiguration => ?_, fun id call hcall hstage => ?_⟩
    · rcases hcached with hcached | hcached
      · exact (h.cached _ (hcached ▸ hconfiguration)).congr hpublished
      · rw [hcached] at hconfiguration
        cases hconfiguration
    · obtain ⟨old, hold, hgoes⟩ := hcalls id call hcall
      rw [hgoes.integration]
      rcases hgoes.fresh hstage with hbehind | hfresh
      · exact h.fresh id old hold hbehind
      · exact hfresh
  | announced row version hrow hintegration hsnapshot hcached hcalls =>
    refine ⟨fun next hnext => ?_, fun next hnext payload hpayload => ?_,
      fun configuration hconfiguration => ?_, fun id call hcall => h.fresh id call (hcalls ▸ hcall)⟩
    · cases hintegration.symm.trans hnext
      exact (h.ordered row hrow).trans (le_max_left _ _)
    · cases hintegration.symm.trans hnext
      exact h.stored row hrow payload (hsnapshot ▸ hpayload)
    · obtain ⟨hstored, hprovided, hversion, hcurrent⟩ := h.cached _ (hcached ▸ hconfiguration)
      refine ⟨hsnapshot ▸ hstored, hprovided, hversion, fun next hnext => ?_⟩
      cases hintegration.symm.trans hnext
      exact hcurrent row hrow
  | applied payload snapshot row hparsed hversion hordered _ hintegration hstored hcached hcalls =>
    refine ⟨fun next hnext => ?_, fun next hnext other hother parsed hparsed' => ?_,
      fun configuration hconfiguration => ?_, fun id call hcall => h.fresh id call (hcalls ▸ hcall)⟩
    · cases hintegration.symm.trans hnext
      exact hordered
    · cases hintegration.symm.trans hnext
      cases hstored.symm.trans hother
      cases hparsed.symm.trans hparsed'
      exact hversion.symm
    · rw [hcached] at hconfiguration
      cases hconfiguration
  | started id call _ hintegration hconfiguration hstage hstorage hcached hcalls =>
    rw [← hstorage] at hintegration
    refine ⟨?_, ?_, fun configuration hsome => ?_, fun other call' hcall' hbehind => ?_⟩
    · rw [hstorage]
      exact h.ordered
    · rw [hstorage]
      exact h.stored
    · cases hcached.symm.trans hsome
      rw [hstorage] at hintegration ⊢
      exact (h.configuration hintegration hconfiguration).1
    · rw [hcalls] at hcall'
      by_cases hother : other = id
      · rw [hother, Function.update_self] at hcall'
        cases hcall'
        exact absurd hstage hbehind
      · rw [Function.update_of_ne hother] at hcall'
        exact h.fresh other call' hcall' hbehind

theorem versioned_empty : Versioned env SplitchWorld.empty := by
  refine ⟨fun row hrow => ?_, fun row hrow => ?_, fun configuration hcached => ?_,
    fun id call hcall => ?_⟩
  · cases hrow
  · cases hrow
  · cases hcached
  · cases hcall

theorem versioned (env : SplitchEnv) (events : List SplitchEvent) :
    Versioned env ((splitchState env).run events) := by
  refine Machine.exec_invariant (I := Versioned env) _ (fun world event h => ?_) ?_ events
  · exact h.move (step_move event)
  · exact versioned_empty

/-! ## 4. Versions never go back -/

/-- The scope stays, and no version decreases. -/
structure Onward (old new : IntegrationRow) : Prop where
  appId : old.appId = new.appId
  environmentId : old.environmentId = new.environmentId
  snapshotVersion : old.snapshotVersion ≤ new.snapshotVersion
  announcedVersion : old.announcedVersion ≤ new.announcedVersion

theorem SnapshotMove.onward (hmove : SnapshotMove env world after) {row : IntegrationRow}
    (hrow : world.storage.integration = some row) :
    ∃ next, after.storage.integration = some next ∧ Onward row next := by
  cases hmove with
  | stays hpublished =>
    exact ⟨row, (congrArg Prod.fst hpublished).trans hrow, rfl, rfl, le_refl _, le_refl _⟩
  | announced row' version hrow' hintegration =>
    cases hrow.symm.trans hrow'
    exact ⟨_, hintegration, rfl, rfl, le_refl _, le_max_left _ _⟩
  | applied payload snapshot next _ _ _ hreplaces hintegration =>
    obtain ⟨hsnapshot, hannounced, happ, henvironment⟩ := hreplaces row hrow
    exact ⟨next, hintegration, happ, henvironment, hsnapshot, hannounced⟩
  | started id call _ _ _ _ hstorage =>
    exact ⟨row, hstorage ▸ hrow, rfl, rfl, le_refl _, le_refl _⟩

theorem exec_onward {env : SplitchEnv} (events : List SplitchEvent) {world : SplitchWorld}
    {row : IntegrationRow} (hrow : world.storage.integration = some row) :
    ∃ next, ((splitchState env).exec world events).storage.integration = some next ∧
      Onward row next := by
  induction events generalizing world row with
  | nil => exact ⟨row, hrow, rfl, rfl, le_refl _, le_refl _⟩
  | cons event events ih =>
    obtain ⟨next, hnext, honward⟩ := (step_move event).onward hrow
    obtain ⟨last, hlast, honward'⟩ := ih hnext
    exact ⟨last, hlast, honward.appId.trans honward'.appId,
      honward.environmentId.trans honward'.environmentId,
      honward.snapshotVersion.trans honward'.snapshotVersion,
      honward.announcedVersion.trans honward'.announcedVersion⟩

/-! ## 5. What an evaluation was handed -/

/-- In `world` the call reads its integration row, and is handed the stored snapshot. -/
structure Handed (env : SplitchEnv) (world : SplitchWorld) (call : EvaluationCall) : Prop where
  integration : world.storage.integration = some call.integration
  parsed : ParsedFrom env world.storage call.configuration
  version : call.configuration.snapshotVersion = call.integration.snapshotVersion

theorem handed (env : SplitchEnv) (events : List SplitchEvent) (id : Nat) (call : EvaluationCall)
    (hcall : ((splitchState env).run events).calls id = some call) :
    ∃ before, before <+: events ∧ Handed env ((splitchState env).run before) call := by
  induction events using List.reverseRecOn generalizing call with
  | nil => cases hcall
  | append_singleton events event ih =>
    -- What a call that goes on was handed, it was handed earlier.
    have hearlier : ∀ old, ((splitchState env).run events).calls id = some old →
        GoesOn old call → ∃ before, before <+: events ++ [event] ∧
          Handed env ((splitchState env).run before) call := by
      intro old hold hgoes
      obtain ⟨before, hbefore, hhanded⟩ := ih old hold
      refine ⟨before, hbefore.trans (List.prefix_append _ _), ?_, ?_, ?_⟩
      · rw [hgoes.integration]
        exact hhanded.integration
      · rw [hgoes.configuration]
        exact hhanded.parsed
      · rw [hgoes.configuration, hgoes.integration]
        exact hhanded.version
    rw [Machine.run_concat] at hcall
    have hmove : SnapshotMove env ((splitchState env).run events) _ := step_move event
    cases hmove with
    | stays _ _ hcalls =>
      obtain ⟨old, hold, hgoes⟩ := hcalls id call hcall
      exact hearlier old hold hgoes
    | announced _ _ _ _ _ _ hcalls => exact hearlier call (hcalls ▸ hcall) (GoesOn.refl call)
    | applied _ _ _ _ _ _ _ _ _ _ hcalls =>
      exact hearlier call (hcalls ▸ hcall) (GoesOn.refl call)
    | started id' call' _ hintegration hconfiguration _ _ _ hcalls =>
      rw [hcalls] at hcall
      by_cases hid : id = id'
      · rw [hid, Function.update_self] at hcall
        cases hcall
        have hparsed := (versioned env events).configuration hintegration hconfiguration
        exact ⟨events, List.prefix_append _ _, hintegration, hparsed.1, hparsed.2⟩
      · rw [Function.update_of_ne hid] at hcall
        exact hearlier call hcall (GoesOn.refl call)

/-! ## 6. What is committed -/

theorem deliverRest_claims (now startedAt : Int) (rows : List ExposureRow)
    (world : SplitchWorld) :
    (deliverRest now startedAt rows world).storage.evaluationClaims ⊆
      world.storage.evaluationClaims := by
  induction rows generalizing world with
  | nil =>
    have htables := tables_ensureAlarm (world.storage.pruneExpired startedAt) startedAt
    have hclaims : (deliverRest now startedAt [] world).storage.evaluationClaims =
        (world.storage.pruneExpired startedAt).evaluationClaims :=
      congrArg (fun tables => tables.2.1) htables
    rw [hclaims]
    exact List.filter_sublist.subset
  | cons row rows ih =>
    unfold deliverRest
    split
    · exact ih _
    · exact List.Subset.refl _

/-- Alarms and deliveries claim nothing. -/
theorem claims_of_alarm (now : Int) :
    (world.alarm now).storage.evaluationClaims ⊆ world.storage.evaluationClaims := by
  unfold SplitchWorld.alarm
  split
  · exact List.Subset.refl _
  · exact List.Subset.trans (deliverRest_claims ..) List.filter_sublist.subset

theorem claims_of_delivered (response : ExposureResponse) (now : Int) :
    (world.delivered response now).storage.evaluationClaims ⊆
      world.storage.evaluationClaims := by
  unfold delivered
  split
  · exact List.Subset.refl _
  · refine List.Subset.trans (deliverRest_claims ..) ?_
    cases deliverExposure response <;> exact List.Subset.refl _

/-- A key that the event claims is claimed by the commit of a call whose snapshot was not behind
the version it had read as announced. -/
def CommitsFresh (env : SplitchEnv) (world : SplitchWorld) (event : SplitchEvent)
    (idempotencyKey : String) : Prop :=
  world.storage.claim idempotencyKey = none →
    ((splitchState env).next world event).storage.claim idempotencyKey ≠ none →
      ∃ id now call, event = .rpc (.resume id now) ∧ world.calls id = some call ∧
        call.request.idempotencyKey = idempotencyKey ∧
        call.integration.announcedVersion ≤ call.integration.snapshotVersion

theorem Versioned.commitsFresh (h : Versioned env world) (event : SplitchEvent)
    (idempotencyKey : String) : CommitsFresh env world event idempotencyKey := by
  intro hnone hsome
  rw [claim_eq_none] at hnone
  -- Who claims nothing is out of the question.
  have hfewer : ¬ ((splitchState env).next world event).storage.evaluationClaims ⊆
      world.storage.evaluationClaims := by
    intro hsubset
    refine hsome ((claim_eq_none _).mpr fun claim hclaim => ?_)
    exact hnone claim (hsubset hclaim)
  cases event with
  | alarm now => exact absurd (claims_of_alarm now) hfewer
  | delivered response now => exact absurd (claims_of_delivered response now) hfewer
  | rpc event =>
    have hsame : ((splitchState env).next world (.rpc event)).storage.tables =
        world.storage.tables → False := by
      intro htables
      have hclaims := congrArg (fun tables => tables.2.1) htables
      refine hfewer fun claim hclaim => ?_
      exact (congrArg (claim ∈ ·) hclaims).mp hclaim
    have hmove : RpcMove env world _ event := stepRpc_move event
    cases hmove with
    | quiet htables => exact absurd htables hsame
    | replayed _ _ _ _ htables => exact absurd htables hsame
    | committed id now call input written hresumed hrunning hstage _ hwrites htables =>
      have hclaims : ((splitchState env).next world (.rpc event)).storage.evaluationClaims =
          written.evaluationClaims ++ [_] := congrArg (fun tables => tables.2.1) htables
      have hwritten : written.evaluationClaims = world.storage.evaluationClaims := by
        rcases writeExposure_ok hwrites with ⟨-, rfl⟩ | ⟨_, _, -, -, -, -, -, -, -, -, -, -, h, -⟩
        · rfl
        · exact h
      rw [hwritten] at hclaims
      have hfresh := h.fresh id call hrunning (by rw [hstage]; exact nofun)
      refine ⟨id, now, call, by rw [hresumed], hrunning, ?_, hfresh⟩
      by_contra hother
      refine hsome ((claim_eq_none _).mpr fun claim hclaim => ?_)
      rw [hclaims] at hclaim
      rcases List.mem_append.mp hclaim with hold | hnew
      · exact hnone claim hold
      · rw [List.mem_singleton.mp hnew]
        exact hother

/-- **The runtime never goes back, and evaluates nothing on a snapshot it knows is stale.**  In
every run the stored version is at most the announced one; scope and versions only go onward; each
call was handed the snapshot that was stored at the version it read; and what is committed was not
behind. -/
theorem snapshot_never_goes_back (env : SplitchEnv) (events : List SplitchEvent) :
    let run := (splitchState env).run
    (∀ row, (run events).storage.integration = some row →
        row.snapshotVersion ≤ row.announcedVersion) ∧
      (∀ before row, before <+: events → (run before).storage.integration = some row →
        ∃ next, (run events).storage.integration = some next ∧ Onward row next) ∧
      (∀ id call, (run events).calls id = some call →
        ∃ before, before <+: events ∧ Handed env (run before) call) ∧
      ∀ before event idempotencyKey, before ++ [event] <+: events →
        CommitsFresh env (run before) event idempotencyKey := by
  refine ⟨(versioned env events).ordered, ?_, handed env events, ?_⟩
  · rintro before row ⟨rest, rfl⟩ hrow
    rw [Machine.run_append]
    exact exec_onward rest hrow
  · intro before event idempotencyKey _
    exact (versioned env before).commitsFresh event idempotencyKey

end Cloudflare

end Splitch
