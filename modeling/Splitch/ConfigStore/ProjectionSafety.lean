/-
# The projections are safe

A projection makes a key of the permanent store visible in KV.  For a Temporary Environment the teardown
has to find all such keys again, so a put must not come before its entry in the journal, nor after the
teardown has begun.

Both are read off the program of the put itself.  The journal entry is awaited before the put, and entries
stay while the state is open, whatever happens elsewhere between the two calls (`keeps_kvPut`).  The fence
in front of a mutation passes only a state that is open.  Everything else a projection does is plain: it
reads, or writes what no key depends on; so for a program that is put together of these it is enough that
its parts keep `World.Open` (section 2).  Thus every job that projects keeps the invariant of a Temporary
Environment, whatever its calls are answered (section 3).
-/
import Splitch.ConfigStore.TeardownInvariant

namespace Splitch

namespace ConfigStore

open Hosts

variable {α β : Type} {K : World → Prop}

/-! ## 1. Sequences -/

theorem Keeps.map (hK : host.Stable K) {x : Prog α} (hx : Keeps K x) (f : α → β) :
    Keeps K (f <$> x) := by
  refine fun w h => Safe.bind (p := x) ((hx w h).mono fun result w' hknown => ?_)
  cases result with
  | ok a => exact Keeps.pure hK (f a) w' hknown
  | error fault => exact Keeps.throw hK fault w' hknown

/-- What follows a fence is reached with the state not cleared. -/
theorem Keeps.fence_bind (hK : Lasting K) (hopen : ∀ w : World, w.Open → K w)
    {f : Option EnvironmentWriteFailure → Prog β} (hsome : ∀ failure, Keeps K (f (some failure)))
    (hnone : Keeps World.Open (f none)) : Keeps K (environmentWriteFailure >>= f) := by
  refine fun w h => Safe.bindE ((safe_writeFailure hK h).mono fun result w' hpassed => ?_)
  obtain ⟨hholds, hk, hnotCleared⟩ := hpassed
  cases result with
  | error fault => exact ⟨hholds, hk⟩
  | ok refused =>
    cases refused with
    | some failure => exact hsome failure w' ⟨hholds, hk⟩
    | none =>
      exact (hnone w' ⟨hholds, hnotCleared rfl⟩).mono fun _ w h => ⟨h.1, hopen w h.2⟩

/-- The namespace of a Temporary Environment is never the permanent one. -/
theorem Keeps.currentKv_bind (hK : Lasting K) {f : Adapter → Prog β}
    (hf : ∀ kv, kv ≠ .permanent → Keeps K (f kv)) : Keeps K (currentKv >>= f) := by
  refine fun w h => Safe.bindE ((safe_ask .adapter
    (fun reply w => K w ∧ ∀ kv : Adapter, reply = .ok kv → kv ≠ .permanent)
    hK.stable h (fun _ _ => trivial) (fun _ => hK.stable.and fun _ _ hkv _ => hkv)
    fun w reply w' hw hans => ?_).mono fun result w' hpost => ?_)
  · obtain ⟨rfl, rfl⟩ := hans
    refine ⟨hw.2, ?_⟩
    rintro kv ⟨⟩
    exact hw.1.adapter
  · cases result with
    | ok kv => exact hf kv (hpost.2.2 kv rfl) w' ⟨hpost.1, hpost.2.1⟩
    | error fault => exact ⟨hpost.1, hpost.2.1⟩

/-! ## 2. Projections -/

section Projections

variable (sortBindings : List ActivationBinding → List ActivationBinding) (scope : EnvScope)

/-- **A put**: its key is in the journal before. The entry is written first and awaited, and an entry
stays while the state is not cleared; so whatever happens between the two calls, the put is covered. -/
theorem keeps_kvPut {kv : Adapter} (hkv : kv ≠ .permanent) (key : String) (value : KvValue)
    (expirationTtl : Option Nat) : Keeps World.Open (kvPut kv key value expirationTtl) := by
  cases kv with
  | permanent => exact absurd rfl hkv
  | unresolved => exact Keeps.throw lasting_open.stable _
  | journaled =>
    have hjournaled := lasting_open.and (lasting_journaled key)
    refine fun w h => Safe.bindE ((safe_ask (.putJournal key)
      (fun reply w => w.Open ∧ (reply = .ok () → w.Journaled key))
      lasting_open.stable h (fun _ _ => trivial) (fun reply => lasting_open.stable.and
        fun w w' hrecorded hstep hreply => (lasting_journaled key).stable w w' (hrecorded hreply) hstep)
      fun w reply w' hw hans => ?_).mono fun result w' hpost => ?_)
    · refine ⟨lasting_open.answers _ _ _ _ (by simp) hw.2 hans, ?_⟩
      rintro rfl
      rw [show w' = w.record key from hans]
      exact Finset.mem_insert_self _ _
    · obtain ⟨hholds, hopen, hrecorded⟩ := hpost
      cases result with
      | error fault => exact ⟨hholds, hopen⟩
      | ok _ =>
        have hput : Keeps (fun w => w.Open ∧ w.Journaled key) (rawPut key ⟨value, expirationTtl⟩) :=
          keeps_ask (.putKv _ _) hjournaled.stable (fun w hw => ⟨hw.2.2, hw.2.1⟩)
            fun w reply w' hw hans => hjournaled.answers _ _ _ _ (by simp) hw.2 hans
        exact (hput w' ⟨hholds, hopen, hrecorded rfl⟩).mono fun _ _ h => ⟨h.1, h.2.1⟩

theorem keeps_updateActivationConfig {kv : Adapter} (hkv : kv ≠ .permanent)
    (replacedExperimentIds : List String) (published : List ActivationBinding) :
    Keeps World.Open
      (updateActivationConfig sortBindings scope kv replacedExperimentIds published) := by
  have hrest : ∀ current : List ActivationBinding, Keeps World.Open
      (kvPut kv scope.activationConfigKey (.activationConfig (sortBindings
        (current.filter (·.experimentId ∉ replacedExperimentIds) ++ published))) none) :=
    fun current => keeps_kvPut hkv _ _ _
  refine Keeps.bind (keeps_call lasting_open (.getKv _) trivial) fun raw => ?_
  dsimp only
  split
  · exact (Keeps.pure lasting_open.stable _).bind hrest
  · exact (Keeps.pure lasting_open.stable _).bind hrest
  · exact (Keeps.throw lasting_open.stable _).bind hrest

theorem keeps_putExperiment {kv : Adapter} (hkv : kv ≠ .permanent) (experimentId : Option String) :
    Keeps World.Open (putExperiment scope kv experimentId) := by
  cases experimentId with
  | none => exact Keeps.pure lasting_open.stable _
  | some experimentId => exact keeps_kvPut hkv _ _ _

theorem keeps_putRun {kv : Adapter} (hkv : kv ≠ .permanent) (snapshot : Snapshot) :
    Keeps World.Open (putRun scope kv snapshot) := by
  unfold putRun
  split
  · exact (keeps_kvPut hkv _ _ _).bind fun _ => keeps_kvPut hkv _ _ _
  · exact keeps_call lasting_open (.deleteKv _) trivial
  · exact Keeps.pure lasting_open.stable _

theorem keeps_putActivation {kv : Adapter} (hkv : kv ≠ .permanent) (snapshot : Snapshot) :
    Keeps World.Open (putActivation sortBindings scope kv snapshot) := by
  unfold putActivation
  split
  · exact Keeps.pure lasting_open.stable _
  · exact keeps_updateActivationConfig sortBindings scope hkv _ _

theorem keeps_writeSnapshot {kv : Adapter} (hkv : kv ≠ .permanent) (snapshot : Snapshot)
    (revision : Nat) : Keeps World.Open (writeSnapshot sortBindings scope kv snapshot revision) :=
  (keeps_kvPut hkv _ _ _).bind fun _ => (keeps_kvPut hkv _ _ _).bind fun _ =>
    (keeps_putExperiment scope hkv _).bind fun _ => (keeps_putRun scope hkv snapshot).bind fun _ =>
      keeps_putActivation sortBindings scope hkv snapshot

theorem keeps_nextSnapshotRevision (hK : Lasting K) (flagId : String)
    (operation : SnapshotOperation) : Keeps K (nextSnapshotRevision flagId operation) := by
  refine Keeps.bind (keeps_call hK (.readRevision flagId) trivial) fun read => ?_
  obtain ⟨current, state⟩ := read
  dsimp only
  split
  · exact Keeps.throw hK.stable _
  · split
    · exact Keeps.throw hK.stable _
    · exact Keeps.bind (keeps_call hK (.putRevision _ _ _) trivial) fun _ => Keeps.pure hK.stable _

/-- The removal of a snapshot without a revision puts nothing; with one it is a projection. -/
theorem keeps_deleteFlagConfigSnapshot (hK : Lasting K) {kv : Adapter} (hkv : kv ≠ .permanent)
    (flagId : String) {revision : Option Nat} (hrevision : revision.isSome → K = World.Open)
    (flagKey : String) (experimentIds : List String) (deleteEvaluationSnapshot : Bool) :
    Keeps K (deleteFlagConfigSnapshot sortBindings scope kv flagId revision flagKey experimentIds
      deleteEvaluationSnapshot) := by
  have hdelete : ∀ key, Keeps K (deleteKv key) := fun key => keeps_call hK (.deleteKv key) trivial
  have hloop : Keeps K (experimentIds.forM fun experimentId => do
      deleteKv (scope.experimentConfigKey experimentId)
      deleteKv (scope.liveRunKey experimentId)) :=
    Keeps.forM hK.stable fun experimentId => (hdelete _).bind fun _ => hdelete _
  have hends : ∀ last : Prog Unit, Keeps K last → Keeps K (do
      if deleteEvaluationSnapshot then deleteKv (scope.flagConfigKey flagKey)
      experimentIds.forM fun experimentId => do
        deleteKv (scope.experimentConfigKey experimentId)
        deleteKv (scope.liveRunKey experimentId)
      last) := by
    intro last hlast
    dsimp only
    split
    · exact (hdelete _).bind fun _ => hloop.bind fun _ => hlast
    · exact (Keeps.pure hK.stable ()).bind fun _ => hloop.bind fun _ => hlast
  cases revision with
  | none => exact (hdelete _).bind fun _ => hends _ (hdelete _)
  | some revision =>
    obtain rfl := hrevision rfl
    exact (keeps_kvPut hkv _ _ _).bind fun _ =>
      hends _ (keeps_updateActivationConfig sortBindings scope hkv _ _)

/-! ## 3. Jobs -/

theorem keeps_requireWritableEnvironment : Keeps World.Open requireWritableEnvironment :=
  Keeps.fence_bind lasting_open (fun _ h => h) (fun _ => Keeps.throw lasting_open.stable _)
    (Keeps.pure lasting_open.stable _)

theorem keeps_authoring (steps : List AuthoringStep) : Keeps World.Open (authoring steps) := by
  induction steps with
  | nil => exact Keeps.pure lasting_open.stable _
  | cons step steps ih =>
    cases step with
    | fence => exact keeps_requireWritableEnvironment.bind fun _ => ih
    | statement =>
      refine Keeps.bind (keeps_call lasting_open .author trivial) fun goesOn => ?_
      split
      · exact ih
      · exact Keeps.pure lasting_open.stable _

/-- What every mutation does before it works: its fence. -/
theorem keeps_runEnvironmentMutation {operation : Prog WriteResult}
    (h : Keeps World.Open operation) : Keeps (fun _ => True) (runEnvironmentMutation operation) := by
  have hpure := fun (result : WriteResult) => Keeps.pure lasting_true.stable result
  refine Keeps.tryCatch (Keeps.fence_bind lasting_true (fun _ _ => trivial) (fun _ => hpure _)
    (h.tryCatch fun fault => ?_)) fun fault => ?_
  · split
    · exact Keeps.pure lasting_open.stable _
    · exact Keeps.pure lasting_open.stable _
    · exact Keeps.throw lasting_open.stable _
  · split
    · exact hpure _
    · exact Keeps.throw lasting_true.stable _

theorem keeps_writeLoadedSnapshot :
    Keeps World.Open (writeLoadedSnapshot sortBindings scope) := by
  have hpure := fun (result : WriteResult) => Keeps.pure lasting_open.stable result
  refine Keeps.fence_bind lasting_open (fun _ h => h) (fun _ => hpure _) ?_
  refine Keeps.bind (keeps_call lasting_open .loadSnapshot trivial) fun loaded => ?_
  cases loaded with
  | none => exact hpure _
  | some snapshot =>
    refine (keeps_nextSnapshotRevision lasting_open _ _).bind fun revision => ?_
    refine Keeps.fence_bind lasting_open (fun _ h => h) (fun _ => hpure _) ?_
    refine Keeps.currentKv_bind lasting_open fun kv hkv => ?_
    refine (keeps_writeSnapshot sortBindings scope hkv _ _).bind fun _ => ?_
    exact Keeps.bind (keeps_call lasting_open .broadcast trivial) fun _ => hpure _

theorem keeps_mutateFlagConfig (steps : List AuthoringStep) (removesActivation : Bool) :
    Keeps (fun _ => True) (mutateFlagConfig sortBindings scope steps removesActivation) := by
  refine keeps_runEnvironmentMutation ((keeps_authoring steps).bind fun goesOn => ?_)
  dsimp only
  have hwrite := keeps_writeLoadedSnapshot sortBindings scope
  split
  · split
    · exact Keeps.bind (keeps_call lasting_open (.deleteKv _) trivial) fun _ => hwrite
    · exact (Keeps.pure lasting_open.stable ()).bind fun _ => hwrite
  · exact Keeps.pure lasting_open.stable _

theorem keeps_previewFlagConfig (steps : List AuthoringStep) :
    Keeps (fun _ => True) (previewFlagConfig steps) :=
  keeps_runEnvironmentMutation ((keeps_authoring steps).bind fun _ =>
    Keeps.pure lasting_open.stable _)

theorem keeps_repairFlagConfigSnapshot (flagId : String) :
    Keeps (fun _ => True) (repairFlagConfigSnapshot sortBindings scope flagId) := by
  have hpure := fun (result : WriteResult) => Keeps.pure lasting_open.stable result
  refine keeps_runEnvironmentMutation (Keeps.bind (keeps_call lasting_open .loadSnapshot trivial)
    fun loaded => ?_)
  cases loaded with
  | none => exact hpure _
  | some snapshot =>
    refine (keeps_nextSnapshotRevision lasting_open _ _).bind fun revision => ?_
    refine Keeps.fence_bind lasting_open (fun _ h => h) (fun _ => hpure _) ?_
    refine Keeps.currentKv_bind lasting_open fun kv hkv => ?_
    exact (keeps_writeSnapshot sortBindings scope hkv _ _).bind fun _ => hpure _

theorem keeps_repairOnRead (flagId : String) :
    Keeps (fun _ => True) (repairOnRead sortBindings scope flagId) := by
  have hpure := fun (result : WriteResult) => Keeps.pure lasting_open.stable result
  refine Keeps.fence_bind lasting_true (fun _ _ => trivial)
    (fun _ => Keeps.pure lasting_true.stable _) ?_
  refine Keeps.bind (keeps_call lasting_open .loadSnapshot trivial) fun loaded => ?_
  cases loaded with
  | none => exact hpure _
  | some snapshot =>
    refine Keeps.fence_bind lasting_open (fun _ h => h) (fun _ => hpure _) ?_
    refine Keeps.currentKv_bind lasting_open fun kv hkv => ?_
    refine (keeps_nextSnapshotRevision lasting_open _ _).bind fun revision => ?_
    exact (keeps_writeSnapshot sortBindings scope hkv _ _).bind fun _ => hpure _

/-- The removal of a Flag's snapshot: with a revision if the fence let it pass, else without. -/
theorem keeps_deleteFlagConfigFromStore (flagId : String) (flagKey : Option String)
    (experimentIds : List String) :
    Keeps (fun _ => True)
      (deleteFlagConfigFromStore sortBindings scope flagId flagKey experimentIds) := by
  have hrest : ∀ {K : World → Prop}, Lasting K → ∀ (key : String) (revision : Option Nat),
      (revision.isSome → K = World.Open) → Keeps K (do
        let replaced ← replacementExists
        let kv ← currentKv
        deleteFlagConfigSnapshot sortBindings scope kv flagId revision key experimentIds (! replaced)
        broadcast
        return .ok revision : Prog WriteResult) := by
    intro K hK key revision hrevision
    refine Keeps.bind (keeps_call hK .replacementExists trivial) fun replaced => ?_
    refine Keeps.currentKv_bind hK fun kv hkv => ?_
    refine (keeps_deleteFlagConfigSnapshot sortBindings scope hK hkv _ hrevision _ _ _).bind
      fun _ => ?_
    exact Keeps.bind (keeps_call hK .broadcast trivial) fun _ => Keeps.pure hK.stable _
  have hsome : ∀ key, Keeps (fun _ => True)
      (deleteFlagConfigFromStore sortBindings scope flagId (some key) experimentIds) := by
    intro key
    refine (Keeps.pure lasting_true.stable (some key)).bind fun flag => ?_
    cases flag with
    | none => exact Keeps.pure lasting_true.stable _
    | some key =>
      refine Keeps.bind (keeps_call lasting_true .loadSnapshot trivial) fun existing => ?_
      dsimp only
      split
      · refine Keeps.bind (Keeps.throw lasting_true.stable _) fun _ => ?_
        exact Keeps.fence_bind lasting_true (fun _ _ => trivial)
          (fun _ => hrest lasting_true key none (by simp))
          (Keeps.bind ((keeps_nextSnapshotRevision lasting_open _ _).map lasting_open.stable _)
            fun revision => hrest lasting_open key revision fun _ => rfl)
      · exact Keeps.fence_bind lasting_true (fun _ _ => trivial)
          (fun _ => hrest lasting_true key none (by simp))
          (Keeps.bind ((keeps_nextSnapshotRevision lasting_open _ _).map lasting_open.stable _)
            fun revision => hrest lasting_open key revision fun _ => rfl)
  cases flagKey with
  | some key => exact hsome key
  | none =>
    refine Keeps.bind (keeps_call lasting_true .getFlagKey trivial) fun flag => ?_
    cases flag with
    | none => exact Keeps.pure lasting_true.stable _
    | some key => exact hsome key

end Projections

end ConfigStore

end Splitch
