/-
# What a reset may do to the record

A reset is a workflow of several awaited calls, any of which may fail, and it is taken up again by whoever
calls next.  To argue about each place where it can stop would mean to argue about the program over and
over.  Instead `IdentityAct` lists what one awaited call may do to the owner of the record, with the
conditions that the code has checked by then: to block the identity, to have the App purged, to prove it,
to replace the key, to release and to reopen.

Wherever a workflow stops, it has been a sequence of these acts (`Acting`, `acts_of_event`).  This is
proved once, along the program and with a fate for each of its calls.  What every act keeps holds at every
point where a reset can be resumed from; that two acts in a row belong to one workflow is nowhere used, so
it does not matter which of two callers has made which.
-/
import Splitch.Library.Guarantees
import Splitch.Identity.AppIdentityReset

namespace Splitch

namespace AppIdentityReset

open StateActions Checks

/-! ## 1. Acts -/

/-- A reset is under way and its App's keys are not replaced yet. -/
def Destroying (lifecycle : AppIdentityLifecycle) : Prop :=
  lifecycle.state ≠ .active ∧ lifecycle.state ≠ .activation_pending

inductive IdentityAct (appId : String) (owner : IdentityOwner) : IdentityOwner → Prop
  | provision {rootSecret : List UInt8} {generated : GeneratedKey} {record : AppIdentityRecord}
      (hstored : owner.stored = none)
      (hrecord : mintInitialAppIdentityRecord rootSecret generated = .ok record)
      (hcanonical : record.Canonical) : IdentityAct appId owner (owner.write record)
  | block {record : AppIdentityRecord} {resetId : String} {lifecycle : AppIdentityLifecycle}
      (hstored : owner.stored = some record) (hactive : record.lifecycle.state = .active)
      (hlifecycle : blockedAppIdentityLifecycle resetId = .ok lifecycle)
      (hcanonical : { record with lifecycle }.Canonical) :
      IdentityAct appId owner (owner.write { record with lifecycle })
  | purger {record : AppIdentityRecord} {store : AppIdentityResetStore} {proof : Option String}
      (hstored : owner.stored = some record) (hdestroying : Destroying record.lifecycle)
      (hmissing : record.lifecycle.proofs store = none) :
      IdentityAct appId owner (owner.note (.purger store
        { appId
          currentVersion := record.currentVersion
          destroyedVersions := record.versions.eraseDups } proof))
  | prove {record : AppIdentityRecord} {store : AppIdentityResetStore} {proof : String}
      {input : AppIdentityResetPurgerInput} {lifecycle : AppIdentityLifecycle}
      (hstored : owner.stored = some record) (hdestroying : Destroying record.lifecycle)
      (hpurged : owner.log.getLast? = some (.purger store input (some proof)))
      (hlifecycle : withAppIdentityResetProof record.lifecycle store proof = .ok lifecycle)
      (hcanonical : { record with lifecycle }.Canonical) :
      IdentityAct appId owner (owner.write { record with lifecycle })
  | replace {record replaced : AppIdentityRecord} {generated : GeneratedKey}
      (hstored : owner.stored = some record) (hdestroying : Destroying record.lifecycle)
      (hreplaced : activationPending record generated = .ok replaced)
      (hcanonical : replaced.Canonical) : IdentityAct appId owner (owner.write replaced)
  | releaser {record : AppIdentityRecord} {release : AppIdentityResetRelease}
      {proof : Option String} (hstored : owner.stored = some record)
      (hpending : record.lifecycle.state = .activation_pending)
      (hmissing : record.lifecycle.releaseProofs release = none) :
      IdentityAct appId owner (owner.note (.releaser release record proof))
  | release {record called : AppIdentityRecord} {release : AppIdentityResetRelease}
      {proof : String} {lifecycle : AppIdentityLifecycle}
      (hstored : owner.stored = some record)
      (hreleased : owner.log.getLast? = some (.releaser release called (some proof)))
      (hlifecycle : withAppIdentityResetReleaseProof record.lifecycle release proof =
        .ok lifecycle)
      (hcanonical : { record with lifecycle }.Canonical) :
      IdentityAct appId owner (owner.write { record with lifecycle })
  | reopen {record : AppIdentityRecord} {lifecycle : AppIdentityLifecycle}
      (hstored : owner.stored = some record)
      (hpending : record.lifecycle.state = .activation_pending)
      (hlifecycle : activeAppIdentityLifecycle record.lifecycle = .ok lifecycle)
      (hcanonical : { record with lifecycle }.Canonical) :
      IdentityAct appId owner (owner.write { record with lifecycle })

/-- Any number of acts. -/
def Acting (appId : String) (before after : ResetCalls) : Prop :=
  Relation.ReflTransGen (IdentityAct appId) before.owner after.owner

instance (appId : String) : IsPreorder ResetCalls (Acting appId) where
  refl _ := .refl
  trans _ _ _ := Relation.ReflTransGen.trans

/-! ## 2. Single calls -/

variable {appId : String} {world : ResetCalls}

theorem guarantees_act {f : IdentityOwner → IdentityOwner}
    (hact : IdentityAct appId world.owner (f world.owner)) :
    Guarantees (Acting appId) (modifyOwner f) world (fun _ after => after.owner = f world.owner) :=
  ⟨.single hact, fun _ _ => rfl⟩

theorem guarantees_resolved {α : Type} {answer : Except String α} :
    Guarantees (Acting appId) (resolve answer) world
      (fun a after => world = after ∧ answer = .ok a) := by
  cases answer with
  | ok a => exact guarantees_pure ⟨rfl, rfl⟩
  | error message => exact guarantees_throw

theorem guarantees_nextFate :
    Guarantees (Acting appId) nextFate world (fun _ after => after.owner = world.owner) := by
  refine guarantees_read (get_ok_apply world) ?_
  split
  · exact guarantees_throw
  · exact ⟨refl_of (Acting appId) world, fun _ _ => rfl⟩

theorem guarantees_load :
    Guarantees (Acting appId) load world
      (fun record after => after.owner = world.owner ∧ record = world.owner.stored) := by
  refine Guarantees.bind guarantees_nextFate ?_
  intro fate after _ howner
  split
  · refine guarantees_read (get_ok_apply after) (guarantees_pure ⟨howner, ?_⟩)
    rw [howner]
  · exact guarantees_throw

/-- A save writes, where it may; where it answers it has written. -/
theorem guarantees_save {record : AppIdentityRecord}
    (hact : record.Canonical → IdentityAct appId world.owner (world.owner.write record)) :
    Guarantees (Acting appId) (save record) world
      (fun _ after => after.owner = world.owner.write record) := by
  refine Guarantees.bind guarantees_resolved ?_
  rintro canonical _ _ ⟨rfl, hcanonical⟩
  obtain ⟨rfl, -⟩ := assertCanonicalAppIdentityRecord_ok hcanonical
  refine Guarantees.bind guarantees_nextFate ?_
  intro fate after _ howner
  have hwrite : Guarantees (Acting appId) (modifyOwner (·.write canonical)) after
      (fun _ last => last.owner = world.owner.write canonical) := by
    rw [← howner]
    refine guarantees_act ?_
    rw [howner]
    exact hact hcanonical
  cases fate with
  | answers text => exact hwrite
  | fails => exact guarantees_throw
  | writesAndFails => exact Guarantees.bind hwrite fun _ _ _ _ => guarantees_throw

theorem guarantees_proofOf {entry : Option String → IdentityEntry}
    (hact : ∀ proof, IdentityAct appId world.owner (world.owner.note (entry proof))) :
    Guarantees (Acting appId) (proofOf entry) world
      (fun proof after => after.owner = world.owner.note (entry (some proof))) := by
  refine Guarantees.bind guarantees_nextFate ?_
  intro fate after _ howner
  have hnote : ∀ proof, Guarantees (Acting appId) (modifyOwner (·.note (entry proof))) after
      (fun _ last => last.owner = world.owner.note (entry proof)) := by
    intro proof
    rw [← howner]
    refine guarantees_act ?_
    rw [howner]
    exact hact proof
  split
  · refine Guarantees.bind (hnote _) ?_
    exact fun _ _ _ hlast => guarantees_pure hlast
  · exact Guarantees.bind (hnote none) fun _ _ _ _ => guarantees_throw

/-! ## 3. The workflow -/

/-- `current` is what the store holds. -/
def Holds (current : AppIdentityRecord) (world : ResetCalls) : Prop :=
  world.owner.stored = some current

theorem guarantees_purgePendingStores {destroyedVersions : List String}
    (surfaces : List AppIdentityResetStore) {current : AppIdentityRecord} {world : ResetCalls}
    (hholds : Holds current world) (hdestroying : Destroying current.lifecycle)
    (hversions : destroyedVersions = current.versions.eraseDups) :
    Guarantees (Acting appId) (purgePendingStores appId destroyedVersions surfaces current) world
      (fun purged after => Holds purged after ∧ Destroying purged.lifecycle) := by
  induction surfaces generalizing current world with
  | nil => exact guarantees_pure ⟨hholds, hdestroying⟩
  | cons surface surfaces ih =>
    unfold purgePendingStores
    split
    · exact ih hholds hdestroying hversions
    · rename_i hproof
      have hmissing : current.lifecycle.proofs surface = none :=
        Option.not_isSome_iff_eq_none.mp hproof
      refine Guarantees.bind (guarantees_proofOf fun proof => ?_) ?_
      · rw [hversions]
        exact .purger hholds hdestroying hmissing
      · intro proof noted _ hnoted
        refine Guarantees.bind guarantees_resolved ?_
        rintro lifecycle _ _ ⟨rfl, hlifecycle⟩
        have hpurging : lifecycle.state = .purging := by
          unfold withAppIdentityResetProof at hlifecycle
          obtain ⟨_, hlifecycle⟩ := ite_error_eq_ok.mp hlifecycle
          obtain ⟨_, hlifecycle⟩ := ite_error_eq_ok.mp hlifecycle
          cases hlifecycle
          rfl
        refine Guarantees.bind (guarantees_save fun hcanonical => ?_) ?_
        · rw [hnoted]
          exact .prove hholds hdestroying List.getLast?_concat hlifecycle hcanonical
        · intro _ saved _ hsaved
          refine ih ?_ ?_ hversions
          · rw [Holds, hsaved]
            rfl
          · simp [Destroying, hpurging]

theorem guarantees_releasePendingSinks (releases : List AppIdentityResetRelease)
    {current : AppIdentityRecord} {world : ResetCalls} (hholds : Holds current world)
    (hpending : current.lifecycle.state = .activation_pending) :
    Guarantees (Acting appId) (releasePendingSinks releases current) world
      (fun released after => Holds released after ∧
        released.lifecycle.state = .activation_pending) := by
  induction releases generalizing current world with
  | nil => exact guarantees_pure ⟨hholds, hpending⟩
  | cons release releases ih =>
    unfold releasePendingSinks
    split
    · exact ih hholds hpending
    · rename_i hproof
      have hmissing : current.lifecycle.releaseProofs release = none :=
        Option.not_isSome_iff_eq_none.mp hproof
      refine Guarantees.bind (guarantees_proofOf fun proof => ?_) ?_
      · exact .releaser hholds hpending hmissing
      · intro proof noted _ hnoted
        refine Guarantees.bind guarantees_resolved ?_
        rintro lifecycle _ _ ⟨rfl, hlifecycle⟩
        have hstill : lifecycle.state = .activation_pending := by
          unfold withAppIdentityResetReleaseProof at hlifecycle
          obtain ⟨_, hlifecycle⟩ := ite_error_eq_ok.mp hlifecycle
          obtain ⟨_, hlifecycle⟩ := ite_error_eq_ok.mp hlifecycle
          cases hlifecycle
          exact hpending
        refine Guarantees.bind (guarantees_save fun hcanonical => ?_) ?_
        · rw [hnoted]
          exact .release hholds List.getLast?_concat hlifecycle hcanonical
        · intro _ saved _ hsaved
          refine ih ?_ hstill
          rw [Holds, hsaved]
          rfl

theorem guarantees_requireAppIdentityRecord :
    Guarantees (Acting appId) requireAppIdentityRecord world
      (fun record after => after.owner = world.owner ∧ Holds record after) := by
  refine Guarantees.bind guarantees_load ?_
  rintro loaded after _ ⟨howner, hloaded⟩
  split
  · exact guarantees_throw
  · rename_i record
    refine Guarantees.mono guarantees_resolved ?_
    rintro canonical _ _ ⟨rfl, hcanonical⟩
    obtain ⟨rfl, -⟩ := assertCanonicalAppIdentityRecord_ok hcanonical
    refine ⟨howner, ?_⟩
    rw [Holds, howner, ← hloaded]

theorem guarantees_startReset {resetId : String} {current : AppIdentityRecord}
    (hholds : Holds current world) :
    Guarantees (Acting appId) (startReset resetId current) world
      (fun started after => Holds started after ∧ started.lifecycle.state ≠ .active) := by
  unfold startReset
  split
  · rename_i hactive
    refine Guarantees.bind guarantees_resolved ?_
    rintro lifecycle _ _ ⟨rfl, hlifecycle⟩
    refine Guarantees.bind (guarantees_save fun hcanonical => ?_) ?_
    · exact .block hholds hactive hlifecycle hcanonical
    · intro _ saved _ hsaved
      refine guarantees_pure ⟨?_, ?_⟩
      · rw [Holds, hsaved]
        rfl
      · cases (ite_error_eq_ok.mp hlifecycle).2
        simp
  · rename_i hactive
    split
    · exact guarantees_throw
    · exact guarantees_pure ⟨hholds, hactive⟩

theorem activationPending_ok {current replaced : AppIdentityRecord} {generated : GeneratedKey}
    (h : activationPending current generated = .ok replaced) :
    ∃ version, nextAppIdentityVersion current.currentVersion = .ok version ∧
      (∀ store, current.lifecycle.proofs store ≠ none) ∧
      replaced =
        { currentVersion := version
          lifecycle := { current.lifecycle with
            state := .activation_pending, trafficBlocked := true }
          epochs := [{ version, role := .active, key := generated }] } := by
  obtain ⟨_, hproved, h⟩ := bind_eq_ok.mp h
  obtain ⟨version, hversion, h⟩ := bind_eq_ok.mp h
  obtain ⟨lifecycle, hlifecycle, h⟩ := bind_eq_ok.mp h
  obtain ⟨_, _, hlifecycle⟩ := bind_eq_ok.mp hlifecycle
  cases hlifecycle
  cases h
  exact ⟨version, hversion, assertAppIdentityResetProved_ok.mp hproved, rfl⟩

theorem guarantees_purgeAndReplace {generated : GeneratedKey} {current : AppIdentityRecord}
    (hholds : Holds current world) (hstarted : current.lifecycle.state ≠ .active) :
    Guarantees (Acting appId) (purgeAndReplace appId generated current) world
      (fun replaced after => Holds replaced after ∧
        replaced.lifecycle.state = .activation_pending) := by
  unfold purgeAndReplace
  split
  · exact guarantees_pure ⟨hholds, ‹_›⟩
  · rename_i hpending
    refine Guarantees.bind
      (guarantees_purgePendingStores _ hholds ⟨hstarted, hpending⟩ rfl) ?_
    rintro purged after _ ⟨hpurged, hdestroying⟩
    refine Guarantees.bind guarantees_resolved ?_
    rintro replaced _ _ ⟨rfl, hreplaced⟩
    refine Guarantees.bind (guarantees_save fun hcanonical => ?_) ?_
    · exact .replace hpurged hdestroying hreplaced hcanonical
    · intro _ saved _ hsaved
      refine guarantees_pure ⟨?_, ?_⟩
      · rw [Holds, hsaved]
        rfl
      · obtain ⟨_, _, _, rfl⟩ := activationPending_ok hreplaced
        rfl

theorem guarantees_reset {serialization : ResetSerialization} {resetId : String}
    {generated : GeneratedKey} :
    Guarantees (Acting appId) (resetCompromisedAppIdentity serialization appId resetId generated)
      world (fun _ _ => True) := by
  unfold resetCompromisedAppIdentity
  split
  · exact guarantees_throw
  · refine Guarantees.bind guarantees_requireAppIdentityRecord ?_
    rintro loaded after _ ⟨_, hloaded⟩
    split
    · exact guarantees_pure trivial
    · refine Guarantees.bind (guarantees_startReset hloaded) ?_
      rintro started _ _ ⟨hstarted, hblocked⟩
      refine Guarantees.bind (guarantees_purgeAndReplace hstarted hblocked) ?_
      rintro replaced _ _ ⟨hreplaced, hpending⟩
      refine Guarantees.bind (guarantees_releasePendingSinks _ hreplaced hpending) ?_
      rintro released _ _ ⟨hreleased, hstill⟩
      refine Guarantees.bind guarantees_resolved ?_
      rintro lifecycle _ _ ⟨rfl, hlifecycle⟩
      refine Guarantees.bind (guarantees_save fun hcanonical => ?_) ?_
      · exact .reopen hreleased hstill hlifecycle hcanonical
      · exact fun _ _ _ _ => guarantees_pure trivial

theorem guarantees_provision {rootSecret : List UInt8} {generated : GeneratedKey} :
    Guarantees (Acting appId) (provisionAppIdentity rootSecret generated) world
      (fun _ _ => True) := by
  refine Guarantees.bind guarantees_load ?_
  rintro loaded after _ ⟨howner, hloaded⟩
  split
  · exact Guarantees.mono guarantees_resolved fun _ _ _ _ => trivial
  · refine Guarantees.bind guarantees_resolved ?_
    rintro record _ _ ⟨rfl, hrecord⟩
    refine Guarantees.bind (guarantees_save fun hcanonical => ?_) ?_
    · refine .provision ?_ hrecord hcanonical
      rw [howner, ← hloaded]
    · exact fun _ _ _ _ => guarantees_pure trivial

/-- **Every event is a sequence of acts**, wherever it stops. The programs of provision and reset are
taken apart once, with a call that fails at any place; what is proved of acts holds of every history
then. -/
theorem acts_of_event {serialization : ResetSerialization} (owner : IdentityOwner)
    (event : IdentityEvent) :
    Relation.ReflTransGen (IdentityAct appId) owner
      ((appIdentity serialization appId).next owner event) := by
  cases event with
  | provision rootSecret generated fates =>
    have hprovision : Guarantees (Acting appId) (provisionAppIdentity rootSecret generated)
        { owner, fates } (fun _ _ => True) := guarantees_provision
    exact hprovision.1
  | reset resetId generated fates =>
    have hreset : Guarantees (Acting appId)
        (resetCompromisedAppIdentity serialization appId resetId generated)
        { owner, fates } (fun _ _ => True) := guarantees_reset
    exact hreset.1

/-- **The invariant rule of a history.** -/
theorem identity_invariant {serialization : ResetSerialization} {I : IdentityOwner → Prop}
    (hinit : I { stored := none, log := [] })
    (hact : ∀ owner after, IdentityAct appId owner after → I owner → I after)
    (events : List IdentityEvent) : I ((appIdentity serialization appId).run events) := by
  refine Machine.exec_invariant (I := I) _ (fun owner event hI => ?_) hinit events
  have hacts : ∀ after, Relation.ReflTransGen (IdentityAct appId) owner after → I after := by
    intro after hafter
    induction hafter with
    | refl => exact hI
    | tail _ hlast ih => exact hact _ _ hlast ih
  exact hacts _ (acts_of_event owner event)

end AppIdentityReset

end Splitch
