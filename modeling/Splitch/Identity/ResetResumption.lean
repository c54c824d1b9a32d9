/-
# A compromised-key reset is resumed where it stopped

A reset starts where its blocking record is saved (`IsStart`); what the log holds behind the last
start is what that reset has done.  `Lawful` says of an entry of the log what may be found before
it:

* a record that opens the traffic: no start at all, or all proofs of the last one (`OpensLawfully`);
* a purger that is called: the versions that were held at the start, and no proof saved since
  (`PurgesLawfully`);
* a record with replaced keys: one epoch, of a version no earlier record has (`ReplacesLawfully`).

The invariant (`Resumable`) says the same of the stored record as it stands, so that each act
finds there what it appends.
-/
import Splitch.Identity.ResetActs

namespace Splitch

namespace AppIdentityReset

open StateActions Checks

/-! ## 1. What a log says -/

def savedRecord : IdentityEntry → Option AppIdentityRecord
  | .saved record => some record
  | _ => none

/-- The record the store holds behind a log. -/
def lastSaved (log : List IdentityEntry) : Option AppIdentityRecord :=
  (log.filterMap savedRecord).getLast?

@[simp] theorem lastSaved_saved (log : List IdentityEntry) (record : AppIdentityRecord) :
    lastSaved (log ++ [.saved record]) = some record := by
  simp [lastSaved, savedRecord]

theorem lastSaved_note {log : List IdentityEntry} {entry : IdentityEntry}
    (h : savedRecord entry = none) : lastSaved (log ++ [entry]) = lastSaved log := by
  simp [lastSaved, h]

/-- A reset starts. -/
def IsStart : IdentityEntry → Prop
  | .saved record => record.lifecycle.state = .blocked
  | _ => False

/-- The last reset that `log` has seen started with `start`, and has done `later` since. -/
structure LastStart (log earlier : List IdentityEntry) (start : AppIdentityRecord)
    (later : List IdentityEntry) : Prop where
  split : log = earlier ++ .saved start :: later
  starts : start.lifecycle.state = .blocked
  last : ∀ entry ∈ later, ¬ IsStart entry

/-- The purger of `store` has proved its purge, and the proof has been saved. -/
structure Purged (later : List IdentityEntry) (store : AppIdentityResetStore) (proof : String) :
    Prop where
  called : ∃ input, .purger store input (some proof) ∈ later
  recorded : ∃ checkpoint : AppIdentityRecord, .saved checkpoint ∈ later ∧
    checkpoint.lifecycle.proofs store = some proof

structure Released (later : List IdentityEntry) (release : AppIdentityResetRelease)
    (proof : String) : Prop where
  called : ∃ record, .releaser release record (some proof) ∈ later
  recorded : ∃ checkpoint : AppIdentityRecord, .saved checkpoint ∈ later ∧
    checkpoint.lifecycle.releaseProofs release = some proof

def OpensLawfully (before : List IdentityEntry) (record : AppIdentityRecord) : Prop :=
  record.lifecycle.trafficBlocked = false →
    (∀ entry ∈ before, ¬ IsStart entry) ∨
    ∃ earlier start later, LastStart before earlier start later ∧
      record.lifecycle.resetId = start.lifecycle.resetId ∧
      (∀ store, ∃ proof, record.lifecycle.proofs store = some proof ∧
        Purged later store proof) ∧
      ∀ release, ∃ proof, record.lifecycle.releaseProofs release = some proof ∧
        Released later release proof

/-- `held` is what the App held when the reset of `start` blocked its traffic. -/
structure Blocks (earlier : List IdentityEntry) (held start : AppIdentityRecord) : Prop where
  stood : lastSaved earlier = some held
  opened : held.lifecycle.trafficBlocked = false
  epochs : start.epochs = held.epochs
  currentVersion : start.currentVersion = held.currentVersion

def PurgesLawfully (appId : String) (before : List IdentityEntry) (store : AppIdentityResetStore)
    (input : AppIdentityResetPurgerInput) : Prop :=
  ∃ earlier start later held, LastStart before earlier start later ∧ Blocks earlier held start ∧
    input = { appId, currentVersion := held.currentVersion, destroyedVersions := held.versions } ∧
    ∀ checkpoint, .saved checkpoint ∈ later → checkpoint.lifecycle.proofs store = none

/-- A reset has replaced the keys of the record. -/
def Replaced (record : AppIdentityRecord) : Prop :=
  record.lifecycle.state = .activation_pending ∨
    record.lifecycle.state = .active ∧ record.lifecycle.resetId ≠ none

/-- `record` has one epoch; every earlier record of the App is one of the same reset with this very
epoch, or does not know its version. -/
structure FreshKey (before later : List IdentityEntry) (record : AppIdentityRecord) : Prop where
  single : ∃ key, record.epochs = [{ version := record.currentVersion, role := .active, key }]
  fresh : ∀ old, .saved old ∈ before →
    (.saved old ∈ later ∧ old.lifecycle.state = .activation_pending ∧
      old.epochs = record.epochs) ∨
    record.currentVersion ∉ old.versions

def ReplacesLawfully (before : List IdentityEntry) (record : AppIdentityRecord) : Prop :=
  Replaced record → ∃ earlier start later, LastStart before earlier start later ∧
    record.currentVersion ∉ start.versions ∧ FreshKey before later record

/-- What is found before an entry of the log. -/
def Lawful (appId : String) (before : List IdentityEntry) : IdentityEntry → Prop
  | .saved record => OpensLawfully before record ∧ ReplacesLawfully before record
  | .purger store input _ => PurgesLawfully appId before store input
  | .releaser _ record _ =>
    lastSaved before = some record ∧ record.lifecycle.state = .activation_pending

/-! ## 2. The invariant -/

/-- How the stored record stands to the last start. -/
structure Resetting (log earlier : List IdentityEntry) (start : AppIdentityRecord)
    (later : List IdentityEntry) (record : AppIdentityRecord) : Prop where
  blocks : ∃ held, Blocks earlier held start
  resetId : record.lifecycle.resetId = start.lifecycle.resetId
  started : start.lifecycle.resetId ≠ none
  proved : ∀ store proof, record.lifecycle.proofs store = some proof → Purged later store proof
  released : ∀ release proof, record.lifecycle.releaseProofs release = some proof →
    Released later release proof
  grows : ∀ store, record.lifecycle.proofs store = none →
    ∀ checkpoint, .saved checkpoint ∈ later → checkpoint.lifecycle.proofs store = none
  destroying : Destroying record.lifecycle →
    record.epochs = start.epochs ∧ record.currentVersion = start.currentVersion
  pending : record.lifecycle.state = .activation_pending →
    (∀ store, record.lifecycle.proofs store ≠ none) ∧
      record.currentVersion ∉ start.versions ∧ FreshKey log later record

/-- The reset the stored record is in, or behind. -/
def Phase (log : List IdentityEntry) (record : AppIdentityRecord) : Prop :=
  (record.lifecycle.state = .active ∧ record.lifecycle.resetId = none ∧
    ∀ entry ∈ log, ¬ IsStart entry) ∨
  ∃ earlier start later, LastStart log earlier start later ∧
    Resetting log earlier start later record

/-- No version the App has ever had is numbered above the current one. -/
def Numbered (log : List IdentityEntry) (record : AppIdentityRecord) : Prop :=
  ∃ number, appIdentityVersionNumber record.currentVersion = some number ∧
    ∀ old, .saved old ∈ log → ∀ version ∈ old.versions, ∀ n,
      appIdentityVersionNumber version = some n → n ≤ number

structure Resumable (appId : String) (owner : IdentityOwner) : Prop where
  stored : owner.stored = lastSaved owner.log
  lawful : ∀ before entry, before ++ [entry] <+: owner.log → Lawful appId before entry
  canonical : ∀ record ∈ owner.stored, record.Canonical
  numbered : ∀ record ∈ owner.stored, Numbered owner.log record
  phase : ∀ record ∈ owner.stored, Phase owner.log record

/-! ## 3. Growing logs -/

theorem LastStart.append {log earlier later : List IdentityEntry} {start : AppIdentityRecord}
    {entry : IdentityEntry} (h : LastStart log earlier start later) (hentry : ¬ IsStart entry) :
    LastStart (log ++ [entry]) earlier start (later ++ [entry]) where
  split := by rw [h.split, List.append_assoc, List.cons_append]
  starts := h.starts
  last := by
    intro other hother
    rcases List.mem_append.mp hother with hother | hother
    · exact h.last other hother
    · rwa [List.mem_singleton.mp hother]

/-- A log has one last start. -/
theorem LastStart.unique {log earlier earlier' later later' : List IdentityEntry}
    {start start' : AppIdentityRecord} (h : LastStart log earlier start later)
    (h' : LastStart log earlier' start' later') : start' = start := by
  obtain ⟨between, -, hrest⟩ | ⟨between, -, hrest⟩ :=
    List.append_eq_append_iff.mp (h.split.symm.trans h'.split)
  · cases between with
    | nil => cases hrest; rfl
    | cons entry between =>
      cases hrest
      exact absurd h'.starts (h.last (.saved start') (by simp))
  · cases between with
    | nil => cases hrest; rfl
    | cons entry between =>
      cases hrest
      exact absurd h.starts (h'.last (.saved start) (by simp))

theorem Purged.mono {later later' : List IdentityEntry} {store : AppIdentityResetStore}
    {proof : String} (h : Purged later store proof) (hle : later ⊆ later') :
    Purged later' store proof where
  called := h.called.imp fun _ hcalled => hle hcalled
  recorded := h.recorded.imp fun _ hrecorded => ⟨hle hrecorded.1, hrecorded.2⟩

theorem Released.mono {later later' : List IdentityEntry} {release : AppIdentityResetRelease}
    {proof : String} (h : Released later release proof) (hle : later ⊆ later') :
    Released later' release proof where
  called := h.called.imp fun _ hcalled => hle hcalled
  recorded := h.recorded.imp fun _ hrecorded => ⟨hle hrecorded.1, hrecorded.2⟩

theorem FreshKey.note {before later : List IdentityEntry} {record : AppIdentityRecord}
    {entry : IdentityEntry} (h : FreshKey before later record) (hentry : savedRecord entry = none) :
    FreshKey (before ++ [entry]) (later ++ [entry]) record where
  single := h.single
  fresh := by
    intro old hold
    rcases List.mem_append.mp hold with hold | hold
    · exact (h.fresh old hold).imp_left fun ⟨hlater, hrest⟩ =>
        ⟨List.mem_append_left _ hlater, hrest⟩
    · rw [← List.mem_singleton.mp hold] at hentry
      cases hentry

/-- The record itself, saved as one that is still pending. -/
theorem FreshKey.write {before later : List IdentityEntry} {record : AppIdentityRecord}
    (h : FreshKey before later record) (hpending : record.lifecycle.state = .activation_pending) :
    FreshKey (before ++ [.saved record]) (later ++ [.saved record]) record where
  single := h.single
  fresh := by
    intro old hold
    rcases List.mem_append.mp hold with hold | hold
    · exact (h.fresh old hold).imp_left fun ⟨hlater, hrest⟩ =>
        ⟨List.mem_append_left _ hlater, hrest⟩
    · cases List.mem_singleton.mp hold
      exact .inl ⟨by simp, hpending, rfl⟩

/-- Only the lifecycle has changed. -/
theorem FreshKey.lifecycle {before later : List IdentityEntry} {record : AppIdentityRecord}
    (h : FreshKey before later record) (lifecycle : AppIdentityLifecycle) :
    FreshKey before later { record with lifecycle } where
  single := h.single
  fresh := h.fresh

theorem Numbered.note {log : List IdentityEntry} {record : AppIdentityRecord}
    {entry : IdentityEntry} (h : Numbered log record) (hentry : savedRecord entry = none) :
    Numbered (log ++ [entry]) record := by
  obtain ⟨number, hnumber, hbound⟩ := h
  refine ⟨number, hnumber, fun old hold => ?_⟩
  rcases List.mem_append.mp hold with hold | hold
  · exact hbound old hold
  · rw [← List.mem_singleton.mp hold] at hentry
    cases hentry

/-- A record with the epochs of the stored one is saved. -/
theorem Numbered.lifecycle {log : List IdentityEntry} {record : AppIdentityRecord}
    (h : Numbered log record) (hlogged : .saved record ∈ log)
    (lifecycle : AppIdentityLifecycle) :
    Numbered (log ++ [.saved { record with lifecycle }]) { record with lifecycle } := by
  obtain ⟨number, hnumber, hbound⟩ := h
  refine ⟨number, hnumber, fun old hold => ?_⟩
  rcases List.mem_append.mp hold with hold | hold
  · exact hbound old hold
  · cases List.mem_singleton.mp hold
    exact hbound record hlogged

theorem mem_of_lastSaved {log : List IdentityEntry} {record : AppIdentityRecord}
    (h : lastSaved log = some record) : .saved record ∈ log := by
  obtain ⟨entry, hentry, hsaved⟩ := List.mem_filterMap.mp (List.mem_of_getLast? h)
  cases entry with
  | saved record' => cases hsaved; exact hentry
  | purger | releaser => cases hsaved

/-- What was called last was called since the last start. -/
theorem LastStart.called {log earlier later : List IdentityEntry} {start : AppIdentityRecord}
    {entry : IdentityEntry} (h : LastStart log earlier start later)
    (hlast : log.getLast? = some entry) (hentry : savedRecord entry = none) : entry ∈ later := by
  rw [h.split, List.getLast?_append_cons] at hlast
  rcases List.mem_cons.mp (List.mem_of_getLast? hlast) with rfl | hmem
  · cases hentry
  · exact hmem

theorem not_isStart_of_called {entry : IdentityEntry} (h : savedRecord entry = none) :
    ¬ IsStart entry := by
  cases entry with
  | saved => cases h
  | purger | releaser => exact fun hstart => hstart

/-! ## 4. What the acts keep -/

variable {appId : String} {owner : IdentityOwner}

theorem Resumable.lawful_append (h : Resumable appId owner) {entry : IdentityEntry}
    (hentry : Lawful appId owner.log entry) (before : List IdentityEntry) (next : IdentityEntry)
    (hbefore : before ++ [next] <+: owner.log ++ [entry]) : Lawful appId before next := by
  rcases List.prefix_concat_iff.mp hbefore with heq | hbefore
  · obtain ⟨rfl, hnext⟩ := List.append_inj' heq rfl
    cases hnext
    exact hentry
  · exact h.lawful before next hbefore

theorem Resumable.write (h : Resumable appId owner) {record : AppIdentityRecord}
    (hlawful : Lawful appId owner.log (.saved record)) (hcanonical : record.Canonical)
    (hnumbered : Numbered (owner.log ++ [.saved record]) record)
    (hphase : Phase (owner.log ++ [.saved record]) record) :
    Resumable appId (owner.write record) where
  stored := (lastSaved_saved owner.log record).symm
  lawful := h.lawful_append hlawful
  canonical := by
    rintro _ ⟨⟩
    exact hcanonical
  numbered := by
    rintro _ ⟨⟩
    exact hnumbered
  phase := by
    rintro _ ⟨⟩
    exact hphase

theorem Phase.note {log : List IdentityEntry} {record : AppIdentityRecord} {entry : IdentityEntry}
    (h : Phase log record) (hentry : savedRecord entry = none) :
    Phase (log ++ [entry]) record := by
  have hstart := not_isStart_of_called hentry
  rcases h with ⟨hactive, hresetId, hnone⟩ | ⟨earlier, start, later, hlast, h⟩
  · refine .inl ⟨hactive, hresetId, fun other hother => ?_⟩
    rcases List.mem_append.mp hother with hother | hother
    · exact hnone other hother
    · rwa [List.mem_singleton.mp hother]
  · refine .inr ⟨earlier, start, later ++ [entry], hlast.append hstart, ?_⟩
    have hle : later ⊆ later ++ [entry] := List.subset_append_left _ _
    refine ⟨h.blocks, h.resetId, h.started, fun store proof hproof => ?_,
      fun release proof hproof => ?_, fun store hproof checkpoint hcheckpoint => ?_,
      h.destroying, fun hpending => ?_⟩
    · exact (h.proved store proof hproof).mono hle
    · exact (h.released release proof hproof).mono hle
    · rcases List.mem_append.mp hcheckpoint with hcheckpoint | hcheckpoint
      · exact h.grows store hproof checkpoint hcheckpoint
      · rw [← List.mem_singleton.mp hcheckpoint] at hentry
        cases hentry
    · obtain ⟨hproofs, hversion, hfresh⟩ := h.pending hpending
      exact ⟨hproofs, hversion, hfresh.note hentry⟩

theorem Resumable.note (h : Resumable appId owner) {entry : IdentityEntry}
    (hlawful : Lawful appId owner.log entry) (hentry : savedRecord entry = none) :
    Resumable appId (owner.note entry) where
  stored := h.stored.trans (lastSaved_note hentry).symm
  lawful := h.lawful_append hlawful
  canonical := h.canonical
  numbered record hrecord := (h.numbered record hrecord).note hentry
  phase record hrecord := (h.phase record hrecord).note hentry

/-- A record that is not active is one of a reset. -/
theorem Resumable.resetting (h : Resumable appId owner) {record : AppIdentityRecord}
    (hstored : owner.stored = some record) (hstate : record.lifecycle.state ≠ .active) :
    ∃ earlier start later, LastStart owner.log earlier start later ∧
      Resetting owner.log earlier start later record :=
  (h.phase record hstored).resolve_left fun hactive => hstate hactive.1

theorem Resumable.logged (h : Resumable appId owner) {record : AppIdentityRecord}
    (hstored : owner.stored = some record) : .saved record ∈ owner.log :=
  mem_of_lastSaved (h.stored.symm.trans hstored)

/-- The next record of the same reset is saved. -/
theorem Resetting.save {log earlier later : List IdentityEntry}
    {start record next : AppIdentityRecord} (h : Resetting log earlier start later record)
    (hresetId : next.lifecycle.resetId = record.lifecycle.resetId)
    (hproved : ∀ store proof, next.lifecycle.proofs store = some proof →
      record.lifecycle.proofs store = some proof ∨
        ∃ input, .purger store input (some proof) ∈ later)
    (hreleased : ∀ release proof, next.lifecycle.releaseProofs release = some proof →
      record.lifecycle.releaseProofs release = some proof ∨
        ∃ called, .releaser release called (some proof) ∈ later)
    (hgrows : ∀ store, next.lifecycle.proofs store = none →
      record.lifecycle.proofs store = none)
    (hdestroying : Destroying next.lifecycle →
      next.epochs = start.epochs ∧ next.currentVersion = start.currentVersion)
    (hpending : next.lifecycle.state = .activation_pending →
      (∀ store, next.lifecycle.proofs store ≠ none) ∧ next.currentVersion ∉ start.versions ∧
        FreshKey log later next) :
    Resetting (log ++ [.saved next]) earlier start (later ++ [.saved next]) next where
  blocks := h.blocks
  resetId := hresetId.trans h.resetId
  started := h.started
  proved store proof hproof := by
    rcases hproved store proof hproof with hold | ⟨input, hcalled⟩
    · exact (h.proved store proof hold).mono (List.subset_append_left _ _)
    · exact ⟨⟨input, List.mem_append_left _ hcalled⟩, next, by simp, hproof⟩
  released release proof hproof := by
    rcases hreleased release proof hproof with hold | ⟨called, hcalled⟩
    · exact (h.released release proof hold).mono (List.subset_append_left _ _)
    · exact ⟨⟨called, List.mem_append_left _ hcalled⟩, next, by simp, hproof⟩
  grows store hproof checkpoint hcheckpoint := by
    rcases List.mem_append.mp hcheckpoint with hcheckpoint | hcheckpoint
    · exact h.grows store (hgrows store hproof) checkpoint hcheckpoint
    · cases List.mem_singleton.mp hcheckpoint
      exact hproof
  destroying := hdestroying
  pending hstate := by
    obtain ⟨hproofs, hversion, hfresh⟩ := hpending hstate
    exact ⟨hproofs, hversion, hfresh.write hstate⟩

/-- A record that keeps the traffic blocked opens nothing. -/
theorem opensLawfully_of_blocked {before : List IdentityEntry} {record : AppIdentityRecord}
    (h : record.lifecycle.trafficBlocked = true) : OpensLawfully before record :=
  fun hopen => by rw [h] at hopen; cases hopen

theorem replacesLawfully_of_destroying {before : List IdentityEntry} {record : AppIdentityRecord}
    (h : Destroying record.lifecycle) : ReplacesLawfully before record := by
  rintro (hpending | ⟨hactive, -⟩)
  · exact absurd hpending h.2
  · exact absurd hactive h.1

theorem eraseDups_of_nodup {versions : List String} (h : versions.Nodup) :
    versions.eraseDups = versions := by
  induction versions with
  | nil => rfl
  | cons version versions ih =>
    obtain ⟨hversion, hrest⟩ := List.nodup_cons.mp h
    have hothers : versions.filter (fun other => !other == version) = versions := by
      refine List.filter_eq_self.mpr fun other hother => ?_
      have hne : other ≠ version := fun heq => hversion (heq ▸ hother)
      simpa using hne
    rw [List.eraseDups_cons, hothers, ih hrest]

/-- The versions of the initial record: only `app-v1` is numbered. -/
theorem mintInitialAppIdentityRecord_ok {rootSecret : List UInt8} {generated : List UInt8}
    {record : AppIdentityRecord}
    (h : mintInitialAppIdentityRecord rootSecret generated = .ok record) :
    record.currentVersion = "app-v1" ∧ record.versions = ["local-v1", "v1", "app-v1"] ∧
      record.lifecycle = ACTIVE_APP_IDENTITY_LIFECYCLE := by
  cases (ite_error_eq_ok.mp h).2
  exact ⟨rfl, rfl, rfl⟩

theorem Resumable.provision (h : Resumable appId owner) {rootSecret : List UInt8}
    {generated : GeneratedKey} {record : AppIdentityRecord} (hstored : owner.stored = none)
    (hrecord : mintInitialAppIdentityRecord rootSecret generated = .ok record)
    (hcanonical : record.Canonical) : Resumable appId (owner.write record) := by
  obtain ⟨hversion, hversions, hlifecycle⟩ := mintInitialAppIdentityRecord_ok hrecord
  -- Nothing has been saved yet.
  have hempty : ∀ old, .saved old ∉ owner.log := by
    intro old hold
    have hnil : owner.log.filterMap savedRecord = [] :=
      List.getLast?_eq_none_iff.mp (h.stored.symm.trans hstored)
    have hmem : old ∈ owner.log.filterMap savedRecord :=
      List.mem_filterMap.mpr ⟨_, hold, rfl⟩
    rw [hnil] at hmem
    cases hmem
  have hunstarted : ∀ entry ∈ owner.log, ¬ IsStart entry := by
    intro entry hentry hstart
    cases entry with
    | saved old => exact hempty old hentry
    | purger | releaser => exact hstart
  refine h.write ⟨fun _ => .inl hunstarted, ?_⟩ hcanonical ?_ (.inl ⟨?_, ?_, ?_⟩)
  · rintro (hpending | ⟨-, hreset⟩)
    · rw [hlifecycle] at hpending
      cases hpending
    · rw [hlifecycle] at hreset
      exact absurd rfl hreset
  · refine ⟨1, by rw [hversion]; decide, fun old hold version hmem n hn => ?_⟩
    rcases List.mem_append.mp hold with hold | hold
    · exact absurd hold (hempty old)
    · cases List.mem_singleton.mp hold
      rw [hversions] at hmem
      simp only [List.mem_cons, List.not_mem_nil, or_false] at hmem
      have hlocal : appIdentityVersionNumber "local-v1" = none := by decide
      have hshared : appIdentityVersionNumber "v1" = none := by decide
      have hone : appIdentityVersionNumber "app-v1" = some 1 := by decide
      rcases hmem with rfl | rfl | rfl
      · cases hlocal.symm.trans hn
      · cases hshared.symm.trans hn
      · exact (Option.some.inj (hn.symm.trans hone)).le
  · rw [hlifecycle]
    rfl
  · rw [hlifecycle]
    rfl
  · intro entry hentry
    rcases List.mem_append.mp hentry with hentry | hentry
    · exact hunstarted entry hentry
    · cases List.mem_singleton.mp hentry
      intro hstart
      rw [IsStart, hlifecycle] at hstart
      cases hstart

theorem Resumable.block (h : Resumable appId owner) {record : AppIdentityRecord}
    {resetId : String} {lifecycle : AppIdentityLifecycle} (hstored : owner.stored = some record)
    (hactive : record.lifecycle.state = .active)
    (hlifecycle : blockedAppIdentityLifecycle resetId = .ok lifecycle)
    (hcanonical : { record with lifecycle }.Canonical) :
    Resumable appId (owner.write { record with lifecycle }) := by
  obtain ⟨-, -, -, hopen⟩ := assertCanonicalAppIdentityRecord_ok (h.canonical record hstored)
  cases (ite_error_eq_ok.mp hlifecycle).2
  refine h.write ⟨opensLawfully_of_blocked rfl, replacesLawfully_of_destroying ⟨by simp, by simp⟩⟩
    hcanonical ((h.numbered record hstored).lifecycle (h.logged hstored) _) ?_
  refine .inr ⟨owner.log, _, [], ⟨rfl, rfl, fun entry hentry => (by cases hentry)⟩, ?_⟩
  refine ⟨⟨record, h.stored.symm.trans hstored, ?_, rfl, rfl⟩, rfl, by simp, ?_, ?_, ?_,
    fun _ => ⟨rfl, rfl⟩, fun hpending => (by cases hpending)⟩
  · rw [← Bool.not_eq_true, hopen, not_not]
    exact hactive
  · exact fun _ _ hproof => (by cases hproof)
  · exact fun _ _ hproof => (by cases hproof)
  · exact fun _ _ _ hcheckpoint => (by cases hcheckpoint)

theorem Resumable.purger (h : Resumable appId owner) {record : AppIdentityRecord}
    {store : AppIdentityResetStore} {proof : Option String} (hstored : owner.stored = some record)
    (hdestroying : Destroying record.lifecycle)
    (hmissing : record.lifecycle.proofs store = none) :
    Resumable appId (owner.note (.purger store
      { appId
        currentVersion := record.currentVersion
        destroyedVersions := record.versions.eraseDups } proof)) := by
  obtain ⟨earlier, start, later, hlast, hreset⟩ := h.resetting hstored hdestroying.1
  obtain ⟨held, hblocks⟩ := hreset.blocks
  obtain ⟨hepochs, hversion⟩ := hreset.destroying hdestroying
  obtain ⟨-, -, hnodup, -⟩ := assertCanonicalAppIdentityRecord_ok (h.canonical record hstored)
  refine h.note ⟨earlier, start, later, held, hlast, hblocks, ?_, hreset.grows store hmissing⟩ rfl
  have hversions : record.versions.eraseDups = held.versions := by
    rw [eraseDups_of_nodup hnodup, AppIdentityRecord.versions, hepochs, hblocks.epochs]
    rfl
  rw [hversions, hversion, hblocks.currentVersion]

theorem Resumable.prove (h : Resumable appId owner) {record : AppIdentityRecord}
    {store : AppIdentityResetStore} {proof : String} {input : AppIdentityResetPurgerInput}
    {lifecycle : AppIdentityLifecycle} (hstored : owner.stored = some record)
    (hdestroying : Destroying record.lifecycle)
    (hpurged : owner.log.getLast? = some (.purger store input (some proof)))
    (hlifecycle : withAppIdentityResetProof record.lifecycle store proof = .ok lifecycle)
    (hcanonical : { record with lifecycle }.Canonical) :
    Resumable appId (owner.write { record with lifecycle }) := by
  obtain ⟨earlier, start, later, hlast, hreset⟩ := h.resetting hstored hdestroying.1
  have hcalled := hlast.called hpurged rfl
  obtain ⟨_, hlifecycle⟩ := ite_error_eq_ok.mp hlifecycle
  cases (ite_error_eq_ok.mp hlifecycle).2
  refine h.write ⟨opensLawfully_of_blocked rfl, replacesLawfully_of_destroying ⟨by simp, by simp⟩⟩
    hcanonical ((h.numbered record hstored).lifecycle (h.logged hstored) _) ?_
  refine .inr ⟨earlier, start, _, hlast.append (fun hstart => (by cases hstart)), ?_⟩
  refine hreset.save rfl (fun other otherProof hproof => ?_) (fun _ _ hproof => .inl hproof)
    (fun other hproof => ?_) (fun _ => hreset.destroying hdestroying)
    (fun hpending => (by cases hpending))
  · change Function.update record.lifecycle.proofs store (some proof) other = _ at hproof
    by_cases hother : other = store
    · subst hother
      rw [Function.update_self] at hproof
      cases hproof
      exact .inr ⟨input, hcalled⟩
    · rw [Function.update_of_ne hother] at hproof
      exact .inl hproof
  · change Function.update record.lifecycle.proofs store (some proof) other = _ at hproof
    by_cases hother : other = store
    · subst hother
      rw [Function.update_self] at hproof
      cases hproof
    · rwa [Function.update_of_ne hother] at hproof

theorem Resumable.replace (h : Resumable appId owner) {record replaced : AppIdentityRecord}
    {generated : GeneratedKey} (hstored : owner.stored = some record)
    (hdestroying : Destroying record.lifecycle)
    (hreplaced : activationPending record generated = .ok replaced)
    (hcanonical : replaced.Canonical) : Resumable appId (owner.write replaced) := by
  obtain ⟨earlier, start, later, hlast, hreset⟩ := h.resetting hstored hdestroying.1
  obtain ⟨number, hnumber, hbound⟩ := h.numbered record hstored
  obtain ⟨version, hversion, hproved, hshape⟩ := activationPending_ok hreplaced
  have hnext : version = appIdentityVersion (number + 1) := by
    rw [nextAppIdentityVersion, hnumber] at hversion
    cases hversion
    rfl
  have hlabel : appIdentityVersionNumber version = some (number + 1) := by
    rw [hnext, appIdentityVersionNumber_label]
  -- The number of the new version is above every number so far.
  have hnew : ∀ old, .saved old ∈ owner.log → version ∉ old.versions := fun old hold hmem =>
    absurd (hbound old hold version hmem _ hlabel) (Nat.not_succ_le_self number)
  have hstart : .saved start ∈ owner.log := by
    rw [hlast.split]
    simp
  have hfresh : replaced.currentVersion ∉ start.versions ∧ FreshKey owner.log later replaced := by
    subst hshape
    exact ⟨hnew start hstart, ⟨_, rfl⟩, fun old hold => .inr (hnew old hold)⟩
  subst hshape
  refine h.write ⟨opensLawfully_of_blocked rfl, fun _ => ⟨earlier, start, later, hlast, hfresh⟩⟩
    hcanonical ?_ ?_
  · refine ⟨number + 1, hlabel, fun old hold other hother n hn => ?_⟩
    rcases List.mem_append.mp hold with hold | hold
    · exact (hbound old hold other hother n hn).trans (Nat.le_succ number)
    · cases List.mem_singleton.mp hold
      cases List.mem_singleton.mp hother
      exact (Option.some.inj (hn.symm.trans hlabel)).le
  · refine .inr ⟨earlier, start, _, hlast.append (fun hstart => (by cases hstart)), ?_⟩
    exact hreset.save rfl (fun _ _ hproof => .inl hproof) (fun _ _ hproof => .inl hproof)
      (fun _ hproof => hproof) (fun hstill => absurd rfl hstill.2) (fun _ => ⟨hproved, hfresh⟩)

theorem Resumable.releaser (h : Resumable appId owner) {record : AppIdentityRecord}
    {release : AppIdentityResetRelease} {proof : Option String}
    (hstored : owner.stored = some record)
    (hpending : record.lifecycle.state = .activation_pending) :
    Resumable appId (owner.note (.releaser release record proof)) :=
  h.note ⟨h.stored.symm.trans hstored, hpending⟩ rfl

theorem Resumable.release (h : Resumable appId owner) {record called : AppIdentityRecord}
    {release : AppIdentityResetRelease} {proof : String} {lifecycle : AppIdentityLifecycle}
    (hstored : owner.stored = some record)
    (hreleased : owner.log.getLast? = some (.releaser release called (some proof)))
    (hlifecycle : withAppIdentityResetReleaseProof record.lifecycle release proof = .ok lifecycle)
    (hcanonical : { record with lifecycle }.Canonical) :
    Resumable appId (owner.write { record with lifecycle }) := by
  obtain ⟨hrefuse, hlifecycle⟩ := ite_error_eq_ok.mp hlifecycle
  obtain ⟨hstate, hblocked⟩ := not_or.mp hrefuse
  have hpending : record.lifecycle.state = .activation_pending := not_not.mp hstate
  have hactive : record.lifecycle.state ≠ .active := by simp [hpending]
  obtain ⟨earlier, start, later, hlast, hreset⟩ := h.resetting hstored hactive
  have hcalled := hlast.called hreleased rfl
  obtain ⟨hproofs, hversion, hfresh⟩ := hreset.pending hpending
  cases (ite_error_eq_ok.mp hlifecycle).2
  refine h.write ⟨opensLawfully_of_blocked (not_not.mp hblocked), fun _ =>
      ⟨earlier, start, later, hlast, hversion, hfresh.lifecycle _⟩⟩
    hcanonical ((h.numbered record hstored).lifecycle (h.logged hstored) _) ?_
  have hsame : ¬ IsStart (.saved { record with
      lifecycle := { record.lifecycle with
        releaseProofs := Function.update record.lifecycle.releaseProofs release (some proof) } }) :=
    fun hstart => by rw [IsStart, hpending] at hstart; cases hstart
  refine .inr ⟨earlier, start, _, hlast.append hsame, ?_⟩
  refine hreset.save rfl (fun _ _ hproof => .inl hproof) (fun other otherProof hproof => ?_)
    (fun _ hproof => hproof) (fun hstill => absurd hpending hstill.2)
    (fun _ => ⟨hproofs, hversion, hfresh.lifecycle _⟩)
  change Function.update record.lifecycle.releaseProofs release (some proof) other = _ at hproof
  by_cases hother : other = release
  · subst hother
    rw [Function.update_self] at hproof
    cases hproof
    exact .inr ⟨called, hcalled⟩
  · rw [Function.update_of_ne hother] at hproof
    exact .inl hproof

theorem Resumable.reopen (h : Resumable appId owner) {record : AppIdentityRecord}
    {lifecycle : AppIdentityLifecycle} (hstored : owner.stored = some record)
    (hpending : record.lifecycle.state = .activation_pending)
    (hlifecycle : activeAppIdentityLifecycle record.lifecycle = .ok lifecycle)
    (hcanonical : { record with lifecycle }.Canonical) :
    Resumable appId (owner.write { record with lifecycle }) := by
  have hactive : record.lifecycle.state ≠ .active := by simp [hpending]
  obtain ⟨earlier, start, later, hlast, hreset⟩ := h.resetting hstored hactive
  obtain ⟨hproofs, hversion, hfresh⟩ := hreset.pending hpending
  obtain ⟨_, hreleased, hlifecycle⟩ := bind_eq_ok.mp hlifecycle
  have hreleases := assertAppIdentityResetReleased_ok.mp hreleased
  cases hlifecycle
  refine h.write ⟨fun _ => .inr ⟨earlier, start, later, hlast, hreset.resetId, fun store => ?_,
      fun release => ?_⟩, fun _ => ⟨earlier, start, later, hlast, hversion, hfresh.lifecycle _⟩⟩
    hcanonical ((h.numbered record hstored).lifecycle (h.logged hstored) _) ?_
  · obtain ⟨proof, hproof⟩ := Option.ne_none_iff_exists'.mp (hproofs store)
    exact ⟨proof, hproof, hreset.proved store proof hproof⟩
  · obtain ⟨proof, hproof⟩ := Option.ne_none_iff_exists'.mp (hreleases release)
    exact ⟨proof, hproof, hreset.released release proof hproof⟩
  · refine .inr ⟨earlier, start, _, hlast.append (fun hstart => (by cases hstart)), ?_⟩
    exact hreset.save rfl (fun _ _ hproof => .inl hproof) (fun _ _ hproof => .inl hproof)
      (fun _ hproof => hproof) (fun hstill => absurd rfl hstill.1)
      (fun hstill => (by cases hstill))

/-- **Every history is resumable.** By induction on its acts: each act finds the record of the stage
it belongs to, and leaves that of the next, so whatever call fails, the record that is stored says
where to go on. -/
theorem resumable (serialization : ResetSerialization) (appId : String)
    (events : List IdentityEvent) :
    Resumable appId ((appIdentity serialization appId).run events) := by
  refine identity_invariant ?_ (fun owner after hact h => ?_) events
  · refine ⟨rfl, fun before entry hbefore => ?_, ?_, ?_, ?_⟩
    · exact absurd (List.prefix_nil.mp hbefore) (by simp)
    all_goals exact fun _ hrecord => (by cases hrecord)
  · cases hact with
    | provision hstored hrecord hcanonical => exact h.provision hstored hrecord hcanonical
    | block hstored hactive hlifecycle hcanonical =>
      exact h.block hstored hactive hlifecycle hcanonical
    | purger hstored hdestroying hmissing => exact h.purger hstored hdestroying hmissing
    | prove hstored hdestroying hpurged hlifecycle hcanonical =>
      exact h.prove hstored hdestroying hpurged hlifecycle hcanonical
    | replace hstored hdestroying hreplaced hcanonical =>
      exact h.replace hstored hdestroying hreplaced hcanonical
    | releaser hstored hpending hmissing => exact h.releaser hstored hpending
    | release hstored hreleased hlifecycle hcanonical =>
      exact h.release hstored hreleased hlifecycle hcanonical
    | reopen hstored hpending hlifecycle hcanonical =>
      exact h.reopen hstored hpending hlifecycle hcanonical

/-! ## 5. Refusals and repetitions -/

theorem requireAppIdentityRecord_answers {record : AppIdentityRecord} (text : String)
    (rest : List IdentityCallFate) (hstored : owner.stored = some record)
    (hcanonical : record.Canonical) :
    requireAppIdentityRecord { owner, fates := .answers text :: rest } =
      (.ok record, { owner, fates := rest }) := by
  have hload : load { owner, fates := .answers text :: rest } =
      (.ok (some record), { owner, fates := rest }) := by
    rw [← hstored]
    rfl
  unfold requireAppIdentityRecord
  rw [andThen_of_ok hload]
  change (assertCanonicalAppIdentityRecord record, _) = _
  rw [hcanonical]

theorem requireAppIdentityRecord_fails {fates : List IdentityCallFate}
    (h : ∀ text rest, fates ≠ .answers text :: rest) :
    ∃ message rest, requireAppIdentityRecord { owner, fates } =
      (.error message, { owner, fates := rest }) := by
  match fates with
  | [] => exact ⟨_, _, rfl⟩
  | .fails :: rest => exact ⟨_, _, rfl⟩
  | .writesAndFails :: rest => exact ⟨_, _, rfl⟩
  | .answers text :: rest => exact absurd rfl (h text rest)

/-- The workflow on a record it has loaded; where the load fails nothing happens. -/
theorem runReset_cases {record : AppIdentityRecord} (resetId : String) (generated : GeneratedKey)
    (fates : List IdentityCallFate) (hstored : owner.stored = some record)
    (hcanonical : record.Canonical) :
    (∃ message rest, (∀ text rest, fates ≠ .answers text :: rest) ∧
      runReset appId resetId generated { owner, fates } =
        (.error message, { owner, fates := rest })) ∨
    ∃ text rest, fates = .answers text :: rest ∧
      runReset appId resetId generated { owner, fates } =
        ((if record.lifecycle.state = .active ∧ record.lifecycle.resetId = some resetId then
            pure record
          else do
            let started ← startReset resetId record
            let replaced ← purgeAndReplace appId generated started
            let released ← releasePendingSinks APP_IDENTITY_RESET_RELEASES replaced
            let lifecycle ← resolve (activeAppIdentityLifecycle released.lifecycle)
            save { released with lifecycle }
            return { released with lifecycle } : ResetM AppIdentityRecord)
          { owner, fates := rest }) := by
  by_cases hfates : ∃ text rest, fates = .answers text :: rest
  · obtain ⟨text, rest, rfl⟩ := hfates
    refine .inr ⟨text, rest, rfl, ?_⟩
    exact andThen_of_ok (requireAppIdentityRecord_answers text rest hstored hcanonical)
  · have hfails : ∀ text rest, fates ≠ .answers text :: rest :=
      fun text rest heq => hfates ⟨text, rest, heq⟩
    obtain ⟨message, rest, hload⟩ := requireAppIdentityRecord_fails hfails
    exact .inl ⟨message, rest, hfails, andThen_of_error hload⟩

/-- **A second reset is refused** while another has the record. The refusal comes behind the calls
that read the record, so it has this message when these succeed, and what is stored stays in either
case. -/
theorem runReset_refused {record : AppIdentityRecord} {resetId : String} (appId : String)
    (generated : GeneratedKey) (fates : List IdentityCallFate) (hstored : owner.stored = some record)
    (hcanonical : record.Canonical) (hactive : record.lifecycle.state ≠ .active)
    (hother : record.lifecycle.resetId ≠ some resetId) :
    ∃ message rest, runReset appId resetId generated { owner, fates } =
      (.error message, { owner, fates := rest }) ∧
      ∀ text rest, fates = .answers text :: rest →
        message = "privacy: a different App identity reset is already running" := by
  rcases runReset_cases resetId generated fates hstored hcanonical with
    ⟨message, rest, hfails, hrun⟩ | ⟨text, rest, rfl, hrun⟩
  · exact ⟨message, rest, hrun, fun text rest heq => absurd heq (hfails text rest)⟩
  · have hrefused : startReset resetId record { owner, fates := rest } =
        (.error "privacy: a different App identity reset is already running",
          { owner, fates := rest }) := by
      unfold startReset
      rw [if_neg hactive, if_pos hother]
      rfl
    rw [if_neg (fun h => hactive h.1), andThen_of_error hrefused] at hrun
    exact ⟨_, rest, hrun, fun _ _ _ => rfl⟩

/-- **A finished reset is not repeated.** -/
theorem runReset_finished {record : AppIdentityRecord} {resetId : String} (appId : String)
    (generated : GeneratedKey) (fates : List IdentityCallFate) (hstored : owner.stored = some record)
    (hcanonical : record.Canonical) (hactive : record.lifecycle.state = .active)
    (hsame : record.lifecycle.resetId = some resetId) :
    ∃ answer rest, runReset appId resetId generated { owner, fates } =
      (answer, { owner, fates := rest }) ∧
      ∀ text rest, fates = .answers text :: rest → answer = .ok record := by
  rcases runReset_cases resetId generated fates hstored hcanonical with
    ⟨message, rest, hfails, hrun⟩ | ⟨text, rest, rfl, hrun⟩
  · exact ⟨_, rest, hrun, fun text rest heq => absurd heq (hfails text rest)⟩
  · rw [if_pos ⟨hactive, hsame⟩] at hrun
    exact ⟨_, rest, hrun, fun _ _ _ => rfl⟩

/-- Where a durable owner serializes the workflow, a reset is a run of it. -/
theorem step_reset {serialization : ResetSerialization} {resetId : String}
    {generated : GeneratedKey} {fates rest : List IdentityCallFate}
    {answer : Except String AppIdentityRecord} (hserial : serialization ≠ .processLocal)
    (hrun : runReset appId resetId generated { owner, fates } =
      (answer, { owner, fates := rest })) :
    owner.step serialization appId (.reset resetId generated fates) = (answer, owner) := by
  have hreset : resetCompromisedAppIdentity serialization appId resetId generated =
      runReset appId resetId generated := if_neg hserial
  change owner.run fates (resetCompromisedAppIdentity serialization appId resetId generated) = _
  rw [hreset, IdentityOwner.run, hrun]

/-- While the last reset has not reopened the traffic, a reset of another id throws and changes
nothing. -/
def RefusesAnother (serialization : ResetSerialization) (appId : String) (owner : IdentityOwner) :
    Prop :=
  ∀ record earlier start later resetId generated fates, lastSaved owner.log = some record →
    record.lifecycle.trafficBlocked = true → LastStart owner.log earlier start later →
    start.lifecycle.resetId ≠ some resetId →
    ∃ message, owner.step serialization appId (.reset resetId generated fates) =
        (.error message, owner) ∧
      (serialization ≠ .processLocal → ∀ text rest, fates = .answers text :: rest →
        message = "privacy: a different App identity reset is already running")

/-- Once the last reset has reopened the traffic, the same reset again changes nothing, and answers
with the record. -/
def RepeatsNothing (serialization : ResetSerialization) (appId : String) (owner : IdentityOwner) :
    Prop :=
  ∀ record earlier start later resetId generated fates, lastSaved owner.log = some record →
    record.lifecycle.trafficBlocked = false → LastStart owner.log earlier start later →
    start.lifecycle.resetId = some resetId →
    ∃ answer, owner.step serialization appId (.reset resetId generated fates) = (answer, owner) ∧
      (serialization ≠ .processLocal → ∀ text rest, fates = .answers text :: rest →
        answer = .ok record)

theorem Resumable.resetId (h : Resumable appId owner) {record start : AppIdentityRecord}
    {earlier later : List IdentityEntry} (hstored : owner.stored = some record)
    (hlast : LastStart owner.log earlier start later) :
    record.lifecycle.resetId = start.lifecycle.resetId := by
  rcases h.phase record hstored with ⟨-, -, hnone⟩ | ⟨_, start', _, hlast', hreset⟩
  · refine absurd hlast.starts (hnone (.saved start) ?_)
    rw [hlast.split]
    simp
  · rw [hreset.resetId, hlast.unique hlast']

theorem Resumable.refusesAnother (h : Resumable appId owner)
    (serialization : ResetSerialization) : RefusesAnother serialization appId owner := by
  intro record earlier start later resetId generated fates hsaved hblocked hlast hother
  have hstored : owner.stored = some record := h.stored.trans hsaved
  have hcanonical := h.canonical record hstored
  have hactive := (assertCanonicalAppIdentityRecord_ok hcanonical).2.2.2.mp hblocked
  rw [← h.resetId hstored hlast] at hother
  by_cases hserial : serialization = .processLocal
  · exact ⟨_, by rw [hserial]; rfl, fun hne => absurd hserial hne⟩
  · obtain ⟨message, rest, hrun, hmessage⟩ :=
      runReset_refused appId generated fates hstored hcanonical hactive hother
    exact ⟨message, step_reset hserial hrun, fun _ => hmessage⟩

theorem Resumable.repeatsNothing (h : Resumable appId owner)
    (serialization : ResetSerialization) : RepeatsNothing serialization appId owner := by
  intro record earlier start later resetId generated fates hsaved hopen hlast hsame
  have hstored : owner.stored = some record := h.stored.trans hsaved
  have hcanonical := h.canonical record hstored
  have hactive : record.lifecycle.state = .active := by
    by_contra hstate
    rw [(assertCanonicalAppIdentityRecord_ok hcanonical).2.2.2.mpr hstate] at hopen
    cases hopen
  rw [← h.resetId hstored hlast] at hsame
  by_cases hserial : serialization = .processLocal
  · exact ⟨_, by rw [hserial]; rfl, fun hne => absurd hserial hne⟩
  · obtain ⟨answer, rest, hrun, hanswer⟩ :=
      runReset_finished appId generated fates hstored hcanonical hactive hsame
    exact ⟨answer, step_reset hserial hrun, fun _ => hanswer⟩

end AppIdentityReset

open AppIdentityReset in
/-- **A compromised-key reset resumes, and never reopens early.**  In every history each entry of
the log is lawful, the store holds the record saved last, and resets are neither mixed nor
repeated. -/
theorem compromised_key_reset (serialization : ResetSerialization) (appId : String)
    (events : List IdentityEvent) :
    let owner := (appIdentity serialization appId).run events
    owner.stored = lastSaved owner.log ∧
      (∀ before entry, before ++ [entry] <+: owner.log → Lawful appId before entry) ∧
      RefusesAnother serialization appId owner ∧ RepeatsNothing serialization appId owner := by
  have h := resumable serialization appId events
  exact ⟨h.stored, h.lawful, h.refusesAnother serialization, h.repeatsNothing serialization⟩

/-- A purger fails, the reset is called again, and the App is open under a new key. -/
example :
    let generated : GeneratedKey := ⟨List.replicate 32 7, rfl⟩
    let owner := (appIdentity .durable "app").run
      [.provision [1] generated [.answers "", .answers ""],
        .reset "reset" generated [.answers "", .answers "", .fails],
        .reset "reset" generated (List.replicate 21 (.answers "proof"))]
    owner.stored.map (fun record => (record.versions, record.lifecycle.trafficBlocked)) =
      some (["app-v2"], false) := by
  decide +kernel

end Splitch
