/-
# Deliveries settle on what was confirmed

Versions of an Environment are pushed to its installations, by dispatches that run at once.  A delivery is a
row with a lease; a dispatch claims rows, asks the receiver, and finishes them if it owns the lease still.
What must not happen is that a version counts as applied that no receiver has confirmed, or that one which
was applied is taken back.

Every statement on the rows is one MOVE (`DeliveryMove`): versions and applied versions only grow, a row
keeps what it delivers, and a row is suppressed for a reason that stays one.  Each statement is shown to be
one by itself, and what holds of the rows in every run follows from the moves alone.

What holds of the dispatches needs the leases.  A lease has one owner, its token is new, and whoever owns it
has read the row at the version that it delivers (`PushInv.claim`).  A dispatch remembers what its receiver
has answered, and so a finish that delivers is one for a version that was confirmed to it
(`finishOk_settled`).  Without its lease a finish changes nothing (`finishDelivery_of_not_owns`), whatever
the dispatch still believes.

The result is `cloudflare_push_settles`.  By design a new version of the Environment suppresses a pending
delivery of an older one, so a delivery may be settled without ever having been sent
(`superseded_unapplied`).
-/
import Splitch.CloudflarePush.PushDispatch

namespace Splitch

namespace CloudflarePush

open DeliveryDatabase

/-! ## 1. Rows under a write -/

section

variable {α : Type} {rows : List α} {selected : α → Prop} [DecidablePred selected] {update : α → α}

theorem mem_updateRows {row' : α} (h : row' ∈ updateRows rows selected update) :
    ∃ row ∈ rows, selected row ∧ row' = update row ∨ ¬ selected row ∧ row' = row := by
  obtain ⟨row, hrow, rfl⟩ := List.mem_map.mp h
  refine ⟨row, hrow, ?_⟩
  split
  · exact .inl ⟨‹_›, rfl⟩
  · exact .inr ⟨‹_›, rfl⟩

theorem updateRows_mem {row : α} (h : row ∈ rows) :
    (if selected row then update row else row) ∈ updateRows rows selected update :=
  List.mem_map_of_mem h

theorem updateRows_eq_self (h : ∀ row ∈ rows, ¬ selected row) :
    updateRows rows selected update = rows :=
  (List.map_congr_left fun row hrow => if_neg (h row hrow)).trans (List.map_id' _)

end

theorem mem_insertDelivery {rows : List CloudflareDelivery} {row row' : CloudflareDelivery}
    (h : row' ∈ insertDelivery rows row) : row' ∈ rows ∨ row' = row := by
  unfold insertDelivery at h
  split at h
  · exact .inl h
  · exact (List.mem_append.mp h).imp id List.mem_singleton.mp

theorem mem_foldl_insertDelivery {α : Type} {inserted : α → CloudflareDelivery}
    {row' : CloudflareDelivery} (items : List α) :
    ∀ rows, row' ∈ items.foldl (fun rows item => insertDelivery rows (inserted item)) rows →
      row' ∈ rows ∨ ∃ item ∈ items, row' = inserted item := by
  induction items with
  | nil => exact fun _ h => .inl h
  | cons item items ih =>
    intro rows h
    rcases ih _ h with hrows | ⟨other, hother, rfl⟩
    · rcases mem_insertDelivery hrows with hrows | rfl
      · exact .inl hrows
      · exact .inr ⟨item, List.mem_cons_self, rfl⟩
    · exact .inr ⟨other, List.mem_cons_of_mem _ hother, rfl⟩

/-- An update leaves the ids. -/
theorem nodup_updateRows {rows : List CloudflareDelivery} {selected : CloudflareDelivery → Prop}
    [DecidablePred selected] {update : CloudflareDelivery → CloudflareDelivery}
    (h : (rows.map (·.deliveryId)).Nodup)
    (hid : ∀ row, (update row).deliveryId = row.deliveryId) :
    ((updateRows rows selected update).map (·.deliveryId)).Nodup := by
  have hids : (updateRows rows selected update).map (·.deliveryId) =
      rows.map (·.deliveryId) := by
    unfold updateRows
    rw [List.map_map]
    refine List.map_congr_left fun row _ => ?_
    rw [Function.comp_apply]
    split
    · exact hid row
    · rfl
  rw [hids]
  exact h

theorem nodup_insertDelivery {rows : List CloudflareDelivery}
    (h : (rows.map (·.deliveryId)).Nodup) (row : CloudflareDelivery) :
    ((insertDelivery rows row).map (·.deliveryId)).Nodup := by
  unfold insertDelivery
  split
  · exact h
  · rename_i hnew
    rw [List.map_append, List.map_singleton]
    refine List.nodup_append.mpr ⟨h, List.nodup_singleton _, fun id hid other hother hsame => ?_⟩
    obtain ⟨stored, hstored, rfl⟩ := List.mem_map.mp hid
    exact hnew ⟨stored, hstored, .inl (hsame.trans (List.mem_singleton.mp hother))⟩

theorem nodup_foldl_insertDelivery {α : Type} {inserted : α → CloudflareDelivery}
    (items : List α) : ∀ rows : List CloudflareDelivery, (rows.map (·.deliveryId)).Nodup →
      ((items.foldl (fun rows item => insertDelivery rows (inserted item)) rows).map
        (·.deliveryId)).Nodup := by
  induction items with
  | nil => exact fun _ h => h
  | cons item items ih => exact fun rows h => ih _ (nodup_insertDelivery h _)

/-! ## 2. Moves -/

/-- An applied version is kept, or a higher one follows. -/
def AppliedLe (before after : Option Int) : Prop :=
  ∀ version, before = some version → ∃ version', after = some version' ∧ version ≤ version'

theorem AppliedLe.refl (version : Option Int) : AppliedLe version version :=
  fun version h => ⟨version, h, le_rfl⟩

/-- Why a delivery may be suppressed: an applied version covers it, a newer version of the Environment
supersedes it, or its Environment has revoked the installation. -/
def Excused (revocations : List Revocation) (db : DeliveryDatabase) (row : CloudflareDelivery) :
    Prop :=
  (∃ installation ∈ db.installations, installation.installationId = row.installationId ∧
    ∃ version, installation.lastAppliedVersion = some version ∧ row.environmentVersion ≤ version) ∨
  (∃ configVersion, db.environments row.appId row.environmentId = some configVersion ∧
    row.environmentVersion < configVersion) ∨
  ⟨row.appId, row.environmentId, row.installationId⟩ ∈ revocations

/-- What identifies a delivery. -/
structure SameDelivery (row row' : CloudflareDelivery) : Prop where
  deliveryId : row'.deliveryId = row.deliveryId
  installationId : row'.installationId = row.installationId
  appId : row'.appId = row.appId
  environmentId : row'.environmentId = row.environmentId
  environmentVersion : row'.environmentVersion = row.environmentVersion

theorem SameDelivery.refl (row : CloudflareDelivery) : SameDelivery row row :=
  ⟨rfl, rfl, rfl, rfl, rfl⟩

/-- What a statement does to a delivery, with the owner that it hands leases to and the rows that it
may deliver. -/
inductive RowMove (revocations : List Revocation) (newOwner : Option Nat)
    (delivers : CloudflareDelivery → Prop) (db after : DeliveryDatabase) (row' : CloudflareDelivery) : Prop
  | kept (row : CloudflareDelivery) (mem : row ∈ db.deliveries) (same : SameDelivery row row')
      (owner : row'.leaseOwner = none ∨ row'.leaseOwner = row.leaseOwner ∨
        row'.leaseOwner = newOwner)
      (delivered : row'.state = .delivered → row.state = .delivered ∨ delivers row)
      (suppressed : row'.state = .suppressed → row.state = .suppressed ∨
        Excused revocations after row')
  | inserted (state : row'.state = .pending) (owner : row'.leaseOwner = none)
      (installation : ∃ installation ∈ after.installations,
        installation.installationId = row'.installationId)
      (version : after.environments row'.appId row'.environmentId = some row'.environmentVersion)

structure DeliveryMove (revocations : List Revocation) (newOwner : Option Nat)
    (delivers : CloudflareDelivery → Prop) (db after : DeliveryDatabase) : Prop where
  environments : ∀ appId environmentId version, db.environments appId environmentId = some version →
    ∃ version', after.environments appId environmentId = some version' ∧ version ≤ version'
  installations : ∀ row ∈ db.installations, ∃ row' ∈ after.installations,
    row'.installationId = row.installationId ∧
      AppliedLe row.lastAppliedVersion row'.lastAppliedVersion
  deliveries : ∀ row' ∈ after.deliveries, RowMove revocations newOwner delivers db after row'
  keyed : (db.deliveries.map (·.deliveryId)).Nodup → (after.deliveries.map (·.deliveryId)).Nodup

section

variable {revocations revocations' : List Revocation} {newOwner : Option Nat}
  {delivers : CloudflareDelivery → Prop} {db after : DeliveryDatabase} {row : CloudflareDelivery}

/-- A row as it is. -/
theorem RowMove.refl (hrow : row ∈ db.deliveries) : RowMove revocations newOwner delivers db after row :=
  .kept row hrow (.refl row) (.inr (.inl rfl)) .inl .inl

theorem environments_refl (h : after.environments = db.environments) :
    ∀ appId environmentId version, db.environments appId environmentId = some version →
      ∃ version', after.environments appId environmentId = some version' ∧ version ≤ version' :=
  fun _ _ version hversion => ⟨version, h ▸ hversion, le_rfl⟩

theorem installations_refl (h : after.installations = db.installations) :
    ∀ row ∈ db.installations, ∃ row' ∈ after.installations,
      row'.installationId = row.installationId ∧
        AppliedLe row.lastAppliedVersion row'.lastAppliedVersion :=
  fun row hrow => ⟨row, h ▸ hrow, rfl, .refl _⟩

/-- A statement that changes nothing. -/
theorem DeliveryMove.refl (db : DeliveryDatabase) :
    DeliveryMove revocations newOwner delivers db db :=
  ⟨environments_refl rfl, installations_refl rfl, fun _ hrow => .refl hrow, id⟩

/-- A reason to be suppressed stays one. -/
theorem Excused.move (h : Excused revocations db row) (hrevoked : revocations ⊆ revocations')
    (hmove : DeliveryMove revocations' newOwner delivers db after) {row' : CloudflareDelivery}
    (hsame : SameDelivery row row') : Excused revocations' after row' := by
  unfold Excused
  rw [hsame.installationId, hsame.appId, hsame.environmentId, hsame.environmentVersion]
  rcases h with ⟨installation, hmem, hid, version, hversion, hle⟩ |
    ⟨configVersion, hconfig, hlt⟩ | hmem
  · obtain ⟨next, hnext, hnextId, happlied⟩ := hmove.installations installation hmem
    obtain ⟨version', hversion', hle'⟩ := happlied version hversion
    exact .inl ⟨next, hnext, hnextId.trans hid, version', hversion', hle.trans hle'⟩
  · obtain ⟨configVersion', hconfig', hle'⟩ := hmove.environments _ _ _ hconfig
    exact .inr (.inl ⟨configVersion', hconfig', hlt.trans_le hle'⟩)
  · exact .inr (.inr (hrevoked hmem))

/-! ## 3. What holds of the rows -/

structure TablesOk (revocations : List Revocation) (db : DeliveryDatabase) : Prop where
  keyed : (db.deliveries.map (·.deliveryId)).Nodup
  installation : ∀ row ∈ db.deliveries, ∃ installation ∈ db.installations,
    installation.installationId = row.installationId
  version : ∀ row ∈ db.deliveries, ∃ configVersion,
    db.environments row.appId row.environmentId = some configVersion ∧
      row.environmentVersion ≤ configVersion
  suppressed : ∀ row ∈ db.deliveries, row.state = .suppressed → Excused revocations db row

theorem TablesOk.move (h : TablesOk revocations db) (hrevoked : revocations ⊆ revocations')
    (hmove : DeliveryMove revocations' newOwner delivers db after) :
    TablesOk revocations' after where
  keyed := hmove.keyed h.keyed
  installation := fun row' hrow' => by
    cases hmove.deliveries row' hrow' with
    | kept row hrow hsame =>
      obtain ⟨installation, hmem, hid⟩ := h.installation row hrow
      obtain ⟨next, hnext, hnextId, -⟩ := hmove.installations installation hmem
      exact ⟨next, hnext, hnextId.trans (hid.trans hsame.installationId.symm)⟩
    | inserted _ _ hinstallation => exact hinstallation
  version := fun row' hrow' => by
    cases hmove.deliveries row' hrow' with
    | kept row hrow hsame =>
      obtain ⟨configVersion, hconfig, hle⟩ := h.version row hrow
      obtain ⟨configVersion', hconfig', hle'⟩ := hmove.environments _ _ _ hconfig
      rw [hsame.appId, hsame.environmentId, hsame.environmentVersion]
      exact ⟨configVersion', hconfig', hle.trans hle'⟩
    | inserted _ _ _ hversion => exact ⟨_, hversion, le_rfl⟩
  suppressed := fun row' hrow' hstate => by
    cases hmove.deliveries row' hrow' with
    | kept row hrow hsame _ _ hsuppressed =>
      rcases hsuppressed hstate with hbefore | hexcused
      · exact (h.suppressed row hrow hbefore).move hrevoked hmove hsame
      · exact hexcused
    | inserted hpending => cases hpending.symm.trans hstate

end

/-! ## 4. The statements -/

section

variable {revocations : List Revocation} {newOwner : Option Nat}
  {delivers : CloudflareDelivery → Prop} {db : DeliveryDatabase}

theorem move_createInstallation (appId environmentId : String) (input : InstallationWrite)
    (deliveryId : String) :
    DeliveryMove revocations newOwner delivers db
      (db.createInstallation appId environmentId input deliveryId) where
  environments := environments_refl rfl
  installations := fun row hrow => by
    refine ⟨row, ?_, rfl, .refl _⟩
    unfold createInstallation
    dsimp only
    split
    · exact hrow
    · exact List.mem_append_left _ hrow
  deliveries := fun row' hrow' => by
    unfold createInstallation at hrow'
    dsimp only at hrow'
    cases hconfig : db.environments appId environmentId with
    | none =>
      rw [hconfig] at hrow'
      exact .refl hrow'
    | some configVersion =>
      rw [hconfig] at hrow'
      rcases mem_insertDelivery hrow' with hrow | rfl
      · exact .refl hrow
      · refine .inserted rfl rfl ?_ hconfig
        unfold createInstallation
        dsimp only
        split
        · exact ‹_›
        · exact ⟨_, List.mem_append_right _ List.mem_cons_self, rfl⟩
  keyed := fun h => by
    unfold createInstallation
    dsimp only
    split
    · exact h
    · exact nodup_insertDelivery h _

theorem move_revokeInstallation (appId environmentId installationId : String) (now : Int)
    (hrevoked : ⟨appId, environmentId, installationId⟩ ∈ revocations) :
    DeliveryMove revocations newOwner delivers db
      (db.revokeInstallation appId environmentId installationId now) where
  environments := environments_refl rfl
  installations := fun row hrow => by
    refine ⟨_, updateRows_mem hrow, ?_⟩
    split
    · exact ⟨rfl, .refl _⟩
    · exact ⟨rfl, .refl _⟩
  deliveries := fun row' hrow' => by
    obtain ⟨row, hrow, ⟨⟨rfl, rfl, rfl, -⟩, rfl⟩ | ⟨-, rfl⟩⟩ := mem_updateRows hrow'
    · exact .kept row hrow ⟨rfl, rfl, rfl, rfl, rfl⟩ (.inl rfl) nofun
        fun _ => .inr (.inr (.inr hrevoked))
    · exact .refl hrow
  keyed := fun h => nodup_updateRows h fun _ => rfl

/-- A version of the Environment supersedes every version before it. -/
theorem move_bumpConfigVersion (hdb : TablesOk revocations db) (appId environmentId : String)
    (now : Int) :
    DeliveryMove revocations newOwner delivers db (db.bumpConfigVersion appId environmentId now) := by
  unfold bumpConfigVersion
  cases hconfig : db.environments appId environmentId with
  | none => exact .refl db
  | some configVersion =>
    have hnext : Function.update db.environments appId
        (Function.update (db.environments appId) environmentId (some (configVersion + 1))) appId
          environmentId = some (configVersion + 1) := by
      rw [Function.update_self, Function.update_self]
    refine ⟨fun otherApp otherEnvironment version hversion => ?_, installations_refl rfl,
      fun row' hrow' => ?_,
      fun h => nodup_foldl_insertDelivery _ _ (nodup_updateRows h fun _ => rfl)⟩
    · dsimp only
      by_cases happ : otherApp = appId
      · subst happ
        by_cases henvironment : otherEnvironment = environmentId
        · subst henvironment
          cases hconfig.symm.trans hversion
          exact ⟨_, hnext, Nat.le_succ _⟩
        · rw [Function.update_self, Function.update_of_ne henvironment]
          exact ⟨version, hversion, le_rfl⟩
      · rw [Function.update_of_ne happ]
        exact ⟨version, hversion, le_rfl⟩
    · rcases mem_foldl_insertDelivery _ _ hrow' with hrow | ⟨installation, hmem, rfl⟩
      · obtain ⟨row, hbefore, ⟨⟨rfl, rfl, -⟩, rfl⟩ | ⟨-, rfl⟩⟩ := mem_updateRows hrow
        · refine .kept row hbefore ⟨rfl, rfl, rfl, rfl, rfl⟩ (.inr (.inl rfl)) nofun fun _ =>
            .inr (.inr (.inl ⟨_, hnext, ?_⟩))
          obtain ⟨version, hversion, hle⟩ := hdb.version row hbefore
          cases hconfig.symm.trans hversion
          exact Nat.lt_succ_of_le hle
        · exact .refl hbefore
      · exact .inserted rfl rfl ⟨installation, List.mem_of_mem_filter hmem, rfl⟩ hnext

theorem move_retryTerminalDelivery (appId environmentId installationId deliveryId : String)
    (now : Int) :
    DeliveryMove revocations newOwner delivers db
      (db.retryTerminalDelivery appId environmentId installationId deliveryId now) := by
  unfold retryTerminalDelivery
  cases hconfig : db.environments appId environmentId with
  | none => exact .refl db
  | some configVersion =>
    dsimp only
    split
    · rename_i hactive
      obtain ⟨installation, hmem, -, -, hid, -⟩ := hactive
      refine ⟨environments_refl rfl, installations_refl rfl, fun row' hrow' => ?_,
        fun h => nodup_updateRows (nodup_insertDelivery h _) fun _ => rfl⟩
      obtain ⟨row, hrow, hupdated⟩ := mem_updateRows hrow'
      rcases mem_insertDelivery hrow with hkept | rfl
      · rcases hupdated with ⟨-, rfl⟩ | ⟨-, rfl⟩
        · exact .kept row hkept ⟨rfl, rfl, rfl, rfl, rfl⟩ (.inl rfl) nofun nofun
        · exact .refl hkept
      · rcases hupdated with ⟨⟨-, -, -, hterminal, -⟩, -⟩ | ⟨-, rfl⟩
        · cases hterminal
        · exact .inserted rfl rfl ⟨installation, hmem, hid⟩ hconfig
    · exact .refl db

theorem move_pruneDeliveries (deliveryIds : List String) :
    DeliveryMove revocations newOwner delivers db (db.pruneDeliveries deliveryIds) :=
  ⟨environments_refl rfl, installations_refl rfl,
    fun _ hrow' => .refl (List.mem_of_mem_filter hrow'),
    fun h => h.sublist (List.filter_sublist.map _)⟩

/-- A claim hands its leases to the new owner. -/
theorem move_leased (now : Int) (leaseOwner : Nat) (leaseExpiresAt : Int) (limit : Nat)
    (scope : Option TenantScope) :
    DeliveryMove revocations (some leaseOwner) delivers db
      (db.leased now leaseOwner leaseExpiresAt limit scope) := by
  refine ⟨environments_refl rfl, installations_refl rfl, fun row' hrow' => ?_,
    fun h => nodup_updateRows h fun _ => rfl⟩
  obtain ⟨row, hrow, ⟨-, rfl⟩ | ⟨-, rfl⟩⟩ := mem_updateRows hrow'
  · exact .kept row hrow ⟨rfl, rfl, rfl, rfl, rfl⟩ (.inr (.inr rfl)) nofun nofun
  · exact .refl hrow

theorem move_renewDeliveryLease (deliveryId : String) (leaseOwner : Nat)
    (now leaseExpiresAt : Int) :
    DeliveryMove revocations newOwner delivers db
      (db.renewDeliveryLease deliveryId leaseOwner now leaseExpiresAt).2 := by
  refine ⟨environments_refl rfl, installations_refl rfl, fun row' hrow' => ?_,
    fun h => nodup_updateRows h fun _ => rfl⟩
  obtain ⟨row, hrow, ⟨-, rfl⟩ | ⟨-, rfl⟩⟩ := mem_updateRows hrow'
  · exact .kept row hrow ⟨rfl, rfl, rfl, rfl, rfl⟩ (.inr (.inl rfl)) .inl .inl
  · exact .refl hrow

theorem toState_eq_delivered {state : FinishState} :
    state.toState = .delivered ↔ state = .delivered := by
  cases state <;> decide

theorem toState_ne_suppressed (state : FinishState) : state.toState ≠ .suppressed := by
  cases state <;> decide

/-- The rows that a finish delivers. -/
def Finishes (deliveryId : String) (leaseOwner : Nat) (input : DeliveryFinish)
    (row : CloudflareDelivery) : Prop :=
  row.deliveryId = deliveryId ∧ row.leaseOwner = some leaseOwner ∧ input.state = .delivered

theorem applied_settledInstallation (deliveryId : String) (input : DeliveryFinish)
    (row : CloudflareInstallation) :
    AppliedLe row.lastAppliedVersion
      (db.settledInstallation deliveryId input row).lastAppliedVersion := by
  unfold settledInstallation
  split
  · intro version hversion
    refine ⟨_, rfl, ?_⟩
    rw [hversion]
    exact le_max_left _ _
  · exact .refl _

theorem installationId_settledInstallation (deliveryId : String) (input : DeliveryFinish)
    (row : CloudflareInstallation) :
    (db.settledInstallation deliveryId input row).installationId = row.installationId := by
  unfold settledInstallation
  split <;> rfl

/-- A finish suppresses what the version that it applies covers. -/
theorem excused_of_covered (hdb : TablesOk revocations db) {deliveryId : String}
    {leaseOwner : Nat} {input : DeliveryFinish} {row : CloudflareDelivery}
    (hrow : row ∈ db.deliveries) (hcovered : db.Covered deliveryId input row)
    (howns : db.Owns deliveryId leaseOwner) {row' : CloudflareDelivery}
    (hsame : SameDelivery row row') :
    Excused revocations (db.finishDelivery deliveryId leaseOwner input) row' := by
  obtain ⟨hinstallation, -, hversion⟩ := hcovered
  obtain ⟨installation, hmem, hid⟩ := hdb.installation row hrow
  left
  rw [hsame.installationId, hsame.environmentVersion]
  refine ⟨_, updateRows_mem hmem, ?_⟩
  rw [if_pos ⟨hid ▸ hinstallation, howns⟩]
  refine ⟨(installationId_settledInstallation _ _ _).trans hid, ?_⟩
  unfold settledInstallation
  split at hversion
  · rw [if_pos ‹_›]
    exact ⟨_, rfl, hversion.trans (le_max_right _ _)⟩
  · omega

theorem move_finishDelivery (hdb : TablesOk revocations db) (deliveryId : String)
    (leaseOwner : Nat) (input : DeliveryFinish) :
    DeliveryMove revocations newOwner (Finishes deliveryId leaseOwner input) db
      (db.finishDelivery deliveryId leaseOwner input) where
  environments := environments_refl rfl
  installations := fun row hrow => by
    refine ⟨_, updateRows_mem hrow, ?_⟩
    split
    · exact ⟨installationId_settledInstallation _ _ _, applied_settledInstallation _ _ _⟩
    · exact ⟨rfl, .refl _⟩
  deliveries := fun row' hrow' => by
    obtain ⟨middle, hmiddle, hfinished⟩ := mem_updateRows hrow'
    obtain ⟨row, hrow, ⟨⟨hcovered, howns⟩, rfl⟩ | ⟨-, rfl⟩⟩ := mem_updateRows hmiddle
    · rcases hfinished with ⟨⟨hid, howner⟩, rfl⟩ | ⟨-, rfl⟩
      · exact .kept row hrow ⟨rfl, rfl, rfl, rfl, rfl⟩ (.inl rfl)
          (fun h => .inr ⟨hid, howner, toState_eq_delivered.mp h⟩)
          fun h => absurd h (toState_ne_suppressed _)
      · exact .kept row hrow ⟨rfl, rfl, rfl, rfl, rfl⟩ (.inr (.inl rfl)) nofun fun _ =>
          .inr (excused_of_covered hdb hrow hcovered howns ⟨rfl, rfl, rfl, rfl, rfl⟩)
    · rcases hfinished with ⟨⟨hid, howner⟩, rfl⟩ | ⟨-, rfl⟩
      · exact .kept middle hrow ⟨rfl, rfl, rfl, rfl, rfl⟩ (.inl rfl)
          (fun h => .inr ⟨hid, howner, toState_eq_delivered.mp h⟩)
          fun h => absurd h (toState_ne_suppressed _)
      · exact .refl hrow
  keyed := fun h => nodup_updateRows (nodup_updateRows h fun _ => rfl) fun _ => rfl

end

/-! ## 5. What holds of the dispatches -/

/-- The receiver has confirmed the version of a delivery, or a higher one.  Zero, the version of an
Environment that has no configuration yet, is what a header that is missing reads as. -/
def Confirmed (confirmations : List Confirmation) (deliveryId : String)
    (environmentVersion : Nat) : Prop :=
  0 < environmentVersion → ∃ confirmation ∈ confirmations,
    confirmation.deliveryId = deliveryId ∧ environmentVersion ≤ confirmation.version

theorem Confirmed.mono {confirmations confirmations' : List Confirmation} {deliveryId : String}
    {environmentVersion : Nat} (h : Confirmed confirmations deliveryId environmentVersion)
    (hsub : confirmations ⊆ confirmations') :
    Confirmed confirmations' deliveryId environmentVersion := by
  intro hpositive
  obtain ⟨confirmation, hmem, hconfirmation⟩ := h hpositive
  exact ⟨confirmation, hsub hmem, hconfirmation⟩

/-- The finish that a delivery is about to make. -/
def PushStage.input : PushStage → Option DeliveryFinish
  | .finishing input | .failing input => some input
  | .preparing | .renewing | .sending | .over => none

/-- A delivery that is about to be recorded as delivered was confirmed. -/
def FinishOk (confirmations : List Confirmation) (delivery : ClaimedDelivery) (stage : PushStage) :
    Prop :=
  ∀ input, stage.input = some input → input.state = .delivered →
    Confirmed confirmations delivery.deliveryId delivery.environmentVersion

theorem FinishOk.none {confirmations : List Confirmation} {delivery : ClaimedDelivery}
    {stage : PushStage} (h : stage.input = none) : FinishOk confirmations delivery stage :=
  fun _ hinput => (by cases h.symm.trans hinput)

structure PushInv (world : PushWorld) : Prop where
  tables : TablesOk world.revocations world.db
  rowOwner : ∀ row ∈ world.db.deliveries, ∀ owner, row.leaseOwner = some owner →
    owner < world.nextOwner
  taskOwner : ∀ task ∈ world.tasks, task.leaseOwner < world.nextOwner
  /-- The row that a delivery owns is of the version that it was claimed at. -/
  version : ∀ task ∈ world.tasks, ∀ row ∈ world.db.deliveries,
    row.deliveryId = task.delivery.deliveryId → row.leaseOwner = some task.leaseOwner →
      row.environmentVersion = task.delivery.environmentVersion
  finish : ∀ task ∈ world.tasks, FinishOk world.confirmations task.delivery task.stage
  delivered : ∀ row ∈ world.db.deliveries, row.state = .delivered →
    Confirmed world.confirmations row.deliveryId row.environmentVersion

section

variable {world : PushWorld} {number : Nat} {task : PushTask} {after : DeliveryDatabase}
  {delivers : CloudflareDelivery → Prop}

/-- A statement that hands out no lease, and delivers what was confirmed. -/
theorem PushInv.move (h : PushInv world) {revocations : List Revocation}
    (hrevoked : world.revocations ⊆ revocations)
    (hmove : DeliveryMove revocations none delivers world.db after)
    (hdelivers : ∀ row ∈ world.db.deliveries, delivers row →
      Confirmed world.confirmations row.deliveryId row.environmentVersion) :
    PushInv { world with db := after, revocations } where
  tables := h.tables.move hrevoked hmove
  rowOwner := fun row' hrow' owner howner => by
    cases hmove.deliveries row' hrow' with
    | kept row hrow _ howned =>
      rcases howned with hnone | hsame | hnone
      · cases hnone.symm.trans howner
      · exact h.rowOwner row hrow owner (hsame.symm.trans howner)
      · cases hnone.symm.trans howner
    | inserted _ hnone => cases hnone.symm.trans howner
  taskOwner := h.taskOwner
  version := fun task htask row' hrow' hid howner => by
    cases hmove.deliveries row' hrow' with
    | kept row hrow hsame howned =>
      rw [hsame.environmentVersion]
      refine h.version task htask row hrow (hsame.deliveryId.symm.trans hid) ?_
      rcases howned with hnone | hkept | hnone
      · cases hnone.symm.trans howner
      · exact hkept.symm.trans howner
      · cases hnone.symm.trans howner
    | inserted _ hnone => cases hnone.symm.trans howner
  finish := h.finish
  delivered := fun row' hrow' hstate => by
    cases hmove.deliveries row' hrow' with
    | kept row hrow hsame _ hdelivered =>
      rw [hsame.deliveryId, hsame.environmentVersion]
      rcases hdelivered hstate with hbefore | hdelivering
      · exact h.delivered row hrow hbefore
      · exact hdelivers row hrow hdelivering
    | inserted hpending => cases hpending.symm.trans hstate

theorem PushInv.silent (h : PushInv world) {revocations : List Revocation}
    (hrevoked : world.revocations ⊆ revocations)
    (hmove : DeliveryMove revocations none (fun _ => False) world.db after) :
    PushInv { world with db := after, revocations } :=
  h.move hrevoked hmove fun _ _ => False.elim

theorem PushInv.goTo (h : PushInv world) (htask : task ∈ world.tasks) {stage : PushStage}
    (hfinish : FinishOk world.confirmations task.delivery stage) :
    PushInv (world.goTo number task stage) := by
  have hcases {other : PushTask} (hother : other ∈ world.tasks.set number { task with stage }) :
      other ∈ world.tasks ∨ other = { task with stage } := List.mem_or_eq_of_mem_set hother
  refine ⟨h.tables, h.rowOwner, fun other hother => ?_, fun other hother => ?_,
    fun other hother => ?_, h.delivered⟩
  · rcases hcases hother with hother | rfl
    · exact h.taskOwner other hother
    · exact h.taskOwner task htask
  · rcases hcases hother with hother | rfl
    · exact h.version other hother
    · exact h.version task htask
  · rcases hcases hother with hother | rfl
    · exact h.finish other hother
    · exact hfinish

/-- A receiver confirms a version. -/
theorem PushInv.confirm (h : PushInv world) (more : List Confirmation) :
    PushInv { world with confirmations := world.confirmations ++ more } where
  tables := h.tables
  rowOwner := h.rowOwner
  taskOwner := h.taskOwner
  version := h.version
  finish := fun task htask input hinput hstate =>
    (h.finish task htask input hinput hstate).mono (List.subset_append_left _ _)
  delivered := fun row hrow hstate =>
    (h.delivered row hrow hstate).mono (List.subset_append_left _ _)

/-! ## 6. Steps -/

theorem finishOk_failing (confirmations : List Confirmation) (causeName : String) :
    FinishOk confirmations task.delivery (.failing (task.preparationFailed causeName)) := by
  intro input hinput hstate
  cases hinput
  cases hstate

/-- **What an answer leads to**: a delivery that is confirmed, or a finish that delivers nothing. The
finish is put together before it is written, so the confirmation is recorded with it, and what the
finish will write is already covered. -/
theorem finishOk_settled (confirmations : List Confirmation) (now : Int)
    (result : WebhookPostResult) :
    FinishOk
      (confirmations ++
        (result.confirmedVersion.map (Confirmation.mk task.delivery.deliveryId)).toList)
      task.delivery (.finishing (task.settled now result)) := by
  intro input hinput hstate
  cases hinput
  cases result with
  | transportFailed causeName => cases hstate
  | rejected status =>
    unfold PushTask.settled PushTask.finishFailure at hstate
    dsimp only at hstate
    split at hstate <;> cases hstate
  | delivered header =>
    intro hpositive
    unfold PushTask.settled at hstate
    dsimp only at hstate
    split at hstate
    · cases hstate
    · rename_i appliedVersion hfilter
      obtain ⟨happlied, hle⟩ := Option.filter_eq_some_iff.mp hfilter
      rw [decide_eq_true_iff] at hle
      cases header with
      | missing =>
        cases happlied
        omega
      | integer version =>
        cases happlied
        exact ⟨_, List.mem_append_right _ List.mem_cons_self, rfl, hle⟩
      | other => cases happlied

theorem mem_ownedDeliveries {db : DeliveryDatabase} {leaseOwner : Nat}
    {delivery : ClaimedDelivery} (h : delivery ∈ db.ownedDeliveries leaseOwner) :
    ∃ row ∈ db.deliveries, row.leaseOwner = some leaseOwner ∧
      delivery.deliveryId = row.deliveryId ∧
        delivery.environmentVersion = row.environmentVersion := by
  obtain ⟨row, hrow, hdelivery⟩ := List.mem_flatMap.mp h
  obtain ⟨installation, -, rfl⟩ := List.mem_map.mp hdelivery
  obtain ⟨hmem, hleased⟩ := List.mem_filter.mp (Sorting.sortBy_perm.mem_iff.mp hrow)
  exact ⟨row, hmem, (of_decide_eq_true hleased).2, rfl, rfl⟩

/-- **A claim** owns what it has leased, at the version that it reads. Owners are minted in order, so
no row and no earlier task has the new one: a row of this owner was leased by this very claim. -/
theorem PushInv.claim (h : PushInv world) (now : Int) (policy : DispatchPolicy)
    (scope : Option TenantScope) : PushInv (world.claim now policy scope) := by
  have hmove : DeliveryMove world.revocations (some world.nextOwner) (fun _ => False) world.db
      (world.db.leased now world.nextOwner (now + policy.leaseMs) policy.claimLimit scope) :=
    move_leased now world.nextOwner _ _ scope
  have htables := h.tables.move (List.Subset.refl _) hmove
  have hcases {task : PushTask} (htask : task ∈ (world.claim now policy scope).tasks) :
      task ∈ world.tasks ∨ task.leaseOwner = world.nextOwner ∧ task.stage = .preparing ∧
        task.delivery ∈ (world.db.leased now world.nextOwner (now + policy.leaseMs)
          policy.claimLimit scope).ownedDeliveries world.nextOwner := by
    rcases List.mem_append.mp htask with hbefore | hnew
    · exact .inl hbefore
    · obtain ⟨delivery, hdelivery, rfl⟩ := List.mem_map.mp hnew
      exact .inr ⟨rfl, rfl, List.mem_of_mem_filter hdelivery⟩
  refine ⟨htables, fun row' hrow' owner howner => ?_, fun task htask => ?_,
    fun task htask row' hrow' hid howner => ?_, fun task htask => ?_, fun row' hrow' hstate => ?_⟩
  · cases hmove.deliveries row' hrow' with
    | kept row hrow _ howned =>
      rcases howned with hnone | hsame | hnew
      · cases hnone.symm.trans howner
      · exact Nat.lt_succ_of_lt (h.rowOwner row hrow owner (hsame.symm.trans howner))
      · cases hnew.symm.trans howner
        exact Nat.lt_succ_self _
    | inserted _ hnone => cases hnone.symm.trans howner
  · rcases hcases htask with hbefore | ⟨howner, -⟩
    · exact Nat.lt_succ_of_lt (h.taskOwner task hbefore)
    · exact howner ▸ Nat.lt_succ_self _
  · rcases hcases htask with hbefore | ⟨hnew, -, hdelivery⟩
    · cases hmove.deliveries row' hrow' with
      | kept row hrow hsame howned =>
        rw [hsame.environmentVersion]
        refine h.version task hbefore row hrow (hsame.deliveryId.symm.trans hid) ?_
        rcases howned with hnone | hkept | hnew
        · cases hnone.symm.trans howner
        · exact hkept.symm.trans howner
        · have hsame := Option.some.inj (hnew.symm.trans howner)
          exact absurd (h.taskOwner task hbefore) (hsame ▸ lt_irrefl _)
      | inserted _ hnone => cases hnone.symm.trans howner
    · -- the id leads to the one row that the claim has read
      obtain ⟨row, hrow, -, hsameId, hversion⟩ := mem_ownedDeliveries hdelivery
      rw [hversion, List.inj_on_of_nodup_map htables.keyed hrow' hrow (hid.trans hsameId)]
  · rcases hcases htask with hbefore | ⟨-, hstage, -⟩
    · exact h.finish task hbefore
    · exact .none (hstage ▸ rfl)
  · cases hmove.deliveries row' hrow' with
    | kept row hrow hsame _ hdelivered =>
      rw [hsame.deliveryId, hsame.environmentVersion]
      exact h.delivered row hrow ((hdelivered hstate).resolve_right id)
    | inserted hpending => cases hpending.symm.trans hstate

/-- A finish of a delivery, made or not. -/
theorem PushInv.finished (h : PushInv world) (htask : task ∈ world.tasks) {input : DeliveryFinish}
    (hinput : task.stage.input = some input) (outcome : WriteOutcome) {failure : PushStage}
    (hfailure : FinishOk world.confirmations task.delivery failure) :
    PushInv (world.finish number task input outcome failure) := by
  have hmade : PushInv { world with
      db := world.db.finishDelivery task.delivery.deliveryId task.leaseOwner input } := by
    refine h.move (List.Subset.refl _) (move_finishDelivery h.tables _ _ _) ?_
    rintro row hrow ⟨hid, howner, hstate⟩
    rw [hid, h.version task htask row hrow hid howner]
    exact h.finish task htask input hinput hstate
  cases outcome with
  | ok => exact hmade.goTo htask (.none rfl)
  | failed => exact h.goTo htask hfailure
  | lost => exact hmade.goTo htask hfailure

theorem PushInv.leaseChecked (h : PushInv world) (htask : task ∈ world.tasks)
    (now renewalNow after : Int) (outcome : WriteOutcome) :
    PushInv (world.checkLease number task now renewalNow after outcome) := by
  have hrenewed : PushInv { world with
      db := (world.db.renewDeliveryLease task.delivery.deliveryId task.leaseOwner renewalNow
        (renewalNow + task.policy.leaseMs)).2 } :=
    h.silent (List.Subset.refl _) (move_renewDeliveryLease _ _ _ _)
  unfold PushWorld.checkLease
  split
  · exact h.goTo htask (.none rfl)
  · cases outcome with
    | failed => exact h.goTo htask (finishOk_failing _ _)
    | lost => exact hrenewed.goTo htask (finishOk_failing _ _)
    | ok =>
      refine hrenewed.goTo htask (.none ?_)
      split <;> rfl

theorem PushInv.runTask (h : PushInv world) (number : Nat) (event : TaskEvent) :
    PushInv (world.runTask number event) := by
  unfold PushWorld.runTask
  split
  · exact h
  rename_i task hnumber
  have htask := List.mem_of_getElem? hnumber
  split
  · exact h.goTo htask (.none rfl)
  · exact h.goTo htask (finishOk_failing _ _)
  · exact h.goTo htask (finishOk_failing _ _)
  · exact h.leaseChecked htask _ _ _ _
  · exact (h.confirm _).goTo htask (finishOk_settled _ _ _)
  · rename_i input outcome hstage
    exact h.finished htask (hstage ▸ rfl) outcome (finishOk_failing _ _)
  · rename_i input outcome hstage
    exact h.finished htask (hstage ▸ rfl) outcome (.none rfl)
  · exact h

/-- **Every step** keeps the invariant. -/
theorem PushInv.step (h : PushInv world) (event : PushEvent) : PushInv (world.step event) := by
  have hsub : world.revocations ⊆ world.revocations := List.Subset.refl _
  cases event with
  | claim now policy scope => exact h.claim now policy scope
  | task number event => exact h.runTask number event
  | createInstallation appId environmentId input deliveryId =>
    exact h.silent hsub (move_createInstallation appId environmentId input deliveryId)
  | revokeInstallation appId environmentId installationId now =>
    exact h.silent (List.subset_append_left _ _)
      (move_revokeInstallation appId environmentId installationId now
        (List.mem_append_right _ List.mem_cons_self))
  | bumpConfigVersion appId environmentId now =>
    exact h.silent hsub (move_bumpConfigVersion h.tables appId environmentId now)
  | retryTerminalDelivery appId environmentId installationId deliveryId now =>
    exact h.silent hsub (move_retryTerminalDelivery appId environmentId installationId deliveryId now)
  | pruneDeliveries deliveryIds => exact h.silent hsub (move_pruneDeliveries deliveryIds)

end

/-! ## 7. Applied versions -/

/-- Every installation is still there, with the version it had or a higher one. -/
def VersionsKept (db after : DeliveryDatabase) : Prop :=
  ∀ installation ∈ db.installations, ∃ next ∈ after.installations,
    next.installationId = installation.installationId ∧
      AppliedLe installation.lastAppliedVersion next.lastAppliedVersion

theorem VersionsKept.refl (db : DeliveryDatabase) : VersionsKept db db := installations_refl rfl

section

variable {world : PushWorld} {number : Nat} {task : PushTask}

theorem versionsKept_finish (h : PushInv world) (input : DeliveryFinish) (outcome : WriteOutcome)
    (failure : PushStage) :
    VersionsKept world.db (world.finish number task input outcome failure).db := by
  have hmove : DeliveryMove world.revocations none _ world.db
      (world.db.finishDelivery task.delivery.deliveryId task.leaseOwner input) :=
    move_finishDelivery h.tables _ _ _
  cases outcome with
  | ok => exact hmove.installations
  | failed => exact .refl _
  | lost => exact hmove.installations

theorem versionsKept_runTask (h : PushInv world) (number : Nat) (event : TaskEvent) :
    VersionsKept world.db (world.runTask number event).db := by
  unfold PushWorld.runTask
  split
  · exact .refl _
  split
  · exact .refl _
  · exact .refl _
  · exact .refl _
  · rename_i task _ _ _ now renewalNow after outcome _
    unfold PushWorld.checkLease
    split
    · exact .refl _
    · cases outcome <;> exact .refl _
  · exact .refl _
  · exact versionsKept_finish h _ _ _
  · exact versionsKept_finish h _ _ _
  · exact .refl _

theorem versionsKept_step (h : PushInv world) (event : PushEvent) :
    VersionsKept world.db (world.step event).db := by
  have hkept (revocations : List Revocation) {after : DeliveryDatabase}
      (hmove : DeliveryMove revocations none (fun _ => False) world.db after) :
      VersionsKept world.db after := hmove.installations
  cases event with
  | claim now policy scope => exact .refl _
  | task number event => exact versionsKept_runTask h number event
  | createInstallation appId environmentId input deliveryId =>
    exact hkept [] (move_createInstallation appId environmentId input deliveryId)
  | revokeInstallation appId environmentId installationId now =>
    exact hkept [_] (move_revokeInstallation appId environmentId installationId now
      List.mem_cons_self)
  | bumpConfigVersion appId environmentId now =>
    exact hkept _ (move_bumpConfigVersion h.tables appId environmentId now)
  | retryTerminalDelivery appId environmentId installationId deliveryId now =>
    exact hkept [] (move_retryTerminalDelivery appId environmentId installationId deliveryId now)
  | pruneDeliveries deliveryIds => exact .refl _

/-- **Without its lease**, a finish changes nothing. -/
theorem finishDelivery_of_not_owns {db : DeliveryDatabase} {deliveryId : String} {leaseOwner : Nat}
    (h : ¬ db.Owns deliveryId leaseOwner) (input : DeliveryFinish) :
    db.finishDelivery deliveryId leaseOwner input = db := by
  have hcovered : updateRows db.deliveries
      (fun row => db.Covered deliveryId input row ∧ db.Owns deliveryId leaseOwner)
      (fun row => { row with state := .suppressed }) = db.deliveries :=
    updateRows_eq_self fun _ _ hselected => h hselected.2
  unfold finishDelivery
  rw [hcovered, updateRows_eq_self fun _ _ hselected => h hselected.2,
    updateRows_eq_self fun row hrow hselected => h ⟨row, hrow, hselected⟩]

theorem runTask_of_not_owns (hnumber : world.tasks[number]? = some task)
    (h : ¬ world.db.Owns task.delivery.deliveryId task.leaseOwner) (outcome : WriteOutcome) :
    (world.runTask number (.finished outcome)).db = world.db := by
  have hfinish (input : DeliveryFinish) (failure : PushStage) :
      (world.finish number task input outcome failure).db = world.db := by
    unfold PushWorld.finish
    rw [finishDelivery_of_not_owns h]
    cases outcome <;> rfl
  unfold PushWorld.runTask
  rw [hnumber]
  dsimp only
  split
  · rfl
  · rfl
  · rfl
  · cases ‹TaskEvent.finished outcome = _›
  · cases ‹TaskEvent.finished outcome = _›
  · cases ‹TaskEvent.finished outcome = _›
    exact hfinish _ _
  · cases ‹TaskEvent.finished outcome = _›
    exact hfinish _ _
  · rfl

end

theorem pushInv_run (environments : String → String → Option Nat) (events : List PushEvent) :
    PushInv ((cloudflarePush environments).run events) := by
  refine (cloudflarePush environments).exec_invariant (fun world event h => h.step event) ?_ events
  have hnone {α : Type} {P : α → Prop} : ∀ a ∈ ([] : List α), P a := fun _ h => (by cases h)
  exact ⟨⟨List.nodup_nil, hnone, hnone, hnone⟩, hnone, hnone, hnone, hnone, hnone⟩

/-- **Pushes settle on what was confirmed.**  In every run, a finish of a delivery whose lease its
dispatch does not own changes nothing; no step lowers the applied version of an installation; what is
delivered was confirmed at its version or a higher one; and what is suppressed is covered by the
applied version, superseded by a newer version of its Environment, or of a revoked installation. -/
theorem cloudflare_push_settles (environments : String → String → Option Nat)
    (events : List PushEvent) :
    let world := (cloudflarePush environments).run events
    (∀ number task outcome, world.tasks[number]? = some task →
      ¬ world.db.Owns task.delivery.deliveryId task.leaseOwner →
        ((cloudflarePush environments).next world (.task number (.finished outcome))).db =
          world.db) ∧
    (∀ event, VersionsKept world.db ((cloudflarePush environments).next world event).db) ∧
    (∀ row ∈ world.db.deliveries, row.state = .delivered →
      Confirmed world.confirmations row.deliveryId row.environmentVersion) ∧
    ∀ row ∈ world.db.deliveries, row.state = .suppressed →
      Excused world.revocations world.db row := by
  have hinv := pushInv_run environments events
  exact ⟨fun _ _ outcome hnumber howns => runTask_of_not_owns hnumber howns outcome,
    versionsKept_step hinv, hinv.delivered, hinv.tables.suppressed⟩

/-! ## 8. A version that supersedes another -/

def storefront (appId environmentId : String) : Option Nat :=
  if appId = "app_1" ∧ environmentId = "env_1" then some 1 else none

/-- An installation, and a change of the configuration before the first dispatch. -/
def changedBeforeDispatch : List PushEvent :=
  [.createInstallation "app_1" "env_1"
      ⟨"4f0c2d6e-8f7a-4a5e-9d31-1c2b3a4d5e6f", "https://shop.example/push", 1000⟩ "delivery-1",
    .bumpConfigVersion "app_1" "env_1" 2000]

def changedWorld : PushWorld := (cloudflarePush storefront).run changedBeforeDispatch

/-- **A delivery is suppressed though nothing was applied**, and no push was ever made. -/
theorem superseded_unapplied :
    changedWorld.tasks = [] ∧
      (changedWorld.db.deliveries.map fun row => (row.deliveryId, row.environmentVersion, row.state)) =
        [("delivery-1", 1, .suppressed),
          ("4f0c2d6e-8f7a-4a5e-9d31-1c2b00000002", 2, .pending)] ∧
      changedWorld.db.installations.map (·.lastAppliedVersion) = [none] := by
  refine ⟨?_, ?_, ?_⟩
  · rfl
  · decide +kernel
  · rfl

end CloudflarePush

end Splitch
