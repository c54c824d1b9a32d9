/-
# What a reset reaches

A destructive reset has to purge the writer of every Entity that holds a winner of a destroyed version.  It
has no list of these.  It finds writers in two indexes, the rows of the inventory and the keys in KV, and a
writer that is in neither keeps its winners.

**What one reset does.**  It freezes the inventory, registers the Entities of the keys page by page, and
then purges the Entities that are registered one after the other, and the keys of KV.  Each of these is
a loop with a cursor over a listing that others may extend, and each is shown to reach all that was there
when it began (`registerSettledAssignmentWriters_ok`, `deleteKvPrefix_ok`).  A reset that resolves has
therefore emptied the writers of the Entities in one of the two indexes, and no others
(`purgeAppIdentityAssignments_ok`).

**What a history leaves to it.**  So everything depends on whether each writer with a winner is in an index
when the reset comes, which is an invariant of the histories before (`history_winnersIndexed`).  A put
registers its Entity before it records the winner, and nothing takes the row away but the deletion of the
Entity from its outbox.  That one takes it away whether or not the writer still holds a winner; if the
winner's write-through has failed, there is no key either.

The condition is on these deletions, and it is exact (`reset_leaves_no_assignment`).  A run in which it fails
has a winner that outlives the reset (`reset_leaves_a_winner`).
-/
import Splitch.Assignment.WriterEffects
import Splitch.Holdover.OutboxEffects
import Splitch.Inventory.SagaRefinement
import Splitch.Reset.IdentityReset

namespace Splitch

open StateActions AppWorld

variable {appId : String} {world world' : AppWorld} {fate : ResetFate}

/-! ## 1. Keys -/

theorem entity_key (appId : String) (ref : HoldoverWriteAppEntityRef) :
    (ref.entity appId).key = assignmentKeyPrefix appId ++ ref.name := by
  simp only [HoldoverWriteAppEntityRef.entity, Entity.key, assignmentKey, assignmentKeyPrefix,
    HoldoverWriteAppEntityRef.name, String.append_assoc]

theorem mem_keysUnder {keyPrefix key : String}
    {kv : Std.ExtTreeMap String AssignmentStoreValue compare} :
    key ∈ keysUnder keyPrefix kv ↔ (kv[key]?).isSome ∧ keyPrefix.toList <+: key.toList := by
  rw [keysUnder, List.mem_filter, Rows.mem_keys, List.isPrefixOf_iff_prefix]

/-- A key that parses is the one of the Entity it parses to. -/
theorem assignmentRef_name {key keyPrefix : String} {ref : HoldoverWriteAppEntityRef}
    (hok : assignmentRefFromKvKey key keyPrefix = .ok ref) : keyPrefix ++ ref.name = key := by
  unfold assignmentRefFromKvKey at hok
  dsimp only at hok
  split at hok
  · rename_i hparses
    cases hok
    obtain ⟨hstarts, -, hhash⟩ := hparses
    obtain ⟨suffix, hsuffix⟩ := List.isPrefixOf_iff_prefix.mp hstarts
    have hdrop : key.toList.drop keyPrefix.length = suffix := by
      rw [← hsuffix, ← String.length_toList, List.drop_left]
    rw [hdrop] at hhash
    have hcolon : suffix.dropWhile (· ≠ ':') = ':' :: (suffix.dropWhile (· ≠ ':')).drop 1 := by
      cases hrest : suffix.dropWhile (· ≠ ':') with
      | nil => rw [hrest] at hhash; exact absurd rfl hhash
      | cons c rest =>
        have hc := List.head?_dropWhile_not (· ≠ ':') suffix
        rw [hrest] at hc
        have hc : c = ':' := of_decide_eq_true (by simpa using hc)
        rw [hc, List.drop_one, List.tail_cons]
    rw [← String.toList_inj, HoldoverWriteAppEntityRef.name]
    simp only [String.toList_append, String.toList_ofList]
    rw [hdrop, ← hsuffix]
    conv_rhs => rw [← List.takeWhile_append_dropWhile (p := (· ≠ ':')) (l := suffix), hcolon]
    simp
  · cases hok

variable {keyPrefix : String} {cursor : Option String}
  {kv : Std.ExtTreeMap String AssignmentStoreValue compare}

theorem keysUnder_sorted : (keysUnder keyPrefix kv).Pairwise fun a b => id a < id b :=
  (Rows.keys_sorted kv).filter _

/-- The last listing has all that was left. -/
theorem kvList_complete (h : (kvList keyPrefix cursor kv).2 = none) (key : String) :
    key ∈ keysUnder keyPrefix kv ∧ (∀ c ∈ cursor, c < key) ↔
      key ∈ (kvList keyPrefix cursor kv).1 := by
  refine ⟨fun hleft => ?_, Paging.of_mem_page⟩
  unfold kvList at h
  dsimp only at h
  split at h
  · rename_i hshort
    exact Paging.mem_page_of_short hshort hleft.1 hleft.2
  · rename_i hfull
    rw [List.getLast?_eq_none_iff.mp h] at hfull
    exact absurd (by decide) hfull

/-- Another listing leaves what is after its last key. -/
theorem kvList_more {last : String} (h : (kvList keyPrefix cursor kv).2 = some last)
    (key : String) :
    key ∈ keysUnder keyPrefix kv ∧ (∀ c ∈ cursor, c < key) ↔
      key ∈ (kvList keyPrefix cursor kv).1 ∨ (key ∈ keysUnder keyPrefix kv ∧ last < key) := by
  unfold kvList at h
  dsimp only at h
  split at h
  · cases h
  · exact Paging.left_iff_of_last keysUnder_sorted h

/-! ## 2. Winner discovery -/

/-- Some Entities were registered, those of these keys, and nothing else has changed. -/
structure Registers (appId : String) (keys : String → Prop) (before after : AppWorld) : Prop where
  writers : after.writers = before.writers
  kv : after.kv = before.kv
  entities : ∃ entities, after.inventory.storage = { before.inventory.storage with entities } ∧
    (Rows.Keyed HoldoverWriteAppEntityRef.name before.inventory.storage.entities →
      Rows.Keyed HoldoverWriteAppEntityRef.name entities) ∧
    ∀ name, (entities[name]?).isSome ↔ (before.inventory.storage.entities[name]?).isSome ∨
      keys (assignmentKeyPrefix appId ++ name)

theorem Registers.trans {keys keys' keys'' : String → Prop} {world'' : AppWorld}
    (h : Registers appId keys world world') (h' : Registers appId keys' world' world'')
    (hkeys : ∀ key, keys'' key ↔ keys key ∨ keys' key) :
    Registers appId keys'' world world'' where
  writers := h'.writers.trans h.writers
  kv := h'.kv.trans h.kv
  entities := by
    obtain ⟨entities, hstorage, hkeyed, hrows⟩ := h.entities
    obtain ⟨entities', hstorage', hkeyed', hrows'⟩ := h'.entities
    rw [hstorage] at hstorage' hkeyed' hrows'
    refine ⟨entities', hstorage', fun hk => hkeyed' (hkeyed hk), fun name => ?_⟩
    rw [hrows', hrows, hkeys, or_assoc]

theorem Registers.of_none (appId : String) (world : AppWorld) {keys : String → Prop}
    (hkeys : ∀ key, ¬ keys key) : Registers appId keys world world where
  writers := rfl
  kv := rfl
  entities := ⟨_, rfl, id, fun name => by rw [or_iff_left (hkeys _)]⟩

/-- The inventory with an Entity more. -/
def AppInventory.register (inventory : AppInventory) (ref : HoldoverWriteAppEntityRef) :
    AppInventory :=
  { inventory with
    storage := { inventory.storage with entities := inventory.storage.entities.insert ref.name ref }
    log := inventory.log ++ [.registered ref.name] }

theorem register_cases (ref : HoldoverWriteAppEntityRef) (inventory : AppInventory) :
    registerAppInventoryEntity ref inventory = (.ok .suppressed, inventory) ∨
      registerAppInventoryEntity ref inventory = (.ok .registered, inventory.register ref) := by
  unfold registerAppInventoryEntity
  rw [andThen_of_ok getStorage_apply]
  split
  · exact Or.inl rfl
  · split
    · exact Or.inl rfl
    · exact Or.inr rfl

theorem isSome_insert_iff {entities : Std.ExtTreeMap String HoldoverWriteAppEntityRef compare}
    {ref : HoldoverWriteAppEntityRef} {name : String} :
    ((entities.insert ref.name ref)[name]?).isSome ↔
      (entities[name]?).isSome ∨ name = ref.name := by
  rw [Rows.getElem?_insert_eq]
  split
  · rename_i heq
    exact ⟨fun _ => Or.inr heq, fun _ => rfl⟩
  · rename_i hne
    exact (or_iff_left hne).symm

theorem resolve_apply {α : Type} (answer : Except String α) :
    AppWorld.resolve answer world = (answer, world) := rfl

theorem atInventory_apply {α : Type} (action : InventoryM α) :
    atInventory action world = ((action world.inventory).1,
      { world with inventory := (action world.inventory).2 }) := rfl

theorem resolve_ok {α : Type} {answer : Except String α} {a : α}
    (h : AppWorld.resolve answer world = (.ok a, world')) : answer = .ok a ∧ world = world' :=
  ⟨congrArg Prod.fst h, congrArg Prod.snd h⟩

theorem atInventory_ok {α : Type} {action : InventoryM α} {a : α}
    (h : atInventory action world = (.ok a, world')) : (action world.inventory).1 = .ok a ∧
      world' = { world with inventory := (action world.inventory).2 } :=
  ⟨congrArg Prod.fst h, (congrArg Prod.snd h).symm⟩

/-- **Winner discovery** registers the Entity of a key. An inventory that is suppressed answers so,
and then the loop throws; where it does not, the row is there. -/
theorem registerSettled_ok {key : String}
    (h : registerSettledAssignmentWriter appId fate key world = (.ok (), world')) :
    Registers appId (· = key) world world' := by
  obtain ⟨ref, _, hparsed, hcall⟩ := andThen_eq_ok.mp h
  obtain ⟨hparse, rfl⟩ := resolve_ok hparsed
  obtain ⟨_, _, hcall, hrest⟩ := andThen_eq_ok.mp hcall
  obtain ⟨-, rfl⟩ := resolve_ok hcall
  obtain ⟨result, _, hregister, hend⟩ := andThen_eq_ok.mp hrest
  obtain ⟨hresult, rfl⟩ := atInventory_ok hregister
  split at hend
  · cases hend
  · rename_i hregistered
    cases hend
    rcases register_cases ref world.inventory with hs | hr
    · rw [hs] at hresult
      cases hresult
      exact absurd (by decide) hregistered
    · rw [hr]
      refine ⟨rfl, rfl, _, rfl, fun hkeyed => hkeyed.insert ref, fun name => ?_⟩
      rw [isSome_insert_iff, ← assignmentRef_name hparse, String.append_right_inj]

theorem registerSettled_forM_ok {keys : List String}
    (h : keys.forM (registerSettledAssignmentWriter appId fate) world = (.ok (), world')) :
    Registers appId (· ∈ keys) world world' := by
  induction keys generalizing world with
  | nil =>
    cases h
    exact .of_none appId world' fun _ hmem => by cases hmem
  | cons key keys ih =>
    obtain ⟨_, _, hkey, hkeys⟩ := andThen_eq_ok.mp h
    exact (registerSettled_ok hkey).trans (ih hkeys) fun _ => List.mem_cons

/-- **The loop** registers the Entities of all keys behind the cursor, page by page. Registering
changes no key in KV, so the pages of one listing fit together. -/
theorem registerSettledAssignmentWriters_ok {pages : Nat} {cursor : Option String}
    (h : registerSettledAssignmentWriters appId fate pages cursor world = (.ok (), world')) :
    Registers appId (fun key => key ∈ keysUnder (assignmentKeyPrefix appId) world.kv ∧
      ∀ c ∈ cursor, c < key) world world' := by
  induction pages generalizing cursor world with
  | zero => cases h
  | succ pages ih =>
    unfold registerSettledAssignmentWriters at h
    obtain ⟨_, _, hlist, hrest⟩ := andThen_eq_ok.mp h
    obtain ⟨-, rfl⟩ := resolve_ok hlist
    rw [andThen_of_ok (get_ok_apply _)] at hrest
    obtain ⟨_, _, hpage, hnext⟩ := andThen_eq_ok.mp hrest
    have hregisters := registerSettled_forM_ok hpage
    cases hmore : (kvList (assignmentKeyPrefix appId) cursor world.kv).2 with
    | none =>
      rw [hmore] at hnext
      cases hnext
      have hnone : Registers appId (fun _ => False) world' world' :=
        .of_none appId world' fun _ => id
      refine hregisters.trans hnone fun key => ?_
      rw [kvList_complete hmore, or_false]
    | some last =>
      rw [hmore] at hnext
      refine hregisters.trans (ih hnext) fun key => ?_
      rw [kvList_more hmore, hregisters.kv]
      simp

/-! ## 3. The purge of an Entity -/

/-- The writers of these Entities have no winner left, the others are as they were. -/
structure Purges (names : String → Prop) (before after : AppWorld) : Prop where
  purged : ∀ name, names name → (after.writers name).winners = ∅
  others : ∀ name, ¬ names name → after.writers name = before.writers name

theorem Purges.trans {names names' names'' : String → Prop} {world'' : AppWorld}
    (h : Purges names world world') (h' : Purges names' world' world'')
    (hnames : ∀ name, names'' name ↔ names name ∨ names' name) :
    Purges names'' world world'' where
  purged name hname := by
    by_cases hlater : names' name
    · exact h'.purged name hlater
    · rw [h'.others name hlater]
      exact h.purged name (((hnames name).mp hname).resolve_right hlater)
  others name hname := by
    rw [hnames, not_or] at hname
    rw [h'.others name hname.2, h.others name hname.1]

open AssignmentStoreWriter in
/-- An App reset that resolves has dropped all winners. -/
theorem resetApp_winners {world world' : AssignmentWriterWorld} {identity : Entity}
    {destroyedVersions : List String} {fate : KvFate} {proof : AppResetProof}
    (h : resetApp identity destroyedVersions fate world = (.ok proof, world')) :
    world'.storage.winners = ∅ := by
  rcases resetApp_cases fate world identity destroyedVersions with
    ⟨m, hm⟩ | ⟨next, -, rest, hrest, he⟩
  · rw [hm] at h
    cases h
  · have hstate := congrArg Prod.snd (he.symm.trans h)
    rw [andThen_state fun _ w => hrest w] at hstate
    have hstorage := congrArg (·.storage) hstate
    rw [rewriteKvFromDurableWinners_storage] at hstorage
    exact congrArg (·.winners) hstorage.symm

theorem resetAssignmentWriter_ok {destroyedVersions : List String}
    {ref : HoldoverWriteAppEntityRef}
    (h : resetAssignmentWriter appId fate destroyedVersions ref world = (.ok (), world')) :
    Purges (· = ref.name) world world' := by
  obtain ⟨_, _, hcall, hrest⟩ := andThen_eq_ok.mp h
  obtain ⟨-, rfl⟩ := resolve_ok hcall
  obtain ⟨proof, _, hreset, hend⟩ := andThen_eq_ok.mp hrest
  have hanswer := congrArg Prod.fst hreset
  have hworld := congrArg (·.2.writers) hreset
  split at hend
  · cases hend
  · cases hend
    constructor
    · rintro name rfl
      have hwinners := resetApp_winners (Prod.ext hanswer rfl)
      rw [← hworld]
      exact (congrArg (·.winners) (Function.update_self ref.name _ world.writers)).trans hwinners
    · intro name hne
      rw [← hworld]
      exact Function.update_of_ne hne _ _

theorem resetOutbox_ok {destroyedVersions : List String} {ref : HoldoverWriteAppEntityRef}
    (h : resetOutbox fate destroyedVersions ref world = (.ok (), world')) :
    world'.writers = world.writers := by
  obtain ⟨_, _, hcall, hrest⟩ := andThen_eq_ok.mp h
  obtain ⟨-, rfl⟩ := resolve_ok hcall
  obtain ⟨proof, _, hreset, hend⟩ := andThen_eq_ok.mp hrest
  have hworld := congrArg (·.2.writers) hreset
  split at hend
  · cases hend
  · cases hend
    exact hworld.symm

/-- **The purge of an Entity** empties its writer. -/
theorem resetEntity_ok {destroyedVersions : List String} {ref : HoldoverWriteAppEntityRef}
    (h : resetEntity appId fate destroyedVersions ref world = (.ok (), world')) :
    Purges (· = ref.name) world world' := by
  obtain ⟨_, _, hwriter, hrest⟩ := andThen_eq_ok.mp h
  obtain ⟨_, _, houtbox, hrest'⟩ := andThen_eq_ok.mp hrest
  obtain ⟨_, _, hcall, hmark⟩ := andThen_eq_ok.mp hrest'
  obtain ⟨-, rfl⟩ := resolve_ok hcall
  obtain ⟨-, rfl⟩ := atInventory_ok hmark
  obtain ⟨hpurged, hothers⟩ := resetAssignmentWriter_ok hwriter
  have hsame := resetOutbox_ok houtbox
  exact ⟨fun name hname => by rw [hsame]; exact hpurged name hname,
    fun name hname => by rw [hsame]; exact hothers name hname⟩

theorem resetEntities_ok {destroyedVersions : List String}
    {refs : List HoldoverWriteAppEntityRef}
    (h : refs.forM (resetEntity appId fate destroyedVersions) world = (.ok (), world')) :
    Purges (∃ ref ∈ refs, · = ref.name) world world' := by
  induction refs generalizing world with
  | nil =>
    cases h
    exact ⟨fun _ ⟨_, hmem, _⟩ => (by cases hmem), fun _ _ => rfl⟩
  | cons ref refs ih =>
    obtain ⟨_, _, href, hrefs⟩ := andThen_eq_ok.mp h
    exact (resetEntity_ok href).trans (ih hrefs) fun name => List.exists_mem_cons_iff ..

/-! ## 4. KV -/

/-- **The keys under the prefix** and behind the cursor are gone, and nothing but keys is. -/
structure Deletes (keys : String → Prop) (before after : AppWorld) : Prop where
  writers : after.writers = before.writers
  gone : ∀ key : String, keys key → after.kv[key]? = none
  fewer : ∀ key : String, before.kv[key]? = none → after.kv[key]? = none

theorem kvDelete_ok {key : String} (h : kvDelete fate key world = (.ok (), world')) :
    world' = { world with kv := world.kv.erase key } := by
  obtain ⟨_, _, hcall, hend⟩ := andThen_eq_ok.mp h
  obtain ⟨-, rfl⟩ := resolve_ok hcall
  exact (congrArg Prod.snd hend).symm

theorem kvDelete_forM_ok {keys : List String}
    (h : keys.forM (kvDelete fate) world = (.ok (), world')) :
    world'.writers = world.writers ∧
      ∀ key, world'.kv[key]? = if key ∈ keys then none else world.kv[key]? := by
  induction keys generalizing world with
  | nil =>
    cases h
    exact ⟨rfl, fun key => (if_neg List.not_mem_nil).symm⟩
  | cons key keys ih =>
    obtain ⟨_, _, hkey, hkeys⟩ := andThen_eq_ok.mp h
    obtain rfl := kvDelete_ok hkey
    obtain ⟨hwriters, hkv⟩ := ih hkeys
    refine ⟨hwriters, fun key' => ?_⟩
    rw [hkv, Rows.getElem?_erase_eq]
    by_cases hmem : key' ∈ keys
    · rw [if_pos hmem, if_pos (List.mem_cons_of_mem _ hmem)]
    · rw [if_neg hmem]
      by_cases heq : key' = key
      · rw [if_pos heq, if_pos (heq ▸ List.mem_cons_self)]
      · rw [if_neg heq, if_neg (by rw [List.mem_cons, not_or]; exact ⟨heq, hmem⟩)]

/-- **The loop** deletes all keys behind the cursor. It changes what it lists; but a key that is not
deleted with its page was not on it, and so it lies behind the cursor of the next one. -/
theorem deleteKvPrefix_ok {keyPrefix : String} {pages count : Nat} {cursor : Option String}
    (h : deleteKvPrefix keyPrefix fate pages cursor world = (.ok count, world')) :
    Deletes (fun key => keyPrefix.toList <+: key.toList ∧ ∀ c ∈ cursor, c < key) world world' := by
  induction pages generalizing cursor world count with
  | zero => cases h
  | succ pages ih =>
    unfold deleteKvPrefix at h
    obtain ⟨_, _, hlist, hrest⟩ := andThen_eq_ok.mp h
    obtain ⟨-, rfl⟩ := resolve_ok hlist
    rw [andThen_of_ok (get_ok_apply _)] at hrest
    obtain ⟨_, world₁, hpage, hnext⟩ := andThen_eq_ok.mp hrest
    obtain ⟨hwriters, hkv⟩ := kvDelete_forM_ok hpage
    have hfewer : ∀ key, world.kv[key]? = none → world₁.kv[key]? = none := fun key hnone => by
      rw [hkv, hnone, ite_self]
    -- a key that is left behind the cursor is in the listing or behind its last key
    have hlisted : ∀ key, world₁.kv[key]? ≠ none → key ∉ (kvList keyPrefix cursor world.kv).1 ∧
        (world.kv[key]?).isSome := fun key hsome => by
      rw [hkv] at hsome
      split at hsome
      · exact absurd rfl hsome
      · rename_i hnot
        exact ⟨hnot, Option.ne_none_iff_isSome.mp hsome⟩
    cases hmore : (kvList keyPrefix cursor world.kv).2 with
    | none =>
      rw [hmore] at hnext
      cases hnext
      refine ⟨hwriters, fun key ⟨hunder, hafter⟩ => ?_, hfewer⟩
      by_contra hsome
      obtain ⟨hnot, hwas⟩ := hlisted key hsome
      exact hnot ((kvList_complete hmore key).mp ⟨mem_keysUnder.mpr ⟨hwas, hunder⟩, hafter⟩)
    | some last =>
      rw [hmore] at hnext
      obtain ⟨_, _, hloop, hend⟩ := andThen_eq_ok.mp hnext
      cases hend
      obtain ⟨hwriters', hgone', hfewer'⟩ := ih hloop
      refine ⟨hwriters'.trans hwriters, fun key ⟨hunder, hafter⟩ => ?_,
        fun key hnone => hfewer' key (hfewer key hnone)⟩
      by_contra hsome
      obtain ⟨hnot, hwas⟩ := hlisted key fun hnone => hsome (hfewer' key hnone)
      have hleft := (kvList_more hmore key).mp ⟨mem_keysUnder.mpr ⟨hwas, hunder⟩, hafter⟩
      have hlast := (hleft.resolve_left hnot).2
      exact hsome (hgone' key ⟨hunder, fun c hc => by cases hc; exact hlast⟩)

/-! ## 5. The reset -/

/-- No deletion and no reset of the App has begun. -/
structure OpenInventory (storage : AppInventoryStorage) : Prop where
  saga : storage.deletionSaga = none
  suppressed : storage.suppressed = false
  incomplete : storage.deletionComplete = false
  cutoff : storage.deleteBeforeTsMs = none

theorem OpenInventory.status {inventory : AppInventory} (h : OpenInventory inventory.storage) :
    ∃ status, appInventoryStatus inventory = (.ok status, inventory) ∧
      isOpenInventory status = true := by
  refine ⟨_, rfl, ?_⟩
  rw [isOpenInventory, h.saga, h.suppressed, h.incomplete, h.cutoff]
  rfl

/-- A failed freeze does not answer. -/
theorem failPrepare_throws {α : Type} {generationId cause : String} {deleteBeforeTsMs : Int}
    {entities : List HoldoverWriteAppEntityRef} {kvDelete : Except String Unit}
    {inventory inventory' : AppInventory} {a : α} :
    failPrepareIntoCancel generationId deleteBeforeTsMs entities kvDelete cause inventory
      ≠ (.ok a, inventory') := by
  intro h
  obtain ⟨_, _, _, hrest⟩ := andThen_eq_ok.mp h
  obtain ⟨done, _, _, hend⟩ := andThen_eq_ok.mp hrest
  cases done with
  | true => cases hend
  | false => cases hend

/-- **The freeze** of an open inventory keeps its rows. -/
theorem prepare_open {inventory inventory' : AppInventory} (hopen : OpenInventory inventory.storage)
    {generationId : String} {deleteBeforeTsMs : Int} {fate : PrepareFate} {complete : Bool}
    (h : prepareAppDeletionSaga generationId deleteBeforeTsMs fate inventory
      = (.ok complete, inventory')) :
    inventory'.storage.entities = inventory.storage.entities := by
  have hadopt : adoptStored generationId inventory = (.ok none, inventory) := by
    unfold adoptStored
    rw [andThen_of_ok readAppDeletionSaga_apply, hopen.saga]
    rfl
  have hearly : prepareSagaEarlyReturn generationId fate.priorKvDelete inventory
      = (.ok none, inventory) := by
    unfold prepareSagaEarlyReturn
    rw [andThen_of_ok hadopt]
    dsimp only [Option.filter_none]
    unfold sameGenerationPrepareEarlyReturn
    rw [andThen_of_ok getStorage_apply, hopen.incomplete]
    rfl
  unfold prepareAppDeletionSaga at h
  rw [andThen_of_ok hearly] at h
  dsimp only at h
  unfold writePreparingFreeze at h
  rw [andThen_of_ok getStorage_apply, andThen_of_ok (setStorage_apply _)] at h
  cases hput : fate.kvPut with
  | error cause =>
    rw [hput] at h
    exact absurd h failPrepare_throws
  | ok _ =>
    rw [hput] at h
    dsimp only at h
    rw [andThen_of_ok (putAppDeletionSaga_apply _)] at h
    cases h
    rfl

theorem begin_open {inventory inventory' : AppInventory} (hopen : OpenInventory inventory.storage)
    {generationId : String} {deleteBeforeTsMs nowMs : Int} {fate : PrepareFate}
    {reply : BeginDeletionReply}
    (h : beginDeletion generationId deleteBeforeTsMs nowMs fate inventory
      = (.ok reply, inventory')) :
    inventory'.storage.entities = inventory.storage.entities := by
  obtain ⟨_, _, harm, hrest⟩ := andThen_eq_ok.mp h
  cases harm
  obtain ⟨complete, inventory₁, hprepare, hrest'⟩ := andThen_eq_ok.mp hrest
  have harmed : OpenInventory (AppInventory.storage
      { inventory with alarm := some (nowMs + SAGA_RETRY_DELAY_MS) }) := hopen
  have hentities := prepare_open harmed hprepare
  rw [andThen_of_ok readAppDeletionSaga_apply] at hrest'
  dsimp only at hrest'
  split at hrest'
  · obtain ⟨_, _, hdelete, hend⟩ := andThen_eq_ok.mp hrest'
    cases hdelete
    cases hend
    exact hentities
  · cases hrest'
    exact hentities

theorem frozen_ok {resetId : String} {status : HoldoverWriteAppInventoryStatus}
    (h : frozenResetInventory resetId world = (.ok status, world')) :
    world = world' ∧ status.entities = listRegisteredEntities world.inventory.storage := by
  obtain ⟨status', _, hstatus, hend⟩ := andThen_eq_ok.mp h
  cases hstatus
  split at hend
  · cases hend
  · cases hend
    exact ⟨rfl, rfl⟩

/-- The Entity has a row in the inventory, or a key in KV. -/
def Indexed (appId : String) (world : AppWorld) (name : String) : Prop :=
  (world.inventory.storage.entities[name]?).isSome ∨
    (world.kv[assignmentKeyPrefix appId ++ name]?).isSome

/-- The rows that a reset finds once it has registered the keys. -/
theorem mem_registered_iff {entities : Std.ExtTreeMap String HoldoverWriteAppEntityRef compare}
    (hkeyed : Rows.Keyed HoldoverWriteAppEntityRef.name entities) (name : String) :
    (∃ ref ∈ entities.toList.map Prod.snd, name = ref.name) ↔ (entities[name]?).isSome := by
  rw [Option.isSome_iff_exists]
  constructor
  · rintro ⟨ref, hmem, rfl⟩
    obtain ⟨k, hk⟩ := Rows.mem_rows.mp hmem
    obtain rfl : ref.name = k := hkeyed k ref hk
    exact ⟨ref, hk⟩
  · rintro ⟨ref, href⟩
    exact ⟨ref, Rows.mem_rows.mpr ⟨name, href⟩, (hkeyed name ref href).symm⟩

/-- **A reset that resolves** has emptied the writers of the Entities in one of the two indexes and
no other, and left no key of the App. -/
theorem purgeAppIdentityAssignments_ok {resetId : String} {destroyedVersions : List String}
    {pages : Nat} {summary : AppResetSummary}
    (hopen : OpenInventory world.inventory.storage)
    (hkeyed : Rows.Keyed HoldoverWriteAppEntityRef.name world.inventory.storage.entities)
    (h : purgeAppIdentityAssignments appId resetId destroyedVersions fate pages world
      = (.ok summary, world')) :
    Purges (Indexed appId world) world world' ∧
      ∀ key : String, (assignmentKeyPrefix appId).toList <+: key.toList →
        world'.kv[key]? = none := by
  obtain ⟨resetVersions, _, hversions, h₁⟩ := andThen_eq_ok.mp h
  obtain ⟨-, rfl⟩ := resolve_ok hversions
  obtain ⟨_, _, hcall, h₂⟩ := andThen_eq_ok.mp h₁
  obtain ⟨-, rfl⟩ := resolve_ok hcall
  obtain ⟨status, hstatus, hopened⟩ := hopen.status
  have hstatus' : atInventory appInventoryStatus world = (.ok status, world) := by
    rw [atInventory, hstatus]
  rw [andThen_of_ok hstatus'] at h₂
  dsimp only at h₂
  rw [if_pos hopened] at h₂
  obtain ⟨_, world₁, hregister, h₃⟩ := andThen_eq_ok.mp h₂
  obtain ⟨_, _, hcall, h₄⟩ := andThen_eq_ok.mp h₃
  obtain ⟨-, rfl⟩ := resolve_ok hcall
  obtain ⟨reply, world₂, hbegin, h₅⟩ := andThen_eq_ok.mp h₄
  split at h₅
  · cases h₅
  · obtain ⟨_, _, hcall, h₆⟩ := andThen_eq_ok.mp h₅
    obtain ⟨-, rfl⟩ := resolve_ok hcall
    obtain ⟨frozen, _, hfrozen, h₇⟩ := andThen_eq_ok.mp h₆
    obtain ⟨rfl, hrefs⟩ := frozen_ok hfrozen
    obtain ⟨_, world₃, hentities, h₈⟩ := andThen_eq_ok.mp h₇
    obtain ⟨_, _, hcall, h₉⟩ := andThen_eq_ok.mp h₈
    obtain ⟨-, rfl⟩ := resolve_ok hcall
    obtain ⟨verified, _, hverified, h₁₀⟩ := andThen_eq_ok.mp h₉
    obtain ⟨rfl, -⟩ := frozen_ok hverified
    split at h₁₀
    · cases h₁₀
    · obtain ⟨count, _, hdelete, hend⟩ := andThen_eq_ok.mp h₁₀
      cases hend
      obtain ⟨hwriters₁, -, entities, hstorage, hkeyed₁, hrows⟩ :=
        registerSettledAssignmentWriters_ok hregister
      have hopen₁ : OpenInventory world₁.inventory.storage := by
        rw [hstorage]
        exact ⟨hopen.saga, hopen.suppressed, hopen.incomplete, hopen.cutoff⟩
      obtain ⟨hreply, rfl⟩ := atInventory_ok hbegin
      have hkept := begin_open hopen₁ (Prod.ext hreply rfl)
      obtain ⟨hpurged, hothers⟩ := resetEntities_ok hentities
      obtain ⟨hwriters, hgone, -⟩ := deleteKvPrefix_ok hdelete
      have hnames : ∀ name, (∃ ref ∈ frozen.entities, name = ref.name) ↔
          Indexed appId world name := fun name => by
        rw [hrefs, listRegisteredEntities, hkept, hstorage, mem_registered_iff (hkeyed₁ hkeyed),
          hrows, mem_keysUnder, Indexed]
        simp
      refine ⟨⟨fun name hname => ?_, fun name hname => ?_⟩, fun key hkey =>
        hgone key ⟨hkey, fun _ h => by cases h⟩⟩
      · rw [hwriters]
        exact hpurged name ((hnames name).mpr hname)
      · rw [hwriters, hothers name fun h => hname ((hnames name).mp h)]
        exact congrFun hwriters₁ name

/-! ## 6. Histories -/

/-- The inventory with an Entity more that an Assignment was admitted for. -/
def AppInventory.admitted (inventory : AppInventory) (ref : HoldoverWriteAppEntityRef)
    (identityVersion : String) : AppInventory :=
  { inventory with
    storage := { inventory.storage with
      activeIdentityVersion := some identityVersion
      entities := inventory.storage.entities.insert ref.name ref }
    log := inventory.log ++ [.registered ref.name] }

theorem admitAssignment_cases (ref : HoldoverWriteAppEntityRef) (identityVersion : String)
    (inventory : AppInventory) :
    (∃ answer, answer ≠ .ok .registered ∧
        admitAppInventoryAssignment ref identityVersion inventory = (answer, inventory)) ∨
      admitAppInventoryAssignment ref identityVersion inventory
        = (.ok .registered, inventory.admitted ref identityVersion) := by
  unfold admitAppInventoryAssignment
  split
  · exact Or.inl ⟨_, fun h => (by cases h), rfl⟩
  · rw [andThen_of_ok getStorage_apply]
    split
    · exact Or.inl ⟨_, fun h => (by cases h), rfl⟩
    · split
      · exact Or.inl ⟨_, fun h => (by cases h), rfl⟩
      · exact Or.inr rfl

/-- The inventory as the App has it between two resets. -/
structure InventorySound (inventory : AppInventory) : Prop where
  opened : OpenInventory inventory.storage
  keyed : Rows.Keyed HoldoverWriteAppEntityRef.name inventory.storage.entities

theorem InventorySound.admitted {inventory : AppInventory} (h : InventorySound inventory)
    (ref : HoldoverWriteAppEntityRef) (identityVersion : String) :
    InventorySound (inventory.admitted ref identityVersion) where
  opened := ⟨h.opened.saga, h.opened.suppressed, h.opened.incomplete, h.opened.cutoff⟩
  keyed := h.keyed.insert ref

theorem InventorySound.register {inventory : AppInventory} (h : InventorySound inventory)
    (ref : HoldoverWriteAppEntityRef) : InventorySound (inventory.register ref) where
  opened := ⟨h.opened.saga, h.opened.suppressed, h.opened.incomplete, h.opened.cutoff⟩
  keyed := h.keyed.insert ref

/-- What an event does to the two indexes and the writers. -/
inductive AppChange (appId : String) (before : AppWorld) : AppEvent → AppWorld → Prop
  | same {event : AppEvent} {after : AppWorld} (hinventory : after.inventory = before.inventory)
      (hwriters : after.writers = before.writers) (hkv : after.kv = before.kv) :
      AppChange appId before event after
  | registered {ref : HoldoverWriteAppEntityRef} :
      AppChange appId before (.register ref)
        { before with inventory := before.inventory.register ref }
  | admitted {put : AssignmentPut} {call : Except String Unit} {fate : KvFate} :
      AppChange appId before (.putAssignment put call fate)
        { before with inventory := before.inventory.admitted put.ref put.identityVersion }
  | put {put : AssignmentPut} {call : Except String Unit} {fate : KvFate} :
      AppChange appId before (.putAssignment put call fate)
        (atWriter appId put.ref (AssignmentStoreWriter.put put.input fate)
          { before with inventory := before.inventory.admitted put.ref put.identityVersion }).2
  | unregistered {ref : HoldoverWriteAppEntityRef} {deleteBeforeTsMs : Int} {call : CallFate}
      {after : AppWorld} (hserved : call.served = true)
      (hjobs : ∀ (E : String) (job : HoldoverWriteJob),
        (before.outboxes ref.name).storage.jobs[E]? = some job →
          job.createdAtMs ≤ deleteBeforeTsMs)
      (hinventory : after.inventory = (markAppInventoryEntityPurged ref before.inventory).2)
      (hwriters : after.writers = before.writers) (hkv : after.kv = before.kv) :
      AppChange appId before (.deleteFromOutbox ref deleteBeforeTsMs (some call)) after

/-- No job remains after a deletion only where it has covered them all. -/
theorem deleteEntityOutbox_jobs {outbox outbox' : HoldoverWriteOutboxWorld} {cutoff : Int}
    (h : HoldoverWriteOutbox.deleteEntityOutbox cutoff outbox = (.ok false, outbox')) (E : String)
    (job : HoldoverWriteJob) (hjob : outbox.storage.jobs[E]? = some job) :
    job.createdAtMs ≤ cutoff := by
  obtain ⟨_, _, hsuppress, hpurge⟩ := andThen_eq_ok.mp h
  have hstart : HoldoverWriteOutbox.suppressEntityOutbox cutoff outbox
      = (.ok (), { outbox with storage := outbox.storage.tombstoned cutoff }) := rfl
  cases hstart.symm.trans hsuppress
  rw [HoldoverWriteOutbox.purgeEntityOutboxState, HoldoverWriteOutbox.purgeStaleJobs,
    andThen_of_ok (HoldoverWriteOutbox.setStorage_apply _),
    HoldoverWriteOutbox.reschedule_apply] at hpurge
  have hrows := Except.ok.inj (congrArg Prod.fst hpurge)
  rw [Bool.not_eq_false', List.isEmpty_iff] at hrows
  by_contra hlater
  have hkept : job ∈ ((outbox.storage.tombstoned cutoff).purged (.upTo cutoff)).rows := by
    refine HoldoverWriteOutboxStorage.mem_rows.mpr ⟨E, ?_⟩
    refine Rows.getElem?_filter_eq_some.mpr ⟨hjob, ?_⟩
    simpa [DeletionCutoff.covers] using hlater
  change job ∈ HoldoverWriteOutboxStorage.rows _ at hkept
  rw [show ((outbox.storage.tombstoned cutoff).purged (.upTo cutoff)).rows = [] from hrows] at hkept
  cases hkept

theorem appStep_change (appId : String) (world : AppWorld) (event : AppEvent) :
    AppChange appId world event ((appAssignments appId).next world event) := by
  simp only [Machine.next, appAssignments]
  cases event with
  | putAssignment put call fate =>
    rw [appStep, mapOk_apply]
    unfold putHoldoverWriteAppAssignment
    split
    · exact .same rfl rfl rfl
    · cases keyVersionOf put.ref.targetingKeyHash with
      | error message =>
        rw [andThen_of_error (resolve_apply _)]
        exact .same rfl rfl rfl
      | ok version =>
        rw [andThen_of_ok (resolve_apply _)]
        split
        · exact .same rfl rfl rfl
        · rcases admitAssignment_cases put.ref put.identityVersion world.inventory with
            ⟨answer, hanswer, h⟩ | h
          · cases answer with
            | error message =>
              rw [andThen_of_error (by rw [atInventory_apply, h])]
              exact .same rfl rfl rfl
            | ok admission =>
              rw [andThen_of_ok (by rw [atInventory_apply, h]), if_pos fun heq =>
                hanswer (congrArg _ heq)]
              exact .same rfl rfl rfl
          · rw [andThen_of_ok (by rw [atInventory_apply, h]), if_neg (by decide)]
            cases call with
            | error message =>
              rw [andThen_of_error (resolve_apply _)]
              exact .admitted
            | ok _ =>
              rw [andThen_of_ok (resolve_apply _)]
              exact .put
  | register ref =>
    rw [appStep, mapOk_apply, atInventory_apply]
    rcases register_cases ref world.inventory with h | h
    · rw [h]
      exact .same rfl rfl rfl
    · rw [h]
      exact .registered
  | ensure =>
    rw [appStep, mapOk_apply]
    exact .same rfl rfl rfl
  | outboxAlarm =>
    rw [appStep, mapOk_apply]
    exact .same rfl rfl rfl
  | deleteFromOutbox ref deleteBeforeTsMs markEntityPurged =>
    rw [appStep, mapOk_apply]
    unfold deleteFromOutbox
    rw [andThen_apply]
    cases hdelete : HoldoverWriteOutbox.deleteEntityOutbox deleteBeforeTsMs
        (world.outboxes ref.name) with
    | mk answer outbox =>
      rw [atOutbox, hdelete]
      cases answer with
      | error message => exact .same rfl rfl rfl
      | ok remainingJobs =>
        dsimp only
        cases markEntityPurged with
        | none => exact .same rfl rfl rfl
        | some call =>
          cases remainingJobs with
          | true => exact .same rfl rfl rfl
          | false =>
            dsimp only
            rw [if_neg Bool.false_ne_true]
            cases hserved : call.served with
            | true =>
              have hjobs := deleteEntityOutbox_jobs hdelete
              rw [if_pos rfl, andThen_of_ok (atInventory_apply _)]
              cases call.answer <;> exact .unregistered hserved hjobs rfl rfl rfl
            | false =>
              rw [if_neg Bool.false_ne_true]
              cases call.answer <;> exact .same rfl rfl rfl

/-- **Every event** leaves the inventory open, with its rows under their names. -/
theorem AppChange.inventorySound {event : AppEvent} (h : AppChange appId world event world')
    (hsound : InventorySound world.inventory) : InventorySound world'.inventory := by
  cases h with
  | same hinventory => exact hinventory ▸ hsound
  | registered => exact hsound.register _
  | admitted => exact hsound.admitted _ _
  | put => exact hsound.admitted _ _
  | unregistered _ _ hinventory =>
    rw [hinventory]
    exact ⟨⟨hsound.opened.saga, hsound.opened.suppressed, hsound.opened.incomplete,
      hsound.opened.cutoff⟩, hsound.keyed.erase _⟩

theorem history_inventorySound (appId : String) (history : List AppEvent) :
    InventorySound ((appAssignments appId).run history).inventory := by
  have hinit : InventorySound (appAssignments appId).init.inventory :=
    ⟨⟨rfl, rfl, rfl, rfl⟩, Rows.Keyed.empty⟩
  exact Machine.exec_invariant (I := fun world : AppWorld => InventorySound world.inventory)
    (appAssignments appId)
    (fun world event hsound => (appStep_change appId world event).inventorySound hsound)
    hinit history

/-- An Entity whose writer has a winner is in one of the two indexes. -/
def WinnersIndexed (appId : String) (world : AppWorld) : Prop :=
  ∀ name, (world.writers name).winners ≠ ∅ → Indexed appId world name

/-- A deletion from the outbox that unregisters the Entity finds a writer without winners, or a
key in KV. -/
def KeepsIndexed (appId : String) (world : AppWorld) : AppEvent → Prop
  | .deleteFromOutbox ref deleteBeforeTsMs (some call) => call.served = true →
    (∀ (E : String) (job : HoldoverWriteJob),
      (world.outboxes ref.name).storage.jobs[E]? = some job →
        job.createdAtMs ≤ deleteBeforeTsMs) →
    (world.writers ref.name).winners = ∅ ∨
      (world.kv[assignmentKeyPrefix appId ++ ref.name]?).isSome
  | _ => True

theorem setKey_other {kv : Std.ExtTreeMap String AssignmentStoreValue compare} {key key' : String}
    (hne : key' ≠ key) (value : Option AssignmentStoreValue) :
    (setKey kv key value)[key']? = kv[key']? := by
  cases value with
  | none => rw [setKey, Rows.getElem?_erase_eq, if_neg hne]
  | some value => rw [setKey, Rows.getElem?_insert_eq, if_neg hne]

theorem atWriter_others {α : Type} (action : AssignmentStoreWriter.WriterM α)
    {ref : HoldoverWriteAppEntityRef} {name : String} (hne : name ≠ ref.name) :
    (atWriter appId ref action world).2.writers name = world.writers name :=
  Function.update_of_ne hne _ _

/-- **Every event but the deletions that the guard rules out** keeps the writers with winners indexed.
A put registers its Entity before the writer has a winner. Only a deletion from an outbox takes an
Entity off the inventory, and the guard asks that its key is in KV then, or that its writer has no
winner. -/
theorem AppChange.winnersIndexed {event : AppEvent} (h : AppChange appId world event world')
    (hindexed : WinnersIndexed appId world) (hkeeps : KeepsIndexed appId world event) :
    WinnersIndexed appId world' := by
  intro name hwinners
  cases h with
  | same hinventory hwriters hkv =>
    rw [Indexed, hinventory, hkv]
    exact hindexed name (hwriters ▸ hwinners)
  | registered =>
    exact (hindexed name hwinners).imp_left fun hrow => isSome_insert_iff.mpr (Or.inl hrow)
  | admitted =>
    exact (hindexed name hwinners).imp_left fun hrow => isSome_insert_iff.mpr (Or.inl hrow)
  | @put put =>
    rcases eq_or_ne name put.ref.name with rfl | hne
    · exact Or.inl (isSome_insert_iff.mpr (Or.inr rfl))
    · rw [atWriter_others _ hne] at hwinners
      refine (hindexed name hwinners).imp (fun hrow => isSome_insert_iff.mpr (Or.inl hrow))
        fun hkey => ?_
      refine (congrArg Option.isSome (setKey_other (fun heq => hne ?_) _)).trans hkey
      rw [entity_key] at heq
      exact (String.append_right_inj _).mp heq
  | @unregistered ref _ _ _ hserved hjobs hinventory hwriters hkv =>
    rw [hwriters] at hwinners
    rw [Indexed, hkv, hinventory]
    rcases eq_or_ne name ref.name with rfl | hne
    · exact Or.inr ((hkeeps hserved hjobs).resolve_left hwinners)
    · refine (hindexed name hwinners).imp_left fun hrow => ?_
      change (((world.inventory.storage.entities.erase ref.name)[name]?).isSome)
      rw [Rows.getElem?_erase_eq, if_neg hne]
      exact hrow

theorem history_winnersIndexed {history : List AppEvent}
    (hkeeps : (appAssignments appId).Guarded (KeepsIndexed appId) .empty history) :
    WinnersIndexed appId ((appAssignments appId).run history) :=
  Machine.exec_invariant_of_guarded (I := WinnersIndexed appId) (appAssignments appId)
    (fun world event h hkeeps => (appStep_change appId world event).winnersIndexed h hkeeps)
    (fun _ hwinners => absurd rfl hwinners) hkeeps

/-! ## 7. What a reset leaves -/

/-- The identity version that a winner was put under. -/
def versionOf (winner : StoredAssignment) : Except String String :=
  winner.identityVersion.elim (keyVersionOf winner.targetingKeyHash) .ok

/-- The Entity's writer holds a winner of a destroyed version. -/
def HoldsDestroyed (world : AppWorld) (destroyedVersions : List String) (name : String) : Prop :=
  ∃ (E : String) (winner : StoredAssignment) (version : String),
    (world.writers name).winners[E]? = some winner ∧ versionOf winner = .ok version ∧
      version ∈ destroyedVersions

/-- Nothing is left of the App's Assignments under these versions. -/
structure ResetClean (appId : String) (destroyedVersions : List String) (world : AppWorld) :
    Prop where
  writers : ∀ name, ¬ HoldsDestroyed world destroyedVersions name
  kv : ∀ key : String, (assignmentKeyPrefix appId).toList <+: key.toList → world.kv[key]? = none

theorem not_holdsDestroyed_of_empty {destroyedVersions : List String} {name : String}
    (h : (world.writers name).winners = ∅) : ¬ HoldsDestroyed world destroyedVersions name := by
  rintro ⟨E, winner, _, hwinner, -⟩
  rw [h, Std.ExtTreeMap.getElem?_empty] at hwinner
  cases hwinner

/-- **What a destructive reset leaves**, after any history: where it resolves, nothing is left in
KV, and nothing of the destroyed versions in the writers if and only if each writer that held some
was in the inventory or in KV when the reset began.  This is so after every history in which no
deletion from an outbox unregistered an Entity whose writer held a winner without a key in KV. -/
theorem reset_leaves_no_assignment (appId : String) (history : List AppEvent) (resetId : String)
    (destroyedVersions : List String) (fate : ResetFate) (pages : Nat)
    {summary : AppResetSummary} {after : AppWorld}
    (h : purgeAppIdentityAssignments appId resetId destroyedVersions fate pages
      ((appAssignments appId).run history) = (.ok summary, after)) :
    (ResetClean appId destroyedVersions after ↔
      ∀ name, HoldsDestroyed ((appAssignments appId).run history) destroyedVersions name →
        Indexed appId ((appAssignments appId).run history) name) ∧
      ((appAssignments appId).Guarded (KeepsIndexed appId) .empty history →
        ResetClean appId destroyedVersions after) := by
  obtain ⟨hopen, hkeyed⟩ := history_inventorySound appId history
  obtain ⟨⟨hpurged, hothers⟩, hkv⟩ := purgeAppIdentityAssignments_ok hopen hkeyed h
  have hiff : ResetClean appId destroyedVersions after ↔
      ∀ name, HoldsDestroyed ((appAssignments appId).run history) destroyedVersions name →
        Indexed appId ((appAssignments appId).run history) name := by
    constructor
    · intro hclean name hholds
      by_contra hmissing
      refine hclean.writers name ?_
      rw [HoldsDestroyed, hothers name hmissing]
      exact hholds
    · refine fun hcovered => ⟨fun name hholds => ?_, hkv⟩
      by_cases hindexed : Indexed appId ((appAssignments appId).run history) name
      · exact not_holdsDestroyed_of_empty (hpurged name hindexed) hholds
      · rw [HoldsDestroyed, hothers name hindexed] at hholds
        exact hindexed (hcovered name hholds)
  refine ⟨hiff, fun hkeeps => hiff.mpr fun name hholds => ?_⟩
  refine history_winnersIndexed hkeeps name fun hempty => ?_
  exact not_holdsDestroyed_of_empty hempty hholds

def resetEntityRef : HoldoverWriteAppEntityRef := ⟨"account", "v1:hash", by decide, by decide⟩

/-- An Assignment whose write-through to KV fails. -/
def failingPut : AppEvent :=
  .putAssignment ⟨"app", "exp_1", resetEntityRef, "v1", "run", 100, "on"⟩ (.ok ())
    ⟨false, .failed false "kv"⟩

def resetCallsDone : ResetFate where
  nowMs := 200
  status := .ok ()
  list _ := .ok ()
  register _ := .ok ()
  beginDeletion := .ok ()
  prepare := ⟨.ok (), .ok (), .ok ()⟩
  frozen := .ok ()
  writer _ := .ok ()
  writerKv _ := ⟨false, .done⟩
  outbox _ := .ok ()
  markEntityPurged _ := .ok ()
  verified := .ok ()
  deleteList _ := .ok ()
  kvDelete _ := .ok ()

/-- The reset finds the Entity of that Assignment in the inventory. -/
theorem reset_leaves_no_assignment_registered :
    ResetClean "app" ["v1"] (purgeAppIdentityAssignments "app" "reset" ["v1"] resetCallsDone 1
      ((appAssignments "app").run [failingPut])).2 := by
  have hresolves : (purgeAppIdentityAssignments "app" "reset" ["v1"] resetCallsDone 1
      ((appAssignments "app").run [failingPut])).1 = .ok ⟨0, 2⟩ := by decide +kernel
  exact (reset_leaves_no_assignment "app" [failingPut] "reset" ["v1"] resetCallsDone 1
    (Prod.ext hresolves rfl)).2 ⟨trivial, trivial⟩

/-- A deletion of the Entity from its outbox, up to a moment before that Assignment. -/
def unregisteringHistory : List AppEvent :=
  [failingPut, .deleteFromOutbox resetEntityRef 50 (some .done)]

/-- What a reset after it does. -/
def blindReset : Except String AppResetSummary × AppWorld :=
  purgeAppIdentityAssignments "app" "reset" ["v1"] resetCallsDone 1
    ((appAssignments "app").run unregisteringHistory)

/-- **A winner outlives the reset**: its write-through has failed, and a deletion of the Entity
from its outbox has unregistered the Entity. -/
theorem reset_leaves_a_winner :
    ¬ ∀ (history : List AppEvent) (resetId : String) (destroyedVersions : List String)
      (fate : ResetFate) (pages : Nat) (summary : AppResetSummary) (after : AppWorld),
      purgeAppIdentityAssignments "app" resetId destroyedVersions fate pages
        ((appAssignments "app").run history) = (.ok summary, after) →
      ResetClean "app" destroyedVersions after := by
  intro h
  have hresolves : blindReset.1 = .ok ⟨0, 0⟩ := by decide +kernel
  have hreset : blindReset = (.ok ⟨0, 0⟩, blindReset.2) := Prod.ext hresolves rfl
  have hclean := h unregisteringHistory "reset" ["v1"] resetCallsDone 1 ⟨0, 0⟩ blindReset.2 hreset
  have hversions : ((blindReset.2.writers "account:v1:hash").winners["exp_1"]?).map versionOf
      = some (.ok "v1") := by decide +kernel
  obtain ⟨winner, hwinner, hversion⟩ := Option.map_eq_some_iff.mp hversions
  exact hclean.writers "account:v1:hash" ⟨"exp_1", winner, "v1", hwinner, hversion, by decide⟩

end Splitch
