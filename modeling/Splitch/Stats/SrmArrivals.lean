/-
# Arrivals

The observation path of the SRM check is a list that the code sorts.  To compare two checks, it is better
seen as a SET of arrivals in the order of their places: a place is an instant and the key of the Entity, so
places are distinct where Entities are.

The sort throws on two Entities of one place and different Variants, and otherwise gives the arrivals of its
Entities in a strict order (`isPath_of_sort`).  A path of a set is unique (`IsPath.eq`), and more arrivals
that are all later continue it (`IsPath.continues`).  These two facts are all that is said of sorting.

What remains is which set it is.  The code puts rows into a map by Entity and keeps the last one, so the set
depends on the order in which the rows are read.  Where every Entity has one clock, the Exposure path is that
of a set which the rows decide (`exposure_isPath`), and where no two Entities share a key, so is the
activated path (`activated_isPath`).  Whether a path is built at all is a matter of its rows too
(`exists_exposurePath_iff`, `exists_activatedPath_iff`).
-/
import Splitch.Library.Checks
import Splitch.Stats.SrmEligibility

namespace Splitch

namespace Srm

variable {dateParse : String → Option Int}

/-! ## 1. Places -/

/-- What the path shows of an Entity. -/
structure Arrival where
  targetingKeyHash : String
  variant : String
  ms : Int
  deriving DecidableEq

def Arrival.place (arrival : Arrival) : Int ×ₗ List Nat :=
  toLex (arrival.ms, Utf16.units arrival.targetingKeyHash)

def arrival (dateParse : String → Option Int) (entity : SrmPathEntity) : Arrival :=
  ⟨entity.targetingKeyHash, entity.variant, (dateParse entity.arrivalTs).getD 0⟩

/-- No two arrivals fall on one place with different Variants. -/
def Consistent (arrivals : Set Arrival) : Prop :=
  ∀ a ∈ arrivals, ∀ b ∈ arrivals, a.ms = b.ms → a.targetingKeyHash = b.targetingKeyHash →
    a.variant = b.variant

theorem Consistent.mono {arrivals arrivals' : Set Arrival} (h : Consistent arrivals')
    (hsub : arrivals ⊆ arrivals') : Consistent arrivals :=
  fun a ha b hb => h a (hsub ha) b (hsub hb)

theorem place_eq_iff {a b : Arrival} :
    a.place = b.place ↔ a.ms = b.ms ∧ a.targetingKeyHash = b.targetingKeyHash := by
  unfold Arrival.place
  rw [toLex_inj, Prod.mk.injEq, Utf16.units_injective.eq_iff]

/-- The comparison throws only on Entities of one place and different Variants. -/
theorem compare_error_iff {left right : SrmPathEntity} {leftMs rightMs : Int}
    (hleft : dateParse left.arrivalTs = some leftMs)
    (hright : dateParse right.arrivalTs = some rightMs) :
    (∃ message, compareSrmPathEntities dateParse left right = .error message) ↔
      leftMs = rightMs ∧ left.targetingKeyHash = right.targetingKeyHash ∧
        left.variant ≠ right.variant := by
  unfold compareSrmPathEntities
  rw [arrivalMs_eq_ok.mpr hleft, arrivalMs_eq_ok.mpr hright]
  change (∃ message, (if leftMs ≠ rightMs then _ else _) = _) ↔ _
  have hunits : left.targetingKeyHash = right.targetingKeyHash ↔
      ¬ Utf16.units left.targetingKeyHash < Utf16.units right.targetingKeyHash ∧
        ¬ Utf16.units right.targetingKeyHash < Utf16.units left.targetingKeyHash := by
    rw [not_lt, not_lt, and_comm, ← le_antisymm_iff, Utf16.units_injective.eq_iff]
  split
  · next hne => exact ⟨fun ⟨_, h⟩ => (by cases h), fun h => absurd h.1 hne⟩
  split
  · next hlt => exact ⟨fun ⟨_, h⟩ => (by cases h), fun h => absurd hlt (hunits.mp h.2.1).1⟩
  split
  · next hlt => exact ⟨fun ⟨_, h⟩ => (by cases h), fun h => absurd hlt (hunits.mp h.2.1).2⟩
  next heq hnot hnot' =>
  split
  · next hne => exact ⟨fun _ => ⟨not_not.mp heq, hunits.mpr ⟨hnot, hnot'⟩, hne⟩, fun _ => ⟨_, rfl⟩⟩
  · next hsame => exact ⟨fun ⟨_, h⟩ => (by cases h), fun h => absurd h.2.2 hsame⟩

theorem conflict_eq_none {entities : List SrmPathEntity} :
    conflict dateParse entities = none ↔ ∀ left ∈ entities, ∀ right ∈ entities,
      ¬ ∃ message, compareSrmPathEntities dateParse left right = .error message := by
  unfold conflict
  rw [List.findSome?_eq_none_iff]
  refine forall₂_congr fun left _ => ?_
  rw [List.findSome?_eq_none_iff]
  refine forall₂_congr fun right _ => ?_
  split
  · next message h => exact ⟨fun hnone => (by cases hnone), fun hnot => absurd ⟨message, h⟩ hnot⟩
  · next answer h =>
    refine ⟨fun _ => ?_, fun _ => rfl⟩
    rintro ⟨message, herror⟩
    rw [h] at herror
    cases herror

/-- Every arrival can be read. -/
def Parsed (dateParse : String → Option Int) (entities : List SrmPathEntity) : Prop :=
  ∀ entity ∈ entities, ∃ ms, dateParse entity.arrivalTs = some ms

theorem arrival_ms {entity : SrmPathEntity} {ms : Int} (h : dateParse entity.arrivalTs = some ms) :
    (arrival dateParse entity).ms = ms := by
  unfold arrival
  rw [h]
  rfl

theorem conflict_eq_none_iff {entities : List SrmPathEntity} (hparsed : Parsed dateParse entities) :
    conflict dateParse entities = none ↔
      Consistent { a | ∃ entity ∈ entities, arrival dateParse entity = a } := by
  rw [conflict_eq_none]
  constructor
  · rintro h _ ⟨left, hleft, rfl⟩ _ ⟨right, hright, rfl⟩ hms hhash
    obtain ⟨leftMs, hleftMs⟩ := hparsed left hleft
    obtain ⟨rightMs, hrightMs⟩ := hparsed right hright
    rw [arrival_ms hleftMs, arrival_ms hrightMs] at hms
    by_contra hne
    exact h left hleft right hright ((compare_error_iff hleftMs hrightMs).mpr ⟨hms, hhash, hne⟩)
  · intro h left hleft right hright herror
    obtain ⟨leftMs, hleftMs⟩ := hparsed left hleft
    obtain ⟨rightMs, hrightMs⟩ := hparsed right hright
    obtain ⟨hms, hhash, hne⟩ := (compare_error_iff hleftMs hrightMs).mp herror
    refine hne (h _ ⟨left, hleft, rfl⟩ _ ⟨right, hright, rfl⟩ ?_ hhash)
    rw [arrival_ms hleftMs, arrival_ms hrightMs, hms]

/-! ## 2. The sort -/

theorem sort_eq_ok {entities path : List SrmPathEntity} :
    sortEntitiesByArrival dateParse entities = .ok path ↔
      Parsed dateParse entities ∧
        Consistent { a | ∃ entity ∈ entities, arrival dateParse entity = a } ∧
        path = Sorting.sortBy (place dateParse) entities := by
  have hread : (entities.forM fun entity => do
      let _ ← arrivalMs dateParse entity.arrivalTs) = .ok ⟨⟩ ↔ Parsed dateParse entities := by
    rw [Checks.forM_eq_ok]
    refine forall₂_congr fun entity _ => ?_
    rw [Checks.bind_eq_ok]
    exact exists_congr fun ms => (and_iff_left rfl).trans arrivalMs_eq_ok
  unfold sortEntitiesByArrival
  rw [Checks.bind_eq_ok]
  constructor
  · rintro ⟨_, hparsed, h⟩
    have hparsed := hread.mp hparsed
    refine ⟨hparsed, ?_⟩
    rw [← conflict_eq_none_iff hparsed]
    split at h
    · cases h
    · exact ⟨‹_›, (Checks.pure_eq_ok.mp h).symm⟩
  · rintro ⟨hparsed, hconsistent, rfl⟩
    refine ⟨⟨⟩, hread.mpr hparsed, ?_⟩
    rw [(conflict_eq_none_iff hparsed).mpr hconsistent]
    rfl

/-- The Variant and the Entity of a place on the path. -/
def pathEntity (entity : SrmPathEntity) : String × String := (entity.variant, entity.targetingKeyHash)

/-- A set of arrivals in the order of their places. -/
structure IsPath (arrivals : Set Arrival) (path : List Arrival) : Prop where
  sorted : path.Pairwise fun a b => a.place < b.place
  mem : ∀ a, a ∈ path ↔ a ∈ arrivals

theorem IsPath.eq {arrivals : Set Arrival} {path path' : List Arrival} (h : IsPath arrivals path)
    (h' : IsPath arrivals path') : path = path' :=
  Sorting.eq_of_mem_iff h.sorted h'.sorted fun a => (h.mem a).trans (h'.mem a).symm

/-- **More arrivals, all of them later**, continue the path. -/
theorem IsPath.continues {arrivals arrivals' : Set Arrival} {path path' : List Arrival}
    (h : IsPath arrivals path) (h' : IsPath arrivals' path') (hsub : arrivals ⊆ arrivals')
    (hlater : ∀ b ∈ arrivals', b ∉ arrivals → ∀ a ∈ arrivals, a.ms < b.ms) : path <+: path' := by
  refine Sorting.continues_of_later h.sorted h'.sorted
    (fun a ha => (h'.mem a).mpr (hsub ((h.mem a).mp ha))) fun b hb hnot a ha => ?_
  exact Prod.Lex.toLex_lt_toLex.mpr
    (.inl (hlater b ((h'.mem b).mp hb) (mt (h.mem b).mpr hnot) a ((h.mem a).mp ha)))

/-- **The sort** gives the arrivals of its Entities. Entities of one instant and one hash are of one
arm, which the sort has checked, so no two of the path are in the same place and the order is strict. -/
theorem isPath_of_sort {entities path : List SrmPathEntity} (hnodup : (entities.map pathEntity).Nodup)
    (h : sortEntitiesByArrival dateParse entities = .ok path) :
    IsPath { a | ∃ entity ∈ entities, arrival dateParse entity = a } (path.map (arrival dateParse)) := by
  obtain ⟨-, hconsistent, rfl⟩ := sort_eq_ok.mp h
  have hperm : (Sorting.sortBy (place dateParse) entities).Perm entities := Sorting.sortBy_perm
  constructor
  · rw [List.pairwise_map]
    have hdistinct := List.pairwise_map.mp ((hperm.map pathEntity).nodup_iff.mpr hnodup)
    refine (Sorting.pairwise_sortBy.and hdistinct).imp_of_mem fun {a b} ha hb hab => ?_
    refine lt_of_le_of_ne hab.1 fun heq => hab.2 ?_
    obtain ⟨hms, hhash⟩ := place_eq_iff.mp heq
    exact Prod.ext (hconsistent _ ⟨a, hperm.mem_iff.mp ha, rfl⟩ _ ⟨b, hperm.mem_iff.mp hb, rfl⟩ hms
      hhash) hhash
  · intro a
    rw [List.mem_map]
    exact exists_congr fun entity => and_congr_left fun _ => hperm.mem_iff

/-! ## 3. The Exposure path -/

/-- The allocation and the Variants of the rows are accepted. -/
def Declared (input : SrmCheckerInput) (variants : List String) : Prop :=
  allocationVariants input.allocation = .ok variants ∧
    ∀ exposure ∈ input.exposures, InArm input.runId exposure → exposure.variant ∈ variants

theorem declared_iff {input : SrmCheckerInput} {variants : List String} :
    Declared input variants ↔ allocationVariants input.allocation = .ok variants ∧
      assertExposureVariantsAreDeclared input variants = .ok ⟨⟩ := by
  unfold Declared assertExposureVariantsAreDeclared
  rw [Checks.forM_eq_ok]
  refine and_congr_right fun _ => forall₂_congr fun exposure _ => ?_
  split
  · next h => exact ⟨fun hin => absurd (hin ⟨h.1, h.2.1⟩) h.2.2, fun h => (by cases h)⟩
  · next h =>
    exact ⟨fun _ => rfl, fun _ harm => not_not.mp fun hnot => h ⟨harm.1, harm.2, hnot⟩⟩

theorem Declared.nodup {input : SrmCheckerInput} {variants : List String}
    (h : Declared input variants) : variants.Nodup := by
  have hvariants := h.1
  unfold allocationVariants at hvariants
  split at hvariants
  · cases hvariants
  · obtain ⟨_, -, hpure⟩ := Checks.bind_eq_ok.mp hvariants
    rw [← Checks.pure_eq_ok.mp hpure]
    exact input.allocation.nodup

/-- The arrivals of the Exposure check: the clocks of the rows. -/
def exposureArrivals (dateParse : String → Option Int) (input : SrmCheckerInput) : Set Arrival :=
  { a | ∃ exposure ∈ input.exposures, InArm input.runId exposure ∧
    armEntity exposure = (a.variant, a.targetingKeyHash) ∧
    clockMs dateParse exposure.firstIngestTs = some a.ms }

/-- The rows of an Entity in an arm have one clock. -/
def OneClock (dateParse : String → Option Int) (input : SrmCheckerInput) : Prop :=
  ∀ exposure ∈ input.exposures, ∀ other ∈ input.exposures, InArm input.runId exposure →
    InArm input.runId other → armEntity exposure = armEntity other →
    clockMs dateParse exposure.firstIngestTs = clockMs dateParse other.firstIngestTs

variable {input : SrmCheckerInput} {variants : List String}

/-- The rows that the Exposure check keeps. -/
def keptRows (input : SrmCheckerInput) (variants : List String) : List DedupeExposureRow :=
  variants.flatMap fun variant =>
    dedupedExposureRowsForVariant input.runId variant input.exposures

theorem mem_variantRows {runId variant : String} {exposures : List DedupeExposureRow}
    {exposure : DedupeExposureRow} :
    (exposure ∈ exposures.filter fun exposure =>
      exposure.runId = runId ∧ exposure.variant = variant ∧ exposure.variant ≠ MULTIPLE_VARIANT) ↔
      exposure ∈ exposures ∧ InArm runId exposure ∧ exposure.variant = variant := by
  rw [List.mem_filter, decide_eq_true_iff]
  exact and_congr_right fun _ => ⟨fun h => ⟨⟨h.1, h.2.2⟩, h.2.1⟩, fun h => ⟨h.1.1, h.2, h.1.2⟩⟩

theorem mem_of_mem_keptRows {exposure : DedupeExposureRow} (h : exposure ∈ keptRows input variants) :
    exposure ∈ input.exposures ∧ InArm input.runId exposure ∧ exposure.variant ∈ variants := by
  obtain ⟨variant, hvariant, hmem⟩ := List.mem_flatMap.mp h
  obtain ⟨hexposure, harm, rfl⟩ := mem_variantRows.mp (LatestRows.mem_of_mem_latest hmem)
  exact ⟨hexposure, harm, hvariant⟩

/-- Every Entity of a declared arm has a row that is kept. -/
theorem exists_keptRow {exposure : DedupeExposureRow} (hmem : exposure ∈ input.exposures)
    (harm : InArm input.runId exposure) (hdeclared : exposure.variant ∈ variants) :
    ∃ kept ∈ keptRows input variants, armEntity kept = armEntity exposure := by
  have hrow := mem_variantRows.mpr ⟨hmem, harm, rfl⟩
  have hlatest : ∃ kept ∈ dedupedExposureRowsForVariant input.runId exposure.variant input.exposures,
      kept.targetingKeyHash = exposure.targetingKeyHash := LatestRows.exists_latest hrow
  obtain ⟨kept, hkept, hhash⟩ := hlatest
  refine ⟨kept, List.mem_flatMap.mpr ⟨_, hdeclared, hkept⟩, Prod.ext ?_ hhash⟩
  exact (mem_variantRows.mp (LatestRows.mem_of_mem_latest hkept)).2.2

theorem nodup_keptRows (hnodup : variants.Nodup) :
    ((keptRows input variants).map armEntity).Nodup := by
  rw [keptRows, List.map_flatMap, List.nodup_flatMap]
  constructor
  · intro variant _
    refine List.Nodup.of_map Prod.snd ?_
    rw [List.map_map]
    exact LatestRows.nodup_latest _
  · refine hnodup.imp fun {first second} hne pair hfirst hsecond => hne ?_
    obtain ⟨row, hrow, rfl⟩ := List.mem_map.mp hfirst
    obtain ⟨other, hother, heq⟩ := List.mem_map.mp hsecond
    rw [← (mem_variantRows.mp (LatestRows.mem_of_mem_latest hrow)).2.2,
      ← (mem_variantRows.mp (LatestRows.mem_of_mem_latest hother)).2.2]
    exact (congrArg Prod.fst heq).symm

theorem dedupedPathEntity_eq_ok {exposure : DedupeExposureRow} {entity : SrmPathEntity} :
    dedupedPathEntity exposure = .ok entity ↔ exposure.firstIngestTs = some entity.arrivalTs ∧
      entity.arrivalTs ≠ "" ∧ pathEntity entity = armEntity exposure := by
  unfold dedupedPathEntity
  split
  · next h => exact ⟨fun heq => (by cases heq), fun heq => by rw [h] at heq; cases heq.1⟩
  · next h =>
    refine ⟨fun heq => (by cases heq), fun heq => absurd ?_ heq.2.1⟩
    rw [h] at heq
    exact (Option.some.inj heq.1).symm
  · next text hne h =>
    rw [Checks.pure_eq_ok]
    constructor
    · rintro rfl
      exact ⟨h, fun hempty => hne hempty, rfl⟩
    · rintro ⟨harrival, -, hentity⟩
      cases h.symm.trans harrival
      cases entity
      cases hentity
      rfl

theorem exposureEntities_eq_ok {entities : List SrmPathEntity} :
    exposureEntities input = .ok entities ↔ ∃ variants, Declared input variants ∧
      (keptRows input variants).mapM dedupedPathEntity = .ok entities := by
  unfold exposureEntities
  rw [Checks.bind_eq_ok]
  refine exists_congr fun variants => ?_
  rw [declared_iff, and_assoc, Checks.bind_eq_ok]
  refine and_congr_right fun _ => ⟨fun ⟨_, hassert, h⟩ => ⟨hassert, h⟩, fun ⟨hassert, h⟩ => ⟨⟨⟩, hassert, h⟩⟩

theorem exposure_nodup {entities : List SrmPathEntity} (h : exposureEntities input = .ok entities) :
    (entities.map pathEntity).Nodup := by
  obtain ⟨variants, hdeclared, hmap⟩ := exposureEntities_eq_ok.mp h
  rw [Checks.map_of_mapM_eq_ok hmap fun _ _ hentity => (dedupedPathEntity_eq_ok.mp hentity).2.2]
  exact nodup_keptRows hdeclared.nodup

theorem clockMs_of_entity {exposure : DedupeExposureRow} {entity : SrmPathEntity}
    (h : dedupedPathEntity exposure = .ok entity) :
    clockMs dateParse exposure.firstIngestTs = dateParse entity.arrivalTs := by
  obtain ⟨htext, hne, -⟩ := dedupedPathEntity_eq_ok.mp h
  cases hms : dateParse entity.arrivalTs with
  | some ms => exact clockMs_eq_some.mpr ⟨_, htext, hne, hms⟩
  | none =>
    rw [Option.eq_none_iff_forall_ne_some]
    intro ms heq
    obtain ⟨text, htext', -, hparsed⟩ := clockMs_eq_some.mp heq
    cases htext.symm.trans htext'
    rw [hms] at hparsed
    cases hparsed

/-- What the kept rows show, where the rows of an Entity have one clock. -/
theorem exposure_shows (hclock : OneClock dateParse input) {entities : List SrmPathEntity}
    (h : exposureEntities input = .ok entities) (hparsed : Parsed dateParse entities) :
    { a | ∃ entity ∈ entities, arrival dateParse entity = a } = exposureArrivals dateParse input := by
  obtain ⟨variants, hdeclared, hmap⟩ := exposureEntities_eq_ok.mp h
  ext a
  constructor
  · rintro ⟨entity, hentity, rfl⟩
    obtain ⟨kept, hkept, hok⟩ := (Checks.mem_of_mapM_eq_ok hmap entity).mp hentity
    obtain ⟨hmem, harm, -⟩ := mem_of_mem_keptRows hkept
    obtain ⟨ms, hms⟩ := hparsed entity hentity
    refine ⟨kept, hmem, harm, ((dedupedPathEntity_eq_ok.mp hok).2.2).symm, ?_⟩
    rw [clockMs_of_entity hok, hms, arrival_ms hms]
  · rintro ⟨exposure, hmem, harm, hentity, hms⟩
    obtain ⟨kept, hkept, hsame⟩ := exists_keptRow hmem harm (hdeclared.2 exposure hmem harm)
    obtain ⟨hkeptMem, hkeptArm, -⟩ := mem_of_mem_keptRows hkept
    obtain ⟨entity, hok⟩ := (Checks.exists_mapM_eq_ok.mp ⟨entities, hmap⟩) kept hkept
    rw [hclock exposure hmem kept hkeptMem harm hkeptArm hsame.symm, clockMs_of_entity hok] at hms
    refine ⟨entity, (Checks.mem_of_mapM_eq_ok hmap entity).mpr ⟨kept, hkept, hok⟩, ?_⟩
    have hpair := (dedupedPathEntity_eq_ok.mp hok).2.2.trans (hsame.trans hentity)
    cases a
    cases hpair
    exact congrArg (Arrival.mk _ _) (arrival_ms hms)

/-- **The Exposure path** is that of the clocks of the rows. -/
theorem exposure_isPath (hclock : OneClock dateParse input) {path : List SrmPathEntity}
    (h : exposurePath dateParse input = .ok path) :
    IsPath (exposureArrivals dateParse input) (path.map (arrival dateParse)) := by
  obtain ⟨entities, hentities, hsort⟩ := Checks.bind_eq_ok.mp h
  rw [← exposure_shows hclock hentities (sort_eq_ok.mp hsort).1]
  exact isPath_of_sort (exposure_nodup hentities) hsort

/-- When the Exposure path is built. -/
theorem exists_exposurePath_iff (hclock : OneClock dateParse input) :
    (∃ path, exposurePath dateParse input = .ok path) ↔ (∃ variants, Declared input variants) ∧
      (∀ exposure ∈ input.exposures, InArm input.runId exposure →
        ∃ ms, clockMs dateParse exposure.firstIngestTs = some ms) ∧
      Consistent (exposureArrivals dateParse input) := by
  constructor
  · rintro ⟨path, h⟩
    obtain ⟨entities, hentities, hsort⟩ := Checks.bind_eq_ok.mp h
    obtain ⟨hparsed, hconsistent, -⟩ := sort_eq_ok.mp hsort
    obtain ⟨variants, hdeclared, hmap⟩ := exposureEntities_eq_ok.mp hentities
    rw [exposure_shows hclock hentities hparsed] at hconsistent
    refine ⟨⟨variants, hdeclared⟩, fun exposure hmem harm => ?_, hconsistent⟩
    obtain ⟨kept, hkept, hsame⟩ := exists_keptRow hmem harm (hdeclared.2 exposure hmem harm)
    obtain ⟨hkeptMem, hkeptArm, -⟩ := mem_of_mem_keptRows hkept
    obtain ⟨entity, hok⟩ := (Checks.exists_mapM_eq_ok.mp ⟨entities, hmap⟩) kept hkept
    rw [hclock exposure hmem kept hkeptMem harm hkeptArm hsame.symm, clockMs_of_entity hok]
    exact hparsed entity ((Checks.mem_of_mapM_eq_ok hmap entity).mpr ⟨kept, hkept, hok⟩)
  · rintro ⟨⟨variants, hdeclared⟩, hclocks, hconsistent⟩
    have hall : ∀ kept ∈ keptRows input variants, ∃ entity, dedupedPathEntity kept = .ok entity := by
      intro kept hkept
      obtain ⟨hmem, harm, -⟩ := mem_of_mem_keptRows hkept
      obtain ⟨ms, hms⟩ := hclocks kept hmem harm
      obtain ⟨text, htext, hne, -⟩ := clockMs_eq_some.mp hms
      exact ⟨⟨_, _, text⟩, dedupedPathEntity_eq_ok.mpr ⟨htext, hne, rfl⟩⟩
    obtain ⟨entities, hmap⟩ := Checks.exists_mapM_eq_ok.mpr hall
    have hentities := exposureEntities_eq_ok.mpr ⟨variants, hdeclared, hmap⟩
    have hparsed : Parsed dateParse entities := by
      intro entity hentity
      obtain ⟨kept, hkept, hok⟩ := (Checks.mem_of_mapM_eq_ok hmap entity).mp hentity
      obtain ⟨hmem, harm, -⟩ := mem_of_mem_keptRows hkept
      obtain ⟨ms, hms⟩ := hclocks kept hmem harm
      exact ⟨ms, (clockMs_of_entity hok).symm.trans hms⟩
    rw [← exposure_shows hclock hentities hparsed] at hconsistent
    exact ⟨_, Checks.bind_eq_ok.mpr ⟨entities, hentities,
      sort_eq_ok.mpr ⟨hparsed, hconsistent, rfl⟩⟩⟩

/-! ## 4. The activated path -/

/-- The Exposure rows and the Activations of an Entity, paired. -/
def pairsOf (input : SrmCheckerInput) (targetingKeyHash : String) :
    List (DedupeExposureRow × ActivationRow) :=
  (exposuresOf input.runId input.exposures targetingKeyHash).product
    (activationsOf input.runId input.activationRows targetingKeyHash)

/-- A row that the activated check keeps. -/
def Active (dateParse : String → Option Int) (input : SrmCheckerInput) (exposure : DedupeExposureRow) :
    Prop :=
  exposure ∈ input.exposures ∧ InArm input.runId exposure ∧
    Activated dateParse input.runId input.activationRows exposure

/-- The arrivals of the activated check: when the Entities become eligible. -/
def activatedArrivals (dateParse : String → Option Int) (input : SrmCheckerInput) : Set Arrival :=
  { a | (∃ exposure, Active dateParse input exposure ∧
    armEntity exposure = (a.variant, a.targetingKeyHash)) ∧
    IsLeast (Instants dateParse (pairsOf input a.targetingKeyHash)) a.ms }

/-- No two Entities share the key of the map of activated rows. -/
def DistinctKeys (dateParse : String → Option Int) (input : SrmCheckerInput) : Prop :=
  ∀ exposure other, Active dateParse input exposure → Active dateParse input other →
    activatedKey exposure = activatedKey other → armEntity exposure = armEntity other

theorem mem_exposuresOf {targetingKeyHash : String} {exposure : DedupeExposureRow} :
    exposure ∈ exposuresOf input.runId input.exposures targetingKeyHash ↔
      exposure ∈ input.exposures ∧ exposure.runId = input.runId ∧
        exposure.targetingKeyHash = targetingKeyHash := by
  rw [exposuresOf, List.mem_filter, decide_eq_true_iff]

theorem mem_pairsOf {targetingKeyHash : String} {pair : DedupeExposureRow × ActivationRow} :
    pair ∈ pairsOf input targetingKeyHash ↔
      (pair.1 ∈ input.exposures ∧ pair.1.runId = input.runId ∧
        pair.1.targetingKeyHash = targetingKeyHash) ∧
      pair.2 ∈ input.activationRows ∧ pair.2.runId = input.runId ∧ pair.2.activated = true ∧
        pair.2.targetingKeyHash = targetingKeyHash := by
  obtain ⟨exposure, row⟩ := pair
  exact List.mem_product.trans (and_congr mem_exposuresOf mem_activationsOf)

/-- The rows of declared arms that the map of activated rows holds. -/
def keptActive (rows : List DedupeExposureRow) (variants : List String) : List DedupeExposureRow :=
  (LatestRows.latest activatedKey rows).filter (·.variant ∈ variants)

theorem activatedEntities_eq_ok {entities : List SrmPathEntity} :
    activatedEntities dateParse input = .ok entities ↔ ∃ variants, Declared input variants ∧
      ∃ rows, activatedRows dateParse input.runId input.activationRows input.exposures = .ok rows ∧
        (keptActive rows variants).mapM (activatedPathEntity dateParse input) = .ok entities := by
  unfold activatedEntities
  rw [Checks.bind_eq_ok]
  refine exists_congr fun variants => ?_
  rw [declared_iff, and_assoc, Checks.bind_eq_ok]
  refine and_congr_right fun _ => ?_
  unfold activatedPathEntities activatedExposureRows
  constructor
  · rintro ⟨_, hassert, h⟩
    obtain ⟨latest, hlatest, h⟩ := Checks.bind_eq_ok.mp h
    obtain ⟨rows, hrows, hpure⟩ := Checks.bind_eq_ok.mp hlatest
    cases Checks.pure_eq_ok.mp hpure
    exact ⟨hassert, rows, hrows, h⟩
  · rintro ⟨hassert, rows, hrows, h⟩
    exact ⟨⟨⟩, hassert, Checks.bind_eq_ok.mpr ⟨_, Checks.bind_eq_ok.mpr ⟨rows, hrows, rfl⟩, h⟩⟩

section

variable {rows : List DedupeExposureRow} {exposure row : DedupeExposureRow}

/-- The key is made of the arm and the Entity. -/
theorem activatedKey_congr {other : DedupeExposureRow} (h : armEntity row = armEntity other) :
    activatedKey row = activatedKey other :=
  congrArg (fun pair : String × String => pair.1 ++ "/" ++ pair.2) h

theorem nodup_keptActive : ((keptActive rows variants).map armEntity).Nodup := by
  have hnodup : ((LatestRows.latest activatedKey rows).map armEntity).Nodup := by
    refine List.Nodup.of_map (fun pair : String × String => pair.1 ++ "/" ++ pair.2) ?_
    rw [List.map_map]
    exact LatestRows.nodup_latest rows
  exact hnodup.sublist (List.filter_sublist.map armEntity)

theorem active_of_mem_rows
    (hrows : activatedRows dateParse input.runId input.activationRows input.exposures = .ok rows)
    (h : row ∈ rows) : ∃ exposure, Active dateParse input exposure ∧ armEntity exposure = armEntity row := by
  obtain ⟨exposure, hmem, harm, hactivated, hsame⟩ :=
    (mem_activatedRows hrows (armEntity row)).mp (List.mem_map_of_mem h)
  exact ⟨exposure, ⟨hmem, harm, hactivated⟩, hsame⟩

theorem active_of_mem_kept
    (hrows : activatedRows dateParse input.runId input.activationRows input.exposures = .ok rows)
    (h : row ∈ keptActive rows variants) :
    ∃ exposure, Active dateParse input exposure ∧ armEntity exposure = armEntity row :=
  active_of_mem_rows hrows (LatestRows.mem_of_mem_latest (List.mem_filter.mp h).1)

theorem exists_keptActive (hkeys : DistinctKeys dateParse input) (hdeclared : Declared input variants)
    (hrows : activatedRows dateParse input.runId input.activationRows input.exposures = .ok rows)
    (hactive : Active dateParse input exposure) :
    ∃ kept ∈ keptActive rows variants, armEntity kept = armEntity exposure := by
  have hsame : ∀ row ∈ rows, ∀ other ∈ rows, activatedKey row = activatedKey other →
      armEntity row = armEntity other := by
    intro row hrow other hother hkey
    obtain ⟨first, hfirst, hfirstSame⟩ := active_of_mem_rows hrows hrow
    obtain ⟨second, hsecond, hsecondSame⟩ := active_of_mem_rows hrows hother
    rw [← hfirstSame, ← hsecondSame]
    refine hkeys first second hfirst hsecond ?_
    rw [activatedKey_congr hfirstSame, hkey, activatedKey_congr hsecondSame]
  have hmem := (LatestRows.mem_map_latest hsame (armEntity exposure)).mpr
    ((mem_activatedRows hrows _).mpr ⟨exposure, hactive.1, hactive.2.1, hactive.2.2, rfl⟩)
  obtain ⟨kept, hkept, hentity⟩ := List.mem_map.mp hmem
  refine ⟨kept, List.mem_filter.mpr ⟨hkept, ?_⟩, hentity⟩
  rw [decide_eq_true_iff, show kept.variant = exposure.variant from congrArg Prod.fst hentity]
  exact hdeclared.2 exposure hactive.1 hactive.2.1

/-- The Exposure rows of an active Entity are there. -/
theorem exposuresOf_ne_nil (hactive : Active dateParse input exposure)
    (hsame : armEntity exposure = armEntity row) :
    exposuresOf input.runId input.exposures row.targetingKeyHash ≠ [] :=
  List.ne_nil_of_mem (mem_exposuresOf.mpr ⟨hactive.1, hactive.2.1.1, congrArg Prod.snd hsame⟩)

theorem activatedPathEntity_eq_ok
    (hne : exposuresOf input.runId input.exposures row.targetingKeyHash ≠ [])
    {entity : SrmPathEntity} :
    activatedPathEntity dateParse input row = .ok entity ↔
      earliestValidActivationIngestTs dateParse
        (exposuresOf input.runId input.exposures row.targetingKeyHash)
        (activationsOf input.runId input.activationRows row.targetingKeyHash) =
          .ok entity.arrivalTs ∧ pathEntity entity = armEntity row := by
  unfold activatedPathEntity
  dsimp only
  rw [if_neg hne, Checks.bind_eq_ok]
  constructor
  · rintro ⟨arrivalTs, harrival, hpure⟩
    rw [← Checks.pure_eq_ok.mp hpure]
    exact ⟨harrival, rfl⟩
  · rintro ⟨harrival, hentity⟩
    refine ⟨_, harrival, ?_⟩
    cases entity
    cases hentity
    rfl

/-- An active Entity that can be read is eligible at some instant. -/
theorem instants_nonempty (hactive : Active dateParse input exposure)
    (hread : ∀ pair ∈ pairsOf input exposure.targetingKeyHash, Readable dateParse pair.1 pair.2) :
    (Instants dateParse (pairsOf input exposure.targetingKeyHash)).Nonempty := by
  obtain ⟨hmem, harm, activation, hactivation, hafter⟩ := hactive
  have hpair : (exposure, activation) ∈ pairsOf input exposure.targetingKeyHash :=
    mem_pairsOf.mpr ⟨⟨hmem, harm.1, rfl⟩, mem_activationsOf.mp hactivation⟩
  obtain ⟨ms, hms⟩ := qualifies_of_after (hread _ hpair) (mem_pairsOf.mp hpair).2.2.2.1 hafter
  exact ⟨ms, _, hpair, hms⟩

end

theorem pathEntity_activated {row : DedupeExposureRow} {entity : SrmPathEntity}
    (h : activatedPathEntity dateParse input row = .ok entity) : pathEntity entity = armEntity row := by
  unfold activatedPathEntity at h
  obtain ⟨arrivalTs, -, hpure⟩ := Checks.bind_eq_ok.mp h
  rw [← Checks.pure_eq_ok.mp hpure]
  rfl

theorem activated_nodup {entities : List SrmPathEntity}
    (h : activatedEntities dateParse input = .ok entities) : (entities.map pathEntity).Nodup := by
  obtain ⟨variants, hdeclared, rows, hrows, hmap⟩ := activatedEntities_eq_ok.mp h
  rw [Checks.map_of_mapM_eq_ok hmap fun _ _ hentity => pathEntity_activated hentity]
  exact nodup_keptActive

/-- What the kept rows show, where no two Entities share a key. -/
theorem activated_shows (hkeys : DistinctKeys dateParse input) {entities : List SrmPathEntity}
    (h : activatedEntities dateParse input = .ok entities) :
    Parsed dateParse entities ∧
      { a | ∃ entity ∈ entities, arrival dateParse entity = a } = activatedArrivals dateParse input := by
  obtain ⟨variants, hdeclared, rows, hrows, hmap⟩ := activatedEntities_eq_ok.mp h
  have hentity : ∀ kept ∈ keptActive rows variants, ∀ entity,
      activatedPathEntity dateParse input kept = .ok entity →
        pathEntity entity = armEntity kept ∧ ∃ ms, dateParse entity.arrivalTs = some ms ∧
          IsLeast (Instants dateParse (pairsOf input kept.targetingKeyHash)) ms := by
    intro kept hkept entity hok
    obtain ⟨exposure, hactive, hsame⟩ := active_of_mem_kept hrows hkept
    obtain ⟨harrival, hpair⟩ := (activatedPathEntity_eq_ok (exposuresOf_ne_nil hactive hsame)).mp hok
    exact ⟨hpair, earliest_ok harrival⟩
  constructor
  · intro entity hmem
    obtain ⟨kept, hkept, hok⟩ := (Checks.mem_of_mapM_eq_ok hmap entity).mp hmem
    obtain ⟨-, ms, hms, -⟩ := hentity kept hkept entity hok
    exact ⟨ms, hms⟩
  ext a
  constructor
  · rintro ⟨entity, hmem, rfl⟩
    obtain ⟨kept, hkept, hok⟩ := (Checks.mem_of_mapM_eq_ok hmap entity).mp hmem
    obtain ⟨hpair, ms, hms, hleast⟩ := hentity kept hkept entity hok
    obtain ⟨exposure, hactive, hsame⟩ := active_of_mem_kept hrows hkept
    refine ⟨⟨exposure, hactive, hsame.trans hpair.symm⟩, ?_⟩
    rw [arrival_ms hms, show (arrival dateParse entity).targetingKeyHash = kept.targetingKeyHash from
      congrArg Prod.snd hpair]
    exact hleast
  · rintro ⟨⟨exposure, hactive, hpair⟩, hleast⟩
    obtain ⟨kept, hkept, hsame⟩ := exists_keptActive hkeys hdeclared hrows hactive
    obtain ⟨entity, hok⟩ := (Checks.exists_mapM_eq_ok.mp ⟨entities, hmap⟩) kept hkept
    refine ⟨entity, (Checks.mem_of_mapM_eq_ok hmap entity).mpr ⟨kept, hkept, hok⟩, ?_⟩
    obtain ⟨hentityPair, ms, hms, hleast'⟩ := hentity kept hkept entity hok
    have hkeptPair := hsame.trans hpair
    rw [show kept.targetingKeyHash = a.targetingKeyHash from congrArg Prod.snd hkeptPair] at hleast'
    have heq := hleast'.unique hleast
    have hshown := hentityPair.trans hkeptPair
    cases a
    cases hshown
    exact congrArg (Arrival.mk _ _) ((arrival_ms hms).trans heq)

/-- **The activated path** is that of the instants at which the Entities become eligible. -/
theorem activated_isPath (hkeys : DistinctKeys dateParse input) {path : List SrmPathEntity}
    (h : activatedPath dateParse input = .ok path) :
    IsPath (activatedArrivals dateParse input) (path.map (arrival dateParse)) := by
  obtain ⟨entities, hentities, hsort⟩ := Checks.bind_eq_ok.mp h
  rw [← (activated_shows hkeys hentities).2]
  exact isPath_of_sort (activated_nodup hentities) hsort

/-- When the activated path is built. -/
theorem exists_activatedPath_iff (hkeys : DistinctKeys dateParse input) :
    (∃ path, activatedPath dateParse input = .ok path) ↔ (∃ variants, Declared input variants) ∧
      (∀ exposure ∈ input.exposures,
        LegibleRow dateParse input.runId input.activationRows exposure) ∧
      (∀ exposure, Active dateParse input exposure →
        ∀ pair ∈ pairsOf input exposure.targetingKeyHash, Readable dateParse pair.1 pair.2) ∧
      Consistent (activatedArrivals dateParse input) := by
  constructor
  · rintro ⟨path, h⟩
    obtain ⟨entities, hentities, hsort⟩ := Checks.bind_eq_ok.mp h
    obtain ⟨-, hconsistent, -⟩ := sort_eq_ok.mp hsort
    rw [(activated_shows hkeys hentities).2] at hconsistent
    obtain ⟨variants, hdeclared, rows, hrows, hmap⟩ := activatedEntities_eq_ok.mp hentities
    refine ⟨⟨variants, hdeclared⟩, exists_activatedRows_iff.mp ⟨rows, hrows⟩, ?_, hconsistent⟩
    intro exposure hactive pair hpair
    obtain ⟨kept, hkept, hsame⟩ := exists_keptActive hkeys hdeclared hrows hactive
    obtain ⟨entity, hok⟩ := (Checks.exists_mapM_eq_ok.mp ⟨entities, hmap⟩) kept hkept
    have hhash : kept.targetingKeyHash = exposure.targetingKeyHash := congrArg Prod.snd hsame
    have hearliest :=
      ((activatedPathEntity_eq_ok (exposuresOf_ne_nil hactive hsame.symm)).mp hok).1
    rw [hhash] at hearliest
    obtain ⟨hexposure, hactivation⟩ := List.mem_product.mp hpair
    exact (exists_earliest_iff.mp ⟨_, hearliest⟩).1 _ hexposure _ hactivation
  · rintro ⟨⟨variants, hdeclared⟩, hlegible, hread, hconsistent⟩
    obtain ⟨rows, hrows⟩ := exists_activatedRows_iff.mpr hlegible
    have hall : ∀ kept ∈ keptActive rows variants,
        ∃ entity, activatedPathEntity dateParse input kept = .ok entity := by
      intro kept hkept
      obtain ⟨exposure, hactive, hsame⟩ := active_of_mem_kept hrows hkept
      have hhash : exposure.targetingKeyHash = kept.targetingKeyHash := congrArg Prod.snd hsame
      have hpairs := hread exposure hactive
      have hnonempty := instants_nonempty hactive hpairs
      rw [hhash] at hpairs hnonempty
      obtain ⟨text, htext⟩ := exists_earliest_iff.mpr ⟨fun first hfirst second hsecond =>
        hpairs (first, second) (List.mem_product.mpr ⟨hfirst, hsecond⟩), hnonempty⟩
      exact ⟨⟨_, _, text⟩, (activatedPathEntity_eq_ok (exposuresOf_ne_nil hactive hsame)).mpr
        ⟨htext, rfl⟩⟩
    obtain ⟨entities, hmap⟩ := Checks.exists_mapM_eq_ok.mpr hall
    have hentities := activatedEntities_eq_ok.mpr ⟨variants, hdeclared, rows, hrows, hmap⟩
    obtain ⟨hparsed, hshown⟩ := activated_shows hkeys hentities
    rw [← hshown] at hconsistent
    exact ⟨_, Checks.bind_eq_ok.mpr ⟨entities, hentities,
      sort_eq_ok.mpr ⟨hparsed, hconsistent, rfl⟩⟩⟩

end Srm

end Splitch
