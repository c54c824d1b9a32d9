/-
# The SRM alarm sticks

A check and a later one side by side: the later one reads the same rows and further ones, all of them
ingested later, in any order.  A path is built anew at every check, from all rows.  If the new path continues
the old one, then the wealth of the sequential test continues, and a crossing that was reported stays
reported.  The question is when it does.

**It is enough** that every Entity of an arm has one clock, and that no two activated Entities share a key.
An Entity of the Exposure check then arrives at its clock however many rows it has, and a further one arrives
behind all the others (`exposure_later`).  An Entity of the activated check is eligible at the least instant
of its pairs, and a pair with a further row does not qualify before that row's clock, so the instant of an
Entity that is eligible does not change (`isLeast_extend`, `activated_later`).  The old path is then a prefix
of the new one (`appendOnly_of_stable`).

**It is needed** as well, if the checks are not to depend on the order of the rows either.  The Exposure
check keeps the row that is READ LAST for each Entity, so two clocks of one Entity give two paths by the
order alone (`oneClock_of_orderFree`); and so for two Entities under one key (`distinctKeys_of_orderFree`).
Together this is the equivalence `srm_append_only_iff`.

In practice an Entity does have further Exposure rows, and then it moves behind the Entities that came after
it (`srm_further_exposure`).
-/
import Mathlib.Analysis.SpecialFunctions.Log.Basic
import Splitch.Stats.SequentialSrm

namespace Splitch

namespace Srm

/-! ## 1. Checks side by side -/

/-- The Entities that one of the two checks is about. -/
abbrev Population := SrmCheckerInput → Except String (List SrmPathEntity)

section

variable (dateParse : String → Option Int) (population : Population)

def pathOf (input : SrmCheckerInput) : Except String (List SrmPathEntity) :=
  population input >>= sortEntitiesByArrival dateParse

def testOf (N : Type) [Arithmetic N] (input : SrmCheckerInput) : Except String (SrmTestResult N) :=
  population input >>= fun entities =>
    sequentialSrmAlongEntityPath dateParse entities input.allocation

def wealthOf (N : Type) [Arithmetic N] (input : SrmCheckerInput) :
    Except String (SequentialSrmWealthState N) :=
  pathOf dateParse population input >>= fun path => wealthAlongPath path input.allocation

/-- What a path shows; none where none is built. -/
def shown (path : Except String (List SrmPathEntity)) : Option (List Arrival) :=
  path.toOption.map fun path => path.map (arrival dateParse)

/-- When an Entity became eligible; none where that cannot be told. -/
def eligibleAt (input : SrmCheckerInput) (targetingKeyHash : String) : Option Int :=
  (earliestValidActivationIngestTs dateParse
    (exposuresOf input.runId input.exposures targetingKeyHash)
    (activationsOf input.runId input.activationRows targetingKeyHash)).toOption.bind dateParse

end

/-- The check with further rows. -/
def SrmCheckerInput.extend (input : SrmCheckerInput) (exposures : List DedupeExposureRow)
    (activationRows : List ActivationRow) : SrmCheckerInput :=
  { input with
    exposures := input.exposures ++ exposures
    activationRows := input.activationRows ++ activationRows }

/-- The same rows in another order. -/
structure SameRows (input input' : SrmCheckerInput) : Prop where
  runId : input'.runId = input.runId
  allocation : input'.allocation = input.allocation
  exposures : input'.exposures.Perm input.exposures
  activationRows : input'.activationRows.Perm input.activationRows

/-- The later check continues the path of the one before, its p-value is no higher, and a crossing stays,
at the same place. -/
structure Continues (dateParse : String → Option Int) (population : Population) (N : Type)
    [Arithmetic N] (input input' : SrmCheckerInput) : Prop where
  path : ∀ path', pathOf dateParse population input' = .ok path' →
    ∃ path, pathOf dateParse population input = .ok path ∧
      path.map (arrival dateParse) <+: path'.map (arrival dateParse)
  pValue : ∀ result' : SrmTestResult N, testOf dateParse population N input' = .ok result' →
    ∃ result : SrmTestResult N, testOf dateParse population N input = .ok result ∧
      result'.pValue ≤ result.pValue ∧
      (result.sequentialThresholdCrossed = true → result'.sequentialThresholdCrossed = true)
  crossing : ∀ state' : SequentialSrmWealthState N,
    wealthOf dateParse population N input' = .ok state' →
    ∃ state : SequentialSrmWealthState N, wealthOf dateParse population N input = .ok state ∧
      ∀ n, state.firstCrossN = some n → state'.firstCrossN = some n

/-- A check does not depend on the order of its rows. -/
structure OrderFree (dateParse : String → Option Int) (population : Population) (N : Type)
    [Arithmetic N] (input : SrmCheckerInput) : Prop where
  path : ∀ input', SameRows input input' →
    shown dateParse (pathOf dateParse population input') =
      shown dateParse (pathOf dateParse population input)
  result : ∀ input', SameRows input input' →
    (testOf dateParse population N input').toOption = (testOf dateParse population N input).toOption
  wealth : ∀ input', SameRows input input' →
    (wealthOf dateParse population N input').toOption =
      (wealthOf dateParse population N input).toOption

/-- **The checks are append-only.** -/
structure AppendOnly (dateParse : String → Option Int) (N : Type) [Arithmetic N]
    (input : SrmCheckerInput) (exposures : List DedupeExposureRow)
    (activationRows : List ActivationRow) : Prop where
  exposure : Continues dateParse exposureEntities N input (input.extend exposures activationRows)
  activated : Continues dateParse (activatedEntities dateParse) N input
    (input.extend exposures activationRows)
  eligible : ∀ targetingKeyHash ms ms', eligibleAt dateParse input targetingKeyHash = some ms →
    eligibleAt dateParse (input.extend exposures activationRows) targetingKeyHash = some ms' → ms' = ms
  exposureOrder : ∀ check ∈ [input, input.extend exposures activationRows],
    OrderFree dateParse exposureEntities N check
  activatedOrder : ∀ check ∈ [input, input.extend exposures activationRows],
    OrderFree dateParse (activatedEntities dateParse) N check
  eligibleOrder : ∀ check ∈ [input, input.extend exposures activationRows], ∀ check',
    SameRows check check' → ∀ targetingKeyHash,
      eligibleAt dateParse check' targetingKeyHash = eligibleAt dateParse check targetingKeyHash

/-! ## 2. Further rows -/

/-- The clocks of rows of the Run. -/
def IsClock (dateParse : String → Option Int) (runId : String) (exposures : List DedupeExposureRow)
    (activationRows : List ActivationRow) (ms : Int) : Prop :=
  (∃ exposure ∈ exposures, exposure.runId = runId ∧
    clockMs dateParse exposure.firstIngestTs = some ms) ∨
  ∃ row ∈ activationRows, row.runId = runId ∧ clockMs dateParse row.activationIngestTs = some ms

/-- The further rows were ingested later, all of them. -/
def IngestedLater (dateParse : String → Option Int) (input : SrmCheckerInput)
    (exposures : List DedupeExposureRow) (activationRows : List ActivationRow) : Prop :=
  ∀ old new, IsClock dateParse input.runId input.exposures input.activationRows old →
    IsClock dateParse input.runId exposures activationRows new → old < new

/-- An Entity that has rows keeps its Variant: none of its arm rows has another one. -/
def KeepsVariants (input : SrmCheckerInput) (exposures : List DedupeExposureRow) : Prop :=
  ∀ exposure ∈ input.exposures, exposure.runId = input.runId →
    ∀ other ∈ input.exposures ++ exposures, InArm input.runId other →
      other.targetingKeyHash = exposure.targetingKeyHash → other.variant = exposure.variant

variable {dateParse : String → Option Int} {N : Type} [Arithmetic N] {input input' : SrmCheckerInput}
  {exposures : List DedupeExposureRow} {activationRows : List ActivationRow}

/-- The rows of one check are among those of another. -/
structure Includes (input input' : SrmCheckerInput) : Prop where
  runId : input'.runId = input.runId
  allocation : input'.allocation = input.allocation
  exposures : input.exposures ⊆ input'.exposures
  activationRows : input.activationRows ⊆ input'.activationRows

theorem includes_extend : Includes input (input.extend exposures activationRows) :=
  ⟨rfl, rfl, List.subset_append_left _ _, List.subset_append_left _ _⟩

theorem SameRows.includes (h : SameRows input input') : Includes input input' :=
  ⟨h.runId, h.allocation, h.exposures.symm.subset, h.activationRows.symm.subset⟩

theorem SameRows.symm (h : SameRows input input') : SameRows input' input :=
  ⟨h.runId.symm, h.allocation.symm, h.exposures.symm, h.activationRows.symm⟩

namespace Includes

variable (h : Includes input input')
include h

theorem inArm {exposure : DedupeExposureRow} :
    InArm input'.runId exposure ↔ InArm input.runId exposure := by rw [h.runId]

theorem declared {variants : List String} (hdeclared : Declared input' variants) :
    Declared input variants :=
  ⟨h.allocation ▸ hdeclared.1, fun exposure hmem harm =>
    hdeclared.2 exposure (h.exposures hmem) (h.inArm.mpr harm)⟩

theorem oneClock (hclock : OneClock dateParse input') : OneClock dateParse input :=
  fun exposure hmem other hother harm harm' =>
    hclock exposure (h.exposures hmem) other (h.exposures hother) (h.inArm.mpr harm)
      (h.inArm.mpr harm')

theorem exposureArrivals : exposureArrivals dateParse input ⊆ exposureArrivals dateParse input' :=
  fun _ ⟨exposure, hmem, harm, hrest⟩ =>
    ⟨exposure, h.exposures hmem, h.inArm.mpr harm, hrest⟩

theorem activationsOf {targetingKeyHash : String} :
    activationsOf input.runId input.activationRows targetingKeyHash ⊆
      activationsOf input'.runId input'.activationRows targetingKeyHash := by
  intro row hrow
  rw [mem_activationsOf] at hrow ⊢
  rw [h.runId]
  exact ⟨h.activationRows hrow.1, hrow.2⟩

theorem active {exposure : DedupeExposureRow} (hactive : Active dateParse input exposure) :
    Active dateParse input' exposure := by
  obtain ⟨hmem, harm, row, hrow, hafter⟩ := hactive
  exact ⟨h.exposures hmem, h.inArm.mpr harm, row, h.activationsOf hrow, hafter⟩

theorem distinctKeys (hkeys : DistinctKeys dateParse input') : DistinctKeys dateParse input :=
  fun exposure other hactive hother => hkeys exposure other (h.active hactive) (h.active hother)

theorem pairsOf {targetingKeyHash : String} :
    pairsOf input targetingKeyHash ⊆ pairsOf input' targetingKeyHash := by
  intro pair hpair
  rw [mem_pairsOf] at hpair ⊢
  rw [h.runId]
  exact ⟨⟨h.exposures hpair.1.1, hpair.1.2⟩, h.activationRows hpair.2.1, hpair.2.2⟩

theorem instants {targetingKeyHash : String} :
    Instants dateParse (Srm.pairsOf input targetingKeyHash) ⊆
      Instants dateParse (Srm.pairsOf input' targetingKeyHash) :=
  fun _ ⟨pair, hpair, hqualifies⟩ => ⟨pair, h.pairsOf hpair, hqualifies⟩

/-- The Exposure path of fewer rows is built. -/
theorem exposure_built (hclock : OneClock dateParse input')
    (hbuilt : ∃ path, exposurePath dateParse input' = .ok path) :
    ∃ path, exposurePath dateParse input = .ok path := by
  obtain ⟨⟨variants, hdeclared⟩, hclocks, hconsistent⟩ := (exists_exposurePath_iff hclock).mp hbuilt
  exact (exists_exposurePath_iff (h.oneClock hclock)).mpr ⟨⟨variants, h.declared hdeclared⟩,
    fun exposure hmem harm => hclocks exposure (h.exposures hmem) (h.inArm.mpr harm),
    hconsistent.mono h.exposureArrivals⟩

/-- So is the activated path, where its arrivals stay. -/
theorem activated_built (hkeys : DistinctKeys dateParse input')
    (hsub : activatedArrivals dateParse input ⊆ activatedArrivals dateParse input')
    (hbuilt : ∃ path, activatedPath dateParse input' = .ok path) :
    ∃ path, activatedPath dateParse input = .ok path := by
  obtain ⟨⟨variants, hdeclared⟩, hlegible, hread, hconsistent⟩ :=
    (exists_activatedPath_iff hkeys).mp hbuilt
  refine (exists_activatedPath_iff (h.distinctKeys hkeys)).mpr ⟨⟨variants, h.declared hdeclared⟩,
    fun exposure hmem harm row hrow => ?_, fun exposure hactive pair hpair => ?_,
    hconsistent.mono hsub⟩
  · exact hlegible exposure (h.exposures hmem) (h.inArm.mpr harm) row (h.activationsOf hrow)
  · exact hread exposure (h.active hactive) pair (h.pairsOf hpair)

end Includes

/-! ## 3. Later rows -/

/-- A pair qualifies at the clock of one of its rows. -/
theorem isClock_of_instant {targetingKeyHash : String} {ms : Int}
    (h : ms ∈ Instants dateParse (pairsOf input targetingKeyHash)) :
    IsClock dateParse input.runId input.exposures input.activationRows ms := by
  obtain ⟨⟨exposure, row⟩, hpair, -, -, exposed, activated, hexposed, hactivated, rfl⟩ := h
  obtain ⟨⟨hexposure, hrun, -⟩, hrow, hrowRun, -⟩ := mem_pairsOf.mp hpair
  rcases max_choice exposed activated with hmax | hmax
  · exact .inl ⟨exposure, hexposure, hrun, hexposed.trans (congrArg some hmax.symm)⟩
  · exact .inr ⟨row, hrow, hrowRun, hactivated.trans (congrArg some hmax.symm)⟩

/-- A pair that qualifies among all rows does so among the old ones, or not before a new clock. -/
theorem instant_old_or_new {targetingKeyHash : String} {ms : Int}
    (h : ms ∈ Instants dateParse (pairsOf (input.extend exposures activationRows) targetingKeyHash)) :
    ms ∈ Instants dateParse (pairsOf input targetingKeyHash) ∨
      ∃ new, IsClock dateParse input.runId exposures activationRows new ∧ new ≤ ms := by
  obtain ⟨⟨exposure, row⟩, hpair, hqualifies⟩ := h
  obtain ⟨⟨hexposure, hrun, hhash⟩, hrow, hrowRest⟩ := mem_pairsOf.mp hpair
  obtain ⟨-, -, exposed, activated, hexposed, hactivated, rfl⟩ := id hqualifies
  rcases List.mem_append.mp hexposure with hold | hnew
  · rcases List.mem_append.mp hrow with hrowOld | hrowNew
    · exact .inl ⟨(exposure, row), mem_pairsOf.mpr ⟨⟨hold, hrun, hhash⟩, hrowOld, hrowRest⟩, hqualifies⟩
    · exact .inr ⟨activated, .inr ⟨row, hrowNew, hrowRest.1, hactivated⟩, le_max_right _ _⟩
  · exact .inr ⟨exposed, .inl ⟨exposure, hnew, hrun, hexposed⟩, le_max_left _ _⟩

section

variable (hlater : IngestedLater dateParse input exposures activationRows)
include hlater

/-- **The instant of an Entity that is eligible** does not change. -/
theorem isLeast_extend {targetingKeyHash : String} {ms : Int}
    (h : IsLeast (Instants dateParse (pairsOf input targetingKeyHash)) ms) :
    IsLeast (Instants dateParse (pairsOf (input.extend exposures activationRows) targetingKeyHash))
      ms := by
  refine ⟨includes_extend.instants h.1, fun other hother => ?_⟩
  rcases instant_old_or_new hother with hold | ⟨new, hnew, hle⟩
  · exact h.2 hold
  · exact (hlater ms new (isClock_of_instant h.1) hnew).le.trans hle

theorem activatedArrivals_extend :
    activatedArrivals dateParse input ⊆
      activatedArrivals dateParse (input.extend exposures activationRows) := by
  rintro a ⟨⟨exposure, hactive, hentity⟩, hleast⟩
  exact ⟨⟨exposure, includes_extend.active hactive, hentity⟩, isLeast_extend hlater hleast⟩

/-- A further arrival of the Exposure check is later than every old one. -/
theorem exposure_later {a b : Arrival} (ha : a ∈ exposureArrivals dateParse input)
    (hb : b ∈ exposureArrivals dateParse (input.extend exposures activationRows))
    (hnot : b ∉ exposureArrivals dateParse input) : a.ms < b.ms := by
  obtain ⟨first, hfirst, hfirstArm, -, hfirstClock⟩ := ha
  obtain ⟨second, hsecond, hsecondArm, hentity, hsecondClock⟩ := hb
  refine hlater _ _ (.inl ⟨first, hfirst, hfirstArm.1, hfirstClock⟩)
    (.inl ⟨second, ?_, hsecondArm.1, hsecondClock⟩)
  refine (List.mem_append.mp hsecond).resolve_left fun hold => hnot ?_
  exact ⟨second, hold, hsecondArm, hentity, hsecondClock⟩

/-- So is a further arrival of the activated check, where the Entities keep their Variants. -/
theorem activated_later (hvariants : KeepsVariants input exposures) {a b : Arrival}
    (ha : a ∈ activatedArrivals dateParse input)
    (hb : b ∈ activatedArrivals dateParse (input.extend exposures activationRows))
    (hnot : b ∉ activatedArrivals dateParse input) : a.ms < b.ms := by
  obtain ⟨⟨exposure, hactive, hentity⟩, hleast⟩ := hb
  rcases instant_old_or_new hleast.1 with hold | ⟨new, hnew, hle⟩
  · -- an old pair qualified: its Exposure is of the arm, as the Entity keeps its Variant
    obtain ⟨⟨earlier, row⟩, hpair, hqualifies⟩ := hold
    obtain ⟨⟨hearlier, hrun, hhash⟩, hrow⟩ := mem_pairsOf.mp hpair
    obtain ⟨hmem, harm, -⟩ := hactive
    have hsame : exposure.variant = earlier.variant :=
      hvariants earlier hearlier hrun exposure hmem harm ((congrArg Prod.snd hentity).trans hhash.symm)
    have hearlierActive : Active dateParse input earlier := by
      refine ⟨hearlier, ⟨hrun, fun heq => harm.2 (hsame.trans heq)⟩, row, ?_, hqualifies.2.1⟩
      rw [mem_activationsOf, hhash]
      exact hrow
    refine absurd ⟨⟨earlier, hearlierActive, ?_⟩, ⟨_, hpair, hqualifies⟩, fun other hother => ?_⟩ hnot
    · exact Prod.ext (hsame.symm.trans (congrArg Prod.fst hentity)) hhash
    · exact hleast.2 (includes_extend.instants hother)
  · exact (hlater a.ms new (isClock_of_instant ha.2.1) hnew).trans_le hle

end

/-! ## 4. Paths that continue -/

theorem variants_continue {path path' : List SrmPathEntity}
    (h : path.map (arrival dateParse) <+: path'.map (arrival dateParse)) :
    path.map (·.variant) <+: path'.map (·.variant) := by
  have hmap := h.map Arrival.variant
  rwa [List.map_map, List.map_map] at hmap

theorem testOf_eq {population : Population} (input : SrmCheckerInput) :
    testOf dateParse population N input =
      pathOf dateParse population input >>= resultAlongPath input.allocation := by
  unfold testOf pathOf
  cases population input with
  | error message => rfl
  | ok entities => exact sequentialSrm_eq entities input.allocation

/-- All of it follows from the paths. -/
theorem continues_of_paths {population : Population} (hallocation : input'.allocation = input.allocation)
    (hpath : ∀ path', pathOf dateParse population input' = .ok path' →
      ∃ path, pathOf dateParse population input = .ok path ∧
        path.map (arrival dateParse) <+: path'.map (arrival dateParse)) :
    Continues dateParse population N input input' := by
  refine ⟨hpath, fun result' hresult => ?_, fun state' hstate => ?_⟩
  · rw [testOf_eq] at hresult ⊢
    obtain ⟨path', hpath', hresult⟩ := Checks.bind_eq_ok.mp hresult
    obtain ⟨path, hpath, hcontinues⟩ := hpath path' hpath'
    rw [hallocation] at hresult
    obtain ⟨result, hok, hrest⟩ := result_continues (variants_continue hcontinues) hresult
    exact ⟨result, Checks.bind_eq_ok.mpr ⟨path, hpath, hok⟩, hrest⟩
  · obtain ⟨path', hpath', hstate⟩ := Checks.bind_eq_ok.mp hstate
    obtain ⟨path, hpath, hcontinues⟩ := hpath path' hpath'
    rw [hallocation] at hstate
    obtain ⟨state, hok, hlater⟩ := wealth_continues (variants_continue hcontinues) hstate
    exact ⟨state, Checks.bind_eq_ok.mpr ⟨path, hpath, hok⟩, hlater.first⟩

/-- Two paths that show the same are followed by the same. -/
theorem toOption_bind_eq {α : Type} {x y : Except String (List SrmPathEntity)}
    {f : List SrmPathEntity → Except String α}
    (hf : ∀ path path' : List SrmPathEntity, path.map (·.variant) = path'.map (·.variant) →
      f path = f path')
    (h : shown dateParse x = shown dateParse y) : (x >>= f).toOption = (y >>= f).toOption := by
  cases x with
  | error message =>
    cases y with
    | error message' => rfl
    | ok path' => cases h
  | ok path =>
    cases y with
    | error message' => cases h
    | ok path' =>
      have hshown : path.map (arrival dateParse) = path'.map (arrival dateParse) := Option.some.inj h
      have hvariants := congrArg (List.map Arrival.variant) hshown
      rw [List.map_map, List.map_map] at hvariants
      exact congrArg Except.toOption (hf path path' hvariants)

theorem wealthAlongPath_congr {path path' : List SrmPathEntity} (allocation : Allocation)
    (h : path.map (·.variant) = path'.map (·.variant)) :
    (wealthAlongPath path allocation : Except String (SequentialSrmWealthState N)) =
      wealthAlongPath path' allocation := by
  unfold wealthAlongPath
  rw [h]

theorem orderFree_of_paths {population : Population}
    (hpath : ∀ input', SameRows input input' → shown dateParse (pathOf dateParse population input') =
      shown dateParse (pathOf dateParse population input)) :
    OrderFree dateParse population N input := by
  refine ⟨hpath, fun input' hsame => ?_, fun input' hsame => ?_⟩
  · rw [testOf_eq, testOf_eq, hsame.allocation]
    exact toOption_bind_eq (fun _ _ => resultAlongPath_congr _) (hpath input' hsame)
  · unfold wealthOf
    rw [hsame.allocation]
    exact toOption_bind_eq (fun _ _ => wealthAlongPath_congr _) (hpath input' hsame)

/-- Paths of one set of arrivals show the same, where both or none are built. -/
theorem shown_eq {arrivals : Set Arrival} {x y : Except String (List SrmPathEntity)}
    (hbuilt : (∃ path, x = .ok path) ↔ ∃ path, y = .ok path)
    (hx : ∀ path, x = .ok path → IsPath arrivals (path.map (arrival dateParse)))
    (hy : ∀ path, y = .ok path → IsPath arrivals (path.map (arrival dateParse))) :
    shown dateParse x = shown dateParse y := by
  cases x with
  | ok path =>
    obtain ⟨path', rfl⟩ := hbuilt.mp ⟨path, rfl⟩
    exact congrArg some ((hx path rfl).eq (hy path' rfl))
  | error message =>
    cases y with
    | ok path' => obtain ⟨path, hpath⟩ := hbuilt.mpr ⟨path', rfl⟩; cases hpath
    | error message' => rfl

/-! ## 5. The order of the rows -/

theorem eligibleAt_eq_some {targetingKeyHash : String} {ms : Int} :
    eligibleAt dateParse input targetingKeyHash = some ms ↔
      (∀ pair ∈ pairsOf input targetingKeyHash, Readable dateParse pair.1 pair.2) ∧
        IsLeast (Instants dateParse (pairsOf input targetingKeyHash)) ms := by
  have hproduct : (∀ pair ∈ pairsOf input targetingKeyHash, Readable dateParse pair.1 pair.2) ↔
      ∀ exposure ∈ exposuresOf input.runId input.exposures targetingKeyHash,
        ∀ row ∈ activationsOf input.runId input.activationRows targetingKeyHash,
          Readable dateParse exposure row :=
    ⟨fun h exposure hexposure row hrow => h (exposure, row) (List.mem_product.mpr ⟨hexposure, hrow⟩),
      fun h pair hpair => h _ (List.mem_product.mp hpair).1 _ (List.mem_product.mp hpair).2⟩
  rw [hproduct]
  unfold eligibleAt
  constructor
  · intro h
    cases hearliest : earliestValidActivationIngestTs dateParse
        (exposuresOf input.runId input.exposures targetingKeyHash)
        (activationsOf input.runId input.activationRows targetingKeyHash) with
    | error message =>
      rw [hearliest] at h
      cases h
    | ok text =>
      rw [hearliest] at h
      obtain ⟨found, hfound, hleast⟩ := earliest_ok hearliest
      cases hfound.symm.trans h
      exact ⟨(exists_earliest_iff.mp ⟨text, hearliest⟩).1, hleast⟩
  · rintro ⟨hread, hleast⟩
    obtain ⟨text, htext⟩ := exists_earliest_iff.mpr ⟨hread, ms, hleast.1⟩
    obtain ⟨found, hfound, hleast'⟩ := earliest_ok htext
    rw [htext, hleast.unique hleast']
    exact hfound

section

variable (h : SameRows input input')
include h

theorem exposureArrivals_perm : exposureArrivals dateParse input' = exposureArrivals dateParse input :=
  Set.Subset.antisymm h.symm.includes.exposureArrivals h.includes.exposureArrivals

theorem pairsOf_perm {targetingKeyHash : String} (pair : DedupeExposureRow × ActivationRow) :
    pair ∈ pairsOf input' targetingKeyHash ↔ pair ∈ pairsOf input targetingKeyHash :=
  ⟨fun hpair => h.symm.includes.pairsOf hpair, fun hpair => h.includes.pairsOf hpair⟩

theorem instants_perm {targetingKeyHash : String} :
    Instants dateParse (pairsOf input' targetingKeyHash) =
      Instants dateParse (pairsOf input targetingKeyHash) :=
  Set.Subset.antisymm h.symm.includes.instants h.includes.instants

theorem activatedArrivals_perm :
    activatedArrivals dateParse input' = activatedArrivals dateParse input := by
  ext a
  unfold activatedArrivals
  rw [Set.mem_ofPred_eq, Set.mem_ofPred_eq, instants_perm h]
  exact and_congr_left fun _ => exists_congr fun exposure => and_congr_left fun _ =>
    ⟨h.symm.includes.active, h.includes.active⟩

theorem eligibleAt_perm (targetingKeyHash : String) :
    eligibleAt dateParse input' targetingKeyHash = eligibleAt dateParse input targetingKeyHash := by
  ext ms
  rw [eligibleAt_eq_some, eligibleAt_eq_some, instants_perm h]
  simp only [pairsOf_perm h]

end

theorem exposure_orderFree (hclock : OneClock dateParse input) :
    OrderFree dateParse exposureEntities N input := by
  refine orderFree_of_paths fun input' h => ?_
  have hclock' : OneClock dateParse input' := h.symm.includes.oneClock hclock
  refine shown_eq ⟨fun hbuilt => h.includes.exposure_built hclock' hbuilt,
    fun hbuilt => h.symm.includes.exposure_built hclock hbuilt⟩ (fun path hpath => ?_)
    fun path hpath => exposure_isPath hclock hpath
  rw [← exposureArrivals_perm h]
  exact exposure_isPath hclock' hpath

theorem activated_orderFree (hkeys : DistinctKeys dateParse input) :
    OrderFree dateParse (activatedEntities dateParse) N input := by
  refine orderFree_of_paths fun input' h => ?_
  have hkeys' : DistinctKeys dateParse input' := h.symm.includes.distinctKeys hkeys
  have harrivals : activatedArrivals dateParse input' = activatedArrivals dateParse input :=
    activatedArrivals_perm h
  refine shown_eq ⟨fun hbuilt => h.includes.activated_built hkeys' harrivals.ge hbuilt,
    fun hbuilt => h.symm.includes.activated_built hkeys harrivals.le hbuilt⟩ (fun path hpath => ?_)
    fun path hpath => activated_isPath hkeys hpath
  rw [← harrivals]
  exact activated_isPath hkeys' hpath

/-- Where every Entity of an arm has one clock and no two activated ones share a key, the checks are
append-only. -/
theorem appendOnly_of_stable (hlater : IngestedLater dateParse input exposures activationRows)
    (hvariants : KeepsVariants input exposures)
    (hclock : OneClock dateParse (input.extend exposures activationRows))
    (hkeys : DistinctKeys dateParse (input.extend exposures activationRows)) :
    AppendOnly dateParse N input exposures activationRows := by
  have hclockOld : OneClock dateParse input := includes_extend.oneClock hclock
  have hkeysOld : DistinctKeys dateParse input := includes_extend.distinctKeys hkeys
  constructor
  case exposure =>
    refine continues_of_paths rfl fun path' hpath' => ?_
    obtain ⟨path, hpath⟩ := includes_extend.exposure_built hclock ⟨path', hpath'⟩
    exact ⟨path, hpath, (exposure_isPath hclockOld hpath).continues (exposure_isPath hclock hpath')
      includes_extend.exposureArrivals fun b hb hnot a ha => exposure_later hlater ha hb hnot⟩
  case activated =>
    refine continues_of_paths rfl fun path' hpath' => ?_
    obtain ⟨path, hpath⟩ :=
      includes_extend.activated_built hkeys (activatedArrivals_extend hlater) ⟨path', hpath'⟩
    exact ⟨path, hpath, (activated_isPath hkeysOld hpath).continues (activated_isPath hkeys hpath')
      (activatedArrivals_extend hlater) fun b hb hnot a ha =>
        activated_later hlater hvariants ha hb hnot⟩
  case eligible =>
    intro targetingKeyHash ms ms' hms hms'
    exact (eligibleAt_eq_some.mp hms').2.unique
      (isLeast_extend hlater (eligibleAt_eq_some.mp hms).2)
  case exposureOrder =>
    simp only [List.forall_mem_cons, List.not_mem_nil, false_imp_iff, implies_true, and_true]
    exact ⟨exposure_orderFree hclockOld, exposure_orderFree hclock⟩
  case activatedOrder =>
    simp only [List.forall_mem_cons, List.not_mem_nil, false_imp_iff, implies_true, and_true]
    exact ⟨activated_orderFree hkeysOld, activated_orderFree hkeys⟩
  case eligibleOrder => exact fun check _ check' h => eligibleAt_perm h

/-! ## 6. The row that is read last -/

/-- The same rows, one of them last. -/
def readLast (input : SrmCheckerInput) (exposure : DedupeExposureRow) : SrmCheckerInput :=
  { input with exposures := input.exposures.erase exposure ++ [exposure] }

theorem sameRows_readLast {exposure : DedupeExposureRow} (h : exposure ∈ input.exposures) :
    SameRows input (readLast input exposure) :=
  ⟨rfl, rfl, (List.perm_append_singleton _ _).trans (List.perm_cons_erase h).symm, .refl _⟩

/-- A check of the same rows builds the same path. -/
theorem OrderFree.path_built {population : Population} (h : OrderFree dateParse population N input)
    (hsame : SameRows input input') {path : List SrmPathEntity}
    (hpath : pathOf dateParse population input = .ok path) :
    ∃ path', pathOf dateParse population input' = .ok path' ∧
      path'.map (arrival dateParse) = path.map (arrival dateParse) := by
  have hshown := h.path input' hsame
  rw [hpath] at hshown
  cases hpath' : pathOf dateParse population input' with
  | error message =>
    rw [hpath'] at hshown
    cases hshown
  | ok path' =>
    rw [hpath'] at hshown
    exact ⟨path', rfl, Option.some.inj hshown⟩

/-- What is on a path is an Entity of the check. -/
theorem mem_path_iff {population : Population} {entities path : List SrmPathEntity}
    (hentities : population input = .ok entities) (hpath : pathOf dateParse population input = .ok path)
    {a : Arrival} :
    a ∈ path.map (arrival dateParse) ↔ ∃ entity ∈ entities, arrival dateParse entity = a := by
  unfold pathOf at hpath
  rw [hentities] at hpath
  obtain ⟨-, -, rfl⟩ := sort_eq_ok.mp hpath
  rw [List.mem_map]
  exact exists_congr fun entity => and_congr_left fun _ => Sorting.sortBy_perm.mem_iff

def Arrival.entity (a : Arrival) : String × String := (a.variant, a.targetingKeyHash)

/-- The Exposure check keeps the row that is read last. -/
theorem exposure_last {rows : List DedupeExposureRow} {exposure : DedupeExposureRow}
    (hrows : input.exposures = rows ++ [exposure]) (harm : InArm input.runId exposure)
    {path : List SrmPathEntity} (hpath : exposurePath dateParse input = .ok path) :
    ∃ a ∈ path.map (arrival dateParse), a.entity = armEntity exposure ∧
      clockMs dateParse exposure.firstIngestTs = some a.ms := by
  obtain ⟨entities, hentities, hsort⟩ := Checks.bind_eq_ok.mp hpath
  obtain ⟨variants, hdeclared, hmap⟩ := exposureEntities_eq_ok.mp hentities
  have hmem : exposure ∈ input.exposures := hrows ▸ List.mem_concat_self
  have hkept : exposure ∈ keptRows input variants := by
    refine List.mem_flatMap.mpr ⟨_, hdeclared.2 exposure hmem harm, ?_⟩
    rw [dedupedExposureRowsForVariant, hrows, List.filter_append, List.filter_cons_of_pos,
      List.filter_nil]
    · exact LatestRows.last_mem_latest _ _
    · exact decide_eq_true ⟨harm.1, rfl, harm.2⟩
  obtain ⟨entity, hok⟩ := (Checks.exists_mapM_eq_ok.mp ⟨entities, hmap⟩) exposure hkept
  have hentity := (Checks.mem_of_mapM_eq_ok hmap entity).mpr ⟨exposure, hkept, hok⟩
  obtain ⟨ms, hms⟩ := (sort_eq_ok.mp hsort).1 entity hentity
  refine ⟨arrival dateParse entity, (mem_path_iff hentities hpath).mpr ⟨entity, hentity, rfl⟩,
    (dedupedPathEntity_eq_ok.mp hok).2.2, ?_⟩
  rw [clockMs_of_entity hok, hms, arrival_ms hms]

/-- An Entity of an arm arrives once. -/
theorem exposure_once {path : List SrmPathEntity} (hpath : exposurePath dateParse input = .ok path)
    {a b : Arrival} (ha : a ∈ path.map (arrival dateParse)) (hb : b ∈ path.map (arrival dateParse))
    (hentity : a.entity = b.entity) : a = b := by
  obtain ⟨entities, hentities, -⟩ := Checks.bind_eq_ok.mp hpath
  obtain ⟨first, hfirst, rfl⟩ := (mem_path_iff hentities hpath).mp ha
  obtain ⟨second, hsecond, rfl⟩ := (mem_path_iff hentities hpath).mp hb
  rw [List.inj_on_of_nodup_map (exposure_nodup hentities) hfirst hsecond hentity]

/-- **The Exposure check depends on the order of the rows** unless they agree on the clock of each
Entity. -/
theorem oneClock_of_orderFree (h : OrderFree dateParse exposureEntities N input)
    {path : List SrmPathEntity} (hpath : exposurePath dateParse input = .ok path) :
    OneClock dateParse input := by
  have hlast : ∀ exposure ∈ input.exposures, InArm input.runId exposure →
      ∃ a ∈ path.map (arrival dateParse), a.entity = armEntity exposure ∧
        clockMs dateParse exposure.firstIngestTs = some a.ms := by
    intro exposure hmem harm
    obtain ⟨path', hpath', hshown⟩ := h.path_built (sameRows_readLast hmem) hpath
    rw [← hshown]
    have hrows : (readLast input exposure).exposures = input.exposures.erase exposure ++ [exposure] :=
      rfl
    exact exposure_last hrows harm hpath'
  intro exposure hmem other hother harm harm' hsame
  obtain ⟨a, ha, haEntity, haClock⟩ := hlast exposure hmem harm
  obtain ⟨b, hb, hbEntity, hbClock⟩ := hlast other hother harm'
  have heq := exposure_once hpath ha hb (haEntity.trans (hsame.trans hbEntity.symm))
  rw [haClock, hbClock, heq]

/-- The activated check keeps the Entity whose row is read last. -/
theorem activated_last {rows : List DedupeExposureRow} {exposure : DedupeExposureRow}
    (hrows : input.exposures = rows ++ [exposure]) (hactive : Active dateParse input exposure)
    {path : List SrmPathEntity} (hpath : activatedPath dateParse input = .ok path) :
    ∃ a ∈ path.map (arrival dateParse), a.entity = armEntity exposure := by
  obtain ⟨entities, hentities, -⟩ := Checks.bind_eq_ok.mp hpath
  obtain ⟨variants, hdeclared, kept, hkept, hmap⟩ := activatedEntities_eq_ok.mp hentities
  obtain ⟨hmem, harm, hactivated⟩ := hactive
  rw [hrows] at hkept
  obtain ⟨before, windowAnchor, rfl⟩ := activatedRows_concat harm hactivated hkept
  have hrow : { exposure with windowAnchor } ∈
      keptActive (before ++ [{ exposure with windowAnchor }]) variants :=
    List.mem_filter.mpr ⟨LatestRows.last_mem_latest _ _,
      decide_eq_true (hdeclared.2 exposure hmem harm)⟩
  obtain ⟨entity, hok⟩ := (Checks.exists_mapM_eq_ok.mp ⟨entities, hmap⟩) _ hrow
  have hentity := (Checks.mem_of_mapM_eq_ok hmap entity).mpr ⟨_, hrow, hok⟩
  have hshown := pathEntity_activated hok
  exact ⟨_, (mem_path_iff hentities hpath).mpr ⟨entity, hentity, rfl⟩, hshown⟩

/-- A key is on the activated path once. -/
theorem activated_once {path : List SrmPathEntity} (hpath : activatedPath dateParse input = .ok path)
    {a b : Arrival} (ha : a ∈ path.map (arrival dateParse)) (hb : b ∈ path.map (arrival dateParse))
    (hkey : a.variant ++ "/" ++ a.targetingKeyHash = b.variant ++ "/" ++ b.targetingKeyHash) :
    a.entity = b.entity := by
  obtain ⟨entities, hentities, -⟩ := Checks.bind_eq_ok.mp hpath
  obtain ⟨variants, -, kept, -, hmap⟩ := activatedEntities_eq_ok.mp hentities
  have hrow : ∀ {a}, a ∈ path.map (arrival dateParse) →
      ∃ row ∈ keptActive kept variants, a.entity = armEntity row := by
    intro a ha
    obtain ⟨entity, hentity, rfl⟩ := (mem_path_iff hentities hpath).mp ha
    obtain ⟨row, hrow, hok⟩ := (Checks.mem_of_mapM_eq_ok hmap entity).mp hentity
    exact ⟨row, hrow, pathEntity_activated hok⟩
  obtain ⟨first, hfirst, hfirstEntity⟩ := hrow ha
  obtain ⟨second, hsecond, hsecondEntity⟩ := hrow hb
  have hkeys : activatedKey first = activatedKey second := by
    have hof : ∀ {a : Arrival} {row : DedupeExposureRow}, a.entity = armEntity row →
        activatedKey row = a.variant ++ "/" ++ a.targetingKeyHash := fun heq =>
      (congrArg (fun pair : String × String => pair.1 ++ "/" ++ pair.2) heq).symm
    rw [hof hfirstEntity, hof hsecondEntity, hkey]
  rw [hfirstEntity, hsecondEntity,
    LatestRows.eq_of_key_eq (List.mem_filter.mp hfirst).1 (List.mem_filter.mp hsecond).1 hkeys]

/-- **The activated check depends on the order of the rows** where two Entities share a key. Either of
the two can be read last, and then it is the one that the path shows; a path that shows one alone
cannot show both. -/
theorem distinctKeys_of_orderFree (h : OrderFree dateParse (activatedEntities dateParse) N input)
    {path : List SrmPathEntity} (hpath : activatedPath dateParse input = .ok path) :
    DistinctKeys dateParse input := by
  have hlast : ∀ exposure, Active dateParse input exposure →
      ∃ a ∈ path.map (arrival dateParse), a.entity = armEntity exposure := by
    intro exposure hactive
    have hsame := sameRows_readLast hactive.1
    obtain ⟨path', hpath', hshown⟩ := h.path_built hsame hpath
    rw [← hshown]
    have hrows : (readLast input exposure).exposures = input.exposures.erase exposure ++ [exposure] :=
      rfl
    exact activated_last hrows (hsame.includes.active hactive) hpath'
  intro exposure other hactive hother hkey
  obtain ⟨a, ha, haEntity⟩ := hlast exposure hactive
  obtain ⟨b, hb, hbEntity⟩ := hlast other hother
  have hof : ∀ {a : Arrival} {row : DedupeExposureRow}, a.entity = armEntity row →
      a.variant ++ "/" ++ a.targetingKeyHash = activatedKey row := fun heq =>
    congrArg (fun pair : String × String => pair.1 ++ "/" ++ pair.2) heq
  rw [← haEntity, ← hbEntity]
  refine activated_once hpath ha hb ?_
  rw [hof haEntity, hof hbEntity, hkey]

/-- **The checks are append-only exactly where** every Entity of an arm has one clock and no two
activated ones share a key. -/
theorem srm_append_only_iff (hlater : IngestedLater dateParse input exposures activationRows)
    (hvariants : KeepsVariants input exposures)
    (hexposure : ∃ path, exposurePath dateParse (input.extend exposures activationRows) = .ok path)
    (hactivated : ∃ path, activatedPath dateParse (input.extend exposures activationRows) = .ok path) :
    AppendOnly dateParse N input exposures activationRows ↔
      OneClock dateParse (input.extend exposures activationRows) ∧
        DistinctKeys dateParse (input.extend exposures activationRows) := by
  obtain ⟨path, hpath⟩ := hexposure
  obtain ⟨activated, hactivatedPath⟩ := hactivated
  constructor
  · intro h
    have hlast : input.extend exposures activationRows ∈
        [input, input.extend exposures activationRows] := List.mem_cons_of_mem _ List.mem_cons_self
    exact ⟨oneClock_of_orderFree (h.exposureOrder _ hlast) hpath,
      distinctKeys_of_orderFree (h.activatedOrder _ hlast) hactivatedPath⟩
  · rintro ⟨hclock, hkeys⟩
    exact appendOnly_of_stable hlater hvariants hclock hkeys

/-! ## 7. A morning -/

noncomputable local instance realArithmetic : Arithmetic ℝ where
  ofRat := Rat.cast
  log := Real.log
  exp := Real.exp

/-- The instants of one morning. -/
def morning : String → Option Int
  | "2026-07-01T07:00:00.000Z" => some 1782889200000
  | "2026-07-01T08:00:00.000Z" => some 1782892800000
  | "2026-07-01T09:00:00.000Z" => some 1782896400000
  | "2026-07-01T10:00:00.000Z" => some 1782900000000
  | _ => none

def exposedAt (targetingKeyHash variant firstExposureTs firstIngestTs : String) : DedupeExposureRow :=
  ⟨targetingKeyHash, "run_1", variant, firstExposureTs, some firstIngestTs, firstExposureTs⟩

/-- An Entity of each arm, ingested one hour after the other, the first of them activated. -/
def twoEntities : SrmCheckerInput where
  runId := "run_1"
  allocation := ⟨[("control", 50), ("treatment", 50)], by decide⟩
  exposures := [
    exposedAt "v1:c1" "control" "2026-07-01T07:00:00.000Z" "2026-07-01T08:00:00.000Z",
    exposedAt "v1:t1" "treatment" "2026-07-01T07:00:00.000Z" "2026-07-01T09:00:00.000Z"]
  activationRows :=
    [⟨"v1:c1", "run_1", "2026-07-01T08:00:00.000Z", some "2026-07-01T08:00:00.000Z", true⟩]

/-- A further Exposure, ingested at ten. -/
def furtherExposures (targetingKeyHash : String) : List DedupeExposureRow :=
  [exposedAt targetingKeyHash "control" "2026-07-01T07:00:00.000Z" "2026-07-01T10:00:00.000Z"]

def furtherActivations (targetingKeyHash : String) : List ActivationRow :=
  [⟨targetingKeyHash, "run_1", "2026-07-01T09:00:00.000Z", some "2026-07-01T10:00:00.000Z", true⟩]

theorem further_later (targetingKeyHash : String) {activationRows : List ActivationRow}
    (h : activationRows ⊆ furtherActivations targetingKeyHash) :
    IngestedLater morning twoEntities (furtherExposures targetingKeyHash) activationRows := by
  have hold : ∀ old, IsClock morning "run_1" twoEntities.exposures twoEntities.activationRows old →
      old ≤ 1782896400000 := by
    rintro old (⟨exposure, hmem, -, hclock⟩ | ⟨row, hmem, -, hclock⟩)
    · rcases List.mem_pair.mp hmem with rfl | rfl
      · exact (Option.some.inj hclock).symm.le.trans (by decide)
      · exact (Option.some.inj hclock).symm.le
    · cases List.mem_singleton.mp hmem
      exact (Option.some.inj hclock).symm.le.trans (by decide)
  have hnew : ∀ new, IsClock morning "run_1" (furtherExposures targetingKeyHash) activationRows new →
      new = 1782900000000 := by
    rintro new (⟨exposure, hmem, -, hclock⟩ | ⟨row, hmem, -, hclock⟩)
    · cases List.mem_singleton.mp hmem
      exact (Option.some.inj hclock).symm
    · cases List.mem_singleton.mp (h hmem)
      exact (Option.some.inj hclock).symm
  intro old new hisOld hisNew
  rw [hnew new hisNew]
  exact (hold old hisOld).trans_lt (by decide)

theorem keepsVariants_further {targetingKeyHash : String} (h : targetingKeyHash ≠ "v1:t1") :
    KeepsVariants twoEntities (furtherExposures targetingKeyHash) := by
  have hold : ∀ exposure ∈ twoEntities.exposures, ∀ other ∈ twoEntities.exposures,
      other.targetingKeyHash = exposure.targetingKeyHash → other.variant = exposure.variant := by
    decide +kernel
  intro exposure hmem hrun other hother harm hhash
  rcases List.mem_append.mp hother with hother | hother
  · exact hold exposure hmem other hother hhash
  · cases List.mem_singleton.mp hother
    rcases List.mem_pair.mp hmem with rfl | rfl
    · rfl
    · exact absurd hhash h

theorem srm_append_only_third :
    AppendOnly morning ℝ twoEntities (furtherExposures "v1:c2") (furtherActivations "v1:c2") := by
  have hclock : OneClock morning
      (twoEntities.extend (furtherExposures "v1:c2") (furtherActivations "v1:c2")) := by
    unfold OneClock InArm
    decide +kernel
  have hkeys : ∀ exposure ∈ twoEntities.exposures ++ furtherExposures "v1:c2",
      ∀ other ∈ twoEntities.exposures ++ furtherExposures "v1:c2",
      activatedKey exposure = activatedKey other → armEntity exposure = armEntity other := by
    decide +kernel
  exact (srm_append_only_iff (further_later _ (List.Subset.refl _)) (keepsVariants_further (by decide))
    ⟨_, rfl⟩ ⟨_, rfl⟩).mpr ⟨hclock, fun exposure other h h' => hkeys exposure h.1 other h'.1⟩

/-- **A further Exposure of an Entity**, in its own arm and ingested later, moves it behind the
Entities that came after it. -/
theorem srm_further_exposure :
    IngestedLater morning twoEntities (furtherExposures "v1:c1") [] ∧
      KeepsVariants twoEntities (furtherExposures "v1:c1") ∧
      exposurePath morning twoEntities = .ok [
        ⟨"v1:c1", "control", "2026-07-01T08:00:00.000Z"⟩,
        ⟨"v1:t1", "treatment", "2026-07-01T09:00:00.000Z"⟩] ∧
      exposurePath morning (twoEntities.extend (furtherExposures "v1:c1") []) = .ok [
        ⟨"v1:t1", "treatment", "2026-07-01T09:00:00.000Z"⟩,
        ⟨"v1:c1", "control", "2026-07-01T10:00:00.000Z"⟩] ∧
      ¬ AppendOnly morning ℝ twoEntities (furtherExposures "v1:c1") [] := by
  have hpath : exposurePath morning twoEntities = .ok [
      ⟨"v1:c1", "control", "2026-07-01T08:00:00.000Z"⟩,
      ⟨"v1:t1", "treatment", "2026-07-01T09:00:00.000Z"⟩] := rfl
  have hpath' : exposurePath morning (twoEntities.extend (furtherExposures "v1:c1") []) = .ok [
      ⟨"v1:t1", "treatment", "2026-07-01T09:00:00.000Z"⟩,
      ⟨"v1:c1", "control", "2026-07-01T10:00:00.000Z"⟩] := rfl
  refine ⟨further_later _ (List.nil_subset _), keepsVariants_further (by decide), hpath, hpath',
    fun h => ?_⟩
  obtain ⟨path, hbuilt, hcontinues⟩ := h.exposure.path _ hpath'
  cases hpath.symm.trans hbuilt
  have hsame : ["v1:c1", "v1:t1"] = ["v1:t1", "v1:c1"] :=
    congrArg (List.map Arrival.targetingKeyHash) (hcontinues.eq_of_length rfl)
  exact absurd hsame (by decide)

end Srm

end Splitch
