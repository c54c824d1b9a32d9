/-
# Eligibility for the SRM check

Which Activations come after an Exposure, which pairs qualify and when (`srm-activated-arrival.ts`), and
which rows the activated check keeps (`exposure-denominator.ts`).

An Entity has many Exposure rows and many Activation rows, each with a time of its own and a time of its
ingestion.  It becomes eligible at a clock that the code finds by a loop over all pairs, which keeps a least
value and starts from a value that stands for none.  Read without the loop: it is the least instant among
the pairs that qualify (`earliest_ok`), and there is one exactly where every pair can be read and one of them
qualifies (`exists_earliest_iff`).  A least element does not depend on the order of the rows, and it does not
move when later ones are added; both are used where two checks are compared.

The second half is about the rows that the activated check reads.  They are filtered twice, by whether the
Entity is activated at all, and by whether there is an Activation after the row itself; the row that stands
for an Entity is the one that is put into the map last.  `mem_activatedRows` says which rows are kept, and
`exists_activatedRows_iff` when reading them throws nothing.
-/
import Splitch.Library.Checks
import Splitch.Stats.SrmPath

namespace Splitch

namespace Srm

variable {dateParse : String → Option Int}

/-! ## 1. Clocks -/

/-- The instant of a clock that may be missing. -/
def clockMs (dateParse : String → Option Int) : Option String → Option Int
  | none | some "" => none
  | some value => dateParse value

theorem arrivalMs_eq_ok {text : String} {ms : Int} :
    arrivalMs dateParse text = .ok ms ↔ dateParse text = some ms := by
  unfold arrivalMs
  cases dateParse text with
  | none => exact ⟨fun h => (by cases h), fun h => (by cases h)⟩
  | some parsed => exact ⟨fun h => (by cases h; rfl), fun h => (by cases h; rfl)⟩

theorem timestampMs_eq_ok {text field : String} {ms : Int} :
    timestampMs dateParse text field = .ok ms ↔ dateParse text = some ms := by
  unfold timestampMs
  cases dateParse text with
  | none => exact ⟨fun h => (by cases h), fun h => (by cases h)⟩
  | some parsed => exact ⟨fun h => (by cases h; rfl), fun h => (by cases h; rfl)⟩

/-- A clock that is read. -/
theorem clock_eq_ok {value : Option String} {field text : String} :
    requiredTimestamp value field = .ok text ↔ value = some text ∧ text ≠ "" := by
  unfold requiredTimestamp
  split
  · exact ⟨fun h => (by cases h), fun h => (by cases h.1)⟩
  · exact ⟨fun h => (by cases h), fun h => absurd (Option.some.inj h.1).symm h.2⟩
  · next given hne =>
    exact ⟨fun h => (by cases h; exact ⟨rfl, fun heq => hne (heq ▸ rfl)⟩),
      fun h => (by cases h.1; rfl)⟩

theorem clockMs_eq_some {value : Option String} {ms : Int} :
    clockMs dateParse value = some ms ↔
      ∃ text, value = some text ∧ text ≠ "" ∧ dateParse text = some ms := by
  unfold clockMs
  split
  · exact ⟨fun h => (by cases h), fun ⟨_, h, _⟩ => (by cases h)⟩
  · exact ⟨fun h => (by cases h), fun ⟨_, h, hne, _⟩ => absurd (Option.some.inj h).symm hne⟩
  · next given hne =>
    exact ⟨fun h => ⟨given, rfl, fun heq => hne (heq ▸ rfl), h⟩, fun ⟨_, h, _, hms⟩ => by cases h; exact hms⟩

/-! ## 2. Pairs -/

/-- The Activation comes after the Exposure. -/
def After (dateParse : String → Option Int) (exposure : DedupeExposureRow) (row : ActivationRow) : Prop :=
  ∃ exposed activated, dateParse exposure.firstExposureTs = some exposed ∧
    dateParse row.activationTs = some activated ∧ exposed < activated

/-- A pair qualifies, at the later of its two clocks. -/
def Qualifies (dateParse : String → Option Int) (exposure : DedupeExposureRow) (row : ActivationRow)
    (ms : Int) : Prop :=
  row.activated = true ∧ After dateParse exposure row ∧ ∃ exposed activated,
    clockMs dateParse exposure.firstIngestTs = some exposed ∧
    clockMs dateParse row.activationIngestTs = some activated ∧ ms = max exposed activated

/-- What the check reads of a pair can be read. -/
def Readable (dateParse : String → Option Int) (exposure : DedupeExposureRow) (row : ActivationRow) :
    Prop :=
  ∃ answer, qualifyingPairEligibilityTs dateParse exposure row = .ok answer

theorem qualifying_some {exposure : DedupeExposureRow} {row : ActivationRow} {text : String}
    (h : qualifyingPairEligibilityTs dateParse exposure row = .ok (some text)) :
    ∃ ms, dateParse text = some ms ∧ Qualifies dateParse exposure row ms := by
  unfold qualifyingPairEligibilityTs at h
  split at h
  · cases h
  next hactivated =>
  obtain ⟨exposed, hexposed, h⟩ := Checks.bind_eq_ok.mp h
  obtain ⟨activated, hactivation, h⟩ := Checks.bind_eq_ok.mp h
  split at h
  · cases h
  next hafter =>
  obtain ⟨exposureTs, hexposureTs, h⟩ := Checks.bind_eq_ok.mp h
  obtain ⟨activationTs, hactivationTs, h⟩ := Checks.bind_eq_ok.mp h
  obtain ⟨exposureMs, hexposureMs, h⟩ := Checks.bind_eq_ok.mp h
  obtain ⟨activationMs, hactivationMs, h⟩ := Checks.bind_eq_ok.mp h
  obtain ⟨hexposureTs, hexposureNe⟩ := clock_eq_ok.mp hexposureTs
  obtain ⟨hactivationTs, hactivationNe⟩ := clock_eq_ok.mp hactivationTs
  have hexposureMs := timestampMs_eq_ok.mp hexposureMs
  have hactivationMs := timestampMs_eq_ok.mp hactivationMs
  have hqualifies : Qualifies dateParse exposure row (max exposureMs activationMs) :=
    ⟨not_not.mp hactivated, ⟨exposed, activated, timestampMs_eq_ok.mp hexposed,
      timestampMs_eq_ok.mp hactivation, not_not.mp hafter⟩, exposureMs, activationMs,
      clockMs_eq_some.mpr ⟨exposureTs, hexposureTs, hexposureNe, hexposureMs⟩,
      clockMs_eq_some.mpr ⟨activationTs, hactivationTs, hactivationNe, hactivationMs⟩, rfl⟩
  refine ⟨_, ?_, hqualifies⟩
  rw [← Option.some.inj (Checks.pure_eq_ok.mp h)]
  split
  · rw [hexposureMs, max_eq_left ‹_›]
  · rw [hactivationMs, max_eq_right (not_le.mp ‹_›).le]

theorem qualifying_of_qualifies {exposure : DedupeExposureRow} {row : ActivationRow} {ms : Int}
    (h : Qualifies dateParse exposure row ms) :
    ∃ text, qualifyingPairEligibilityTs dateParse exposure row = .ok (some text) ∧
      dateParse text = some ms := by
  obtain ⟨hactivated, ⟨exposed, activated, hexposed, hactivation, hafter⟩, exposureMs, activationMs,
    hexposureClock, hactivationClock, rfl⟩ := h
  obtain ⟨exposureTs, hexposureTs, hexposureNe, hexposureMs⟩ := clockMs_eq_some.mp hexposureClock
  obtain ⟨activationTs, hactivationTs, hactivationNe, hactivationMs⟩ :=
    clockMs_eq_some.mp hactivationClock
  refine ⟨if exposureMs ≥ activationMs then exposureTs else activationTs, ?_, ?_⟩
  · unfold qualifyingPairEligibilityTs
    rw [if_neg (not_not.mpr hactivated), timestampMs_eq_ok.mpr hexposed]
    refine Checks.bind_eq_ok.mpr ⟨exposed, rfl, ?_⟩
    rw [timestampMs_eq_ok.mpr hactivation]
    refine Checks.bind_eq_ok.mpr ⟨activated, rfl, ?_⟩
    rw [if_neg (not_not.mpr hafter), clock_eq_ok.mpr ⟨hexposureTs, hexposureNe⟩]
    refine Checks.bind_eq_ok.mpr ⟨exposureTs, rfl, ?_⟩
    rw [clock_eq_ok.mpr ⟨hactivationTs, hactivationNe⟩]
    refine Checks.bind_eq_ok.mpr ⟨activationTs, rfl, ?_⟩
    rw [timestampMs_eq_ok.mpr hexposureMs]
    refine Checks.bind_eq_ok.mpr ⟨exposureMs, rfl, ?_⟩
    rw [timestampMs_eq_ok.mpr hactivationMs]
    rfl
  · split
    · rw [hexposureMs, max_eq_left ‹_›]
    · rw [hactivationMs, max_eq_right (not_le.mp ‹_›).le]

/-- A readable pair in which the Activation comes after the Exposure qualifies. -/
theorem qualifies_of_after {exposure : DedupeExposureRow} {row : ActivationRow}
    (hreadable : Readable dateParse exposure row) (hactivated : row.activated = true)
    (hafter : After dateParse exposure row) : ∃ ms, Qualifies dateParse exposure row ms := by
  obtain ⟨answer, h⟩ := hreadable
  cases answer with
  | some text =>
    obtain ⟨ms, -, hqualifies⟩ := qualifying_some h
    exact ⟨ms, hqualifies⟩
  | none =>
    obtain ⟨exposed, activated, hexposed, hactivation, hlt⟩ := hafter
    unfold qualifyingPairEligibilityTs at h
    rw [if_neg (not_not.mpr hactivated), timestampMs_eq_ok.mpr hexposed,
      timestampMs_eq_ok.mpr hactivation] at h
    change (if ¬ exposed < activated then _ else _) = _ at h
    rw [if_neg (not_not.mpr hlt)] at h
    obtain ⟨_, -, h⟩ := Checks.bind_eq_ok.mp h
    obtain ⟨_, -, h⟩ := Checks.bind_eq_ok.mp h
    obtain ⟨_, -, h⟩ := Checks.bind_eq_ok.mp h
    obtain ⟨_, -, h⟩ := Checks.bind_eq_ok.mp h
    cases h

/-! ## 3. Eligibility -/

/-- The instants of the pairs that qualify. -/
def Instants (dateParse : String → Option Int) (pairs : List (DedupeExposureRow × ActivationRow)) :
    Set Int :=
  { ms | ∃ pair ∈ pairs, Qualifies dateParse pair.1 pair.2 ms }

/-- What the loop holds is an instant among those met, and none of them is before it. -/
structure Held (dateParse : String → Option Int) (instants : Set Int) (held : Option (String × Int)) :
    Prop where
  parsed : ∀ found ∈ held, dateParse found.1 = some found.2
  mem : ∀ found ∈ held, found.2 ∈ instants
  least : ∀ ms ∈ instants, ∃ found ∈ held, found.2 ≤ ms

theorem instants_cons (pair : DedupeExposureRow × ActivationRow)
    (pairs : List (DedupeExposureRow × ActivationRow)) :
    Instants dateParse (pair :: pairs) =
      { ms | Qualifies dateParse pair.1 pair.2 ms } ∪ Instants dateParse pairs := by
  ext ms
  simp only [Instants, List.mem_cons, Set.mem_ofPred_eq, Set.mem_union, or_and_right, exists_or,
    exists_eq_left]

theorem held_start : Held dateParse ∅ none :=
  ⟨fun found hfound => (by cases hfound), fun found hfound => (by cases hfound),
    fun ms hms => hms.elim⟩

/-- One pair that qualifies. -/
theorem Held.met {met : Set Int} {held : Option (String × Int)} (hheld : Held dateParse met held)
    {text : String} {ms : Int} (hparsed : dateParse text = some ms) :
    Held dateParse (met ∪ {ms})
      (if ∃ found ∈ held, ms ≥ found.2 then held else some (text, ms)) := by
  split
  · next hlater =>
    obtain ⟨kept, hkept, hle⟩ := hlater
    refine ⟨hheld.parsed, fun found hfound => .inl (hheld.mem found hfound), ?_⟩
    rintro instant (hinstant | rfl)
    · exact hheld.least instant hinstant
    · exact ⟨kept, hkept, hle⟩
  · next hearlier =>
    refine ⟨?_, ?_, ?_⟩
    · rintro found ⟨⟩
      exact hparsed
    · rintro found ⟨⟩
      exact .inr rfl
    · rintro instant (hinstant | rfl)
      · obtain ⟨found, hfound, hle⟩ := hheld.least instant hinstant
        have hlt : ms < found.2 := not_le.mp fun hge => hearlier ⟨found, hfound, hge⟩
        exact ⟨(text, ms), rfl, hlt.le.trans hle⟩
      · exact ⟨(text, instant), rfl, le_refl _⟩

theorem Qualifies.unique {exposure : DedupeExposureRow} {row : ActivationRow} {ms ms' : Int}
    (h : Qualifies dateParse exposure row ms) (h' : Qualifies dateParse exposure row ms') :
    ms = ms' := by
  obtain ⟨text, htext, hms⟩ := qualifying_of_qualifies h
  obtain ⟨text', htext', hms'⟩ := qualifying_of_qualifies h'
  rw [htext] at htext'
  cases htext'
  exact Option.some.inj (hms.symm.trans hms')

theorem minEligibility_ok {pairs : List (DedupeExposureRow × ActivationRow)} {met : Set Int}
    {held held' : Option (String × Int)} (hheld : Held dateParse met held)
    (h : minEligibility dateParse held pairs = .ok held') :
    (∀ pair ∈ pairs, Readable dateParse pair.1 pair.2) ∧
      Held dateParse (met ∪ Instants dateParse pairs) held' := by
  induction pairs generalizing met held with
  | nil =>
    cases h
    refine ⟨fun pair hpair => (by cases hpair), ?_⟩
    rwa [show Instants dateParse [] = ∅ by ext; simp [Instants], Set.union_empty]
  | cons pair pairs ih =>
    rw [minEligibility] at h
    obtain ⟨answer, hanswer, h⟩ := Checks.bind_eq_ok.mp h
    rw [List.forall_mem_cons, instants_cons, ← Set.union_assoc]
    cases answer with
    | none =>
      have hnone : { ms | Qualifies dateParse pair.1 pair.2 ms } = ∅ := by
        refine Set.eq_empty_of_forall_notMem fun ms hms => ?_
        obtain ⟨text, htext, -⟩ := qualifying_of_qualifies hms
        rw [hanswer] at htext
        cases htext
      obtain ⟨hreadable, hheld'⟩ := ih hheld h
      rw [hnone, Set.union_empty]
      exact ⟨⟨⟨_, hanswer⟩, hreadable⟩, hheld'⟩
    | some text =>
      obtain ⟨ms, hms, hqualifies⟩ := qualifying_some hanswer
      have hone : { ms | Qualifies dateParse pair.1 pair.2 ms } = {ms} :=
        Set.ext fun other => ⟨fun hother => hother.unique hqualifies, fun heq => heq ▸ hqualifies⟩
      obtain ⟨ms', hms', h⟩ := Checks.bind_eq_ok.mp h
      cases (timestampMs_eq_ok.mp hms').symm.trans hms
      rw [← apply_ite (minEligibility dateParse · pairs)] at h
      obtain ⟨hreadable, hheld'⟩ := ih (hheld.met hms) h
      rw [hone]
      exact ⟨⟨⟨_, hanswer⟩, hreadable⟩, hheld'⟩

theorem exists_minEligibility {pairs : List (DedupeExposureRow × ActivationRow)}
    (h : ∀ pair ∈ pairs, Readable dateParse pair.1 pair.2) (held : Option (String × Int)) :
    ∃ held', minEligibility dateParse held pairs = .ok held' := by
  induction pairs generalizing held with
  | nil => exact ⟨held, rfl⟩
  | cons pair pairs ih =>
    obtain ⟨⟨answer, hanswer⟩, hrest⟩ := List.forall_mem_cons.mp h
    rw [minEligibility, hanswer]
    cases answer with
    | none => exact ih hrest held
    | some text =>
      obtain ⟨ms, hms, -⟩ := qualifying_some hanswer
      change ∃ held', (timestampMs dateParse text "eligibility_ingest_ts" >>= _) = _
      rw [timestampMs_eq_ok.mpr hms]
      change ∃ held', (if ∃ found ∈ held, ms ≥ found.2 then _ else _) = _
      split
      · exact ih hrest held
      · exact ih hrest _

/-- **The eligibility clock** is at the least instant of the qualifying pairs. The loop holds the
least of the pairs it has seen, and an answer means that it has seen one. -/
theorem earliest_ok {exposures : List DedupeExposureRow} {rows : List ActivationRow} {text : String}
    (h : earliestValidActivationIngestTs dateParse exposures rows = .ok text) :
    ∃ ms, dateParse text = some ms ∧
      IsLeast (Instants dateParse (exposures.product rows)) ms := by
  unfold earliestValidActivationIngestTs minQualifyingPairEligibilityTs at h
  obtain ⟨answer, hanswer, h⟩ := Checks.bind_eq_ok.mp h
  obtain ⟨held, hheld, hpure⟩ := Checks.bind_eq_ok.mp hanswer
  cases Checks.pure_eq_ok.mp hpure
  obtain ⟨-, hfinal⟩ := minEligibility_ok held_start hheld
  rw [Set.empty_union] at hfinal
  cases held with
  | none => cases h
  | some found =>
    cases h
    refine ⟨found.2, hfinal.parsed found rfl, hfinal.mem found rfl, fun ms hms => ?_⟩
    obtain ⟨other, hother, hle⟩ := hfinal.least ms hms
    cases hother
    exact hle

/-- An Entity is eligible when its pairs can be read and one of them qualifies. -/
theorem exists_earliest_iff {exposures : List DedupeExposureRow} {rows : List ActivationRow} :
    (∃ text, earliestValidActivationIngestTs dateParse exposures rows = .ok text) ↔
      (∀ exposure ∈ exposures, ∀ row ∈ rows, Readable dateParse exposure row) ∧
        (Instants dateParse (exposures.product rows)).Nonempty := by
  constructor
  · rintro ⟨text, h⟩
    obtain ⟨ms, -, hleast⟩ := earliest_ok h
    refine ⟨fun exposure hexposure row hrow => ?_, ms, hleast.1⟩
    unfold earliestValidActivationIngestTs minQualifyingPairEligibilityTs at h
    obtain ⟨answer, hanswer, -⟩ := Checks.bind_eq_ok.mp h
    obtain ⟨held, hheld, -⟩ := Checks.bind_eq_ok.mp hanswer
    exact (minEligibility_ok held_start hheld).1 (exposure, row)
      (List.mem_product.mpr ⟨hexposure, hrow⟩)
  · rintro ⟨hreadable, ms, hms⟩
    have hpairs : ∀ pair ∈ exposures.product rows, Readable dateParse pair.1 pair.2 :=
      fun pair hpair => hreadable _ (List.mem_product.mp hpair).1 _ (List.mem_product.mp hpair).2
    obtain ⟨held, hheld⟩ := exists_minEligibility hpairs none
    obtain ⟨found, hfound, -⟩ := (minEligibility_ok held_start hheld).2.least ms (.inr hms)
    cases hfound
    refine ⟨found.1, ?_⟩
    unfold earliestValidActivationIngestTs minQualifyingPairEligibilityTs
    rw [hheld]
    rfl

/-! ## 4. Activated rows -/

/-- The two timestamps that decide whether the Activation comes after can be read. -/
def Legible (dateParse : String → Option Int) (exposure : DedupeExposureRow) (row : ActivationRow) :
    Prop :=
  (∃ exposed, dateParse exposure.firstExposureTs = some exposed) ∧
    ∃ activated, dateParse row.activationTs = some activated

/-- A row of a real arm of the Run. -/
def InArm (runId : String) (exposure : DedupeExposureRow) : Prop :=
  exposure.runId = runId ∧ exposure.variant ≠ MULTIPLE_VARIANT

/-- The row has an Activation after it. -/
def Activated (dateParse : String → Option Int) (runId : String) (activationRows : List ActivationRow)
    (exposure : DedupeExposureRow) : Prop :=
  ∃ row ∈ activationsOf runId activationRows exposure.targetingKeyHash,
    After dateParse exposure row

section

variable {exposure : DedupeExposureRow} {rows : List ActivationRow}

theorem isActivated_false (h : isActivatedAfterExposure dateParse exposure rows = .ok false) :
    (∀ row ∈ rows, Legible dateParse exposure row) ∧ ∀ row ∈ rows, ¬ After dateParse exposure row := by
  induction rows with
  | nil => exact ⟨fun row hrow => (by cases hrow), fun row hrow => (by cases hrow)⟩
  | cons row rows ih =>
    rw [isActivatedAfterExposure] at h
    obtain ⟨activated, hactivated, h⟩ := Checks.bind_eq_ok.mp h
    obtain ⟨exposed, hexposed, h⟩ := Checks.bind_eq_ok.mp h
    have hactivated := timestampMs_eq_ok.mp hactivated
    have hexposed := timestampMs_eq_ok.mp hexposed
    split at h
    · cases h
    next hnot =>
    obtain ⟨hlegible, hnone⟩ := ih h
    refine ⟨List.forall_mem_cons.mpr ⟨⟨⟨exposed, hexposed⟩, activated, hactivated⟩, hlegible⟩,
      List.forall_mem_cons.mpr ⟨?_, hnone⟩⟩
    rintro ⟨exposed', activated', hexposed', hactivated', hlt⟩
    cases hexposed.symm.trans hexposed'
    cases hactivated.symm.trans hactivated'
    exact hnot hlt

theorem isActivated_true (h : isActivatedAfterExposure dateParse exposure rows = .ok true) :
    ∃ row ∈ rows, After dateParse exposure row := by
  induction rows with
  | nil => cases h
  | cons row rows ih =>
    rw [isActivatedAfterExposure] at h
    obtain ⟨activated, hactivated, h⟩ := Checks.bind_eq_ok.mp h
    obtain ⟨exposed, hexposed, h⟩ := Checks.bind_eq_ok.mp h
    split at h
    · next hlt =>
      exact ⟨row, .head _, exposed, activated, timestampMs_eq_ok.mp hexposed,
        timestampMs_eq_ok.mp hactivated, hlt⟩
    · obtain ⟨other, hother, hafter⟩ := ih h
      exact ⟨other, .tail _ hother, hafter⟩

theorem exists_isActivated (h : ∀ row ∈ rows, Legible dateParse exposure row) :
    ∃ answer, isActivatedAfterExposure dateParse exposure rows = .ok answer := by
  induction rows with
  | nil => exact ⟨false, rfl⟩
  | cons row rows ih =>
    obtain ⟨⟨⟨exposed, hexposed⟩, activated, hactivated⟩, hrest⟩ := List.forall_mem_cons.mp h
    rw [isActivatedAfterExposure, timestampMs_eq_ok.mpr hactivated, timestampMs_eq_ok.mpr hexposed]
    change ∃ answer, (if activated > exposed then _ else _) = _
    split
    · exact ⟨true, rfl⟩
    · exact ih hrest

theorem earliestAfter_ok {exposed : Int} {held held' : Option (String × Int)}
    (h : earliestAfter dateParse exposed held rows = .ok held') :
    (∀ row ∈ rows, row.activated = true → ∃ activated, dateParse row.activationTs = some activated) ∧
      (held.isSome = true → held'.isSome = true) := by
  induction rows generalizing held with
  | nil =>
    cases h
    exact ⟨fun row hrow => (by cases hrow), id⟩
  | cons row rows ih =>
    rw [earliestAfter] at h
    rw [List.forall_mem_cons]
    split at h
    · next hnot =>
      obtain ⟨hrest, hkept⟩ := ih h
      exact ⟨⟨fun hactivated => absurd hactivated hnot, hrest⟩, hkept⟩
    obtain ⟨activated, hactivated, h⟩ := Checks.bind_eq_ok.mp h
    have hparsed : row.activated = true → ∃ activated, dateParse row.activationTs = some activated :=
      fun _ => ⟨activated, timestampMs_eq_ok.mp hactivated⟩
    split at h
    · obtain ⟨hrest, hkept⟩ := ih h
      exact ⟨⟨hparsed, hrest⟩, fun _ => hkept rfl⟩
    · obtain ⟨hrest, hkept⟩ := ih h
      exact ⟨⟨hparsed, hrest⟩, hkept⟩

theorem exists_earliestAfter {exposed : Int}
    (h : ∀ row ∈ rows, ∃ activated, dateParse row.activationTs = some activated)
    (held : Option (String × Int)) :
    ∃ held', earliestAfter dateParse exposed held rows = .ok held' ∧
      ((∃ row ∈ rows, row.activated = true ∧ ∃ activated, dateParse row.activationTs = some activated ∧
        exposed < activated) → held'.isSome = true) := by
  induction rows generalizing held with
  | nil => exact ⟨held, rfl, fun ⟨row, hrow, _⟩ => (by cases hrow)⟩
  | cons row rows ih =>
    obtain ⟨⟨activated, hactivated⟩, hrest⟩ := List.forall_mem_cons.mp h
    rw [earliestAfter]
    split
    · next hnot =>
      obtain ⟨held', hheld', hfound⟩ := ih hrest held
      refine ⟨held', hheld', ?_⟩
      rintro ⟨other, hother, hon, hlater⟩
      rcases List.mem_cons.mp hother with rfl | hother
      · exact absurd hon hnot
      · exact hfound ⟨other, hother, hon, hlater⟩
    rw [timestampMs_eq_ok.mpr hactivated]
    change ∃ held', (if activated > exposed ∧ ∀ found ∈ held, activated < found.2 then _ else _) = _ ∧ _
    split
    · obtain ⟨held', hheld', -⟩ := ih hrest (some (row.activationTs, activated))
      exact ⟨held', hheld', fun _ => (earliestAfter_ok hheld').2 rfl⟩
    · next hnot =>
      obtain ⟨held', hheld', hfound⟩ := ih hrest held
      refine ⟨held', hheld', ?_⟩
      rintro ⟨other, hother, hon, activated', hactivated', hlt⟩
      rcases List.mem_cons.mp hother with rfl | hother
      · cases hactivated.symm.trans hactivated'
        have hheld : held.isSome = true := by
          cases held with
          | some found => rfl
          | none => exact absurd ⟨hlt, fun found hfound => (by cases hfound)⟩ hnot
        exact (earliestAfter_ok hheld').2 hheld
      · exact hfound ⟨other, hother, hon, activated', hactivated', hlt⟩

theorem exists_earliestValid (hactivated : ∀ row ∈ rows, row.activated = true)
    (hlegible : ∀ row ∈ rows, Legible dateParse exposure row)
    (hafter : ∃ row ∈ rows, After dateParse exposure row) :
    ∃ windowAnchor, earliestValidActivationTs dateParse exposure rows = .ok windowAnchor := by
  obtain ⟨row, hrow, exposed, activated, hexposed, hrowTs, hlt⟩ := hafter
  have hearliest : ∃ held, earliestAfter dateParse exposed none rows = .ok held ∧ _ :=
    exists_earliestAfter (fun row hrow => (hlegible row hrow).2) none
  obtain ⟨held, hheld, hfound⟩ := hearliest
  have hsome := hfound ⟨row, hrow, hactivated row hrow, activated, hrowTs, hlt⟩
  obtain ⟨found, rfl⟩ := Option.isSome_iff_exists.mp hsome
  refine ⟨found.1, ?_⟩
  unfold earliestValidActivationTs
  rw [timestampMs_eq_ok.mpr hexposed]
  refine Checks.bind_eq_ok.mpr ⟨exposed, rfl, ?_⟩
  rw [hheld]
  rfl

/-- An anchor is found where every Activation can be read. -/
theorem legible_of_anchor (hactivated : ∀ row ∈ rows, row.activated = true) {windowAnchor : String}
    (h : earliestValidActivationTs dateParse exposure rows = .ok windowAnchor) :
    ∀ row ∈ rows, Legible dateParse exposure row := by
  unfold earliestValidActivationTs at h
  obtain ⟨exposed, hexposed, h⟩ := Checks.bind_eq_ok.mp h
  obtain ⟨held, hheld, -⟩ := Checks.bind_eq_ok.mp h
  exact fun row hrow => ⟨⟨exposed, timestampMs_eq_ok.mp hexposed⟩,
    (earliestAfter_ok hheld).1 row hrow (hactivated row hrow)⟩

end

section

variable {runId : String} {activationRows : List ActivationRow} {exposure : DedupeExposureRow}
  {exposures kept : List DedupeExposureRow}

theorem mem_activationsOf {targetingKeyHash : String} {row : ActivationRow} :
    row ∈ activationsOf runId activationRows targetingKeyHash ↔
      row ∈ activationRows ∧ row.runId = runId ∧ row.activated = true ∧
        row.targetingKeyHash = targetingKeyHash := by
  rw [activationsOf, List.mem_filter, decide_eq_true_iff]

/-- One row of the loop. -/
inductive Kept (dateParse : String → Option Int) (runId : String) (activationRows : List ActivationRow)
    (exposure : DedupeExposureRow) (rest : List DedupeExposureRow) : List DedupeExposureRow → Prop
  | skipped (hout : ¬ InArm runId exposure) : Kept dateParse runId activationRows exposure rest rest
  | inactive (hnot : ¬ Activated dateParse runId activationRows exposure) :
      Kept dateParse runId activationRows exposure rest rest
  | anchored (harm : InArm runId exposure)
      (hactivated : Activated dateParse runId activationRows exposure) (windowAnchor : String) :
      Kept dateParse runId activationRows exposure rest ({ exposure with windowAnchor } :: rest)

/-- What the loop reads of an arm row. -/
def LegibleRow (dateParse : String → Option Int) (runId : String) (activationRows : List ActivationRow)
    (exposure : DedupeExposureRow) : Prop :=
  InArm runId exposure →
    ∀ row ∈ activationsOf runId activationRows exposure.targetingKeyHash,
      Legible dateParse exposure row

theorem inArm_of_not (h : ¬ (exposure.runId ≠ runId ∨ exposure.variant = MULTIPLE_VARIANT)) :
    InArm runId exposure :=
  ⟨not_not.mp fun hne => h (.inl hne), fun heq => h (.inr heq)⟩

theorem activatedRows_cons
    (h : activatedRows dateParse runId activationRows (exposure :: exposures) = .ok kept) :
    LegibleRow dateParse runId activationRows exposure ∧
      ∃ rest, activatedRows dateParse runId activationRows exposures = .ok rest ∧
        Kept dateParse runId activationRows exposure rest kept := by
  have hon : ∀ row ∈ activationsOf runId activationRows exposure.targetingKeyHash,
      row.activated = true := fun row hrow => (mem_activationsOf.mp hrow).2.2.1
  rw [activatedRows] at h
  split at h
  · next hout =>
    have hnot : ¬ InArm runId exposure := fun harm => hout.elim (· harm.1) harm.2
    exact ⟨fun harm => absurd harm hnot, kept, h, .skipped hnot⟩
  next hin =>
  obtain ⟨answer, hanswer, h⟩ := Checks.bind_eq_ok.mp h
  cases answer with
  | false =>
    obtain ⟨hlegible, hnone⟩ := isActivated_false hanswer
    exact ⟨fun _ => hlegible, kept, h, .inactive fun ⟨row, hrow, hafter⟩ => hnone row hrow hafter⟩
  | true =>
    obtain ⟨windowAnchor, hanchor, h⟩ := Checks.bind_eq_ok.mp h
    obtain ⟨rest, hrest, h⟩ := Checks.bind_eq_ok.mp h
    refine ⟨fun _ => legible_of_anchor hon hanchor, rest, hrest, ?_⟩
    rw [← Checks.pure_eq_ok.mp h]
    exact .anchored (inArm_of_not hin) (isActivated_true hanswer) windowAnchor

theorem exists_activatedRows_cons (hlegible : LegibleRow dateParse runId activationRows exposure)
    (hrest : ∃ rest, activatedRows dateParse runId activationRows exposures = .ok rest) :
    ∃ kept, activatedRows dateParse runId activationRows (exposure :: exposures) = .ok kept := by
  obtain ⟨rest, hrest⟩ := hrest
  rw [activatedRows]
  split
  · exact ⟨rest, hrest⟩
  next hin =>
  have hon : ∀ row ∈ activationsOf runId activationRows exposure.targetingKeyHash,
      row.activated = true := fun row hrow => (mem_activationsOf.mp hrow).2.2.1
  obtain ⟨answer, hanswer⟩ := exists_isActivated (hlegible (inArm_of_not hin))
  cases answer with
  | false => exact ⟨rest, Checks.bind_eq_ok.mpr ⟨false, hanswer, hrest⟩⟩
  | true =>
    obtain ⟨windowAnchor, hanchor⟩ :=
      exists_earliestValid hon (hlegible (inArm_of_not hin)) (isActivated_true hanswer)
    refine ⟨{ exposure with windowAnchor } :: rest, Checks.bind_eq_ok.mpr ⟨true, hanswer, ?_⟩⟩
    refine Checks.bind_eq_ok.mpr ⟨windowAnchor, hanchor, ?_⟩
    exact Checks.bind_eq_ok.mpr ⟨rest, hrest, rfl⟩

theorem exists_activatedRows_iff :
    (∃ kept, activatedRows dateParse runId activationRows exposures = .ok kept) ↔
      ∀ exposure ∈ exposures, LegibleRow dateParse runId activationRows exposure := by
  induction exposures with
  | nil => exact ⟨fun _ exposure h => (by cases h), fun _ => ⟨[], rfl⟩⟩
  | cons exposure exposures ih =>
    rw [List.forall_mem_cons, ← ih]
    constructor
    · rintro ⟨kept, h⟩
      obtain ⟨hlegible, rest, hrest, -⟩ := activatedRows_cons h
      exact ⟨hlegible, rest, hrest⟩
    · exact fun h => exists_activatedRows_cons h.1 h.2

/-- The arm and the Entity of a row. -/
def armEntity (exposure : DedupeExposureRow) : String × String :=
  (exposure.variant, exposure.targetingKeyHash)

theorem mem_activatedRows (h : activatedRows dateParse runId activationRows exposures = .ok kept)
    (pair : String × String) :
    pair ∈ kept.map armEntity ↔ ∃ exposure ∈ exposures, InArm runId exposure ∧
      Activated dateParse runId activationRows exposure ∧ armEntity exposure = pair := by
  induction exposures generalizing kept with
  | nil =>
    cases h
    exact ⟨fun hmem => (by cases hmem), fun ⟨_, hmem, _⟩ => (by cases hmem)⟩
  | cons exposure exposures ih =>
    obtain ⟨-, rest, hrest, hkept⟩ := activatedRows_cons h
    simp only [List.mem_cons, or_and_right, exists_or, exists_eq_left]
    rw [← ih hrest]
    cases hkept with
    | skipped hout => exact ⟨.inr, fun hor => hor.resolve_left fun hl => hout hl.1⟩
    | inactive hnot => exact ⟨.inr, fun hor => hor.resolve_left fun hl => hnot hl.2.1⟩
    | anchored harm hactivated windowAnchor =>
      rw [List.map_cons, List.mem_cons]
      exact or_congr_left ⟨fun heq => ⟨harm, hactivated, heq.symm⟩, fun hl => hl.2.2.symm⟩

/-- A row that is put in last is the last one. -/
theorem activatedRows_concat (harm : InArm runId exposure)
    (hactivated : Activated dateParse runId activationRows exposure)
    (h : activatedRows dateParse runId activationRows (exposures ++ [exposure]) = .ok kept) :
    ∃ before windowAnchor, kept = before ++ [{ exposure with windowAnchor }] := by
  induction exposures generalizing kept with
  | nil =>
    obtain ⟨-, rest, hrest, hkept⟩ := activatedRows_cons h
    cases hrest
    cases hkept with
    | skipped hout => exact absurd harm hout
    | inactive hnot => exact absurd hactivated hnot
    | anchored _ _ windowAnchor => exact ⟨[], windowAnchor, rfl⟩
  | cons first exposures ih =>
    obtain ⟨-, rest, hrest, hkept⟩ := activatedRows_cons h
    obtain ⟨before, windowAnchor, rfl⟩ := ih hrest
    cases hkept with
    | skipped => exact ⟨before, windowAnchor, rfl⟩
    | inactive => exact ⟨before, windowAnchor, rfl⟩
    | anchored _ _ firstAnchor =>
      exact ⟨{ first with windowAnchor := firstAnchor } :: before, windowAnchor, rfl⟩

end

end Srm

end Splitch
