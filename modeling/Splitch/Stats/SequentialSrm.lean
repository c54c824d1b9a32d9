/-
# The sequential SRM test

The wealth of the sequential test along a path of Entities (`sequential-srm-math.ts`,
`sequential-srm-validate.ts`, `srm-checker-sequential.ts`).  The weights are rational; the wealth is in
the numbers of the language, of which only the order matters (`Arithmetic`).

The test walks the path Entity by Entity, by their Variants, and looks at the wealth after each.  It keeps
the least inverse wealth that it has seen, which is the p-value, and the first crossing of the threshold.
Nothing is asked of the wealth itself: it may rise and fall as the arithmetic has it.  The two other values
are running ones, a minimum and a first occurrence, and therefore a longer walk leaves the first no higher
and the second as it was (`walk_later`).

A path that continues another is walked in the same way as far as that one goes, so its wealth continues
(`wealth_continues`), its p-value is no higher, and a crossing stays reported (`result_continues`).  The
order of a path counts, since every Entity is a look: a path that is a permutation of another has another
least value on the way.
-/
import Splitch.Stats.SrmArrivals

namespace Splitch

namespace Srm

/-- The numbers of the language, with what it does with them. -/
class Arithmetic (N : Type) extends LinearOrder N, Zero N, One N, Add N, Sub N, Mul N, Div N, Neg N where
  ofRat : Rat → N
  log : N → N
  exp : N → N

/-! ## 1. Wealth -/

structure SequentialSrmWealthState (N : Type) where
  alpha : List N
  alphaSum : N
  logWealth : N
  n : Nat
  minInvWealth : N
  firstCrossN : Option Nat

structure SrmTestResult (N : Type) where
  pValue : N
  isMismatch : Bool
  sequentialThresholdCrossed : Bool

section

variable {N : Type} [Arithmetic N]

def SRM_MISMATCH_P_VALUE : N := Arithmetic.ofRat (1 / 1000)

def SEQUENTIAL_SRM_DEFAULT_CONCENTRATION : N := Arithmetic.ofRat 100

def createSequentialSrmWealthState (theta : List N) (concentration : N) :
    SequentialSrmWealthState N where
  alpha := theta.map fun probability => concentration * probability
  alphaSum := concentration
  logWealth := 0
  n := 0
  minInvWealth := 1
  firstCrossN := none

def applyOneArrival (state : SequentialSrmWealthState N) (variantIndex : Nat) (probability : N) :
    Except String (SequentialSrmWealthState N) :=
  match state.alpha[variantIndex]? with
  | none => throw "Sequential SRM increment length must match allocation."
  | some priorAlpha => return { state with
      logWealth := state.logWealth +
        (Arithmetic.log priorAlpha - Arithmetic.log state.alphaSum - Arithmetic.log probability)
      alpha := state.alpha.set variantIndex (priorAlpha + 1)
      alphaSum := state.alphaSum + 1
      n := state.n + 1 }

/-- The loop of `applyArmIncrements`. -/
def applyArrivals (variantIndex : Nat) (probability : N) :
    Nat → SequentialSrmWealthState N → Except String (SequentialSrmWealthState N)
  | 0, state => return state
  | added + 1, state => do
    applyArrivals variantIndex probability added
      (← applyOneArrival state variantIndex probability)

def applyArmIncrements (state : SequentialSrmWealthState N) (added : Nat) (theta : List N)
    (variantIndex : Nat) : Except String (SequentialSrmWealthState N) :=
  match theta[variantIndex]? with
  | none => throw "Sequential SRM increment length must match allocation."
  | some probability => applyArrivals variantIndex probability added state

/-- The loop over the arms, from one of them on. -/
def applyIncrements (theta : List N) :
    Nat → List Nat → SequentialSrmWealthState N → Except String (SequentialSrmWealthState N)
  | _, [], state => return state
  | variantIndex, added :: increments, state => do
    applyIncrements theta (variantIndex + 1) increments
      (← applyArmIncrements state added theta variantIndex)

def inverseWealth (logWealth : N) : N :=
  if logWealth ≤ 0 then 1
  else if Arithmetic.exp (-logWealth) > 1 then 1
  else Arithmetic.exp (-logWealth)

def recordLook (state : SequentialSrmWealthState N) (threshold : N) : SequentialSrmWealthState N :=
  let invWealth := inverseWealth state.logWealth
  let minInvWealth := if invWealth < state.minInvWealth then invWealth else state.minInvWealth
  { state with
    minInvWealth
    firstCrossN := if state.firstCrossN = none ∧ minInvWealth ≤ threshold then some state.n
      else state.firstCrossN }

def applySequentialSrmIncrements (state : SequentialSrmWealthState N) (increments : List Nat)
    (theta : List N) (threshold : N) : Except String (SequentialSrmWealthState N) := do
  let next ← applyIncrements theta 0 increments state
  return if increments.sum > 0 then recordLook next threshold else next

/-! ## 2. Along a path -/

/-- The Variants and their probabilities. -/
def parseSequentialSrmAllocation (allocation : Allocation) : Except String (List String × List N) := do
  if allocation.entries.length < 2 then
    throw "Sequential SRM allocation requires at least two variants."
  else
    allocation.entries.forM fun (variant, weight) =>
      if weight ≤ 0 then
        throw ("Sequential SRM allocation for " ++ variant ++ " must be positive.")
      else return
    let total := (allocation.entries.map Prod.snd).sum
    return (allocation.entries.map Prod.fst,
      allocation.entries.map fun (_, weight) => Arithmetic.ofRat weight / Arithmetic.ofRat total)

def applyEntity (variants : List String) (theta : List N) (state : SequentialSrmWealthState N)
    (variant : String) : Except String (SequentialSrmWealthState N) :=
  match variants.findIdx? (· = variant) with
  | none => throw ("SRM observation path entity variant " ++ variant ++
      " is missing from allocation.")
  | some index =>
    applySequentialSrmIncrements state
      ((List.range variants.length).map fun arm => if arm = index then 1 else 0) theta
      SRM_MISMATCH_P_VALUE

/-- The loop over the Entities, by their Variants. -/
def walk (variants : List String) (theta : List N) :
    List String → SequentialSrmWealthState N → Except String (SequentialSrmWealthState N)
  | [], state => return state
  | variant :: rest, state => do
    walk variants theta rest (← applyEntity variants theta state variant)

/-- The wealth at the end of a path. -/
def wealthAlongPath (path : List SrmPathEntity) (allocation : Allocation) :
    Except String (SequentialSrmWealthState N) := do
  let (variants, theta) ← parseSequentialSrmAllocation allocation
  walk variants theta (path.map (·.variant))
    (createSequentialSrmWealthState theta SEQUENTIAL_SRM_DEFAULT_CONCENTRATION)

def sequentialSrmAlongEntityPath (dateParse : String → Option Int) (entities : List SrmPathEntity)
    (allocation : Allocation) : Except String (SrmTestResult N) :=
  if entities.length = 0 then
    return { pValue := 1, isMismatch := false, sequentialThresholdCrossed := false }
  else do
    let path ← sortEntitiesByArrival dateParse entities
    let state ← wealthAlongPath path allocation
    let crossed := state.minInvWealth ≤ SRM_MISMATCH_P_VALUE
    return { pValue := state.minInvWealth, isMismatch := crossed, sequentialThresholdCrossed := crossed }

end

/-! ## 3. The running minimum -/

section

variable {N : Type} [Arithmetic N]

/-- The least inverse wealth has not risen, and a first crossing has stayed. -/
structure Later (state state' : SequentialSrmWealthState N) : Prop where
  min : state'.minInvWealth ≤ state.minInvWealth
  first : ∀ n, state.firstCrossN = some n → state'.firstCrossN = some n

theorem Later.refl (state : SequentialSrmWealthState N) : Later state state :=
  ⟨le_refl _, fun _ h => h⟩

theorem Later.trans {a b c : SequentialSrmWealthState N} (h : Later a b) (h' : Later b c) : Later a c :=
  ⟨h'.min.trans h.min, fun n hn => h'.first n (h.first n hn)⟩

variable {variants : List String} {theta : List N} {state state' : SequentialSrmWealthState N}

theorem later_recordLook (state : SequentialSrmWealthState N) (threshold : N) :
    Later state (recordLook state threshold) := by
  constructor
  · unfold recordLook
    dsimp only
    split
    · exact le_of_lt ‹_›
    · exact le_refl _
  · intro n hn
    have hcrossed : ¬ (state.firstCrossN = none ∧ (recordLook state threshold).minInvWealth ≤ threshold) :=
      fun h => by rw [h.1] at hn; cases hn
    exact (if_neg hcrossed).trans hn

theorem later_applyOneArrival {variantIndex : Nat} {probability : N}
    (h : applyOneArrival state variantIndex probability = .ok state') : Later state state' := by
  unfold applyOneArrival at h
  split at h
  · cases h
  · rw [← Checks.pure_eq_ok.mp h]
    exact ⟨le_refl _, fun _ h => h⟩

theorem later_applyArrivals {variantIndex : Nat} {probability : N} {added : Nat}
    (h : applyArrivals variantIndex probability added state = .ok state') :
    Later state state' := by
  induction added generalizing state with
  | zero =>
    rw [← Checks.pure_eq_ok.mp h]
    exact .refl state
  | succ added ih =>
    obtain ⟨next, hnext, h⟩ := Checks.bind_eq_ok.mp h
    exact (later_applyOneArrival hnext).trans (ih h)

theorem later_applyIncrements {variantIndex : Nat} {increments : List Nat}
    (h : applyIncrements theta variantIndex increments state = .ok state') :
    Later state state' := by
  induction increments generalizing variantIndex state with
  | nil =>
    rw [← Checks.pure_eq_ok.mp h]
    exact .refl state
  | cons added increments ih =>
    obtain ⟨next, hnext, h⟩ := Checks.bind_eq_ok.mp h
    unfold applyArmIncrements at hnext
    split at hnext
    · cases hnext
    · exact (later_applyArrivals hnext).trans (ih h)

theorem later_applyEntity {variant : String}
    (h : applyEntity variants theta state variant = .ok state') : Later state state' := by
  unfold applyEntity at h
  split at h
  · cases h
  unfold applySequentialSrmIncrements at h
  obtain ⟨next, hnext, h⟩ := Checks.bind_eq_ok.mp h
  rw [← Checks.pure_eq_ok.mp h]
  refine (later_applyIncrements hnext).trans ?_
  split
  · exact later_recordLook next _
  · exact .refl next

/-- **Along a path** the least inverse wealth does not rise. -/
theorem walk_later {path : List String} (h : walk variants theta path state = .ok state') :
    Later state state' := by
  induction path generalizing state with
  | nil =>
    rw [← Checks.pure_eq_ok.mp h]
    exact .refl state
  | cons variant path ih =>
    obtain ⟨next, hnext, h⟩ := Checks.bind_eq_ok.mp h
    exact (later_applyEntity hnext).trans (ih h)

theorem walk_append {path rest : List String} :
    walk variants theta (path ++ rest) state = .ok state' ↔
      ∃ next, walk variants theta path state = .ok next ∧
        walk variants theta rest next = .ok state' := by
  induction path generalizing state with
  | nil =>
    exact ⟨fun h => ⟨state, rfl, h⟩, fun ⟨next, hnext, h⟩ => by cases hnext; exact h⟩
  | cons variant path ih =>
    rw [List.cons_append, walk, Checks.bind_eq_ok]
    constructor
    · rintro ⟨first, hfirst, h⟩
      obtain ⟨next, hnext, hrest⟩ := ih.mp h
      exact ⟨next, Checks.bind_eq_ok.mpr ⟨first, hfirst, hnext⟩, hrest⟩
    · rintro ⟨next, hnext, hrest⟩
      obtain ⟨first, hfirst, h⟩ := Checks.bind_eq_ok.mp hnext
      exact ⟨first, hfirst, ih.mpr ⟨next, h, hrest⟩⟩

/-- A path that continues another has a wealth that continues. -/
theorem wealth_continues {path path' : List SrmPathEntity} {allocation : Allocation}
    (h : path.map (·.variant) <+: path'.map (·.variant))
    (hstate : wealthAlongPath path' allocation = .ok state') :
    ∃ state, wealthAlongPath path allocation = .ok state ∧ Later state state' := by
  obtain ⟨⟨variants, theta⟩, hparsed, hwalk⟩ := Checks.bind_eq_ok.mp hstate
  obtain ⟨rest, hrest⟩ := h
  rw [← hrest] at hwalk
  obtain ⟨state, hfirst, hthen⟩ := walk_append.mp hwalk
  exact ⟨state, Checks.bind_eq_ok.mpr ⟨_, hparsed, hfirst⟩, walk_later hthen⟩

theorem wealth_le_one {path : List SrmPathEntity} {allocation : Allocation}
    (h : wealthAlongPath path allocation = .ok state) : state.minInvWealth ≤ 1 := by
  obtain ⟨⟨variants, theta⟩, -, hwalk⟩ := Checks.bind_eq_ok.mp h
  exact (walk_later hwalk).min

/-! ## 4. The result of a path -/

/-- The result once the Entities are in order. -/
def resultAlongPath (allocation : Allocation) (path : List SrmPathEntity) :
    Except String (SrmTestResult N) :=
  if path.length = 0 then
    return { pValue := 1, isMismatch := false, sequentialThresholdCrossed := false }
  else do
    let state ← wealthAlongPath path allocation
    let crossed := state.minInvWealth ≤ SRM_MISMATCH_P_VALUE
    return { pValue := state.minInvWealth, isMismatch := crossed, sequentialThresholdCrossed := crossed }

theorem sequentialSrm_eq {dateParse : String → Option Int} (entities : List SrmPathEntity)
    (allocation : Allocation) :
    (sequentialSrmAlongEntityPath dateParse entities allocation : Except String (SrmTestResult N)) =
      sortEntitiesByArrival dateParse entities >>= resultAlongPath allocation := by
  unfold sequentialSrmAlongEntityPath
  split
  · next hempty =>
    rw [List.length_eq_zero_iff.mp hempty]
    rfl
  · next hne =>
    cases hsort : sortEntitiesByArrival dateParse entities with
    | error message => rfl
    | ok path =>
      obtain ⟨-, -, rfl⟩ := sort_eq_ok.mp hsort
      have hlength : ¬ (Sorting.sortBy (place dateParse) entities).length = 0 := by
        rwa [Sorting.sortBy_perm.length_eq]
      exact (if_neg hlength).symm

/-- **A path that continues another** has a p-value that is no higher, and a crossing stays. The
wealth is taken up along the path, and the p-value is the least one met, so what comes later can only
lower it. -/
theorem result_continues {path path' : List SrmPathEntity} {allocation : Allocation}
    {result' : SrmTestResult N} (h : path.map (·.variant) <+: path'.map (·.variant))
    (hresult : resultAlongPath allocation path' = .ok result') :
    ∃ result : SrmTestResult N, resultAlongPath allocation path = .ok result ∧
      result'.pValue ≤ result.pValue ∧
      (result.sequentialThresholdCrossed = true → result'.sequentialThresholdCrossed = true) := by
  unfold resultAlongPath at hresult ⊢
  by_cases hempty' : path'.length = 0
  · have hempty : path.length = 0 := by
      have hle := h.length_le
      rw [List.length_map, List.length_map, hempty'] at hle
      exact Nat.le_zero.mp hle
    rw [if_pos hempty'] at hresult
    rw [if_pos hempty]
    exact ⟨_, rfl, (Checks.pure_eq_ok.mp hresult) ▸ ⟨le_refl _, fun hcrossed => (by cases hcrossed)⟩⟩
  rw [if_neg hempty'] at hresult
  obtain ⟨state', hstate', hpure⟩ := Checks.bind_eq_ok.mp hresult
  rw [← Checks.pure_eq_ok.mp hpure]
  split
  · exact ⟨_, rfl, wealth_le_one hstate', fun hcrossed => (by cases hcrossed)⟩
  · obtain ⟨state, hstate, hlater⟩ := wealth_continues h hstate'
    refine ⟨_, Checks.bind_eq_ok.mpr ⟨state, hstate, rfl⟩, hlater.min, fun hcrossed => ?_⟩
    exact decide_eq_true (hlater.min.trans (of_decide_eq_true hcrossed))

/-- The result depends on the Variants along the path. -/
theorem resultAlongPath_congr {path path' : List SrmPathEntity} (allocation : Allocation)
    (h : path.map (·.variant) = path'.map (·.variant)) :
    (resultAlongPath allocation path : Except String (SrmTestResult N)) =
      resultAlongPath allocation path' := by
  have hlength : path.length = path'.length := by
    rw [← List.length_map (·.variant), h, List.length_map]
  unfold resultAlongPath wealthAlongPath
  rw [hlength, h]

end

end Srm

end Splitch
