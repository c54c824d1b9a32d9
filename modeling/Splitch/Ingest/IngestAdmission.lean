/-
# The Ingest Admission Gate

The pair of token buckets that admits the rows and bytes of one stream (`ingest-admission-gate.ts`).  A
charge is one request to the object that passed `parseAdmissionRequest`; numbers are rational.

A charge refills both buckets by the time since the stored reading, and takes its cost from both if both have
enough.  Rows and bytes go the same way, so everything is said of one DIMENSION and used twice.

The budget is an account (`Accounted`): what was admitted so far, and what is left in the bucket, is at most
the burst and what has flowed in up to the stored reading.  One charge keeps it (`Accounted.snoc`), since
what flows in is proportional to the time that passes.  Between any two charges of a run the same account is
opened anew, with what the bucket holds there, which is at most the burst (`admitted_le`).  A charge that is
denied is told how long to wait, and is admitted when it comes back after that (`retry_allowed`).

All of this supposes a clock that does not go back.  The code clamps the elapsed time at zero but stores the
EARLIER reading, so a clock that steps back and forth refills the same time twice
(`clock_steps_exceed_budget`).  The condition is therefore on the readings of the charges that cost
something (`admission_within_budget`).
-/
import Mathlib.Data.Rat.Floor
import Splitch.Library.Runs
import Splitch.Library.TokenBucket

namespace Splitch

namespace Ingest

/-! ## 1. The gate -/

structure IngestAdmissionBudget where
  rowsPerSecond : ℚ
  rowBurstCapacity : ℚ
  bytesPerSecond : ℚ
  byteBurstCapacity : ℚ
  rowsPerSecond_pos : 0 < rowsPerSecond
  rowBurstCapacity_pos : 0 < rowBurstCapacity
  bytesPerSecond_pos : 0 < bytesPerSecond
  byteBurstCapacity_pos : 0 < byteBurstCapacity

structure AdmissionCost where
  rowCost : ℚ
  byteCost : ℚ
  rowCost_nonneg : 0 ≤ rowCost
  byteCost_nonneg : 0 ≤ byteCost

structure AdmissionDecision where
  allowed : Bool
  retryAfterMs : Int
  deriving DecidableEq, Repr

structure AdmissionBucketState where
  rowTokens : ℚ
  byteTokens : ℚ
  updatedAt : Int
  deriving DecidableEq, Repr

def refill (tokens capacity rate : ℚ) (elapsedMs : Int) : ℚ :=
  min capacity (tokens + elapsedMs * rate / 1000)

def waitMs (tokens cost rate : ℚ) : Int :=
  if tokens ≥ cost then 0
  else if rate ≤ 0 then 1000
  else ⌈(cost - tokens) / rate * 1000⌉

def initialBuckets (now : Int) (budget : IngestAdmissionBudget) : AdmissionBucketState :=
  ⟨budget.rowBurstCapacity, budget.byteBurstCapacity, now⟩

def refillBuckets (state : Option AdmissionBucketState) (now : Int)
    (budget : IngestAdmissionBudget) : AdmissionBucketState :=
  match state with
  | none => initialBuckets now budget
  | some state =>
    let elapsedMs := max 0 (now - state.updatedAt)
    { rowTokens := refill state.rowTokens budget.rowBurstCapacity budget.rowsPerSecond elapsedMs
      byteTokens := refill state.byteTokens budget.byteBurstCapacity budget.bytesPerSecond elapsedMs
      updatedAt := now }

def AdmissionCost.Free (cost : AdmissionCost) : Prop := cost.rowCost = 0 ∧ cost.byteCost = 0

instance decidableFree (cost : AdmissionCost) : Decidable cost.Free :=
  inferInstanceAs (Decidable (_ ∧ _))

def evaluateAdmission (state : Option AdmissionBucketState) (now : Int)
    (budget : IngestAdmissionBudget) (cost : AdmissionCost) :
    AdmissionDecision × AdmissionBucketState :=
  let refilled := refillBuckets state now budget
  if cost.Free then (⟨true, 0⟩, refilled)
  else if refilled.rowTokens ≥ cost.rowCost ∧ refilled.byteTokens ≥ cost.byteCost then
    (⟨true, 0⟩,
      { rowTokens := refilled.rowTokens - cost.rowCost
        byteTokens := refilled.byteTokens - cost.byteCost
        updatedAt := refilled.updatedAt })
  else
    (⟨false, max (waitMs refilled.rowTokens cost.rowCost budget.rowsPerSecond)
      (waitMs refilled.byteTokens cost.byteCost budget.bytesPerSecond)⟩,
      state.getD (initialBuckets now budget))

def shouldPersist (current : Option AdmissionBucketState) (next : AdmissionBucketState)
    (cost : AdmissionCost) : Bool :=
  if cost.Free then false else current ≠ some next

/-- A request to the object, and the reading of its clock. -/
structure Charge where
  now : Int
  cost : AdmissionCost

/-- The transaction of the object on its row. -/
def charge (budget : IngestAdmissionBudget) (current : Option AdmissionBucketState) (input : Charge) :
    AdmissionDecision × Option AdmissionBucketState :=
  let evaluated := evaluateAdmission current input.now budget input.cost
  (evaluated.1,
    if evaluated.1.allowed ∧ shouldPersist current evaluated.2 input.cost then some evaluated.2
    else current)

def gate (budget : IngestAdmissionBudget) :
    Machine (Option AdmissionBucketState) Charge AdmissionDecision :=
  ⟨none, charge budget⟩

/-! ## 2. Rows and bytes alike -/

inductive Dimension
  | rows
  | bytes
  deriving DecidableEq, Repr

namespace Dimension

def capacity (budget : IngestAdmissionBudget) : Dimension → ℚ
  | rows => budget.rowBurstCapacity
  | bytes => budget.byteBurstCapacity

def perSecond (budget : IngestAdmissionBudget) : Dimension → ℚ
  | rows => budget.rowsPerSecond
  | bytes => budget.bytesPerSecond

def tokens (state : AdmissionBucketState) : Dimension → ℚ
  | rows => state.rowTokens
  | bytes => state.byteTokens

def cost (cost : AdmissionCost) : Dimension → ℚ
  | rows => cost.rowCost
  | bytes => cost.byteCost

variable {budget : IngestAdmissionBudget} {state : AdmissionBucketState} {now : Int} (d : Dimension)

variable (budget) in
theorem capacity_pos : 0 < d.capacity budget := by
  cases d
  · exact budget.rowBurstCapacity_pos
  · exact budget.byteBurstCapacity_pos

variable (budget) in
theorem perSecond_pos : 0 < d.perSecond budget := by
  cases d
  · exact budget.rowsPerSecond_pos
  · exact budget.bytesPerSecond_pos

theorem cost_nonneg (cost : AdmissionCost) : 0 ≤ d.cost cost := by
  cases d
  · exact cost.rowCost_nonneg
  · exact cost.byteCost_nonneg

/-- Tokens flow in by the millisecond. -/
theorem tokens_refillBuckets :
    d.tokens (refillBuckets (some state) now budget) =
      TokenBucket.refill (d.capacity budget) (d.perSecond budget / 1000) (d.tokens state)
        ((max 0 (now - state.updatedAt) : Int) : ℚ) := by
  cases d <;> simp only [refillBuckets, refill, tokens, capacity, perSecond, TokenBucket.refill,
    mul_div_assoc]

theorem tokens_initialBuckets : d.tokens (refillBuckets none now budget) = d.capacity budget := by
  cases d <;> rfl

end Dimension

/-! ## 3. One charge -/

variable {budget : IngestAdmissionBudget} {current : Option AdmissionBucketState} {input : Charge}

/-- What the buckets hold when the charge is made. -/
abbrev refilled (budget : IngestAdmissionBudget) (current : Option AdmissionBucketState)
    (input : Charge) : AdmissionBucketState := refillBuckets current input.now budget

/-- **A charge** is free, or draws its cost on both buckets, or changes nothing. -/
inductive Charged (budget : IngestAdmissionBudget) (current : Option AdmissionBucketState)
    (input : Charge) : AdmissionDecision × Option AdmissionBucketState → Prop
  | free (hfree : input.cost.Free) : Charged budget current input (⟨true, 0⟩, current)
  | drawn (bucket : AdmissionBucketState) (hcost : ¬ input.cost.Free)
      (henough : ∀ d : Dimension, d.cost input.cost ≤ d.tokens (refilled budget current input))
      (htokens : ∀ d : Dimension,
        d.tokens bucket = d.tokens (refilled budget current input) - d.cost input.cost)
      (hupdated : bucket.updatedAt = input.now) :
      Charged budget current input (⟨true, 0⟩, some bucket)
  | denied (retryAfterMs : Int) (hcost : ¬ input.cost.Free)
      (hretry : ∀ d : Dimension, waitMs (d.tokens (refilled budget current input))
        (d.cost input.cost) (d.perSecond budget) ≤ retryAfterMs)
      (hnonneg : 0 ≤ retryAfterMs) :
      Charged budget current input (⟨false, retryAfterMs⟩, current)

theorem waitMs_nonneg (tokens cost rate : ℚ) : 0 ≤ waitMs tokens cost rate := by
  rw [waitMs]
  split
  · exact le_refl 0
  · next hlack =>
    split
    · decide
    · next hrate =>
      refine Int.ceil_nonneg (mul_nonneg (div_nonneg ?_ ?_) (by norm_num))
      · exact sub_nonneg.mpr (not_le.mp hlack).le
      · exact (not_le.mp hrate).le

theorem updatedAt_refilled : (refilled budget current input).updatedAt = input.now := by
  cases current <;> rfl

variable (budget current input) in
theorem charged : Charged budget current input (charge budget current input) := by
  rw [charge, evaluateAdmission]
  by_cases hfree : input.cost.Free
  · simp only [hfree, if_true, shouldPersist, Bool.false_eq_true, and_false, if_false]
    exact .free hfree
  · simp only [hfree, if_false, shouldPersist]
    split
    · next henough =>
      set bucket : AdmissionBucketState :=
        { rowTokens := (refilled budget current input).rowTokens - input.cost.rowCost
          byteTokens := (refilled budget current input).byteTokens - input.cost.byteCost
          updatedAt := (refilled budget current input).updatedAt } with hbucket
      have hnext : (if (true = true) ∧ decide (current ≠ some bucket) = true then some bucket
          else current) = some bucket := by
        by_cases hsame : current = some bucket
        · simp [hsame]
        · simp [hsame]
      rw [hnext]
      refine .drawn bucket hfree (fun d => ?_) (fun d => ?_) updatedAt_refilled
      · cases d
        · exact henough.1
        · exact henough.2
      · cases d <;> rfl
    · simp only [Bool.false_eq_true, false_and, if_false]
      refine .denied _ hfree (fun d => ?_) (le_max_of_le_left (waitMs_nonneg _ _ _))
      cases d
      · exact le_max_left _ _
      · exact le_max_right _ _

theorem unchanged_of_denied (h : (charge budget current input).1.allowed = false) :
    (charge budget current input).2 = current ∧ ¬ input.cost.Free := by
  have hcharged := charged budget current input
  generalize charge budget current input = result at hcharged h
  cases hcharged with
  | free => cases h
  | drawn => cases h
  | denied _ hcost => exact ⟨rfl, hcost⟩

/-- What the buckets hold stays within their capacity. -/
def Within (budget : IngestAdmissionBudget) (current : Option AdmissionBucketState) : Prop :=
  ∀ bucket, current = some bucket → ∀ d : Dimension,
    0 ≤ d.tokens bucket ∧ d.tokens bucket ≤ d.capacity budget

theorem refilled_le_capacity (d : Dimension) :
    d.tokens (refilled budget current input) ≤ d.capacity budget := by
  cases current with
  | none => exact d.tokens_initialBuckets.le
  | some bucket =>
    rw [d.tokens_refillBuckets]
    exact TokenBucket.refill_le_capacity

theorem Within.charge (h : Within budget current) :
    Within budget (Ingest.charge budget current input).2 := by
  have hcharged := charged budget current input
  generalize Ingest.charge budget current input = result at hcharged
  cases hcharged with
  | free => exact h
  | denied => exact h
  | drawn bucket _ henough htokens _ =>
    rintro _ ⟨⟩ d
    rw [htokens d]
    exact ⟨sub_nonneg.mpr (henough d),
      (sub_le_self _ (d.cost_nonneg _)).trans (refilled_le_capacity d)⟩

/-! ## 4. A clock that does not go back -/

/-- A charge that costs something finds a stored reading that is not later. -/
def Forward (current : Option AdmissionBucketState) (input : Charge) : Prop :=
  input.cost.Free ∨ ∀ bucket ∈ current, bucket.updatedAt ≤ input.now

variable (budget) in
/-- What flows in up to the charge. -/
theorem refilled_le (d : Dimension) {bucket : AdmissionBucketState}
    (hforward : bucket.updatedAt ≤ input.now) :
    d.tokens (refilled budget (some bucket) input) ≤
      d.tokens bucket + d.perSecond budget * (input.now - bucket.updatedAt) / 1000 := by
  rw [d.tokens_refillBuckets, max_eq_right (sub_nonneg.mpr hforward)]
  refine TokenBucket.refill_le_add.trans (le_of_eq ?_)
  push_cast
  ring

theorem cost_le_of_waitMs {tokens cost rate : ℚ} (hrate : 0 < rate) {wait : Int}
    (hwait : waitMs tokens cost rate ≤ wait) (hnonneg : 0 ≤ wait) :
    cost ≤ tokens + wait * (rate / 1000) := by
  rw [waitMs] at hwait
  split at hwait
  · next henough =>
    exact henough.trans (le_add_of_nonneg_right (mul_nonneg (by exact_mod_cast hnonneg)
      (by positivity)))
  · rw [if_neg (not_le.mpr hrate), Int.ceil_le] at hwait
    have hflow : (cost - tokens) / rate * 1000 * (rate / 1000) = cost - tokens := by
      field_simp
    have hmul := mul_le_mul_of_nonneg_right hwait (show 0 ≤ rate / 1000 by positivity)
    rw [hflow] at hmul
    linarith

/-- **A denied charge**, repeated when it was told to, is admitted. The wait is the time in which the
missing tokens flow in, rounded up; no more than the capacity is asked for, so none of what flows in
is cut off. -/
theorem retry_allowed (hforward : ∀ bucket ∈ current, bucket.updatedAt ≤ input.now)
    (hcapacity : ∀ d : Dimension, d.cost input.cost ≤ d.capacity budget)
    {retryAfterMs : Int}
    (hdenied : (Ingest.charge budget current input).1 = ⟨false, retryAfterMs⟩) :
    (Ingest.charge budget current ⟨input.now + retryAfterMs, input.cost⟩).1.allowed = true := by
  have hcharged := charged budget current input
  generalize Ingest.charge budget current input = result at hcharged hdenied
  cases hcharged with
  | free => cases hdenied
  | drawn => cases hdenied
  | denied _ hcost hretry hnonneg =>
    cases hdenied
    have henough : ∀ d : Dimension, d.cost input.cost ≤
        d.tokens (refilled budget current ⟨input.now + retryAfterMs, input.cost⟩) := by
      intro d
      cases current with
      | none => rw [d.tokens_initialBuckets]; exact hcapacity d
      | some bucket =>
        have hstored := hforward bucket rfl
        have hneeds := cost_le_of_waitMs (d.perSecond_pos budget) (hretry d) hnonneg
        rw [d.tokens_refillBuckets, max_eq_right (sub_nonneg.mpr hstored)] at hneeds
        rw [d.tokens_refillBuckets, max_eq_right (by dsimp only; omega)]
        have helapsed : ((input.now + retryAfterMs - bucket.updatedAt : Int) : ℚ) =
            ((input.now - bucket.updatedAt : Int) : ℚ) + retryAfterMs := by
          push_cast
          ring
        rw [helapsed]
        exact TokenBucket.le_refill_later (hcapacity d) hneeds
    rw [Ingest.charge, evaluateAdmission]
    dsimp only
    rw [if_neg hcost, if_pos ⟨henough .rows, henough .bytes⟩]

/-! ## 5. Runs -/

/-- What the charges were admitted of. -/
def admitted (budget : IngestAdmissionBudget) (d : Dimension) :
    Option AdmissionBucketState → List Charge → ℚ
  | _, [] => 0
  | current, input :: inputs =>
    (if ((gate budget).out current input).allowed then d.cost input.cost else 0) +
      admitted budget d ((gate budget).next current input) inputs

theorem admitted_append (d : Dimension) (before after : List Charge) :
    ∀ current, admitted budget d current (before ++ after) =
      admitted budget d current before +
        admitted budget d ((gate budget).exec current before) after := by
  induction before with
  | nil => exact fun current => (zero_add _).symm
  | cons input before ih =>
    intro current
    rw [List.cons_append, admitted, admitted, ih, add_assoc]
    rfl

def latest (inputs : List Charge) : Int := (inputs.map (·.now)).max?.getD 0

def earliest (inputs : List Charge) : Int := (inputs.map (·.now)).min?.getD 0

theorem le_latest {inputs : List Charge} (h : input ∈ inputs) : input.now ≤ latest inputs := by
  have hmem : input.now ∈ inputs.map (·.now) := List.mem_map_of_mem h
  cases hmax : (inputs.map (·.now)).max? with
  | none =>
    rw [List.max?_eq_none_iff] at hmax
    rw [hmax] at hmem
    cases hmem
  | some reading =>
    rw [latest, hmax]
    exact (List.max?_eq_some_iff.mp hmax).2 _ hmem

theorem earliest_le {inputs : List Charge} (h : input ∈ inputs) : earliest inputs ≤ input.now := by
  have hmem : input.now ∈ inputs.map (·.now) := List.mem_map_of_mem h
  cases hmin : (inputs.map (·.now)).min? with
  | none =>
    rw [List.min?_eq_none_iff] at hmin
    rw [hmin] at hmem
    cases hmem
  | some reading =>
    rw [earliest, hmin]
    exact (List.min?_eq_some_iff.mp hmin).2 _ hmem

/-- What is admitted of the dimension, and what is left, has flowed in since a first charge. -/
inductive Accounted (budget : IngestAdmissionBudget) (d : Dimension) (inputs : List Charge) :
    Option AdmissionBucketState → Prop
  | fresh (hnone : admitted budget d none inputs = 0) : Accounted budget d inputs none
  | since (first last : Charge) (hfirst : first ∈ inputs) (hlast : last ∈ inputs)
      (bucket : AdmissionBucketState) (hupdated : bucket.updatedAt = last.now)
      (htotal : admitted budget d none inputs + d.tokens bucket ≤
        d.capacity budget + d.perSecond budget * (last.now - first.now) / 1000) :
      Accounted budget d inputs (some bucket)

/-- **One charge** is accounted for: what it costs leaves the bucket, what has flowed in since the
last reading is at most the rate times the time that has passed, and the reading becomes the last one. -/
theorem Accounted.snoc {d : Dimension} {inputs : List Charge}
    (h : Accounted budget d inputs ((gate budget).run inputs))
    (hforward : Forward ((gate budget).run inputs) input) :
    Accounted budget d (inputs ++ [input]) ((gate budget).run (inputs ++ [input])) := by
  have hsum : admitted budget d none (inputs ++ [input]) = admitted budget d none inputs +
      (if ((gate budget).out ((gate budget).run inputs) input).allowed then d.cost input.cost
        else 0) := by
    rw [admitted_append, admitted, admitted, add_zero]
    rfl
  rw [Machine.run_concat]
  have hcharged := charged budget ((gate budget).run inputs) input
  change Charged budget _ input ((gate budget).step ((gate budget).run inputs) input) at hcharged
  rw [Machine.out] at hsum
  rw [Machine.next]
  generalize (gate budget).step ((gate budget).run inputs) input = result at hsum hcharged
  have hkept : admitted budget d none (inputs ++ [input]) = admitted budget d none inputs →
      Accounted budget d (inputs ++ [input]) ((gate budget).run inputs) := by
    intro hsame
    generalize (gate budget).run inputs = current at h
    cases h with
    | fresh hnone => exact .fresh (hsame.trans hnone)
    | since first last hfirst hlast bucket hupdated htotal =>
      exact .since first last (List.mem_append_left _ hfirst) (List.mem_append_left _ hlast) bucket
        hupdated (hsame ▸ htotal)
  cases hcharged with
  | free hfree =>
    refine hkept (hsum.trans ?_)
    rw [if_pos rfl]
    cases d
    · exact (congrArg _ hfree.1).trans (add_zero _)
    · exact (congrArg _ hfree.2).trans (add_zero _)
  | denied => exact hkept (hsum.trans (add_zero _))
  | drawn bucket hcost henough htokens hupdated =>
    have hforward := hforward.resolve_left hcost
    have hspent : admitted budget d none (inputs ++ [input]) + d.tokens bucket =
        admitted budget d none inputs +
          d.tokens (refilled budget ((gate budget).run inputs) input) := by
      rw [hsum, if_pos rfl, htokens d]
      ring
    have hinput : input ∈ inputs ++ [input] := List.mem_append_right _ (List.mem_singleton_self _)
    generalize (gate budget).run inputs = current at h hforward hspent
    cases h with
    | fresh hnone =>
      refine .since input input hinput hinput bucket hupdated ?_
      rw [hspent, hnone, d.tokens_initialBuckets]
      simp
    | since first last hfirst hlast stored hstored htotal =>
      refine .since first input (List.mem_append_left _ hfirst) hinput bucket hupdated ?_
      rw [hspent]
      have hflow := refilled_le budget d (hforward stored rfl)
      rw [hstored] at hflow
      have hsplit : d.perSecond budget * ((input.now : ℚ) - first.now) / 1000 =
          d.perSecond budget * ((last.now : ℚ) - first.now) / 1000 +
            d.perSecond budget * ((input.now : ℚ) - last.now) / 1000 := by ring
      linarith

theorem accounted_run {inputs : List Charge} (d : Dimension)
    (h : (gate budget).Guarded Forward none inputs) :
    Accounted budget d inputs ((gate budget).run inputs) := by
  induction inputs using List.reverseRecOn with
  | nil => exact .fresh rfl
  | append_singleton inputs input ih =>
    rw [Machine.guarded_append] at h
    exact (ih h.1).snoc h.2.1

/-- **The budget** of the first charges of a run. What was admitted and what is still held come to the
burst and what has flowed in, and a bucket never holds less than nothing. -/
theorem admitted_le {inputs : List Charge} (d : Dimension)
    (h : (gate budget).Guarded Forward none inputs) :
    admitted budget d none inputs ≤
      d.capacity budget + d.perSecond budget * (latest inputs - earliest inputs) / 1000 := by
  have hwithin : Within budget ((gate budget).run inputs) :=
    (gate budget).exec_invariant (fun _ _ hwithin => hwithin.charge)
      (fun bucket hbucket => (by cases hbucket)) inputs
  have haccounted := accounted_run d h
  generalize (gate budget).run inputs = current at haccounted hwithin
  cases haccounted with
  | fresh hnone =>
    rw [hnone]
    have hspan : earliest inputs ≤ latest inputs := by
      cases inputs with
      | nil => exact le_refl 0
      | cons input inputs =>
        exact (earliest_le (List.mem_cons_self ..)).trans (le_latest (List.mem_cons_self ..))
    have hspan' : (0 : ℚ) ≤ (latest inputs : ℚ) - earliest inputs :=
      sub_nonneg.mpr (by exact_mod_cast hspan)
    have hcapacity := d.capacity_pos budget
    have hrate := d.perSecond_pos budget
    positivity
  | since first last hfirst hlast bucket _ htotal =>
    have hheld := (hwithin bucket rfl d).1
    have hrate := d.perSecond_pos budget
    have hspan : ((last.now : ℚ) - first.now) ≤ latest inputs - earliest inputs := by
      have hlate : (last.now : ℚ) ≤ latest inputs := by exact_mod_cast le_latest hlast
      have hearly : (earliest inputs : ℚ) ≤ first.now := by exact_mod_cast earliest_le hfirst
      linarith
    have hflow : d.perSecond budget * ((last.now : ℚ) - first.now) / 1000 ≤
        d.perSecond budget * (latest inputs - earliest inputs) / 1000 := by gcongr
    linarith

/-- **Admission stays within its budget** in every run in which a charge that costs something is made at a
reading no earlier than the stored one: what is admitted is at most the burst and what flows in between
the earliest and the latest reading; buckets hold between nothing and their capacity; a denied charge
leaves them as they are, and is admitted when it is repeated after the time it was told. -/
theorem admission_within_budget (budget : IngestAdmissionBudget) {inputs : List Charge}
    (h : (gate budget).Guarded Forward none inputs) :
    (∀ d : Dimension, admitted budget d none inputs ≤
      d.capacity budget + d.perSecond budget * (latest inputs - earliest inputs) / 1000) ∧
    Within budget ((gate budget).run inputs) ∧
    ∀ before input, before ++ [input] <+: inputs →
      ((gate budget).out ((gate budget).run before) input).allowed = false →
        (gate budget).run (before ++ [input]) = (gate budget).run before ∧
        ((∀ d : Dimension, d.cost input.cost ≤ d.capacity budget) →
          ((gate budget).out ((gate budget).run (before ++ [input]))
            ⟨input.now + ((gate budget).out ((gate budget).run before) input).retryAfterMs,
              input.cost⟩).allowed = true) := by
  refine ⟨fun d => admitted_le d h, ?_, fun before input hprefix hdenied => ?_⟩
  · exact (gate budget).exec_invariant (fun _ _ hwithin => hwithin.charge)
      (fun bucket hbucket => (by cases hbucket)) inputs
  · have hguarded := h
    rw [Machine.guarded_iff_prefix] at hguarded
    have hforward := hguarded before input hprefix
    rw [Machine.run_concat]
    change ((charge budget ((gate budget).run before) input).1).allowed = false at hdenied
    change (charge budget ((gate budget).run before) input).2 = _ ∧ (_ →
      (charge budget (charge budget ((gate budget).run before) input).2
        ⟨input.now + (charge budget ((gate budget).run before) input).1.retryAfterMs,
          input.cost⟩).1.allowed = true)
    change Forward ((gate budget).run before) input at hforward
    generalize (gate budget).run before = current at hforward hdenied
    obtain ⟨hkept, hcost⟩ := unchanged_of_denied hdenied
    refine ⟨hkept, fun hcapacity => ?_⟩
    rw [hkept]
    refine retry_allowed (hforward.resolve_left hcost) hcapacity ?_
    rw [← hdenied]

instance decidableForward (current : Option AdmissionBucketState) (input : Charge) :
    Decidable (Forward current input) :=
  match current with
  | none => isTrue (.inr fun _ h => (by cases h))
  | some bucket => decidable_of_iff (input.cost.Free ∨ bucket.updatedAt ≤ input.now) (by
      simp [Forward])

def smallBudget : IngestAdmissionBudget where
  rowsPerSecond := 1000
  rowBurstCapacity := 10
  bytesPerSecond := 1000
  byteBurstCapacity := 10
  rowsPerSecond_pos := by norm_num
  rowBurstCapacity_pos := by norm_num
  bytesPerSecond_pos := by norm_num
  byteBurstCapacity_pos := by norm_num

def tenRows : AdmissionCost := ⟨10, 0, by norm_num, by norm_num⟩

def oneByte : AdmissionCost := ⟨0, 1, by norm_num, by norm_num⟩

/-- A charge that is denied at 4 ms, and told to wait for 6. -/
theorem admission_within_budget_retried :
    admitted smallBudget .rows none [⟨0, tenRows⟩, ⟨4, tenRows⟩] ≤ 14 ∧
    ((gate smallBudget).out ((gate smallBudget).run [⟨0, tenRows⟩, ⟨4, tenRows⟩])
      ⟨4 + 6, tenRows⟩).allowed = true := by
  obtain ⟨hbudget, -, hretry⟩ := admission_within_budget smallBudget
    (show (gate smallBudget).Guarded Forward none [⟨0, tenRows⟩, ⟨4, tenRows⟩] by decide +kernel)
  have hrows := hbudget .rows
  have hagain := (hretry [⟨0, tenRows⟩] ⟨4, tenRows⟩ (List.prefix_refl _) (by decide +kernel)).2
    fun d => (by cases d <;> decide +kernel)
  rw [show ((gate smallBudget).out ((gate smallBudget).run [⟨0, tenRows⟩])
    ⟨4, tenRows⟩).retryAfterMs = 6 by decide +kernel] at hagain
  refine ⟨hrows.trans ?_, hagain⟩
  decide +kernel

/-! ## 6. A clock that steps back and forth -/

def stepping : List Charge := [⟨10, tenRows⟩, ⟨0, oneByte⟩, ⟨10, tenRows⟩, ⟨0, oneByte⟩, ⟨10, tenRows⟩]

/-- Thirty rows in ten milliseconds, of a burst of ten and a row per millisecond. -/
theorem clock_steps_exceed_budget :
    ¬ (∀ (budget : IngestAdmissionBudget) (inputs : List Charge),
      admitted budget .rows none inputs ≤ budget.rowBurstCapacity +
        budget.rowsPerSecond * (latest inputs - earliest inputs) / 1000) := by
  intro h
  have hrows := h smallBudget stepping
  revert hrows
  decide +kernel

end Ingest

end Splitch
