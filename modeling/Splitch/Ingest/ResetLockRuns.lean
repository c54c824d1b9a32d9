/-
# Runs of the lock

Deliveries share the lock and resets have it alone.  Over every run of calls, turns and settling operations,
it is shown what excludes what, that no call starts twice, and that the lock comes to rest free.

**What starts.**  An operation is started in a step that takes its call from waiting to reading or writing.
What lets a shared call start, and an exclusive one, is read off what a step may do (`starts_shared`,
`starts_exclusive`).  A stage has a rank that never falls, and a start raises it from one to two, so a run
starts no call twice (`Run.starts_once`).

**Where nothing continues.**  Turns and settling operations continue, while calls are new.  A lock from which
nothing continues is free: a reader that is let in can settle, a writer that waits can go on once the one
before it is over, and the first of them has none before it (`Inv.free`).

**That it ends.**  No lock continues forever without new calls (`continues_ends`).  This rests on a count of
what the calls may still do.  It is not plain that a turn lowers it, since a reader that is woken may have to
wait again, and a writer that drains may have to drain again.  But a reader has to wait once more only for a
LATER writer, and a writer takes a new snapshot only of fewer readers, as no reader is let in while a writer
is pending.
-/
import Splitch.Ingest.ResetSections
import Mathlib.Algebra.Order.BigOperators.Group.Finset
import Mathlib.Order.WellFounded
import Mathlib.Tactic.IntervalCases

namespace Splitch

namespace ResetLock

variable {lock lock' : Lock} {n m : Nat} {stage' : Stage}

/-! ## 1. What starts -/

/-- The operation of `n` is started in this step. -/
def Starts (lock lock' : Lock) (n : Nat) : Prop :=
  (lock.stage n).rank ≤ 1 ∧ 2 ≤ (lock'.stage n).rank

instance decidableStarts (lock lock' : Lock) (n : Nat) : Decidable (Starts lock lock' n) :=
  inferInstanceAs (Decidable (_ ∧ _))

theorem Stage.rank_of_outShared {stage : Stage} (h : stage.outShared = true) : stage.rank ≤ 1 := by
  cases stage <;> first | exact Nat.zero_le _ | exact le_refl _ | cases h

theorem Stage.rank_of_waits {stage : Stage} (h : stage.waits = true) : stage.rank = 1 := by
  cases stage <;> first | rfl | cases h

/-- No call goes back. -/
theorem Becomes.rank_le (h : Becomes lock n stage') : (lock.stage n).rank ≤ stage'.rank := by
  cases h with
  | awaits hout => exact Stage.rank_of_outShared hout
  | reads hout _ throws =>
    refine (Stage.rank_of_outShared hout).trans ?_
    cases throws <;> decide
  | readSettles hreads => rw [hreads]; decide
  | readEnds hsettled => rw [hsettled]; decide
  | queues habsent promise => rw [habsent]; exact Nat.zero_le _
  | drains hwaits => exact (Stage.rank_of_waits hwaits).le
  | writes hwaits _ _ throws =>
    rw [Stage.rank_of_waits hwaits]
    cases throws <;> decide
  | writeSettles hwrites => rw [hwrites]; decide
  | writeEnds hsettled => rw [hsettled]; decide

/-- **Every step** leaves every call where it is, or takes it further. -/
theorem rank_step (h : Inv lock) (hstep : Step lock lock') (n : Nat) :
    (lock.stage n).rank ≤ (lock'.stage n).rank := by
  obtain ⟨m, stage', hstage, hbecomes⟩ := changes_step h hstep
  rw [hstage]
  by_cases hn : n = m
  · rw [hn, Function.update_self]
    exact hbecomes.rank_le
  · rw [Function.update_of_ne hn]

/-- The call that starts is the one the step is about. -/
theorem Starts.becomes (h : Inv lock) (hstep : Step lock lock') (hstarts : Starts lock lock' n) :
    Becomes lock n (lock'.stage n) := by
  obtain ⟨m, stage', hstage, hbecomes⟩ := changes_step h hstep
  by_cases hn : n = m
  · subst hn
    rwa [hstage, Function.update_self]
  · have hrank := hstarts.2
    rw [hstage, Function.update_of_ne hn] at hrank
    exact absurd (hrank.trans hstarts.1) (by decide)

/-- A shared call starts where no exclusive call waits or runs. -/
theorem starts_shared (h : Inv lock) (hstep : Step lock lock') (hstarts : Starts lock lock' n)
    (hshared : (lock'.stage n).exclusive = false) (hm : (lock.stage m).exclusive = true) :
    lock.stage m = .writeDone := by
  have hbecomes := hstarts.becomes h hstep
  obtain ⟨hbefore, hafter⟩ := hstarts
  generalize lock'.stage n = stage' at hbecomes hafter hshared
  cases hbecomes with
  | awaits hout => exact absurd hafter (Nat.not_succ_le_self 1)
  | reads hout hfree throws => exact h.done_of_writers hfree hm
  | readSettles hreads => rw [hreads] at hbefore; exact absurd hbefore (by decide)
  | readEnds hsettled => rw [hsettled] at hbefore; exact absurd hbefore (by decide)
  | writes hwaits hempty hearlier throws => cases throws <;> cases hshared
  | _ => cases hshared

theorem Stage.not_inExclusive_of_waits {stage : Stage} (h : stage.waits = true) :
    stage.inExclusive = false := by
  cases stage <;> first | rfl | cases h

/-- An exclusive call starts after the earlier ones, where no call is in a section. -/
theorem starts_exclusive (h : Inv lock) (hstep : Step lock lock') (hstarts : Starts lock lock' n)
    (hexclusive : (lock'.stage n).exclusive = true) :
    (∀ m < n, (lock.stage m).exclusive = true → lock.stage m = .writeDone) ∧
      ∀ m, (lock.stage m).inShared = false ∧ (lock.stage m).inExclusive = false := by
  have hbecomes := hstarts.becomes h hstep
  obtain ⟨hbefore, hafter⟩ := hstarts
  generalize lock'.stage n = stage' at hbecomes hafter hexclusive
  cases hbecomes with
  | reads hout hfree throws => cases throws <;> cases hexclusive
  | queues habsent promise => exact absurd hafter (Nat.not_succ_le_self 1)
  | drains hwaits => exact absurd hafter (Nat.not_succ_le_self 1)
  | writes hwaits hempty hearlier throws =>
    refine ⟨hearlier, fun m => ⟨?_, ?_⟩⟩
    · rw [← Bool.not_eq_true, ← h.readers, hempty]
      exact Finset.notMem_empty m
    · rw [← Bool.not_eq_true]
      intro hin
      have hkind : (lock.stage n).exclusive = true := by
        cases hstage : lock.stage n <;> first | rfl | (rw [hstage] at hwaits; cases hwaits)
      rcases Nat.lt_trichotomy m n with hlt | rfl | hlt
      · rw [hearlier m hlt (Stage.exclusive_of_pending (Stage.pending_of_inExclusive hin))] at hin
        cases hin
      · rw [Stage.not_inExclusive_of_waits hwaits] at hin
        cases hin
      · have hdone := h.order m (Stage.past_of_inExclusive hin) n hlt hkind
        rw [hdone] at hwaits
        cases hwaits
  | writeSettles hwrites => rw [hwrites] at hbefore; exact absurd hbefore (by decide)
  | writeEnds hsettled => rw [hsettled] at hbefore; exact absurd hbefore (by decide)
  | _ => cases hexclusive

/-- **An exclusive section is alone.** Of two exclusive calls the later one is in its section only
when the earlier one is over; and a shared call in its section would be among the readers, of which
there are none. -/
theorem Inv.section_alone (h : Inv lock) (hn : (lock.stage n).inExclusive = true) (hne : m ≠ n) :
    (lock.stage m).inShared = false ∧ (lock.stage m).inExclusive = false := by
  refine ⟨?_, ?_⟩
  · rw [← Bool.not_eq_true, ← h.readers, h.alone n hn]
    exact Finset.notMem_empty m
  · rw [← Bool.not_eq_true]
    intro hm
    have hdone : ∀ {i j}, (lock.stage i).inExclusive = true → (lock.stage j).inExclusive = true →
        ¬ i < j := by
      intro i j hi hj hlt
      have hover := h.order j (Stage.past_of_inExclusive hj) i hlt
        (Stage.exclusive_of_pending (Stage.pending_of_inExclusive hi))
      rw [hover] at hi
      cases hi
    rcases Nat.lt_or_gt_of_ne hne with hlt | hlt
    · exact hdone hm hn hlt
    · exact hdone hn hm hlt

/-! ## 2. A lock from which nothing continues -/

/-- An operation settles, or the turn of a call changes something.  No call is made. -/
inductive Continues (lock lock' : Lock) : Prop
  | settle (n : Nat) (h : lock.settle n = some lock')
  | turn (n : Nat) (throws : Bool) (h : lock.turn n throws = some lock') (hchanges : lock' ≠ lock)

theorem Continues.step (h : Continues lock lock') : Step lock lock' := by
  cases h with
  | settle n hsettle => exact .settle n hsettle
  | turn n throws hturn _ => exact .turn n throws hturn

/-- A turn that takes a call to another stage is there to be taken. -/
theorem continues_of_turn {throws : Bool} (hturn : lock.turn n throws = some lock')
    (hstage : lock'.stage n ≠ lock.stage n) : ∃ lock', Continues lock lock' :=
  ⟨lock', .turn n throws hturn fun heq => hstage (by rw [heq])⟩

section Rest

variable (h : Inv lock) (hrest : ∀ lock', ¬ Continues lock lock')
include h hrest

theorem Inv.rest_readers : lock.readers = ∅ := by
  refine Finset.eq_empty_of_forall_notMem fun n hn => ?_
  rw [h.readers] at hn
  cases hstage : lock.stage n with
  | reading =>
    exact hrest (lock.put n .readSettled) (.settle n (by rw [Lock.settle, hstage]))
  | readSettled =>
    have hturn : lock.turn n false =
        some { lock.put n .readDone with readers := lock.readers.erase n } := by
      rw [Lock.turn, hstage]
    obtain ⟨lock', hcontinues⟩ := continues_of_turn hturn (by simp [Lock.put, hstage])
    exact hrest lock' hcontinues
  | _ =>
    rw [hstage] at hn
    cases hn

/-- A writer whose turn has come would start. -/
theorem Inv.rest_checkReaders (hwaits : (lock.stage n).waits = true)
    (hturn : lock.turn n false = some (lock.checkReaders n false)) : False := by
  have hempty : ¬ lock.readers.card > 0 := by
    rw [h.rest_readers hrest]
    exact lt_irrefl 0
  have hwrites : lock.checkReaders n false = lock.put n .writing := by
    rw [Lock.checkReaders, if_neg hempty]
    rfl
  rw [hwrites] at hturn
  obtain ⟨lock', hcontinues⟩ := continues_of_turn hturn <| by
    intro heq
    rw [← heq] at hwaits
    simp [Lock.put, Stage.waits] at hwaits
  exact hrest lock' hcontinues

theorem Inv.rest_writers (n : Nat) (hn : (lock.stage n).exclusive = true) :
    lock.stage n = .writeDone := by
  -- the least exclusive call that is not over has its turn
  induction n using Nat.strong_induction_on with
  | _ n ih =>
  cases hstage : lock.stage n with
  | writerWaiting earlier =>
    have hlatest := h.earlier n earlier hstage
    have hresolved : lock.Resolved earlier := by
      cases earlier with
      | none => trivial
      | some w => exact ih w hlatest.1 hlatest.2.1
    refine (h.rest_checkReaders hrest (n := n) (by rw [hstage]; rfl) ?_).elim
    rw [Lock.turn, hstage]
    exact if_pos hresolved
  | draining snapshot =>
    have hsettled : ∀ m ∈ snapshot, lock.Settled m := by
      intro m hm
      have hletIn := (h.drain n snapshot hstage).2 m hm
      have hout : m ∉ lock.readers := by
        rw [h.rest_readers hrest]
        exact Finset.notMem_empty m
      rw [h.readers] at hout
      rw [Lock.Settled]
      cases hstage' : lock.stage m <;> rw [hstage'] at hletIn hout <;>
        first | exact .inr rfl | exact absurd rfl hout | cases hletIn
    refine (h.rest_checkReaders hrest (n := n) (by rw [hstage]; rfl) ?_).elim
    rw [Lock.turn, hstage]
    exact if_pos hsettled
  | writing =>
    exact (hrest (lock.put n .writeSettled) (.settle n (by rw [Lock.settle, hstage]))).elim
  | writeSettled =>
    have hturn : lock.turn n false = some (lock.release n) := by rw [Lock.turn, hstage]
    obtain ⟨lock', hcontinues⟩ := continues_of_turn hturn (by simp [Lock.release, Lock.put, hstage])
    exact (hrest lock' hcontinues).elim
  | writeDone => rfl
  | _ =>
    rw [hstage] at hn
    cases hn

/-- **At rest the lock is free**, and every call is over. An exclusive call that is not over waits for
an earlier one, so the first of them could go on; with none left, no shared call has anything to wait
for. -/
theorem Inv.free : lock.writers = 0 ∧ lock.readers = ∅ ∧
    ∀ n < lock.calls, lock.stage n = .readDone ∨ lock.stage n = .writeDone := by
  have hwriters : lock.writers = 0 := by
    rw [h.writers, Finset.card_eq_zero]
    refine Finset.filter_eq_empty_iff.mpr fun n _ hpending => ?_
    rw [h.rest_writers hrest n (Stage.exclusive_of_pending hpending)] at hpending
    cases hpending
  refine ⟨hwriters, h.rest_readers hrest, fun n hn => ?_⟩
  cases hkind : (lock.stage n).exclusive with
  | true => exact .inr (h.rest_writers hrest n hkind)
  | false =>
    have hout : n ∉ lock.readers := by
      rw [h.rest_readers hrest]
      exact Finset.notMem_empty n
    rw [h.readers] at hout
    cases hstage : lock.stage n with
    | absent => exact absurd ((h.absent n).mp hstage) (not_le.mpr hn)
    | readerWaiting awaited =>
      have hresolved : lock.Resolved awaited := by
        cases awaited with
        | none => trivial
        | some w => exact h.rest_writers hrest w (h.awaited n w hstage)
      have hreads : lock.checkWriters n false =
          { lock.put n .reading with readers := insert n lock.readers } := by
        rw [Lock.checkWriters, if_neg (by rw [hwriters]; exact lt_irrefl 0)]
        rfl
      have hturn : lock.turn n false = some (lock.checkWriters n false) := by
        rw [Lock.turn, hstage]
        exact if_pos hresolved
      rw [hreads] at hturn
      obtain ⟨lock', hcontinues⟩ := continues_of_turn hturn (by simp [Lock.put, hstage])
      exact (hrest lock' hcontinues).elim
    | readDone => exact .inl rfl
    | _ =>
      rw [hstage] at hout hkind
      first | exact absurd rfl hout | cases hkind

end Rest

/-! ## 3. A lock that continues comes to rest -/

/-- What a call may still do without new calls, at most. -/
def Stage.cost (queue : Option Nat) (calls : Nat) : Stage → Nat
  | .absent => 0
  | .readerWaiting awaited => if awaited = queue then 3 else 4
  | .reading => 2
  | .readSettled => 1
  | .readDone => 0
  | .writerWaiting _ => 4 + calls
  | .draining snapshot => 3 + snapshot.card
  | .writing => 2
  | .writeSettled => 1
  | .writeDone => 0

def Lock.cost (lock : Lock) : Nat :=
  ∑ n ∈ Finset.range lock.calls, (lock.stage n).cost lock.writerQueue lock.calls

theorem Inv.card_readers (h : Inv lock) : lock.readers.card ≤ lock.calls := by
  rw [← Finset.card_range lock.calls]
  refine Finset.card_le_card fun n hn => Finset.mem_range.mpr (h.lt fun habsent => ?_)
  rw [h.readers, habsent] at hn
  cases hn

/-- A call that goes on has less to do. -/
theorem Becomes.cost_lt (h : Inv lock) (hbecomes : Becomes lock n stage')
    (hpresent : lock.stage n ≠ .absent) (hne : stage' ≠ lock.stage n) :
    stage'.cost lock.writerQueue lock.calls < (lock.stage n).cost lock.writerQueue lock.calls := by
  cases hbecomes with
  | awaits hout =>
    cases hstage : lock.stage n with
    | absent => exact absurd hstage hpresent
    | readerWaiting awaited =>
      rw [hstage] at hne
      have hlater : awaited ≠ lock.writerQueue := fun heq => hne (by rw [heq])
      rw [Stage.cost, Stage.cost, if_pos rfl, if_neg hlater]
      exact Nat.lt_succ_self 3
    | _ =>
      rw [hstage] at hout
      cases hout
  | reads hout hfree throws =>
    have hcost : (if throws then Stage.readDone else Stage.reading).cost lock.writerQueue
        lock.calls ≤ 2 := by cases throws <;> simp [Stage.cost]
    refine hcost.trans_lt ?_
    cases hstage : lock.stage n with
    | absent => exact absurd hstage hpresent
    | readerWaiting awaited =>
      rw [Stage.cost]
      split <;> decide
    | _ =>
      rw [hstage] at hout
      cases hout
  | readSettles hreads => rw [hreads]; exact Nat.lt_succ_self 1
  | readEnds hsettled => rw [hsettled]; exact Nat.lt_succ_self 0
  | queues habsent promise => exact absurd habsent hpresent
  | drains hwaits =>
    cases hstage : lock.stage n with
    | writerWaiting earlier =>
      have hcard := h.card_readers
      simp only [Stage.cost]
      omega
    | draining snapshot =>
      -- the readers of the snapshot that are left, and no others
      have hsub : lock.readers ⊂ snapshot := by
        refine (h.drain n snapshot hstage).1.ssubset_of_ne fun heq => hne ?_
        rw [hstage, heq]
      have hcard := Finset.card_lt_card hsub
      simp only [Stage.cost]
      omega
    | _ =>
      rw [hstage] at hwaits
      cases hwaits
  | writes hwaits hempty hearlier throws =>
    have hcost : (if throws then Stage.writeDone else Stage.writing).cost lock.writerQueue
        lock.calls ≤ 2 := by cases throws <;> simp [Stage.cost]
    refine hcost.trans_lt ?_
    cases hstage : lock.stage n with
    | writerWaiting earlier => simp only [Stage.cost]; omega
    | draining snapshot => simp only [Stage.cost]; omega
    | _ =>
      rw [hstage] at hwaits
      cases hwaits
  | writeSettles hwrites => rw [hwrites]; exact Nat.lt_succ_self 1
  | writeEnds hsettled => rw [hsettled]; exact Nat.lt_succ_self 0

/-- What no settlement and no turn touches. -/
def Keeps (lock lock' : Lock) : Prop :=
  lock'.calls = lock.calls ∧ lock'.writerQueue = lock.writerQueue

theorem keeps_checkWriters (lock : Lock) (n : Nat) (throws : Bool) :
    Keeps lock (lock.checkWriters n throws) := by
  rw [Lock.checkWriters]
  split_ifs <;> exact ⟨rfl, rfl⟩

theorem keeps_checkReaders (lock : Lock) (n : Nat) (throws : Bool) :
    Keeps lock (lock.checkReaders n throws) := by
  rw [Lock.checkReaders]
  split_ifs <;> exact ⟨rfl, rfl⟩

theorem keeps_turn {throws : Bool} (hturn : lock.turn n throws = some lock') : Keeps lock lock' := by
  rw [Lock.turn] at hturn
  cases hstage : lock.stage n with
  | readerWaiting awaited =>
    simp only [hstage, Option.ite_none_right_eq_some, Option.some_inj] at hturn
    exact hturn.2 ▸ keeps_checkWriters lock n throws
  | readSettled =>
    simp only [hstage, Option.some_inj] at hturn
    exact hturn ▸ ⟨rfl, rfl⟩
  | writerWaiting earlier =>
    simp only [hstage, Option.ite_none_right_eq_some, Option.some_inj] at hturn
    exact hturn.2 ▸ keeps_checkReaders lock n throws
  | draining snapshot =>
    simp only [hstage, Option.ite_none_right_eq_some, Option.some_inj] at hturn
    exact hturn.2 ▸ keeps_checkReaders lock n throws
  | writeSettled =>
    simp only [hstage, Option.some_inj] at hturn
    exact hturn ▸ ⟨rfl, rfl⟩
  | _ => simp [hstage] at hturn

theorem keeps_settle (hsettle : lock.settle n = some lock') : Keeps lock lock' := by
  rw [Lock.settle] at hsettle
  cases hstage : lock.stage n with
  | reading =>
    simp only [hstage, Option.some_inj] at hsettle
    exact hsettle ▸ ⟨rfl, rfl⟩
  | writing =>
    simp only [hstage, Option.some_inj] at hsettle
    exact hsettle ▸ ⟨rfl, rfl⟩
  | _ => simp [hstage] at hsettle

/-- The stages of the calls tell the rest of the lock. -/
theorem Inv.eq_of_stage (h : Inv lock) (h' : Inv lock') (hkeeps : Keeps lock lock')
    (hstage : lock'.stage = lock.stage) : lock' = lock := by
  obtain ⟨hcalls, hqueue⟩ := hkeeps
  have hreaders : lock'.readers = lock.readers := by
    ext n
    rw [h'.readers, h.readers, hstage]
  have hwriters : lock'.writers = lock.writers := by rw [h'.writers, h.writers, hcalls, hstage]
  cases lock
  cases lock'
  simp_all

theorem turn_present {throws : Bool} (hturn : lock.turn n throws = some lock') :
    lock.stage n ≠ .absent := by
  intro habsent
  rw [Lock.turn, habsent] at hturn
  cases hturn

theorem settle_present (hsettle : lock.settle n = some lock') : lock.stage n ≠ .absent := by
  intro habsent
  rw [Lock.settle, habsent] at hsettle
  cases hsettle

/-- What continues changes one call, and leaves it less to do. -/
theorem Continues.changes (h : Inv lock) (hcontinues : Continues lock lock') :
    Keeps lock lock' ∧ ∃ n stage', Changes lock lock' n stage' ∧ lock.stage n ≠ .absent ∧
      stage' ≠ lock.stage n := by
  have h' := inv_step h hcontinues.step
  have hmoves : ∀ {n stage'}, Keeps lock lock' → lock' ≠ lock → Changes lock lock' n stage' →
      stage' ≠ lock.stage n := by
    rintro n stage' hkeeps hne ⟨hstage, -⟩ rfl
    rw [Function.update_eq_self] at hstage
    exact hne (h.eq_of_stage h' hkeeps hstage)
  cases hcontinues with
  | settle n hsettle =>
    obtain ⟨stage', hchanges⟩ := changes_settle hsettle
    refine ⟨keeps_settle hsettle, n, stage', hchanges, settle_present hsettle, ?_⟩
    refine hmoves (keeps_settle hsettle) ?_ hchanges
    rintro rfl
    rw [Lock.settle] at hsettle
    split at hsettle <;> simp only [Option.some_inj, reduceCtorEq] at hsettle
    all_goals
      next hstage =>
        have hself := congrArg (fun lock : Lock => lock.stage n) hsettle
        simp [Lock.put, hstage] at hself
  | turn n throws hturn hne =>
    obtain ⟨stage', hchanges⟩ := changes_turn h hturn
    exact ⟨keeps_turn hturn, n, stage', hchanges, turn_present hturn,
      hmoves (keeps_turn hturn) hne hchanges⟩

theorem Continues.cost_lt (h : Inv lock) (hcontinues : Continues lock lock') :
    lock'.cost < lock.cost := by
  obtain ⟨⟨hcalls, hqueue⟩, n, stage', ⟨hstage, hbecomes⟩, hpresent, hne⟩ := hcontinues.changes h
  have hlt := hbecomes.cost_lt h hpresent hne
  rw [Lock.cost, Lock.cost, hcalls, hqueue, hstage]
  refine Finset.sum_lt_sum (fun m _ => ?_) ⟨n, Finset.mem_range.mpr (h.lt hpresent), ?_⟩
  · by_cases hm : m = n
    · rw [hm, Function.update_self]
      exact hlt.le
    · rw [Function.update_of_ne hm]
  · rwa [Function.update_self]

/-- **Without new calls** no lock continues forever. -/
theorem continues_ends (h : Inv lock) (after : Nat → Lock) (hstart : after 0 = lock) :
    ∃ i, ¬ Continues (after i) (after (i + 1)) := by
  by_contra hforever
  push Not at hforever
  have hinv : ∀ i, Inv (after i) := by
    intro i
    induction i with
    | zero => rwa [hstart]
    | succ i ih => exact inv_step ih (hforever i).step
  obtain ⟨i, hi⟩ := WellFounded.not_rel_apply_succ (r := (· < ·)) fun i => (after i).cost
  exact hi ((hforever i).cost_lt (hinv i))

/-! ## 4. Runs -/

/-- The first `k` steps of a lock. -/
structure Run (run : Nat → Lock) (k : Nat) : Prop where
  start : run 0 = .start
  step : ∀ i < k, Step (run i) (run (i + 1))

variable {run : Nat → Lock} {k : Nat}

theorem Run.inv (hrun : Run run k) : ∀ i ≤ k, Inv (run i) := by
  intro i hi
  induction i with
  | zero => exact hrun.start ▸ inv_start
  | succ i ih => exact inv_step (ih (Nat.le_of_succ_le hi)) (hrun.step i hi)

/-- A run starts a call once, and the ones that still wait not at all. -/
theorem Run.starts_once (hrun : Run run k) (n : Nat) :
    ((Finset.range k).filter fun i => Starts (run i) (run (i + 1)) n).card =
      if ((run k).stage n).rank ≤ 1 then 0 else 1 := by
  induction k with
  | zero =>
    have hrank : ((run 0).stage n).rank = 0 := by rw [hrun.start]; rfl
    rw [if_pos (hrank.le.trans (Nat.zero_le 1))]
    rfl
  | succ k ih =>
    have hbefore : Run run k := ⟨hrun.start, fun i hi => hrun.step i (Nat.lt_succ_of_lt hi)⟩
    have hmono := rank_step (hrun.inv k (Nat.le_succ k)) (hrun.step k (Nat.lt_succ_self k)) n
    rw [Finset.range_add_one, Finset.filter_insert]
    by_cases hstarts : Starts (run k) (run (k + 1)) n
    · rw [if_pos hstarts, Finset.card_insert_of_notMem (by simp), ih hbefore, if_pos hstarts.1,
        if_neg (not_le.mpr hstarts.2)]
    · rw [if_neg hstarts, ih hbefore]
      by_cases hrank : ((run k).stage n).rank ≤ 1
      · have hstill : ((run (k + 1)).stage n).rank ≤ 1 := by
          by_contra hafter
          exact hstarts ⟨hrank, not_le.mp hafter⟩
        rw [if_pos hrank, if_pos hstill]
      · rw [if_neg hrank, if_neg fun hafter => hrank (hmono.trans hafter)]

/-- **The lock of deliveries and resets**, over every run.  An exclusive section is alone.  A shared call
starts only where no exclusive call waits or runs, an exclusive one only after the earlier ones and where
no call is in a section, and no call starts twice.  Without new calls the lock comes to rest, and at rest
it is free and every call is over. -/
theorem delivery_reset_lock (hrun : Run run k) :
    (∀ i ≤ k, ∀ n, ((run i).stage n).inExclusive = true → ∀ m ≠ n,
      ((run i).stage m).inShared = false ∧ ((run i).stage m).inExclusive = false) ∧
    (∀ i < k, ∀ n, Starts (run i) (run (i + 1)) n →
      (((run (i + 1)).stage n).exclusive = false →
        ∀ m, ((run i).stage m).exclusive = true → (run i).stage m = .writeDone) ∧
      (((run (i + 1)).stage n).exclusive = true →
        (∀ m < n, ((run i).stage m).exclusive = true → (run i).stage m = .writeDone) ∧
        ∀ m, ((run i).stage m).inShared = false ∧ ((run i).stage m).inExclusive = false)) ∧
    (∀ n, ((Finset.range k).filter fun i => Starts (run i) (run (i + 1)) n).card =
      if ((run k).stage n).rank ≤ 1 then 0 else 1) ∧
    ((∀ lock', ¬ Continues (run k) lock') → (run k).writers = 0 ∧ (run k).readers = ∅ ∧
      ∀ n < (run k).calls, (run k).stage n = .readDone ∨ (run k).stage n = .writeDone) ∧
    ∀ after : Nat → Lock, after 0 = run k → ∃ i, ¬ Continues (after i) (after (i + 1)) := by
  refine ⟨fun i hi n hn m hne => (hrun.inv i hi).section_alone hn hne, fun i hi n hstarts => ?_,
    hrun.starts_once, (hrun.inv k (le_refl k)).free, continues_ends (hrun.inv k (le_refl k))⟩
  have hinv := hrun.inv i hi.le
  exact ⟨fun hshared m => starts_shared hinv (hrun.step i hi) hstarts hshared,
    starts_exclusive hinv (hrun.step i hi) hstarts⟩

/-- A reset that comes while a delivery runs, and a delivery that comes after it. -/
def drainedRun : Nat → Lock
  | 0 => .start
  | i + 1 =>
    let lock := drainedRun i
    match i with
    | 0 => lock.shared false
    | 1 => lock.exclusive
    | 2 => lock.shared false
    | 3 => (lock.turn 1 false).getD lock
    | 4 => (lock.settle 0).getD lock
    | 5 => (lock.turn 0 false).getD lock
    | _ => (lock.turn 1 false).getD lock

theorem run_drainedRun : Run drainedRun 7 := by
  refine ⟨rfl, fun i hi => ?_⟩
  interval_cases i
  · exact .shared _ false
  · exact .exclusive _
  · exact .shared _ false
  · exact .turn 1 false rfl
  · exact .settle 0 rfl
  · exact .turn 0 false rfl
  · exact .turn 1 false rfl

theorem delivery_reset_lock_drained : Starts (drainedRun 6) (drainedRun 7) 1 ∧
    (drainedRun 6).stage 2 = .readerWaiting (some 1) ∧
    ∀ m, ((drainedRun 6).stage m).inShared = false ∧ ((drainedRun 6).stage m).inExclusive = false := by
  have hstarts : Starts (drainedRun 6) (drainedRun 7) 1 := by decide
  exact ⟨hstarts, by decide,
    (((delivery_reset_lock run_drainedRun).2.1 6 (by decide) 1 hstarts).2 (by decide)).2⟩

end ResetLock

end Splitch
