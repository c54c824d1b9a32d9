/-
# Which claim rows have somebody to delete them

A sealed or accepted row is deleted by the alarm, so as long as there is one an alarm must be
armed (`Covered`).  The bookkeeping behind that is spread over three places: the alarm itself,
the minimum the drain carries in its cursor, and the pending-expiry floor.  What they cover
between them is the TICKET rows: a sealed or accepted ticket row behind the cursor has left its
expiry in one of the two (`SweepInv.tickets`).

It is not true of the exposure rows.  A claim that joins a redeemed ticket writes a sealed
exposure row without touching alarm or floor.  Behind the cursor of a drain, that row is covered
only by its ticket's row ahead of the cursor, and when the drain reaches the ticket after it has
expired nothing is left to remember the row by: the drain ends without an alarm
(`StrandingTick`).  That is the only way: `sweep_coverage_iff`.
-/
import Splitch.Redemption.ClaimRefinement

namespace Splitch

open Expiring ClaimStorage

/-! ## 1. Coverage -/

/-- Some row is sealed or accepted. -/
def ClaimStorage.HoldsDelivered (st : ClaimStorage) : Prop :=
  (∃ E e, st.exposureRow E = some e ∧ e.delivery ≠ .pending) ∨
    ∃ F t, st.ticketRow F = some t ∧ t.delivery ≠ .pending

/-- An alarm is armed, if some row is sealed or accepted. -/
def ClaimStorage.Covered (st : ClaimStorage) : Prop := st.HoldsDelivered → st.alarm ≠ none

/-- The tick at `nowMs` would end a drain that remembers no expiry, with a sealed or accepted
exposure row behind its cursor. -/
structure ClaimStorage.StrandingTick (st : ClaimStorage) (nowMs : Int) : Prop where
  /-- No seal has left an expiry in the floor. -/
  floor : st.pendingExpiryFloor = none
  /-- The pages before had nothing left to expire. -/
  passed : ∀ cursor ∈ st.sweepAfter, cursor.nextExpiry = none
  /-- The drain ends with this page. -/
  last : st.sweepPage.length < EXPOSURE_REDEMPTION_SWEEP_PAGE_SIZE
  /-- All claim rows on it have expired. -/
  page : ∀ entry ∈ st.sweepPage, ∀ x, claimRecordExpiresAt entry = some x → x ≤ nowMs
  /-- The row that is left behind. -/
  behind : ∃ E e, st.exposureRow E = some e ∧ e.delivery ≠ .pending ∧
    ¬ st.PastCursor (.exposure E)

/-- The tick at `nowMs` has kept every row that expires later. -/
def KeepsUnexpired (nowMs : Int) (st st' : ClaimStorage) : Prop :=
  (∀ E e, st.exposureRow E = some e → nowMs < e.expiresAt → st'.exposureRow E = some e) ∧
    ∀ F t, st.ticketRow F = some t → nowMs < t.expiresAt → st'.ticketRow F = some t

/-! ## 2. What the drain remembers -/

structure SweepInv (clock : Int) (st : ClaimStorage) : Prop where
  /-- A drain continues at once. -/
  drain : ∀ cursor ∈ st.sweepAfter, ∃ a, st.alarm = some a ∧ a ≤ clock
  /-- A sealed or accepted ticket row behind the cursor has left its expiry somewhere. -/
  tickets : ∀ cursor ∈ st.sweepAfter, cursor.nextExpiry = none → st.pendingExpiryFloor = none →
    ∀ F t, st.ticketRow F = some t → t.delivery ≠ .pending → st.PastCursor (.ticket F)

/-- `setExpiryAlarm` leaves the cursor alone and an alarm armed, never a later one. -/
theorem setExpiryAlarm_alarm (st : ClaimStorage) (x : Int) :
    (st.setExpiryAlarm x).sweepAfter = st.sweepAfter ∧
      ∃ a, (st.setExpiryAlarm x).alarm = some a ∧ ∀ b, st.alarm = some b → a ≤ b := by
  unfold setExpiryAlarm rememberPendingExpiryFloor
  cases st.alarm with
  | none => simp
  | some b =>
    by_cases h : b > x
    · simp [h, h.le]
    · cases st.pendingExpiryFloor <;> simp [h]

/-- An alarm that does not move leaves the expiry in the floor. -/
theorem setExpiryAlarm_floor {st : ClaimStorage} {x a : Int} (ha : st.alarm = some a)
    (hle : a ≤ x) : (st.setExpiryAlarm x).pendingExpiryFloor ≠ none := by
  unfold setExpiryAlarm rememberPendingExpiryFloor
  rw [ha]
  cases st.pendingExpiryFloor <;> simp [not_lt.mpr hle]

/-- The cursor, the floor and the alarm of two storages agree. -/
structure SameControl (st st' : ClaimStorage) : Prop where
  sweepAfter : st'.sweepAfter = st.sweepAfter
  pendingExpiryFloor : st'.pendingExpiryFloor = st.pendingExpiryFloor
  alarm : st'.alarm = st.alarm

theorem ClaimStorage.Purged.sameControl {t : Int} {st st' : ClaimStorage}
    (h : Purged t st st') : SameControl st st' :=
  ⟨h.sweepAfter, h.pendingExpiryFloor, h.alarm⟩

/-- A step that arms nothing keeps the bookkeeping, if it writes no sealed or accepted ticket
row, and a sealed or accepted exposure row only where there was one before. -/
theorem SweepInv.quiet {clock now : Int} {st st' : ClaimStorage} (h : SweepInv clock st)
    (hclock : clock ≤ now) (hc : SameControl st st')
    (htickets : ∀ F t, st'.ticketRow F = some t → t.delivery ≠ .pending →
      st.ticketRow F = some t)
    (hexposures : ∀ E e, st'.exposureRow E = some e → e.delivery ≠ .pending →
      st.HoldsDelivered) :
    SweepInv now st' ∧ (st.Covered → st'.Covered) := by
  refine ⟨⟨?_, ?_⟩, ?_⟩
  · intro cursor hcursor
    rw [hc.sweepAfter] at hcursor
    obtain ⟨a, ha, hle⟩ := h.drain cursor hcursor
    exact ⟨a, hc.alarm.trans ha, hle.trans hclock⟩
  · intro cursor hcursor hnext hfloor F t ht hd
    rw [hc.sweepAfter] at hcursor
    rw [hc.pendingExpiryFloor] at hfloor
    have hpast := h.tickets cursor hcursor hnext hfloor F t (htickets F t ht hd) hd
    intro cursor' hcursor'
    rw [hc.sweepAfter] at hcursor'
    exact hpast cursor' hcursor'
  · intro hcov hholds
    rw [hc.alarm]
    refine hcov ?_
    rcases hholds with ⟨E, e, he, hd⟩ | ⟨F, t, ht, hd⟩
    · exact hexposures E e he hd
    · exact Or.inr ⟨F, t, htickets F t ht hd, hd⟩

/-- A step that arms the alarm for later keeps the bookkeeping, whatever rows it writes: in the
middle of a drain its expiry goes to the floor. -/
theorem SweepInv.armed {clock now x : Int} {st st' : ClaimStorage} (h : SweepInv clock st)
    (hclock : clock ≤ now) (hc : SameControl st st') (hx : now < x) :
    SweepInv now (st'.setExpiryAlarm x) ∧ (st.Covered → (st'.setExpiryAlarm x).Covered) := by
  obtain ⟨hafter, a, ha, hmin⟩ := setExpiryAlarm_alarm st' x
  refine ⟨⟨?_, ?_⟩, ?_⟩
  · intro cursor hcursor
    rw [hafter, hc.sweepAfter] at hcursor
    obtain ⟨b, hb, hle⟩ := h.drain cursor hcursor
    exact ⟨a, ha, (hmin b (hc.alarm.trans hb)).trans (hle.trans hclock)⟩
  · intro cursor hcursor _ hfloor
    rw [hafter, hc.sweepAfter] at hcursor
    obtain ⟨b, hb, hle⟩ := h.drain cursor hcursor
    exact absurd hfloor (setExpiryAlarm_floor (hc.alarm.trans hb)
      ((hle.trans hclock).trans hx.le))
  · intro _ _ hnone
    rw [ha] at hnone
    exact Option.some_ne_none _ hnone

/-- **A request keeps the bookkeeping, and keeps its storage covered.** -/
theorem SweepInv.request {clock : Int} {st : ClaimStorage} (h : SweepInv clock st)
    (route : ClaimRoute) (input : ClaimInput) (hclock : clock ≤ input.nowMs) :
    SweepInv input.nowMs (claimObject.next st (.request route input)) ∧
      (st.Covered → (claimObject.next st (.request route input)).Covered) := by
  obtain ⟨st', hpurged, heq⟩ := claimStep_request route input st
  have hc := hpurged.sameControl
  have hd := (st.live input.nowMs).decides (.request route input)
  have hfresh : ((st.live input.nowMs).decide (.request route input)).2.Fresh input.nowMs :=
    st.decide_fresh (.request route input)
  have hnext : claimObject.next st (.request route input)
      = ((st.live input.nowMs).decide (.request route input)).2.commit st' :=
    congrArg Prod.snd heq
  have hold : ∀ E e, st'.exposureRow E = some e → e.delivery ≠ .pending → st.HoldsDelivered :=
    fun E e he hdel => Or.inl ⟨E, e, hpurged.exposures.of_some he, hdel⟩
  have htold : ∀ F t, st'.ticketRow F = some t → t.delivery ≠ .pending →
      st.ticketRow F = some t := fun F t ht _ => hpurged.tickets.of_some ht
  rw [hnext]
  generalize ((st.live input.nowMs).decide (.request route input)).1 = response at hd
  generalize ((st.live input.nowMs).decide (.request route input)).2 = edit at hd hfresh
  cases hd with
  | acquire he ht =>
    refine h.quiet hclock ⟨hc.sweepAfter, hc.pendingExpiryFloor, hc.alarm⟩ ?_ ?_
    · intro F t ht hdel
      by_cases hF : F = input.ticketFingerprint
      · simp [Edit.commit, hF] at ht
        simp [← ht] at hdel
      · simp [Edit.commit, hF] at ht
        exact htold F t ht hdel
    · intro E e he hdel
      by_cases hE : E = input.exposureId
      · simp [Edit.commit, hE] at he
        simp [← he] at hdel
      · simp [Edit.commit, hE] at he
        exact hold E e he hdel
  | rebind he ht hdel =>
    -- the ticket that is joined has a delivered row of its own
    refine h.quiet hclock ⟨hc.sweepAfter, hc.pendingExpiryFloor, hc.alarm⟩ htold ?_
    exact fun _ _ _ _ => Or.inr ⟨_, _, ((age_eq_some _).mp ht).1, hdel⟩
  | sealPending =>
    rw [Edit.commit_bind (by simp)]
    exact h.armed hclock ⟨hc.sweepAfter, hc.pendingExpiryFloor, hc.alarm⟩ hfresh
  | acceptSealed =>
    rw [Edit.commit_bind (by simp)]
    exact h.armed hclock ⟨hc.sweepAfter, hc.pendingExpiryFloor, hc.alarm⟩ hfresh
  | dissolve =>
    refine h.quiet hclock ⟨hc.sweepAfter, hc.pendingExpiryFloor, hc.alarm⟩ ?_ ?_
    · intro F t ht hdel
      by_cases hF : F = input.ticketFingerprint
      · simp [Edit.commit, hF] at ht
      · simp [Edit.commit, hF] at ht
        exact htold F t ht hdel
    · intro E e he hdel
      by_cases hE : E = input.exposureId
      · simp [Edit.commit, hE] at he
      · simp [Edit.commit, hE] at he
        exact hold E e he hdel
  | dissolveExposure =>
    refine h.quiet hclock ⟨hc.sweepAfter, hc.pendingExpiryFloor, hc.alarm⟩ htold ?_
    intro E e he hdel
    by_cases hE : E = input.exposureId
    · simp [Edit.commit, hE] at he
    · simp [Edit.commit, hE] at he
      exact hold E e he hdel
  | _ => exact h.quiet hclock hc htold hold

/-! ## 3. A tick -/

/-- What a page does not let expire, it has counted. -/
theorem sweepNextExpiry_of_alive {st : ClaimStorage} {now x : Int}
    {entry : ClaimKey × StoredRow} (hmem : entry ∈ st.sweepPage)
    (hx : claimRecordExpiresAt entry = some x) (hlive : now < x) :
    st.sweepNextExpiry now ≠ none := by
  intro hnone
  exact absurd ((sweepNextExpiry_eq_none.mp hnone).2 entry hmem x hx) (not_le.mpr hlive)

/-- **A tick keeps the bookkeeping.** Where neither the cursor nor the floor remembers an expiry, no
delivered ticket row is one that the cursor has passed: it would have been on the page, alive, and
counted. -/
theorem SweepInv.tick {clock now : Int} {st : ClaimStorage} (h : SweepInv clock st) :
    SweepInv now (claimObject.next st (.alarm now)) := by
  rcases lt_or_ge st.sweepPage.length EXPOSURE_REDEMPTION_SWEEP_PAGE_SIZE with hlen | hlen
  · rw [show claimObject.next st (.alarm now) = _ from alarm_step_short st now hlen]
    exact ⟨fun _ hc => by simp at hc, fun _ hc => by simp at hc⟩
  · obtain ⟨last, hlast, heq⟩ := alarm_step_full st now hlen
    rw [show claimObject.next st (.alarm now) = _ from heq]
    refine ⟨fun _ _ => ⟨now, rfl, le_rfl⟩, ?_⟩
    intro cursor hcursor hnext hfloor F t ht hdel
    cases hcursor
    have hfloor : st.pendingExpiryFloor = none := (swept_control st now).1.symm.trans hfloor
    obtain ⟨hrow, hpage⟩ := swept_ticketRow.mp ht
    have hpast : st.PastCursor (.ticket F) := by
      intro cursor hcursor
      exact h.tickets cursor hcursor ((sweepNextExpiry_eq_none.mp hnext).1 cursor hcursor)
        hfloor F t hrow hdel cursor hcursor
    -- a ticket up to the new cursor would be on the page, alive, and counted
    intro cursor' hcursor'
    cases hcursor'
    by_contra hle
    have hmem := mem_sweepPage_of_le_last hlast (mem_entries_ticket.mpr ⟨t, rfl, hrow⟩) hpast
      (not_lt.mp hle)
    exact sweepNextExpiry_of_alive hmem rfl (hpage hmem) hnext

/-- **A tick leaves its storage covered exactly when it is not a stranding one.** It arms no alarm
where the drain ends with nothing remembered. By the bookkeeping no delivered ticket row is left that
the cursor has passed; but an exposure row may have been sealed there meanwhile, and that is a
stranding tick. -/
theorem SweepInv.tick_covered {clock now : Int} {st : ClaimStorage} (h : SweepInv clock st) :
    (claimObject.next st (.alarm now)).Covered ↔ ¬ st.StrandingTick now := by
  rcases lt_or_ge st.sweepPage.length EXPOSURE_REDEMPTION_SWEEP_PAGE_SIZE with hlen | hlen
  · have hstep : claimObject.next st (.alarm now) = _ := alarm_step_short st now hlen
    rw [hstep]
    constructor
    · rintro hcov ⟨hfloor, hpassed, _, hpage, E, e, he, hdel, hbehind⟩
      have hnext : st.sweepNextExpiry now = none := sweepNextExpiry_eq_none.mpr ⟨hpassed, hpage⟩
      refine hcov (Or.inl ⟨E, e, ?_, hdel⟩) (minExpiry_eq_none.mpr ⟨hnext, hfloor⟩)
      exact swept_exposureRow.mpr ⟨he, fun hmem => absurd (mem_sweepPage hmem).2 hbehind⟩
    · intro hnot hholds hnone
      obtain ⟨hnext, hfloor⟩ := minExpiry_eq_none.mp hnone
      obtain ⟨hpassed, hpage⟩ := sweepNextExpiry_eq_none.mp hnext
      rcases hholds with ⟨E, e, he, hdel⟩ | ⟨F, t, ht, hdel⟩
      · obtain ⟨hrow, halive⟩ := swept_exposureRow.mp he
        refine hnot ⟨hfloor, hpassed, hlen, hpage, E, e, hrow, hdel, fun hpast => ?_⟩
        have hmem := mem_sweepPage_of_short hlen (mem_entries_exposure.mpr ⟨e, rfl, hrow⟩) hpast
        exact absurd (hpage _ hmem _ rfl) (not_le.mpr (halive hmem))
      · obtain ⟨hrow, halive⟩ := swept_ticketRow.mp ht
        have hpast : st.PastCursor (.ticket F) := fun cursor hcursor =>
          h.tickets cursor hcursor (hpassed cursor hcursor) hfloor F t hrow hdel cursor hcursor
        have hmem := mem_sweepPage_of_short hlen (mem_entries_ticket.mpr ⟨t, rfl, hrow⟩) hpast
        exact absurd (hpage _ hmem _ rfl) (not_le.mpr (halive hmem))
  · obtain ⟨last, _, heq⟩ := alarm_step_full st now hlen
    rw [show claimObject.next st (.alarm now) = _ from heq]
    exact ⟨fun _ hs => absurd hs.last (not_lt.mpr hlen), fun _ _ => by simp⟩

/-! ## 4. Runs -/

/-- The bookkeeping holds in every reachable state. -/
theorem sweepInv_run (es : List ClaimEvent) (hes : Machine.Timed ClaimEvent.nowMs es) :
    ∀ t, Machine.Before ClaimEvent.nowMs es t → SweepInv t (claimObject.run es) := by
  refine Machine.timed_induction ClaimEvent.nowMs
    (I := fun es t => SweepInv t (claimObject.run es)) ?_ ?_ ?_ es hes
  · exact fun t => ⟨fun _ h => by simp [claimObject, ClaimStorage.empty] at h,
      fun _ h => by simp [claimObject, ClaimStorage.empty] at h⟩
  · intro es t t' hle h
    refine ⟨fun cursor hcursor => ?_, h.tickets⟩
    obtain ⟨a, ha, hat⟩ := h.drain cursor hcursor
    exact ⟨a, ha, hat.trans hle⟩
  · intro es event _ h
    rw [Machine.run_concat]
    cases event with
    | alarm now => exact h.tick
    | request route input => exact (h.request route input le_rfl).1

/-- **No claim row is orphaned, unless a tick strands one.**  Over any run, an alarm is armed
after every step that leaves a sealed or accepted row, and no tick deletes a row that expires
later, exactly when no tick of the run is a stranding one. -/
theorem sweep_coverage_iff (es : List ClaimEvent) (hes : Machine.Timed ClaimEvent.nowMs es) :
    (∀ pre event, pre ++ [event] <+: es →
      (claimObject.run (pre ++ [event])).Covered ∧
        ∀ now, event = .alarm now →
          KeepsUnexpired now (claimObject.run pre) (claimObject.run (pre ++ [event]))) ↔
      ∀ pre now, pre ++ [.alarm now] <+: es → ¬ (claimObject.run pre).StrandingTick now := by
  have hinv : ∀ pre event, pre ++ [event] <+: es →
      SweepInv event.nowMs (claimObject.run pre) := by
    intro pre event hpre
    obtain ⟨hes', hb⟩ := (Machine.timed_concat _).mp (Machine.Timed.of_prefix _ hes hpre)
    exact sweepInv_run pre hes' _ hb
  constructor
  · intro h pre now hpre
    have hcov := (h pre _ hpre).1
    rw [Machine.run_concat] at hcov
    exact (hinv pre _ hpre).tick_covered.mp hcov
  · intro h
    have hcovered : ∀ pre, pre <+: es → (claimObject.run pre).Covered := by
      intro pre
      induction pre using List.reverseRecOn with
      | nil =>
        rintro _ (⟨E, e, he, _⟩ | ⟨F, t, ht, _⟩)
        · simp [claimObject, ClaimStorage.empty, exposureRow] at he
        · simp [claimObject, ClaimStorage.empty, ticketRow] at ht
      | append_singleton pre event ih =>
        intro hpre
        have hprev := ih ((List.prefix_append pre [event]).trans hpre)
        rw [Machine.run_concat]
        cases event with
        | alarm now => exact (hinv pre _ hpre).tick_covered.mpr (h pre now hpre)
        | request route input => exact ((hinv pre _ hpre).request route input le_rfl).2 hprev
    intro pre event hpre
    refine ⟨hcovered _ hpre, ?_⟩
    rintro now rfl
    rw [Machine.run_concat]
    have hshed := claimStep_alarm_shed now (claimObject.run pre)
    exact ⟨fun E e he hlive => hshed.1.of_alive he hlive,
      fun F t ht hlive => hshed.2.of_alive ht hlive⟩

/-! ## 5. A run that strands a row -/

/-- The platform runs the handler only for an alarm that is armed, and not before its time. -/
def DueTick (st : ClaimStorage) : ClaimEvent → Prop
  | .alarm nowMs => ∃ a ∈ st.alarm, a ≤ nowMs
  | .request _ _ => True

instance (st : ClaimStorage) : ∀ event, Decidable (DueTick st event)
  | .alarm nowMs =>
    match h : st.alarm with
    | none => isFalse (by simp [DueTick, h])
    | some a => decidable_of_iff (a ≤ nowMs) (by simp [DueTick, h])
  | .request _ _ => isTrue trivial

/-- Three tickets are sealed one millisecond apart.  A day later the first expires; 127 more
exposureIds join the second just before it expires too, filling a page that has nothing left to
expire; and one joins the third, behind the cursor. -/
def strandingDrain : List ClaimEvent :=
  [.request .claim ⟨"h", "H", 0⟩, .request .markSealed ⟨"h", "H", 0⟩,
    .request .claim ⟨"g", "G", 1⟩, .request .markSealed ⟨"g", "G", 1⟩,
    .request .claim ⟨"ω", "F", 2⟩, .request .markSealed ⟨"ω", "F", 2⟩, .alarm 86400000]
  ++ (List.range 127).map (fun i =>
    .request .claim ⟨String.ofList [Char.ofNat (256 + i)], "G", 86400000⟩)
  ++ [.alarm 86400001, .request .claim ⟨"a", "F", 86400001⟩]

/-- **The claim object can orphan a sealed row**: the drain passes the third ticket one
millisecond after its expiry, and ends without an alarm while `exposure:a` is still stored. -/
theorem sweep_coverage_stranded :
    ¬ ∀ es : List ClaimEvent, Machine.Timed ClaimEvent.nowMs es →
      claimObject.Guarded DueTick .empty es →
      ∀ pre event, pre ++ [event] <+: es →
        (claimObject.run (pre ++ [event])).Covered ∧
          ∀ now, event = .alarm now →
            KeepsUnexpired now (claimObject.run pre) (claimObject.run (pre ++ [event])) := by
  intro h
  have htimed : Machine.Timed ClaimEvent.nowMs (strandingDrain ++ [.alarm 86400002]) := by
    unfold Machine.Timed
    decide +kernel
  have hcov := (h (strandingDrain ++ [.alarm 86400002]) htimed (by decide +kernel)
    strandingDrain (.alarm 86400002) List.prefix_rfl).1
  have hend : (claimObject.run (strandingDrain ++ [.alarm 86400002])).alarm = none ∧
      (claimObject.run (strandingDrain ++ [.alarm 86400002])).exposureRow "a"
        = some ⟨"F", .sealed, 86400002⟩ := by decide +kernel
  exact hcov (Or.inl ⟨"a", _, hend.2, by simp⟩) hend.1

/-- A sealed claim that is swept at its expiry, in one page. -/
theorem sweep_coverage_single_claim :
    (claimObject.run [.request .claim ⟨"e", "f", 0⟩, .request .markSealed ⟨"e", "f", 0⟩,
        .alarm 86400000]).Covered ∧
      KeepsUnexpired 86400000
        (claimObject.run [.request .claim ⟨"e", "f", 0⟩, .request .markSealed ⟨"e", "f", 0⟩])
        (claimObject.run [.request .claim ⟨"e", "f", 0⟩, .request .markSealed ⟨"e", "f", 0⟩,
          .alarm 86400000]) := by
  have hcovered := (sweep_coverage_iff [.request .claim ⟨"e", "f", 0⟩,
    .request .markSealed ⟨"e", "f", 0⟩, .alarm 86400000]
    (by simp [Machine.Timed, ClaimEvent.nowMs])).mpr ?_
  · have hlast := hcovered [.request .claim ⟨"e", "f", 0⟩, .request .markSealed ⟨"e", "f", 0⟩]
      (.alarm 86400000) (List.prefix_refl _)
    exact ⟨hlast.1, hlast.2 _ rfl⟩
  · rintro pre now ⟨post, hpost⟩ ⟨_, _, _, _, E, e, _, _, hbehind⟩
    rcases pre with _ | ⟨_, _ | ⟨_, _ | ⟨_, _⟩⟩⟩
    · simp at hpost
    · simp at hpost
    · simp only [List.cons_append, List.nil_append, List.cons.injEq] at hpost
      obtain ⟨rfl, rfl, _⟩ := hpost
      refine hbehind fun cursor hcursor => ?_
      have hnone : (claimObject.run [.request .claim ⟨"e", "f", 0⟩,
          .request .markSealed ⟨"e", "f", 0⟩]).sweepAfter = none := by decide +kernel
      rw [hnone] at hcursor
      cases hcursor
    · simp at hpost

end Splitch
