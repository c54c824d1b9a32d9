/-
# One tick of the sweep

What `deleteExpired` does, stated without its loop: which keys a page holds, which of them are collected,
and what the storage looks like after a tick.  The keys of a storage are listed in the order of their
texts; the prefixes keep the three kinds apart, and no key has the text of another, so a row is on the page
just when its key is among the first behind the cursor.

A tick deletes the expired rows of its page and no others (`swept_exposureRow`).  What it does then depends
on the length of the page.  A full page may have rows behind it, so the tick moves the cursor to its last
key and continues at once (`alarm_step_full`).  A short page is the last one: the drain ends, and the alarm
is set to the nearest expiry that the drain has seen or the floor remembers (`alarm_step_short`).  There
may be none, although there are rows: those that were written, while the drain was going on, under keys
that the cursor had passed.
-/
import Splitch.Library.Expiring
import Splitch.Library.StateActions
import Splitch.Redemption.ClaimSweep

namespace Splitch

namespace ClaimStorage

/-! ## 1. The order of the keys -/

theorem render_exposure_lt {E E' : String} (h : E < E') :
    (ClaimKey.exposure E).render < (ClaimKey.exposure E').render := by
  rw [String.lt_iff_toList_lt] at h ⊢
  simp only [ClaimKey.render, String.toList_append]
  exact List.append_left_lt h

theorem render_ticket_lt {F F' : String} (h : F < F') :
    (ClaimKey.ticket F).render < (ClaimKey.ticket F').render := by
  rw [String.lt_iff_toList_lt] at h ⊢
  simp only [ClaimKey.render, String.toList_append]
  exact List.append_left_lt h

/-- The two control keys sort before every claim key. -/
theorem render_control_lt_exposure (E : String) :
    ClaimKey.pendingExpiryFloor.render < (ClaimKey.exposure E).render ∧
      ClaimKey.sweepAfter.render < (ClaimKey.exposure E).render := by
  simp only [String.lt_iff_toList_lt, ClaimKey.render, String.toList_append]
  exact ⟨List.Lex.rel (by decide), List.Lex.rel (by decide)⟩

/-- Every exposure key sorts before every ticket key. -/
theorem render_exposure_lt_ticket (E F : String) :
    (ClaimKey.exposure E).render < (ClaimKey.ticket F).render := by
  simp only [String.lt_iff_toList_lt, ClaimKey.render, String.toList_append]
  exact List.Lex.rel (by decide)

theorem render_floor_lt_sweepAfter :
    ClaimKey.pendingExpiryFloor.render < ClaimKey.sweepAfter.render := by decide

/-! ## 2. The entries -/

theorem mem_entries_exposure {st : ClaimStorage} {E : String} {row : StoredRow} :
    (ClaimKey.exposure E, row) ∈ st.entries ↔
      ∃ record, row = .exposure record ∧ st.exposureRow E = some record := by
  simp only [entries, List.mem_append, Option.mem_toList, Option.map_eq_some_iff,
    List.mem_map, Prod.mk.injEq, reduceCtorEq, false_and, and_false, exists_false, false_or,
    or_false, ClaimKey.exposure.injEq]
  constructor
  · rintro ⟨⟨E', record⟩, hmem, rfl, rfl⟩
    exact ⟨record, rfl, Std.ExtTreeMap.mem_toList_iff_getElem?_eq_some.mp hmem⟩
  · rintro ⟨record, rfl, h⟩
    exact ⟨(E, record), Std.ExtTreeMap.mem_toList_iff_getElem?_eq_some.mpr h, rfl, rfl⟩

theorem mem_entries_ticket {st : ClaimStorage} {F : String} {row : StoredRow} :
    (ClaimKey.ticket F, row) ∈ st.entries ↔
      ∃ record, row = .ticket record ∧ st.ticketRow F = some record := by
  simp only [entries, List.mem_append, Option.mem_toList, Option.map_eq_some_iff,
    List.mem_map, Prod.mk.injEq, reduceCtorEq, false_and, and_false, exists_false, false_or,
    ClaimKey.ticket.injEq]
  constructor
  · rintro ⟨⟨F', record⟩, hmem, rfl, rfl⟩
    exact ⟨record, rfl, Std.ExtTreeMap.mem_toList_iff_getElem?_eq_some.mp hmem⟩
  · rintro ⟨record, rfl, h⟩
    exact ⟨(F, record), Std.ExtTreeMap.mem_toList_iff_getElem?_eq_some.mpr h, rfl, rfl⟩

theorem ordered_toList {α : Type} (m : Std.ExtTreeMap String α compare) :
    m.toList.Pairwise (fun a b => a.1 < b.1) := by
  refine Std.ExtTreeMap.ordered_keys_toList.imp ?_
  intro a b h
  exact compare_lt_iff_lt.mp h

/-- **The platform lists the keys in strictly increasing order.** -/
theorem entries_sorted (st : ClaimStorage) :
    st.entries.Pairwise (fun a b => entryName a < entryName b) := by
  have hexp : (st.exposures.toList.map fun row =>
      ((.exposure row.1, .exposure row.2) : ClaimKey × StoredRow)).Pairwise
        (fun a b => entryName a < entryName b) := by
    rw [List.pairwise_map]
    exact (ordered_toList _).imp render_exposure_lt
  have htic : (st.tickets.toList.map fun row =>
      ((.ticket row.1, .ticket row.2) : ClaimKey × StoredRow)).Pairwise
        (fun a b => entryName a < entryName b) := by
    rw [List.pairwise_map]
    exact (ordered_toList _).imp render_ticket_lt
  have hcontrol : ∀ {a b : ClaimKey × StoredRow},
      (a.1 = .pendingExpiryFloor ∨ a.1 = .sweepAfter) →
      (∃ E, b.1 = .exposure E) ∨ (∃ F, b.1 = .ticket F) → entryName a < entryName b := by
    rintro a b ha (⟨E, hb⟩ | ⟨F, hb⟩)
    · rcases ha with ha | ha <;> simp only [entryName, ha, hb]
      exacts [(render_control_lt_exposure E).1, (render_control_lt_exposure E).2]
    · have h := render_exposure_lt_ticket "" F
      rcases ha with ha | ha <;> simp only [entryName, ha, hb]
      exacts [(render_control_lt_exposure "").1.trans h, (render_control_lt_exposure "").2.trans h]
  rw [entries, List.pairwise_append, List.pairwise_append, List.pairwise_append]
  refine ⟨⟨⟨?_, ?_, ?_⟩, hexp, ?_⟩, htic, ?_⟩
  · cases st.pendingExpiryFloor <;> simp
  · cases st.sweepAfter <;> simp
  · simp only [Option.mem_toList, Option.map_eq_some_iff]
    rintro _ ⟨floor, _, rfl⟩ _ ⟨cursor, _, rfl⟩
    exact render_floor_lt_sweepAfter
  · simp only [List.mem_append, Option.mem_toList, Option.map_eq_some_iff, List.mem_map]
    rintro _ (⟨floor, _, rfl⟩ | ⟨cursor, _, rfl⟩) _ ⟨row, _, rfl⟩ <;>
      exact hcontrol (by simp) (by simp)
  · simp only [List.mem_append, Option.mem_toList, Option.map_eq_some_iff, List.mem_map]
    rintro _ ((⟨floor, _, rfl⟩ | ⟨cursor, _, rfl⟩) | ⟨row, _, rfl⟩) _ ⟨row', _, rfl⟩
    · exact hcontrol (by simp) (by simp)
    · exact hcontrol (by simp) (by simp)
    · exact render_exposure_lt_ticket _ _

end ClaimStorage

/-! ## 3. What a page yields -/

theorem minExpiry_eq_none {a b : Option Int} :
    minExpiry a b = none ↔ a = none ∧ b = none := by
  cases a <;> cases b <;> simp [minExpiry]

/-- The keys collected so far are kept, and so is the fact that some expiry was seen. -/
theorem collectExpiredKeys_spec (entries : List (ClaimKey × StoredRow)) (nowMs : Int) :
    (∀ key, key ∈ (collectExpiredKeys entries nowMs).1 ↔
      ∃ entry ∈ entries, entry.1 = key ∧ ∃ x, claimRecordExpiresAt entry = some x ∧ x ≤ nowMs) ∧
    ((collectExpiredKeys entries nowMs).2 = none ↔
      ∀ entry ∈ entries, ∀ x, claimRecordExpiresAt entry = some x → x ≤ nowMs) := by
  induction entries using List.reverseRecOn with
  | nil => simp [collectExpiredKeys]
  | append_singleton entries entry ih =>
    have hfold : collectExpiredKeys (entries ++ [entry]) nowMs
        = collectEntry nowMs (collectExpiredKeys entries nowMs) entry := by
      simp [collectExpiredKeys]
    rw [hfold, collectEntry]
    cases hx : claimRecordExpiresAt entry with
    | none =>
      refine ⟨fun key => ?_, ?_⟩
      · simp [ih.1, hx, or_and_right, exists_or]
      · simp [ih.2, hx, or_imp, forall_and]
    | some x =>
      by_cases hle : x ≤ nowMs
      · refine ⟨fun key => ?_, ?_⟩
        · simp [ih.1, hx, hle, or_and_right, exists_or, eq_comm]
        · simp [ih.2, hx, hle, or_imp, forall_and]
      · refine ⟨fun key => ?_, ?_⟩
        · simp [ih.1, hx, hle, or_and_right, exists_or]
        · simp [ih.2, hx, hle, or_imp, forall_and, minExpiry_eq_none]

/-! ## 4. Deleting a list of keys -/

namespace ClaimStorage

theorem deleteKeys_exposureRow (keys : List ClaimKey) (st : ClaimStorage) (E : String) :
    (st.deleteKeys keys).exposureRow E
      = if ClaimKey.exposure E ∈ keys then none else st.exposureRow E := by
  induction keys generalizing st with
  | nil => simp [deleteKeys]
  | cons key keys ih =>
    rw [deleteKeys, List.foldl_cons, ← deleteKeys, ih]
    by_cases hmem : ClaimKey.exposure E ∈ keys
    · simp [hmem]
    · cases key with
      | exposure E' =>
        by_cases hE : E = E'
        · simp [deleteKey, hE]
        · simp [deleteKey, hmem, hE]
      | _ => simp [deleteKey, hmem, exposureRow, deleteTicket]

theorem deleteKeys_ticketRow (keys : List ClaimKey) (st : ClaimStorage) (F : String) :
    (st.deleteKeys keys).ticketRow F
      = if ClaimKey.ticket F ∈ keys then none else st.ticketRow F := by
  induction keys generalizing st with
  | nil => simp [deleteKeys]
  | cons key keys ih =>
    rw [deleteKeys, List.foldl_cons, ← deleteKeys, ih]
    by_cases hmem : ClaimKey.ticket F ∈ keys
    · simp [hmem]
    · cases key with
      | ticket F' =>
        by_cases hF : F = F'
        · simp [deleteKey, hF]
        · simp [deleteKey, hmem, hF]
      | _ => simp [deleteKey, hmem, ticketRow, deleteExposure]

/-- Deleting claim keys leaves the control keys and the alarm alone. -/
theorem deleteKeys_control (keys : List ClaimKey) (st : ClaimStorage)
    (h : ClaimKey.pendingExpiryFloor ∉ keys ∧ ClaimKey.sweepAfter ∉ keys) :
    (st.deleteKeys keys).pendingExpiryFloor = st.pendingExpiryFloor ∧
      (st.deleteKeys keys).sweepAfter = st.sweepAfter ∧
      (st.deleteKeys keys).alarm = st.alarm := by
  induction keys generalizing st with
  | nil => simp [deleteKeys]
  | cons key keys ih =>
    simp only [List.mem_cons, not_or] at h
    rw [deleteKeys, List.foldl_cons, ← deleteKeys]
    have hrest := ih (st.deleteKey key) ⟨h.1.2, h.2.2⟩
    cases key with
    | pendingExpiryFloor => exact absurd rfl h.1.1
    | sweepAfter => exact absurd rfl h.2.1
    | exposure E => exact hrest
    | ticket F => exact hrest

/-! ## 5. The tick -/

/-- The page a tick reads. -/
def sweepPage (st : ClaimStorage) : List (ClaimKey × StoredRow) :=
  st.list EXPOSURE_REDEMPTION_SWEEP_PAGE_SIZE (st.sweepAfter.map SweepCursor.after)

/-- The storage after the expired rows of that page are gone. -/
def swept (st : ClaimStorage) (nowMs : Int) : ClaimStorage :=
  st.deleteKeys (collectExpiredKeys st.sweepPage nowMs).1

/-- What the drain knows after the page about the nearest expiry. -/
def sweepNextExpiry (st : ClaimStorage) (nowMs : Int) : Option Int :=
  minExpiry (st.sweepAfter.bind SweepCursor.nextExpiry) (collectExpiredKeys st.sweepPage nowMs).2

/-- The key is past the place where the drain stands. -/
def PastCursor (st : ClaimStorage) (key : ClaimKey) : Prop :=
  ∀ cursor ∈ st.sweepAfter, cursor.after.render < key.render

theorem mem_sweepPage {st : ClaimStorage} {entry : ClaimKey × StoredRow}
    (h : entry ∈ st.sweepPage) : entry ∈ st.entries ∧ st.PastCursor entry.1 := by
  obtain ⟨hmem, hkey⟩ := Paging.of_mem_page h
  refine ⟨hmem, fun cursor hc => hkey _ ?_⟩
  simp [Option.mem_def.mp hc]

theorem PastCursor.render {st : ClaimStorage} {key : ClaimKey} (h : st.PastCursor key) :
    ∀ k ∈ (st.sweepAfter.map SweepCursor.after).map ClaimKey.render, k < key.render := by
  simp only [Option.map_map, Option.mem_def, Option.map_eq_some_iff, Function.comp_apply]
  rintro _ ⟨cursor, hc, rfl⟩
  exact h cursor hc

/-- A short page is everything past the cursor. -/
theorem mem_sweepPage_of_short {st : ClaimStorage} {entry : ClaimKey × StoredRow}
    (hlen : st.sweepPage.length < EXPOSURE_REDEMPTION_SWEEP_PAGE_SIZE)
    (hmem : entry ∈ st.entries) (hkey : st.PastCursor entry.1) : entry ∈ st.sweepPage :=
  Paging.mem_page_of_short hlen hmem hkey.render

/-- A page holds everything from the cursor up to its own last key. -/
theorem mem_sweepPage_of_le_last {st : ClaimStorage} {entry last : ClaimKey × StoredRow}
    (hlast : st.sweepPage.getLast? = some last) (hmem : entry ∈ st.entries)
    (hkey : st.PastCursor entry.1) (hle : entry.1.render ≤ last.1.render) :
    entry ∈ st.sweepPage :=
  Paging.mem_page_of_le_last st.entries_sorted hlast hmem hkey.render hle

/-- **A tick deletes exactly the expired rows of its page.** A key is listed with its own row, and no
key renders like another, so deleting the key leaves all other rows. -/
theorem swept_exposureRow {st : ClaimStorage} {nowMs : Int} {E : String}
    {record : ExposureBindingRecord} :
    (st.swept nowMs).exposureRow E = some record ↔
      st.exposureRow E = some record ∧
        ((.exposure E, .exposure record) ∈ st.sweepPage → nowMs < record.expiresAt) := by
  rw [swept, deleteKeys_exposureRow]
  split
  · rename_i h
    rw [(collectExpiredKeys_spec _ _).1] at h
    obtain ⟨⟨key, row⟩, hmem, rfl, x, hx, hle⟩ := h
    obtain ⟨record', rfl, hrow⟩ := mem_entries_exposure.mp (mem_sweepPage hmem).1
    cases hx
    constructor
    · simp
    · rintro ⟨hr, himp⟩
      rw [hrow] at hr
      cases hr
      exact absurd (himp hmem) (not_lt.mpr hle)
  · rename_i h
    rw [(collectExpiredKeys_spec _ _).1] at h
    constructor
    · refine fun hr => ⟨hr, fun hmem => ?_⟩
      by_contra hle
      exact h ⟨_, hmem, rfl, record.expiresAt, rfl, not_lt.mp hle⟩
    · exact fun hr => hr.1

theorem swept_ticketRow {st : ClaimStorage} {nowMs : Int} {F : String}
    {record : TicketBindingRecord} :
    (st.swept nowMs).ticketRow F = some record ↔
      st.ticketRow F = some record ∧
        ((.ticket F, .ticket record) ∈ st.sweepPage → nowMs < record.expiresAt) := by
  rw [swept, deleteKeys_ticketRow]
  split
  · rename_i h
    rw [(collectExpiredKeys_spec _ _).1] at h
    obtain ⟨⟨key, row⟩, hmem, rfl, x, hx, hle⟩ := h
    obtain ⟨record', rfl, hrow⟩ := mem_entries_ticket.mp (mem_sweepPage hmem).1
    cases hx
    constructor
    · simp
    · rintro ⟨hr, himp⟩
      rw [hrow] at hr
      cases hr
      exact absurd (himp hmem) (not_lt.mpr hle)
  · rename_i h
    rw [(collectExpiredKeys_spec _ _).1] at h
    constructor
    · refine fun hr => ⟨hr, fun hmem => ?_⟩
      by_contra hle
      exact h ⟨_, hmem, rfl, record.expiresAt, rfl, not_lt.mp hle⟩
    · exact fun hr => hr.1

theorem swept_control (st : ClaimStorage) (nowMs : Int) :
    (st.swept nowMs).pendingExpiryFloor = st.pendingExpiryFloor ∧
      (st.swept nowMs).sweepAfter = st.sweepAfter ∧ (st.swept nowMs).alarm = st.alarm := by
  refine deleteKeys_control _ _ ⟨?_, ?_⟩ <;>
  · rw [(collectExpiredKeys_spec _ _).1]
    rintro ⟨⟨key, row⟩, _, rfl, x, hx, _⟩
    cases row <;> simp [claimRecordExpiresAt] at hx

/-- The nearest expiry is unknown exactly when the drain has seen no unexpired row. -/
theorem sweepNextExpiry_eq_none {st : ClaimStorage} {nowMs : Int} :
    st.sweepNextExpiry nowMs = none ↔
      (∀ cursor ∈ st.sweepAfter, cursor.nextExpiry = none) ∧
        ∀ entry ∈ st.sweepPage, ∀ x, claimRecordExpiresAt entry = some x → x ≤ nowMs := by
  rw [sweepNextExpiry, minExpiry_eq_none, (collectExpiredKeys_spec _ _).2,
    Option.bind_eq_none_iff]
  rfl

end ClaimStorage

open ClaimStorage

theorem deleteKeys_unarmed (keys : List ClaimKey) (st : ClaimStorage) :
    { st with alarm := none }.deleteKeys keys = { st.deleteKeys keys with alarm := none } := by
  induction keys generalizing st with
  | nil => rfl
  | cons key keys ih =>
    have hkey : { st with alarm := none }.deleteKey key
        = { st.deleteKey key with alarm := none } := by cases key <;> rfl
    rw [deleteKeys, List.foldl_cons, ← deleteKeys, hkey, ih]
    rfl

/-- **A tick on a full page** moves the cursor to the last key of the page and continues at once:
there may be rows behind it, and what it has remembered so far is kept with the cursor. -/
theorem alarm_step_full (st : ClaimStorage) (nowMs : Int)
    (h : EXPOSURE_REDEMPTION_SWEEP_PAGE_SIZE ≤ st.sweepPage.length) :
    ∃ last, st.sweepPage.getLast? = some last ∧
      (claimStep (.alarm nowMs) st).2
        = { st.swept nowMs with
            sweepAfter := some ⟨last.1, st.sweepNextExpiry nowMs⟩
            alarm := some nowMs } := by
  obtain ⟨last, hlast⟩ : ∃ last, st.sweepPage.getLast? = some last := by
    rw [← Option.ne_none_iff_exists', Ne, List.getLast?_eq_none_iff]
    intro hnil
    rw [hnil] at h
    exact absurd h (by decide)
  refine ⟨last, hlast, ?_⟩
  have hpage : { st with alarm := none }.list EXPOSURE_REDEMPTION_SWEEP_PAGE_SIZE
      (st.sweepAfter.map SweepCursor.after) = st.sweepPage := rfl
  simp [claimStep, runExposureRedemptionClaimAlarm, deleteExpired, hpage, h, persistSweepCursor,
    hlast, deleteKeys_unarmed, setExpiryAlarm, swept, sweepNextExpiry]

/-- **A tick on a short page** ends the drain: cursor and floor are cleared, and the alarm is set
to the nearest expiry the drain or the floor remembers. -/
theorem alarm_step_short (st : ClaimStorage) (nowMs : Int)
    (h : st.sweepPage.length < EXPOSURE_REDEMPTION_SWEEP_PAGE_SIZE) :
    (claimStep (.alarm nowMs) st).2
      = { st.swept nowMs with
          sweepAfter := none
          pendingExpiryFloor := none
          alarm := minExpiry (st.sweepNextExpiry nowMs) st.pendingExpiryFloor } := by
  have hpage : { st with alarm := none }.list EXPOSURE_REDEMPTION_SWEEP_PAGE_SIZE
      (st.sweepAfter.map SweepCursor.after) = st.sweepPage := rfl
  have hfloor := (swept_control st nowMs).1
  rw [swept] at hfloor
  cases hnext : minExpiry (st.sweepNextExpiry nowMs) st.pendingExpiryFloor <;>
  · rw [sweepNextExpiry] at hnext
    simp [claimStep, runExposureRedemptionClaimAlarm, deleteExpired, hpage, not_le.mpr h,
      takeExpiryWithPendingFloor, deleteKeys_unarmed, setExpiryAlarm, swept, hfloor, hnext]

end Splitch
