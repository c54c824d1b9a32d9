/-
# What the writer of a Temporary Environment keeps

A teardown must leave no projection in KV, while mutations of the same Environment are under way, calls fail
with or without their effect, and the object stops at any point.  The store keeps a JOURNAL for this: a key
is entered before it is put, and a teardown deletes what the journal lists.  The argument is an invariant of
the world, and a contract for the calls of the programs.

The invariant (`Holds`) says two things.  Every key in KV has an entry in the journal.  And once the state of
the object has been cleared, the journal with it, there is no key in KV and the Environment has expired.

A call is allowed (`Allows`) where it keeps this: a key is put when it is in the journal and the state was
not cleared, and the state is cleared when no key is left and the Environment has expired.  Calls that are
allowed keep the invariant whether they fail or not (`holds_answers`), and so does what happens elsewhere
(`holds_elsewhere`): time passes, entries of KV lapse, the row is fenced or deleted.

It remains that the programs make allowed calls only.  They make them on what they have READ, and what was
read must still hold when the call is made.  Nothing that a mutation knows may be lost but by a clearing
(`Lasting`); and the fence at its beginning reads the row first and the time after it, so that an Environment
that has not expired by then has not been cleared (`safe_writeFailure`).
-/
import Splitch.ConfigStore.ProjectionWriter

namespace Splitch

namespace ConfigStore

open Hosts

/-! ## 1. The invariant -/

/-- Whatever the row is, it has expired. -/
def World.Expired (w : World) : Prop :=
  ∀ row, w.row = some row → ∃ expiresAt, row.expiresAt = .time expiresAt ∧ expiresAt ≤ w.clock

/-- No projection is in KV. -/
def World.Bare (w : World) : Prop := ∀ key, w.kv key = none

structure Holds (w : World) : Prop where
  temporary : ∀ row, w.row = some row → row.expiresAt ≠ .never
  adapter : w.adapter ≠ .permanent
  journaled : ∀ key, w.kv key ≠ none → w.Journaled key
  gone : w.row = none → w.cleared = true
  bare : w.cleared = true → w.Bare
  expired : w.cleared = true → w.Expired
  stages : ∀ number, w.attempts number = some .exposures ∨ w.attempts number = some .deleting →
    w.cleared = true
  tornDown : w.tornDown = true → w.cleared = true

/-- Where a call may be made. -/
def Allows (w : World) : Call → Prop
  | .putKv key _ => w.Journaled key ∧ w.cleared = false
  | .observe adapter => adapter ≠ .permanent
  | .deleteAll => w.Bare ∧ w.Expired
  | _ => True

def contract : Contract World Call := ⟨Holds, Allows⟩

theorem Holds.setStage {w : World} {number : Nat} {stage : TeardownStage} (h : Holds w)
    (hstage : stage = .exposures ∨ stage = .deleting → w.cleared = true) :
    Holds (w.setStage number stage) where
  temporary := h.temporary
  adapter := h.adapter
  journaled := h.journaled
  gone := h.gone
  bare := h.bare
  expired := h.expired
  stages := by
    intro number' hstage'
    by_cases hsame : number' = number
    · subst hsame
      rw [World.setStage_attempts, Function.update_self, Option.some_inj, Option.some_inj] at hstage'
      exact hstage hstage'
    · rw [World.setStage_attempts, Function.update_of_ne hsame] at hstage'
      exact h.stages number' hstage'
  tornDown := h.tornDown

theorem World.Bare.deleteKv {w : World} (h : w.Bare) (key : String) : (w.deleteKv key).Bare := by
  intro key'
  by_cases hsame : key' = key
  · subst hsame
    exact Function.update_self ..
  · rw [World.deleteKv_kv, Function.update_of_ne hsame]
    exact h key'

theorem Holds.deleteKv {w : World} (h : Holds w) (key : String) : Holds (w.deleteKv key) where
  temporary := h.temporary
  adapter := h.adapter
  journaled := by
    intro key' hkey
    refine h.journaled key' fun hnone => hkey ?_
    by_cases hsame : key' = key
    · subst hsame
      exact Function.update_self ..
    · rw [World.deleteKv_kv, Function.update_of_ne hsame]
      exact hnone
  gone := h.gone
  bare hcleared := (h.bare hcleared).deleteKv key
  expired := h.expired
  stages := h.stages
  tornDown := h.tornDown

/-- **Elsewhere** the invariant is kept. Time and lapses only take keys away; and the sweep of the
control plane deletes the row in its last stage, which it reaches behind the stage that has seen the
state cleared. -/
theorem holds_elsewhere : host.Stable Holds := by
  intro w w' h hstep
  cases hstep with
  | tick by' =>
    refine { h with expired := fun hcleared row hrow => ?_ }
    obtain ⟨expiresAt, htime, hle⟩ := h.expired hcleared row hrow
    exact ⟨expiresAt, htime, hle.trans (by simp)⟩
  | lapse key => exact h.deleteKv key
  | begin number now =>
    refine h.setStage fun hstage => ?_
    cases hrow : w.row with
    | none => exact h.gone hrow
    | some row =>
      rw [hrow] at hstage
      simp only [h.temporary row hrow, if_false] at hstage
      rcases hstage with hstage | hstage <;> cases hstage
  | credentials number => exact h.setStage fun hstage => (by rcases hstage with h | h <;> cases h)
  | exposures number hstage => exact h.setStage fun _ => h.stages number (.inl hstage)
  | delete number hstage =>
    have hcleared := h.stages number (.inr hstage)
    have hrow : Holds { w with row := none } :=
      { h with
        temporary := fun row hrow => (by cases hrow)
        gone := fun _ => hcleared
        expired := fun _ row hrow => (by cases hrow) }
    exact hrow.setStage fun hstage => (by rcases hstage with h | h <;> cases h)
  | abandon number => exact h.setStage fun hstage => (by rcases hstage with h | h <;> cases h)

/-! ## 2. Answers -/

/-- The fence only brings the expiry forward. -/
theorem Fences.expired {w w' : World} {now : Int} (hf : Fences now w w') (h : w.Expired) :
    w'.Expired := by
  rcases hf with ⟨-, rfl⟩ | ⟨row, expiresAt, hrow, hfenced, rfl⟩
  · exact h
  · rintro _ ⟨⟩
    obtain ⟨time, htime, hle⟩ := h row hrow
    rw [htime] at hfenced
    cases hfenced
    exact ⟨_, rfl, (min_le_left _ _).trans hle⟩

theorem Holds.fences {w w' : World} {now : Int} (h : Holds w) (hf : Fences now w w') :
    Holds w' := by
  have hexpired := hf.expired
  rcases hf with ⟨-, rfl⟩ | ⟨row, expiresAt, hrow, hfenced, rfl⟩
  · exact h
  · refine
      { h with
        temporary := ?_
        gone := fun hnone => (by cases hnone)
        expired := fun hcleared => hexpired (h.expired hcleared) }
    rintro _ ⟨⟩ hnever
    rw [show expiresAt = .never from hnever] at hfenced
    generalize hold : row.expiresAt = old at hfenced
    cases hfenced
    exact h.temporary row hrow hold

theorem Holds.writes {w w' after : World} {reply : Except Fault Unit} (h : Holds w)
    (hafter : Holds after) (hw : Writes w after reply w') : Holds w' := by
  cases reply with
  | ok _ => exact (show w' = after from hw) ▸ hafter
  | error _ => rcases hw with rfl | rfl <;> assumption

theorem Holds.record {w : World} (h : Holds w) (key : String) : Holds (w.record key) :=
  { h with journaled := fun key' hkey => Finset.mem_insert_of_mem (h.journaled key' hkey) }

theorem Holds.putRevision {w : World} (h : Holds w) (revision : Nat) (flagId : String)
    (state : SnapshotState) : Holds (w.putRevision revision flagId state) := { h with }

theorem Holds.putKv {w : World} {key : String} {entry : KvEntry} (h : Holds w)
    (hallowed : Allows w (.putKv key entry)) : Holds (w.putKv key entry) := by
  obtain ⟨hjournaled, hopen⟩ := hallowed
  refine
    { h with
      journaled := fun key' hkey => ?_
      bare := fun hcleared => absurd (hopen.symm.trans hcleared) (by decide) }
  by_cases hsame : key' = key
  · exact hsame ▸ hjournaled
  · rw [World.putKv_kv, Function.update_of_ne hsame] at hkey
    exact h.journaled key' hkey

theorem Holds.clear {w : World} (h : Holds w) (hallowed : Allows w .deleteAll)
    (rest : ObjectStorage) : Holds { w with storage := rest, cleared := true } :=
  { h with
    journaled := fun key hkey => absurd (hallowed.1 key) hkey
    gone := fun _ => rfl
    bare := fun _ => hallowed.1
    expired := fun _ => hallowed.2
    stages := fun _ _ => rfl
    tornDown := fun _ => rfl }

/-- **Calls** that are allowed keep the invariant. A write may fail and have been made all the same,
so for each of them both outcomes are covered; a put is allowed with its key in the journal, and a
clearing with no key in KV. -/
theorem holds_answers {w w' : World} (call : Call) {reply : Reply call} (h : Holds w)
    (hallowed : Allows w call) (hans : answers w call reply w') : Holds w' := by
  cases call with
  | getEnvironment => exact hans.1 ▸ h
  | fenceEnvironment now =>
    cases reply with
    | ok row => exact h.fences hans.1
    | error fault =>
      rcases hans with rfl | hf
      · exact h
      · exact h.fences hf
  | author => exact (show w' = w from hans) ▸ h
  | loadSnapshot => exact (show w' = w from hans) ▸ h
  | getFlagKey => exact (show w' = w from hans) ▸ h
  | replacementExists => exact (show w' = w from hans) ▸ h
  | now => exact hans.1 ▸ h
  | observe adapter => exact hans.1 ▸ { h with adapter := hallowed }
  | adapter => exact hans.1 ▸ h
  | readRevision flagId => exact hans.1 ▸ h
  | putRevision revision flagId state => exact h.writes (h.putRevision revision flagId state) hans
  | putJournal key => exact h.writes (h.record key) hans
  | listJournal limit startAfter => exact hans.1 ▸ h
  | getKv key => exact (show w' = w from hans) ▸ h
  | putKv key entry => exact h.writes (h.putKv hallowed) hans
  | deleteKv key => exact h.writes (h.deleteKv key) hans
  | broadcast => exact (show w' = w from hans) ▸ h
  | closeSockets => exact (show w' = w from hans) ▸ h
  | deleteAll =>
    cases reply with
    | ok _ => exact (show w' = _ from hans) ▸ h.clear hallowed .empty
    | error _ =>
      obtain ⟨rest, -, rfl⟩ := hans
      exact h.clear hallowed rest

/-! ## 3. Programs that keep what they know -/

section Keeping

variable {α β : Type} {K : World → Prop}

/-- What is known besides the invariant. -/
def Known (K : World → Prop) (w : World) : Prop := Holds w ∧ K w

/-- From where `K` is known the program makes allowed calls only, and `K` stays known. -/
def Keeps (K : World → Prop) (p : Prog α) : Prop :=
  ∀ w, Known K w → Safe host contract (fun _ w => Known K w) p w

theorem stable_known (hK : host.Stable K) : host.Stable (Known K) := holds_elsewhere.and hK

/-- One call, made on what is known. -/
theorem safe_ask (call : Call) (post : Reply call → World → Prop) {w : World} (hK : host.Stable K)
    (h : Known K w) (hallowed : ∀ w, Known K w → Allows w call)
    (hpost : ∀ reply, host.Stable (post reply))
    (hans : ∀ w reply w', Known K w → answers w call reply w' → post reply w') :
    Safe host contract (fun reply w => Holds w ∧ post reply w) (ask call) w := by
  refine Safe.of_call (stable_known hK) h (fun w hw => ⟨hw.1, hallowed w hw⟩)
    fun w reply w' hw hreply => ?_
  have hholds := holds_answers call hw.1 (hallowed w hw) hreply
  exact Safe.of_done (holds_elsewhere.and (hpost reply)) ⟨hholds, hans w reply w' hw hreply⟩
    fun w hw => ⟨hw.1, hw⟩

theorem keeps_ask (call : Call) (hK : host.Stable K) (hallowed : ∀ w, Known K w → Allows w call)
    (hans : ∀ w reply w', Known K w → answers w call reply w' → K w') : Keeps K (ask call) :=
  fun _ h => safe_ask call _ hK h hallowed (fun _ => hK) hans

theorem Keeps.pure (hK : host.Stable K) (a : α) : Keeps K (pure a : Prog α) :=
  fun _ h => Safe.of_done (stable_known hK) h fun _ hw => ⟨hw.1, hw⟩

theorem Keeps.throw (hK : host.Stable K) (fault : Fault) : Keeps K (throw fault : Prog α) :=
  fun _ h => Safe.of_done (stable_known hK) h fun _ hw => ⟨hw.1, hw⟩

theorem Keeps.bind {x : Prog α} {f : α → Prog β} (hx : Keeps K x) (hf : ∀ a, Keeps K (f a)) :
    Keeps K (x >>= f) := by
  refine fun w h => Safe.bindE ((hx w h).mono fun result w' hknown => ?_)
  cases result with
  | ok a => exact hf a w' hknown
  | error fault => exact hknown

theorem Keeps.tryCatch {x : Prog α} {f : Fault → Prog α} (hx : Keeps K x)
    (hf : ∀ fault, Keeps K (f fault)) : Keeps K (tryCatch x f) := by
  refine fun w h => Safe.catchE ((hx w h).mono fun result w' hknown => ?_)
  cases result with
  | ok a => exact hknown
  | error fault => exact hf fault w' hknown

theorem Keeps.forM (hK : host.Stable K) {items : List α} {f : α → Prog Unit}
    (hf : ∀ item, Keeps K (f item)) : Keeps K (items.forM f) := by
  induction items with
  | nil => exact Keeps.pure hK ()
  | cons item items ih => exact (hf item).bind fun _ => ih

end Keeping

/-! ## 4. What lasts -/

section Lasting

variable {α : Type} {K : World → Prop}

/-- Knowledge that lasts as long as the state is not cleared. -/
structure Lasting (K : World → Prop) : Prop where
  stable : host.Stable K
  answers : ∀ w call reply w', call ≠ .deleteAll → K w → answers w call reply w' → K w'

/-- A call that is allowed wherever it is made. -/
def Plain : Call → Prop
  | .putKv _ _ => False
  | .observe adapter => adapter ≠ .permanent
  | .deleteAll => False
  | _ => True

theorem Plain.allows {call : Call} (h : Plain call) (w : World) : Allows w call := by
  cases call <;> first | exact h | exact h.elim

theorem Plain.ne_deleteAll {call : Call} (h : Plain call) : call ≠ .deleteAll := by
  rintro rfl
  exact h

theorem keeps_call (hK : Lasting K) (call : Call) (hcall : Plain call) : Keeps K (ask call) :=
  keeps_ask call hK.stable (fun w _ => hcall.allows w) fun w reply w' hw hans =>
    hK.answers w call reply w' hcall.ne_deleteAll hw.2 hans

/-- The state of the Environment has not been cleared. -/
def World.Open (w : World) : Prop := w.cleared = false

theorem lasting_true : Lasting fun _ => True := ⟨fun _ _ _ _ => trivial, fun _ _ _ _ _ _ _ => trivial⟩

theorem cleared_elsewhere {w w' : World} (h : Elsewhere w w') : w'.cleared = w.cleared := by
  cases h <;> rfl

theorem storage_elsewhere {w w' : World} (h : Elsewhere w w') : w'.storage = w.storage := by
  cases h <;> rfl

theorem Writes.of_both {w w' after : World} {reply : Except Fault Unit} {A : World → Prop}
    (h : Writes w after reply w') (hw : A w) (hafter : A after) : A w' := by
  cases reply with
  | ok _ => exact (show w' = after from h) ▸ hafter
  | error _ => rcases h with rfl | rfl <;> assumption

/-- What a call other than the clearing leaves: the clock, the flag, the entries of the journal, and that
the Environment has expired. -/
structure Left (w w' : World) : Prop where
  clock : w'.clock = w.clock
  cleared : w'.cleared = w.cleared
  journal : w.storage.journal ⊆ w'.storage.journal
  expired : w.Expired → w'.Expired

theorem Left.refl (w : World) : Left w w := ⟨rfl, rfl, fun _ h => h, fun h => h⟩

theorem answers_left {w w' : World} {call : Call} {reply : Reply call} (hcall : call ≠ .deleteAll)
    (hans : ConfigStore.answers w call reply w') : Left w w' := by
  have hfences : ∀ now, Fences now w w' → Left w w' := by
    intro now hf
    have hexpired := hf.expired
    rcases hf with ⟨-, rfl⟩ | ⟨row, expiresAt, -, -, rfl⟩ <;> exact ⟨rfl, rfl, fun _ h => h, hexpired⟩
  cases call with
  | getEnvironment => exact hans.1 ▸ .refl w
  | fenceEnvironment now =>
    cases reply with
    | ok row => exact hfences now hans.1
    | error fault =>
      rcases hans with rfl | hf
      · exact .refl w'
      · exact hfences now hf
  | author => exact (show w' = w from hans) ▸ .refl w
  | loadSnapshot => exact (show w' = w from hans) ▸ .refl w
  | getFlagKey => exact (show w' = w from hans) ▸ .refl w
  | replacementExists => exact (show w' = w from hans) ▸ .refl w
  | now => exact hans.1 ▸ .refl w
  | observe adapter => exact hans.1 ▸ ⟨rfl, rfl, fun _ h => h, fun h => h⟩
  | adapter => exact hans.1 ▸ .refl w
  | readRevision flagId => exact hans.1 ▸ .refl w
  | putRevision revision flagId state => exact hans.of_both (.refl w) ⟨rfl, rfl, fun _ h => h, fun h => h⟩
  | putJournal key => exact hans.of_both (.refl w) ⟨rfl, rfl, Finset.subset_insert _ _, fun h => h⟩
  | listJournal limit startAfter => exact hans.1 ▸ .refl w
  | getKv key => exact (show w' = w from hans) ▸ .refl w
  | putKv key entry => exact hans.of_both (.refl w) ⟨rfl, rfl, fun _ h => h, fun h => h⟩
  | deleteKv key => exact hans.of_both (.refl w) ⟨rfl, rfl, fun _ h => h, fun h => h⟩
  | broadcast => exact (show w' = w from hans) ▸ .refl w
  | closeSockets => exact (show w' = w from hans) ▸ .refl w
  | deleteAll => exact absurd rfl hcall

theorem Lasting.and {K' : World → Prop} (h : Lasting K) (h' : Lasting K') :
    Lasting fun w => K w ∧ K' w where
  stable := h.stable.and h'.stable
  answers w call reply w' hcall hk hans :=
    ⟨h.answers w call reply w' hcall hk.1 hans, h'.answers w call reply w' hcall hk.2 hans⟩

theorem lasting_open : Lasting World.Open where
  stable _ _ hopen hstep := (cleared_elsewhere hstep).trans hopen
  answers _ _ _ _ hcall hopen hans := (answers_left hcall hans).cleared.trans hopen

theorem lasting_journaled (key : String) : Lasting fun w => w.Journaled key where
  stable w w' h hstep := by
    change key ∈ w'.storage.journal
    exact storage_elsewhere hstep ▸ h
  answers _ _ _ _ hcall h hans := (answers_left hcall hans).journal h

end Lasting

/-! ## 5. The fence -/

section Fence

variable {K : World → Prop}

theorem keeps_observe (hK : Lasting K) {environment : Option EnvironmentRow}
    (htemporary : ∀ row, environment = some row → row.expiresAt ≠ .never) :
    Keeps K (observeEnvironment environment) := by
  cases environment with
  | none => exact keeps_call hK (.observe .unresolved) (by simp [Plain])
  | some row =>
    rw [observeEnvironment, if_neg (htemporary row rfl)]
    exact keeps_call hK (.observe .journaled) (by simp [Plain])

/-- What is known of a row that was read: a permanent one never, and if the state has been cleared the
row had expired. -/
def Read (row : Option EnvironmentRow) (w : World) : Prop :=
  ∀ r, row = some r → r.expiresAt ≠ .never ∧
    (w.cleared = true → ∃ expiresAt, r.expiresAt = .time expiresAt ∧ expiresAt ≤ w.clock)

theorem clock_elsewhere {w w' : World} (h : Elsewhere w w') : w.clock ≤ w'.clock := by
  cases h <;> first | exact le_refl _ | simp

theorem Read.later {row : Option EnvironmentRow} {w w' : World} (h : Read row w)
    (hcleared : w'.cleared = w.cleared) (hclock : w.clock ≤ w'.clock) : Read row w' := by
  refine fun r hr => ⟨(h r hr).1, fun hcleared' => ?_⟩
  obtain ⟨expiresAt, htime, hle⟩ := (h r hr).2 (hcleared.symm.trans hcleared')
  exact ⟨expiresAt, htime, hle.trans hclock⟩

theorem lasting_read (row : Option EnvironmentRow) : Lasting (Read row) where
  stable _ _ h hstep := h.later (cleared_elsewhere hstep) (clock_elsewhere hstep)
  answers _ _ _ _ hcall h hans :=
    h.later (answers_left hcall hans).cleared (answers_left hcall hans).clock.ge

theorem read_row {w : World} (h : Holds w) : Read w.row w := fun r hr =>
  ⟨h.temporary r hr, fun hcleared => h.expired hcleared r hr⟩

/-- The read of the row, whatever else is known. -/
theorem safe_getEnvironment (hK : Lasting K) {w : World} (h : Known K w) :
    Safe host contract (fun result w => Holds w ∧ K w ∧ ∀ row, result = Except.ok row → Read row w)
      getEnvironment w := by
  refine safe_ask .getEnvironment _ hK.stable h (fun _ _ => trivial) (fun reply => hK.stable.and
    fun w w' hread hstep row hrow => (lasting_read row).stable w w' (hread row hrow) hstep)
    fun w reply w' hw hans => ?_
  obtain ⟨rfl, hrow⟩ := hans
  refine ⟨hw.2, fun row hreply => ?_⟩
  rw [hrow row hreply]
  exact read_row hw.1

/-- The time is read after the row: if the row has not expired by then, the state was not cleared. -/
theorem safe_now (hK : Lasting K) {row : EnvironmentRow} {expiresAt : Int}
    (htime : row.expiresAt = .time expiresAt) {w : World}
    (h : Known (fun w => K w ∧ Read (some row) w) w) :
    Safe host contract (fun result w => Holds w ∧ K w ∧
      ∀ time, result = Except.ok time → ¬ expiresAt ≤ time → w.Open) now w := by
  refine safe_ask .now _ (hK.and (lasting_read _)).stable h (fun _ _ => trivial)
    (fun reply => hK.stable.and fun w w' hopen hstep time hreply hlt =>
      lasting_open.stable w w' (hopen time hreply hlt) hstep) fun w reply w' hw hans => ?_
  obtain ⟨rfl, rfl⟩ := hans
  refine ⟨hw.2.1, ?_⟩
  rintro time ⟨⟩ hlt
  rw [World.Open, Bool.eq_false_iff]
  intro hcleared
  obtain ⟨expiresAt', htime', hle⟩ := (hw.2.2 row rfl).2 hcleared
  rw [htime, Expiry.time.injEq] at htime'
  exact hlt (htime' ▸ hle)

/-- What is known after the fence. -/
def Passed (K : World → Prop) (result : Except Fault (Option EnvironmentWriteFailure)) (w : World) :
    Prop :=
  Holds w ∧ K w ∧ (result = .ok none → w.Open)

theorem stable_passed (hK : Lasting K) (result : Except Fault (Option EnvironmentWriteFailure)) :
    host.Stable (Passed K result) :=
  holds_elsewhere.and (hK.stable.and fun _ _ hw hstep hres =>
    lasting_open.stable _ _ (hw hres) hstep)

/-- A fence that ends without letting the mutation pass. -/
theorem passed_refused (hK : Lasting K) {w : World} (h : Known K w)
    {result : Except Fault (Option EnvironmentWriteFailure)} (hresult : result ≠ .ok none) :
    Safe host contract (Passed K) (.done result) w :=
  Safe.of_done (stable_passed hK result) ⟨h.1, h.2, fun heq => absurd heq hresult⟩
    fun _ hw => ⟨hw.1, hw⟩

/-- **The fence**: a mutation that it lets pass finds the state not cleared. It passes only a row
whose expiry is still ahead of a clock that was read later, and a cleared state has an expiry that is
behind. -/
theorem safe_writeFailure (hK : Lasting K) {w : World} (h : Known K w) :
    Safe host contract (Passed K) environmentWriteFailure w := by
  refine Safe.bindE ((keeps_observe hK (by simp) w h).mono fun result w h => ?_)
  cases result with
  | error fault => exact ⟨h.1, h.2, fun heq => (by cases heq)⟩
  | ok _ =>
    refine Safe.bindE ((safe_getEnvironment hK h).mono fun result w h => ?_)
    cases result with
    | error fault => exact ⟨h.1, h.2.1, fun heq => (by cases heq)⟩
    | ok environment =>
      obtain ⟨hholds, hk, hread⟩ := h
      have hread := hread environment rfl
      cases environment with
      | none => exact passed_refused hK ⟨hholds, hk⟩ (by simp)
      | some row =>
        obtain ⟨expiry⟩ := row
        cases expiry with
        | never => exact absurd rfl (hread _ rfl).1
        | unreadable => exact passed_refused hK ⟨hholds, hk⟩ (by simp)
        | time expiresAt =>
          refine Safe.bindE ((keeps_observe (hK.and (lasting_read _)) (by simp) w
            ⟨hholds, hk, hread⟩).mono fun result w h => ?_)
          cases result with
          | error fault => exact ⟨h.1, h.2.1, fun heq => (by cases heq)⟩
          | ok _ =>
            refine Safe.bindE ((safe_now hK rfl h).mono fun result w h => ?_)
            cases result with
            | error fault => exact ⟨h.1, h.2.1, fun heq => (by cases heq)⟩
            | ok time =>
              dsimp only
              by_cases hle : expiresAt ≤ time
              · rw [if_pos hle]
                exact passed_refused hK ⟨h.1, h.2.1⟩ (by simp)
              · rw [if_neg hle]
                exact Safe.of_done (stable_passed hK (.ok none))
                  ⟨h.1, h.2.1, fun _ => h.2.2 time rfl hle⟩ fun w hw => ⟨hw.1, hw⟩

end Fence

end ConfigStore

end Splitch
