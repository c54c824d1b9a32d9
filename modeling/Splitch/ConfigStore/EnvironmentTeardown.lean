/-
# The teardown of a Temporary Environment

A teardown fences the row, lists the journal page by page, deletes the key of every entry, and clears the
state.  It may clear only when no key is left in KV.  What it knows on the way is the matter of this module.

Calls of the object come one after the other, so while a teardown runs nobody else touches the storage; but
time passes, entries of KV lapse, and the row may be fenced and deleted by attempts elsewhere.  The listing
over its pages is therefore the journal as it was (`safe_listJournal`), and it ends when its calls do not
fail (`listJournal_ends`).  The keys are then deleted one after the other, and what is known between two
deletions is that the Environment has expired, that the journal is still the listed one, and that the earlier
keys are absent (`Deleting`, `safe_deleteKeys`).  A deletion that throws ends the attempt before it clears.

So a teardown that clears has found every key absent (`safe_teardown`), and a fence finds no row only where a
teardown has come to its end (`safe_fence`).

Histories of the writer put the programs together (`environment_teardown`): jobs of any kind, answers and
faults, restarts, and teardowns any number of times.  In each state that is reached every key in KV is in the
journal, and when the state has been cleared there is none, then and ever after.
-/
import Splitch.ConfigStore.ProjectionSafety

namespace Splitch

namespace ConfigStore

open Hosts

variable {K : World → Prop}

/-! ## 1. The listing -/

theorem World.mem_journalKeys {w : World} {key : String} : key ∈ w.journalKeys ↔ w.Journaled key :=
  Finset.mem_sort _

/-- The keys of the journal are the listed ones. -/
def World.Lists (listed : List String) (w : World) : Prop := w.journalKeys = listed

theorem stable_lists (listed : List String) : host.Stable (World.Lists listed) := by
  intro w w' h hstep
  change w'.storage.journal.sort (· ≤ ·) = listed
  rw [storage_elsewhere hstep]
  exact h

theorem pairwise_journalKeys (w : World) : w.journalKeys.Pairwise fun a b => id a < id b :=
  (Finset.sortedLT_sort w.storage.journal).pairwise

theorem journalPage_eq {w : World} {listed : List String} (h : w.Lists listed) (limit : Nat)
    (startAfter : Option String) :
    journalPage w limit startAfter = Paging.page id limit startAfter listed := by
  rw [journalPage, ← h]
  rfl

/-- **The listing** over its pages: if it ends, it is the journal. By induction on the pages that may
still be read; the journal does not grow under it, since the state is fenced, so each page starts
where the last one has ended. -/
theorem safe_listJournal (hK : Lasting K) (listed : List String) : ∀ (fuel : Nat)
    (keys : List String) (startAfter : Option String) {w : World},
    Known (fun w => K w ∧ w.Lists listed) w →
    Safe host contract (fun result w => Known (fun w => K w ∧ w.Lists listed) w ∧
      ∀ all, result = Except.ok all → ∃ found,
        Paging.walk id JOURNAL_PAGE_SIZE listed fuel startAfter = some found ∧ all = keys ++ found)
      (listJournal fuel keys startAfter) w
  | 0, _, _, _, h =>
    Safe.of_done (stable_known (hK.stable.and (stable_lists listed))) h
      fun _ hw => ⟨hw.1, hw, fun _ heq => (by cases heq)⟩
  | fuel + 1, keys, startAfter, w, h => by
    have hstable := hK.stable.and (stable_lists listed)
    refine Safe.bindE ((safe_ask (.listJournal JOURNAL_PAGE_SIZE startAfter)
      (fun reply w => (K w ∧ w.Lists listed) ∧ ∀ page, reply = .ok page →
        page = Paging.page id JOURNAL_PAGE_SIZE startAfter listed)
      hstable h (fun _ _ => trivial) (fun _ => hstable.and fun _ _ hpage _ => hpage)
      fun w reply w' hw hans => ?_).mono fun result w' hpost => ?_)
    · obtain ⟨rfl, hpage⟩ := hans
      exact ⟨hw.2, fun page hreply => (hpage page hreply).trans (journalPage_eq hw.2.2 _ _)⟩
    · obtain ⟨hholds, hknown, hpage⟩ := hpost
      cases result with
      | error fault => exact ⟨⟨hholds, hknown⟩, fun _ heq => (by cases heq)⟩
      | ok page =>
        obtain rfl := hpage page rfl
        change Safe host contract _ (if (Paging.page id JOURNAL_PAGE_SIZE startAfter listed).length <
          JOURNAL_PAGE_SIZE then _ else _ : Prog (List String)) w'
        split
        · next hshort =>
          refine Safe.of_done (stable_known hstable) ⟨hholds, hknown⟩ fun w hw => ⟨hw.1, hw, ?_⟩
          rintro all ⟨⟩
          exact ⟨_, Paging.walk_short hshort, rfl⟩
        · next hfull =>
          refine ((safe_listJournal hK listed fuel _ _ ⟨hholds, hknown⟩).mono
            fun result w hpost => ⟨hpost.1, fun all hall => ?_⟩)
          obtain ⟨found, hfound, rfl⟩ := hpost.2 all hall
          refine ⟨_, ?_, List.append_assoc _ _ _⟩
          rw [Paging.walk_full hfull, Option.map_id, id, hfound, Option.map_some]

/-- A host whose calls do not fail. -/
def reliable : Host World Call Reply where
  answers w call reply w' := answers w call reply w' ∧ ∃ answer, reply = .ok answer
  elsewhere := Elsewhere

/-- Nothing is asked of the states and the calls. -/
def unconstrained : Contract World Call := ⟨fun _ => True, fun _ _ => True⟩

/-- **The listing ends**, when its calls do not fail, after as many pages as the journal fills: a full
page moves the cursor on, and a short one is the last. -/
theorem listJournal_ends (listed : List String) : ∀ (fuel : Nat) (keys : List String)
    (startAfter : Option String) {found : List String} {w : World}, w.Lists listed →
    Paging.walk id JOURNAL_PAGE_SIZE listed fuel startAfter = some found →
    Safe reliable unconstrained (fun result _ => result = Except.ok (keys ++ found))
      (listJournal fuel keys startAfter) w
  | 0, _, _, _, _, _, hwalk => by cases hwalk
  | fuel + 1, keys, startAfter, found, w, h, hwalk => by
    refine Safe.bindE (Safe.of_call (A := World.Lists listed) (stable_lists listed) h
      (fun _ _ => ⟨trivial, trivial⟩) fun w reply w' hw hans => ?_)
    obtain ⟨⟨rfl, hpage⟩, page, rfl⟩ := hans
    obtain rfl := (hpage page rfl).trans (journalPage_eq hw _ _)
    refine Safe.of_done (stable_lists listed) hw fun w hw => ⟨trivial, ?_⟩
    change Safe reliable unconstrained _ (if (Paging.page id JOURNAL_PAGE_SIZE startAfter
      listed).length < JOURNAL_PAGE_SIZE then _ else _ : Prog (List String)) w
    split
    · next hshort =>
      rw [Paging.walk_short hshort, Option.some_inj] at hwalk
      exact Safe.of_done (stable_lists listed) hw fun _ _ => ⟨trivial, by rw [hwalk]⟩
    · next hfull =>
      rw [Paging.walk_full hfull, Option.map_id, id, Option.map_eq_some_iff] at hwalk
      obtain ⟨later, hlater, rfl⟩ := hwalk
      rw [← List.append_assoc]
      exact listJournal_ends listed fuel _ _ hw hlater

/-! ## 2. The teardown -/

theorem row_elsewhere {w w' : World} (h : Elsewhere w w') : w'.row = w.row ∨ w'.row = none := by
  cases h <;> first | exact .inl rfl | exact .inr rfl

theorem lasting_expired : Lasting World.Expired where
  stable w w' h hstep row hrow := by
    rcases row_elsewhere hstep with hsame | hgone
    · obtain ⟨expiresAt, htime, hle⟩ := h row (hsame.symm.trans hrow)
      exact ⟨expiresAt, htime, hle.trans (clock_elsewhere hstep)⟩
    · rw [hgone] at hrow
      cases hrow
  answers _ _ _ _ hcall h hans := (answers_left hcall hans).expired h

/-- The row is the one that was read, if there is still one. -/
def RowIs (row : EnvironmentRow) (w : World) : Prop := ∀ r, w.row = some r → r = row

theorem stable_rowIs (row : EnvironmentRow) : host.Stable (RowIs row) := by
  intro w w' h hstep r hr
  rcases row_elsewhere hstep with hsame | hgone
  · exact h r (hsame.symm.trans hr)
  · rw [hgone] at hr
    cases hr

/-- The keys are not in KV. -/
def Absent (keys : List String) (w : World) : Prop := ∀ key ∈ keys, w.kv key = none

theorem deleteKv_absent {w : World} {keys : List String} (h : Absent keys w) (key : String) :
    Absent keys (w.deleteKv key) := by
  intro key' hkey
  by_cases hsame : key' = key
  · exact hsame ▸ Function.update_self ..
  · rw [World.deleteKv_kv, Function.update_of_ne hsame]
    exact h key' hkey

theorem stable_absent (keys : List String) : host.Stable (Absent keys) := by
  intro w w' h hstep
  cases hstep with
  | lapse key => exact deleteKv_absent h key
  | _ => exact h

theorem bare_of_absent {w : World} (hholds : Holds w) (h : Absent w.journalKeys w) : w.Bare := by
  intro key
  by_contra hkey
  exact hkey (h key (World.mem_journalKeys.mpr (hholds.journaled key hkey)))

/-- What is known while the keys of the journal are deleted. -/
structure Deleting (listed gone : List String) (w : World) : Prop where
  expired : w.Expired
  lists : w.Lists listed
  absent : Absent gone w

theorem stable_deleting (listed gone : List String) : host.Stable (Deleting listed gone) :=
  fun w w' h hstep => ⟨lasting_expired.stable w w' h.expired hstep,
    stable_lists listed w w' h.lists hstep, stable_absent gone w w' h.absent hstep⟩

/-- **The deletion** of the keys: when it has not thrown, all of them are absent. A key that is gone
stays gone, since nothing puts any more, which is what lets the list of the absent keys grow call by
call. -/
theorem safe_deleteKeys (listed : List String) : ∀ (keys gone : List String) {w : World},
    Known (Deleting listed gone) w →
    Safe host contract (fun result w => Holds w ∧
      (result = Except.ok () → Deleting listed (gone ++ keys) w)) (keys.forM deleteKv) w
  | [], gone, _, h => Safe.of_done (stable_known (stable_deleting listed gone)) h
      fun _ hw => ⟨hw.1, hw.1, fun _ => (List.append_nil gone).symm ▸ hw.2⟩
  | key :: keys, gone, w, h => by
    refine Safe.bindE ((safe_ask (.deleteKv key) (fun reply w => reply = .ok () →
      Deleting listed (gone ++ [key]) w) (stable_deleting listed gone) h (fun _ _ => trivial)
      (fun _ w w' hdone hstep hreply => stable_deleting _ _ w w' (hdone hreply) hstep)
      fun w reply w' hw hans => ?_).mono fun result w' hpost => ?_)
    · rintro rfl
      obtain rfl : w' = w.deleteKv key := hans
      refine ⟨hw.2.expired, hw.2.lists, fun key' hkey => ?_⟩
      rcases List.mem_append.mp hkey with hkey | hkey
      · exact deleteKv_absent hw.2.absent key key' hkey
      · rw [List.mem_singleton.mp hkey]
        exact Function.update_self ..
    · cases result with
      | error fault => exact ⟨hpost.1, fun heq => (by cases heq)⟩
      | ok _ =>
        rw [List.append_cons]
        exact safe_deleteKeys listed keys (gone ++ [key]) ⟨hpost.1, hpost.2 rfl⟩

/-- What is known when a teardown is over. -/
def Cleared (result : Except Fault Unit) (w : World) : Prop :=
  Holds w ∧ (result = .ok () → w.cleared = true)

theorem stable_cleared (result : Except Fault Unit) : host.Stable (Cleared result) :=
  holds_elsewhere.and fun _ _ h hstep hresult => (cleared_elsewhere hstep).trans (h hresult)

theorem Cleared.of_error {w : World} (h : Holds w) (fault : Fault) : Cleared (.error fault) w :=
  ⟨h, fun heq => (by cases heq)⟩

theorem safe_clearEnvironmentState {listed : List String} {w : World}
    (h : Known (Deleting listed listed) w) :
    Safe host contract Cleared clearEnvironmentState w := by
  refine Safe.bindE ((keeps_ask .closeSockets (stable_deleting listed listed)
    (fun _ _ => trivial) (fun w reply w' hw hans => ?_) w h).mono fun result w h => ?_)
  · obtain rfl : w' = w := hans
    exact hw.2
  · cases result with
    | error fault => exact Cleared.of_error h.1 fault
    | ok _ =>
      refine (safe_ask .deleteAll (fun reply w => reply = .ok () → w.cleared = true)
        (stable_deleting listed listed) h (fun w hw => ⟨bare_of_absent hw.1 ?_, hw.2.expired⟩)
        (fun _ _ _ h hstep hreply => (cleared_elsewhere hstep).trans (h hreply))
        fun w reply w' hw hans => ?_)
      · exact (show w.journalKeys = listed from hw.2.lists) ▸ hw.2.absent
      · rintro rfl
        rw [show w' = _ from hans]

/-- A walk of the whole journal. -/
theorem walk_journalKeys {w : World} {fuel : Nat} {found : List String}
    (h : Paging.walk id JOURNAL_PAGE_SIZE w.journalKeys fuel none = some found) :
    found = w.journalKeys := by
  rw [Paging.walk_eq_rest (pairwise_journalKeys w) (by decide) h]
  exact List.filter_eq_self.mpr fun _ _ => rfl

/-- The teardown once the Environment has expired: list, delete, clear. -/
theorem safe_emptyAndClear (fuel : Nat) {w : World} (h : Known World.Expired w) :
    Safe host contract Cleared (do
      let keys ← listJournal fuel [] none
      keys.forM deleteKv
      clearEnvironmentState : Prog Unit) w := by
  refine Safe.bindE ((safe_listJournal lasting_expired w.journalKeys fuel [] none
    ⟨h.1, h.2, rfl⟩).mono fun result w' hlisted => ?_)
  obtain ⟨⟨hholds, hexpired, hlists⟩, hall⟩ := hlisted
  cases result with
  | error fault => exact Cleared.of_error hholds fault
  | ok keys =>
    obtain ⟨found, hfound, rfl⟩ := hall keys rfl
    obtain rfl := walk_journalKeys hfound
    refine Safe.bindE ((safe_deleteKeys w.journalKeys w.journalKeys [] ⟨hholds, hexpired, hlists,
      fun key hkey => (by cases hkey)⟩).mono fun result w'' hdeleted => ?_)
    cases result with
    | error fault => exact Cleared.of_error hdeleted.1 fault
    | ok _ => exact safe_clearEnvironmentState ⟨hdeleted.1, hdeleted.2 rfl⟩

/-- **The teardown** clears the state only when no key is left. Each call it makes may fail, and then
it is left as it stands: the journal is dropped behind the deletions alone, so a teardown that is
tried again finds what it still has to delete. -/
theorem safe_teardown (fuel : Nat) {w : World} (h : Holds w) :
    Safe host contract Cleared (teardownTemporaryEnvironmentState fuel) w := by
  refine Safe.bindE ((safe_ask .getEnvironment (fun reply w =>
      (reply = .ok none → w.cleared = true) ∧ ∀ row, reply = .ok (some row) → RowIs row w)
    (K := fun _ => True) lasting_true.stable ⟨h, trivial⟩ (fun _ _ => trivial) (fun reply w w' h hstep =>
      ⟨fun hnone => (cleared_elsewhere hstep).trans (h.1 hnone),
        fun row hrow => stable_rowIs row w w' (h.2 row hrow) hstep⟩)
    fun w reply w' hw hans => ?_).mono fun result w h => ?_)
  · obtain ⟨rfl, hrow⟩ := hans
    refine ⟨fun hnone => hw.1.gone (hrow none hnone).symm, fun row hsome r hr => ?_⟩
    exact Option.some_inj.mp (hr.symm.trans (hrow (some row) hsome).symm)
  · obtain ⟨hholds, hnone, hrow⟩ := h
    cases result with
    | error fault => exact Cleared.of_error hholds fault
    | ok environment =>
      cases environment with
      | none =>
        exact Safe.of_done (stable_cleared (.ok ())) ⟨hholds, fun _ => hnone rfl⟩
          fun w hw => ⟨hw.1, hw⟩
      | some row =>
        refine Safe.bindE ((safe_ask .now (fun reply w => RowIs row w ∧
            ∀ time : Int, reply = .ok time → time ≤ w.clock)
          (stable_rowIs row) ⟨hholds, hrow row rfl⟩ (fun _ _ => trivial) (fun _ =>
            (stable_rowIs row).and fun _ _ htime hstep time hreply =>
              (htime time hreply).trans (clock_elsewhere hstep))
          fun w reply w' hw hans => ?_).mono fun result w h => ?_)
        · obtain ⟨rfl, rfl⟩ := hans
          refine ⟨hw.2, ?_⟩
          rintro time ⟨⟩
          exact le_rfl
        · obtain ⟨hholds, hrow, htime⟩ := h
          cases result with
          | error fault => exact Cleared.of_error hholds fault
          | ok answer =>
            obtain ⟨time, rfl⟩ : ∃ time : Int, time = answer := ⟨answer, rfl⟩
            obtain ⟨expiry⟩ := row
            have hthrow : ∀ fault, Safe host contract Cleared (.done (.error fault)) w := fun fault =>
              Safe.of_done (stable_cleared _) (Cleared.of_error hholds fault) fun w hw => ⟨hw.1, hw⟩
            cases expiry with
            | never => exact hthrow _
            | unreadable => exact hthrow _
            | time expiresAt =>
              dsimp only
              split
              · exact hthrow _
              · next hexpired =>
                rw [Bool.not_eq_false] at hexpired
                have hexpired := of_decide_eq_true hexpired
                refine safe_emptyAndClear fuel ⟨hholds, fun r hr => ?_⟩
                exact ⟨expiresAt, by rw [hrow r hr], hexpired.trans (htime time rfl)⟩

/-- **The fence** finds no Environment only when the state has been cleared: the row goes in the last
stage of the teardown, and that stage is entered behind a cleared state. -/
theorem safe_fence (now : Int) {w : World} (h : Holds w) :
    Safe host contract (fun result w => Holds w ∧ (result = Except.ok false → w.cleared = true))
      (fenceTemporaryEnvironment now) w := by
  have hstable : ∀ result : Except Fault Bool,
      host.Stable fun w => Holds w ∧ (result = .ok false → w.cleared = true) := fun _ =>
    holds_elsewhere.and fun _ _ h hstep hresult => (cleared_elsewhere hstep).trans (h hresult)
  refine Safe.bindE ((safe_ask (.fenceEnvironment now) (fun reply w =>
      reply = .ok none → w.cleared = true)
    (K := fun _ => True) lasting_true.stable ⟨h, trivial⟩ (fun _ _ => trivial)
    (fun _ _ _ h hstep hreply => (cleared_elsewhere hstep).trans (h hreply))
    fun w reply w' hw hans => ?_).mono fun result w h => ?_)
  · rintro rfl
    exact (holds_answers (.fenceEnvironment now) hw.1 trivial hans).gone hans.2.symm
  · obtain ⟨hholds, hnone⟩ := h
    have hdone : ∀ result, result ≠ Except.ok false → Safe host contract
        (fun result w => Holds w ∧ (result = Except.ok false → w.cleared = true)) (.done result) w :=
      fun result hresult => Safe.of_done (hstable result) ⟨hholds, fun heq => absurd heq hresult⟩
        fun w hw => ⟨hw.1, hw⟩
    cases result with
    | error fault => exact ⟨hholds, fun heq => (by cases heq)⟩
    | ok row =>
      cases row with
      | none =>
        exact Safe.of_done (hstable (.ok false)) ⟨hholds, fun _ => hnone rfl⟩ fun w hw => ⟨hw.1, hw⟩
      | some row =>
        dsimp only
        split
        · exact hdone (.error _) (by simp)
        · exact hdone (.ok true) (by simp)

/-! ## 3. Histories of the writer -/

section Histories

variable (sortBindings : List ActivationBinding → List ActivationBinding) (scope : EnvScope)

/-- What is known when a job is over. -/
def Post : Job → Except Fault JobResult → World → Prop
  | .fence _ _, .ok (.found false), w => w.cleared = true
  | .teardown _ _, .ok .tornDown, w => w.cleared = true
  | _, _, _ => True

theorem Holds.starts {w w' : World} {job : Job} (h : Holds w) (hstarts : Starts w job w') :
    Holds w' := by
  cases job with
  | fence number now =>
    rw [hstarts.2]
    exact h.setStage fun hstage => (by rcases hstage with h | h <;> cases h)
  | teardown number fuel =>
    rw [hstarts.2]
    exact h.setStage fun hstage => (by rcases hstage with h | h <;> cases h)
  | _ => exact (show w' = w from hstarts) ▸ h

theorem Keeps.safe_job {α : Type} {x : Prog α} (hx : Keeps (fun _ => True) x) {w : World} (h : Holds w)
    {f : α → JobResult} {post : Except Fault JobResult → World → Prop}
    (hpost : ∀ result w, post result w) :
    Safe host contract post (f <$> x : Prog JobResult) w :=
  Safe.mapE ((hx w ⟨h, trivial⟩).mono fun _ w _ => hpost _ w)

/-- Every job is safe. -/
theorem safe_program {w : World} (h : Holds w) (job : Job) :
    Safe host contract (Post job) (program sortBindings scope job) w := by
  cases job with
  | mutate steps removesActivation =>
    exact (keeps_mutateFlagConfig sortBindings scope steps removesActivation).safe_job h
      fun _ _ => trivial
  | preview steps => exact (keeps_previewFlagConfig steps).safe_job h fun _ _ => trivial
  | repair flagId =>
    exact (keeps_repairFlagConfigSnapshot sortBindings scope flagId).safe_job h fun _ _ => trivial
  | repairOnRead flagId =>
    exact (keeps_repairOnRead sortBindings scope flagId).safe_job h fun _ _ => trivial
  | delete flagId flagKey experimentIds =>
    exact (keeps_deleteFlagConfigFromStore sortBindings scope flagId flagKey experimentIds).safe_job h
      fun _ _ => trivial
  | fence number now =>
    refine Safe.mapE ((safe_fence now h).mono fun result w hpost => ?_)
    rcases result with fault | ⟨_ | _⟩
    · trivial
    · exact hpost.2 rfl
    · trivial
  | teardown number fuel =>
    refine Safe.mapE ((safe_teardown fuel h).mono fun result w hpost => ?_)
    cases result with
    | error fault => trivial
    | ok _ => exact hpost.2 rfl

theorem Holds.settle {w : World} {job : Job} {result : Except Fault JobResult} (h : Holds w)
    (hpost : Post job result w) : Holds (settle job result w) := by
  unfold ConfigStore.settle
  split
  · split
    · exact h.setStage fun hstage => (by rcases hstage with h | h <;> cases h)
    · exact h
  · split
    · exact h.setStage fun _ => hpost
    · exact h
  · have htorn : Holds { w with tornDown := true } := { h with tornDown := fun _ => hpost }
    dsimp only
    split
    · exact htorn.setStage fun _ => hpost
    · exact htorn
  · exact h

theorem Holds.restart {w : World} (h : Holds w) : Holds (restart w) :=
  { h with adapter := by simp [ConfigStore.restart] }

/-- A Temporary Environment when it was created. -/
def World.created (expiry : Expiry) (clock : Int) : World where
  row := some ⟨expiry⟩
  clock := clock
  kv := fun _ => none
  storage := .empty
  adapter := .unresolved
  attempts := fun _ => none
  cleared := false
  tornDown := false

theorem holds_created {expiry : Expiry} (hexpiry : expiry ≠ .never) (clock : Int) :
    Holds (World.created expiry clock) where
  temporary := by
    rintro row ⟨⟩
    exact hexpiry
  adapter := by simp [World.created]
  journaled key hkey := absurd rfl hkey
  gone hrow := by cases hrow
  bare hcleared := by cases hcleared
  expired hcleared := by cases hcleared
  stages number hstage := by rcases hstage with h | h <;> cases h
  tornDown htorn := by cases htorn

abbrev State : Type := Server.State World Call Job (Except Fault JobResult) Reply

/-- The writer is at the put of the key. -/
def Putting (s : State) (key : String) : Prop :=
  ∃ job entry next, s.running = some (job, .call (.putKv key entry) next)

variable {sortBindings scope} {s s' : State}

/-- **Every history** keeps the invariant. -/
theorem reaches_ok {expiry : Expiry} (hexpiry : expiry ≠ .never) {clock : Int}
    (h : (server sortBindings scope).Reaches ⟨.created expiry clock, none⟩ s) :
    (server sortBindings scope).Ok contract Post s := by
  have hcreated : (server sortBindings scope).Ok contract Post ⟨.created expiry clock, none⟩ :=
    ⟨holds_created hexpiry clock, fun job p hrun => (by cases hrun)⟩
  exact Server.reachable_ok holds_elsewhere
    (fun w job w' hholds hstarts => safe_program sortBindings scope (hholds.starts hstarts) job)
    (fun w job result hholds hpost => hholds.settle hpost) (fun w hholds => hholds.restart) hcreated h

theorem settle_left (job : Job) (result : Except Fault JobResult) (w : World) :
    (settle job result w).cleared = w.cleared ∧ (settle job result w).storage = w.storage := by
  unfold settle
  split
  · split <;> exact ⟨rfl, rfl⟩
  · split <;> exact ⟨rfl, rfl⟩
  · dsimp only
    split <;> exact ⟨rfl, rfl⟩
  · exact ⟨rfl, rfl⟩

theorem starts_left {w w' : World} {job : Job} (h : Starts w job w') :
    w'.cleared = w.cleared ∧ w'.storage = w.storage := by
  cases job with
  | fence number now => exact h.2 ▸ ⟨rfl, rfl⟩
  | teardown number fuel => exact h.2 ▸ ⟨rfl, rfl⟩
  | _ => exact (show w' = w from h) ▸ ⟨rfl, rfl⟩

/-- A step leaves the flag and the entries of the journal, unless it clears the state. -/
theorem step_left (h : (server sortBindings scope).Step s s') :
    (s'.world.cleared = s.world.cleared ∧ s.world.storage.journal ⊆ s'.world.storage.journal) ∨
    (s'.world.cleared = true ∧ ∃ job next, s.running = some (job, .call .deleteAll next)) := by
  cases h with
  | elsewhere helse =>
    exact .inl ⟨cleared_elsewhere helse, fun _ hkey => (storage_elsewhere helse).symm ▸ hkey⟩
  | start hstarts =>
    exact .inl ⟨(starts_left hstarts).1, fun _ hkey => (starts_left hstarts).2.symm ▸ hkey⟩
  | @call w w' job op next reply hans =>
    by_cases hop : op = .deleteAll
    · subst hop
      refine .inr ⟨?_, job, next, rfl⟩
      cases reply with
      | ok _ => rw [show w' = _ from hans]
      | error _ =>
        obtain ⟨rest, -, rfl⟩ := hans
        rfl
    · have hleft := answers_left hop hans
      exact .inl ⟨hleft.cleared, hleft.journal⟩
  | @settle w job result =>
    have hleft := settle_left job result w
    exact .inl ⟨hleft.1, fun _ hkey => hleft.2.symm ▸ hkey⟩
  | stop => exact .inl ⟨rfl, fun _ hkey => hkey⟩

theorem cleared_reaches (h : (server sortBindings scope).Reaches s s')
    (hcleared : s.world.cleared = true) : s'.world.cleared = true := by
  induction h with
  | refl => exact hcleared
  | tail _ hstep ih =>
    rcases step_left hstep with hleft | hleft
    · exact hleft.1.trans ih
    · exact hleft.1

theorem allows_running (h : (server sortBindings scope).Ok contract Post s) {job : Job} {call : Call}
    {next : Reply call → Calls Call Reply (Except Fault JobResult)}
    (hrun : s.running = some (job, .call call next)) : Allows s.world call :=
  (h.2 job _ hrun s.world .refl).2.1

/-- **Teardown leaves no projection.**  Over every history of the writer of a Temporary Environment, in
which calls fail and the object stops at any point: a key is in the journal before it is put; the listing
of the journal returns all of it, when its calls do not fail; an entry of the journal goes only when its
key is not in KV; and when a teardown has completed there is no key in KV, and none is put any more. -/
theorem environment_teardown {expiry : Expiry} (hexpiry : expiry ≠ .never) (clock : Int)
    (h : (server sortBindings scope).Reaches ⟨.created expiry clock, none⟩ s) :
    (∀ key, Putting s key → s.world.Journaled key) ∧
    (∀ fuel, s.world.journalKeys.length < JOURNAL_PAGE_SIZE * fuel →
      Safe reliable unconstrained (fun result _ => result = Except.ok s.world.journalKeys)
        (listJournal fuel [] none) s.world) ∧
    (∀ s' key, (server sortBindings scope).Step s s' → s.world.Journaled key →
      ¬ s'.world.Journaled key → s.world.kv key = none) ∧
    (s.world.tornDown = true → ∀ s', (server sortBindings scope).Reaches s s' →
      s'.world.Bare ∧ ∀ key, ¬ Putting s' key) := by
  have hok := reaches_ok hexpiry h
  refine ⟨?_, ?_, ?_, ?_⟩
  · rintro key ⟨job, entry, next, hrun⟩
    exact (allows_running hok hrun).1
  · intro fuel hfuel
    have hrest : Paging.rest id none s.world.journalKeys = s.world.journalKeys :=
      List.filter_eq_self.mpr fun _ _ => rfl
    obtain ⟨found, hfound⟩ := Paging.exists_walk (pairwise_journalKeys s.world)
      (show 0 < JOURNAL_PAGE_SIZE by decide) fuel none (by rw [hrest]; exact hfuel)
    obtain rfl := walk_journalKeys hfound
    exact listJournal_ends s.world.journalKeys fuel [] none rfl hfound
  · intro s' key hstep hjournaled hgone
    rcases step_left hstep with hleft | ⟨-, job, next, hrun⟩
    · exact absurd (hleft.2 hjournaled) hgone
    · exact (allows_running hok hrun).1 key
  · intro htorn s' hreaches
    have hok' := reaches_ok hexpiry (h.trans hreaches)
    have hcleared := cleared_reaches hreaches (hok.1.tornDown htorn)
    refine ⟨hok'.1.bare hcleared, ?_⟩
    rintro key ⟨job, entry, next, hrun⟩
    exact absurd ((allows_running hok' hrun).2.symm.trans hcleared) (by decide)

end Histories

/-! ## 4. A history

The only Flag of a Temporary Environment is projected, so that its key is in KV.  The Environment expires,
and is torn down at the second attempt. -/

section History

variable {scope : EnvScope} {w w' : World} {job : Job} {call : Call} {s : State}
  {next : Reply call → Calls Call Reply (Except Fault JobResult)}

theorem reaches_answer (answer : Answer call) (hans : answers w call (.ok answer) w')
    (h : (server id scope).Reaches ⟨w', some (job, next (.ok answer))⟩ s) :
    (server id scope).Reaches ⟨w, some (job, .call call next)⟩ s := .head (.call hans) h

theorem reaches_fault (fault : Fault) (hans : answers w call (.error fault) w')
    (h : (server id scope).Reaches ⟨w', some (job, next (.error fault))⟩ s) :
    (server id scope).Reaches ⟨w, some (job, .call call next)⟩ s := .head (.call hans) h

theorem setStage_setStage (w : World) (number : Nat) (stage stage' : TeardownStage) :
    (w.setStage number stage).setStage number stage' = w.setStage number stage' := by
  simp only [World.setStage, Function.update_idem]

theorem setStage_stage (w : World) (number : Nat) (stage : TeardownStage) :
    (w.setStage number stage).attempts number = some stage := Function.update_self ..

/-- An attempt to tear down an Environment that expires at 3 fences it at 5, and goes on to the teardown. -/
theorem reaches_tearing (hrow : w.row = some ⟨.time 3⟩) {number : Nat}
    (hnew : w.attempts number = none) :
    (server id scope).Reaches ⟨w, none⟩ ⟨w.setStage number .tearing, none⟩ := by
  let S := server id scope
  have hbegin : S.Step ⟨w, none⟩ ⟨w.setStage number (.fencing 5), none⟩ := by
    have h := Elsewhere.begin w number 5 hnew
    rw [hrow] at h
    exact .elsewhere h
  have hstart : S.Step ⟨w.setStage number (.fencing 5), none⟩
      ⟨w.setStage number .awaitsFence, some (.fence number 5, S.program (.fence number 5))⟩ :=
    .start ⟨setStage_stage .., (setStage_setStage ..).symm⟩
  have hfence : Fences 5 (w.setStage number .awaitsFence) (w.setStage number .awaitsFence) :=
    .inr ⟨⟨.time 3⟩, .time 3, hrow, .time 3, by cases w; cases hrow; rfl⟩
  have hsettle : settle (.fence number 5) (.ok (.found true)) (w.setStage number .awaitsFence) =
      w.setStage number .credentials := by
    rw [settle, if_pos (setStage_stage ..), setStage_setStage]
  have hcredentials : S.Step ⟨w.setStage number .credentials, none⟩
      ⟨w.setStage number .tearing, none⟩ := by
    have h := Elsewhere.credentials _ number (setStage_stage w number .credentials)
    rw [setStage_setStage] at h
    exact .elsewhere h
  refine .head hbegin (.head hstart ?_)
  refine reaches_answer (some (⟨.time 3⟩ : EnvironmentRow)) ⟨hfence, hrow.symm⟩ ?_
  exact .head (hsettle ▸ .settle) (.single hcredentials)

/-- The Environment is open for writes until 3. -/
def opened : World := { World.created (.time 3) 2 with adapter := .journaled }

def flagSnapshot : Snapshot := ⟨"flag-1", "checkout", none, none, []⟩

variable (scope)

def snapshotKey : String := scope.controlPlaneFlagConfigKey "flag-1"

/-- Its only Flag is projected: the first put is done, and the second key cannot be recorded. -/
def projected : World :=
  ((opened.putRevision 1 "flag-1" .present).record (snapshotKey scope)).putKv (snapshotKey scope)
    ⟨.controlPlaneFlagConfig "flag-1" 1 false, none⟩

theorem reaches_projected :
    (server id scope).Reaches ⟨.created (.time 3) 2, none⟩ ⟨projected scope, none⟩ := by
  let S := server id scope
  let fault : Fault := .error "the storage of the object is not reached"
  have hstart : S.Step ⟨.created (.time 3) 2, none⟩
      ⟨.created (.time 3) 2, some (.repair "flag-1", S.program (.repair "flag-1"))⟩ := .start rfl
  have hrow : ∀ row, Except.ok (some ⟨.time 3⟩) = (Except.ok row : Except Fault _) →
      row = some (⟨.time 3⟩ : EnvironmentRow) := fun _ heq => (Except.ok.inj heq).symm
  refine .head hstart ?_
  refine reaches_answer () ⟨rfl, rfl⟩ (reaches_answer (some (⟨.time 3⟩ : EnvironmentRow)) ⟨rfl, hrow⟩ ?_)
  refine reaches_answer () ⟨rfl, rfl⟩ (reaches_answer (2 : Int) ⟨rfl, rfl⟩ ?_)
  refine reaches_answer (some flagSnapshot) rfl ?_
  refine reaches_answer (none, none) ⟨rfl, fun _ heq => (Except.ok.inj heq).symm⟩ ?_
  refine reaches_answer () rfl ?_
  refine reaches_answer () ⟨rfl, rfl⟩ (reaches_answer (some (⟨.time 3⟩ : EnvironmentRow)) ⟨rfl, hrow⟩ ?_)
  refine reaches_answer () ⟨rfl, rfl⟩ (reaches_answer (2 : Int) ⟨rfl, rfl⟩ ?_)
  refine reaches_answer (Adapter.journaled) ⟨rfl, rfl⟩ ?_
  refine reaches_answer () rfl (reaches_answer () rfl ?_)
  exact reaches_fault fault (.inl rfl) (.single .settle)

/-- It has expired. -/
def lapsed : World := { projected scope with clock := 5 }

/-- At the first attempt to tear it down the key has not been deleted. -/
def failed : World := (lapsed scope).setStage 0 .awaitsTeardown

def emptied : World :=
  { ((failed scope).setStage 1 .awaitsTeardown).deleteKv (snapshotKey scope) with
    storage := .empty
    cleared := true }

/-- What a teardown does when it has listed the key. -/
def deletion : Calls Call Reply (Except Fault JobResult) :=
  ((fun _ => .tornDown) <$> (do
    [snapshotKey scope].forM deleteKv
    clearEnvironmentState) : Prog JobResult)

theorem reaches_deletion (hrow : w.row = some ⟨.time 3⟩) (hclock : w.clock = 5)
    (hjournal : w.storage.journal = {snapshotKey scope}) (number : Nat)
    (hnew : w.attempts number = none) :
    (server id scope).Reaches ⟨w, none⟩
      ⟨w.setStage number .awaitsTeardown, some (.teardown number 1, deletion scope)⟩ := by
  let S := server id scope
  have hstart : S.Step ⟨w.setStage number .tearing, none⟩ ⟨w.setStage number .awaitsTeardown,
      some (.teardown number 1, S.program (.teardown number 1))⟩ :=
    .start ⟨setStage_stage .., (setStage_setStage ..).symm⟩
  have hfound : ∀ row, Except.ok (some ⟨.time 3⟩) = (Except.ok row : Except Fault _) →
      row = w.row := fun _ heq => (Except.ok.inj heq).symm.trans hrow.symm
  have hpage : ∀ page, Except.ok [snapshotKey scope] = (Except.ok page : Except Fault _) →
      page = journalPage (w.setStage number .awaitsTeardown) 128 none := by
    rintro page ⟨⟩
    simp [journalPage, World.setStage, hjournal, Paging.page]
  refine (reaches_tearing hrow hnew).trans (.head hstart ?_)
  refine reaches_answer (some (⟨.time 3⟩ : EnvironmentRow)) ⟨rfl, hfound⟩ ?_
  refine reaches_answer (5 : Int) ⟨rfl, by rw [← hclock]; rfl⟩ ?_
  exact reaches_answer [snapshotKey scope] ⟨rfl, hpage⟩ .refl

theorem journal_lapsed : (lapsed scope).storage.journal = {snapshotKey scope} := by
  simp [lapsed, projected, opened, World.created, World.putKv, World.record, World.putRevision,
    ObjectStorage.empty]

theorem reaches_failed : (server id scope).Reaches ⟨projected scope, none⟩ ⟨failed scope, none⟩ := by
  have htick : (server id scope).Step ⟨projected scope, none⟩ ⟨lapsed scope, none⟩ :=
    .elsewhere (.tick _ 3)
  refine .head htick ((reaches_deletion scope rfl rfl (journal_lapsed scope) 0 rfl).trans ?_)
  exact reaches_fault (.error "the namespace is not reached") (.inl rfl) (.single .settle)

theorem reaches_emptied : (server id scope).Reaches ⟨failed scope, none⟩
    ⟨settle (.teardown 1 1) (.ok .tornDown) (emptied scope), none⟩ := by
  have hjournal : (failed scope).storage.journal = {snapshotKey scope} := journal_lapsed scope
  refine (reaches_deletion scope rfl rfl hjournal 1 rfl).trans ?_
  refine reaches_answer () rfl (reaches_answer () rfl ?_)
  exact reaches_answer () rfl (.single .settle)

theorem environment_teardown_completed :
    let scope : EnvScope := ⟨"app", "preview"⟩
    let s : State := ⟨settle (.teardown 1 1) (.ok .tornDown) (emptied scope), none⟩
    (projected scope).kv (snapshotKey scope) ≠ none ∧ s.world.Bare ∧
      ¬ Putting s (snapshotKey scope) := by
  intro scope s
  have hreaches : (server id scope).Reaches ⟨.created (.time 3) 2, none⟩ s :=
    (reaches_projected scope).trans ((reaches_failed scope).trans (reaches_emptied scope))
  obtain ⟨hbare, hput⟩ := (environment_teardown (by decide) 2 hreaches).2.2.2 rfl s .refl
  exact ⟨by simp [projected, World.putKv], hbare, hput _⟩

end History

end ConfigStore

end Splitch
