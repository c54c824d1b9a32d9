/-
# One usage event for 24 hours

A window opens with a claim that finds no live event id while no other claim is being served.  The
claims answered in the 24 hours from it return the same event id exactly when none of them
OVERTAKES: comes out of its hash, having read the storage before it, to find that another claim
has written a live event id in the meantime.

Between the opening and the first write nothing has been answered (`Opening`).  From that write on
the event id stands (`Sealed`): what is written later expires later, since no claim of the window
has read the clock before it opened.
-/
import Splitch.Evaluation.UsageReplayWindow

namespace Splitch

/-! ## 1. Windows -/

/-- The claim finds no live event id, and no other claim is being served. -/
def OpensWindow (window : EvaluationUsageReplayWindow) (event : ReplayEvent) : Prop :=
  window.pending = [] ∧ window.live event.now = none

/-- **The claim's property**, of the events that follow the opening of a window at `opened`: all
that is answered in 24 hours is one event id. -/
def AnswersOneEvent (window : EvaluationUsageReplayWindow) (opened : Nat)
    (events : List ReplayEvent) : Prop :=
  ∀ before event eventId before' event' eventId',
    before ++ [event] <+: events → before' ++ [event'] <+: events →
    event.now < opened + EVALUATION_USAGE_REPLAY_WINDOW_MS →
    event'.now < opened + EVALUATION_USAGE_REPLAY_WINDOW_MS →
    usageReplayWindow.out (usageReplayWindow.exec window before) event = some (.event eventId) →
    usageReplayWindow.out (usageReplayWindow.exec window before') event' = some (.event eventId') →
    eventId = eventId'

/-- The claim that comes out of its hash finds no live event id but its own, as when it read the
storage. -/
def NotOvertaking (opened : Nat) (window : EvaluationUsageReplayWindow) : ReplayEvent → Prop
  | .hashed index now =>
    now < opened + EVALUATION_USAGE_REPLAY_WINDOW_MS →
      ∀ claim ∈ window.pending[index]?, ∀ state ∈ window.live now, state.eventId = claim.eventId
  | _ => True

/-! ## 2. What a step answers -/

section Steps

variable {window : EvaluationUsageReplayWindow} {event : ReplayEvent} {eventId : String}

theorem live_eq_some {now : Nat} {state : ReplayWindowState} :
    window.live now = some state ↔ window.state = some state ∧ now < state.expiresAt := by
  rw [EvaluationUsageReplayWindow.live, Option.filter_eq_some_iff, decide_eq_true_iff]

/-- **Who answers with an event id**: a claim that finds a live one, or one that writes its own. -/
theorem out_event (h : usageReplayWindow.out window event = some (.event eventId)) :
    (∃ state ∈ window.live event.now, state.eventId = eventId ∧
      usageReplayWindow.next window event = window) ∨
    ∃ index now claim, event = .hashed index now ∧ window.pending[index]? = some claim ∧
      claim.eventId = eventId ∧ usageReplayWindow.next window event =
        ⟨some claim.next, some claim.next.expiresAt, window.pending.eraseIdx index⟩ := by
  cases event with
  | fetch request now =>
    simp only [Machine.out, Machine.next, usageReplayWindow, EvaluationUsageReplayWindow.fetch]
      at h ⊢
    split at h
    · cases h
    · rename_i hroute
      rw [if_neg hroute]
      cases hidentity : claimIdentity request with
      | none =>
        rw [hidentity] at h
        cases h
      | some identity =>
        cases hlive : window.live now with
        | none =>
          rw [hidentity, hlive] at h
          cases h
        | some state =>
          rw [hidentity, hlive] at h
          cases h
          exact .inl ⟨state, hlive, rfl, by dsimp only⟩
  | hashed index now =>
    simp only [Machine.out, Machine.next, usageReplayWindow, EvaluationUsageReplayWindow.hashed]
      at h ⊢
    cases hclaim : window.pending[index]? with
    | none =>
      rw [hclaim] at h
      cases h
    | some claim =>
      rw [hclaim] at h
      cases h
      exact .inr ⟨index, now, claim, rfl, hclaim, rfl, rfl⟩
  | alarm now => cases h
  | evicted now => cases h

/-- What a step leaves in the storage where it does not answer with an event id. -/
theorem next_state (h : ∀ eventId, usageReplayWindow.out window event ≠ some (.event eventId)) :
    (usageReplayWindow.next window event).state = window.state ∨
      (usageReplayWindow.next window event).state = window.live event.now := by
  cases event with
  | fetch request now =>
    left
    simp only [Machine.next, usageReplayWindow, EvaluationUsageReplayWindow.fetch]
    split
    · rfl
    · cases claimIdentity request with
      | none => rfl
      | some identity => cases window.live now <;> rfl
  | hashed index now =>
    simp only [Machine.out, Machine.next, usageReplayWindow, EvaluationUsageReplayWindow.hashed]
      at h ⊢
    cases hclaim : window.pending[index]? with
    | none => exact .inl rfl
    | some claim =>
      rw [hclaim] at h
      exact absurd rfl (h claim.eventId)
  | alarm now =>
    simp only [Machine.next, usageReplayWindow, EvaluationUsageReplayWindow.fireAlarm]
    split
    · exact .inr rfl
    · exact .inl rfl
  | evicted now => exact .inl rfl

/-- A claim that begins to wait has just read the clock. -/
theorem pending_next {claim : PendingClaim}
    (h : claim ∈ (usageReplayWindow.next window event).pending) :
    claim ∈ window.pending ∨ claim.now = event.now := by
  cases event with
  | fetch request now =>
    simp only [Machine.next, usageReplayWindow, EvaluationUsageReplayWindow.fetch] at h
    split at h
    · exact .inl h
    · cases hidentity : claimIdentity request with
      | none =>
        rw [hidentity] at h
        exact .inl h
      | some identity =>
        rw [hidentity] at h
        cases hlive : window.live now with
        | none =>
          rw [hlive] at h
          rcases List.mem_append.mp h with hold | hnew
          · exact .inl hold
          · rw [List.mem_singleton] at hnew
            exact .inr (by rw [hnew]; rfl)
        | some state =>
          rw [hlive] at h
          exact .inl h
  | hashed index now =>
    simp only [Machine.next, usageReplayWindow, EvaluationUsageReplayWindow.hashed] at h
    cases hclaim : window.pending[index]? with
    | none =>
      rw [hclaim] at h
      exact .inl h
    | some claim' =>
      rw [hclaim] at h
      exact .inl (List.mem_of_mem_eraseIdx h)
  | alarm now =>
    simp only [Machine.next, usageReplayWindow, EvaluationUsageReplayWindow.fireAlarm] at h
    split at h <;> exact .inl h
  | evicted now => cases h

end Steps

/-! ## 3. Before and after the first write -/

/-- No claim of the window has read the clock before it opened. -/
def ReadsSince (opened : Nat) (window : EvaluationUsageReplayWindow) : Prop :=
  ∀ claim ∈ window.pending, opened ≤ claim.now

structure Opening (opened : Nat) (window : EvaluationUsageReplayWindow) : Prop where
  reads : ReadsSince opened window
  expired : ∀ state ∈ window.state, state.expiresAt ≤ opened

structure Sealed (opened : Nat) (eventId : String) (window : EvaluationUsageReplayWindow) :
    Prop where
  reads : ReadsSince opened window
  stands : ∃ state, window.state = some state ∧ state.eventId = eventId ∧
    opened + EVALUATION_USAGE_REPLAY_WINDOW_MS ≤ state.expiresAt

section Window

variable {window : EvaluationUsageReplayWindow} {event : ReplayEvent} {opened : Nat}

theorem ReadsSince.next (h : ReadsSince opened window) (hsince : opened ≤ event.now) :
    ReadsSince opened (usageReplayWindow.next window event) := by
  intro claim hclaim
  rcases pending_next hclaim with hold | hnow
  · exact h claim hold
  · rw [hnow]
    exact hsince

/-- A claim of the window seals it with its write. -/
theorem sealed_of_write {index : Nat} {claim : PendingClaim} (h : ReadsSince opened window)
    (hsince : opened ≤ event.now) (hclaim : window.pending[index]? = some claim)
    (hnext : usageReplayWindow.next window event =
      ⟨some claim.next, some claim.next.expiresAt, window.pending.eraseIdx index⟩) :
    Sealed opened claim.eventId (usageReplayWindow.next window event) where
  reads := h.next hsince
  stands := by
    refine ⟨claim.next, by rw [hnext], rfl, ?_⟩
    exact Nat.add_le_add_right (h claim (List.mem_of_getElem? hclaim)) _

/-- **A step of an opening window**: it stays open, or is sealed with what the step answers. Whatever
the storage holds here has expired, so an answer can only come from a claim that writes its own event
id. -/
theorem Opening.step (h : Opening opened window) (hsince : opened ≤ event.now) :
    ((∀ eventId, usageReplayWindow.out window event ≠ some (.event eventId)) ∧
      Opening opened (usageReplayWindow.next window event)) ∨
    ∃ eventId, usageReplayWindow.out window event = some (.event eventId) ∧
      Sealed opened eventId (usageReplayWindow.next window event) := by
  by_cases hanswer : ∃ eventId, usageReplayWindow.out window event = some (.event eventId)
  · obtain ⟨eventId, hout⟩ := hanswer
    right
    rcases out_event hout with ⟨state, hlive, -, -⟩ | ⟨index, now, claim, rfl, hclaim, hid, hnext⟩
    · obtain ⟨hstate, hafter⟩ := live_eq_some.mp hlive
      have := h.expired state hstate
      omega
    · subst hid
      exact ⟨claim.eventId, hout, sealed_of_write h.reads hsince hclaim hnext⟩
  · left
    rw [not_exists] at hanswer
    refine ⟨hanswer, h.reads.next hsince, fun state hstate => ?_⟩
    rcases next_state hanswer with hsame | hshed
    · rw [hsame] at hstate
      exact h.expired state hstate
    · rw [hshed] at hstate
      exact h.expired state (live_eq_some.mp hstate).1

/-- **A step of a sealed window** answers with its event id, and leaves it sealed. A claim that finds
the stored id answers with it. One that was overtaken by the write would answer with its own and write
over the stored one, which is what the guard excludes. -/
theorem Sealed.step {eventId : String} (h : Sealed opened eventId window)
    (hsince : opened ≤ event.now)
    (hbefore : event.now < opened + EVALUATION_USAGE_REPLAY_WINDOW_MS)
    (hguard : NotOvertaking opened window event) :
    (∀ eventId', usageReplayWindow.out window event = some (.event eventId') →
      eventId' = eventId) ∧
    Sealed opened eventId (usageReplayWindow.next window event) := by
  obtain ⟨state, hstate, hid, hexpires⟩ := h.stands
  have hlive : window.live event.now = some state := live_eq_some.mpr ⟨hstate, by omega⟩
  by_cases hanswer : ∃ eventId', usageReplayWindow.out window event = some (.event eventId')
  · obtain ⟨eventId', hout⟩ := hanswer
    have hsame : eventId' = eventId ∧ Sealed opened eventId (usageReplayWindow.next window event)
    · rcases out_event hout with ⟨state', hlive', hid', hnext⟩ |
        ⟨index, now, claim, rfl, hclaim, hid', hnext⟩
      · rw [hlive] at hlive'
        cases hlive'
        rw [hnext]
        exact ⟨hid'.symm.trans hid, h⟩
      · have hown : state.eventId = claim.eventId := hguard hbefore claim hclaim state hlive
        have hsealed := sealed_of_write h.reads hsince hclaim hnext
        rw [← hown, hid] at hsealed
        exact ⟨hid'.symm.trans (hown.symm.trans hid), hsealed⟩
    refine ⟨fun eventId'' hout' => ?_, hsame.2⟩
    rw [hout] at hout'
    cases hout'
    exact hsame.1
  · rw [not_exists] at hanswer
    refine ⟨fun eventId' hout => absurd hout (hanswer eventId'), h.reads.next hsince,
      state, ?_, hid, hexpires⟩
    rcases next_state hanswer with hsame | hshed
    · rw [hsame, hstate]
    · rw [hshed, hlive]

end Window

/-! ## 4. Runs -/

section Run

variable {window : EvaluationUsageReplayWindow} {opened : Nat} {events : List ReplayEvent}

/-- Everything the events answer in the 24 hours is `eventId`. -/
def AnswersOnly (window : EvaluationUsageReplayWindow) (opened : Nat) (events : List ReplayEvent)
    (eventId : String) : Prop :=
  ∀ before event eventId', before ++ [event] <+: events →
    event.now < opened + EVALUATION_USAGE_REPLAY_WINDOW_MS →
    usageReplayWindow.out (usageReplayWindow.exec window before) event = some (.event eventId') →
    eventId' = eventId

theorem answersOnly_nil {eventId : String} : AnswersOnly window opened [] eventId := by
  intro before event eventId' hpre
  simp at hpre

/-- The first event, and the events behind it: these matter only where the first one is early
enough itself. -/
theorem answersOnly_cons {event : ReplayEvent} {eventId : String}
    (htimed : Machine.Timed ReplayEvent.now (event :: events))
    (hfirst : event.now < opened + EVALUATION_USAGE_REPLAY_WINDOW_MS →
      (∀ eventId', usageReplayWindow.out window event = some (.event eventId') →
        eventId' = eventId) ∧
      AnswersOnly (usageReplayWindow.next window event) opened events eventId) :
    AnswersOnly window opened (event :: events) eventId := by
  rintro (_ | ⟨first, before⟩) event' eventId' hpre hearly hout
  · obtain ⟨rfl, -⟩ := List.cons_prefix_cons.mp hpre
    exact (hfirst hearly).1 eventId' hout
  · obtain ⟨rfl, hrest⟩ := List.cons_prefix_cons.mp hpre
    have hlater : first.now ≤ event'.now :=
      (List.pairwise_cons.mp htimed).1 event' (hrest.subset (by simp))
    exact (hfirst (by omega)).2 before event' eventId' hrest hearly hout

/-- A sealed window answers its event id. -/
theorem Sealed.answersOnly {eventId : String} (h : Sealed opened eventId window)
    (htimed : Machine.Timed ReplayEvent.now events) (hsince : ∀ event ∈ events, opened ≤ event.now)
    (hguard : usageReplayWindow.Guarded (NotOvertaking opened) window events) :
    AnswersOnly window opened events eventId := by
  induction events generalizing window with
  | nil => exact answersOnly_nil
  | cons event rest ih =>
    refine answersOnly_cons htimed fun hearly => ?_
    obtain ⟨hanswer, hsealed⟩ := h.step (hsince event (by simp)) hearly hguard.1
    exact ⟨hanswer, ih hsealed (List.pairwise_cons.mp htimed).2
      (fun event' hmem => hsince event' (List.mem_cons_of_mem _ hmem)) hguard.2⟩

/-- An opening window answers one event id, the first that it writes. -/
theorem Opening.answersOnly (h : Opening opened window)
    (htimed : Machine.Timed ReplayEvent.now events) (hsince : ∀ event ∈ events, opened ≤ event.now)
    (hguard : usageReplayWindow.Guarded (NotOvertaking opened) window events) :
    ∃ eventId, AnswersOnly window opened events eventId := by
  induction events generalizing window with
  | nil => exact ⟨"", answersOnly_nil⟩
  | cons event rest ih =>
    have hrest : Machine.Timed ReplayEvent.now rest := (List.pairwise_cons.mp htimed).2
    have hsince' : ∀ event' ∈ rest, opened ≤ event'.now :=
      fun event' hmem => hsince event' (List.mem_cons_of_mem _ hmem)
    rcases h.step (hsince event (by simp)) with ⟨hsilent, hopening⟩ | ⟨eventId, hout, hsealed⟩
    · obtain ⟨eventId, hanswers⟩ := ih hopening hrest hsince' hguard.2
      exact ⟨eventId, answersOnly_cons htimed fun _ =>
        ⟨fun eventId' hout => absurd hout (hsilent eventId'), hanswers⟩⟩
    · refine ⟨eventId, answersOnly_cons htimed fun _ => ⟨fun eventId' hout' => ?_, ?_⟩⟩
      · rw [hout] at hout'
        cases hout'
        rfl
      · exact hsealed.answersOnly hrest hsince' hguard.2

/-- What is live in the storage has been answered since the window opened. -/
theorem answered_of_live (h : Opening opened window) (before : List ReplayEvent) (now : Nat)
    (hsince : opened ≤ now) {state : ReplayWindowState}
    (hlive : (usageReplayWindow.exec window before).live now = some state) :
    ∃ earlier event, earlier ++ [event] <+: before ∧
      usageReplayWindow.out (usageReplayWindow.exec window earlier) event
        = some (.event state.eventId) := by
  obtain ⟨hstate, hafter⟩ := live_eq_some.mp hlive
  clear hlive
  induction before using List.reverseRecOn with
  | nil =>
    have := h.expired state hstate
    omega
  | append_singleton before event ih =>
    rw [Machine.exec_append, Machine.exec_cons, Machine.exec_nil] at hstate
    by_cases hanswer : ∃ eventId, usageReplayWindow.out (usageReplayWindow.exec window before) event
        = some (.event eventId)
    · obtain ⟨eventId, hout⟩ := hanswer
      rcases out_event hout with ⟨state', hlive', hid', hnext⟩ |
        ⟨index, now', claim, rfl, hclaim, hid', hnext⟩
      · rw [hnext] at hstate
        obtain ⟨earlier, event', hpre, hout'⟩ := ih hstate
        exact ⟨earlier, event', hpre.trans (List.prefix_append _ _), hout'⟩
      · rw [hnext] at hstate
        cases hstate
        subst hid'
        exact ⟨before, _, List.prefix_rfl, hout⟩
    · rw [not_exists] at hanswer
      have hwas : (usageReplayWindow.exec window before).state = some state := by
        rcases next_state hanswer with hsame | hshed
        · rwa [hsame] at hstate
        · rw [hshed] at hstate
          exact (live_eq_some.mp hstate).1
      obtain ⟨earlier, event', hpre, hout'⟩ := ih hwas
      exact ⟨earlier, event', hpre.trans (List.prefix_append _ _), hout'⟩

end Run

/-! ## 5. Agreement -/

/-- **One event id for 24 hours.**  In a window that opens after any history, all claims answered
in the 24 hours return one event id exactly when no claim of theirs overtakes another. -/
theorem usage_claims_agree (history : List ReplayEvent) (first : ReplayEvent)
    (rest : List ReplayEvent) (htimed : Machine.Timed ReplayEvent.now (history ++ first :: rest))
    (hopens : OpensWindow (usageReplayWindow.run history) first) :
    AnswersOneEvent (usageReplayWindow.run history) first.now (first :: rest) ↔
      usageReplayWindow.Guarded (NotOvertaking first.now) (usageReplayWindow.run history)
        (first :: rest) := by
  have hevents : Machine.Timed ReplayEvent.now (first :: rest) :=
    ((Machine.timed_append _).mp htimed).2.1
  have hsince : ∀ event ∈ first :: rest, first.now ≤ event.now := by
    intro event hmem
    rcases List.mem_cons.mp hmem with rfl | hrest
    · exact le_rfl
    · exact (List.pairwise_cons.mp hevents).1 event hrest
  have hopening : Opening first.now (usageReplayWindow.run history)
  · refine ⟨fun claim hclaim => ?_, fun state hstate => ?_⟩
    · rw [hopens.1] at hclaim
      cases hclaim
    · by_contra hlate
      have hlive := live_eq_some.mpr ⟨hstate, not_le.mp hlate⟩
      rw [hopens.2] at hlive
      cases hlive
  constructor
  · intro hone
    rw [Machine.guarded_iff_prefix]
    intro before event hpre
    cases event with
    | hashed index now =>
      intro hearly claim hclaim state hlive
      have hafter : first.now ≤ now := hsince (.hashed index now) (hpre.subset (by simp))
      obtain ⟨earlier, event', hpre', hout'⟩ := answered_of_live hopening before now hafter hlive
      have hbefore : event'.now ≤ now := by
        have hle := ((Machine.timed_concat _).mp (Machine.Timed.of_prefix _ hevents hpre)).2
        exact hle event' (hpre'.subset (by simp))
      refine hone earlier event' _ before (.hashed index now) _
        (hpre'.trans ((List.prefix_append _ _).trans hpre)) hpre (by omega) hearly hout' ?_
      change ((usageReplayWindow.exec _ before).hashed index).1 = _
      rw [EvaluationUsageReplayWindow.hashed, Option.mem_def.mp hclaim]
    | fetch request now => trivial
    | alarm now => trivial
    | evicted now => trivial
  · intro hguard
    obtain ⟨eventId, hanswers⟩ := hopening.answersOnly hevents hsince hguard
    intro before event eventId' before' event' eventId'' hpre hpre' hearly hearly' hout hout'
    rw [hanswers before event eventId' hpre hearly hout,
      hanswers before' event' eventId'' hpre' hearly' hout']

/-! ## 6. Two claims at once -/

def replayIdentity : String := String.ofList (List.replicate 64 'a')

def replayClaim (now : Nat) : ReplayEvent := .fetch ⟨"POST", "/claim", some replayIdentity⟩ now

/-- Where the second claim arrives behind the first write, the two agree. -/
theorem usage_claims_agree_serial :
    AnswersOneEvent (usageReplayWindow.run []) 1 [replayClaim 1, .hashed 0 2, replayClaim 3] := by
  refine (usage_claims_agree [] (replayClaim 1) [.hashed 0 2, replayClaim 3] ?_ ?_).mpr ?_
  · simp [Machine.Timed, replayClaim, ReplayEvent.now]
  · exact ⟨rfl, rfl⟩
  · exact ⟨trivial, fun _ claim _ state hlive => (by cases hlive), trivial, trivial⟩

/-- **Two event ids for one evaluation**: both claims read the empty storage before either one
writes. -/
theorem usage_claims_disagree :
    ¬ ∀ (history : List ReplayEvent) (first : ReplayEvent) (rest : List ReplayEvent),
      Machine.Timed ReplayEvent.now (history ++ first :: rest) →
      OpensWindow (usageReplayWindow.run history) first →
      AnswersOneEvent (usageReplayWindow.run history) first.now (first :: rest) := by
  intro h
  have hone := h [] (replayClaim 1) [replayClaim 2, .hashed 0 3, .hashed 0 4]
    (by simp [Machine.Timed, replayClaim, ReplayEvent.now]) ⟨rfl, rfl⟩
  have hsame := hone [replayClaim 1, replayClaim 2] (.hashed 0 3)
    (PendingClaim.eventId ⟨replayIdentity, 1⟩) [replayClaim 1, replayClaim 2, .hashed 0 3]
    (.hashed 0 4) (PendingClaim.eventId ⟨replayIdentity, 2⟩) ⟨[.hashed 0 4], rfl⟩ ⟨[], rfl⟩
    (by decide) (by decide) (by decide +kernel) (by decide +kernel)
  exact absurd hsame (by decide +kernel)

end Splitch
