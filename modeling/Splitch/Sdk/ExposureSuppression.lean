/-
# Exposure suppression

An evaluation sends no Exposure-bearing request where the seen-set answers it, or where it only verifies.
What must hold then is that the Exposure was sent before: by an evaluation of the same Flag for the same
Entity, in the Run that this one is told of, and one that the server has answered.

The seen-set cannot say so by itself, since it is written when an ANSWER comes, and answers come in any
order, any number of calls after the question.  The invariant goes over the answers of the run so far
(`Sourced`): every entry was opened in its Run by an Exposure-bearing evaluation that was answered, what it
holds was answered to the question under which it stands, and every verification in flight was sent for an
entry of that kind.  The last part is what carries the Run over the time in which the verification is out,
when the entry itself may be evicted or replaced.

From it both results follow.  An evaluation that sends no Exposure finds an entry, or is told of one by its
verification (`evaluate_cases`, `suppressed_after_exposure`).  Where every verification is answered while
the entry it was made for is still fresh (`AnsweredFresh`), the entry dates from the evaluation that opened
it, so that one was answered less than `ttlMs` ago (`suppressed_within_ttl`).

That a key stands for a Flag and an Entity needs Flag keys and idTypes without NUL (`Asked.Named`); that a
fingerprint stands for attributes needs no `__proto__` member in them, which the second result does without.
-/
import Splitch.Sdk.SuppressedEvaluate

namespace Splitch

namespace Seen

open JsonText

variable {N : Type} [NumberFormat N] {limits : SeenSetLimits}

/-! ## 1. What has been answered -/

/-- An answer of the server that is stored. -/
structure Answer (N : Type) where
  asked : Asked N
  runId : String
  resolution : SeenResolution N
  now : Int
  /-- It answers an Exposure-bearing request. -/
  exposing : Bool

/-- The answer that an event brings, where it is no error and names a Run. -/
def answersOf (client : Client N) : Event N → List (Answer N)
  | .evaluated number result now =>
    match client.flights number, result.runId with
    | some (.evaluate asked defaultValue), some runId =>
      if (synthesizeDetails result defaultValue).reason = .ERROR then []
      else [⟨asked, runId, ⟨result.variant, result.variantName⟩, now, true⟩]
    | _, _ => []
  | .verified number result now =>
    match client.flights number with
    | some (.verify asked defaultValue runId) =>
      if (verifiedDetails result defaultValue).reason = .ERROR then []
      else
        let details := verifiedDetails result defaultValue
        [⟨asked, runId, ⟨some details.value, details.variantName⟩, now, false⟩]
    | _ => []
  | _ => []

/-- The answers of a run. -/
def answers (limits : SeenSetLimits) : Client N → List (Event N) → List (Answer N)
  | _, [] => []
  | state, event :: events => answersOf state event ++ answers limits ((client limits).next state event) events

theorem answers_append (state : Client N) (events events' : List (Event N)) :
    answers limits state (events ++ events') =
      answers limits state events ++ answers limits ((client limits).exec state events) events' := by
  induction events generalizing state with
  | nil => rfl
  | cons event events ih => rw [List.cons_append, answers, answers, ih, List.append_assoc, Machine.exec_cons]

/-! ## 2. Where an entry comes from -/

/-- An Exposure-bearing evaluation was answered in this Run, at a time that `at'` allows. -/
def Exposed (past : List (Answer N)) (id runId : String) (at' : Int → Prop) : Prop :=
  ∃ answer ∈ past, answer.exposing = true ∧ answer.asked.id = id ∧ answer.runId = runId ∧ at' answer.now

omit [NumberFormat N] in
theorem Exposed.mono {past past' : List (Answer N)} {id runId : String} {at' : Int → Prop}
    (h : Exposed past id runId at') (hsub : past ⊆ past') : Exposed past' id runId at' := by
  obtain ⟨answer, hanswer, hrest⟩ := h
  exact ⟨answer, hsub hanswer, hrest⟩

/-- What an entry replays was answered. -/
def Answered (past : List (Answer N)) (id fingerprint : String) (resolution : SeenResolution N) : Prop :=
  ∃ answer ∈ past, answer.asked.id = id ∧ answer.asked.fingerprint = fingerprint ∧
    answer.resolution = resolution

theorem Answered.mono {past past' : List (Answer N)} {id fingerprint : String}
    {resolution : SeenResolution N} (h : Answered past id fingerprint resolution) (hsub : past ⊆ past') :
    Answered past' id fingerprint resolution := by
  obtain ⟨answer, hanswer, hrest⟩ := h
  exact ⟨answer, hsub hanswer, hrest⟩

/-- Every entry was opened in its Run by an Exposure-bearing evaluation, and so was every verification.
Where `exact` is given, an entry dates from that evaluation. -/
structure Sourced (exact : Bool) (past : List (Answer N)) (state : Client N) : Prop where
  opened : ∀ id entry, (id, entry) ∈ state.entries →
    Exposed past id entry.runId fun now => exact = true → now = entry.storedAt
  values : ∀ id entry, (id, entry) ∈ state.entries → ∀ fingerprint resolution,
    (fingerprint, resolution) ∈ entry.values → Answered past id fingerprint resolution
  flights : ∀ number asked defaultValue runId,
    state.flights number = some (.verify asked defaultValue runId) →
      Exposed past asked.id runId fun _ => True

variable {exact : Bool} {past : List (Answer N)} {state : Client N} {asked : Asked N}

theorem sourced_init : Sourced exact [] (client (N := N) limits).init where
  opened _ _ h := absurd h List.not_mem_nil
  values _ _ h := absurd h List.not_mem_nil
  flights _ _ _ _ h := by cases h

/-- A lookup keeps what the entries come from. -/
theorem Sourced.get (h : Sourced exact past state) (now : Int) :
    Sourced exact past { state with entries := (SeenSet.get limits state.entries asked now).2 } where
  opened id entry hmem := by
    obtain ⟨old, hold, hrun, hat, -⟩ := mem_get hmem
    rw [hrun, hat]
    exact h.opened id old hold
  values id entry hmem fingerprint resolution hvalue := by
    obtain ⟨old, hold, -, -, hvalues⟩ := mem_get hmem
    exact h.values id old hold fingerprint resolution (hvalues _ hvalue)
  flights := h.flights

/-- An answer that is stored. -/
theorem Sourced.set (h : Sourced exact past state) {answer : Answer N} (number : Nat)
    (hexposed : Exposed (past ++ [answer]) answer.asked.id answer.runId fun _ => True)
    (hexact : exact = true → answer.exposing = true ∨
      ∃ existing, LruMap.get state.entries answer.asked.id = some existing ∧
        answer.now - existing.storedAt < limits.ttlMs) :
    Sourced exact (past ++ [answer]) (state.settle number
      (SeenSet.set limits state.entries answer.asked answer.runId answer.resolution answer.now)) := by
  have hsub : past ⊆ past ++ [answer] := List.subset_append_left _ _
  have hlast : answer ∈ past ++ [answer] := List.mem_append_right _ (List.mem_singleton_self _)
  have hnext := nextEntry_cases limits state.entries answer.asked answer.runId answer.resolution answer.now
  constructor
  case opened =>
    intro id entry hmem
    rcases mem_set hmem with ⟨hold, -⟩ | ⟨rfl, rfl⟩
    · exact (h.opened id entry hold).mono hsub
    · rcases hnext with ⟨existing, hexisting, -, hnext⟩ | ⟨hstale, hnext⟩ <;> rw [hnext]
      · exact (h.opened _ existing (LruMap.mem_of_get hexisting)).mono hsub
      · cases exact with
        | false =>
          obtain ⟨opening, hopening, hexposing, hid, hrun, -⟩ := hexposed
          exact ⟨opening, hopening, hexposing, hid, hrun, fun hfalse => (by cases hfalse)⟩
        | true =>
          refine ⟨answer, hlast, (hexact rfl).resolve_right ?_, rfl, rfl, fun _ => rfl⟩
          rintro ⟨existing, hexisting, hfresh⟩
          exact hstale existing hexisting hfresh
  case values =>
    intro id entry hmem fingerprint resolution hvalue
    rcases mem_set hmem with ⟨hold, -⟩ | ⟨rfl, rfl⟩
    · exact (h.values id entry hold fingerprint resolution hvalue).mono hsub
    · have hput : ∀ {values}, (∀ value ∈ values, Answered past answer.asked.id value.1 value.2) →
          (fingerprint, resolution) ∈
            putValue limits values answer.asked.fingerprint answer.resolution →
          Answered (past ++ [answer]) answer.asked.id fingerprint resolution := by
        intro values hvalues hmem
        rcases mem_putValue hmem with ⟨hold, -⟩ | ⟨rfl, rfl⟩
        · exact (hvalues _ hold).mono hsub
        · exact ⟨answer, hlast, rfl, rfl, rfl⟩
      rcases hnext with ⟨existing, hexisting, -, hnext⟩ | ⟨-, hnext⟩ <;> rw [hnext] at hvalue
      · exact hput (fun value hold => h.values _ existing (LruMap.mem_of_get hexisting) _ _ hold) hvalue
      · exact hput (fun _ hnil => absurd hnil List.not_mem_nil) hvalue
  case flights =>
    intro other asked defaultValue runId hflight
    change Function.update state.flights number none other = _ at hflight
    by_cases hother : other = number
    · rw [hother, Function.update_self] at hflight
      cases hflight
    · rw [Function.update_of_ne hother] at hflight
      exact (h.flights other asked defaultValue runId hflight).mono hsub

theorem Sourced.settle (h : Sourced exact past state) (number : Nat) :
    Sourced exact past (state.settle number state.entries) where
  opened := h.opened
  values := h.values
  flights other asked defaultValue runId hflight := by
    change Function.update state.flights number none other = _ at hflight
    by_cases hother : other = number
    · rw [hother, Function.update_self] at hflight
      cases hflight
    · rw [Function.update_of_ne hother] at hflight
      exact h.flights other asked defaultValue runId hflight

/-- A request is sent. -/
theorem Sourced.send (h : Sourced exact past state) {flight : Flight N}
    (hflight : ∀ asked defaultValue runId, flight = .verify asked defaultValue runId →
      Exposed past asked.id runId fun _ => True) :
    Sourced exact past (state.send state.entries flight) where
  opened := h.opened
  values := h.values
  flights other asked defaultValue runId hother := by
    change Function.update state.flights state.calls (some flight) other = _ at hother
    by_cases hnew : other = state.calls
    · rw [hnew, Function.update_self] at hother
      exact hflight asked defaultValue runId (Option.some_inj.mp hother)
    · rw [Function.update_of_ne hnew] at hother
      exact h.flights other asked defaultValue runId hother

/-- A verification is answered while the entry it was made for is fresh. -/
def AnsweredFresh (limits : SeenSetLimits) (state : Client N) : Event N → Prop
  | .verified number _ now => ∀ asked defaultValue runId,
      state.flights number = some (.verify asked defaultValue runId) →
        ∃ existing, LruMap.get state.entries asked.id = some existing ∧
          now - existing.storedAt < limits.ttlMs
  | _ => True

theorem sourced_evaluate (h : Sourced exact past state) (flagKey : String)
    (context : EvaluationContext N) (randomUUID : Option String) (now : Int) :
    Sourced exact past (state.evaluate limits flagKey context randomUUID now).2 := by
  rw [Client.evaluate]
  cases resolveIdempotencyKey randomUUID context.idempotencyKey with
  | error error => exact h
  | ok key =>
    have hget : Sourced exact past { state with entries :=
        (SeenSet.get limits state.entries (context.asked flagKey) now).2 } := h.get now
    have hmiss : ∀ runId,
        (SeenSet.get limits state.entries (context.asked flagKey) now).1 = .contextMiss runId →
        ∃ found, LruMap.get state.entries (context.asked flagKey).id = some found ∧
          now - found.storedAt < limits.ttlMs ∧ runId = found.runId := fun _ => get_contextMiss
    simp only
    generalize SeenSet.get limits state.entries (context.asked flagKey) now = found at hget hmiss
    obtain ⟨result, entries⟩ := found
    cases result with
    | hit entry => exact hget
    | miss => exact hget.send fun _ _ _ heq => (by cases heq)
    | contextMiss runId =>
      refine hget.send fun asked defaultValue runId' heq => ?_
      cases heq
      obtain ⟨found, hfound, -, rfl⟩ := hmiss runId rfl
      obtain ⟨answer, hanswer, hexposing, hid, hrun, -⟩ := h.opened _ found (LruMap.mem_of_get hfound)
      exact ⟨answer, hanswer, hexposing, hid, hrun, trivial⟩

/-- **Every event** keeps what the entries come from. Entries are written when an evaluation is
answered, and that answer joins the past in the same event; a read of the entries can only drop one
that has expired, or move it. -/
theorem sourced_next (h : Sourced exact past state) {event : Event N}
    (hfresh : exact = true → AnsweredFresh limits state event) :
    Sourced exact (past ++ answersOf state event) ((client limits).next state event) := by
  have hnil : ∀ {state' : Client N}, Sourced exact past state' → Sourced exact (past ++ []) state' := by
    intro state' h'
    rwa [List.append_nil]
  cases event with
  | evaluate flagKey context randomUUID now =>
    exact hnil (sourced_evaluate h flagKey context randomUUID now)
  | rejected number => exact hnil (h.settle number)
  | evaluated number result now =>
    change Sourced exact _ (state.evaluated limits number result now).2
    rw [Client.evaluated]
    cases hflight : state.flights number with
    | none => simpa only [answersOf, hflight] using hnil h
    | some flight =>
      cases flight with
      | verify asked defaultValue runId => simpa only [answersOf, hflight] using hnil h
      | evaluate asked defaultValue =>
        by_cases herror : (synthesizeDetails result defaultValue).reason = .ERROR
        · cases hrun : result.runId <;> simp only [answersOf, hflight, hrun, if_pos herror] <;>
            exact hnil (h.settle number)
        · cases hrun : result.runId with
          | none =>
            simp only [answersOf, hflight, hrun, if_neg herror]
            exact hnil (h.settle number)
          | some runId =>
            simp only [answersOf, hflight, hrun, if_neg herror]
            let answer : Answer N := ⟨asked, runId, ⟨result.variant, result.variantName⟩, now, true⟩
            have hexposed : Exposed (past ++ [answer]) asked.id runId fun _ => True :=
              ⟨answer, List.mem_append_right _ (List.mem_singleton_self _), rfl, rfl, rfl, trivial⟩
            exact h.set number hexposed fun _ => .inl rfl
  | verified number result now =>
    change Sourced exact _ (state.verified limits number result now).2
    rw [Client.verified]
    cases hflight : state.flights number with
    | none => simpa only [answersOf, hflight] using hnil h
    | some flight =>
      cases flight with
      | evaluate asked defaultValue => simpa only [answersOf, hflight] using hnil h
      | verify asked defaultValue runId =>
        by_cases herror : (verifiedDetails result defaultValue).reason = .ERROR
        · simp only [answersOf, hflight, if_pos herror]
          exact hnil (h.settle number)
        · simp only [answersOf, hflight, if_neg herror]
          let answer : Answer N := ⟨asked, runId, ⟨some (verifiedDetails result defaultValue).value,
            (verifiedDetails result defaultValue).variantName⟩, now, false⟩
          have hexposed : Exposed (past ++ [answer]) asked.id runId fun _ => True :=
            (h.flights number asked defaultValue runId hflight).mono (List.subset_append_left _ _)
          exact h.set number hexposed fun hexact => .inr (hfresh hexact asked defaultValue runId hflight)

theorem sourced_run (events : List (Event N))
    (hfresh : exact = true → (client limits).Guarded (AnsweredFresh limits) (client limits).init events) :
    Sourced exact (answers limits (client limits).init events) ((client limits).run events) := by
  induction events using List.reverseRecOn with
  | nil => exact sourced_init
  | append_singleton events event ih =>
    have hguard := fun hexact => (client limits).guarded_append.mp (hfresh hexact)
    rw [Machine.run_concat, answers_append, answers, answers, List.append_nil]
    exact sourced_next (ih fun hexact => (hguard hexact).1) fun hexact => (hguard hexact).2.1

/-! ## 3. Suppressed evaluations -/

/-- What is asked for meets the condition. -/
def Event.Asks (P : Asked N → Prop) : Event N → Prop
  | .evaluate flagKey context _ _ => P (context.asked flagKey)
  | _ => True

/-- What has been answered and what is in flight meet the condition. -/
structure AllAsk (P : Asked N → Prop) (past : List (Answer N)) (state : Client N) : Prop where
  answers : ∀ answer ∈ past, P answer.asked
  flights : ∀ number flight, state.flights number = some flight → P flight.asked

variable {P : Asked N → Prop}

omit [NumberFormat N] in
theorem AllAsk.update {calls number : Nat} {entries : Entries N} {flight : Option (Flight N)}
    (h : AllAsk P past state) (hflight : ∀ f ∈ flight, P f.asked) :
    AllAsk P past ⟨entries, calls, Function.update state.flights number flight⟩ where
  answers := h.answers
  flights other f hf := by
    change Function.update state.flights number flight other = some f at hf
    by_cases hother : other = number
    · rw [hother, Function.update_self] at hf
      exact hflight f hf
    · rw [Function.update_of_ne hother] at hf
      exact h.flights other f hf

omit [NumberFormat N] in
theorem asked_answersOf (h : AllAsk P past state) (event : Event N) :
    ∀ answer ∈ answersOf state event, P answer.asked := by
  intro answer hanswer
  cases event with
  | evaluate flagKey context randomUUID now => exact absurd hanswer List.not_mem_nil
  | rejected number => exact absurd hanswer List.not_mem_nil
  | evaluated number result now =>
    simp only [answersOf] at hanswer
    split at hanswer
    · next asked defaultValue runId hflight hrun =>
      split at hanswer
      · exact absurd hanswer List.not_mem_nil
      · rw [List.mem_singleton.mp hanswer]
        exact h.flights number _ hflight
    · exact absurd hanswer List.not_mem_nil
  | verified number result now =>
    simp only [answersOf] at hanswer
    split at hanswer
    · next asked defaultValue runId hflight =>
      split at hanswer
      · exact absurd hanswer List.not_mem_nil
      · rw [List.mem_singleton.mp hanswer]
        exact h.flights number _ hflight
    · exact absurd hanswer List.not_mem_nil

theorem asks_next (h : AllAsk P past state) {event : Event N} (hevent : event.Asks P) :
    AllAsk P past ((client limits).next state event) := by
  have hsettle : ∀ (number : Nat) (entries : Entries N), AllAsk P past (state.settle number entries) :=
    fun _ _ => h.update fun f hf => (by cases hf)
  cases event with
  | rejected number => exact hsettle number _
  | evaluate flagKey context randomUUID now =>
    change AllAsk P past (state.evaluate limits flagKey context randomUUID now).2
    rw [Client.evaluate]
    cases resolveIdempotencyKey randomUUID context.idempotencyKey with
    | error error => exact h
    | ok key =>
      simp only
      split
      · exact ⟨h.answers, h.flights⟩
      · exact h.update fun f hf => (by cases hf; exact hevent)
      · exact h.update fun f hf => (by cases hf; exact hevent)
  | evaluated number result now =>
    change AllAsk P past (state.evaluated limits number result now).2
    rw [Client.evaluated]
    split
    · simp only
      split
      · exact hsettle number _
      · split <;> exact hsettle number _
    · exact h
  | verified number result now =>
    change AllAsk P past (state.verified limits number result now).2
    rw [Client.verified]
    split
    · simp only
      split <;> exact hsettle number _
    · exact h

theorem asks_run {events : List (Event N)} (hasks : ∀ event ∈ events, event.Asks P) :
    AllAsk P (answers limits (client limits).init events) ((client limits).run events) := by
  induction events using List.reverseRecOn with
  | nil => exact ⟨fun _ h => absurd h List.not_mem_nil, fun _ _ h => (by cases h)⟩
  | append_singleton events event ih =>
    have hbefore := ih fun other hother => hasks other (List.mem_append_left _ hother)
    rw [Machine.run_concat, answers_append, answers, answers, List.append_nil]
    have hnext : AllAsk P _ ((client limits).next _ event) := asks_next hbefore
      (hasks event (List.mem_append_right _ (List.mem_singleton_self _)))
    refine ⟨fun answer hanswer => ?_, hnext.flights⟩
    rcases List.mem_append.mp hanswer with hold | hnew
    · exact hbefore.answers answer hold
    · exact asked_answersOf hbefore event answer hnew

/-- What an evaluation that sends no Exposure finds. -/
theorem evaluate_cases {flagKey : String} {context : EvaluationContext N} {randomUUID : Option String}
    {now : Int} {outcome : Outcome N}
    (h : (state.evaluate limits flagKey context randomUUID now).1 = outcome) :
    (∀ entry details, outcome = .cached entry details → details = replayCachedHit entry context.default ∧
      (SeenSet.get limits state.entries (context.asked flagKey) now).1 = .hit entry) ∧
    ∀ runId, outcome = .verifying runId →
      (SeenSet.get limits state.entries (context.asked flagKey) now).1 = .contextMiss runId := by
  rw [Client.evaluate] at h
  cases hkey : resolveIdempotencyKey randomUUID context.idempotencyKey with
  | error error =>
    rw [hkey] at h
    subst h
    exact ⟨fun _ _ heq => (by cases heq), fun _ heq => (by cases heq)⟩
  | ok key =>
    rw [hkey] at h
    simp only at h
    split at h
    · next entry entries hget =>
      subst h
      refine ⟨fun _ _ heq => ?_, fun _ heq => (by cases heq)⟩
      cases heq
      exact ⟨rfl, by rw [hget]⟩
    · next runId entries hget =>
      subst h
      refine ⟨fun _ _ heq => (by cases heq), fun _ heq => ?_⟩
      cases heq
      rw [hget]
    · subst h
      exact ⟨fun _ _ heq => (by cases heq), fun _ heq => (by cases heq)⟩

/-- **Over every interleaving**, an evaluation that sends no Exposure follows one that did, for the same
Flag and Entity and in the Run that it is told of.  What it replays was answered to the same question. -/
theorem suppressed_after_exposure (limits : SeenSetLimits) {events : List (Event N)} {flagKey : String}
    {context : EvaluationContext N} (hclear : ∀ event ∈ events, event.Asks Asked.Clear)
    (hasked : (context.asked flagKey).Clear) (randomUUID : Option String) (now : Int) :
    let past := answers limits (client limits).init events
    let outcome := (((client limits).run events).evaluate limits flagKey context randomUUID now).1
    (∀ entry details, outcome = .cached entry details →
      (∃ answer ∈ past, answer.exposing = true ∧
        answer.asked.SameEntity (context.asked flagKey) ∧ answer.runId = entry.runId) ∧
      ∃ answer ∈ past, answer.asked.Same (context.asked flagKey) ∧
        details = ⟨answer.resolution.variant.getD context.default, answer.resolution.variantName,
          .CACHED, none, none⟩) ∧
    ∀ runId, outcome = .verifying runId →
      ∃ answer ∈ past, answer.exposing = true ∧
        answer.asked.SameEntity (context.asked flagKey) ∧ answer.runId = runId := by
  intro past outcome
  have hsourced : Sourced false past ((client limits).run events) :=
    sourced_run events fun hfalse => (by cases hfalse)
  have hall : AllAsk Asked.Clear past ((client limits).run events) := asks_run hclear
  have hentity : ∀ {runId at'}, Exposed past (context.asked flagKey).id runId at' →
      ∃ answer ∈ past, answer.exposing = true ∧
        answer.asked.SameEntity (context.asked flagKey) ∧ answer.runId = runId := by
    rintro runId at' ⟨answer, hanswer, hexposing, hid, hrun, -⟩
    exact ⟨answer, hanswer, hexposing,
      ((hall.answers answer hanswer).toNamed.id_eq_iff hasked.toNamed).mp hid, hrun⟩
  obtain ⟨hcached, hverifying⟩ := evaluate_cases (rfl : outcome = outcome)
  refine ⟨fun entry details h => ?_, fun runId h => ?_⟩
  · obtain ⟨rfl, hget⟩ := hcached entry details h
    obtain ⟨found, hfound, -, hrun, hvalue⟩ := get_hit hget
    have hmem := LruMap.mem_of_get hfound
    refine ⟨hrun ▸ hentity (hsourced.opened _ found hmem), ?_⟩
    obtain ⟨answer, hanswer, hid, hfingerprint, hresolution⟩ :=
      hsourced.values _ found hmem _ _ (LruMap.mem_of_get hvalue)
    refine ⟨answer, hanswer,
      ((hall.answers answer hanswer).same_iff hasked).mpr ⟨hid, hfingerprint⟩, ?_⟩
    rw [hresolution]
    rfl
  · obtain ⟨found, hfound, -, rfl⟩ := get_contextMiss (hverifying runId h)
    exact hentity (hsourced.opened _ found (LruMap.mem_of_get hfound))

/-- A caller that evaluates a Flag, and what the server answers. -/
def proContext : EvaluationContext Nat where
  targetingKey := "u-1"
  idType := none
  attributes := some proPlan.attributes
  defaultValue := none
  idempotencyKey := .text "call-1"

def firstEvaluation : List (Event Nat) :=
  [.evaluate "checkout" proContext none 0,
   .evaluated 0 ⟨⟨some 200, none, none⟩, some (.bool true), some "on", some "run-1", some .SPLIT⟩ 40]

theorem clear_firstEvaluation : ∀ event ∈ firstEvaluation, event.Asks Asked.Clear := by
  intro event hevent
  rcases List.mem_pair.mp hevent with rfl | rfl
  · exact clear_proPlan
  · trivial

theorem clear_proContext : (proContext.asked "checkout").Clear := clear_proPlan

theorem suppressed_after_exposure_first :
    ∃ answer ∈ answers tenEntries (client tenEntries).init firstEvaluation, answer.exposing = true ∧
      answer.asked.SameEntity proPlan ∧ answer.runId = "run-1" := by
  have hcached : (((client tenEntries).run firstEvaluation).evaluate tenEntries "checkout" proContext
      none 1000).1 = .cached ⟨⟨some (.bool true), some "on"⟩, "run-1", 40⟩
        ⟨.bool true, some "on", .CACHED, none, none⟩ := rfl
  exact ((suppressed_after_exposure tenEntries clear_firstEvaluation clear_proContext none 1000).1 _ _
    hcached).1

/-- **Where every verification is answered in time**, the Exposure-bearing evaluation that an evaluation
without one relies on was answered less than `ttlMs` ago.  Attributes are of no account. -/
theorem suppressed_within_ttl (limits : SeenSetLimits) {events : List (Event N)} {flagKey : String}
    {context : EvaluationContext N} (hnamed : ∀ event ∈ events, event.Asks Asked.Named)
    (hasked : (context.asked flagKey).Named)
    (hfresh : (client limits).Guarded (AnsweredFresh limits) (client limits).init events)
    (randomUUID : Option String) (now : Int) (runId : String)
    (hsuppressed : (∃ entry details,
        (((client limits).run events).evaluate limits flagKey context randomUUID now).1 =
          .cached entry details ∧ entry.runId = runId) ∨
      (((client limits).run events).evaluate limits flagKey context randomUUID now).1 =
        .verifying runId) :
    ∃ answer ∈ answers limits (client limits).init events, answer.exposing = true ∧
      answer.asked.SameEntity (context.asked flagKey) ∧ answer.runId = runId ∧
      now - limits.ttlMs < answer.now := by
  have hsourced : Sourced true (answers limits (client limits).init events) ((client limits).run events) :=
    sourced_run events fun _ => hfresh
  have hall : AllAsk Asked.Named (answers limits (client limits).init events)
      ((client limits).run events) := asks_run hnamed
  have hfound : ∃ found, LruMap.get ((client limits).run events).entries (context.asked flagKey).id =
      some found ∧ now - found.storedAt < limits.ttlMs ∧ found.runId = runId := by
    rcases hsuppressed with ⟨entry, details, hcached, rfl⟩ | hverifying
    · obtain ⟨found, hfound, hlt, hrun, -⟩ :=
        get_hit ((evaluate_cases hcached).1 entry details rfl).2
      exact ⟨found, hfound, hlt, hrun.symm⟩
    · obtain ⟨found, hfound, hlt, hrun⟩ := get_contextMiss ((evaluate_cases hverifying).2 runId rfl)
      exact ⟨found, hfound, hlt, hrun.symm⟩
  obtain ⟨found, hfound, hlt, rfl⟩ := hfound
  obtain ⟨answer, hanswer, hexposing, hid, hrun, hat⟩ :=
    hsourced.opened _ found (LruMap.mem_of_get hfound)
  refine ⟨answer, hanswer, hexposing, ((hall.answers answer hanswer).id_eq_iff hasked).mp hid, hrun, ?_⟩
  rw [hat rfl]
  omega

/-- The same Entity, with another plan: the first call of it is verified. -/
def freeContext : EvaluationContext Nat where
  targetingKey := "u-1"
  idType := none
  attributes := some ⟨[("plan", .str "free")], .obj (List.nodup_singleton _) fun member h => by
    rw [List.mem_singleton.mp h]
    exact .str _⟩
  defaultValue := none
  idempotencyKey := .text "call-2"

def verifiedEvaluation : List (Event Nat) :=
  firstEvaluation ++ [.evaluate "checkout" freeContext none 1000,
    .verified 1 ⟨⟨some 200, none, none⟩, some ⟨.bool true, some "on", .SPLIT, none, none⟩⟩ 1500]

theorem named_verifiedEvaluation : ∀ event ∈ verifiedEvaluation, event.Asks Asked.Named := by
  intro event hevent
  rcases List.mem_append.mp hevent with hfirst | hlast
  · rcases List.mem_pair.mp hfirst with rfl | rfl
    · exact clear_proPlan.toNamed
    · trivial
  · rcases List.mem_pair.mp hlast with rfl | rfl
    · exact ⟨by decide, by decide⟩
    · trivial

theorem suppressed_within_ttl_first :
    ∃ answer ∈ answers tenEntries (client tenEntries).init verifiedEvaluation, answer.exposing = true ∧
      answer.asked.SameEntity proPlan ∧ answer.runId = "run-1" ∧ 60039 - 60000 < answer.now := by
  have hcached : (((client tenEntries).run verifiedEvaluation).evaluate tenEntries "checkout" freeContext
      none 60039).1 = .cached ⟨⟨some (.bool true), some "on"⟩, "run-1", 40⟩
        ⟨.bool true, some "on", .CACHED, none, none⟩ := rfl
  refine suppressed_within_ttl tenEntries named_verifiedEvaluation ⟨by decide, by decide⟩
    ⟨trivial, trivial, trivial, fun asked _ runId hflight => ?_, trivial⟩ none 60039 "run-1"
    (.inl ⟨_, _, hcached, rfl⟩)
  cases hflight
  exact ⟨_, rfl, by decide⟩

end Seen

end Splitch
