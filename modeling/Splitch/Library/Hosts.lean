/-
# Programs on a host

A host answers the calls of a program (`Calls`) from its stores, while other things happen to them
elsewhere.  A program is SAFE from a state when, whatever the answers and whatever happens between its
calls, the states it meets keep an invariant, each of its calls is made where a contract allows it,
and its result comes with a postcondition (`Safe`).  Like a weakest precondition it is computed call
by call; `Safe.bind`, `Safe.bindE` and `Safe.of_call` check a `do` block from its first line on.

A server runs one job at a time, and may stop at any point of it (`Server`).  Jobs that are safe keep
the invariant over every history of the server: `Server.reachable_ok`.
-/
import Splitch.Library.Calls
import Mathlib.Logic.Relation

namespace Hosts

variable {W Op : Type} {Reply : Op → Type} {α β E : Type}

/-- How a call may be answered, and what may happen between calls. -/
structure Host (W Op : Type) (Reply : Op → Type) where
  answers : W → (op : Op) → Reply op → W → Prop
  elsewhere : W → W → Prop

/-- What holds in every state, and where a call may be made. -/
structure Contract (W Op : Type) where
  holds : W → Prop
  allows : W → Op → Prop

/-! ## 1. Safety -/

section Safety

variable (H : Host W Op Reply) (C : Contract W Op)

/-- Some time passes between two calls. -/
def Host.Drifts : W → W → Prop := Relation.ReflTransGen H.elsewhere

/-- Nothing elsewhere makes the assertion false. -/
def Host.Stable (A : W → Prop) : Prop := ∀ w w', A w → H.elsewhere w w' → A w'

def Safe (post : α → W → Prop) : Calls Op Reply α → W → Prop
  | .done a, w => ∀ w', H.Drifts w w' → C.holds w' ∧ post a w'
  | .call op next, w => ∀ w', H.Drifts w w' → C.holds w' ∧ C.allows w' op ∧
      ∀ reply w'', H.answers w' op reply w'' → Safe post (next reply) w''

variable {H C} {A : W → Prop} {post post' : α → W → Prop} {p : Calls Op Reply α} {w w' : W}

theorem Host.Stable.drifts (hs : H.Stable A) (hA : A w) (h : H.Drifts w w') : A w' := by
  induction h with
  | refl => exact hA
  | tail _ hstep ih => exact hs _ _ ih hstep

theorem Host.Stable.and {B : W → Prop} (hA : H.Stable A) (hB : H.Stable B) :
    H.Stable fun w => A w ∧ B w :=
  fun w w' h hstep => ⟨hA w w' h.1 hstep, hB w w' h.2 hstep⟩

/-- A safe program stays safe while time passes. -/
theorem Safe.drift (h : Safe H C post p w) (hd : H.Drifts w w') : Safe H C post p w' := by
  cases p with
  | done a => exact fun w'' hd' => h w'' (hd.trans hd')
  | call op next => exact fun w'' hd' => h w'' (hd.trans hd')

theorem Safe.holds (h : Safe H C post p w) : C.holds w := by
  cases p with
  | done a => exact (h w .refl).1
  | call op next => exact (h w .refl).1

/-- **Consequence.** -/
theorem Safe.mono (h : Safe H C post p w) (himp : ∀ a w, post a w → post' a w) :
    Safe H C post' p w := by
  induction p generalizing w with
  | done a => exact fun w' hd => ⟨(h w' hd).1, himp a w' (h w' hd).2⟩
  | call op next ih =>
    intro w' hd
    obtain ⟨hholds, hallows, hnext⟩ := h w' hd
    exact ⟨hholds, hallows, fun reply w'' hans => ih reply (hnext reply w'' hans)⟩

/-- **Sequencing.** -/
theorem Safe.bind {f : α → Calls Op Reply β} {post : β → W → Prop}
    (h : Safe H C (fun a w => Safe H C post (f a) w) p w) : Safe H C post (p >>= f) w := by
  induction p generalizing w with
  | done a => exact (h w .refl).2
  | call op next ih =>
    intro w' hd
    obtain ⟨hholds, hallows, hnext⟩ := h w' hd
    exact ⟨hholds, hallows, fun reply w'' hans => ih reply (hnext reply w'' hans)⟩

theorem Safe.of_done {a : α} (hs : H.Stable A) (hA : A w)
    (h : ∀ w, A w → C.holds w ∧ post a w) : Safe H C post (.done a) w :=
  fun w' hd => h w' (hs.drifts hA hd)

/-- **One call**, made where a stable assertion holds. -/
theorem Safe.of_call {op : Op} {next : Reply op → Calls Op Reply α} (hs : H.Stable A) (hA : A w)
    (hop : ∀ w, A w → C.holds w ∧ C.allows w op)
    (hnext : ∀ w reply w', A w → H.answers w op reply w' → Safe H C post (next reply) w') :
    Safe H C post (.call op next) w := fun w' hd =>
  have hA' := hs.drifts hA hd
  ⟨(hop w' hA').1, (hop w' hA').2, fun reply w'' hans => hnext w' reply w'' hA' hans⟩

/-! ## 2. Programs that throw -/

/-- Sequencing of programs that may throw: what is thrown is handed on. -/
theorem Safe.bindE {x : ExceptT E (Calls Op Reply) α} {f : α → ExceptT E (Calls Op Reply) β}
    {post : Except E β → W → Prop}
    (h : Safe H C (fun result w => match result with
      | .ok a => Safe H C post (f a) w
      | .error e => post (.error e) w) x w) : Safe H C post (x >>= f : ExceptT E _ β) w := by
  refine Safe.bind (p := x) ?_
  induction x generalizing w with
  | done result =>
    cases result with
    | ok a => exact h
    | error e => exact fun w' hd => ⟨(h w' hd).1, fun w'' hd' => h w'' (hd.trans hd')⟩
  | call op next ih =>
    intro w' hd
    obtain ⟨hholds, hallows, hnext⟩ := h w' hd
    exact ⟨hholds, hallows, fun reply w'' hans => ih reply (hnext reply w'' hans)⟩

/-- What is thrown is handled. -/
theorem Safe.catchE {x : ExceptT E (Calls Op Reply) α} {f : E → ExceptT E (Calls Op Reply) α}
    {post : Except E α → W → Prop}
    (h : Safe H C (fun result w => match result with
      | .ok a => post (.ok a) w
      | .error e => Safe H C post (f e) w) x w) : Safe H C post (tryCatch x f : ExceptT E _ α) w := by
  refine Safe.bind (p := x) ?_
  induction x generalizing w with
  | done result =>
    cases result with
    | ok a => exact fun w' hd => ⟨(h w' hd).1, fun w'' hd' => h w'' (hd.trans hd')⟩
    | error e => exact h
  | call op next ih =>
    intro w' hd
    obtain ⟨hholds, hallows, hnext⟩ := h w' hd
    exact ⟨hholds, hallows, fun reply w'' hans => ih reply (hnext reply w'' hans)⟩

/-- A result is mapped. -/
theorem Safe.mapE {x : ExceptT E (Calls Op Reply) α} {f : α → β} {post : Except E β → W → Prop}
    (h : Safe H C (fun result w => post (result.map f) w) x w) :
    Safe H C post (f <$> x : ExceptT E _ β) w := by
  refine Safe.bind (p := x) ?_
  induction x generalizing w with
  | done result =>
    cases result with
    | ok a => exact fun w' hd => ⟨(h w' hd).1, fun w'' hd' => h w'' (hd.trans hd')⟩
    | error e => exact fun w' hd => ⟨(h w' hd).1, fun w'' hd' => h w'' (hd.trans hd')⟩
  | call op next ih =>
    intro w' hd
    obtain ⟨hholds, hallows, hnext⟩ := h w' hd
    exact ⟨hholds, hallows, fun reply w'' hans => ih reply (hnext reply w'' hans)⟩

end Safety

/-! ## 3. Servers -/

/-- A server of jobs: when a job may start, its program, what its result does to the state, and what a
stop does to it. -/
structure Server (W Op Job R : Type) (Reply : Op → Type) extends Host W Op Reply where
  starts : W → Job → W → Prop
  program : Job → Calls Op Reply R
  settle : Job → R → W → W
  restart : W → W

namespace Server

variable {Job R : Type} (S : Server W Op Job R Reply)

/-- A state of the server, and the job it is at. -/
structure State (W Op Job R : Type) (Reply : Op → Type) where
  world : W
  running : Option (Job × Calls Op Reply R)

inductive Step : State W Op Job R Reply → State W Op Job R Reply → Prop
  | elsewhere {w w' : W} {running : Option (Job × Calls Op Reply R)} (h : S.elsewhere w w') :
      Step ⟨w, running⟩ ⟨w', running⟩
  | start {w w' : W} {job : Job} (h : S.starts w job w') :
      Step ⟨w, none⟩ ⟨w', some (job, S.program job)⟩
  | call {w w' : W} {job : Job} {op : Op} {next : Reply op → Calls Op Reply R} {reply : Reply op}
      (h : S.answers w op reply w') : Step ⟨w, some (job, .call op next)⟩ ⟨w', some (job, next reply)⟩
  | settle {w : W} {job : Job} {result : R} :
      Step ⟨w, some (job, .done result)⟩ ⟨S.settle job result w, none⟩
  | stop {w : W} {running : Option (Job × Calls Op Reply R)} :
      Step ⟨w, running⟩ ⟨S.restart w, none⟩

/-- A history of the server. -/
def Reaches : State W Op Job R Reply → State W Op Job R Reply → Prop :=
  Relation.ReflTransGen S.Step

/-- The invariant holds, and the job at hand is safe. -/
def Ok (C : Contract W Op) (post : Job → R → W → Prop) (s : State W Op Job R Reply) : Prop :=
  C.holds s.world ∧ ∀ job p, s.running = some (job, p) → Safe S.toHost C (post job) p s.world

variable {S} {C : Contract W Op} {post : Job → R → W → Prop} {s s' : State W Op Job R Reply}

/-- **One step** of a server of safe jobs. A job that is running is safe from the state it is in,
whatever is done elsewhere; a call takes it to its next safe state, and its end hands over what it has
promised. -/
theorem step_ok (hstable : S.Stable C.holds)
    (hstart : ∀ w job w', C.holds w → S.starts w job w' →
      Safe S.toHost C (post job) (S.program job) w')
    (hsettle : ∀ w job result, C.holds w → post job result w → C.holds (S.settle job result w))
    (hstop : ∀ w, C.holds w → C.holds (S.restart w))
    (h : S.Ok C post s) (hstep : S.Step s s') : S.Ok C post s' := by
  obtain ⟨hholds, hsafe⟩ := h
  cases hstep with
  | elsewhere helse =>
    exact ⟨hstable _ _ hholds helse, fun job p hrun => (hsafe job p hrun).drift (.single helse)⟩
  | start hstarts =>
    refine ⟨(hstart _ _ _ hholds hstarts).holds, fun job p hrun => ?_⟩
    cases hrun
    exact hstart _ _ _ hholds hstarts
  | call hans =>
    have hnext := (hsafe _ _ rfl _ .refl).2.2 _ _ hans
    refine ⟨hnext.holds, fun job p hrun => ?_⟩
    cases hrun
    exact hnext
  | settle =>
    have hpost := (hsafe _ _ rfl _ .refl).2
    exact ⟨hsettle _ _ _ hholds hpost, fun job p hrun => (by cases hrun)⟩
  | stop => exact ⟨hstop _ hholds, fun job p hrun => (by cases hrun)⟩

/-- **Histories** of a server of safe jobs. -/
theorem reachable_ok (hstable : S.Stable C.holds)
    (hstart : ∀ w job w', C.holds w → S.starts w job w' →
      Safe S.toHost C (post job) (S.program job) w')
    (hsettle : ∀ w job result, C.holds w → post job result w → C.holds (S.settle job result w))
    (hstop : ∀ w, C.holds w → C.holds (S.restart w))
    (hs : S.Ok C post s) (h : S.Reaches s s') : S.Ok C post s' := by
  induction h with
  | refl => exact hs
  | tail _ hstep ih => exact step_ok hstable hstart hsettle hstop ih hstep

end Server

end Hosts
