/-
# Runs of a deterministic machine

Every component verified here is driven from outside: requests arrive, alarms fire, remote calls
succeed or fail.  All of that is put into the EVENT, so that a component is a machine whose step
is a function, and a run is nothing but the list of the events that were fed to it.  What holds
"in every reachable state" is then what holds of `M.run es` for every list `es`, and what holds
"of every step" is what holds of `M.step (M.run pre) e` for every prefix `pre` and next event `e`.

The rules below are the ones the development uses:

* an invariant of every state (`exec_invariant`);
* an invariant that only guarded events keep (`exec_invariant_of_guarded`), and a guard that is
  exact for it (`guarded_iff_forall_prefix`);
* an invariant that mentions the HISTORY and the CLOCK (`timed_induction`): the events carry a
  time stamp, the stamps do not decrease, and between two events the clock may advance.
-/
import Mathlib

/-- A machine: an initial state, and a step that consumes an event and answers it. -/
structure Machine (σ ε ω : Type*) where
  init : σ
  step : σ → ε → ω × σ

namespace Machine

variable {σ ε ω : Type*} (M : Machine σ ε ω)

/-! ## 1. Execution -/

/-- The answer to an event. -/
def out (s : σ) (e : ε) : ω := (M.step s e).1

/-- The state after an event. -/
def next (s : σ) (e : ε) : σ := (M.step s e).2

/-- The state after a list of events. -/
def exec (s : σ) (es : List ε) : σ := es.foldl M.next s

/-- The state a run ends in. -/
def run (es : List ε) : σ := M.exec M.init es

@[simp] theorem exec_nil (s : σ) : M.exec s [] = s := rfl

@[simp] theorem exec_cons (s : σ) (e : ε) (es : List ε) :
    M.exec s (e :: es) = M.exec (M.next s e) es := rfl

@[simp] theorem exec_append (s : σ) (es fs : List ε) :
    M.exec s (es ++ fs) = M.exec (M.exec s es) fs := List.foldl_append

@[simp] theorem run_nil : M.run [] = M.init := rfl

theorem run_append (es fs : List ε) : M.run (es ++ fs) = M.exec (M.run es) fs :=
  M.exec_append _ es fs

/-- The last step of a run. -/
@[simp] theorem run_concat (es : List ε) (e : ε) : M.run (es ++ [e]) = M.next (M.run es) e :=
  M.run_append es [e]

/-! ## 2. Invariants -/

/-- **The invariant rule.**  What every step keeps, every run keeps. -/
theorem exec_invariant {I : σ → Prop} (hstep : ∀ s e, I s → I (M.next s e)) {s : σ} (hs : I s)
    (es : List ε) : I (M.exec s es) := by
  induction es generalizing s with
  | nil => exact hs
  | cons e es ih => exact ih (hstep s e hs)

/-- Every event of the run meets the guard, in the state it finds. -/
def Guarded (G : σ → ε → Prop) : σ → List ε → Prop
  | _, [] => True
  | s, e :: es => G s e ∧ Guarded G (M.next s e) es

instance instDecidableGuarded {G : σ → ε → Prop} [∀ s e, Decidable (G s e)] :
    ∀ (s : σ) (es : List ε), Decidable (M.Guarded G s es)
  | _, [] => isTrue trivial
  | s, e :: es =>
    have : Decidable (M.Guarded G (M.next s e) es) :=
      instDecidableGuarded (M.next s e) es
    inferInstanceAs (Decidable (G s e ∧ M.Guarded G (M.next s e) es))

theorem guarded_append {G : σ → ε → Prop} {s : σ} {es fs : List ε} :
    M.Guarded G s (es ++ fs) ↔ M.Guarded G s es ∧ M.Guarded G (M.exec s es) fs := by
  induction es generalizing s with
  | nil => simp [Guarded]
  | cons e es ih => simp only [List.cons_append, Guarded, exec_cons, ih, and_assoc]

theorem guarded_and {G H : σ → ε → Prop} {s : σ} {es : List ε} :
    M.Guarded (fun s e => G s e ∧ H s e) s es ↔ M.Guarded G s es ∧ M.Guarded H s es := by
  induction es generalizing s with
  | nil => simp [Guarded]
  | cons e es ih =>
    simp only [Guarded, ih]
    exact and_and_and_comm

theorem Guarded.mono {G H : σ → ε → Prop} (himp : ∀ s e, G s e → H s e) {s : σ} {es : List ε}
    (hg : M.Guarded G s es) : M.Guarded H s es := by
  induction es generalizing s with
  | nil => trivial
  | cons e es ih => exact ⟨himp s e hg.1, ih hg.2⟩

/-- The same, read off the prefixes of the run. -/
theorem guarded_iff_prefix {G : σ → ε → Prop} {s : σ} {es : List ε} :
    M.Guarded G s es ↔ ∀ pre e, pre ++ [e] <+: es → G (M.exec s pre) e := by
  constructor
  · rintro h pre e ⟨post, rfl⟩
    rw [List.append_assoc] at h
    exact (M.guarded_append.mp h).2.1
  · intro h
    induction es generalizing s with
    | nil => trivial
    | cons e es ih =>
      refine ⟨h [] e (by simp), ih ?_⟩
      intro pre e' hp
      exact h (e :: pre) e' (List.cons_prefix_cons.mpr ⟨rfl, hp⟩)

/-- **The invariant rule under a guard.** -/
theorem exec_invariant_of_guarded {I : σ → Prop} {G : σ → ε → Prop}
    (hstep : ∀ s e, I s → G s e → I (M.next s e)) {s : σ} {es : List ε} (hs : I s)
    (hg : M.Guarded G s es) : I (M.exec s es) := by
  induction es generalizing s with
  | nil => exact hs
  | cons e es ih => exact ih (hstep s e hs hg.1) hg.2

/-- **An exact guard.**  Where a step leads from a good state to a good state just when its event
meets the guard, a run meets the guard just when all its states are good. -/
theorem guarded_iff_forall_prefix {I P : σ → Prop} {G : σ → ε → Prop}
    (hinv : ∀ s e, I s → I (M.next s e)) (hstep : ∀ s e, I s → P s → (G s e ↔ P (M.next s e)))
    {s : σ} (hs : I s) (hp : P s) (es : List ε) :
    M.Guarded G s es ↔ ∀ pre, pre <+: es → P (M.exec s pre) := by
  induction es generalizing s with
  | nil =>
    refine ⟨fun _ pre hpre => ?_, fun _ => trivial⟩
    rw [List.prefix_nil.mp hpre]
    exact hp
  | cons e es ih =>
    constructor
    · rintro ⟨hg, hrest⟩ pre hpre
      cases pre with
      | nil => exact hp
      | cons e' pre =>
        obtain ⟨rfl, hrest'⟩ := List.cons_prefix_cons.mp hpre
        exact (ih (hinv s e' hs) ((hstep s e' hs hp).mp hg)).mp hrest pre hrest'
    · intro h
      have hnext : P (M.next s e) := h [e] (List.cons_prefix_cons.mpr ⟨rfl, List.nil_prefix⟩)
      refine ⟨(hstep s e hs hp).mpr hnext, (ih (hinv s e hs) hnext).mpr fun pre hpre => ?_⟩
      exact h (e :: pre) (List.cons_prefix_cons.mpr ⟨rfl, hpre⟩)

/-! ## 3. Time stamps -/

section Timed

variable {τ : Type*} [Preorder τ] (clock : ε → τ)

/-- The time stamps of a run do not decrease. -/
def Timed (es : List ε) : Prop := es.Pairwise (fun a b => clock a ≤ clock b)

/-- No event of the run is later than `t`. -/
def Before (es : List ε) (t : τ) : Prop := ∀ e ∈ es, clock e ≤ t

theorem timed_append {es fs : List ε} :
    Timed clock (es ++ fs) ↔
      Timed clock es ∧ Timed clock fs ∧ ∀ a ∈ es, ∀ b ∈ fs, clock a ≤ clock b :=
  List.pairwise_append

theorem Timed.of_prefix {es fs : List ε} (h : Timed clock fs) (hp : es <+: fs) :
    Timed clock es := List.Pairwise.sublist hp.sublist h

theorem timed_concat {es : List ε} {e : ε} :
    Timed clock (es ++ [e]) ↔ Timed clock es ∧ Before clock es (clock e) := by
  rw [timed_append]
  simp [Before, Timed]

theorem Before.mono {es : List ε} {t t' : τ} (h : Before clock es t) (ht : t ≤ t') :
    Before clock es t' := fun e he => (h e he).trans ht

/-- **Induction over timed runs.**  `I es t` speaks of the run `es` looked at from time `t`.  It
holds of the empty run, it survives the passing of time, and each further event keeps it. -/
theorem timed_induction {I : List ε → τ → Prop} (hinit : ∀ t, I [] t)
    (hage : ∀ es t t', t ≤ t' → I es t → I es t')
    (hstep : ∀ es e, Timed clock (es ++ [e]) → I es (clock e) → I (es ++ [e]) (clock e)) :
    ∀ es, Timed clock es → ∀ t, Before clock es t → I es t := by
  intro es
  induction es using List.reverseRecOn with
  | nil => exact fun _ t _ => hinit t
  | append_singleton es e ih =>
    intro ht t hb
    have hes := (timed_concat clock).mp ht
    have hlast : clock e ≤ t := hb e (by simp)
    exact hage _ _ _ hlast (hstep es e ht (ih hes.1 _ hes.2))

end Timed

end Machine
