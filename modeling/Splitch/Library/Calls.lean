/-
# Programs that call out

A request handler is sequential code that awaits remote calls.  Between two of them anything may
happen elsewhere, so what such a handler IS, for the rest of the system, is the tree of its
calls: either it is done, or it has one call outstanding and goes on by the reply (`Calls`).

What can be said about a handler without looking at the rest of the system is how what it KNOWS
develops: a `Protocol` says what each reply teaches and which calls are allowed on what is known,
and `Follows` says that a program keeps to the protocol on every reply, and ends as promised.  It
is computed call by call, like a weakest precondition, so a `do` block is checked from its first
line to its last with two rules: `follows_bind` and, for a call, `follows_perform_bind`.

Whether what is known is TRUE is the business of the system the handler runs in: there every step
of a handler is one `Follows.step`.
-/
import Mathlib.Init

/-- A program over calls `Op`, each answered by a `Reply op`. -/
inductive Calls (Op : Type) (Reply : Op → Type) (α : Type) : Type
  | done (result : α)
  | call (op : Op) (next : Reply op → Calls Op Reply α)

namespace Calls

variable {Op : Type} {Reply : Op → Type} {α β K : Type}

/-! ## 1. Sequencing -/

protected def bind : Calls Op Reply α → (α → Calls Op Reply β) → Calls Op Reply β
  | done a, f => f a
  | call op next, f => call op fun reply => (next reply).bind f

instance : Monad (Calls Op Reply) where
  pure := done
  bind := Calls.bind

/-- One call. -/
def perform (op : Op) : Calls Op Reply (Reply op) := call op done

/-- The result, of a program that is done. -/
def result? : Calls Op Reply α → Option α
  | done a => some a
  | call _ _ => none

theorem result?_eq_some {p : Calls Op Reply α} {a : α} : p.result? = some a ↔ p = done a := by
  cases p <;> simp [result?]

/-! ## 2. Protocols -/

/-- What a caller may do on what it knows, and what it learns. -/
structure Protocol (Op : Type) (Reply : Op → Type) (K : Type) where
  allowed : K → Op → Prop
  learn : K → (op : Op) → Reply op → K

/-- The program keeps to the protocol, whatever it is answered, and ends with `post`. -/
def Follows (P : Protocol Op Reply K) (post : K → α → Prop) : K → Calls Op Reply α → Prop
  | k, done a => post k a
  | k, call op next => P.allowed k op ∧ ∀ reply, Follows P post (P.learn k op reply) (next reply)

variable {P : Protocol Op Reply K} {k : K}

@[simp] theorem follows_pure {post : K → α → Prop} {a : α} :
    Follows P post k (pure a) ↔ post k a := Iff.rfl

/-- A call, and the program that goes on by its reply. -/
theorem follows_perform_bind {op : Op} {f : Reply op → Calls Op Reply β} {post : K → β → Prop} :
    Follows P post k (perform op >>= f) ↔
      P.allowed k op ∧ ∀ reply, Follows P post (P.learn k op reply) (f reply) := Iff.rfl

/-- **Sequencing**: the second program starts on what the first one has learned. -/
theorem follows_bind {post : K → β → Prop} {p : Calls Op Reply α}
    {f : α → Calls Op Reply β} :
    Follows P post k (p >>= f) ↔ Follows P (fun k a => Follows P post k (f a)) k p := by
  induction p generalizing k with
  | done a => exact Iff.rfl
  | call op next ih =>
    change (_ ∧ ∀ reply, Follows P post _ ((next reply).bind f)) ↔ _
    simp only [Follows]
    exact and_congr_right fun _ => forall_congr' fun reply => ih reply

/-- **Consequence.** -/
theorem Follows.mono {post post' : K → α → Prop} {p : Calls Op Reply α}
    (h : Follows P post k p) (himp : ∀ k a, post k a → post' k a) : Follows P post' k p := by
  induction p generalizing k with
  | done a => exact himp k a h
  | call op next ih => exact ⟨h.1, fun reply => ih reply (h.2 reply)⟩

/-- **One step of a program**: the outstanding call is allowed, and the rest keeps to the protocol
on what the reply teaches. -/
theorem Follows.step {post : K → α → Prop} {op : Op} {next : Reply op → Calls Op Reply α}
    (h : Follows P post k (call op next)) (reply : Reply op) :
    P.allowed k op ∧ Follows P post (P.learn k op reply) (next reply) := ⟨h.1, h.2 reply⟩

end Calls
