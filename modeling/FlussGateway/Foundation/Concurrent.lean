import FlussGateway.Foundation.Program
import Mathlib.Data.List.Basic

/-!
# Programs side by side

Any number of programs call one service, one call at a time and in any order. A tag says
on whose behalf a program runs.
-/
namespace FlussGateway.Foundation

namespace Program

variable {Op : Type} {Reply : Op → Type} {ε α σ τ : Type}

/-- Every call satisfies `P` and a returned value satisfies `Q`, as long as all replies satisfy `R`. -/
def Guarded (P : Op → Prop) (R : (op : Op) → Reply op → Prop) (Q : α → Prop) : Program Op Reply ε α → Prop
  | .done result => ∀ a, result = .ok a → Q a
  | .call op next => P op ∧ ∀ reply, R op reply → (next reply).Guarded P R Q

theorem Guarded.value {P : Op → Prop} {R : (op : Op) → Reply op → Prop} {Q : α → Prop} {a : α}
    (guarded : (Program.done (.ok a) : Program Op Reply ε α).Guarded P R Q) : Q a := guarded a rfl

/-! ## Guarded programs put together -/

section Rules

variable {β : Type} {P : Op → Prop} {R : (op : Op) → Reply op → Prop}

theorem Always.guarded {p : Program Op Reply ε α} (always : p.Always P) :
    p.Guarded P R fun _ => True := by
  induction p with
  | done result => exact fun _ _ => trivial
  | call op next ih => exact ⟨always.1, fun reply _ => ih reply (always.2 reply)⟩

theorem Guarded.mono {P' : Op → Prop} {Q Q' : α → Prop} {p : Program Op Reply ε α}
    (guarded : p.Guarded P R Q) (calls : ∀ op, P op → P' op) (values : ∀ a, Q a → Q' a) :
    p.Guarded P' R Q' := by
  induction p with
  | done result => exact fun a same => values a (guarded a same)
  | call op next ih =>
    exact ⟨calls op guarded.1, fun reply relied => ih reply (guarded.2 reply relied)⟩

theorem Guarded.and {P' : Op → Prop} {Q : α → Prop} {p : Program Op Reply ε α}
    (guarded : p.Guarded P R Q) (always : p.Always P') :
    p.Guarded (fun op => P op ∧ P' op) R Q := by
  induction p with
  | done result => exact guarded
  | call op next ih =>
    exact ⟨⟨guarded.1, always.1⟩, fun reply relied => ih reply (guarded.2 reply relied) (always.2 reply)⟩

/-- What the first part returns may be relied on by the rest. -/
theorem Guarded.bind {Q : α → Prop} {Q' : β → Prop} {p : Program Op Reply ε α}
    {f : α → Program Op Reply ε β} (first : p.Guarded P R Q)
    (rest : ∀ a, Q a → (f a).Guarded P R Q') : (p >>= f).Guarded P R Q' := by
  induction p with
  | done result =>
    cases result with
    | ok a => exact rest a (first a rfl)
    | error fault => exact nofun
  | call op next ih => exact ⟨first.1, fun reply relied => ih reply (first.2 reply relied)⟩

theorem Guarded.attempt {ε' : Type} {Q : α → Prop} {p : Program Op Reply ε α}
    (guarded : p.Guarded P R Q) :
    (p.attempt : Program Op Reply ε' (Except ε α)).Guarded P R fun _ => True := by
  induction p with
  | done result =>
    cases result with
    | ok a => exact fun _ _ => trivial
    | error fault => cases fault <;> exact fun _ _ => trivial
  | call op next ih => exact ⟨guarded.1, fun reply relied => ih reply (guarded.2 reply relied)⟩

theorem Guarded.always {Q : α → Prop} {p : Program Op Reply ε α}
    (guarded : p.Guarded P (fun _ _ => True) Q) : p.Always P := by
  induction p with
  | done result => trivial
  | call op next ih => exact ⟨guarded.1, fun reply => ih reply (guarded.2 reply trivial)⟩

/-- A program over a service that is itself a program over another: each permitted call is carried
out within the guard, so the whole is. -/
theorem Always.translate_guarded {Op' : Type} {Reply' : Op' → Type} {W : Op' → Prop}
    {impl : (op : Op') → Program Op Reply ε (Reply' op)} {p : Program Op' Reply' ε α}
    (always : p.Always W) (each : ∀ op, W op → (impl op).Guarded P R fun _ => True) :
    (p.translate impl).Guarded P R fun _ => True := by
  induction p with
  | done result => exact fun _ _ => trivial
  | call op next ih =>
    exact (each op always.1).bind fun reply _ => ih reply (always.2 reply)

end Rules

/-- What may happen at a service: programs begin, programs make their next call, and outsiders
call as they please within `Outside`. -/
inductive Concurrent (h : Handler Op Reply σ) (program : τ → Program Op Reply ε α) (Begins : τ → Prop)
    (Outside : Op → Prop) (start : σ) : σ → List (τ × Program Op Reply ε α) → Prop where
  | start : Concurrent h program Begins Outside start start []
  | begin {s : σ} {threads : List (τ × Program Op Reply ε α)} (tag : τ) (begins : Begins tag)
      (reached : Concurrent h program Begins Outside start s threads) :
      Concurrent h program Begins Outside start s ((tag, program tag) :: threads)
  | step {s : σ} {threads : List (τ × Program Op Reply ε α)} (i : Nat) {tag : τ} {op : Op}
      {next : Reply op → Program Op Reply ε α} (waiting : threads[i]? = some (tag, .call op next))
      (reached : Concurrent h program Begins Outside start s threads) :
      Concurrent h program Begins Outside start (h op s).2 (threads.set i (tag, next (h op s).1))
  | outside {s : σ} {threads : List (τ × Program Op Reply ε α)} (op : Op) (permitted : Outside op)
      (reached : Concurrent h program Begins Outside start s threads) :
      Concurrent h program Begins Outside start (h op s).2 threads

namespace Concurrent

variable {h : Handler Op Reply σ} {program : τ → Program Op Reply ε α} {Begins : τ → Prop}
  {Outside : Op → Prop} {start s : σ} {threads : List (τ × Program Op Reply ε α)}

/-- The rule for programs side by side: what every permitted call keeps holds throughout, and each
program returns what it promises, if the service's replies are what they rely on. -/
theorem guarded {P : τ → Op → Prop} {R : (op : Op) → Reply op → Prop} {Q : τ → α → Prop} {I : σ → Prop}
    (reached : Concurrent h program Begins Outside start s threads) (initial : I start)
    (begun : ∀ tag, Begins tag → (program tag).Guarded (P tag) R (Q tag))
    (replies : ∀ op s, I s → R op (h op s).1) (kept : ∀ tag op s, P tag op → I s → I (h op s).2)
    (others : ∀ op s, Outside op → I s → I (h op s).2) :
    I s ∧ ∀ thread ∈ threads, thread.2.Guarded (P thread.1) R (Q thread.1) := by
  induction reached with
  | start => exact ⟨initial, fun _ member => by cases member⟩
  | begin tag begins _ ih =>
    refine ⟨ih.1, fun thread member => ?_⟩
    rcases List.mem_cons.mp member with rfl | before
    · exact begun tag begins
    · exact ih.2 thread before
  | step i waiting _ ih =>
    -- The thread's own promise permits the call, and its rely covers the reply it gets.
    obtain ⟨permitted, continues⟩ := ih.2 _ (List.mem_of_getElem? waiting)
    refine ⟨kept _ _ _ permitted ih.1, fun thread member => ?_⟩
    rcases List.mem_or_eq_of_mem_set member with before | rfl
    · exact ih.2 thread before
    · exact continues _ (replies _ _ ih.1)
  | outside op permitted _ ih => exact ⟨others op _ permitted ih.1, ih.2⟩

/-- A program that nobody disturbs runs to its end. -/
theorem undisturbed {tag : τ} {p : Program Op Reply ε α}
    (reached : Concurrent h program Begins Outside start s ((tag, p) :: threads)) :
    Concurrent h program Begins Outside start (p.run h s).2 ((tag, .done (p.run h s).1) :: threads) := by
  induction p generalizing s with
  | done result => exact reached
  | call op next ih => exact ih _ (reached.step 0 rfl)

end Concurrent

end Program

end FlussGateway.Foundation
