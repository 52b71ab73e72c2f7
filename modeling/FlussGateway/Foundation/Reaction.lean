import FlussGateway.Foundation.Program

/-!
# Services that react in several ways

A handler answers a call in one way. A reaction may allow several replies to a call and several
next states. `Runs` is one way for a program to end; `Ensures` says what holds however it ends,
for a returned value and for an early end apart.
-/
namespace FlussGateway.Foundation

namespace Program

variable {Op : Type} {Reply : Op → Type} {ε α β σ : Type}

abbrev Reaction (Op : Type) (Reply : Op → Type) (σ : Type) :=
  (op : Op) → σ → Reply op → σ → Prop

inductive Runs (react : Reaction Op Reply σ) :
    Program Op Reply ε α → σ → Outcome ε α → σ → Prop where
  | done (result : Outcome ε α) (s : σ) : Runs react (.done result) s result s
  | call {op : Op} {next : Reply op → Program Op Reply ε α} {s mid s' : σ} {reply : Reply op}
      {result : Outcome ε α} (reacts : react op s reply mid)
      (rest : Runs react (next reply) mid result s') : Runs react (.call op next) s result s'

/-- A service that can always react lets every program end. -/
theorem runs_exists {react : Reaction Op Reply σ}
    (total : ∀ op s, ∃ reply s', react op s reply s') (p : Program Op Reply ε α) (s : σ) :
    ∃ result s', Runs react p s result s' := by
  induction p generalizing s with
  | done result => exact ⟨result, s, .done ..⟩
  | call op next ih =>
    obtain ⟨reply, mid, reacts⟩ := total op s
    obtain ⟨result, s', rest⟩ := ih reply mid
    exact ⟨result, s', .call reacts rest⟩

/-- A handler that reacts as it may runs a program in one of the possible ways. -/
theorem runs_run {react : Reaction Op Reply σ} {h : Handler Op Reply σ}
    (allowed : ∀ op s, react op s (h op s).1 (h op s).2) (p : Program Op Reply ε α) (s : σ) :
    Runs react p s (p.run h s).1 (p.run h s).2 := by
  induction p generalizing s with
  | done result => exact .done ..
  | call op next ih => exact .call (allowed op s) (ih _ _)

/-! ## What holds however the program ends -/

/-- However it runs, the program returns a value with `Q` or ends early with `E`. -/
def Ensures (react : Reaction Op Reply σ) (Q : α → σ → Prop) (E : Fault ε → σ → Prop) :
    Program Op Reply ε α → σ → Prop
  | .done (.ok a), s => Q a s
  | .done (.error fault), s => E fault s
  | .call op next, s => ∀ reply mid, react op s reply mid → (next reply).Ensures react Q E mid

variable {react : Reaction Op Reply σ} {Q R : α → σ → Prop} {E F : Fault ε → σ → Prop}

@[simp] theorem ensures_call (op : Op) (next : Reply op → Program Op Reply ε α) (s : σ) :
    (Program.call op next).Ensures react Q E s ↔
      ∀ reply mid, react op s reply mid → (next reply).Ensures react Q E mid := Iff.rfl

/-- The value of a run has `Q`. -/
theorem Ensures.value {p : Program Op Reply ε α} {s s' : σ} (ensures : p.Ensures react Q E s)
    {a : α} (ran : Runs react p s (.ok a) s') : Q a s' := by
  generalize returned : (Except.ok a : Outcome ε α) = result at ran
  induction ran with
  | done result s => subst returned; exact ensures
  | call reacts _ ih => exact ih (ensures _ _ reacts) returned

/-- The early end of a run has `E`. -/
theorem Ensures.fault {p : Program Op Reply ε α} {s s' : σ} (ensures : p.Ensures react Q E s)
    {fault : Fault ε} (ran : Runs react p s (.error fault) s') : E fault s' := by
  generalize ended : (Except.error fault : Outcome ε α) = result at ran
  induction ran with
  | done result s => subst ended; exact ensures
  | call reacts _ ih => exact ih (ensures _ _ reacts) ended

/-- What holds both after a value and after an early end holds after every run. -/
theorem Ensures.after {p : Program Op Reply ε α} {I : σ → Prop} {s s' : σ}
    (ensures : p.Ensures react (fun _ => I) (fun _ => I) s) {result : Outcome ε α}
    (ran : Runs react p s result s') : I s' := by
  cases result with
  | ok a => exact ensures.value ran
  | error fault => exact ensures.fault ran

theorem Ensures.mono {p : Program Op Reply ε α} {s : σ} (ensures : p.Ensures react Q E s)
    (weaker : ∀ a s, Q a s → R a s) (fails : ∀ fault s, E fault s → F fault s) :
    p.Ensures react R F s := by
  induction p generalizing s with
  | done result =>
    cases result with
    | ok a => exact weaker a s ensures
    | error fault => exact fails fault s ensures
  | call op next ih => exact fun reply mid reacts => ih reply (ensures reply mid reacts)

/-- The sequencing rule: the first part ensures what the rest needs. -/
theorem ensures_bind {Q : β → σ → Prop} {p : Program Op Reply ε α} {f : α → Program Op Reply ε β}
    {s : σ} : (p >>= f).Ensures react Q E s ↔
      p.Ensures react (fun a => (f a).Ensures react Q E) E s := by
  induction p generalizing s with
  | done result => cases result <;> rfl
  | call op next ih =>
    simp only [call_bind, ensures_call]
    exact forall₃_congr fun reply mid _ => ih reply

theorem Ensures.bind {Q : β → σ → Prop} {p : Program Op Reply ε α} {f : α → Program Op Reply ε β}
    {s : σ} (first : p.Ensures react (fun a => (f a).Ensures react Q E) E s) :
    (p >>= f).Ensures react Q E s := ensures_bind.mpr first

/-- Calls carried out by programs that do no more than the service may do. -/
theorem Ensures.translate {impl : (op : Op) → Program Op Reply ε (Reply op)}
    (refines : ∀ op K s, (∀ reply mid, react op s reply mid → K reply mid) →
      (impl op).Ensures react K E s)
    {p : Program Op Reply ε α} {s : σ} (ensures : p.Ensures react Q E s) :
    (p.translate impl).Ensures react Q E s := by
  induction p generalizing s with
  | done result => exact ensures
  | call op next ih =>
    rw [Program.translate, ensures_bind]
    exact refines op _ s fun reply mid reacts => ih reply (ensures reply mid reacts)

end Program

end FlussGateway.Foundation
