import FlussGateway.Foundation.Program

/-!
# Programs that stop at the first failure

Some replies of a service are failures. A program that fails fast ends with the fault of the first
such reply and calls nothing after it; any other fault it ends with is one of its own. Such
programs compose, and so do services built on one another.
-/
namespace FlussGateway.Foundation

namespace Program

variable {Op : Type} {Reply : Op → Type} {ε α β : Type}

/-- A failing reply ends the program with its fault; a fault without one is `Own`. -/
def FailFast (failure : ((op : Op) × Reply op) → Option (Fault ε)) (Own : Fault ε → Prop) :
    Program Op Reply ε α → Prop
  | .done result => ∀ fault, result = .error fault → Own fault
  | .call op next => ∀ reply,
    (∀ fault, failure ⟨op, reply⟩ = some fault → next reply = .done (.error fault)) ∧
    (failure ⟨op, reply⟩ = none → (next reply).FailFast failure Own)

section Rules

variable {failure : ((op : Op) × Reply op) → Option (Fault ε)} {Own : Fault ε → Prop}

theorem FailFast.mono {Own' : Fault ε → Prop} {p : Program Op Reply ε α}
    (failFast : p.FailFast failure Own) (weaker : ∀ fault, Own fault → Own' fault) :
    p.FailFast failure Own' := by
  induction p with
  | done result => exact fun fault same => weaker fault (failFast fault same)
  | call op next ih =>
    exact fun reply => ⟨(failFast reply).1, fun passed => ih reply ((failFast reply).2 passed)⟩

/-- A run ends at the first failing reply, or none of its replies has failed. -/
theorem FailFast.ends {p : Program Op Reply ε α} (failFast : p.FailFast failure Own)
    {trace : List ((op : Op) × Reply op)} {result : Outcome ε α} (ended : Ends p trace result) :
    (∃ before e fault, trace = before ++ [e] ∧ failure e = some fault ∧
      (∀ x ∈ before, failure x = none) ∧ result = .error fault) ∨
    (∀ x ∈ trace, failure x = none) ∧ ∀ fault, result = .error fault → Own fault := by
  induction ended with
  | done result => exact .inr ⟨nofun, failFast⟩
  | @call op next reply trace result rest ih =>
    cases failed : failure ⟨op, reply⟩ with
    | some fault =>
      -- Nothing is left of the program, so this call is the last.
      rw [(failFast reply).1 fault failed] at rest
      cases rest
      exact .inl ⟨[], _, fault, rfl, failed, nofun, rfl⟩
    | none =>
      rcases ih ((failFast reply).2 failed) with ⟨before, e, fault, rfl, last, passed, same⟩ |
        ⟨passed, own⟩
      · exact .inl ⟨_ :: before, e, fault, rfl, last, List.forall_mem_cons.mpr ⟨failed, passed⟩, same⟩
      · exact .inr ⟨List.forall_mem_cons.mpr ⟨failed, passed⟩, own⟩

end Rules

/-! ## Errors caught and passed on -/

/-- What catching makes of an outcome. -/
def caught {ε' : Type} : Outcome ε α → Outcome ε' (Except ε α)
  | .ok a => .ok (.ok a)
  | .error (.err e) => .ok (.error e)
  | .error (.panic msg) => .error (.panic msg)

theorem ends_attempt {ε' : Type} {p : Program Op Reply ε α} {trace : List ((op : Op) × Reply op)}
    {result : Outcome ε' (Except ε α)} (ended : Ends p.attempt trace result) :
    ∃ inner, Ends p trace inner ∧ result = caught inner := by
  induction p generalizing trace with
  | done inner =>
    cases inner with
    | ok a => cases ended; exact ⟨_, .done _, rfl⟩
    | error fault =>
      cases fault <;> cases ended
      · exact ⟨_, .done _, rfl⟩
      · exact ⟨_, .done _, rfl⟩
  | call op next ih =>
    cases ended with
    | call rest =>
      obtain ⟨inner, ended, same⟩ := ih _ rest
      exact ⟨inner, .call ended, same⟩

/-- The program returns no errors that could be caught around it. -/
def Caught (p : Program Op Reply ε α) : Prop :=
  ∀ {β : Type} (f : α → Program Op Reply ε β),
    ((p >>= f).attempt : Program Op Reply ε (Except ε β)) = p >>= fun a => (f a).attempt

theorem attempt_caught (p : Program Op Reply ε α) :
    (p.attempt : Program Op Reply ε (Except ε α)).Caught := by
  intro β f
  induction p with
  | done result =>
    cases result with
    | ok a => rfl
    | error fault => cases fault <;> rfl
  | call op next ih => exact congrArg (Program.call op) (funext ih)

section Translate

variable {Op' : Type} {Reply' : Op' → Type} {impl : (op : Op') → Program Op Reply ε (Reply' op)}

/-- Catching over one service is catching over the other. -/
theorem translate_attempt (each : ∀ op, (impl op).Caught) (p : Program Op' Reply' ε α) :
    (p.attempt : Program Op' Reply' ε (Except ε α)).translate impl = (p.translate impl).attempt := by
  induction p with
  | done result =>
    cases result with
    | ok a => rfl
    | error fault => cases fault <;> rfl
  | call op next ih =>
    rw [attempt, translate, translate, each op]
    exact congrArg (impl op >>= ·) (funext ih)

variable {failure : ((op : Op) × Reply op) → Option (Fault ε)}
  {failure' : ((op : Op') × Reply' op) → Option (Fault ε)} {Own : Fault ε → Prop}

/-- An implementation that makes of a fault a failing reply. -/
def Relays (failure : ((op : Op) × Reply op) → Option (Fault ε))
    (failure' : ((op : Op') × Reply' op) → Option (Fault ε)) (Own : Fault ε → Prop) (op : Op')
    (p : Program Op Reply ε (Reply' op)) : Prop :=
  ∀ {β : Type} (f : Reply' op → Program Op Reply ε β),
    (∀ reply fault, failure' ⟨op, reply⟩ = some fault → f reply = .done (.error fault)) →
    (∀ reply, failure' ⟨op, reply⟩ = none → (f reply).FailFast failure Own) →
    (p >>= f).FailFast failure Own

/-- Failing fast over a service is failing fast over the one it is built on. -/
theorem FailFast.translate {p : Program Op' Reply' ε α} (failFast : p.FailFast failure' Own)
    (each : ∀ op, Relays failure failure' Own op (impl op)) : (p.translate impl).FailFast failure Own := by
  induction p with
  | done result => exact failFast
  | call op next ih =>
    refine each op _ (fun reply fault failed => ?_) fun reply passed => ?_
    · rw [(failFast reply).1 fault failed]
      rfl
    · exact ih reply ((failFast reply).2 passed)

end Translate

end Program

end FlussGateway.Foundation
