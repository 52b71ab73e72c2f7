import Mathlib.Logic.Basic

/-!
# Programs that call a service

An outcome is a value, a returned error or a panic. A program is either finished or
waiting for the reply to one call; its continuation is defined for every reply the
service may give. Three readings of a program are used: running it against a handler,
running it and recording the calls, and a condition on every call it may ever issue.
-/
namespace FlussGateway.Foundation

/-- How fallible code stops early: by returning an error or by panicking. -/
inductive Fault (ε : Type) where
  | err (e : ε)
  | panic (msg : String)

abbrev Outcome (ε α : Type) := Except (Fault ε) α

namespace Outcome

variable {ε ε' α : Type}

def fail (e : ε) : Outcome ε α := .error (.err e)

def panicked (msg : String) : Outcome ε α := .error (.panic msg)

/-- A plain result, its error translated. -/
def ofExcept (f : ε → ε') : Except ε α → Outcome ε' α
  | .ok a => .ok a
  | .error e => fail (f e)

/-- Indexing a slice, which panics past its end. -/
def index (xs : List α) (i : Nat) : Outcome ε α :=
  match xs[i]? with
  | some x => .ok x
  | none => panicked "index out of bounds"

@[simp] theorem ofExcept_ok (f : ε → ε') (a : α) : ofExcept f (.ok a) = .ok a := rfl

@[simp] theorem ofExcept_error (f : ε → ε') (e : ε) :
    (ofExcept f (.error e) : Outcome ε' α) = fail (f e) := rfl

@[simp] theorem ofExcept_ok_iff (f : ε → ε') (r : Except ε α) (a : α) :
    ofExcept f r = .ok a ↔ r = .ok a := by
  cases r <;> simp [fail]

theorem index_of_some {xs : List α} {i : Nat} {x : α} (found : xs[i]? = some x) :
    (index xs i : Outcome ε α) = .ok x := by
  simp [index, found]

end Outcome

inductive Program (Op : Type) (Reply : Op → Type) (ε α : Type) where
  | done (result : Outcome ε α)
  | call (op : Op) (next : Reply op → Program Op Reply ε α)

namespace Program

variable {Op : Type} {Reply : Op → Type} {ε α β γ σ : Type}

protected def bind : Program Op Reply ε α → (α → Program Op Reply ε β) → Program Op Reply ε β
  | .done (.ok a), f => f a
  | .done (.error e), _ => .done (.error e)
  | .call op next, f => .call op fun reply => (next reply).bind f

instance : Monad (Program Op Reply ε) where
  pure a := .done (.ok a)
  bind := Program.bind

/-- Pure code inside a program. -/
def lift (result : Outcome ε α) : Program Op Reply ε α := .done result

/-- One call, its reply returned. -/
def perform (op : Op) : Program Op Reply ε (Reply op) := .call op fun reply => .done (.ok reply)

@[simp] theorem pure_eq (a : α) : (pure a : Program Op Reply ε α) = .done (.ok a) := rfl

@[simp] theorem done_ok_bind (a : α) (f : α → Program Op Reply ε β) :
    (Program.done (.ok a) >>= f) = f a := rfl

@[simp] theorem done_error_bind (e : Fault ε) (f : α → Program Op Reply ε β) :
    (Program.done (.error e) >>= f) = .done (.error e) := rfl

@[simp] theorem call_bind (op : Op) (next : Reply op → Program Op Reply ε α)
    (f : α → Program Op Reply ε β) :
    (Program.call op next >>= f) = .call op fun reply => next reply >>= f := rfl

/-! ## Running a program -/

/-- A service: the reply to each call and the service's next state. -/
abbrev Handler (Op : Type) (Reply : Op → Type) (σ : Type) := (op : Op) → σ → Reply op × σ

def run (h : Handler Op Reply σ) : Program Op Reply ε α → σ → Outcome ε α × σ
  | .done result, s => (result, s)
  | .call op next, s => (next (h op s).1).run h (h op s).2

@[simp] theorem run_done (h : Handler Op Reply σ) (result : Outcome ε α) (s : σ) :
    (Program.done result : Program Op Reply ε α).run h s = (result, s) := rfl

@[simp] theorem run_call (h : Handler Op Reply σ) (op : Op)
    (next : Reply op → Program Op Reply ε α) (s : σ) :
    (Program.call op next).run h s = (next (h op s).1).run h (h op s).2 := rfl

/-- A sequence runs its first part, and its rest only if that returned a value. -/
theorem run_bind (h : Handler Op Reply σ) (p : Program Op Reply ε α)
    (f : α → Program Op Reply ε β) (s : σ) :
    (p >>= f).run h s = match p.run h s with
      | (.ok a, s') => (f a).run h s'
      | (.error e, s') => (.error e, s') := by
  induction p generalizing s with
  | done result => cases result <;> rfl
  | call op next ih => exact ih _ _

/-- A successful sequence, taken apart. -/
theorem run_bind_ok {h : Handler Op Reply σ} {p : Program Op Reply ε α}
    {f : α → Program Op Reply ε β} {s s' : σ} {b : β}
    (returned : (p >>= f).run h s = (.ok b, s')) :
    ∃ a mid, p.run h s = (.ok a, mid) ∧ (f a).run h mid = (.ok b, s') := by
  rw [run_bind] at returned
  split at returned
  next a mid first => exact ⟨a, mid, first, returned⟩
  next => simp at returned

/-! ## The calls of a run -/

/-- The calls a run issues, in order. -/
def calls (h : Handler Op Reply σ) : Program Op Reply ε α → σ → List Op
  | .done _, _ => []
  | .call op next, s => op :: (next (h op s).1).calls h (h op s).2

@[simp] theorem calls_done (h : Handler Op Reply σ) (result : Outcome ε α) (s : σ) :
    (Program.done result : Program Op Reply ε α).calls h s = [] := rfl

@[simp] theorem calls_call (h : Handler Op Reply σ) (op : Op)
    (next : Reply op → Program Op Reply ε α) (s : σ) :
    (Program.call op next).calls h s = op :: (next (h op s).1).calls h (h op s).2 := rfl

/-- The calls of a sequence whose first part returned a value. -/
theorem calls_bind_ok {h : Handler Op Reply σ} {p : Program Op Reply ε α}
    (f : α → Program Op Reply ε β) {s mid : σ} {a : α} (first : p.run h s = (.ok a, mid)) :
    (p >>= f).calls h s = p.calls h s ++ (f a).calls h mid := by
  induction p generalizing s with
  | done result =>
    simp only [run_done, Prod.mk.injEq] at first
    obtain ⟨rfl, rfl⟩ := first
    rfl
  | call op next ih => exact congrArg (op :: ·) (ih _ first)

/-! ## What a returning run did -/

/-- Whenever the program returns a value, `R` relates the state before, the calls it issued, the
value and the state after. -/
def Post (h : Handler Op Reply σ) (p : Program Op Reply ε α)
    (R : σ → List Op → α → σ → Prop) : Prop :=
  ∀ s a s', p.run h s = (.ok a, s') → R s (p.calls h s) a s'

theorem Post.mono {h : Handler Op Reply σ} {p : Program Op Reply ε α}
    {R S : σ → List Op → α → σ → Prop}
    (post : p.Post h R) (weaker : ∀ s cs a s', R s cs a s' → S s cs a s') : p.Post h S :=
  fun s a s' returned => weaker _ _ _ _ (post s a s' returned)

/-- The sequencing rule: what the first part did and what the rest did with its value, joined. -/
theorem Post.bind {h : Handler Op Reply σ} {p : Program Op Reply ε α} {f : α → Program Op Reply ε β}
    {Q : α → Prop} {R : σ → List Op → σ → Prop} {S T : σ → List Op → β → σ → Prop}
    (first : p.Post h fun s cs a s' => Q a ∧ R s cs s') (rest : ∀ a, Q a → (f a).Post h S)
    (join : ∀ s cs mid es b s', R s cs mid → S mid es b s' → T s (cs ++ es) b s') :
    (p >>= f).Post h T := by
  intro s b s' returned
  obtain ⟨a, mid, ran, ended⟩ := run_bind_ok returned
  obtain ⟨value, did⟩ := first s a mid ran
  rw [calls_bind_ok f ran]
  exact join _ _ _ _ _ _ did (rest a value mid b s' ended)

theorem Post.lift {h : Handler Op Reply σ} (result : Outcome ε α) :
    (Program.lift result : Program Op Reply ε α).Post h fun s cs a s' =>
      result = .ok a ∧ s' = s ∧ cs = [] := by
  intro s a s' returned
  simp only [Program.lift, run_done, Prod.mk.injEq] at returned
  exact ⟨returned.1, returned.2.symm, rfl⟩

/-! ## Conditions on every call -/

/-- Every call the program may issue, whatever the replies, satisfies `P`. -/
def Always (P : Op → Prop) : Program Op Reply ε α → Prop
  | .done _ => True
  | .call op next => P op ∧ ∀ reply, (next reply).Always P

@[simp] theorem always_done (P : Op → Prop) (result : Outcome ε α) :
    (Program.done result : Program Op Reply ε α).Always P := trivial

@[simp] theorem always_call (P : Op → Prop) (op : Op) (next : Reply op → Program Op Reply ε α) :
    (Program.call op next).Always P ↔ P op ∧ ∀ reply, (next reply).Always P := Iff.rfl

theorem always_bind {P : Op → Prop} {p : Program Op Reply ε α} {f : α → Program Op Reply ε β}
    (first : p.Always P) (rest : ∀ a, (f a).Always P) : (p >>= f).Always P := by
  induction p with
  | done result =>
    cases result with
    | ok a => exact rest a
    | error e => trivial
  | call op next ih => exact ⟨first.1, fun reply => ih reply (first.2 reply)⟩

/-- The condition holds on, whatever the reply. -/
theorem Always.after {P : Op → Prop} {op : Op} {next : Reply op → Program Op Reply ε α}
    (always : (Program.call op next).Always P) (reply : Reply op) : (next reply).Always P :=
  always.2 reply

theorem always_perform {P : Op → Prop} {op : Op} (here : P op) :
    (perform op : Program Op Reply ε (Reply op)).Always P := ⟨here, fun _ => trivial⟩

theorem Always.mono {P Q : Op → Prop} {p : Program Op Reply ε α} (always : p.Always P)
    (weaker : ∀ op, P op → Q op) :
    p.Always Q := by
  induction p with
  | done => trivial
  | call op next ih => exact ⟨weaker op always.1, fun reply => ih reply (always.2 reply)⟩

theorem Always.and {P Q : Op → Prop} {p : Program Op Reply ε α} (left : p.Always P)
    (right : p.Always Q) : p.Always fun op => P op ∧ Q op := by
  induction p with
  | done => trivial
  | call op next ih =>
    exact ⟨⟨left.1, right.1⟩, fun reply => ih reply (left.2 reply) (right.2 reply)⟩

/-- The invariant rule: what every permitted call keeps, a run keeps. -/
theorem Always.run_preserves {P : Op → Prop} {I : σ → Prop} {h : Handler Op Reply σ}
    (step : ∀ op s, P op → I s → I (h op s).2) {p : Program Op Reply ε α} (always : p.Always P)
    {s : σ} (initial : I s) : I (p.run h s).2 := by
  induction p generalizing s with
  | done result => exact initial
  | call op next ih => exact ih _ (always.2 _) (step op s always.1 initial)

/-- The calls of a run are among those the condition permits. -/
theorem Always.of_mem_calls {P : Op → Prop} {h : Handler Op Reply σ} {p : Program Op Reply ε α}
    (always : p.Always P) {s : σ} {op : Op} (issued : op ∈ p.calls h s) : P op := by
  induction p generalizing s with
  | done result => cases issued
  | call op' next ih =>
    rcases List.mem_cons.mp issued with rfl | later
    · exact always.1
    · exact ih _ (always.2 _) later

/-! ## Panics -/

/-- No replies make the program panic. -/
def Panicless : Program Op Reply ε α → Prop
  | .done result => ∀ msg, result ≠ .error (.panic msg)
  | .call _ next => ∀ reply, (next reply).Panicless

theorem panicless_ok (a : α) : (Program.done (.ok a) : Program Op Reply ε α).Panicless := nofun

theorem panicless_fail (e : ε) : (Program.lift (Outcome.fail e) : Program Op Reply ε α).Panicless :=
  nofun

theorem panicless_bind {p : Program Op Reply ε α} {f : α → Program Op Reply ε β}
    (first : p.Panicless) (rest : ∀ a, (f a).Panicless) : (p >>= f).Panicless := by
  induction p with
  | done result =>
    cases result with
    | ok a => exact rest a
    | error fault =>
      rintro msg same
      cases same
      exact first msg rfl
  | call op next ih => exact fun reply => ih reply (first reply)

theorem Panicless.run {p : Program Op Reply ε α} (panicless : p.Panicless)
    (h : Handler Op Reply σ) (s : σ) (msg : String) : (p.run h s).1 ≠ .error (.panic msg) := by
  induction p generalizing s with
  | done result => exact panicless msg
  | call op next ih => exact ih _ (panicless _) _

/-- A run ends in a returned value or error. -/
def Returns (h : Handler Op Reply σ) (p : Program Op Reply ε α) (s : σ) : Prop :=
  ∀ msg, (p.run h s).1 ≠ .error (.panic msg)

/-- A sequence whose rest cannot panic returns when its first part does. -/
theorem returns_bind_iff {h : Handler Op Reply σ} {p : Program Op Reply ε α}
    {f : α → Program Op Reply ε β}
    (rest : ∀ a, (f a).Panicless) (s : σ) : (p >>= f).Returns h s ↔ p.Returns h s := by
  unfold Returns
  rw [run_bind]
  cases ran : p.run h s with
  | mk result s' =>
    cases result with
    | ok a => exact ⟨fun _ => nofun, fun _ => (rest a).run h s'⟩
    | error fault =>
      simp only
      exact ⟨fun returns msg same => returns msg (by cases same; rfl),
        fun returns msg same => returns msg (by cases same; rfl)⟩

/-! ## Errors as values -/

/-- A returned error becomes a value, a panic goes on. -/
def attempt {ε' : Type} : Program Op Reply ε α → Program Op Reply ε' (Except ε α)
  | .done (.ok a) => .done (.ok (.ok a))
  | .done (.error (.err e)) => .done (.ok (.error e))
  | .done (.error (.panic msg)) => .done (.error (.panic msg))
  | .call op next => .call op fun reply => (next reply).attempt

/-- The `?` operator on a result. -/
def propagate : Except ε α → Program Op Reply ε α
  | .ok a => .done (.ok a)
  | .error e => .done (Outcome.fail e)

/-- An error caught and passed on at once has never been caught. -/
theorem attempt_propagate (p : Program Op Reply ε α) : (p.attempt >>= propagate) = p := by
  induction p with
  | done result =>
    cases result with
    | ok a => rfl
    | error fault => cases fault <;> rfl
  | call op next ih => exact congrArg (Program.call op) (funext ih)

theorem attempt_always {ε' : Type} {P : Op → Prop} {p : Program Op Reply ε α}
    (always : p.Always P) :
    (p.attempt : Program Op Reply ε' (Except ε α)).Always P := by
  induction p with
  | done result =>
    cases result with
    | ok a => trivial
    | error fault => cases fault <;> trivial
  | call op next ih => exact ⟨always.1, fun reply => ih reply (always.2 reply)⟩

theorem attempt_returns_iff {ε' : Type} (h : Handler Op Reply σ)
    (p : Program Op Reply ε α) (s : σ) :
    (p.attempt : Program Op Reply ε' (Except ε α)).Returns h s ↔ p.Returns h s := by
  induction p generalizing s with
  | done result =>
    unfold Returns attempt
    cases result with
    | ok a => simp
    | error fault => cases fault <;> simp
  | call op next ih => exact ih _ _

/-! ## Calls with their replies -/

/-- The program ended so after these calls of its own, whatever happened at the service in
between. -/
inductive Ends : Program Op Reply ε α → List ((op : Op) × Reply op) → Outcome ε α → Prop where
  | done (result : Outcome ε α) : Ends (.done result) [] result
  | call {op : Op} {next : Reply op → Program Op Reply ε α} {reply : Reply op}
      {trace : List ((op : Op) × Reply op)} {result : Outcome ε α}
      (rest : Ends (next reply) trace result) :
    Ends (.call op next) (⟨op, reply⟩ :: trace) result

theorem ends_lift {pure result : Outcome ε α} {trace : List ((op : Op) × Reply op)}
    (ended : Ends (Program.lift pure) trace result) : trace = [] ∧ pure = result := by
  cases ended
  exact ⟨rfl, rfl⟩

/-- A sequence ends with its first part, or with its rest after the first part's calls. -/
theorem ends_bind {p : Program Op Reply ε α} {f : α → Program Op Reply ε β}
    {trace : List ((op : Op) × Reply op)}
    {result : Outcome ε β} (ended : Ends (p >>= f) trace result) :
    (∃ fault, Ends p trace (.error fault) ∧ result = .error fault) ∨
    ∃ a before after, Ends p before (.ok a) ∧ Ends (f a) after result ∧
    trace = before ++ after := by
  induction p generalizing trace with
  | done first =>
    cases first with
    | ok a => exact .inr ⟨a, [], trace, .done _, ended, rfl⟩
    | error fault =>
      cases ended
      exact .inl ⟨fault, .done _, rfl⟩
  | call op next ih =>
    cases ended with
    -- The first call is the first part's own, whichever part ends the sequence.
    | call rest =>
      rcases ih _ rest with ⟨fault, first, same⟩ | ⟨a, before, after, first, last, rfl⟩
      · exact .inl ⟨fault, .call first, same⟩
      · exact .inr ⟨a, _, after, .call first, last, rfl⟩

theorem Panicless.ends {p : Program Op Reply ε α} (panicless : p.Panicless)
    {trace : List ((op : Op) × Reply op)}
    {result : Outcome ε α} (ended : Ends p trace result) (msg : String) :
    result ≠ .error (.panic msg) := by
  induction ended with
  | done result => exact panicless msg
  | call rest ih => exact ih (panicless _)

/-- The program has made these calls so far. -/
inductive Follows : Program Op Reply ε α → List ((op : Op) × Reply op) → Prop where
  | here (p : Program Op Reply ε α) : Follows p []
  | call {op : Op} {next : Reply op → Program Op Reply ε α} {reply : Reply op}
      {trace : List ((op : Op) × Reply op)} (rest : Follows (next reply) trace) :
    Follows (.call op next) (⟨op, reply⟩ :: trace)

theorem follows_lift {pure : Outcome ε α} {trace : List ((op : Op) × Reply op)}
    (follows : Follows (Program.lift pure) trace) : trace = [] := by
  cases follows
  rfl

theorem Ends.follows {p : Program Op Reply ε α} {trace : List ((op : Op) × Reply op)}
    {result : Outcome ε α} (ended : Ends p trace result) : Follows p trace := by
  induction ended with
  | done => exact .here _
  | call _ ih => exact .call ih

/-- A sequence is in its first part, or in its rest after the first part's calls. -/
theorem follows_bind {p : Program Op Reply ε α} {f : α → Program Op Reply ε β}
    {trace : List ((op : Op) × Reply op)} (follows : Follows (p >>= f) trace) :
    Follows p trace ∨ ∃ a before after, Ends p before (.ok a) ∧ Follows (f a) after ∧
    trace = before ++ after := by
  induction p generalizing trace with
  | done first =>
    cases first with
    | ok a => exact .inr ⟨a, [], trace, .done _, follows, rfl⟩
    | error fault =>
      cases follows
      exact .inl (.here _)
  | call op next ih =>
    cases follows with
    | here => exact .inl (.here _)
    | call rest =>
      rcases ih _ rest with first | ⟨a, before, after, first, last, rfl⟩
      · exact .inl (.call first)
      · exact .inr ⟨a, _, after, .call first, last, rfl⟩

/-- Catching errors makes no calls. -/
theorem follows_attempt {ε' : Type} {p : Program Op Reply ε α} {trace : List ((op : Op) × Reply op)}
    (follows : Follows (p.attempt : Program Op Reply ε' (Except ε α)) trace) : Follows p trace := by
  induction p generalizing trace with
  | done result =>
    cases result with
    | ok a => cases follows; exact .here _
    | error fault => cases fault <;> cases follows <;> exact .here _
  | call op next ih =>
    cases follows with
    | here => exact .here _
    | call rest => exact .call (ih _ rest)

theorem Always.of_follows {P : Op → Prop} {p : Program Op Reply ε α} (always : p.Always P)
    {trace : List ((op : Op) × Reply op)} (follows : Follows p trace) : ∀ e ∈ trace, P e.1 := by
  induction follows with
  | here => nofun
  | call rest ih =>
    rintro e member
    rcases List.mem_cons.mp member with rfl | later
    · exact always.1
    · exact ih (always.2 _) e later

theorem Always.of_ends {P : Op → Prop} {p : Program Op Reply ε α} (always : p.Always P)
    {trace : List ((op : Op) × Reply op)} {result : Outcome ε α} (ended : Ends p trace result) :
    ∀ e ∈ trace, P e.1 :=
  always.of_follows ended.follows

/-- A sequence that returns a value does so after its first part has. -/
theorem ends_bind_ok {p : Program Op Reply ε α} {f : α → Program Op Reply ε β}
    {trace : List ((op : Op) × Reply op)} {b : β} (ended : Ends (p >>= f) trace (.ok b)) :
    ∃ a before after, Ends p before (.ok a) ∧ Ends (f a) after (.ok b) ∧
    trace = before ++ after := by
  rcases ends_bind ended with ⟨_, _, same⟩ | returned
  · cases same
  · exact returned

/-- A call whose reply is the outcome. -/
theorem ends_call {op : Op} {f : Reply op → Outcome ε α} {trace : List ((op : Op) × Reply op)}
    {result : Outcome ε α} (ended : Ends (.call op fun reply => lift (f reply)) trace result) :
    ∃ reply, trace = [⟨op, reply⟩] ∧ f reply = result := by
  cases ended with
  | @call _ _ reply _ _ rest =>
    obtain ⟨rfl, same⟩ := ends_lift rest
    exact ⟨reply, rfl, same⟩

/-- A first part of the calls follows the program too. -/
theorem Follows.of_append {p : Program Op Reply ε α} {before after : List ((op : Op) × Reply op)}
    (follows : Follows p (before ++ after)) : Follows p before := by
  induction before generalizing p with
  | nil => exact .here p
  | cons e before ih =>
    cases follows with
    | call rest => exact .call (ih rest)

/-! ## What is left of a program -/

/-- After these calls of its own the program goes on as another. -/
inductive Becomes : Program Op Reply ε α → List ((op : Op) × Reply op) → Program Op Reply ε α →
    Prop where
  | here (p : Program Op Reply ε α) : Becomes p [] p
  | call {op : Op} {next : Reply op → Program Op Reply ε α} {reply : Reply op}
      {trace : List ((op : Op) × Reply op)} {q : Program Op Reply ε α}
      (rest : Becomes (next reply) trace q) : Becomes (.call op next) (⟨op, reply⟩ :: trace) q

/-- A sequence whose first part returned a value is left with its rest. -/
theorem Ends.becomes {p : Program Op Reply ε α} {trace : List ((op : Op) × Reply op)} {a : α}
    (first : Ends p trace (.ok a)) (f : α → Program Op Reply ε β) :
    Becomes (p >>= f) trace (f a) := by
  generalize returned : (Except.ok a : Outcome ε α) = result at first
  induction first with
  | done result =>
    subst returned
    exact .here _
  | call _ ih => exact .call (ih returned)

theorem Becomes.bind {p q : Program Op Reply ε α} {trace : List ((op : Op) × Reply op)}
    (left : Becomes p trace q) (f : α → Program Op Reply ε β) :
    Becomes (p >>= f) trace (q >>= f) := by
  induction left with
  | here => exact .here _
  | call _ ih => exact .call ih

theorem Becomes.trans {p q r : Program Op Reply ε α} {before after : List ((op : Op) × Reply op)}
    (first : Becomes p before q) (rest : Becomes q after r) : Becomes p (before ++ after) r := by
  induction first with
  | here => exact rest
  | call _ ih => exact .call (ih rest)

/-- The calls determine what is left. -/
theorem Becomes.unique {p q r : Program Op Reply ε α} {trace : List ((op : Op) × Reply op)}
    (left : Becomes p trace q) (other : Becomes p trace r) : q = r := by
  induction left with
  | here =>
    cases other
    rfl
  | call _ ih =>
    cases other with
    | call rest => exact ih rest

/-- What follows those calls is what the rest does. -/
theorem Becomes.follows_iff {p q : Program Op Reply ε α}
    {before after : List ((op : Op) × Reply op)} (left : Becomes p before q) : Follows p (before ++ after) ↔ Follows q after := by
  induction left with
  | here => rfl
  | call _ ih =>
    rw [← ih, List.cons_append]
    constructor
    · intro follows
      cases follows with
      | call rest => exact rest
    · exact .call

theorem Becomes.ends_iff {p q : Program Op Reply ε α} {before after : List ((op : Op) × Reply op)}
    {result : Outcome ε α} (left : Becomes p before q) :
    Ends p (before ++ after) result ↔ Ends q after result := by
  induction left with
  | here => rfl
  | call _ ih =>
    rw [← ih, List.cons_append]
    constructor
    · intro ended
      cases ended with
      | call rest => exact rest
    · exact .call

theorem Ends.unique {p : Program Op Reply ε α} {trace : List ((op : Op) × Reply op)}
    {result result' : Outcome ε α} (ended : Ends p trace result) (other : Ends p trace result') :
    result = result' := by
  induction ended with
  | done =>
    cases other
    rfl
  | call _ ih =>
    cases other with
    | call rest => exact ih rest

/-! ## The reply that decides -/

/-- Once the call has been answered so, the program has ended with the result. -/
def EndsOn (p : Program Op Reply ε α) (e : (op : Op) × Reply op) (result : Outcome ε α) : Prop :=
  ∀ trace, Follows p trace → e ∈ trace → Ends p trace result

/-- A first part that does not make the call leaves the decision to the rest. -/
theorem EndsOn.bind {P : Op → Prop} {p : Program Op Reply ε α} {f : α → Program Op Reply ε β}
    {e : (op : Op) × Reply op} {result : Outcome ε β} (always : p.Always P) (other : ¬P e.1)
    (rest : ∀ a, (f a).EndsOn e result) : (p >>= f).EndsOn e result := by
  intro trace follows member
  rcases follows_bind follows with first | ⟨a, before, after, first, last, rfl⟩
  · exact absurd (always.of_follows first e member) other
  -- The call is not among those of the first part.
  · rcases List.mem_append.mp member with early | late
    · exact absurd (always.of_ends first e early) other
    · exact (first.becomes f).ends_iff.mpr (rest a after last late)

/-- A last call decides by what is made of its reply. -/
theorem EndsOn.last {op : Op} {next : Reply op → Program Op Reply ε α}
    {e : (op : Op) × Reply op} {result : Outcome ε α} (finish : Reply op → Outcome ε α)
    (finishes : ∀ reply, next reply = .done (finish reply))
    (decides : ∀ reply, e = ⟨op, reply⟩ → finish reply = result) :
    (Program.call op next).EndsOn e result := by
  intro trace follows member
  cases follows with
  | here => cases member
  | @call _ _ reply _ rest =>
    rw [finishes] at rest
    cases rest
    have same := decides reply (List.mem_singleton.mp member)
    apply Ends.call
    rw [finishes, same]
    exact .done _

/-! ## One service built on another -/

variable {Op' : Type} {Reply' : Op' → Type}

/-- Each call carried out by a program over another service. -/
def translate (impl : (op : Op) → Program Op' Reply' ε (Reply op)) :
    Program Op Reply ε α → Program Op' Reply' ε α
  | .done result => .done result
  | .call op next => impl op >>= fun reply => (next reply).translate impl

@[simp] theorem translate_done (impl : (op : Op) → Program Op' Reply' ε (Reply op))
    (result : Outcome ε α) :
    (Program.done result).translate impl = .done result := rfl

theorem bind_assoc (p : Program Op Reply ε α) (f : α → Program Op Reply ε β)
    (g : β → Program Op Reply ε γ) :
    (p >>= f >>= g) = (p >>= fun a => f a >>= g) := by
  induction p with
  | done result => cases result <;> rfl
  | call op next ih => exact congrArg (Program.call op) (funext ih)

theorem translate_bind (impl : (op : Op) → Program Op' Reply' ε (Reply op))
    (p : Program Op Reply ε α) (f : α → Program Op Reply ε β) :
    (p >>= f).translate impl = (p.translate impl >>= fun a => (f a).translate impl) := by
  induction p with
  | done result => cases result <;> rfl
  | call op next ih =>
    rw [call_bind, translate, translate, bind_assoc]
    exact congrArg (impl op >>= ·) (funext ih)

/-- What the implementation of every permitted call issues, the whole issues. -/
theorem Always.translate {W : Op → Prop} {P : Op' → Prop}
    {impl : (op : Op) → Program Op' Reply' ε (Reply op)} {p : Program Op Reply ε α}
    (always : p.Always W) (each : ∀ op, W op → (impl op).Always P) :
    (p.translate impl).Always P := by
  induction p with
  | done => trivial
  | call op next ih => exact always_bind (each op always.1) fun reply => ih reply (always.2 reply)

end Program

end FlussGateway.Foundation
