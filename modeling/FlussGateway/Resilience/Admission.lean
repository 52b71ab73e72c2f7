import FlussGateway.Resilience.History

/-!
# Calls that nobody interrupts

`allow_request` with its sections taken together, as a client sees it that has the breaker
to itself.
-/
namespace FlussGateway.Resilience

open FlussGateway.Foundation

namespace CircuitBreaker

/-- The answer of `allow_request`, and the breaker after it. -/
def allowRequest (config : CircuitBreakerConfig) (cb : CircuitBreaker) (now : Nat) :
    Bool × CircuitBreaker :=
  match cb.readDecision config now with
  | .allowed => (true, cb)
  | .recovering => if cb.state.isOpen then (true, cb.halfOpen) else (false, cb.countBlocked)
  | .blocked => (false, cb.countBlocked)

/-- The circuit is open and the recovery timeout has not elapsed. -/
def Blocks (config : CircuitBreakerConfig) (cb : CircuitBreaker) (now : Nat) : Prop :=
  cb.state.isOpen = true ∧ cb.elapsed config now = false

instance (config : CircuitBreakerConfig) (cb : CircuitBreaker) (now : Nat) :
    Decidable (cb.Blocks config now) :=
  inferInstanceAs (Decidable (_ ∧ _))

/-- Everything an uninterrupted call can do. -/
theorem allowRequest_cases (config : CircuitBreakerConfig) (cb : CircuitBreaker) (now : Nat) :
    (cb.state.isOpen = false ∧ cb.allowRequest config now = (true, cb)) ∨
    (cb.state.isOpen = true ∧ cb.elapsed config now = true ∧
      cb.allowRequest config now = (true, cb.halfOpen)) ∨
    (cb.Blocks config now ∧ cb.allowRequest config now = (false, cb.countBlocked)) := by
  unfold allowRequest readDecision Blocks
  cases cb.state.isOpen <;> cases cb.elapsed config now <;> simp

theorem allowRequest_denied_iff (config : CircuitBreakerConfig) (cb : CircuitBreaker) (now : Nat) :
    (cb.allowRequest config now).1 = false ↔ cb.Blocks config now := by
  rcases allowRequest_cases config cb now with ⟨closed, answer⟩ | ⟨_, due, answer⟩ |
    ⟨blocks, answer⟩
  · simp [answer, Blocks, closed]
  · simp [answer, Blocks, due]
  · simp [answer, blocks]

/-- A call that is let through leaves the circuit closed, with the failures counted so far. -/
theorem allowRequest_allowed {config : CircuitBreakerConfig} {cb : CircuitBreaker} {now : Nat}
    (allowed : (cb.allowRequest config now).1 = true) :
    (cb.allowRequest config now).2.state.isOpen = false ∧
    (cb.allowRequest config now).2.state.failures = cb.state.failures := by
  rcases allowRequest_cases config cb now with ⟨closed, answer⟩ | ⟨_, _, answer⟩ | ⟨_, answer⟩
  · rw [answer]
    exact ⟨closed, rfl⟩
  · rw [answer]
    exact ⟨rfl, rfl⟩
  · rw [answer] at allowed
    cases allowed

end CircuitBreaker

/-! ## The sections of the call -/

variable {Client : Type} [DecidableEq Client]

/-- An idle client that takes all its steps at once makes the uninterrupted call, section by
section. -/
theorem allowRequest_run (config : CircuitBreakerConfig) {s : System Client} {c : Client} {t : Nat}
    (idle : s.place c = .idle) (later : s.now ≤ t) :
    ∃ h, Run (System.step config) s h ⟨(s.breaker.allowRequest config t).2, t, s.place⟩ ∧
      (∀ e ∈ h, e.1.client = c ∧ e.1.time = t ∧ isRecord e = false) ∧
      h.head?.bind (·.2) = some (s.breaker.allowRequest config t).1 := by
  have notEarly : ¬t < s.now := Nat.not_lt.mpr later
  have back : ∀ p, Function.update (Function.update s.place c p) c .idle = s.place := by
    intro p
    rw [Function.update_idem, ← idle, Function.update_eq_self]
  have stay : Function.update s.place c .idle = s.place := by rw [← idle, Function.update_eq_self]
  rcases CircuitBreaker.allowRequest_cases config s.breaker t with ⟨closed, answer⟩ |
    ⟨opened, due, answer⟩ | ⟨blocks, answer⟩
  · refine ⟨[(⟨c, t, .allowRead⟩, some true)], .next .start ?_, by simp [isRecord],
      by simp [answer]⟩
    simp [System.step, notEarly, idle, CircuitBreaker.readDecision, closed, answer,
      System.moved, stay]
  -- The write section follows at once and finds the circuit as the read section left it.
  · have read : Run (System.step config) s [(⟨c, t, .allowRead⟩, none)]
        ⟨s.breaker, t, Function.update s.place c .recovering⟩ :=
      .next .start
        (by simp [System.step, notEarly, idle, CircuitBreaker.readDecision, opened, due, System.moved])
    refine ⟨[(⟨c, t, .allowWrite⟩, some true), (⟨c, t, .allowRead⟩, none)], .next read ?_,
      by simp [isRecord],
      by simp [answer]⟩
    simp [System.step, opened, answer, System.moved, back]
  · refine ⟨[(⟨c, t, .allowRead⟩, some false)], .next .start ?_, by simp [isRecord],
      by simp [answer]⟩
    simp [System.step, notEarly, idle, CircuitBreaker.readDecision, blocks.1, blocks.2, answer,
      System.moved, stay]

end FlussGateway.Resilience
