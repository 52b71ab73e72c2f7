import FlussGateway.Resilience.Admission

/-!
# The reported health

`health` looks at the breaker and changes nothing. What it reports follows from what has been
recorded, as long as the counter of failures has not gone round.
-/
namespace FlussGateway.Resilience

open FlussGateway.Foundation

inductive HealthStatus where
  | healthy
  | degraded
  | unhealthy
deriving DecidableEq

/-- The text `Display` writes. -/
def HealthStatus.text : HealthStatus → String
  | .healthy => "healthy"
  | .degraded => "degraded"
  | .unhealthy => "unhealthy"

def CircuitBreaker.health (config : CircuitBreakerConfig) (cb : CircuitBreaker) (now : Nat) :
    HealthStatus :=
  if cb.state.isOpen then
    match cb.state.lastFailureTime with
    | some lastFailure =>
      if config.recoveryTimeout ≤ now - lastFailure then .degraded else .unhealthy
    | none => .unhealthy
  else if 0 < cb.state.failures then .degraded
  else .healthy

namespace CircuitBreaker

variable (config : CircuitBreakerConfig) (cb : CircuitBreaker) (now : Nat)

/-- The two branch trees agree on when the circuit blocks. -/
theorem health_unhealthy_iff : cb.health config now = .unhealthy ↔ cb.Blocks config now := by
  unfold health Blocks elapsed
  cases cb.state.isOpen with
  | false =>
    simp only [Bool.false_eq_true, if_false, false_and, iff_false]
    split <;> simp
  | true =>
    cases cb.state.lastFailureTime with
    | none => simp
    | some lastFailure => by_cases due : config.recoveryTimeout ≤ now - lastFailure <;> simp [due]

theorem health_healthy_iff : cb.health config now = .healthy ↔ cb.state.isOpen = false ∧
    cb.state.failures = 0 := by
  unfold health
  cases cb.state.isOpen with
  | false =>
    by_cases none : cb.state.failures = 0
    · simp [none]
    · simp [none, UInt64.pos_iff_ne_zero]
  | true =>
    simp only [if_true, Bool.true_eq_false, false_and, iff_false]
    split
    · split <;> nofun
    · nofun

theorem health_degraded {cb : CircuitBreaker} (closed : cb.state.isOpen = false)
    (failed : cb.state.failures ≠ 0) :
    cb.health config now = .degraded := by
  simp [health, closed, UInt64.pos_iff_ne_zero.mpr failed]

end CircuitBreaker

/-! ## What has been recorded -/

variable {Client : Type}

/-- The counter of failures up to its width, and why a circuit is open. -/
structure Tally (h : List (Entry Client)) (cb : CircuitBreaker) : Prop where
  failures : cb.state.failures.toNat = failuresSince h % 2 ^ 64
  opened : cb.state.isOpen = true → 0 < failuresSince h

theorem tally_silent {h : List (Entry Client)} {cb cb' : CircuitBreaker} {l : Label Client}
    {o : Option Bool} (inv : Tally h cb) (silent : isRecord (l, o) = false)
    (kept : cb'.state.failures = cb.state.failures)
    (opened : cb'.state.isOpen = true → cb.state.isOpen = true) : Tally ((l, o) :: h) cb' := by
  have same : failuresSince ((l, o) :: h) = failuresSince h := by
    simpa using failuresSince_silent [(l, o)] h (by simpa using silent)
  constructor
  · rw [kept, same, inv.failures]
  · rw [same]
    exact fun open_ => inv.opened (opened open_)

variable [DecidableEq Client]

theorem tally_step {config : CircuitBreakerConfig} {h : List (Entry Client)} {s s' : System Client}
    {l : Label Client}
    {o : Option Bool} (inv : Tally h s.breaker) (stepped : s.step config l = some (s', o)) :
    Tally ((l, o) :: h) s'.breaker := by
  obtain ⟨_, section_⟩ := step_cases stepped
  cases section_ with
  -- Admission leaves the counter alone; at most it closes the circuit.
  | pass _ does | recover _ does | block _ does | miss _ does | reject _ does =>
    exact tally_silent inv (by simp [isRecord, does]) rfl id
  | release _ does =>
    exact tally_silent inv (by simp [isRecord, does]) rfl fun opened => by cases opened
  | success _ does =>
    have none : failuresSince ((l, Option.none) :: h) = 0 := by simp [failuresSince_cons, does]
    constructor
    · rw [none]
      rfl
    · intro opened
      cases opened
  | failure _ does =>
    have more : failuresSince ((l, Option.none) :: h) = failuresSince h + 1 := by
      simp [failuresSince_cons, does]
    constructor
    · rw [more]
      -- The counter goes round at its width, and the remainder goes round with it.
      show (s.breaker.state.failures + 1).toNat = _
      rw [UInt64.toNat_add, inv.failures, UInt64.toNat_one, Nat.mod_add_mod]
    · intro _
      omega

theorem tally {config : CircuitBreakerConfig} {h : List (Entry Client)} {s : System Client}
    (run : Interleaving config h s) : Tally h s.breaker :=
  run.record_invariant (I := fun h s => Tally h s.breaker) ⟨rfl, nofun⟩ fun _ _ _ _ _ => tally_step

/-! ## What the health says -/

/-- Health and admission in the state a history leads to. -/
structure HealthAgrees (config : CircuitBreakerConfig) (h : List (Entry Client))
    (cb : CircuitBreaker) : Prop where
  unhealthy : ∀ t, cb.health config t = .unhealthy ↔ (cb.allowRequest config t).1 = false
  healthy : failuresSince h < 2 ^ 64 → ∀ t, cb.health config t = .healthy ↔ failuresSince h = 0
  /-- From the release of an open circuit to the next result. -/
  halfOpen : failuresSince h < 2 ^ 64 → ∀ mid w before, h = mid ++ w :: before → Releases w →
    (∀ e ∈ mid, isRecord e = false) → ∀ t, cb.health config t = .degraded

omit [DecidableEq Client] in
theorem healthy_iff {config : CircuitBreakerConfig} {h : List (Entry Client)} {cb : CircuitBreaker}
    (inv : Tally h cb) (few : failuresSince h < 2 ^ 64) (t : Nat) : cb.health config t = .healthy ↔
    failuresSince h = 0 := by
  have counted := inv.failures
  rw [Nat.mod_eq_of_lt few] at counted
  rw [CircuitBreaker.health_healthy_iff, ← counted]
  constructor
  · rintro ⟨_, none⟩
    rw [none]
    rfl
  · intro none
    refine ⟨Bool.eq_false_iff.mpr fun opened => ?_, UInt64.toNat_inj.mp none⟩
    have some_ := inv.opened opened
    omega

theorem halfOpen_degraded {config : CircuitBreakerConfig} {mid before : List (Entry Client)}
    {w : Entry Client} {s : System Client} (run : Interleaving config (mid ++ w :: before) s)
    (few : failuresSince (mid ++ w :: before) < 2 ^ 64) (releases : Releases w)
    (silent : ∀ e ∈ mid, isRecord e = false) (t : Nat) : s.breaker.health config t = .degraded := by
  obtain ⟨_, next, first, released, rest⟩ := run.split_step
  obtain ⟨_, opened, rfl⟩ := release_cases releases released
  have closed : s.breaker.state.isOpen = false :=
    rest.invariant (P := fun e => isRecord e = false)
      (I := fun s => s.breaker.state.isOpen = false) silent rfl
      fun _ _ _ _ silent closed stepped => closed_step silent closed stepped
  -- The failures that opened the circuit have not been forgotten.
  have kept : failuresSince (mid ++ w :: before) = failuresSince before := by
    rw [failuresSince_silent mid _ silent, failuresSince_cons, releases.1]
    rfl
  have some_ := (tally first).opened opened
  have counted := (tally run).failures
  rw [Nat.mod_eq_of_lt few, kept] at counted
  refine CircuitBreaker.health_degraded config t closed fun none => ?_
  rw [none] at counted
  have zero : (0 : UInt64).toNat = 0 := rfl
  omega

theorem health_agrees {config : CircuitBreakerConfig} {h : List (Entry Client)} {s : System Client}
    (run : Interleaving config h s) : HealthAgrees config h s.breaker where
  unhealthy t := by rw [CircuitBreaker.health_unhealthy_iff, CircuitBreaker.allowRequest_denied_iff]
  healthy few t := healthy_iff (tally run) few t
  halfOpen few mid w before same releases silent t := by
    subst same
    exact halfOpen_degraded run few releases silent t

/-! ## The counter goes round -/

/-- One client records failures and nothing else. -/
def failing (n : Nat) : List (Entry Nat) := List.replicate n (⟨0, 0, .recordFailure⟩, none)

theorem failing_failures (n : Nat) : failuresSince (failing n) = n := by
  induction n with
  | zero => rfl
  | succ n ih =>
    rw [failing, List.replicate_succ, failuresSince_cons, ← failing, ih]
    rfl

theorem failing_run (n : Nat) : ∃ s : System Nat, Interleaving quickConfig (failing n) s ∧
    s.now = 0 ∧ s.place 0 = .idle ∧
    (0 < n → s.breaker.state.isOpen = true ∧ s.breaker.state.lastFailureTime = some 0) := by
  induction n with
  | zero => exact ⟨.start, .start, rfl, rfl, nofun⟩
  | succ n ih =>
    obtain ⟨s, run, now, idle, opened⟩ := ih
    refine ⟨s.moved ⟨0, 0, .recordFailure⟩ (s.breaker.recordFailure quickConfig 0) .idle,
      .next run (by simp [System.step, now, idle]), rfl, System.moved_place_self ..,
        fun _ => ⟨?_, rfl⟩⟩
    cases n with
    -- The first failure reaches the threshold of one, and an open circuit stays open.
    | zero =>
      cases run
      rfl
    | succ n => simp [CircuitBreaker.recordFailure, (opened (by omega)).1]

/-- After 2^64 failures the open circuit is released and the gateway calls itself healthy. -/
theorem wrapped_healthy : ∃ (h : List (Entry Nat)) (s : System Nat), Interleaving quickConfig h s ∧
    failuresSince h = 2 ^ 64 ∧ s.breaker.health quickConfig 10 = .healthy := by
  obtain ⟨s, run, now, idle, opened⟩ := failing_run (2 ^ 64)
  obtain ⟨isOpen, last⟩ := opened (by decide)
  obtain ⟨h, released, silent, _⟩ := allowRequest_run quickConfig idle (show s.now ≤ 10 by omega)
  have whole := run.append released
  have recorded : failuresSince (h ++ failing (2 ^ 64)) = 2 ^ 64 := by
    rw [failuresSince_silent h _ fun e member => (silent e member).2.2, failing_failures]
  -- The admission closes the circuit, and the counter has come back to zero.
  refine ⟨_, _, whole, recorded, (CircuitBreaker.health_healthy_iff ..).mpr
    ⟨?_, UInt64.toNat_inj.mp ?_⟩⟩
  · rcases CircuitBreaker.allowRequest_cases quickConfig s.breaker 10 with ⟨closed, _⟩ |
      ⟨_, _, answer⟩ | ⟨blocks, _⟩
    · rw [isOpen] at closed
      cases closed
    · rw [answer]
      rfl
    · have due := blocks.2
      simp [CircuitBreaker.elapsed, last, quickConfig] at due
  · rw [(tally whole).failures, recorded]
    rfl

end FlussGateway.Resilience
