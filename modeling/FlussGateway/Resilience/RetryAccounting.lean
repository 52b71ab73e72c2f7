import FlussGateway.Resilience.Attempts

/-!
# What a call reports

How often a retrying call invokes its operation, how often it sleeps, what it returns and
what the breaker has counted afterwards.
-/
namespace FlussGateway.Resilience

open FlussGateway.Foundation

variable {α ε : Type}

/-- The breaker after a call that failed `n` times and gave up. Its counters are of 64 bits. -/
structure Exhausted (config : CircuitBreakerConfig) (breaker : CircuitBreaker) (n : Nat)
    (cb : CircuitBreaker) : Prop where
  failures : cb.state.failures = breaker.state.failures + UInt64.ofNat n
  failureCount : cb.failureCount = breaker.failureCount + UInt64.ofNat n
  opened : cb.state.isOpen = false ↔ StaysBelow config breaker.state.failures n
  /-- Where the failures stay within 64 bits, the last one decides. -/
  threshold : breaker.state.failures.toNat + n < 2 ^ 64 →
    (cb.state.isOpen = true ↔ config.failureThreshold ≤ cb.state.failures)

/-- What the script says about the call holds of every run of it, and every run comes to its end. -/
structure Accounts (config : CircuitBreakerConfig) (retry : RetryConfig) (script : Script α ε)
    (breaker : CircuitBreaker) (now : Nat) : Prop where
  bounded : ∀ h s, Follows (Execution.step config retry) script breaker now h s →
    h.length ≤ 3 * retry.maxRetries.toNat + 3
  continues : ∀ h s, Follows (Execution.step config retry) script breaker now h s →
    ¬s.phase.Ended →
      ∃ m s', Follows (Execution.step config retry) script breaker now ((m, ()) :: h) s'
  success : ∀ k a, k ≤ retry.maxRetries.toNat → FailsUntil script k → script.outcomes k = .ok a →
    ∀ h s, Follows (Execution.step config retry) script breaker now h s → s.phase.Ended →
      s.phase = .returned (.ok a) ∧ operations h = k + 1 ∧ sleeps h = k ∧
        Recovered breaker k s.breaker
  failure : ∀ e, FailsUntil script retry.maxRetries.toNat →
    script.outcomes retry.maxRetries.toNat = .error e →
    ∀ h s, Follows (Execution.step config retry) script breaker now h s → s.phase.Ended →
      s.phase = .returned (.error e) ∧ operations h = retry.maxRetries.toNat + 1 ∧
        sleeps h = retry.maxRetries.toNat ∧
        Exhausted config breaker (retry.maxRetries.toNat + 1) s.breaker

/-- As long as nothing wraps around, the counts below the threshold are those whose last is. -/
theorem staysBelow_iff_last {config : CircuitBreakerConfig} {failures : UInt64} {n : Nat}
    (small : failures.toNat + (n + 1) < 2 ^ 64) :
    StaysBelow config failures (n + 1) ↔
      failures + UInt64.ofNat (n + 1) < config.failureThreshold := by
  constructor
  · intro below
    exact below (n + 1) (by omega) (Nat.le_refl _)
  · intro last j first inside
    have value : ∀ i ≤ n + 1, (failures + UInt64.ofNat i).toNat = failures.toNat + i := by
      intro i le
      rw [UInt64.toNat_add, UInt64.toNat_ofNat_of_lt' (show i < 2 ^ 64 by omega)]
      exact Nat.mod_eq_of_lt (by omega)
    rw [UInt64.lt_iff_toNat_lt, value _ (Nat.le_refl _)] at last
    rw [UInt64.lt_iff_toNat_lt, value j inside]
    omega

theorem Counts.exhausted {config : CircuitBreakerConfig} {breaker cb : CircuitBreaker} {n : Nat}
    (counts : Counts config breaker (n + 1) cb) : Exhausted config breaker (n + 1) cb := by
  refine ⟨counts.failures, counts.failureCount, counts.opened, fun small => ?_⟩
  rw [← Bool.not_eq_false, counts.opened, staysBelow_iff_last small, ← counts.failures]
  exact UInt64.not_lt

theorem FailsUntil.first {script : Script α ε} {k n : Nat} {a : α} (fails : FailsUntil script n)
    (here : script.outcomes k = .ok a) : n ≤ k := by
  apply Nat.le_of_not_lt
  intro before
  obtain ⟨e, failed⟩ := fails k before
  rw [here] at failed
  cases failed

/-- A breaker that lets the call through, retries that can be counted and backoffs that can be
represented: the call does as its script says. -/
theorem retry_accounting {config : CircuitBreakerConfig} {retry : RetryConfig}
    {script : Script α ε} {breaker : CircuitBreaker} {now : Nat}
    (allowed : (breaker.allowRequest config now).1 = true)
    (countable : retry.maxRetries.toNat < 2 ^ 32 - 1)
    (representable : ∀ n ≤ retry.maxRetries.toNat, FailsUntil script n →
      (backoffs retry.nextBackoff retry.initialBackoff script.draws n).isSome = true) :
    Accounts config retry script breaker now := by
  have counted : Countable retry script := fun _ => by omega
  have passes : ¬breaker.Blocks config now := by
    rw [← CircuitBreaker.allowRequest_denied_iff, allowed]
    exact Bool.noConfusion
  -- Neither of the two panics is left.
  have ends : ∀ h s, Follows (Execution.step config retry) script breaker now h s →
      s.phase.Ended → (∃ n a, s.phase = .returned (.ok a) ∧ FailsUntil script n ∧
        script.outcomes n = .ok a ∧ n ≤ retry.maxRetries.toNat ∧
        operations h = n + 1 ∧ sleeps h = n ∧ Recovered breaker n s.breaker) ∨
      ∃ e, s.phase = .returned (.error e) ∧ FailsUntil script (retry.maxRetries.toNat + 1) ∧
        script.outcomes retry.maxRetries.toNat = .error e ∧
        operations h = retry.maxRetries.toNat + 1 ∧ sleeps h = retry.maxRetries.toNat ∧
        Exhausted config breaker (retry.maxRetries.toNat + 1) s.breaker := by
    intro h s follows ended
    rw [step_eq_stepWith] at follows
    have ending := follows.ending counted ended
    generalize s.phase = phase at ending ⊢
    cases ending with
    | success inside fails here spent recovered =>
      exact .inl ⟨_, _, rfl, fails, here, inside, spent.operations, spent.sleeps, recovered⟩
    | failure fails here spent counts =>
      exact .inr ⟨_, rfl, fails, here, spent.operations, spent.sleeps, counts.exhausted⟩
    | rejection blocks => exact absurd blocks passes
    | overflow inside fails reached outside =>
      have some_ := representable _ inside fails
      rw [backoffs, reached, Option.bind_some, outside] at some_
      cases some_
  refine ⟨?_, ?_, ?_, ?_⟩
  · intro h s follows
    rw [step_eq_stepWith] at follows
    exact (follows.bounded counted).1
  · intro h s follows unfinished
    rw [step_eq_stepWith] at follows ⊢
    exact follows.continues unfinished
  · intro k a inside fails here h s follows ended
    rcases ends h s follows ended with ⟨n, b, at_, before, first, _, facts⟩ | ⟨e, _, before, _⟩
    · obtain rfl : n = k := Nat.le_antisymm (before.first here) (fails.first first)
      rw [first] at here
      cases here
      exact ⟨at_, facts⟩
    · have late := before.first here
      omega
  · intro e fails here h s follows ended
    rcases ends h s follows ended with ⟨n, b, _, _, first, inside, _⟩ | ⟨e', at_, _, last, facts⟩
    · have late := (fails.succ here).first first
      omega
    · rw [last] at here
      cases here
      exact ⟨at_, facts⟩

/-- The first attempt fails, the others succeed. -/
def secondSucceeds : Script Nat Unit :=
  ⟨fun | 0 => .error () | _ => .ok 7, fun _ => 0⟩

theorem retry_accounting_second : Accounts default default secondSucceeds .new 0 := by
  refine retry_accounting rfl (by decide) fun n _ fails => ?_
  have few : n ≤ 1 := fails.first rfl
  rcases Nat.le_one_iff_eq_zero_or_eq_one.mp few with rfl | rfl
  · rfl
  · rfl

/-! ## A counter at its end -/

def oneRetry : RetryConfig := { (default : RetryConfig) with maxRetries := 1 }

def alwaysFails : Script Nat Unit := ⟨fun _ => .error (), fun _ => 0⟩

/-- A closed breaker whose failures are two below what 64 bits can hold. -/
def worn : CircuitBreaker := ⟨⟨18446744073709551614, none, false⟩, 0, 0, 0⟩

def wornFailures : Record Nat Unit :=
  [(⟨100000000, .recordFailure⟩, ()), (⟨100000000, .operation (.error ())⟩, ()),
   (⟨100000000, .wake 0⟩, ()), (⟨0, .recordFailure⟩, ()), (⟨0, .operation (.error ())⟩, ()),
   (⟨0, .allowRequest⟩, ())]

/-- The first failure opens the circuit, the second brings the count back to zero. -/
theorem worn_opens : (worn.allowRequest default 0).1 = true ∧
    ∃ s, Follows (Execution.step default oneRetry) alwaysFails worn 0 wornFailures s ∧
      s.phase = .returned (.error ()) ∧ s.breaker.state.failures = 0 ∧
      ¬(s.breaker.state.isOpen = true ↔
        (default : CircuitBreakerConfig).failureThreshold ≤ s.breaker.state.failures) := by
  refine ⟨rfl, _,
    ⟨.next (.next (.next (.next (.next (.next .start rfl) rfl) rfl) rfl) rfl) rfl, ?_⟩, rfl, rfl,
    by decide⟩
  simp [wornFailures, Obeys, alwaysFails]

end FlussGateway.Resilience
