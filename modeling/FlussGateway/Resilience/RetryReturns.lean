import FlussGateway.Resilience.BackoffBounds

/-!
# When a call returns

A retrying call returns a result, or panics: on a circuit that blocks it, or where its backoff
leaves the range of a duration. The product of a backoff and the multiplier is taken exactly
here and then rounded to nanoseconds.
-/
namespace FlussGateway.Resilience

open FlussGateway.Foundation

variable {α ε : Type}

/-- A finite factor that is not negative, as a numerator and a denominator. -/
def exactFactor (factor : Float) : Option (Nat × Nat) :=
  match factor.toModel.unpack with
  | .zero _ => some (0, 1)
  | .finite .positive m e _ => some (m * 2 ^ e.toNat, 2 ^ (-e).toNat)
  | _ => none

/-- The nanoseconds of a backoff times a factor. -/
def scaledNanos (factor : Nat × Nat) (backoff : Duration) : Nat :=
  Duration.roundHalfEven (backoff.nanos * factor.1) factor.2

/-- `nextBackoff` with the exact product. The two differ where binary64 rounds the seconds of the
backoff or the product, as it rounds the longest backoff up to 2^64 seconds. -/
def RetryConfig.exactBackoff (retry : RetryConfig) : Growth := fun backoff draw => do
  let factor ← exactFactor retry.backoffMultiplier
  let scaled ← Duration.ofNanos (scaledNanos factor backoff)
  let backoff := scaled.min retry.maxBackoff
  Duration.ofNanos (backoff.nanos + jitterMs backoff.asMillis draw * 10 ^ 6)

/-- Neither the product, which is converted before it is capped, nor the jitter on top of the capped
backoff reaches 2^64 seconds. -/
structure Representable (retry : RetryConfig) (factor : Nat × Nat) (backoff : Duration)
    (draw : UInt64) : Prop where
  scaled : scaledNanos factor backoff < 2 ^ 64 * 10 ^ 9
  jittered : min (scaledNanos factor backoff) retry.maxBackoff.nanos +
    jitterMs (min (scaledNanos factor backoff) retry.maxBackoff.nanos / 10 ^ 6) draw * 10 ^ 6 <
      2 ^ 64 * 10 ^ 9

theorem ofNanos_of_lt {n : Nat} (small : n < 2 ^ 64 * 10 ^ 9) :
    Duration.ofNanos n = some ⟨n, small⟩ := by
  unfold Duration.ofNanos
  rw [dif_pos small]

theorem ofNanos_of_not_lt {n : Nat} (large : ¬n < 2 ^ 64 * 10 ^ 9) : Duration.ofNanos n = none := by
  unfold Duration.ofNanos
  rw [dif_neg large]

theorem ofNanos_isSome_iff (n : Nat) :
    (Duration.ofNanos n).isSome = true ↔ n < 2 ^ 64 * 10 ^ 9 := by
  by_cases small : n < 2 ^ 64 * 10 ^ 9
  · simp only [ofNanos_of_lt small, Option.isSome_some, small]
  · simp only [ofNanos_of_not_lt small, Option.isSome_none, small, Bool.false_eq_true]

theorem min_nanos (a b : Duration) : (a.min b).nanos = min a.nanos b.nanos := by
  unfold Duration.min
  split
  next le => exact (min_eq_left le).symm
  next lt => exact (min_eq_right (Nat.le_of_not_le lt)).symm

section Exact

variable {retry : RetryConfig} {factor : Nat × Nat}
  (finite : exactFactor retry.backoffMultiplier = some factor) (backoff : Duration) (draw : UInt64)
include finite

theorem exactBackoff_eq : retry.exactBackoff backoff draw =
    (Duration.ofNanos (scaledNanos factor backoff)).bind fun scaled =>
      Duration.ofNanos ((scaled.min retry.maxBackoff).nanos +
        jitterMs (scaled.min retry.maxBackoff).asMillis draw * 10 ^ 6) := by
  unfold RetryConfig.exactBackoff
  rw [finite]
  rfl

theorem exactBackoff_isSome_iff :
    (retry.exactBackoff backoff draw).isSome = true ↔
      Representable retry factor backoff draw := by
  rw [exactBackoff_eq finite]
  by_cases scaled : scaledNanos factor backoff < 2 ^ 64 * 10 ^ 9
  · rw [ofNanos_of_lt scaled, Option.bind_some, ofNanos_isSome_iff, Duration.asMillis, min_nanos]
    exact ⟨fun jittered => ⟨scaled, jittered⟩, fun inside => inside.jittered⟩
  · rw [ofNanos_of_not_lt scaled, Option.bind_none]
    exact ⟨fun some_ => Bool.noConfusion some_, fun inside => absurd inside.scaled scaled⟩

end Exact

/-! ## Returning -/

/-- Every run of the call is short, goes on until the call returns, calls the operation once more
than it may retry at most, and never counts its attempts past 32 bits. -/
structure AlwaysReturns (config : CircuitBreakerConfig) (retry : RetryConfig) (next : Growth)
    (script : Script α ε) (breaker : CircuitBreaker) (now : Nat) : Prop where
  bounded : ∀ h s, Follows (Execution.stepWith config retry next) script breaker now h s →
    h.length ≤ 3 * retry.maxRetries.toNat + 3 ∧ operations h ≤ retry.maxRetries.toNat + 1
  continues : ∀ h s, Follows (Execution.stepWith config retry next) script breaker now h s →
    ¬s.phase.Ended → ∃ m s',
      Follows (Execution.stepWith config retry next) script breaker now ((m, ()) :: h) s'
  returns : ∀ h s, Follows (Execution.stepWith config retry next) script breaker now h s →
    s.phase.Ended → ∃ result, s.phase = .returned result
  counts : ∀ h s e attempt backoff,
    Follows (Execution.stepWith config retry next) script breaker now h s →
      s.phase = .failed e attempt backoff → attempt.toNat + 1 < 2 ^ 32

/-- The circuit lets the call through, its attempts can be counted, and each backoff before a next
attempt makes another. -/
structure Unhindered (config : CircuitBreakerConfig) (retry : RetryConfig) (script : Script α ε)
    (breaker : CircuitBreaker) (now : Nat) (next : Growth)
    (makes : Duration → UInt64 → Prop) : Prop where
  passes : ¬breaker.Blocks config now
  countable : Countable retry script
  makes : ∀ n < retry.maxRetries.toNat, FailsUntil script (n + 1) →
    ∀ backoff, backoffs next retry.initialBackoff script.draws n = some backoff →
      makes backoff (script.draws n)

section Returns

variable {config : CircuitBreakerConfig} {retry : RetryConfig} {next : Growth}
  {script : Script α ε} {breaker : CircuitBreaker} {now : Nat}

theorem Unhindered.alwaysReturns (unhindered : Unhindered config retry script breaker now next
    fun backoff draw => (next backoff draw).isSome = true) :
    AlwaysReturns config retry next script breaker now := by
  obtain ⟨passes, countable, makes⟩ := unhindered
  refine ⟨fun h s follows => follows.bounded countable, fun h s follows => follows.continues,
    ?_, ?_⟩
  · intro h s follows ended
    have ending := follows.ending countable ended
    generalize s.phase = phase at ending ⊢
    cases ending with
    | success | failure => exact ⟨_, rfl⟩
    -- Of the two panics the breaker causes one and the arithmetic the other.
    | rejection blocks => exact absurd blocks passes
    | overflow inside fails reached outside =>
      have some_ := makes _ inside fails _ reached
      rw [outside] at some_
      cases some_
  · intro h s e attempt backoff follows at_
    have stage := stage countable follows.run follows.obeys
    rw [Stage, at_] at stage
    obtain ⟨n, inside, rfl, fails, here, _⟩ := stage
    have bound := retry.maxRetries.toNat_lt
    rw [UInt32.toNat_ofNat_of_lt' (show n < 2 ^ 32 by omega)]
    -- Only the last attempt can bring the counter to its end.
    rcases Nat.lt_or_eq_of_le inside with before | rfl
    · omega
    · exact countable (fails.succ here)

namespace AlwaysReturns

theorem passes (always : AlwaysReturns config retry next script breaker now) :
    ¬breaker.Blocks config now := by
  intro blocks
  rw [← CircuitBreaker.allowRequest_denied_iff] at blocks
  -- Blocked, the call panics on its first event.
  have stepped : (Execution.start breaker now : Execution α ε).stepWith config retry next
      ⟨now, .allowRequest⟩ = some (⟨(breaker.allowRequest config now).2, now,
        .panicked "circuit breaker is open, request rejected"⟩, ()) := by
    simp [Execution.stepWith, Execution.step, Execution.start, blocks]
  obtain ⟨_, at_⟩ := always.returns _ _ ⟨.next .start stepped, trivial, trivial⟩ trivial
  cases at_

/-- A call that falls asleep wakes up with another backoff. -/
theorem makes (always : AlwaysReturns config retry next script breaker now) {n : Nat}
    (inside : n < retry.maxRetries.toNat) (fails : FailsUntil script (n + 1)) {backoff : Duration}
    (reached : backoffs next retry.initialBackoff script.draws n = some backoff) :
    (next backoff (script.draws n)).isSome = true := by
  have before : FailsUntil script n := fun j small => fails j (by omega)
  obtain ⟨h, s, follows, at_, spent⟩ := Follows.reaches always.passes inside.le before reached
  obtain ⟨e, here⟩ := fails n (Nat.lt_succ_self n)
  obtain ⟨h', s', asleep, sleeps_, spent_⟩ := follows.falls_asleep at_ spent inside here
  cases grows : next backoff (script.draws n) with
  | some longer => rfl
  | none =>
    obtain ⟨cb, time, phase⟩ := s'
    obtain rfl : phase = .sleeping (UInt32.ofNat (n + 1)) backoff time := sleeps_
    -- Without a next backoff it would panic on waking up.
    have panics := asleep.extend ⟨time + backoff.nanos, .wake (script.draws n)⟩
      ⟨cb, time + backoff.nanos, .panicked "overflow in the backoff arithmetic"⟩
      (by simp [Execution.stepWith, grows]) (fun obeys => ⟨obeys, by rw [spent_.sleeps]⟩)
    obtain ⟨_, at_⟩ := always.returns _ _ panics trivial
    cases at_

theorem backoff_reached (always : AlwaysReturns config retry next script breaker now) {n : Nat}
    (inside : n ≤ retry.maxRetries.toNat) (fails : FailsUntil script n) :
    ∃ backoff, backoffs next retry.initialBackoff script.draws n = some backoff := by
  induction n with
  | zero => exact ⟨_, rfl⟩
  | succ n ih =>
    obtain ⟨backoff, reached⟩ := ih (by omega) fun j small => fails j (by omega)
    have makes := always.makes inside fails reached
    rw [backoffs, reached]
    exact Option.isSome_iff_exists.mp makes

theorem countable (always : AlwaysReturns config retry next script breaker now) :
    Countable retry script := by
  intro fails
  have before : FailsUntil script retry.maxRetries.toNat := fun j small => fails j (by omega)
  obtain ⟨backoff, reached⟩ := always.backoff_reached (Nat.le_refl _) before
  -- The last attempt is reached, and its failure is counted once more.
  obtain ⟨h, s, follows, at_, spent⟩ :=
    Follows.reaches always.passes (Nat.le_refl _) before reached
  obtain ⟨e, here⟩ := fails _ (Nat.lt_succ_self _)
  obtain ⟨cb, time, phase⟩ := s
  obtain rfl : phase = .attempting (UInt32.ofNat retry.maxRetries.toNat) backoff := at_
  have failed := follows.extend ⟨time, .operation (.error e)⟩
    ⟨cb, time, .failed e (UInt32.ofNat retry.maxRetries.toNat) backoff⟩
    (by simp [Execution.stepWith, Execution.step])
    (fun obeys => ⟨obeys, by rw [spent.operations, here]⟩)
  have count := always.counts _ _ _ _ _ failed rfl
  rwa [UInt32.toNat_ofNat_of_lt' retry.maxRetries.toNat_lt] at count

end AlwaysReturns

/-- Whatever the rule for the backoffs is. -/
theorem alwaysReturns_iff_makes : AlwaysReturns config retry next script breaker now ↔
    Unhindered config retry script breaker now next
      fun backoff draw => (next backoff draw).isSome = true := by
  constructor
  · intro always
    exact ⟨always.passes, always.countable, fun n inside fails _ => always.makes inside fails⟩
  · exact Unhindered.alwaysReturns

end Returns

/-- With exact products a call always returns exactly when the circuit lets it through, its failed
attempts can be counted, and the backoffs it sleeps stay in the range of durations. -/
theorem always_returns_iff {config : CircuitBreakerConfig} {retry : RetryConfig}
    {script : Script α ε} {breaker : CircuitBreaker} {now : Nat} {factor : Nat × Nat}
    (finite : exactFactor retry.backoffMultiplier = some factor) :
    AlwaysReturns config retry retry.exactBackoff script breaker now ↔
      Unhindered config retry script breaker now retry.exactBackoff
        (Representable retry factor) := by
  rw [alwaysReturns_iff_makes]
  have same : (fun backoff draw => (retry.exactBackoff backoff draw).isSome = true) =
      Representable retry factor := by
    funext backoff draw
    exact propext (exactBackoff_isSome_iff finite backoff draw)
  rw [same]

theorem always_returns_iff_nines :
    AlwaysReturns default tightRetry tightRetry.exactBackoff nines .new 0 ↔
      Unhindered default tightRetry nines .new 0 tightRetry.exactBackoff
        (Representable tightRetry (2 ^ 52, 2 ^ 51)) :=
  always_returns_iff rfl

/-! ## Four ways not to return -/

/-- One failure has opened the circuit. -/
def tripped : CircuitBreaker := ⟨⟨1, some 0, true⟩, 0, 0, 1⟩

def countless : RetryConfig := { tightRetry with maxRetries := 4294967295 }

def longest : Duration := ⟨2 ^ 64 * 10 ^ 9 - 1, by decide⟩

def doubling : RetryConfig := { tightRetry with initialBackoff := longest }

def lingering : RetryConfig :=
  ⟨1, longest, longest, (1 : UInt64).toFloat⟩

/-- A circuit that blocks, the last attempt of 2^32, a product that is converted before it is
capped, and a jitter on the longest backoff (where `nextBackoff` panics at the product already). -/
theorem not_always_returns :
    ((∃ s : System Nat, Interleaving quickConfig [(⟨0, 0, .recordFailure⟩, none)] s ∧
        s.breaker = tripped) ∧
      ¬AlwaysReturns quickConfig tightRetry tightRetry.exactBackoff nines tripped 1) ∧
    ¬AlwaysReturns default countless countless.exactBackoff nines .new 0 ∧
    ¬AlwaysReturns default doubling doubling.exactBackoff nines .new 0 ∧
    ¬AlwaysReturns default lingering lingering.exactBackoff nines .new 0 := by
  have fails : ∀ n, FailsUntil nines n := fun n j _ => ⟨(), rfl⟩
  refine ⟨⟨⟨_, .next .start rfl, rfl⟩, fun always => always.passes ⟨rfl, rfl⟩⟩, ?_, ?_, ?_⟩
  · intro always
    exact absurd (always.countable (fails _)) (by decide)
  · intro always
    exact absurd (always.makes (n := 0) (by decide) (fails _) rfl) (by decide)
  · intro always
    exact absurd (always.makes (n := 0) (by decide) (fails _) rfl) (by decide)

end FlussGateway.Resilience
