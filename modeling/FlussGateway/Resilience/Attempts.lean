import FlussGateway.Resilience.Retry

/-!
# Attempts

A retrying call run against a script: what the operation answers at each invocation, and what
is drawn after each sleep. The rule that makes one backoff from another is left open, so that
the code's own arithmetic and the exact one are two instances of the same loop.
-/
namespace FlussGateway.Resilience

open FlussGateway.Foundation

variable {α ε : Type}

structure Script (α ε : Type) where
  outcomes : Nat → Except ε α
  draws : Nat → UInt64

/-- The next backoff from the one before and a draw, if the arithmetic stays in range. -/
abbrev Growth := Duration → UInt64 → Option Duration

/-- The call with another rule for its backoffs. -/
def Execution.stepWith (config : CircuitBreakerConfig) (retry : RetryConfig) (next : Growth)
    (s : Execution α ε) (m : Moment α ε) : Option (Execution α ε × Unit) :=
  match s.phase, m.event with
  | .sleeping attempt backoff since, .wake draw =>
    if m.time < s.now ∨ m.time < since + backoff.nanos then none
    else
      match next backoff draw with
      | some backoff => some (⟨s.breaker, m.time, .attempting attempt backoff⟩, ())
      | none => some (⟨s.breaker, m.time, .panicked "overflow in the backoff arithmetic"⟩, ())
  | _, _ => s.step config retry m

/-- With the code's own rule it is the call itself. -/
theorem stepWith_nextBackoff (config : CircuitBreakerConfig) (retry : RetryConfig)
    (s : Execution α ε) (m : Moment α ε) :
    s.stepWith config retry retry.nextBackoff m = s.step config retry m := by
  unfold Execution.stepWith
  split
  next attempt backoff since draw at_ does =>
    unfold Execution.step
    rw [at_, does]
    by_cases early : m.time < s.now
    · rw [if_pos (.inl early), if_pos early]
    · rw [if_neg early]
      by_cases asleep : m.time < since + backoff.nanos
      · rw [if_pos (.inr asleep)]
        exact (if_pos asleep).symm
      · rw [if_neg (not_or.mpr ⟨early, asleep⟩)]
        exact (if_neg asleep).symm
  next => rfl

theorem step_eq_stepWith (config : CircuitBreakerConfig) (retry : RetryConfig) :
    Execution.step (α := α) (ε := ε) config retry =
      Execution.stepWith config retry retry.nextBackoff := by
  funext s m
  rw [stepWith_nextBackoff]

/-- What waking does under the rule. -/
inductive Woken (next : Growth) (s : Execution α ε) (m : Moment α ε) : Execution α ε → Prop where
  | grows {attempt : UInt32} {backoff longer : Duration} {since : Nat} {draw : UInt64}
      (at_ : s.phase = .sleeping attempt backoff since) (does : m.event = .wake draw)
      (slept : since + backoff.nanos ≤ m.time) (grows : next backoff draw = some longer) :
      Woken next s m ⟨s.breaker, m.time, .attempting attempt longer⟩
  | overflow {attempt : UInt32} {backoff : Duration} {since : Nat} {draw : UInt64}
      (at_ : s.phase = .sleeping attempt backoff since) (does : m.event = .wake draw)
      (slept : since + backoff.nanos ≤ m.time) (outside : next backoff draw = none) :
      Woken next s m ⟨s.breaker, m.time, .panicked "overflow in the backoff arithmetic"⟩

/-- A step wakes the call up, or is another step of the code's own. -/
theorem stepWith_cases {config : CircuitBreakerConfig} {retry : RetryConfig} {next : Growth}
    {s s' : Execution α ε} {m : Moment α ε}
    (stepped : s.stepWith config retry next m = some (s', ())) :
    s.now ≤ m.time ∧ (Woken next s m s' ∨
      (Pass config retry s m s' ∧ ∀ draw, m.event ≠ .wake draw)) := by
  unfold Execution.stepWith at stepped
  split at stepped
  next attempt backoff since draw at_ does =>
    split at stepped
    next => cases stepped
    next due =>
      obtain ⟨later, slept⟩ := not_or.mp due
      refine ⟨Nat.not_lt.mp later, .inl ?_⟩
      split at stepped <;> cases stepped
      next grows => exact .grows at_ does (Nat.not_lt.mp slept) grows
      next outside => exact .overflow at_ does (Nat.not_lt.mp slept) outside
  next other =>
    obtain ⟨later, pass⟩ := pass_cases stepped
    refine ⟨later, .inr ⟨pass, fun draw does => ?_⟩⟩
    -- Only a sleeping call wakes up, and that one is not left to the code's own step.
    cases pass with
    | wake at_ does' | overflow at_ does' => exact other _ _ _ _ at_ does'
    | allow _ does' | reject _ does' | succeed _ does' | fail _ does' | finish _ does'
    | giveUp _ does' | sleep _ does' => rw [does] at does'; cases does'

/-! ## Following the script -/

def isOperation (e : Moment α ε × Unit) : Bool :=
  match e.1.event with
  | .operation _ => true
  | _ => false

def isWake (e : Moment α ε × Unit) : Bool :=
  match e.1.event with
  | .wake _ => true
  | _ => false

/-- The invocations of the operation. -/
def operations (h : Record α ε) : Nat := h.countP isOperation

/-- The sleeps that are over. -/
def sleeps (h : Record α ε) : Nat := h.countP isWake

/-- Every answer and every draw is the script's next one. -/
def Obeys (script : Script α ε) : Record α ε → Prop
  | [] => True
  | (m, ()) :: h => Obeys script h ∧
    match m.event with
    | .operation result => result = script.outcomes (operations h)
    | .wake draw => draw = script.draws (sleeps h)
    | _ => True

/-- The first `n` outcomes are errors. -/
def FailsUntil (script : Script α ε) (n : Nat) : Prop := ∀ j < n, ∃ e, script.outcomes j = .error e

/-- The length of the sleep after `n` others. -/
def backoffs (next : Growth) (initial : Duration) (draws : Nat → UInt64) : Nat → Option Duration
  | 0 => some initial
  | n + 1 => (backoffs next initial draws n).bind fun backoff => next backoff (draws n)

theorem operations_cons (m : Moment α ε) (h : Record α ε) :
    operations ((m, ()) :: h) = operations h + if isOperation (m, ()) then 1 else 0 := by
  simp [operations, List.countP_cons]

theorem sleeps_cons (m : Moment α ε) (h : Record α ε) :
    sleeps ((m, ()) :: h) = sleeps h + if isWake (m, ()) then 1 else 0 := by
  simp [sleeps, List.countP_cons]

theorem FailsUntil.succ {script : Script α ε} {n : Nat} (fails : FailsUntil script n) {e : ε}
    (here : script.outcomes n = .error e) : FailsUntil script (n + 1) := by
  intro j small
  rcases Nat.lt_succ_iff_lt_or_eq.mp small with before | rfl
  · exact fails j before
  · exact ⟨e, here⟩

/-! ## What the breaker has counted -/

/-- The breaker of a call that was let through, after `n` failures of its own. -/
structure Counts (config : CircuitBreakerConfig) (breaker : CircuitBreaker) (n : Nat)
    (cb : CircuitBreaker) : Prop where
  failures : cb.state.failures = breaker.state.failures + UInt64.ofNat n
  opened : cb.state.isOpen = false ↔ StaysBelow config breaker.state.failures n
  successCount : cb.successCount = breaker.successCount
  failureCount : cb.failureCount = breaker.failureCount + UInt64.ofNat n

theorem counts_allowed {config : CircuitBreakerConfig} {breaker : CircuitBreaker} {now : Nat}
    (allowed : (breaker.allowRequest config now).1 = true) :
    Counts config breaker 0 (breaker.allowRequest config now).2 := by
  have below : StaysBelow config breaker.state.failures 0 := fun j first small => by omega
  rcases CircuitBreaker.allowRequest_cases config breaker now with ⟨closed, answer⟩ |
    ⟨_, _, answer⟩ | ⟨_, answer⟩
  · rw [answer]
    exact ⟨by simp, iff_of_true closed below, rfl, by simp⟩
  · rw [answer]
    exact ⟨by simp [CircuitBreaker.halfOpen], iff_of_true rfl below, rfl,
      by simp [CircuitBreaker.halfOpen]⟩
  · rw [answer] at allowed
    cases allowed

theorem Counts.fail {config : CircuitBreakerConfig} {breaker cb : CircuitBreaker} {n : Nat}
    (counts : Counts config breaker n cb) (now : Nat) :
    Counts config breaker (n + 1) (cb.recordFailure config now) := by
  have more : ∀ count : UInt64, count + UInt64.ofNat n + 1 = count + UInt64.ofNat (n + 1) := by
    intro count
    rw [UInt64.ofNat_add, ← UInt64.add_assoc]
    rfl
  refine ⟨?_, ?_, counts.successCount, ?_⟩
  · show cb.state.failures + 1 = _
    rw [counts.failures, more]
  · -- The circuit stays closed if it was, and this failure does not reach the threshold either.
    rw [staysBelow_succ, ← counts.opened, ← more, ← counts.failures]
    simp [CircuitBreaker.recordFailure]
  · show cb.failureCount + 1 = _
    rw [counts.failureCount, more]

/-- The breaker after a call that failed `n` times and then succeeded. -/
structure Recovered (breaker : CircuitBreaker) (n : Nat) (cb : CircuitBreaker) : Prop where
  closed : cb.state.isOpen = false
  failures : cb.state.failures = 0
  successCount : cb.successCount = breaker.successCount + 1
  failureCount : cb.failureCount = breaker.failureCount + UInt64.ofNat n

theorem Counts.succeed {config : CircuitBreakerConfig} {breaker cb : CircuitBreaker} {n : Nat}
    (counts : Counts config breaker n cb) : Recovered breaker n cb.recordSuccess :=
  ⟨rfl, rfl, congrArg (· + 1) counts.successCount, counts.failureCount⟩

/-! ## Where the call is -/

/-- So many invocations, sleeps and events lie behind. -/
structure Spent (h : Record α ε) (ops slept events : Nat) : Prop where
  operations : operations h = ops
  sleeps : sleeps h = slept
  events : h.length = events

/-- The ways a call can end. -/
inductive Ending (config : CircuitBreakerConfig) (retry : RetryConfig) (next : Growth)
    (script : Script α ε) (breaker : CircuitBreaker) (now : Nat) (h : Record α ε)
    (cb : CircuitBreaker) : Phase α ε → Prop where
  | success {n : Nat} {a : α} (inside : n ≤ retry.maxRetries.toNat) (fails : FailsUntil script n)
      (here : script.outcomes n = .ok a) (spent : Spent h (n + 1) n (3 * n + 3))
      (recovered : Recovered breaker n cb) :
      Ending config retry next script breaker now h cb (.returned (.ok a))
  | failure {e : ε} (fails : FailsUntil script (retry.maxRetries.toNat + 1))
      (here : script.outcomes retry.maxRetries.toNat = .error e)
      (spent : Spent h (retry.maxRetries.toNat + 1) retry.maxRetries.toNat
        (3 * retry.maxRetries.toNat + 3))
      (counts : Counts config breaker (retry.maxRetries.toNat + 1) cb) :
      Ending config retry next script breaker now h cb (.returned (.error e))
  | rejection {msg : String} (blocks : breaker.Blocks config now) (spent : Spent h 0 0 1) :
      Ending config retry next script breaker now h cb (.panicked msg)
  | overflow {n : Nat} {backoff : Duration} {msg : String} (inside : n < retry.maxRetries.toNat)
      (fails : FailsUntil script (n + 1))
      (reached : backoffs next retry.initialBackoff script.draws n = some backoff)
      (outside : next backoff (script.draws n) = none)
      (spent : Spent h (n + 1) (n + 1) (3 * n + 4)) :
      Ending config retry next script breaker now h cb (.panicked msg)

section Stage

variable (config : CircuitBreakerConfig) (retry : RetryConfig) (next : Growth)
  (script : Script α ε) (breaker : CircuitBreaker) (now : Nat)

/-- The invariant of the call, phase by phase: `n` attempts have failed before this one. -/
def Stage (h : Record α ε) (s : Execution α ε) : Prop :=
  match s.phase with
  | .checking => Spent h 0 0 0 ∧ s.breaker = breaker ∧ s.now = now
  | .attempting attempt backoff => ∃ n ≤ retry.maxRetries.toNat, attempt = UInt32.ofNat n ∧
      FailsUntil script n ∧ backoffs next retry.initialBackoff script.draws n = some backoff ∧
      Spent h n n (3 * n + 1) ∧ Counts config breaker n s.breaker
  | .succeeded a => ∃ n ≤ retry.maxRetries.toNat, FailsUntil script n ∧
      script.outcomes n = .ok a ∧ Spent h (n + 1) n (3 * n + 2) ∧ Counts config breaker n s.breaker
  | .failed e attempt backoff => ∃ n ≤ retry.maxRetries.toNat, attempt = UInt32.ofNat n ∧
      FailsUntil script n ∧ script.outcomes n = .error e ∧
      backoffs next retry.initialBackoff script.draws n = some backoff ∧
      Spent h (n + 1) n (3 * n + 2) ∧ Counts config breaker n s.breaker
  | .sleeping attempt backoff _ => ∃ n < retry.maxRetries.toNat, attempt = UInt32.ofNat (n + 1) ∧
      FailsUntil script (n + 1) ∧
      backoffs next retry.initialBackoff script.draws n = some backoff ∧
      Spent h (n + 1) n (3 * n + 3) ∧ Counts config breaker (n + 1) s.breaker
  | phase => Ending config retry next script breaker now h s.breaker phase

/-- Before the counter of attempts is at its end the loop is over. -/
def Countable : Prop := FailsUntil script (retry.maxRetries.toNat + 1) →
  retry.maxRetries.toNat + 1 < 2 ^ 32

variable {config retry next script breaker now}

theorem blocks_earlier {t : Nat} (later : now ≤ t) (blocks : breaker.Blocks config t) :
    breaker.Blocks config now := by
  obtain ⟨opened, waits⟩ := blocks
  refine ⟨opened, ?_⟩
  unfold CircuitBreaker.elapsed at waits ⊢
  cases stored : breaker.state.lastFailureTime with
  | none => rfl
  | some lastFailure =>
    rw [stored] at waits
    simp only [decide_eq_false_iff_not] at waits ⊢
    exact fun due => waits (Nat.le_trans due (Nat.sub_le_sub_right later lastFailure))

theorem ofNat_succ (n : Nat) : UInt32.ofNat n + 1 = UInt32.ofNat (n + 1) := by
  rw [UInt32.ofNat_add]
  rfl

theorem exhausted_iff {n : Nat} (small : n + 1 < 2 ^ 32) :
    retry.maxRetries < UInt32.ofNat n + 1 ↔ retry.maxRetries.toNat ≤ n := by
  rw [ofNat_succ, UInt32.lt_iff_toNat_lt, UInt32.toNat_ofNat_of_lt' small]
  exact Nat.lt_succ_iff

/-- Recording the failure of attempt `n` adds one to a counter that is not at its end. -/
theorem next_attempt {n : Nat} {e : ε} (countable : Countable retry script)
    (inside : n ≤ retry.maxRetries.toNat) (fails : FailsUntil script n)
    (here : script.outcomes n = .error e) :
    UInt32.ofNat n + 1 = UInt32.ofNat (n + 1) ∧
      (retry.maxRetries < UInt32.ofNat n + 1 ↔ n = retry.maxRetries.toNat) := by
  have bound := retry.maxRetries.toNat_lt
  have small : n + 1 < 2 ^ 32 := by
    rcases Nat.lt_or_eq_of_le inside with before | last
    · omega
    · rw [last]
      exact countable (last ▸ fails.succ here)
  refine ⟨ofNat_succ n, ?_⟩
  rw [exhausted_iff small]
  omega

theorem Spent.event {h : Record α ε} {ops slept events : Nat} (spent : Spent h ops slept events)
    {m : Moment α ε}
    (does : m.event = .allowRequest ∨ m.event = .recordSuccess ∨ m.event = .recordFailure) :
    Spent ((m, ()) :: h) ops slept (events + 1) := by
  have quiet : isOperation (m, ()) = false ∧ isWake (m, ()) = false := by
    rcases does with does | does | does <;> simp [isOperation, isWake, does]
  refine ⟨?_, ?_, by rw [List.length_cons, spent.events]⟩
  · rw [operations_cons, quiet.1, spent.operations]
    rfl
  · rw [sleeps_cons, quiet.2, spent.sleeps]
    rfl

theorem Spent.operation {h : Record α ε} {ops slept events : Nat} (spent : Spent h ops slept events)
    {m : Moment α ε} {result : Except ε α} (does : m.event = .operation result) :
    Spent ((m, ()) :: h) (ops + 1) slept (events + 1) := by
  refine ⟨?_, ?_, by rw [List.length_cons, spent.events]⟩
  · simp [operations_cons, isOperation, does, spent.operations]
  · simp [sleeps_cons, isWake, does, spent.sleeps]

theorem Spent.wake {h : Record α ε} {ops slept events : Nat} (spent : Spent h ops slept events)
    {m : Moment α ε} {draw : UInt64} (does : m.event = .wake draw) :
    Spent ((m, ()) :: h) ops (slept + 1) (events + 1) := by
  refine ⟨?_, ?_, by rw [List.length_cons, spent.events]⟩
  · simp [operations_cons, isOperation, does, spent.operations]
  · simp [sleeps_cons, isWake, does, spent.sleeps]

theorem stage_step {h : Record α ε} {s s' : Execution α ε} {m : Moment α ε}
    (countable : Countable retry script) (stage : Stage config retry next script breaker now h s)
    (obeys : Obeys script ((m, ()) :: h))
    (stepped : s.stepWith config retry next m = some (s', ())) :
    Stage config retry next script breaker now ((m, ()) :: h) s' := by
  obtain ⟨_, follows⟩ := obeys
  obtain ⟨later, woken | ⟨pass, asleep⟩⟩ := stepWith_cases stepped
  · cases woken with
    -- A further attempt: the draw is the one for the sleep that ends.
    | grows at_ does _ grows =>
      rw [Stage, at_] at stage
      obtain ⟨n, inside, attempt, fails, reached, spent, counts⟩ := stage
      simp only [does] at follows
      refine ⟨n + 1, inside, attempt, fails, ?_, spent.wake does, counts⟩
      rw [backoffs, reached, Option.bind_some, ← spent.sleeps, ← follows, grows]
    | overflow at_ does _ outside =>
      rw [Stage, at_] at stage
      obtain ⟨n, inside, _, fails, reached, spent, _⟩ := stage
      simp only [does] at follows
      rw [follows, spent.sleeps] at outside
      exact .overflow inside fails reached outside (spent.wake does)
  · cases pass with
    | allow at_ does allowed =>
      rw [Stage, at_] at stage
      obtain ⟨spent, same, _⟩ := stage
      rw [same] at allowed ⊢
      exact ⟨0, Nat.zero_le _, rfl, fun j small => by omega, rfl,
        spent.event (.inl does), counts_allowed allowed⟩
    -- The clock may have moved since the call was made, and a block then was one before.
    | reject at_ does denied =>
      rw [Stage, at_] at stage
      obtain ⟨spent, same, then_⟩ := stage
      rw [same, CircuitBreaker.allowRequest_denied_iff] at denied
      exact .rejection (blocks_earlier (then_ ▸ later) denied) (spent.event (.inl does))
    | succeed at_ does =>
      rw [Stage, at_] at stage
      obtain ⟨n, inside, _, fails, _, spent, counts⟩ := stage
      simp only [does] at follows
      rw [spent.operations] at follows
      exact ⟨n, inside, fails, follows.symm, spent.operation does, counts⟩
    | fail at_ does =>
      rw [Stage, at_] at stage
      obtain ⟨n, inside, attempt, fails, reached, spent, counts⟩ := stage
      simp only [does] at follows
      rw [spent.operations] at follows
      exact ⟨n, inside, attempt, fails, follows.symm, reached, spent.operation does, counts⟩
    | finish at_ does =>
      rw [Stage, at_] at stage
      obtain ⟨n, inside, fails, here, spent, counts⟩ := stage
      exact .success inside fails here (spent.event (.inr (.inl does))) counts.succeed
    -- The counter is past the bound, so this was the last attempt.
    | giveUp at_ does beyond =>
      rw [Stage, at_] at stage
      obtain ⟨n, inside, attempt, fails, here, _, spent, counts⟩ := stage
      obtain ⟨_, last⟩ := next_attempt countable inside fails here
      rw [attempt, last] at beyond
      subst beyond
      exact .failure (fails.succ here) here (spent.event (.inr (.inr does))) (counts.fail _)
    -- Retries are left, and the backoff stays what it was until the sleep is over.
    | sleep at_ does left =>
      rw [Stage, at_] at stage
      obtain ⟨n, inside, attempt, fails, here, reached, spent, counts⟩ := stage
      obtain ⟨more, last⟩ := next_attempt countable inside fails here
      rw [attempt, last] at left
      exact ⟨n, by omega, by rw [attempt, more], fails.succ here, reached,
        spent.event (.inr (.inr does)), counts.fail _⟩
    | wake _ does | overflow _ does => exact absurd does (asleep _)

/-- From the first question to the breaker on, the call is where the script has brought it. -/
theorem stage {h : Record α ε} {s : Execution α ε} (countable : Countable retry script)
    (run : Run (Execution.stepWith config retry next) (.start breaker now) h s)
    (obeys : Obeys script h) : Stage config retry next script breaker now h s := by
  induction run with
  | start => exact ⟨⟨rfl, rfl, rfl⟩, rfl, rfl⟩
  | next _ stepped ih => exact stage_step countable (ih obeys.1) obeys stepped

end Stage

/-! ## Runs of the script -/

/-- The call has returned or panicked. -/
def Phase.Ended : Phase α ε → Prop
  | .returned _ | .panicked _ => True
  | _ => False

/-- `Follows step script breaker now h s`: the call is at `s` after `h`, as the script has it. -/
structure Follows (step : Execution α ε → Moment α ε → Option (Execution α ε × Unit))
    (script : Script α ε) (breaker : CircuitBreaker) (now : Nat) (h : Record α ε)
    (s : Execution α ε) : Prop where
  run : Run step (.start breaker now) h s
  obeys : Obeys script h

section Follows

variable {config : CircuitBreakerConfig} {retry : RetryConfig} {next : Growth}
  {script : Script α ε} {breaker : CircuitBreaker} {now : Nat}

theorem Follows.extend {step : Execution α ε → Moment α ε → Option (Execution α ε × Unit)}
    {h : Record α ε} {s : Execution α ε} (follows : Follows step script breaker now h s)
    (m : Moment α ε) (s' : Execution α ε) (stepped : step s m = some (s', ()))
    (obeys : Obeys script h → Obeys script ((m, ()) :: h)) :
    Follows step script breaker now ((m, ()) :: h) s' :=
  ⟨.next follows.run stepped, obeys follows.obeys⟩

/-- A call that has not ended has a next event. -/
theorem Follows.continues {h : Record α ε} {s : Execution α ε}
    (follows : Follows (Execution.stepWith config retry next) script breaker now h s)
    (unfinished : ¬s.phase.Ended) : ∃ m s',
      Follows (Execution.stepWith config retry next) script breaker now ((m, ()) :: h) s' := by
  suffices possible : ∃ m s', s.stepWith config retry next m = some (s', ()) ∧
      (Obeys script h → Obeys script ((m, ()) :: h)) by
    obtain ⟨m, s', stepped, obeys⟩ := possible
    exact ⟨m, s', follows.extend m s' stepped obeys⟩
  obtain ⟨cb, time, phase⟩ := s
  cases phase with
  | checking =>
    refine ⟨⟨time, .allowRequest⟩, ?_⟩
    cases allowed : (cb.allowRequest config time).1 <;>
      simp [Execution.stepWith, Execution.step, allowed, Obeys]
  | attempting attempt backoff =>
    refine ⟨⟨time, .operation (script.outcomes (operations h))⟩, ?_⟩
    cases outcome : script.outcomes (operations h) <;>
      simp [Execution.stepWith, Execution.step, outcome, Obeys]
  | succeeded a =>
    exact ⟨⟨time, .recordSuccess⟩, by simp [Execution.stepWith, Execution.step, Obeys]⟩
  | failed e attempt backoff =>
    refine ⟨⟨time, .recordFailure⟩, ?_⟩
    by_cases spent : retry.maxRetries < attempt + 1 <;>
      simp [Execution.stepWith, Execution.step, spent, Obeys]
  | sleeping attempt backoff since =>
    -- It wakes up as soon as the clock and the backoff allow.
    refine ⟨⟨max time (since + backoff.nanos), .wake (script.draws (sleeps h))⟩, ?_⟩
    cases grows : next backoff (script.draws (sleeps h)) <;>
      simp [Execution.stepWith, grows, Obeys]
  | returned | panicked => exact absurd trivial unfinished

/-- However it goes on, the call is over after one question to the breaker and three events an
attempt, with its last sleep left out. -/
theorem Follows.bounded {h : Record α ε} {s : Execution α ε} (countable : Countable retry script)
    (follows : Follows (Execution.stepWith config retry next) script breaker now h s) :
    h.length ≤ 3 * retry.maxRetries.toNat + 3 ∧ operations h ≤ retry.maxRetries.toNat + 1 := by
  -- One question, and an operation, a record and a sleep for each attempt.
  suffices spent : ∃ ops slept events, Spent h ops slept events ∧
      events ≤ 3 * retry.maxRetries.toNat + 3 ∧ ops ≤ retry.maxRetries.toNat + 1 by
    obtain ⟨ops, slept, events, spent, short, few⟩ := spent
    rw [spent.events, spent.operations]
    exact ⟨short, few⟩
  have stage := stage countable follows.run follows.obeys
  obtain ⟨cb, time, phase⟩ := s
  cases phase with
  | checking => exact ⟨_, _, _, stage.1, by omega, by omega⟩
  | attempting =>
    obtain ⟨n, inside, _, _, _, spent, _⟩ := stage
    exact ⟨_, _, _, spent, by omega, by omega⟩
  | succeeded =>
    obtain ⟨n, inside, _, _, spent, _⟩ := stage
    exact ⟨_, _, _, spent, by omega, by omega⟩
  | failed =>
    obtain ⟨n, inside, _, _, _, _, spent, _⟩ := stage
    exact ⟨_, _, _, spent, by omega, by omega⟩
  | sleeping =>
    obtain ⟨n, inside, _, _, _, spent, _⟩ := stage
    exact ⟨_, _, _, spent, by omega, by omega⟩
  | returned =>
    cases stage with
    | success inside _ _ spent => exact ⟨_, _, _, spent, by omega, by omega⟩
    | failure _ _ spent => exact ⟨_, _, _, spent, by omega, by omega⟩
  | panicked =>
    cases stage with
    | rejection _ spent => exact ⟨_, _, _, spent, by omega, by omega⟩
    | overflow inside _ _ _ spent => exact ⟨_, _, _, spent, by omega, by omega⟩

/-- An ended call ended in one of the four ways. -/
theorem Follows.ending {h : Record α ε} {s : Execution α ε} (countable : Countable retry script)
    (follows : Follows (Execution.stepWith config retry next) script breaker now h s)
    (ended : s.phase.Ended) :
    Ending config retry next script breaker now h s.breaker s.phase := by
  have stage := stage countable follows.run follows.obeys
  obtain ⟨cb, time, phase⟩ := s
  cases phase with
  | returned | panicked => exact stage
  | checking | attempting | succeeded | failed | sleeping => cases ended

/-- A failed attempt with retries left is followed by its sleep. -/
theorem Follows.falls_asleep {h : Record α ε} {s : Execution α ε} {n : Nat} {backoff : Duration}
    {e : ε} (follows : Follows (Execution.stepWith config retry next) script breaker now h s)
    (at_ : s.phase = .attempting (UInt32.ofNat n) backoff) (spent : Spent h n n (3 * n + 1))
    (left : n < retry.maxRetries.toNat) (here : script.outcomes n = .error e) :
    ∃ h' s', Follows (Execution.stepWith config retry next) script breaker now h' s' ∧
      s'.phase = .sleeping (UInt32.ofNat (n + 1)) backoff s'.now ∧
      Spent h' (n + 1) n (3 * n + 3) := by
  have small : n + 1 < 2 ^ 32 := Nat.lt_of_le_of_lt left retry.maxRetries.toNat_lt
  have inside : ¬retry.maxRetries < UInt32.ofNat n + 1 := by
    rw [exhausted_iff small]
    exact Nat.not_le.mpr left
  obtain ⟨cb, time, phase⟩ := s
  obtain rfl : phase = .attempting (UInt32.ofNat n) backoff := at_
  -- First the operation fails, then the failure is recorded.
  have failed := follows.extend ⟨time, .operation (.error e)⟩
    ⟨cb, time, .failed e (UInt32.ofNat n) backoff⟩ (by simp [Execution.stepWith, Execution.step])
    (fun obeys => ⟨obeys, by rw [spent.operations, here]⟩)
  refine ⟨_, _, failed.extend ⟨time, .recordFailure⟩
    ⟨cb.recordFailure config time, time, .sleeping (UInt32.ofNat (n + 1)) backoff time⟩
    ?_ (fun obeys => ⟨obeys, trivial⟩), rfl, (spent.operation rfl).event (.inr (.inr rfl))⟩
  simp only [Execution.stepWith, Execution.step, Nat.lt_irrefl, if_false, if_neg inside]
  rw [ofNat_succ]

/-- Every attempt that the outcomes and the backoffs let the call make is made. -/
theorem Follows.reaches (passes : ¬breaker.Blocks config now) {n : Nat} {backoff : Duration}
    (inside : n ≤ retry.maxRetries.toNat) (fails : FailsUntil script n)
    (reached : backoffs next retry.initialBackoff script.draws n = some backoff) :
    ∃ h s, Follows (Execution.stepWith config retry next) script breaker now h s ∧
      s.phase = .attempting (UInt32.ofNat n) backoff ∧ Spent h n n (3 * n + 1) := by
  induction n generalizing backoff with
  -- The first attempt comes right after the question.
  | zero =>
    obtain rfl : retry.initialBackoff = backoff := Option.some.inj reached
    have allowed : (breaker.allowRequest config now).1 = true := by
      rw [← CircuitBreaker.allowRequest_denied_iff] at passes
      simpa using passes
    refine ⟨_, ⟨(breaker.allowRequest config now).2, now, .attempting 0 retry.initialBackoff⟩,
      ⟨.next (l := ⟨now, .allowRequest⟩) .start ?_, trivial, trivial⟩, rfl,
      Spent.event ⟨rfl, rfl, rfl⟩ (.inl rfl)⟩
    simp [Execution.stepWith, Execution.step, Execution.start, allowed]
  | succ n ih =>
    obtain ⟨before, reached_, grows⟩ := Option.bind_eq_some_iff.mp reached
    obtain ⟨h, s, follows, at_, spent⟩ := ih (by omega) (fun j small => fails j (by omega)) reached_
    obtain ⟨e, here⟩ := fails n (by omega)
    obtain ⟨h', s', asleep, sleeps_, spent_⟩ := follows.falls_asleep at_ spent inside here
    obtain ⟨cb, time, phase⟩ := s'
    obtain rfl : phase = .sleeping (UInt32.ofNat (n + 1)) before time := sleeps_
    -- It wakes up as soon as its backoff is over.
    refine ⟨_, _, asleep.extend ⟨time + before.nanos, .wake (script.draws n)⟩
      ⟨cb, time + before.nanos, .attempting (UInt32.ofNat (n + 1)) backoff⟩ ?_
      (fun obeys => ⟨obeys, by rw [spent_.sleeps]⟩), rfl, spent_.wake rfl⟩
    simp [Execution.stepWith, grows]

end Follows

end FlussGateway.Resilience
