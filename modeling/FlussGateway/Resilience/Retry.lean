import FlussGateway.Resilience.Admission
import FlussGateway.Resilience.Backoff

/-!
# Retrying an operation

`execute_with_retry` asks the breaker once, before its loop. Each pass of the loop calls the
operation and records the result; a failed pass sleeps before the next one. A step is one
event of the call, at a reading of a clock that never goes back. Nobody else uses the
breaker meanwhile.
-/
namespace FlussGateway.Resilience

open FlussGateway.Foundation

variable {α ε : Type}

inductive Phase (α ε : Type) where
  | checking
  | attempting (attempt : UInt32) (backoff : Duration)
  | succeeded (result : α)
  | failed (error : ε) (attempt : UInt32) (backoff : Duration)
  | sleeping (attempt : UInt32) (backoff : Duration) (since : Nat)
  | returned (result : Except ε α)
  | panicked (msg : String)

/-- What happens: the operation answers as it likes, and a jitter draw may have any value. -/
inductive Event (α ε : Type) where
  | allowRequest
  | operation (result : Except ε α)
  | recordSuccess
  | recordFailure
  | wake (draw : UInt64)

structure Moment (α ε : Type) where
  time : Nat
  event : Event α ε

structure Execution (α ε : Type) where
  breaker : CircuitBreaker
  now : Nat
  phase : Phase α ε

namespace Execution

def start (breaker : CircuitBreaker) (now : Nat) : Execution α ε := ⟨breaker, now, .checking⟩

def step (config : CircuitBreakerConfig) (retry : RetryConfig) (s : Execution α ε)
    (m : Moment α ε) :
    Option (Execution α ε × Unit) :=
  if m.time < s.now then none
  else
    match s.phase, m.event with
    | .checking, .allowRequest =>
      let (allowed, breaker) := s.breaker.allowRequest config m.time
      if allowed then some (⟨breaker, m.time, .attempting 0 retry.initialBackoff⟩, ())
      else some (⟨breaker, m.time, .panicked "circuit breaker is open, request rejected"⟩, ())
    | .attempting attempt backoff, .operation result =>
      match result with
      | .ok a => some (⟨s.breaker, m.time, .succeeded a⟩, ())
      | .error e => some (⟨s.breaker, m.time, .failed e attempt backoff⟩, ())
    | .succeeded a, .recordSuccess =>
      some (⟨s.breaker.recordSuccess, m.time, .returned (.ok a)⟩, ())
    | .failed e attempt backoff, .recordFailure =>
      let breaker := s.breaker.recordFailure config m.time
      let attempt := attempt + 1
      if retry.maxRetries < attempt then some (⟨breaker, m.time, .returned (.error e)⟩, ())
      else some (⟨breaker, m.time, .sleeping attempt backoff m.time⟩, ())
    | .sleeping attempt backoff since, .wake draw =>
      -- A sleep lasts at least its backoff. The breaker is not asked again.
      if m.time < since + backoff.nanos then none
      else
        match retry.nextBackoff backoff draw with
        | some backoff => some (⟨s.breaker, m.time, .attempting attempt backoff⟩, ())
        | none => some (⟨s.breaker, m.time, .panicked "overflow in the backoff arithmetic"⟩, ())
    | _, _ => none

end Execution

/-- Everything a step can be. -/
inductive Pass (config : CircuitBreakerConfig) (retry : RetryConfig) (s : Execution α ε)
    (m : Moment α ε) :
    Execution α ε → Prop where
  | allow (at_ : s.phase = .checking) (does : m.event = .allowRequest)
      (allowed : (s.breaker.allowRequest config m.time).1 = true) :
      Pass config retry s m ⟨(s.breaker.allowRequest config m.time).2, m.time,
        .attempting 0 retry.initialBackoff⟩
  | reject (at_ : s.phase = .checking) (does : m.event = .allowRequest)
      (denied : (s.breaker.allowRequest config m.time).1 = false) :
      Pass config retry s m ⟨(s.breaker.allowRequest config m.time).2, m.time,
        .panicked "circuit breaker is open, request rejected"⟩
  | succeed {attempt : UInt32} {backoff : Duration} {a : α}
      (at_ : s.phase = .attempting attempt backoff)
      (does : m.event = .operation (.ok a)) : Pass config retry s m
        ⟨s.breaker, m.time, .succeeded a⟩
  | fail {attempt : UInt32} {backoff : Duration} {e : ε}
      (at_ : s.phase = .attempting attempt backoff)
      (does : m.event = .operation (.error e)) : Pass config retry s m
        ⟨s.breaker, m.time, .failed e attempt backoff⟩
  | finish {a : α} (at_ : s.phase = .succeeded a) (does : m.event = .recordSuccess) :
      Pass config retry s m ⟨s.breaker.recordSuccess, m.time, .returned (.ok a)⟩
  | giveUp {e : ε} {attempt : UInt32} {backoff : Duration}
      (at_ : s.phase = .failed e attempt backoff)
      (does : m.event = .recordFailure) (spent : retry.maxRetries < attempt + 1) :
      Pass config retry s m ⟨s.breaker.recordFailure config m.time, m.time, .returned (.error e)⟩
  | sleep {e : ε} {attempt : UInt32} {backoff : Duration}
      (at_ : s.phase = .failed e attempt backoff)
      (does : m.event = .recordFailure) (left : ¬retry.maxRetries < attempt + 1) :
      Pass config retry s m ⟨s.breaker.recordFailure config m.time, m.time,
        .sleeping (attempt + 1) backoff m.time⟩
  | wake {attempt : UInt32} {backoff next : Duration} {since : Nat} {draw : UInt64}
      (at_ : s.phase = .sleeping attempt backoff since) (does : m.event = .wake draw)
      (slept : since + backoff.nanos ≤ m.time)
        (grows : retry.nextBackoff backoff draw = some next) :
      Pass config retry s m ⟨s.breaker, m.time, .attempting attempt next⟩
  | overflow {attempt : UInt32} {backoff : Duration} {since : Nat} {draw : UInt64}
      (at_ : s.phase = .sleeping attempt backoff since) (does : m.event = .wake draw)
      (slept : since + backoff.nanos ≤ m.time) (outside : retry.nextBackoff backoff draw = none) :
      Pass config retry s m ⟨s.breaker, m.time, .panicked "overflow in the backoff arithmetic"⟩

theorem pass_cases {config : CircuitBreakerConfig} {retry : RetryConfig} {s s' : Execution α ε}
    {m : Moment α ε} (stepped : s.step config retry m = some (s', ())) :
    s.now ≤ m.time ∧ Pass config retry s m s' := by
  unfold Execution.step at stepped
  split at stepped
  next => cases stepped
  next later =>
    refine ⟨Nat.not_lt.mp later, ?_⟩
    split at stepped
    -- The breaker is asked before every attempt.
    next at_ does =>
      dsimp only at stepped
      split at stepped <;> cases stepped
      next allowed => exact .allow at_ does allowed
      next denied => exact .reject at_ does (by simpa using denied)
    next at_ does =>
      split at stepped <;> cases stepped
      · exact .succeed at_ does
      · exact .fail at_ does
    next at_ does => cases stepped; exact .finish at_ does
    next at_ does =>
      dsimp only at stepped
      split at stepped <;> cases stepped
      next spent => exact .giveUp at_ does spent
      next left => exact .sleep at_ does left
    next at_ does =>
      split at stepped
      next => cases stepped
      next slept =>
        split at stepped <;> cases stepped
        next grows => exact .wake at_ does (Nat.not_lt.mp slept) grows
        next outside => exact .overflow at_ does (Nat.not_lt.mp slept) outside
    next => cases stepped

/-! ## What a call has recorded -/

abbrev Record (α ε : Type) := List (Moment α ε × Unit)

def isFailure (e : Moment α ε × Unit) : Bool :=
  match e.1.event with
  | .recordFailure => true
  | _ => false

/-- The failed attempts of this call. -/
def failedAttempts (h : Record α ε) : Nat := h.countP isFailure

/-- The time at which the latest of them was recorded. -/
def failedAt (h : Record α ε) : Option Nat := (h.find? isFailure).map (·.1.time)

theorem failedAttempts_cons (m : Moment α ε) (h : Record α ε) :
    failedAttempts ((m, ()) :: h) = failedAttempts h + if isFailure (m, ()) then 1 else 0 := by
  simp [failedAttempts, List.countP_cons]

theorem failedAt_cons (m : Moment α ε) (h : Record α ε) :
    failedAt ((m, ()) :: h) = if isFailure (m, ()) then some m.time else failedAt h := by
  cases failure : isFailure (m, ()) <;> simp [failedAt, failure]

/-- From `before` the operation was called at time `t`. -/
def Calls (h : Record α ε) (t : Nat) (before : Record α ε) : Prop :=
  ∃ after result, h = after ++ (⟨t, .operation result⟩, ()) :: before

/-- Every call of the operation is made at a time at which the circuit does not block. -/
def NeverThroughOpen (config : CircuitBreakerConfig) (retry : RetryConfig) (s : Execution α ε)
    (h : Record α ε) : Prop :=
  ∀ t before s', Calls h t before → Run (Execution.step config retry) s before s' →
    ¬s'.breaker.Blocks config t

/-- Counting from `failures`, one more failure after the other stays below the threshold. -/
def StaysBelow (config : CircuitBreakerConfig) (failures : UInt64) (n : Nat) : Prop :=
  ∀ j, 1 ≤ j → j ≤ n → failures + UInt64.ofNat j < config.failureThreshold

/-- At every call the failures carried over and those of this call stay below the threshold, or the
recovery timeout has elapsed since the failed attempt before. -/
def NeverOpens (config : CircuitBreakerConfig) (carried : UInt64) (h : Record α ε) : Prop :=
  ∀ t before, Calls h t before → StaysBelow config carried (failedAttempts before) ∨
    ∀ r, failedAt before = some r → config.recoveryTimeout ≤ t - r

/-! ## The breaker along the loop -/

/-- What the breaker holds in the loop: the failures carried over plus those of the call, the time
of the latest, and an open circuit if one of them reached the threshold. -/
structure Tracks (config : CircuitBreakerConfig) (carried : UInt64) (h : Record α ε)
    (cb : CircuitBreaker) : Prop where
  failures : cb.state.failures = carried + UInt64.ofNat (failedAttempts h)
  opened : cb.state.isOpen = false ↔ StaysBelow config carried (failedAttempts h)
  latest : 0 < failedAttempts h → cb.state.lastFailureTime = failedAt h ∧ (failedAt h).isSome

theorem tracks_silent {config : CircuitBreakerConfig} {carried : UInt64} {h : Record α ε}
    {cb : CircuitBreaker}
    {m : Moment α ε} (inv : Tracks config carried h cb) (silent : isFailure (m, ()) = false) :
    Tracks config carried ((m, ()) :: h) cb := by
  have count : failedAttempts ((m, ()) :: h) = failedAttempts h := by
    simp [failedAttempts_cons, silent]
  have time : failedAt ((m, ()) :: h) = failedAt h := by simp [failedAt_cons, silent]
  exact ⟨by rw [count]; exact inv.failures, by rw [count]; exact inv.opened,
    by rw [count, time]; exact inv.latest⟩

theorem staysBelow_succ (config : CircuitBreakerConfig) (carried : UInt64) (n : Nat) :
    StaysBelow config carried (n + 1) ↔
      StaysBelow config carried n ∧ carried + UInt64.ofNat (n + 1) < config.failureThreshold := by
  constructor
  · exact fun below => ⟨fun j first small => below j first (by omega),
      below (n + 1) (by omega) (by omega)⟩
  · rintro ⟨before, last⟩ j first small
    rcases Nat.lt_or_eq_of_le small with smaller | rfl
    · exact before j first (by omega)
    · exact last

theorem tracks_failure {config : CircuitBreakerConfig} {carried : UInt64} {h : Record α ε}
    {cb : CircuitBreaker}
    {m : Moment α ε} (inv : Tracks config carried h cb) (failure : isFailure (m, ()) = true) :
    Tracks config carried ((m, ()) :: h) (cb.recordFailure config m.time) := by
  have count : failedAttempts ((m, ()) :: h) = failedAttempts h + 1 := by
    simp [failedAttempts_cons, failure]
  have time : failedAt ((m, ()) :: h) = some m.time := by simp [failedAt_cons, failure]
  have next : cb.state.failures + 1 = carried + UInt64.ofNat (failedAttempts h + 1) := by
    rw [inv.failures, UInt64.ofNat_add, ← UInt64.add_assoc]
    rfl
  refine ⟨by rw [count]; exact next, ?_, fun _ => ⟨by rw [time]; rfl, by rw [time]; rfl⟩⟩
  -- The circuit stays closed if it was, and this failure does not reach the threshold either.
  rw [count, staysBelow_succ, ← inv.opened, ← next]
  simp [CircuitBreaker.recordFailure]

/-- The invariant of the loop, phase by phase. -/
def InLoop (config : CircuitBreakerConfig) (carried : UInt64) (h : Record α ε)
    (s : Execution α ε) : Prop :=
  match s.phase with
  | .checking => failedAttempts h = 0 ∧ s.breaker.state.failures = carried
  | .attempting _ _ | .failed _ _ _ | .sleeping _ _ _ => Tracks config carried h s.breaker
  | _ => True

theorem inLoop_step {config : CircuitBreakerConfig} {retry : RetryConfig} {carried : UInt64}
    {h : Record α ε} {s s' : Execution α ε} {m : Moment α ε} (inv : InLoop config carried h s)
    (pass : Pass config retry s m s') :
    InLoop config carried ((m, ()) :: h) s' := by
  unfold InLoop at inv
  cases pass with
  | allow at_ does allowed =>
    rw [at_] at inv
    obtain ⟨none, carries⟩ := inv
    obtain ⟨closed, kept⟩ := CircuitBreaker.allowRequest_allowed allowed
    -- Being let through closes the circuit and keeps the failures carried over.
    have fresh : Tracks config carried h (s.breaker.allowRequest config m.time).2 := by
      refine ⟨by rw [kept, carries, none]; simp, ?_, by omega⟩
      rw [none]
      exact ⟨fun _ j first small => by omega, fun _ => closed⟩
    exact tracks_silent fresh (by simp [isFailure, does])
  | fail at_ does =>
    rw [at_] at inv
    exact tracks_silent inv (by simp [isFailure, does])
  | sleep at_ does =>
    rw [at_] at inv
    exact tracks_failure inv (by simp [isFailure, does])
  | wake at_ does =>
    rw [at_] at inv
    exact tracks_silent inv (by simp [isFailure, does])
  | reject | succeed | finish | giveUp | overflow => trivial

theorem inLoop {config : CircuitBreakerConfig} {retry : RetryConfig}
    {breaker : CircuitBreaker} {now : Nat} {h : Record α ε} {s : Execution α ε}
    (run : Run (Execution.step config retry) (.start breaker now) h s) :
    InLoop config breaker.state.failures h s := by
  refine run.record_invariant (I := InLoop config breaker.state.failures) ⟨rfl, rfl⟩ ?_
  intro h s m s' _ inv stepped
  exact inLoop_step inv (pass_cases stepped).2

/-- At a call of the operation the breaker is what the loop has made of it. -/
theorem tracks_at_call {config : CircuitBreakerConfig} {retry : RetryConfig}
    {breaker : CircuitBreaker} {now t : Nat}
    {before : Record α ε} {s s' : Execution α ε} {result : Except ε α}
    (run : Run (Execution.step config retry) (.start breaker now) before s)
    (stepped : s.step config retry ⟨t, .operation result⟩ = some (s', ())) :
    Tracks config breaker.state.failures before s.breaker := by
  have inv := inLoop run
  unfold InLoop at inv
  obtain ⟨_, pass⟩ := pass_cases stepped
  -- Of all passes only the two that answer the operation carry this event.
  cases pass with
  | succeed at_ | fail at_ =>
    rw [at_] at inv
    exact inv
  | allow _ does | reject _ does | finish _ does | giveUp _ does | sleep _ does | wake _ does
  | overflow _ does => cases does

/-- Without a failed attempt the circuit is closed; after one it blocks until the timeout has
elapsed. -/
theorem blocks_iff {config : CircuitBreakerConfig} {carried : UInt64} {h : Record α ε}
    {cb : CircuitBreaker} (inv : Tracks config carried h cb) (t : Nat) :
    ¬cb.Blocks config t ↔ StaysBelow config carried (failedAttempts h) ∨
      ∀ r, failedAt h = some r → config.recoveryTimeout ≤ t - r := by
  rw [← inv.opened]
  unfold CircuitBreaker.Blocks CircuitBreaker.elapsed
  cases opened : cb.state.isOpen with
  | false => simp
  | true =>
    -- An open circuit was opened by a failure of this call, so the stored time is its time.
    have reached : 0 < failedAttempts h := by
      refine Nat.pos_of_ne_zero fun none => ?_
      have closed := inv.opened.mpr (by rw [none]; exact fun j first small => by omega)
      rw [opened] at closed
      cases closed
    obtain ⟨stored, some_⟩ := inv.latest reached
    obtain ⟨r, time⟩ := Option.isSome_iff_exists.mp some_
    simp [stored, time]

/-- From every breaker, whatever the operation answers and however long the call sleeps: no call of
the operation goes through an open circuit exactly when no failure of this call opens it, or each
later attempt comes after the recovery timeout. -/
theorem neverThroughOpen_iff {config : CircuitBreakerConfig} {retry : RetryConfig}
    {breaker : CircuitBreaker} {now : Nat} {h : Record α ε} {s : Execution α ε}
    (run : Run (Execution.step config retry) (.start breaker now) h s) :
    NeverThroughOpen config retry (.start breaker now) h ↔
    NeverOpens config breaker.state.failures h := by
  constructor
  · rintro never t before ⟨after, result, rfl⟩
    obtain ⟨mid, next, first, stepped, _⟩ := run.split_step
    exact (blocks_iff (tracks_at_call first stepped) t).mp
      (never t before mid ⟨after, result, rfl⟩ first)
  · rintro never t before s' ⟨after, result, rfl⟩ first
    obtain ⟨mid, next, first', stepped, _⟩ := run.split_step
    obtain rfl := first.unique first'
    exact (blocks_iff (tracks_at_call first stepped) t).mpr (never t before ⟨after, result, rfl⟩)

/-- A retrying call is one client's share of an interleaving: whatever state it leaves the breaker
in is reached by the sections of that client alone. -/
theorem retry_interleaves {Client : Type} [DecidableEq Client] {config : CircuitBreakerConfig}
    {retry : RetryConfig} {history : List (Entry Client)} {reached : System Client}
    (recorded : Interleaving config history reached)
    {c : Client} (idle : reached.place c = .idle) {h : Record α ε} {s : Execution α ε}
    (run : Run (Execution.step config retry) (.start reached.breaker reached.now) h s) :
    ∃ history' reached', Interleaving config history' reached' ∧ reached'.breaker = s.breaker ∧
      reached'.now ≤ s.now ∧ reached'.place = reached.place := by
  refine run.record_invariant (I := fun _ s => ∃ history' reached',
    Interleaving config history' reached' ∧
    reached'.breaker = s.breaker ∧ reached'.now ≤ s.now ∧ reached'.place = reached.place)
    ⟨history, reached, recorded, rfl, Nat.le_refl _, rfl⟩ ?_
  rintro h s m s' _ ⟨history', r, before, same, past, place⟩ stepped
  obtain ⟨later, pass⟩ := pass_cases stepped
  have early : r.now ≤ m.time := Nat.le_trans past later
  have notEarly : ¬m.time < r.now := Nat.not_lt.mpr early
  have at_ : r.place c = .idle := by rw [place, idle]
  have back : Function.update r.place c .idle = r.place := by rw [← at_, Function.update_eq_self]
  cases pass with
  -- The question to the breaker is a read section of the client, and a write section if it is due.
  | allow | reject =>
    obtain ⟨sections, ran, _, _⟩ := allowRequest_run config at_ early
    rw [same] at ran
    exact ⟨_, _, before.append ran, rfl, Nat.le_refl _, place⟩
  | succeed | fail | wake | overflow => exact ⟨history', r, before, same, early, place⟩
  | finish =>
    have recorded : r.step config ⟨c, m.time, .recordSuccess⟩ =
        some (r.moved ⟨c, m.time, .recordSuccess⟩ r.breaker.recordSuccess .idle, none) := by
      simp [System.step, notEarly, at_]
    exact ⟨_, _, .next before recorded, by simp [same], Nat.le_refl _, back.trans place⟩
  | giveUp | sleep =>
    have recorded : r.step config ⟨c, m.time, .recordFailure⟩ =
        some
          (r.moved ⟨c, m.time, .recordFailure⟩ (r.breaker.recordFailure config m.time) .idle, none) := by
      simp [System.step, notEarly, at_]
    exact ⟨_, _, .next before recorded, by simp [same], Nat.le_refl _, back.trans place⟩

/-! ## The fifth failure -/

/-- Earlier requests have failed four times. -/
def fourFailures : List (Entry Nat) := List.replicate 4 (⟨0, 0, .recordFailure⟩, none)

def fourFailed : CircuitBreaker := ⟨⟨4, some 0, false⟩, 0, 0, 4⟩

/-- The first attempt fails as well; the second is made a tenth of a second later. -/
def fifthFailure : Record Unit Unit :=
  [(⟨100000001, .operation (.ok ())⟩, ()), (⟨100000001, .wake 0⟩, ()), (⟨1, .recordFailure⟩, ()),
   (⟨1, .operation (.error ())⟩, ()), (⟨1, .allowRequest⟩, ())]

theorem fourFailed_reached : ∃ s : System Nat, Interleaving default fourFailures s ∧
    s.breaker = fourFailed ∧ s.now = 0 :=
  ⟨_, .next (.next (.next (.next .start rfl) rfl) rfl) rfl, rfl, rfl⟩

theorem fifthFailure_run : ∃ s, Run (Execution.step default default)
    (.start fourFailed 0) fifthFailure s :=
  ⟨_, .next (.next (.next (.next (.next .start rfl) rfl) rfl) rfl) rfl⟩

theorem neverThroughOpen_iff_fifth :
    NeverThroughOpen default default (.start fourFailed 0) fifthFailure ↔
    NeverOpens default 4 fifthFailure := by
  obtain ⟨s, run⟩ := fifthFailure_run
  exact neverThroughOpen_iff run

/-- With the default settings the second attempt goes through the circuit that the first has
opened. -/
theorem fifthFailure_throughOpen :
    (∃ s : System Nat, Interleaving default fourFailures s ∧ s.breaker = fourFailed ∧ s.now = 0) ∧
    (∃ s, Run (Execution.step default default) (.start fourFailed 0) fifthFailure s) ∧
    ¬NeverThroughOpen default default (.start fourFailed 0) fifthFailure := by
  refine ⟨fourFailed_reached, fifthFailure_run, fun never => ?_⟩
  refine never 100000001 fifthFailure.tail _ ⟨[], .ok (), rfl⟩
    (.next (.next (.next (.next .start rfl) rfl) rfl) rfl) ?_
  exact ⟨rfl, rfl⟩

end FlussGateway.Resilience
