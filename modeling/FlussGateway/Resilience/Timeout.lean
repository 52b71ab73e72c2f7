import FlussGateway.Resilience.HalfOpen

/-!
# Releasing an open circuit

The timeout is compared in the read section of `allow_request`, the circuit is released in a
later write section that looks only at `is_open`. What happened in between decides whether
the timeout has elapsed at the release.
-/
namespace FlussGateway.Resilience

open FlussGateway.Foundation

variable {Client : Type} [DecidableEq Client]

/-- What was recorded after a client's last read section, the newest first. -/
def sinceRead (c : Client) (h : List (Entry Client)) : List (Entry Client) :=
  h.takeWhile fun e => !(e.1.client = c && e.1.action = .allowRead)

/-- At every release the recovery timeout has elapsed since the stored time of the last failure. -/
def TimelyRelease (config : CircuitBreakerConfig) (h : List (Entry Client)) : Prop :=
  ∀ after w before s, h = after ++ w :: before → Releases w → Interleaving config before s →
    ∃ lastFailure, s.breaker.state.lastFailureTime = some lastFailure ∧
      config.recoveryTimeout ≤ w.1.time - lastFailure

/-- At every release, each failure recorded since the releasing call's own read section is at
least the recovery timeout old. -/
def NoFreshFailure (config : CircuitBreakerConfig) (h : List (Entry Client)) : Prop :=
  ∀ after w before, h = after ++ w :: before → Releases w →
    ∀ e ∈ sinceRead w.1.client before, e.1.action = .recordFailure →
      config.recoveryTimeout ≤ w.1.time - e.1.time

/-! ## Invariants -/

/-- Failures lie in the past, and the stored time is the latest of them. -/
structure Dated (h : List (Entry Client)) (s : System Client) : Prop where
  past : ∀ e ∈ h, e.1.time ≤ s.now
  latest : ∀ e ∈ h, e.1.action = .recordFailure →
    ∃ f, s.breaker.state.lastFailureTime = some f ∧ e.1.time ≤ f

/-- A client past its read section has seen the timeout elapse, or a failure came after. -/
def Checked (config : CircuitBreakerConfig) (h : List (Entry Client)) (s : System Client) : Prop :=
  ∀ c, s.place c = .recovering → ∃ f, s.breaker.state.lastFailureTime = some f ∧
    (config.recoveryTimeout ≤ s.now - f ∨
      ∃ e ∈ sinceRead c h, e.1.action = .recordFailure ∧ e.1.time = f)

/-- Only a recorded failure changes the stored time. -/
theorem lastFailure_step {config : CircuitBreakerConfig} {s s' : System Client} {l : Label Client}
    {o : Option Bool} (stepped : s.step config l = some (s', o)) :
    s'.breaker.state.lastFailureTime =
      if l.action = .recordFailure then some l.time else s.breaker.state.lastFailureTime := by
  obtain ⟨_, section_⟩ := step_cases stepped
  cases section_ with
  | failure _ does => simp [does, CircuitBreaker.recordFailure]
  | success _ does => simp [does, CircuitBreaker.recordSuccess]
  | pass _ does | recover _ does | miss _ does => simp [does]
  | block _ does | reject _ does => simp [does, CircuitBreaker.countBlocked]
  | release _ does => simp [does, CircuitBreaker.halfOpen]

theorem now_step {config : CircuitBreakerConfig} {s s' : System Client} {l : Label Client} {o : Option Bool}
    (stepped : s.step config l = some (s', o)) : s.now ≤ l.time ∧ s'.now = l.time := by
  obtain ⟨later, section_⟩ := step_cases stepped
  exact ⟨later, by cases section_ <;> rfl⟩

theorem dated {config : CircuitBreakerConfig} {h : List (Entry Client)} {s : System Client}
    (run : Interleaving config h s) : Dated h s := by
  refine run.record_invariant (I := Dated) ⟨by simp, by simp⟩ ?_
  intro h s l s' o inv stepped
  obtain ⟨later, now⟩ := now_step stepped
  constructor
  · intro e member
    rw [now]
    rcases List.mem_cons.mp member with rfl | member
    · exact Nat.le_refl _
    · exact Nat.le_trans (inv.past e member) later
  · intro e member failed
    rw [lastFailure_step stepped]
    rcases List.mem_cons.mp member with rfl | member
    · exact ⟨l.time, if_pos failed, Nat.le_refl _⟩
    -- A later section may fail too, which only moves the failure time on.
    · split
      next => exact ⟨l.time, rfl, Nat.le_trans (inv.past e member) later⟩
      next => exact inv.latest e member failed

/-- A client comes past its read section by that section alone, with the timeout elapsed. -/
theorem recovering_step {config : CircuitBreakerConfig} {s s' : System Client} {l : Label Client}
    {o : Option Bool} (stepped : s.step config l = some (s', o)) {c : Client} (at_ : s'.place c = .recovering) :
    (s.place c = .recovering ∧ c ≠ l.client) ∨
    (c = l.client ∧ l.action = .allowRead ∧ s.breaker.elapsed config l.time = true) := by
  obtain ⟨_, section_⟩ := step_cases stepped
  by_cases own : c = l.client
  · subst own
    cases section_ with
    | recover _ does _ due => exact .inr ⟨rfl, does, due⟩
    | _ => rw [System.moved_place_self] at at_; cases at_
  · refine .inl ⟨?_, own⟩
    cases section_ <;> rwa [System.moved_place_other _ _ _ _ own] at at_

theorem sinceRead_other {c : Client} {l : Label Client} (other : c ≠ l.client) (o : Option Bool)
    (h : List (Entry Client)) : sinceRead c ((l, o) :: h) = (l, o) :: sinceRead c h := by
  have kept : decide (l.client = c) = false := decide_eq_false (Ne.symm other)
  simp [sinceRead, kept]

theorem checked {config : CircuitBreakerConfig} {h : List (Entry Client)} {s : System Client}
    (run : Interleaving config h s) : Checked config h s := by
  refine run.record_invariant (I := Checked config) (fun c at_ => by cases at_) ?_
  intro h s l s' o inv stepped c at_
  obtain ⟨later, now⟩ := now_step stepped
  rw [lastFailure_step stepped, now]
  -- Either the client has been waiting for its write section, or it read just now.
  rcases recovering_step stepped at_ with ⟨before, other⟩ | ⟨rfl, does, due⟩
  · rw [sinceRead_other other]
    -- A failure in between replaces the stored time, and is on the record.
    split
    next failed => exact ⟨l.time, rfl, .inr ⟨(l, o), List.mem_cons_self .., failed, rfl⟩⟩
    next =>
      obtain ⟨f, stored, elapsed | ⟨e, member, failed, time⟩⟩ := inv c before
      · exact ⟨f, stored, .inl (by omega)⟩
      · exact ⟨f, stored, .inr ⟨e, List.mem_cons_of_mem _ member, failed, time⟩⟩
  · rw [if_neg (by rw [does]; decide)]
    unfold CircuitBreaker.elapsed at due
    split at due
    next f stored => exact ⟨f, stored, .inl (by simpa using due)⟩
    next => cases due

/-! ## Releases in time -/

/-- Over every interleaving: each release happens after the recovery timeout exactly when no
failure recorded since the releasing call's read section is younger than the timeout. -/
theorem timelyRelease_iff {config : CircuitBreakerConfig} {h : List (Entry Client)} {s : System Client}
    (run : Interleaving config h s) : TimelyRelease config h ↔ NoFreshFailure config h := by
  constructor
  · rintro timely after w before rfl releases e member failed
    obtain ⟨t, _, first, _, _⟩ := run.split_step
    obtain ⟨f, stored, elapsed⟩ := timely after w before t rfl releases first
    -- The stored time is no older than any failure on the record.
    obtain ⟨f', stored', latest⟩ := (dated first).latest e (List.takeWhile_subset _ member) failed
    rw [stored, Option.some.injEq] at stored'
    omega
  · rintro none after w before t rfl releases first
    obtain ⟨t', next, first', stepped, _⟩ := run.split_step
    obtain rfl := first.unique first'
    obtain ⟨at_, _, _⟩ := release_cases releases stepped
    obtain ⟨later, _⟩ := now_step stepped
    obtain ⟨f, stored, elapsed | ⟨e, member, failed, time⟩⟩ := checked first _ at_
    · exact ⟨f, stored, by omega⟩
    · have old := none after w before rfl releases e member failed
      exact ⟨f, stored, by omega⟩

/-! ## A release too early -/

/-- The first client finds the timeout elapsed; before it takes the write lock another failure is recorded. -/
def earlyRelease : List (Entry Nat) :=
  [(⟨1, 13, .allowWrite⟩, some true), (⟨2, 12, .recordFailure⟩, none), (⟨1, 10, .allowRead⟩, none),
   (⟨0, 0, .recordFailure⟩, none)]

theorem earlyRelease_run : ∃ s, Interleaving quickConfig earlyRelease s :=
  ⟨_, .next (.next (.next (.next .start rfl) rfl) rfl) rfl⟩

theorem timelyRelease_iff_early :
    TimelyRelease quickConfig earlyRelease ↔ NoFreshFailure quickConfig earlyRelease := by
  obtain ⟨s, run⟩ := earlyRelease_run
  exact timelyRelease_iff run

/-- The circuit is released one tick after the failure at time 12, with a timeout of ten. -/
theorem earlyRelease_not_timely :
    (∃ s, Interleaving quickConfig earlyRelease s) ∧ ¬TimelyRelease quickConfig earlyRelease := by
  refine ⟨earlyRelease_run, fun timely => ?_⟩
  obtain ⟨f, stored, elapsed⟩ := timely [] (⟨1, 13, .allowWrite⟩, some true) _ _ rfl ⟨rfl, rfl⟩
    (.next (.next (.next .start rfl) rfl) rfl)
  have latest : some 12 = some f := stored
  cases latest
  exact absurd elapsed (by decide)

end FlussGateway.Resilience
