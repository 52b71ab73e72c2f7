import FlussGateway.Resilience.HalfOpen
import Mathlib.Algebra.Ring.Nat

/-!
# The breaker as a summary of its history

Every field of the breaker is a function of what has been recorded, as long as fewer calls
than a 64-bit counter can count have been made.
-/
namespace FlussGateway.Resilience

open FlussGateway.Foundation

variable {Client : Type}

/-! ## Functions of a history -/

def count (action : Action) (h : List (Entry Client)) : Nat := h.countP fun e => e.1.action = action

/-- The failures recorded since the last success. -/
def failuresSince (h : List (Entry Client)) : Nat :=
  count .recordFailure (h.takeWhile fun e => e.1.action ≠ .recordSuccess)

/-- The time of the latest failure, if one was ever recorded. -/
def latestFailure (h : List (Entry Client)) : Option Nat :=
  (h.find? fun e => e.1.action = .recordFailure).map (·.1.time)

/-- The calls of `allow_request` that returned false. -/
def denied (h : List (Entry Client)) : Nat := h.countP fun e => e.2 = some false

/-- The calls begun: each begins with its first section. -/
def calls (h : List (Entry Client)) : Nat :=
  count .allowRead h + count .recordSuccess h + count .recordFailure h

theorem count_cons (action : Action) (l : Label Client) (o : Option Bool) (h : List (Entry Client)) :
    count action ((l, o) :: h) = count action h + if l.action = action then 1 else 0 := by
  simp [count, List.countP_cons]

theorem calls_mono (l : Label Client) (o : Option Bool) (h : List (Entry Client)) : calls h ≤ calls ((l, o) :: h) := by
  simp only [calls, count_cons]
  omega

theorem failuresSince_le (h : List (Entry Client)) : failuresSince h ≤ count .recordFailure h :=
  (List.takeWhile_sublist _).countP_le

theorem failuresSince_cons (l : Label Client) (o : Option Bool) (h : List (Entry Client)) :
    failuresSince ((l, o) :: h) =
      if l.action = .recordSuccess then 0
      else failuresSince h + if l.action = .recordFailure then 1 else 0 := by
  by_cases success : l.action = .recordSuccess
  · simp [failuresSince, count, success]
  · simp [failuresSince, success, count_cons]

theorem failuresSince_silent (mid before : List (Entry Client)) (silent : ∀ e ∈ mid, isRecord e = false) :
    failuresSince (mid ++ before) = failuresSince before := by
  induction mid with
  | nil => rfl
  | cons e mid ih =>
    have quiet := silent e (List.mem_cons_self ..)
    simp only [isRecord, Bool.or_eq_false_iff, decide_eq_false_iff_not] at quiet
    rw [List.cons_append, failuresSince_cons, if_neg quiet.1, if_neg quiet.2,
      ih fun e member => silent e (List.mem_cons_of_mem _ member)]
    rfl

theorem latestFailure_cons (l : Label Client) (o : Option Bool) (h : List (Entry Client)) :
    latestFailure ((l, o) :: h) = if l.action = .recordFailure then some l.time else latestFailure h := by
  by_cases failed : l.action = .recordFailure <;> simp [latestFailure, failed]

theorem denied_cons (l : Label Client) (o : Option Bool) (h : List (Entry Client)) :
    denied ((l, o) :: h) = denied h + if o = some false then 1 else 0 := by
  simp [denied, List.countP_cons]

/-! ## The summary -/

structure Summary (config : CircuitBreakerConfig) (h : List (Entry Client)) (cb : CircuitBreaker) : Prop where
  failures : cb.state.failures.toNat = failuresSince h
  lastFailureTime : cb.state.lastFailureTime = latestFailure h
  opened : cb.state.isOpen = true →
    max 1 config.failureThreshold.toNat ≤ cb.state.failures.toNat ∧ cb.state.lastFailureTime.isSome
  successCount : cb.successCount.toNat = count .recordSuccess h
  failureCount : cb.failureCount.toNat = count .recordFailure h
  blockedCount : cb.blockedCount.toNat = denied h

/-- The circuit right after a result was recorded. -/
structure AfterRecord (config : CircuitBreakerConfig) (h : List (Entry Client)) (cb : CircuitBreaker) : Prop where
  failure : ∀ e before, h = e :: before → e.1.action = .recordFailure →
    config.failureThreshold.toNat ≤ cb.state.failures.toNat → cb.state.isOpen = true
  success : ∀ e before, h = e :: before → e.1.action = .recordSuccess → cb.state.isOpen = false
  /-- One failure ends a half-open phase with the circuit open, whatever the threshold. -/
  probe : ∀ e mid w before, h = e :: (mid ++ w :: before) → Releases w → (∀ e ∈ mid, isRecord e = false) →
    e.1.action = .recordFailure → cb.state.isOpen = true

theorem toNat_succ {n : UInt64} {k : Nat} (same : n.toNat = k) (small : k + 1 < 2 ^ 64) :
    (n + 1).toNat = k + 1 := by
  rw [UInt64.toNat_add, same, UInt64.toNat_one, Nat.mod_eq_of_lt small]

theorem summary_start (config : CircuitBreakerConfig) : Summary config ([] : List (Entry Client)) .new where
  failures := rfl
  lastFailureTime := rfl
  opened := nofun
  successCount := rfl
  failureCount := rfl
  blockedCount := rfl

theorem summary_success {config : CircuitBreakerConfig} {h : List (Entry Client)} {cb : CircuitBreaker}
    {l : Label Client} (inv : Summary config h cb) (does : l.action = .recordSuccess)
    (room : count .recordSuccess h + 1 < 2 ^ 64) : Summary config ((l, none) :: h) cb.recordSuccess where
  failures := by simp [CircuitBreaker.recordSuccess, failuresSince_cons, does]
  lastFailureTime := by simp [CircuitBreaker.recordSuccess, latestFailure_cons, does, inv.lastFailureTime]
  opened := nofun
  successCount := by
    rw [count_cons, if_pos does]
    exact toNat_succ inv.successCount room
  failureCount := by simp [CircuitBreaker.recordSuccess, count_cons, does, inv.failureCount]
  blockedCount := by simp [CircuitBreaker.recordSuccess, denied_cons, inv.blockedCount]

theorem summary_failure {config : CircuitBreakerConfig} {h : List (Entry Client)} {cb : CircuitBreaker}
    {l : Label Client} (inv : Summary config h cb) (does : l.action = .recordFailure)
    (room : count .recordFailure h + 1 < 2 ^ 64) :
    Summary config ((l, none) :: h) (cb.recordFailure config l.time) := by
  have fewer := failuresSince_le h
  have failures : (cb.state.failures + 1).toNat = failuresSince h + 1 :=
    toNat_succ inv.failures (by omega)
  constructor
  · simpa [CircuitBreaker.recordFailure, failuresSince_cons, does] using failures
  · simp [CircuitBreaker.recordFailure, latestFailure_cons, does]
  · intro opened
    refine ⟨?_, rfl⟩
    show max 1 config.failureThreshold.toNat ≤ (cb.state.failures + 1).toNat
    simp only [CircuitBreaker.recordFailure, Bool.or_eq_true, decide_eq_true_eq] at opened
    -- The circuit was open before, or this failure reaches the threshold.
    rcases opened with before | reached
    · have enough := (inv.opened before).1
      rw [inv.failures] at enough
      omega
    · have enough := UInt64.le_iff_toNat_le.mp reached
      omega
  · simp [CircuitBreaker.recordFailure, count_cons, does, inv.successCount]
  · rw [count_cons, if_pos does]
    exact toNat_succ inv.failureCount room
  · simp [CircuitBreaker.recordFailure, denied_cons, inv.blockedCount]

/-- A section of `allow_request` that lets the call through or lets it go on. -/
theorem summary_undecided {config : CircuitBreakerConfig} {h : List (Entry Client)} {cb : CircuitBreaker}
    {l : Label Client} {o : Option Bool} (inv : Summary config h cb) (silent : isRecord (l, o) = false)
    (answer : o ≠ some false) : Summary config ((l, o) :: h) cb := by
  simp only [isRecord, Bool.or_eq_false_iff, decide_eq_false_iff_not] at silent
  constructor
  · simp [failuresSince_cons, silent, inv.failures]
  · simp [latestFailure_cons, silent, inv.lastFailureTime]
  · exact inv.opened
  · simp [count_cons, silent, inv.successCount]
  · simp [count_cons, silent, inv.failureCount]
  · simp [denied_cons, answer, inv.blockedCount]

theorem summary_halfOpen {config : CircuitBreakerConfig} {h : List (Entry Client)} {cb : CircuitBreaker}
    (inv : Summary config h cb) : Summary config h cb.halfOpen :=
  { inv with opened := nofun }

theorem summary_blocked {config : CircuitBreakerConfig} {h : List (Entry Client)} {cb : CircuitBreaker}
    {l : Label Client} (inv : Summary config h cb) (silent : isRecord (l, some false) = false)
    (room : denied h + 1 < 2 ^ 64) : Summary config ((l, some false) :: h) cb.countBlocked := by
  simp only [isRecord, Bool.or_eq_false_iff, decide_eq_false_iff_not] at silent
  constructor
  · simp [CircuitBreaker.countBlocked, failuresSince_cons, silent, inv.failures]
  · simp [CircuitBreaker.countBlocked, latestFailure_cons, silent, inv.lastFailureTime]
  · exact inv.opened
  · simp [CircuitBreaker.countBlocked, count_cons, silent, inv.successCount]
  · simp [CircuitBreaker.countBlocked, count_cons, silent, inv.failureCount]
  · rw [denied_cons, if_pos rfl]
    exact toNat_succ inv.blockedCount room

/-! ## Denied calls -/

variable [DecidableEq Client]

/-- Of each client's calls of `allow_request` at most one has not returned yet. -/
theorem denied_client {config : CircuitBreakerConfig} {h : List (Entry Client)} {s : System Client}
    (run : Interleaving config h s) (c : Client) :
    (h.countP fun e => decide (e.2 = some false) && decide (e.1.client = c)) + (if s.place c = .idle then 0 else 1) ≤
      h.countP fun e => decide (e.1.action = .allowRead) && decide (e.1.client = c) := by
  refine run.record_invariant (I := fun h s => (h.countP fun e => decide (e.2 = some false) &&
    decide (e.1.client = c)) + (if s.place c = .idle then 0 else 1) ≤
      h.countP fun e => decide (e.1.action = .allowRead) && decide (e.1.client = c)) (by simp [System.start]) ?_
  intro h s l s' o inv stepped
  obtain ⟨_, section_⟩ := step_cases stepped
  simp only [List.countP_cons]
  -- A call in flight is one read section that has not been answered yet.
  by_cases own : l.client = c
  · subst own
    cases section_ with
    | pass at_ does | recover at_ does | block at_ does | release at_ does | miss at_ does | reject at_ does
    | success at_ does | failure at_ does =>
      simp [at_, does] at inv ⊢
      omega
  · have stays : s'.place c = s.place c := by
      cases section_ <;> exact System.moved_place_other _ _ _ _ (Ne.symm own)
    simp [own, stays] at inv ⊢
    omega

theorem denied_le {config : CircuitBreakerConfig} {h : List (Entry Client)} {s : System Client}
    (run : Interleaving config h s) : denied h ≤ count .allowRead h := by
  refine countP_le_of_keys (fun e : Entry Client => e.1.client) _ _ h fun c => ?_
  have client := denied_client run c
  omega

/-! ## Over a run -/

/-- What one section preserves, as long as its counters have room. -/
theorem summary_step {config : CircuitBreakerConfig} {h : List (Entry Client)} {s s' : System Client}
    {l : Label Client} {o : Option Bool} (inv : Summary config h s.breaker)
    (stepped : s.step config l = some (s', o)) (few : calls ((l, o) :: h) < 2 ^ 64)
    (deniedRoom : denied ((l, o) :: h) < 2 ^ 64) : Summary config ((l, o) :: h) s'.breaker := by
  obtain ⟨_, section_⟩ := step_cases stepped
  simp only [calls, count_cons] at few
  rw [denied_cons] at deniedRoom
  -- Only recorded outcomes and denials move the counters.
  cases section_ with
  | pass _ does | recover _ does | miss _ does =>
    exact summary_undecided inv (by simp [isRecord, does]) (by simp)
  | release _ does => exact summary_undecided (summary_halfOpen inv) (by simp [isRecord, does]) (by simp)
  | block _ does | reject _ does =>
    exact summary_blocked inv (by simp [isRecord, does]) (by simpa using deniedRoom)
  | success _ does =>
    rw [if_pos does] at few
    exact summary_success inv does (by omega)
  | failure _ does =>
    rw [does] at few
    exact summary_failure inv does (by simp at few; omega)

theorem denied_le_calls {config : CircuitBreakerConfig} {h : List (Entry Client)} {s : System Client}
    (run : Interleaving config h s) : denied h ≤ calls h := by
  have bound := denied_le run
  unfold calls
  omega

theorem summary {config : CircuitBreakerConfig} {h : List (Entry Client)} {s : System Client}
    (run : Interleaving config h s) (few : calls h < 2 ^ 64) : Summary config h s.breaker := by
  induction run with
  | start => exact summary_start config
  | @next h mid s' l o before stepped ih =>
    -- Every counter counts calls or answers to calls, so none of them wraps.
    have inv := ih (Nat.lt_of_le_of_lt (calls_mono l o h) few)
    have bound := denied_le_calls (.next before stepped)
    exact summary_step inv stepped few (by omega)

theorem opened_by_failure {config : CircuitBreakerConfig} {h : List (Entry Client)} {e : Entry Client}
    {s : System Client} (run : Interleaving config (e :: h) s) (failed : e.1.action = .recordFailure)
    (reached : config.failureThreshold.toNat ≤ s.breaker.state.failures.toNat) : s.breaker.state.isOpen = true := by
  cases run with
  | next _ stepped =>
    obtain ⟨_, section_⟩ := step_cases stepped
    cases section_ with
    | failure =>
      have enough : config.failureThreshold ≤ _ := UInt64.le_iff_toNat_le.mpr reached
      simp only [System.moved_breaker, CircuitBreaker.recordFailure] at enough ⊢
      simp [enough]
    | pass _ does | recover _ does | block _ does | release _ does | miss _ does | reject _ does
    | success _ does => rw [failed] at does; cases does

theorem closed_by_success {config : CircuitBreakerConfig} {h : List (Entry Client)} {e : Entry Client}
    {s : System Client} (run : Interleaving config (e :: h) s) (succeeded : e.1.action = .recordSuccess) :
    s.breaker.state.isOpen = false := by
  cases run with
  | next _ stepped =>
    obtain ⟨_, section_⟩ := step_cases stepped
    cases section_ with
    | success => rfl
    | pass _ does | recover _ does | block _ does | release _ does | miss _ does | reject _ does
    | failure _ does => rw [succeeded] at does; cases does

omit [DecidableEq Client] in
theorem calls_append (after before : List (Entry Client)) : calls before ≤ calls (after ++ before) := by
  simp only [calls, count, List.countP_append]
  omega

theorem reopened_by_failure {config : CircuitBreakerConfig} {mid before : List (Entry Client)} {w a : Entry Client}
    {s : System Client} (run : Interleaving config (a :: (mid ++ w :: before)) s)
    (few : calls (a :: (mid ++ w :: before)) < 2 ^ 64) (releases : Releases w)
    (silent : ∀ e ∈ mid, isRecord e = false) (failed : a.1.action = .recordFailure) :
    s.breaker.state.isOpen = true := by
  have recorded : Interleaving config ((a :: mid) ++ w :: before) s := run
  obtain ⟨t, t', first, released, _⟩ := recorded.split_step
  -- The circuit was open at the release, so the failures had reached the threshold; none was forgotten since.
  obtain ⟨_, opened, _⟩ := release_cases releases released
  have fewBefore : calls before < 2 ^ 64 := Nat.lt_of_le_of_lt (calls_append (a :: mid ++ [w]) before) (by simpa using few)
  have enough := ((summary first fewBefore).opened opened).1
  rw [(summary first fewBefore).failures] at enough
  have kept : failuresSince (mid ++ w :: before) = failuresSince before := by
    rw [failuresSince_silent mid _ silent, failuresSince_cons, releases.1]
    rfl
  refine opened_by_failure run failed ?_
  rw [(summary run few).failures, failuresSince_cons, failed, kept]
  simp
  omega

/-- In every interleaving of fewer than 2^64 calls the breaker is the summary of its history. -/
theorem breaker_summarizes {config : CircuitBreakerConfig} {h : List (Entry Client)} {s : System Client}
    (run : Interleaving config h s) (few : calls h < 2 ^ 64) :
    Summary config h s.breaker ∧ AfterRecord config h s.breaker := by
  refine ⟨summary run few, ?_, ?_, ?_⟩
  · rintro e before rfl failed reached
    exact opened_by_failure run failed reached
  · rintro e before rfl succeeded
    exact closed_by_success run succeeded
  · rintro e mid w before rfl releases silent failed
    exact reopened_by_failure run few releases silent failed

theorem breaker_summarizes_twoProbes : ∃ s, Interleaving quickConfig twoProbes s ∧
    Summary quickConfig twoProbes s.breaker ∧ AfterRecord quickConfig twoProbes s.breaker := by
  obtain ⟨s, run⟩ := twoProbes_run
  exact ⟨s, run, breaker_summarizes run (by decide)⟩

end FlussGateway.Resilience
