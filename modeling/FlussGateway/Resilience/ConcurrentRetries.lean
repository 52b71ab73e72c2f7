import FlussGateway.Foundation.Tally
import FlussGateway.Resilience.Attempts
import FlussGateway.Resilience.History

/-!
# Retrying calls that share a breaker

Any number of calls of `execute_with_retry` go on side by side, interleaved at the sections of the
breaker and the answers of their operations. Each keeps to its own budget, and the breaker's
counters tell how the calls have fared.
-/
namespace FlussGateway.Resilience

open FlussGateway.Foundation

variable {Client α ε : Type}

/-- An event of one call: a section of the breaker, an answer of the operation, the end of a sleep. -/
inductive CallEvent (α ε : Type) where
  | locked (action : Action)
  | operation (result : Except ε α)
  | wake (draw : UInt64)

structure CallMoment (Client α ε : Type) where
  caller : Client
  time : Nat
  event : CallEvent α ε

def rejection : String := "circuit breaker is open, request rejected"

def overflow : String := "overflow in the backoff arithmetic"

/-- What a call goes on with after an event, told the answer of `allow_request`. -/
def Phase.follow (retry : RetryConfig) (time : Nat) (answer : Option Bool) :
    Phase α ε → CallEvent α ε → Option (Phase α ε)
  | .checking, .locked .allowRead | .checking, .locked .allowWrite
  | .checking, .locked .allowReject =>
    match answer with
    | none => some .checking
    | some true => some (.attempting 0 retry.initialBackoff)
    | some false => some (.panicked rejection)
  | .attempting _ _, .operation (.ok a) => some (.succeeded a)
  | .attempting attempt backoff, .operation (.error e) => some (.failed e attempt backoff)
  | .succeeded a, .locked .recordSuccess => some (.returned (.ok a))
  | .failed e attempt backoff, .locked .recordFailure =>
    let attempt := attempt + 1
    if retry.maxRetries < attempt then some (.returned (.error e))
    else some (.sleeping attempt backoff time)
  | .sleeping attempt backoff since, .wake draw =>
    if time < since + backoff.nanos then none
    else
      match retry.nextBackoff backoff draw with
      | some backoff => some (.attempting attempt backoff)
      | none => some (.panicked overflow)
  | _, _ => none

/-- The breaker with its clock, and where each caller is in its one call. -/
structure Callers (Client α ε : Type) where
  system : System Client
  phase : Client → Phase α ε

abbrev CallEntry (Client α ε : Type) := CallMoment Client α ε × Option Bool

section Run

variable [DecidableEq Client]

namespace Callers

def start : Callers Client α ε := ⟨.start, fun _ => .checking⟩

/-- What an event does to the breaker and its clock. -/
def tick (config : CircuitBreakerConfig) (s : System Client) (m : CallMoment Client α ε) :
    Option (System Client × Option Bool) :=
  match m.event with
  | .locked action => s.step config ⟨m.caller, m.time, action⟩
  | .operation _ | .wake _ => if m.time < s.now then none else some ({ s with now := m.time }, none)

def step (config : CircuitBreakerConfig) (retry : RetryConfig) (s : Callers Client α ε)
    (m : CallMoment Client α ε) : Option (Callers Client α ε × Option Bool) := do
  let (system, answer) ← tick config s.system m
  let phase ← (s.phase m.caller).follow retry m.time answer m.event
  return (⟨system, Function.update s.phase m.caller phase⟩, answer)

end Callers

/-- A recorded run of the calls from the creation of their breaker. -/
abbrev Retries (config : CircuitBreakerConfig) (retry : RetryConfig) (h : List (CallEntry Client α ε))
    (s : Callers Client α ε) : Prop :=
  Run (Callers.step config retry) Callers.start h s

theorem callers_step {config : CircuitBreakerConfig} {retry : RetryConfig} {s s' : Callers Client α ε}
    {m : CallMoment Client α ε} {o : Option Bool} (stepped : s.step config retry m = some (s', o)) :
    Callers.tick config s.system m = some (s'.system, o) ∧
    ∃ phase, (s.phase m.caller).follow retry m.time o m.event = some phase ∧
      s'.phase = Function.update s.phase m.caller phase := by
  unfold Callers.step at stepped
  obtain ⟨⟨system, answer⟩, ticked, rest⟩ := Option.bind_eq_some_iff.mp stepped
  obtain ⟨phase, follows, same⟩ := Option.bind_eq_some_iff.mp rest
  cases same
  exact ⟨ticked, phase, follows, rfl⟩

/-! ## The breaker's share -/

/-- The sections of the breaker in a run of the calls. -/
def sections (h : List (CallEntry Client α ε)) : List (Entry Client) :=
  h.filterMap fun e =>
    match e.1.event with
    | .locked action => some (⟨e.1.caller, e.1.time, action⟩, e.2)
    | .operation _ | .wake _ => none

/-- A section needs the clock only to be no later than its own time. -/
theorem step_earlier {config : CircuitBreakerConfig} {s r s' : System Client} {l : Label Client}
    {o : Option Bool} (stepped : s.step config l = some (s', o)) (breaker : r.breaker = s.breaker)
    (place : r.place = s.place) (earlier : r.now ≤ s.now) : r.step config l = some (s', o) := by
  have early : ¬l.time < s.now := Nat.not_lt.mpr (step_cases stepped).1
  have late : ¬l.time < r.now := Nat.not_lt.mpr (Nat.le_trans earlier (step_cases stepped).1)
  have moved : ∀ b p, r.moved l b p = s.moved l b p := by
    intro b p
    rw [System.moved, System.moved, place]
  unfold System.step at stepped ⊢
  rw [if_neg early] at stepped
  rw [if_neg late, place, breaker]
  simpa only [moved] using stepped

/-- The breaker's share of the run is an interleaving of its clients. -/
theorem sections_interleave {config : CircuitBreakerConfig} {retry : RetryConfig}
    {h : List (CallEntry Client α ε)} {s : Callers Client α ε} (run : Retries config retry h s) :
    ∃ r, Interleaving config (sections h) r ∧ r.breaker = s.system.breaker ∧
      r.place = s.system.place ∧ r.now ≤ s.system.now := by
  refine run.record_invariant (I := fun h (s : Callers Client α ε) => ∃ r,
    Interleaving config (sections h) r ∧ r.breaker = s.system.breaker ∧
      r.place = s.system.place ∧ r.now ≤ s.system.now) ⟨_, .start, rfl, rfl, Nat.le_refl _⟩ ?_
  rintro h s m s' o ⟨r, interleaving, breaker, place, earlier⟩ stepped
  obtain ⟨ticked, _, _, _⟩ := callers_step stepped
  unfold Callers.tick at ticked
  obtain ⟨caller, time, event⟩ := m
  cases event with
  | locked action =>
    exact ⟨_, .next interleaving (step_earlier ticked breaker place earlier), rfl, rfl, Nat.le_refl _⟩
  | operation | wake =>
    simp only [Option.ite_none_left_eq_some, Option.some.injEq, Prod.mk.injEq] at ticked
    obtain ⟨later, same, _⟩ := ticked
    rw [← same]
    exact ⟨r, interleaving, breaker, place, Nat.le_trans earlier (Nat.not_lt.mp later)⟩

end Run

/-! ## What one call has recorded -/

def isAttempt (e : CallEntry Client α ε) : Bool :=
  match e.1.event with
  | .operation _ => true
  | _ => false

/-- The section with this action. -/
def isLocked (action : Action) (e : CallEntry Client α ε) : Bool :=
  match e.1.event with
  | .locked other => other = action
  | _ => false

def isDenial (e : CallEntry Client α ε) : Bool :=
  match e.1.event with
  | .locked _ => e.2 = some false
  | _ => false

/-- How often a call has called its operation, recorded a failure, recorded a success and been
denied. -/
structure Tallied (own : List (CallEntry Client α ε)) (attempts failures successes denials : Nat) :
    Prop where
  attempts : own.countP isAttempt = attempts
  failures : own.countP (isLocked .recordFailure) = failures
  successes : own.countP (isLocked .recordSuccess) = successes
  denials : own.countP isDenial = denials

/-- What a call has recorded, phase by phase: `n` attempts have failed before this one. -/
def Share (retry : RetryConfig) (own : List (CallEntry Client α ε)) : Phase α ε → Prop
  | .checking => Tallied own 0 0 0 0
  | .attempting attempt _ =>
    ∃ n ≤ retry.maxRetries.toNat, attempt = UInt32.ofNat n ∧ Tallied own n n 0 0
  | .succeeded _ => ∃ n ≤ retry.maxRetries.toNat, Tallied own (n + 1) n 0 0
  | .failed _ attempt _ =>
    ∃ n ≤ retry.maxRetries.toNat, attempt = UInt32.ofNat n ∧ Tallied own (n + 1) n 0 0
  | .sleeping attempt _ _ =>
    ∃ n ≤ retry.maxRetries.toNat, attempt = UInt32.ofNat n ∧ Tallied own n n 0 0
  | .returned (.ok _) => ∃ n ≤ retry.maxRetries.toNat, Tallied own (n + 1) n 1 0
  | .returned (.error _) =>
    Tallied own (retry.maxRetries.toNat + 1) (retry.maxRetries.toNat + 1) 0 0
  | .panicked msg => msg = rejection ∧ Tallied own 0 0 0 1 ∨
    msg = overflow ∧ ∃ n ≤ retry.maxRetries.toNat, Tallied own n n 0 0

section Share

variable {retry : RetryConfig} {own : List (CallEntry Client α ε)} {phase phase' : Phase α ε}
  {m : CallMoment Client α ε} {o : Option Bool} {attempts failures successes denials : Nat}

/-- Only `allow_request` has an answer. -/
def Answers (m : CallMoment Client α ε) (o : Option Bool) : Prop :=
  o ≠ none → ∃ action, m.event = .locked action ∧ action ≠ .recordSuccess ∧ action ≠ .recordFailure

theorem tallied_locked (tallied : Tallied own attempts failures successes denials) {action : Action}
    (does : m.event = .locked action) : Tallied ((m, o) :: own) attempts
      (failures + if action = .recordFailure then 1 else 0)
      (successes + if action = .recordSuccess then 1 else 0)
      (denials + if o = some false then 1 else 0) := by
  constructor
  · simp [isAttempt, does, tallied.attempts]
  · simp [List.countP_cons, isLocked, does, tallied.failures]
  · simp [List.countP_cons, isLocked, does, tallied.successes]
  · simp [List.countP_cons, isDenial, does, tallied.denials]

theorem tallied_operation (tallied : Tallied own attempts failures successes denials)
    {result : Except ε α} (does : m.event = .operation result) :
    Tallied ((m, none) :: own) (attempts + 1) failures successes denials := by
  constructor
  · simp [isAttempt, does, tallied.attempts]
  · simp [isLocked, does, tallied.failures]
  · simp [isLocked, does, tallied.successes]
  · simp [isDenial, does, tallied.denials]

theorem tallied_wake (tallied : Tallied own attempts failures successes denials) {draw : UInt64}
    (does : m.event = .wake draw) : Tallied ((m, none) :: own) attempts failures successes denials := by
  constructor
  · simp [isAttempt, does, tallied.attempts]
  · simp [isLocked, does, tallied.failures]
  · simp [isLocked, does, tallied.successes]
  · simp [isDenial, does, tallied.denials]

/-- An answer of `allow_request` decides the phase of a call that is checking, and counts if it is a
denial. -/
theorem share_checked (tallied : Tallied own 0 0 0 0) {action : Action} (does : m.event = .locked action)
    (asks : action ≠ .recordFailure ∧ action ≠ .recordSuccess)
    (follows : (match o with
      | none => some .checking
      | some true => some (.attempting 0 retry.initialBackoff)
      | some false => some (.panicked rejection)) = some phase') : Share retry ((m, o) :: own) phase' := by
  have after := tallied_locked (o := o) tallied does
  rw [if_neg asks.1, if_neg asks.2] at after
  split at follows <;> cases follows
  · exact after
  · exact ⟨0, Nat.zero_le _, rfl, after⟩
  · exact .inl ⟨rfl, after⟩

theorem share_step (countable : retry.maxRetries.toNat + 1 < 2 ^ 32) (share : Share retry own phase)
    (answers : Answers m o) (follows : phase.follow retry m.time o m.event = some phase') :
    Share retry ((m, o) :: own) phase' := by
  have silent : ∀ {event : CallEvent α ε}, m.event = event →
      (∀ action, event = .locked action → action = .recordSuccess ∨ action = .recordFailure) →
      o = none := by
    intro event does other
    by_contra some
    obtain ⟨action, locked, success, failure⟩ := answers some
    rcases other action (does.symm.trans locked) with same | same
    · exact success same
    · exact failure same
  unfold Phase.follow at follows
  split at follows
  next does => exact share_checked share does (by decide) follows
  next does => exact share_checked share does (by decide) follows
  next does => exact share_checked share does (by decide) follows
  next does =>
    cases follows
    obtain ⟨n, inside, _, tallied⟩ := share
    rw [silent does nofun]
    exact ⟨n, inside, tallied_operation tallied does⟩
  next does =>
    cases follows
    obtain ⟨n, inside, same, tallied⟩ := share
    rw [silent does nofun]
    exact ⟨n, inside, same, tallied_operation tallied does⟩
  next does =>
    cases follows
    obtain ⟨n, inside, tallied⟩ := share
    rw [silent does fun action same => by cases same; exact .inl rfl]
    exact ⟨n, inside, tallied_locked tallied does⟩
  next does =>
    obtain ⟨n, inside, rfl, tallied⟩ := share
    have exhausted : retry.maxRetries < UInt32.ofNat n + 1 ↔ retry.maxRetries.toNat ≤ n :=
      exhausted_iff (by omega)
    rw [silent does fun action same => by cases same; exact .inr rfl]
    have after := tallied_locked (o := none) tallied does
    dsimp only at follows
    split at follows <;> cases follows
    next spent =>
      obtain rfl := Nat.le_antisymm inside (exhausted.mp spent)
      exact after
    next left =>
      exact ⟨n + 1, Nat.lt_of_not_le (mt exhausted.mpr left), ofNat_succ n, after⟩
  next does =>
    obtain ⟨n, inside, same, tallied⟩ := share
    rw [silent does nofun]
    split at follows
    next => cases follows
    next =>
      split at follows <;> cases follows
      · exact ⟨n, inside, same, tallied_wake tallied does⟩
      · exact .inr ⟨rfl, n, inside, tallied_wake tallied does⟩
  next => cases follows

def Phase.hasSucceeded : Phase α ε → Bool
  | .returned (.ok _) => true
  | _ => false

/-- The call has been refused by the breaker. -/
def Phase.isRejected : Phase α ε → Bool
  | .panicked msg => msg = rejection
  | _ => false

/-- In every phase the call is within its budget, and its successes and denials show in the phase. -/
theorem share_sums (share : Share retry own phase) : ∃ n ≤ retry.maxRetries.toNat + 1, ∃ f ≤ n,
    Tallied own n f (if phase.hasSucceeded then 1 else 0) (if phase.isRejected then 1 else 0) := by
  cases phase with
  | checking => exact ⟨0, Nat.zero_le _, 0, Nat.le_refl _, share⟩
  | attempting =>
    obtain ⟨n, inside, _, tallied⟩ := share
    exact ⟨n, Nat.le_succ_of_le inside, n, Nat.le_refl _, tallied⟩
  | succeeded =>
    obtain ⟨n, inside, tallied⟩ := share
    exact ⟨n + 1, Nat.succ_le_succ inside, n, Nat.le_succ n, tallied⟩
  | failed =>
    obtain ⟨n, inside, _, tallied⟩ := share
    exact ⟨n + 1, Nat.succ_le_succ inside, n, Nat.le_succ n, tallied⟩
  | sleeping =>
    obtain ⟨n, inside, _, tallied⟩ := share
    exact ⟨n, Nat.le_succ_of_le inside, n, Nat.le_refl _, tallied⟩
  | returned result =>
    cases result with
    | ok =>
      obtain ⟨n, inside, tallied⟩ := share
      exact ⟨n + 1, Nat.succ_le_succ inside, n, Nat.le_succ n, tallied⟩
    | error => exact ⟨_, Nat.le_refl _, _, Nat.le_refl _, share⟩
  | panicked msg =>
    obtain ⟨rfl, tallied⟩ | ⟨rfl, n, inside, tallied⟩ := share
    · exact ⟨0, Nat.zero_le _, 0, Nat.le_refl _, by
        simpa [Phase.isRejected, Phase.hasSucceeded] using tallied⟩
    · have other : overflow ≠ rejection := by decide
      exact ⟨n, Nat.le_succ_of_le inside, n, Nat.le_refl _, by
        simpa [Phase.isRejected, Phase.hasSucceeded, other] using tallied⟩

end Share

/-! ## All calls together -/

section Together

variable [DecidableEq Client] {config : CircuitBreakerConfig} {retry : RetryConfig}
  {h : List (CallEntry Client α ε)} {s : Callers Client α ε}

/-- What one caller has done. -/
def entriesOf (c : Client) (h : List (CallEntry Client α ε)) : List (CallEntry Client α ε) :=
  h.filter fun e => e.1.caller = c

def callers (h : List (CallEntry Client α ε)) : Finset Client := (h.map fun e => e.1.caller).toFinset

theorem asks_of_answer {s s' : System Client} {l : Label Client} {o : Option Bool}
    (stepped : s.step config l = some (s', o)) (some : o ≠ none) :
    l.action ≠ .recordSuccess ∧ l.action ≠ .recordFailure := by
  obtain ⟨_, section_⟩ := step_cases stepped
  cases section_ with
  | pass _ does | block _ does | release _ does | reject _ does =>
    rw [does]
    decide
  | recover | miss | success | failure => exact absurd rfl some

theorem answers_of_tick {system system' : System Client} {m : CallMoment Client α ε} {o : Option Bool}
    (ticked : Callers.tick config system m = some (system', o)) : Answers m o := by
  intro some
  unfold Callers.tick at ticked
  split at ticked
  next action does => exact ⟨action, does, asks_of_answer ticked some⟩
  next =>
    split at ticked <;> cases ticked
    exact absurd rfl some
  next =>
    split at ticked <;> cases ticked
    exact absurd rfl some

theorem shares (countable : retry.maxRetries.toNat + 1 < 2 ^ 32) (run : Retries config retry h s)
    (c : Client) : Share retry (entriesOf c h) (s.phase c) := by
  refine run.record_invariant (I := fun h (s : Callers Client α ε) =>
    Share retry (entriesOf c h) (s.phase c)) ⟨rfl, rfl, rfl, rfl⟩ ?_
  intro h s m s' o share stepped
  obtain ⟨ticked, phase, follows, same⟩ := callers_step stepped
  rw [same]
  by_cases own : m.caller = c
  · subst own
    rw [Function.update_self, entriesOf, List.filter_cons_of_pos (by simp)]
    exact share_step countable share (answers_of_tick ticked) follows
  · rw [Function.update_of_ne (Ne.symm own), entriesOf,
      List.filter_cons_of_neg (by simpa using own)]
    exact share

omit [DecidableEq Client] in
theorem countP_sections (p : Entry Client → Bool) (q : CallEntry Client α ε → Bool)
    (locked : ∀ m o action, m.event = .locked action → q (m, o) = p (⟨m.caller, m.time, action⟩, o))
    (other : ∀ m o, (∀ action, m.event ≠ .locked action) → q (m, o) = false) :
    (sections h).countP p = h.countP q := by
  rw [sections, List.countP_filterMap]
  refine List.countP_congr fun e _ => ?_
  obtain ⟨⟨caller, time, event⟩, o⟩ := e
  cases event with
  | locked action => simp [locked ⟨caller, time, .locked action⟩ o action rfl]
  | operation result =>
    simp [other ⟨caller, time, .operation result⟩ o fun _ same => by cases same]
  | wake draw => simp [other ⟨caller, time, .wake draw⟩ o fun _ same => by cases same]

omit [DecidableEq Client] in
theorem count_sections (action : Action) :
    count action (sections h) = h.countP (isLocked action) := by
  refine countP_sections _ _ (fun m o other does => ?_) fun m o never => ?_
  · simp [isLocked, does]
  · unfold isLocked
    split
    next does => exact absurd does (never _)
    next => rfl

omit [DecidableEq Client] in
theorem denied_sections : denied (sections h) = h.countP isDenial := by
  refine countP_sections _ _ (fun m o action does => ?_) fun m o never => ?_
  · simp [isDenial, does]
  · unfold isDenial
    split
    next does => exact absurd does (never _)
    next => rfl

theorem sum_entriesOf (p : CallEntry Client α ε → Bool) :
    h.countP p = ∑ c ∈ callers h, (entriesOf c h).countP p :=
  Tally.countP_sum (fun e : CallEntry Client α ε => e.1.caller) p fun _ member =>
    List.mem_toFinset.mpr (List.mem_map_of_mem member)

/-- What the calls have recorded, one by one and on the breaker that they share. -/
structure CallsAccount (config : CircuitBreakerConfig) (retry : RetryConfig)
    (h : List (CallEntry Client α ε)) (s : Callers Client α ε) : Prop where
  each : ∀ c, Share retry (entriesOf c h) (s.phase c)
  budget : ∀ c, (entriesOf c h).countP isAttempt ≤ retry.maxRetries.toNat + 1
  successes : s.system.breaker.successCount.toNat =
    ((callers h).filter fun c => (s.phase c).hasSucceeded).card
  rejections : s.system.breaker.blockedCount.toNat =
    ((callers h).filter fun c => (s.phase c).isRejected).card
  failures : s.system.breaker.failureCount.toNat =
    ∑ c ∈ callers h, (entriesOf c h).countP (isLocked .recordFailure)
  summary : Summary config (sections h) s.system.breaker

/-- Any number of calls on one breaker, interleaved in any order of their sections and for any
answers of their operations: each call has made at most its attempts, and the breaker's counters are
the calls that have succeeded, the calls that it has refused and the failures of all calls. -/
theorem calls_account (countable : retry.maxRetries.toNat + 1 < 2 ^ 32)
    (run : Retries config retry h s) (few : calls (sections h) < 2 ^ 64) :
    CallsAccount config retry h s := by
  obtain ⟨r, interleaving, breaker, _, _⟩ := sections_interleave run
  have summary := summary interleaving few
  rw [breaker] at summary
  have each := shares countable run
  refine ⟨each, fun c => ?_, ?_, ?_, ?_, summary⟩
  · obtain ⟨n, inside, _, _, tallied⟩ := share_sums (each c)
    rw [tallied.attempts]
    exact inside
  · rw [summary.successCount, count_sections, sum_entriesOf, Finset.card_filter]
    refine Finset.sum_congr rfl fun c _ => ?_
    obtain ⟨_, _, _, _, tallied⟩ := share_sums (each c)
    exact tallied.successes
  · rw [summary.blockedCount, denied_sections, sum_entriesOf, Finset.card_filter]
    refine Finset.sum_congr rfl fun c _ => ?_
    obtain ⟨_, _, _, _, tallied⟩ := share_sums (each c)
    exact tallied.denials
  · rw [summary.failureCount, count_sections, sum_entriesOf]

end Together

/-- The failure of one call opens the circuit, and the other is refused. -/
def sharedBreaker : List (CallEntry Nat String String) :=
  [(⟨1, 6, .locked .allowRead⟩, some false), (⟨0, 5, .locked .recordFailure⟩, none),
   (⟨0, 4, .operation (.error "unreachable")⟩, none), (⟨0, 0, .locked .allowRead⟩, some true)]

theorem sharedBreaker_run : ∃ s, Retries quickConfig default sharedBreaker s :=
  ⟨_, .next (.next (.next (.next .start rfl) rfl) rfl) rfl⟩

theorem calls_account_sharedBreaker : ∃ s, Retries quickConfig default sharedBreaker s ∧
    CallsAccount quickConfig default sharedBreaker s := by
  obtain ⟨s, run⟩ := sharedBreaker_run
  exact ⟨s, run, calls_account (by decide) run (by decide)⟩

/-! ## A call that is alone -/

section Alone

variable [DecidableEq Client] {config : CircuitBreakerConfig} {retry : RetryConfig} {c : Client}
  {e e' : Execution α ε} {s : Callers Client α ε}

/-- The caller is where a call is that has the breaker to itself. -/
structure Alone (c : Client) (e : Execution α ε) (s : Callers Client α ε) : Prop where
  breaker : s.system.breaker = e.breaker
  now : s.system.now = e.now
  idle : s.system.place c = .idle
  phase : s.phase c = e.phase

theorem callers_locked {system : System Client} {t : Nat} {action : Action} {o : Option Bool}
    {phase : Phase α ε} (stepped : s.system.step config ⟨c, t, action⟩ = some (system, o))
    (follows : (s.phase c).follow retry t o (.locked action) = some phase) :
    s.step config retry ⟨c, t, .locked action⟩ =
      some (⟨system, Function.update s.phase c phase⟩, o) := by
  simp [Callers.step, Callers.tick, stepped, follows]

theorem callers_alone {t : Nat} {event : CallEvent α ε} {phase : Phase α ε}
    (other : ∀ action, event ≠ .locked action) (later : s.system.now ≤ t)
    (follows : (s.phase c).follow retry t none event = some phase) :
    s.step config retry ⟨c, t, event⟩ =
      some (⟨{ s.system with now := t }, Function.update s.phase c phase⟩, none) := by
  have early : ¬t < s.system.now := Nat.not_lt.mpr later
  cases event with
  | locked action => exact absurd rfl (other action)
  | operation | wake => simp [Callers.step, Callers.tick, early, follows]

/-- The call of `allow_request` section by section: the answer comes with the last one. -/
theorem allowRequest_alone {t : Nat} (later : s.system.now ≤ t) (idle : s.system.place c = .idle)
    (checking : s.phase c = .checking) {phase : Phase α ε}
    (follows : (.checking : Phase α ε).follow retry t
      (some (s.system.breaker.allowRequest config t).1) (.locked .allowRead) = some phase) :
    ∃ h s', Run (Callers.step config retry) s h s' ∧
      Alone c ⟨(s.system.breaker.allowRequest config t).2, t, phase⟩ s' := by
  have early : ¬t < s.system.now := Nat.not_lt.mpr later
  rcases CircuitBreaker.allowRequest_cases config s.system.breaker t with ⟨closed, answer⟩ |
    ⟨opened, due, answer⟩ | ⟨blocks, answer⟩
  · rw [answer] at follows ⊢
    have read : s.system.step config ⟨c, t, .allowRead⟩ = some
        (s.system.moved ⟨c, t, .allowRead⟩ s.system.breaker .idle, some true) := by
      simp [System.step, early, idle, CircuitBreaker.readDecision, closed]
    exact ⟨_, _, .next .start (callers_locked read (checking ▸ follows)), rfl, rfl,
      System.moved_place_self .., Function.update_self ..⟩
  -- The write section follows at once and finds the circuit as the read section left it.
  · rw [answer] at follows ⊢
    have read : s.system.step config ⟨c, t, .allowRead⟩ = some
        (s.system.moved ⟨c, t, .allowRead⟩ s.system.breaker .recovering, none) := by
      simp [System.step, early, idle, CircuitBreaker.readDecision, opened, due]
    have asked : s.step config retry ⟨c, t, .locked .allowRead⟩ = _ :=
      callers_locked read (by rw [checking]; rfl)
    have write : (s.system.moved ⟨c, t, .allowRead⟩ s.system.breaker .recovering).step config
        ⟨c, t, .allowWrite⟩ = some ((s.system.moved ⟨c, t, .allowRead⟩ s.system.breaker
          .recovering).moved ⟨c, t, .allowWrite⟩ s.system.breaker.halfOpen .idle, some true) := by
      simp [System.step, System.moved, opened]
    exact ⟨_, _, .next (.next .start asked)
      (callers_locked write (by dsimp only; rw [Function.update_self]; exact follows)), rfl, rfl,
      System.moved_place_self .., Function.update_self ..⟩
  · rw [answer] at follows ⊢
    have read : s.system.step config ⟨c, t, .allowRead⟩ = some
        (s.system.moved ⟨c, t, .allowRead⟩ s.system.breaker.countBlocked .idle, some false) := by
      simp [System.step, early, idle, CircuitBreaker.readDecision, blocks.1, blocks.2]
    exact ⟨_, _, .next .start (callers_locked read (checking ▸ follows)), rfl, rfl,
      System.moved_place_self .., Function.update_self ..⟩

/-- One section that records an outcome. -/
theorem record_alone (alone : Alone c e s) {t : Nat} {action : Action} {breaker : CircuitBreaker}
    {phase : Phase α ε} (records : s.system.step config ⟨c, t, action⟩ =
      some (s.system.moved ⟨c, t, action⟩ breaker .idle, none))
    (follows : e.phase.follow retry t none (.locked action) = some phase) :
    ∃ h s', Run (Callers.step config retry) s h s' ∧ Alone c ⟨breaker, t, phase⟩ s' :=
  ⟨_, _, .next .start (callers_locked records (alone.phase ▸ follows)), rfl, rfl,
    System.moved_place_self .., Function.update_self ..⟩

/-- An event that leaves the breaker alone. -/
theorem event_alone (alone : Alone c e s) {t : Nat} (later : s.system.now ≤ t)
    (event : CallEvent α ε) {phase : Phase α ε} (other : ∀ action, event ≠ .locked action)
    (follows : e.phase.follow retry t none event = some phase) :
    ∃ h s', Run (Callers.step config retry) s h s' ∧ Alone c ⟨e.breaker, t, phase⟩ s' :=
  ⟨_, _, .next .start (callers_alone other later (alone.phase ▸ follows)), alone.breaker, rfl,
    alone.idle, Function.update_self ..⟩

/-- Each event of a call that is alone is a few steps of the calls together. -/
theorem step_alone {m : Moment α ε} (alone : Alone c e s)
    (stepped : e.step config retry m = some (e', ())) :
    ∃ h s', Run (Callers.step config retry) s h s' ∧ Alone c e' s' := by
  obtain ⟨later, pass⟩ := pass_cases stepped
  rw [← alone.now] at later
  have early : ¬m.time < s.system.now := Nat.not_lt.mpr later
  have succeeds : s.system.step config ⟨c, m.time, .recordSuccess⟩ = some (s.system.moved
      ⟨c, m.time, .recordSuccess⟩ e.breaker.recordSuccess .idle, none) := by
    simp [System.step, early, alone.idle, alone.breaker]
  have fails : s.system.step config ⟨c, m.time, .recordFailure⟩ = some (s.system.moved
      ⟨c, m.time, .recordFailure⟩ (e.breaker.recordFailure config m.time) .idle, none) := by
    simp [System.step, early, alone.idle, alone.breaker]
  cases pass with
  | allow at_ _ allowed | reject at_ _ allowed =>
    rw [← alone.breaker] at allowed ⊢
    exact allowRequest_alone later alone.idle (alone.phase.trans at_) (by rw [allowed]; rfl)
  | @succeed _ _ a at_ =>
    exact event_alone alone later (.operation (.ok a)) (fun _ same => by cases same)
      (by rw [at_]; rfl)
  | @fail _ _ error at_ =>
    exact event_alone alone later (.operation (.error error))
      (fun _ same => by cases same) (by rw [at_]; rfl)
  | finish at_ => exact record_alone alone succeeds (by rw [at_]; rfl)
  | giveUp at_ _ spent =>
    exact record_alone alone fails (by rw [at_]; exact if_pos spent)
  | sleep at_ _ left =>
    exact record_alone alone fails (by rw [at_]; exact if_neg left)
  | @wake attempt backoff next since draw at_ _ slept grows =>
    refine event_alone alone later (.wake draw) (fun _ same => by cases same) ?_
    rw [at_]
    simp [Phase.follow, Nat.not_lt.mpr slept, grows]
  | @overflow attempt backoff since draw at_ _ slept outside =>
    refine event_alone alone later (.wake draw) (fun _ same => by cases same) ?_
    rw [at_]
    simp [Phase.follow, Nat.not_lt.mpr slept, outside, overflow]

/-- A call that is alone is a call among the others that nobody interrupts. -/
theorem run_alone {h : Record α ε} (run : Run (Execution.step config retry) (.start .new 0) h e) :
    ∃ h s, Retries config retry h s ∧ Alone c e s := by
  refine run.record_invariant (I := fun _ e => ∃ h s, Retries config retry h s ∧ Alone c e s)
    ⟨[], _, .start, rfl, rfl, rfl, rfl⟩ ?_
  rintro _ e m e' ⟨⟩ ⟨h, s, before, alone⟩ stepped
  obtain ⟨after, s', next, alone⟩ := step_alone alone stepped
  exact ⟨after ++ h, s', before.append next, alone⟩

end Alone

end FlussGateway.Resilience
