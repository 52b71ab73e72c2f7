import FlussGateway.Resilience.Interleaving

/-!
# The half-open phase

A write section that finds the circuit open closes it for the sake of one probe. Nothing marks
the phase that follows: until the next result is recorded the circuit is simply closed, and
lets through every call that begins.
-/
namespace FlussGateway.Resilience

open FlussGateway.Foundation

variable {Client : Type} [DecidableEq Client]

abbrev Entry (Client : Type) := Label Client × Option Bool

/-- A recorded interleaving from the creation of the breaker. -/
abbrev Interleaving (config : CircuitBreakerConfig) (h : List (Entry Client)) (s : System Client) : Prop :=
  Run (System.step config) System.start h s

def isRecord (e : Entry Client) : Bool := e.1.action = .recordSuccess || e.1.action = .recordFailure

/-- The section moves an open circuit to half-open. -/
def Releases (e : Entry Client) : Prop := e.1.action = .allowWrite ∧ e.2 = some true

/-- `a` happens in the half-open phase that `w` begins: no result has been recorded in between. -/
def InPhase (h : List (Entry Client)) (w a : Entry Client) : Prop :=
  ∃ after mid before, h = after ++ a :: (mid ++ w :: before) ∧ Releases w ∧ ∀ e ∈ mid, isRecord e = false

/-- No other `allow_request` returns true in a half-open phase. -/
def SingleProbe (h : List (Entry Client)) : Prop := ∀ w a, InPhase h w a → a.2 ≠ some true

/-- No other `allow_request` begins in a half-open phase. -/
def NoEntry (h : List (Entry Client)) : Prop := ∀ w a, InPhase h w a → a.1.action ≠ .allowRead

theorem closed_step {config : CircuitBreakerConfig} {s s' : System Client} {l : Label Client} {o : Option Bool}
    (silent : isRecord (l, o) = false) (closed : s.breaker.state.isOpen = false)
    (stepped : s.step config l = some (s', o)) : s'.breaker.state.isOpen = false := by
  obtain ⟨_, section_⟩ := step_cases stepped
  cases section_ with
  | pass | recover | block | miss | reject => exact closed
  | release => rfl
  | success _ does | failure _ does => simp [isRecord, does] at silent

theorem release_cases {config : CircuitBreakerConfig} {s s' : System Client} {l : Label Client} {o : Option Bool}
    (releases : Releases (l, o)) (stepped : s.step config l = some (s', o)) :
    s.place l.client = .recovering ∧ s.breaker.state.isOpen = true ∧ s' = s.moved l s.breaker.halfOpen .idle := by
  obtain ⟨does, answer⟩ := releases
  obtain ⟨_, section_⟩ := step_cases stepped
  cases section_ with
  | release at_ _ opened => exact ⟨at_, opened, rfl⟩
  | pass _ other => rw [does] at other; cases other
  | recover | block | miss | reject | success | failure => cases answer

/-- Throughout a half-open phase the circuit is closed. -/
theorem phase_closed {config : CircuitBreakerConfig} {h : List (Entry Client)} {s : System Client}
    (run : Interleaving config h s) {w a : Entry Client} (phase : InPhase h w a) :
    ∃ t t', t.breaker.state.isOpen = false ∧ System.step config t a.1 = some (t', a.2) := by
  obtain ⟨after, mid, before, rfl, releases, silent⟩ := phase
  -- `t` is the state at `a`; the phase begins in a state that the release has just closed.
  obtain ⟨t, t', first, stepped, _⟩ := run.split_step
  obtain ⟨_, next, _, released, rest⟩ := first.split_step
  obtain ⟨_, _, rfl⟩ := release_cases releases released
  refine ⟨t, t', ?_, stepped⟩
  exact rest.invariant (P := fun e => isRecord e = false) (I := fun s => s.breaker.state.isOpen = false) silent rfl
    fun _ _ _ _ silent closed stepped => closed_step silent closed stepped

/-- On a closed circuit a call is let through exactly in its read section. -/
theorem closed_answer_iff {config : CircuitBreakerConfig} {s s' : System Client} {l : Label Client}
    {o : Option Bool} (closed : s.breaker.state.isOpen = false) (stepped : s.step config l = some (s', o)) :
    o = some true ↔ l.action = .allowRead := by
  obtain ⟨_, section_⟩ := step_cases stepped
  cases section_ with
  | pass _ does | miss _ does | reject _ does | success _ does | failure _ does => simp [does]
  | recover _ _ opened | block _ _ opened | release _ _ opened => rw [closed] at opened; cases opened

/-- Over every interleaving: the half-open circuit admits a single probe exactly when no other
call of `allow_request` begins before the next result is recorded. -/
theorem singleProbe_iff {config : CircuitBreakerConfig} {h : List (Entry Client)} {s : System Client}
    (run : Interleaving config h s) : SingleProbe h ↔ NoEntry h := by
  constructor
  · intro single w a phase begins
    obtain ⟨t, t', closed, stepped⟩ := phase_closed run phase
    exact single w a phase ((closed_answer_iff closed stepped).mpr begins)
  · intro none w a phase admitted
    obtain ⟨t, t', closed, stepped⟩ := phase_closed run phase
    exact none w a phase ((closed_answer_iff closed stepped).mp admitted)

/-! ## Two probes -/

def quickConfig : CircuitBreakerConfig := ⟨1, 10⟩

/-- A failure opens the circuit; ten ticks later the first client is let through, then the second. -/
def twoProbes : List (Entry Nat) :=
  [(⟨2, 11, .allowRead⟩, some true), (⟨1, 10, .allowWrite⟩, some true), (⟨1, 10, .allowRead⟩, none),
   (⟨0, 0, .recordFailure⟩, none)]

theorem twoProbes_run : ∃ s, Interleaving quickConfig twoProbes s :=
  ⟨_, .next (.next (.next (.next .start rfl) rfl) rfl) rfl⟩

theorem singleProbe_iff_twoProbes : SingleProbe twoProbes ↔ NoEntry twoProbes := by
  obtain ⟨s, run⟩ := twoProbes_run
  exact singleProbe_iff run

theorem twoProbes_not_single : (∃ s, Interleaving quickConfig twoProbes s) ∧ ¬SingleProbe twoProbes := by
  refine ⟨twoProbes_run, fun single => ?_⟩
  exact single (⟨1, 10, .allowWrite⟩, some true) (⟨2, 11, .allowRead⟩, some true)
    ⟨[], [], [(⟨1, 10, .allowRead⟩, none), (⟨0, 0, .recordFailure⟩, none)], rfl, ⟨rfl, rfl⟩, by simp⟩ rfl

end FlussGateway.Resilience
