import FlussGateway.Resilience.Attempts

/-!
# How long the sleeps are

The sleeps of a call with exact numbers instead of binary64 seconds: each is the one before,
multiplied and capped, and then lengthened by the jitter, which the cap no longer holds.
-/
namespace FlussGateway.Resilience

open FlussGateway.Foundation

variable {α ε : Type}

/-- The milliseconds that a draw adds to a backoff of so many milliseconds. -/
def jitterMs (millis : Nat) (draw : UInt64) : Nat :=
  let jitter := UInt64.ofNat millis / 10
  if 0 < jitter then (draw % jitter).toUInt32.toNat else 0

theorem jitter_toNat {millis : Nat} (small : millis < 2 ^ 64) :
    (UInt64.ofNat millis / 10).toNat = millis / 10 := by
  rw [UInt64.toNat_div, UInt64.toNat_ofNat_of_lt' small]
  rfl

/-- A tenth of less than twenty is no more than one, and every draw is zero modulo one. -/
theorem jitterMs_short {millis : Nat} (short : millis < 20) (draw : UInt64) :
    jitterMs millis draw = 0 := by
  have tenth := jitter_toNat (show millis < 2 ^ 64 by omega)
  unfold jitterMs
  dsimp only
  split
  next pos =>
    have one : UInt64.ofNat millis / 10 = 1 := by
      rw [UInt64.lt_iff_toNat_lt, tenth] at pos
      apply UInt64.toNat_inj.mp
      rw [tenth]
      change 0 < millis / 10 at pos
      show millis / 10 = 1
      omega
    rw [one, UInt64.mod_one]
    rfl
  next => rfl

theorem jitterMs_one {millis : Nat} (long : 20 ≤ millis) (small : millis < 2 ^ 64) :
    jitterMs millis 1 = 1 := by
  have tenth := jitter_toNat small
  have pos : 0 < UInt64.ofNat millis / 10 := by
    rw [UInt64.lt_iff_toNat_lt, tenth]
    exact Nat.div_pos (by omega) (by omega)
  unfold jitterMs
  dsimp only
  rw [if_pos pos, UInt64.toNat_toUInt32, UInt64.toNat_mod, tenth]
  show 1 % (millis / 10) % 2 ^ 32 = 1
  rw [Nat.mod_eq_of_lt (show 1 < millis / 10 by omega)]

/-- The code's backoff in terms of the jitter: capped, lengthened, and converted once more. -/
theorem nextBackoff_eq (retry : RetryConfig) (backoff : Duration) (draw : UInt64) :
    retry.nextBackoff backoff draw =
      (Duration.fromSecsF64 (backoff.asSecsF64 * retry.backoffMultiplier)).bind fun scaled =>
        Duration.ofNanos ((scaled.min retry.maxBackoff).nanos +
          jitterMs (scaled.min retry.maxBackoff).asMillis draw * 10 ^ 6) := by
  unfold RetryConfig.nextBackoff jitterMs
  congr 1
  funext scaled
  dsimp only
  split
  next => simp [Duration.add, Duration.fromMillis]
  next =>
    rw [Nat.zero_mul, Nat.add_zero, Duration.ofNanos, dif_pos (Duration.bounded _)]

/-! ## Exact numbers -/

/-- Settings under which backoffs grow up to a cap. Durations are in milliseconds. -/
structure ExactRetry where
  initialBackoff : ℚ
  maxBackoff : ℚ
  backoffMultiplier : ℚ
  positive : 0 < initialBackoff
  capped : initialBackoff ≤ maxBackoff
  grows : 1 ≤ backoffMultiplier

namespace ExactRetry

def nextBackoff (retry : ExactRetry) (backoff : ℚ) (draw : UInt64) : ℚ :=
  let backoff := min (backoff * retry.backoffMultiplier) retry.maxBackoff
  backoff + jitterMs ⌊backoff⌋₊ draw

/-- The length of the sleep after `n` others. -/
def sleep (retry : ExactRetry) (draws : Nat → UInt64) : Nat → ℚ
  | 0 => retry.initialBackoff
  | n + 1 => retry.nextBackoff (retry.sleep draws n) (draws n)

/-- The same growth without a cap. -/
def growth (retry : ExactRetry) (draws : Nat → UInt64) : Nat → ℚ
  | 0 => retry.initialBackoff
  | n + 1 =>
    let backoff := retry.growth draws n * retry.backoffMultiplier
    backoff + jitterMs ⌊backoff⌋₊ (draws n)

/-- The bounds on the sleep after `n` others. -/
def WithinBounds (retry : ExactRetry) (draws : Nat → UInt64) (n : Nat) : Prop :=
  min (retry.initialBackoff * retry.backoffMultiplier ^ n) retry.maxBackoff ≤ retry.sleep draws n ∧
    retry.sleep draws n ≤ retry.maxBackoff

/-- After `n` sleeps the growth with its jitter is still below the cap, or it is at the cap and the
draw adds nothing to the cap itself. -/
def Fits (retry : ExactRetry) (draws : Nat → UInt64) (n : Nat) : Prop :=
  retry.growth draws (n + 1) ≤ retry.maxBackoff ∨
    retry.maxBackoff ≤ retry.growth draws n * retry.backoffMultiplier ∧
      jitterMs ⌊retry.maxBackoff⌋₊ (draws n) = 0

variable (retry : ExactRetry) (draws : Nat → UInt64)

theorem max_pos : 0 < retry.maxBackoff := retry.positive.trans_le retry.capped

theorem le_sleep (n : Nat) :
    min (retry.initialBackoff * retry.backoffMultiplier ^ n) retry.maxBackoff ≤
      retry.sleep draws n := by
  have one := zero_le_one.trans retry.grows
  induction n with
  | zero => simp [sleep]
  | succ n ih =>
    have scaled := mul_le_mul_of_nonneg_right ih one
    calc min (retry.initialBackoff * retry.backoffMultiplier ^ (n + 1)) retry.maxBackoff
        ≤ min (retry.sleep draws n * retry.backoffMultiplier) retry.maxBackoff := by
          apply le_min _ (min_le_right _ _)
          refine le_trans ?_ scaled
          rw [min_mul_of_nonneg _ _ one, pow_succ, ← mul_assoc]
          exact min_le_min_left _ (le_mul_of_one_le_right retry.max_pos.le retry.grows)
      _ ≤ retry.sleep draws (n + 1) := le_add_of_nonneg_right (Nat.cast_nonneg _)

/-- One more sleep stays within the cap exactly when the growth fits. -/
theorem sleep_succ_le_iff {n : Nat}
    (at_ : retry.sleep draws n = min (retry.growth draws n) retry.maxBackoff) :
    (retry.sleep draws (n + 1) ≤ retry.maxBackoff ↔ retry.Fits draws n) ∧
      (retry.Fits draws n →
        retry.sleep draws (n + 1) = min (retry.growth draws (n + 1)) retry.maxBackoff) := by
  have jitter : ∀ c : ℚ, (0 : ℚ) ≤ jitterMs ⌊c⌋₊ (draws n) := fun _ => Nat.cast_nonneg _
  have scaled : min (retry.sleep draws n * retry.backoffMultiplier) retry.maxBackoff =
      min (retry.growth draws n * retry.backoffMultiplier) retry.maxBackoff := by
    rw [at_, min_mul_of_nonneg _ _ (zero_le_one.trans retry.grows), min_assoc,
      min_eq_right (le_mul_of_one_le_right retry.max_pos.le retry.grows)]
  have next : retry.sleep draws (n + 1) =
      min (retry.growth draws n * retry.backoffMultiplier) retry.maxBackoff +
        jitterMs ⌊min (retry.growth draws n * retry.backoffMultiplier) retry.maxBackoff⌋₊
          (draws n) := by
    rw [← scaled]
    rfl
  have grown : retry.growth draws (n + 1) = retry.growth draws n * retry.backoffMultiplier +
      jitterMs ⌊retry.growth draws n * retry.backoffMultiplier⌋₊ (draws n) := rfl
  rcases lt_or_ge (retry.growth draws n * retry.backoffMultiplier) retry.maxBackoff with
    below | above
  · -- The cap does not hold yet: sleep and growth are the same.
    rw [min_eq_left below.le] at next
    have same : retry.sleep draws (n + 1) = retry.growth draws (n + 1) := next.trans grown.symm
    have fits : retry.Fits draws n ↔ retry.growth draws (n + 1) ≤ retry.maxBackoff :=
      or_iff_left fun late => absurd late.1 (not_le.mpr below)
    refine ⟨by rw [same, fits], fun small => ?_⟩
    rw [same, min_eq_left (fits.mp small)]
  · rw [min_eq_right above] at next
    have still : retry.sleep draws (n + 1) ≤ retry.maxBackoff ↔
        jitterMs ⌊retry.maxBackoff⌋₊ (draws n) = 0 := by
      rw [next, add_le_iff_nonpos_right]
      exact_mod_cast Nat.le_zero
    have fits : retry.Fits draws n ↔ jitterMs ⌊retry.maxBackoff⌋₊ (draws n) = 0 := by
      constructor
      · rintro (small | ⟨_, none⟩)
        · have more := jitter (retry.growth draws n * retry.backoffMultiplier)
          have exact_ : retry.growth draws n * retry.backoffMultiplier = retry.maxBackoff := by
            linarith
          rw [grown, exact_, add_le_iff_nonpos_right] at small
          exact_mod_cast Nat.le_zero.mp (by exact_mod_cast small)
        · exact none
      · exact fun none => .inr ⟨above, none⟩
    refine ⟨still.trans fits.symm, fun small => ?_⟩
    rw [next, fits.mp small, Nat.cast_zero, add_zero, min_eq_right]
    rw [grown]
    exact above.trans (le_add_of_nonneg_right (jitter _))

theorem sleep_eq {n : Nat} (within : ∀ i < n, retry.Fits draws i) :
    retry.sleep draws n = min (retry.growth draws n) retry.maxBackoff := by
  induction n with
  | zero => exact (min_eq_left retry.capped).symm
  | succ n ih =>
    have before := ih fun i small => within i (Nat.lt_succ_of_lt small)
    exact (retry.sleep_succ_le_iff draws before).2 (within n (Nat.lt_succ_self n))

/-- All sleeps are within the bounds exactly when all growth before the last of them fits. -/
theorem withinBounds_iff (N : Nat) :
    (∀ n ≤ N, retry.WithinBounds draws n) ↔ ∀ n < N, retry.Fits draws n := by
  constructor
  · intro within n
    induction n using Nat.strongRecOn with
    | _ n ih =>
      intro small
      have before := retry.sleep_eq draws fun i early => ih i early (early.trans small)
      exact (retry.sleep_succ_le_iff draws before).1.mp (within (n + 1) small).2
  · intro fits n inside
    refine ⟨retry.le_sleep draws n, ?_⟩
    rw [retry.sleep_eq draws fun i early => fits i (Nat.lt_of_lt_of_le early inside)]
    exact min_le_right _ _

/-! ## Whole settings -/

theorem sleep_add_one {n : Nat} (small : retry.maxBackoff < 2 ^ 64)
    (long : 20 ≤ min (retry.sleep (fun _ => 1) n * retry.backoffMultiplier) retry.maxBackoff) :
    retry.sleep (fun _ => 1) (n + 1) =
      min (retry.sleep (fun _ => 1) n * retry.backoffMultiplier) retry.maxBackoff + 1 := by
  have floor : 20 ≤ ⌊min (retry.sleep (fun _ => 1) n * retry.backoffMultiplier)
      retry.maxBackoff⌋₊ := Nat.le_floor (by exact_mod_cast long)
  have bound : ⌊min (retry.sleep (fun _ => 1) n * retry.backoffMultiplier)
      retry.maxBackoff⌋₊ < 2 ^ 64 := by
    apply (Nat.floor_lt (by linarith)).mpr
    exact_mod_cast (min_le_right _ _).trans_lt small
  show min _ _ + ((jitterMs _ 1 : Nat) : ℚ) = _
  rw [jitterMs_one floor bound, Nat.cast_one]

/-- Short backoffs have no jitter. -/
theorem sleep_short {n : Nat}
    (short : min (retry.sleep draws n * retry.backoffMultiplier) retry.maxBackoff < 20) :
    retry.sleep draws (n + 1) =
      min (retry.sleep draws n * retry.backoffMultiplier) retry.maxBackoff := by
  have floor : ⌊min (retry.sleep draws n * retry.backoffMultiplier) retry.maxBackoff⌋₊ < 20 :=
    (Nat.floor_lt' (by omega)).mpr (by exact_mod_cast short)
  show min _ _ + ((jitterMs _ _ : Nat) : ℚ) = _
  rw [jitterMs_short floor, Nat.cast_zero, add_zero]

/-- Where the cap is reached and long enough for a jitter of one millisecond, some draws exceed
it. -/
theorem exceeds_at_cap (small : retry.maxBackoff < 2 ^ 64) (long : 20 ≤ retry.maxBackoff)
    (grows : 1 < retry.backoffMultiplier) :
    ∃ n, retry.maxBackoff < retry.sleep (fun _ => 1) n := by
  -- The growth alone reaches the cap, and the next jitter goes past it.
  obtain ⟨n, reached⟩ := pow_unbounded_of_one_lt (retry.maxBackoff / retry.initialBackoff) grows
  rw [div_lt_iff₀' retry.positive] at reached
  have high : retry.maxBackoff ≤ retry.sleep (fun _ => 1) n := by
    have lower := retry.le_sleep (fun _ => 1) n
    rwa [min_eq_right reached.le] at lower
  have cap : min (retry.sleep (fun _ => 1) n * retry.backoffMultiplier) retry.maxBackoff =
      retry.maxBackoff :=
    min_eq_right (high.trans (le_mul_of_one_le_right (retry.max_pos.le.trans high) retry.grows))
  refine ⟨n + 1, ?_⟩
  rw [retry.sleep_add_one small (by rw [cap]; exact long), cap]
  exact lt_add_one _

/-- Without growth the jitter alone adds up. -/
theorem exceeds_by_jitter (small : retry.maxBackoff < 2 ^ 64) (long : 20 ≤ retry.initialBackoff)
    (constant : retry.backoffMultiplier = 1) :
    ∃ n, retry.maxBackoff < retry.sleep (fun _ => 1) n := by
  by_contra never
  simp only [not_exists, not_lt] at never
  -- Every sleep is one millisecond longer than the one before.
  have adds : ∀ n : Nat, retry.sleep (fun _ => 1) n = retry.initialBackoff + n := by
    intro n
    induction n with
    | zero => simp [sleep]
    | succ n ih =>
      have same : min (retry.sleep (fun _ => 1) n * retry.backoffMultiplier) retry.maxBackoff =
          retry.sleep (fun _ => 1) n := by
        rw [constant, mul_one, min_eq_left (never n)]
      have room : (0 : ℚ) ≤ n := Nat.cast_nonneg n
      rw [retry.sleep_add_one small (by rw [same, ih]; linarith), same, ih]
      push_cast
      ring
  obtain ⟨n, more⟩ := exists_nat_gt retry.maxBackoff
  have late := never n
  have positive := retry.positive
  rw [adds n] at late
  linarith

theorem all_withinBounds_iff (small : retry.maxBackoff < 2 ^ 64) :
    (∀ draws n, retry.WithinBounds draws n) ↔
      retry.maxBackoff < 20 ∨ retry.backoffMultiplier = 1 ∧ retry.initialBackoff < 20 := by
  constructor
  · intro within
    by_contra long
    obtain ⟨wide, other⟩ := not_or.mp long
    have exceeds : ∃ n, retry.maxBackoff < retry.sleep (fun _ => 1) n := by
      -- A draw of one is enough for a long cap, and for a long backoff that does not grow.
      rcases eq_or_lt_of_le retry.grows with constant | grows
      · apply retry.exceeds_by_jitter small _ constant.symm
        exact not_lt.mp fun short => other ⟨constant.symm, short⟩
      · exact retry.exceeds_at_cap small (not_lt.mp wide) grows
    obtain ⟨n, exceeds⟩ := exceeds
    exact absurd (within (fun _ => 1) n).2 (not_le.mpr exceeds)
  · intro short draws n
    refine ⟨retry.le_sleep draws n, ?_⟩
    rcases short with short | ⟨constant, short⟩
    · cases n with
      | zero => exact retry.capped
      | succ n =>
        rw [retry.sleep_short draws ((min_le_right _ _).trans_lt short)]
        exact min_le_right _ _
    -- Without growth and without jitter the backoff stays the first one.
    · have still : retry.sleep draws n = retry.initialBackoff := by
        induction n with
        | zero => rfl
        | succ n ih =>
          have same : min (retry.sleep draws n * retry.backoffMultiplier) retry.maxBackoff =
              retry.initialBackoff := by
            rw [ih, constant, mul_one, min_eq_left retry.capped]
          rw [retry.sleep_short draws (by rw [same]; exact short), same]
      rw [still]
      exact retry.capped

end ExactRetry

/-- In every run of the sleeps, the first `N` are within the bounds exactly when the growth before
each of them fits. Settings keep all their sleeps within the bounds, whatever is drawn, exactly
when the cap is too short for a jitter or nothing ever grows. -/
theorem backoff_bounds (retry : ExactRetry) :
    (∀ draws N, (∀ n ≤ N, retry.WithinBounds draws n) ↔ ∀ n < N, retry.Fits draws n) ∧
      (retry.maxBackoff < 2 ^ 64 → ((∀ draws n, retry.WithinBounds draws n) ↔
        retry.maxBackoff < 20 ∨ retry.backoffMultiplier = 1 ∧ retry.initialBackoff < 20)) :=
  ⟨retry.withinBounds_iff, retry.all_withinBounds_iff⟩

/-! ## The code's sleeps -/

def Duration.millis (d : Duration) : ℚ := d.nanos / 10 ^ 6

theorem millis_min (a b : Duration) : (a.min b).millis = min a.millis b.millis := by
  unfold Duration.min Duration.millis
  split
  next le =>
    rw [min_eq_left]
    gcongr
  next lt =>
    rw [min_eq_right]
    gcongr
    omega

theorem floor_millis (d : Duration) : ⌊d.millis⌋₊ = d.asMillis := by
  unfold Duration.millis Duration.asMillis
  exact_mod_cast Nat.floor_div_eq_div (K := ℚ) d.nanos (10 ^ 6)

/-- The code and the exact numbers agree on a backoff if they agree on the product. -/
theorem nextBackoff_exact {retry : RetryConfig} {exact_ : ExactRetry}
    (cap : retry.maxBackoff.millis = exact_.maxBackoff) {backoff scaled longer : Duration}
    {draw : UInt64}
    (product : Duration.fromSecsF64 (backoff.asSecsF64 * retry.backoffMultiplier) = some scaled)
    (scales : scaled.millis = backoff.millis * exact_.backoffMultiplier)
    (grows : retry.nextBackoff backoff draw = some longer) :
    longer.millis = exact_.nextBackoff backoff.millis draw := by
  rw [nextBackoff_eq, product, Option.bind_some] at grows
  unfold Duration.ofNanos at grows
  split at grows <;> cases grows
  unfold ExactRetry.nextBackoff
  dsimp only
  rw [← scales, ← cap, ← millis_min, floor_millis]
  unfold Duration.millis
  push_cast
  ring

/-- As long as the products of binary64 seconds are exact, the loop sleeps what the exact numbers
say. -/
theorem sleeps_exact {config : CircuitBreakerConfig} {retry : RetryConfig} {exact_ : ExactRetry}
    {script : Script α ε} {breaker : CircuitBreaker} {now : Nat} {h : Record α ε}
    {s : Execution α ε} {attempt : UInt32} {backoff : Duration} {since : Nat}
    (initial : retry.initialBackoff.millis = exact_.initialBackoff)
    (cap : retry.maxBackoff.millis = exact_.maxBackoff)
    (scales : ∀ i < sleeps h, ∀ b,
      backoffs retry.nextBackoff retry.initialBackoff script.draws i = some b →
      ∃ scaled, Duration.fromSecsF64 (b.asSecsF64 * retry.backoffMultiplier) = some scaled ∧
        scaled.millis = b.millis * exact_.backoffMultiplier)
    (countable : Countable retry script)
    (follows : Follows (Execution.step config retry) script breaker now h s)
    (at_ : s.phase = .sleeping attempt backoff since) :
    backoff.millis = exact_.sleep script.draws (sleeps h) := by
  -- By induction on the sleeps: each starts from what the one before ended with.
  have agrees : ∀ n ≤ sleeps h, ∀ b,
      backoffs retry.nextBackoff retry.initialBackoff script.draws n = some b →
        b.millis = exact_.sleep script.draws n := by
    intro n
    induction n with
    | zero =>
      rintro _ b reached
      cases reached
      exact initial
    | succ n ih =>
      rintro inside b reached
      obtain ⟨before, earlier, grows⟩ := Option.bind_eq_some_iff.mp reached
      obtain ⟨scaled, product, exact_product⟩ := scales n inside before earlier
      rw [nextBackoff_exact cap product exact_product grows, ih (by omega) before earlier]
      rfl
  -- The sleep under way is the one the stage of the call tells.
  rw [step_eq_stepWith] at follows
  have stage := stage countable follows.run follows.obeys
  rw [Stage, at_] at stage
  obtain ⟨n, _, _, _, reached, spent, _⟩ := stage
  exact agrees _ (Nat.le_refl _) backoff (spent.sleeps ▸ reached)

/-! ## A jitter past the cap -/

def tight : ExactRetry := ⟨100, 100, 2, by norm_num, by norm_num, by norm_num⟩

theorem backoff_bounds_tight : (∀ draws n, tight.WithinBounds draws n) ↔
    tight.maxBackoff < 20 ∨ tight.backoffMultiplier = 1 ∧ tight.initialBackoff < 20 :=
  (backoff_bounds tight).2 (by norm_num [tight])

def tightRetry : RetryConfig := { (default : RetryConfig) with maxBackoff := .fromMillis 100 }

def nines : Script Unit Unit := ⟨fun _ => .error (), fun _ => 9⟩

def nineLonger : Record Unit Unit :=
  [(⟨100000000, .recordFailure⟩, ()), (⟨100000000, .operation (.error ())⟩, ()),
   (⟨100000000, .wake 9⟩, ()), (⟨0, .recordFailure⟩, ()), (⟨0, .operation (.error ())⟩, ()),
   (⟨0, .allowRequest⟩, ())]

/-- The second sleep is nine milliseconds longer than the longest backoff allowed. -/
theorem tight_exceeds : ¬tight.WithinBounds nines.draws 1 ∧
    ∃ s, Follows (Execution.step default tightRetry) nines .new 0 nineLonger s ∧
      s.phase = .sleeping 2 (.fromMillis 109) 100000000 := by
  constructor
  · have second : tight.sleep nines.draws 1 = 109 := by
      have cap : min ((100 : ℚ) * 2) 100 = 100 := by norm_num
      show min ((100 : ℚ) * 2) 100 + ((jitterMs ⌊min ((100 : ℚ) * 2) 100⌋₊ 9 : Nat) : ℚ) = 109
      rw [cap, Nat.floor_ofNat, show jitterMs 100 9 = 9 from rfl]
      norm_num
    intro within
    have high := within.2
    rw [second] at high
    norm_num [tight] at high
  · refine ⟨_, ⟨.next (.next (.next (.next (.next (.next .start rfl) rfl) rfl) rfl) rfl) rfl, ?_⟩,
      rfl⟩
    simp [nineLonger, Obeys, nines]

end FlussGateway.Resilience
