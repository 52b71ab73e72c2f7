import Mathlib

/-!
# The backoff between attempts

Durations, their conversion from and to binary64 seconds, and the backoff that follows a
sleep. Arithmetic that leaves the range of a duration panics, which is `none` here.
-/
namespace FlussGateway.Resilience

/-- Whole nanoseconds of fewer than 2^64 seconds. -/
structure Duration where
  nanos : Nat
  bounded : nanos < 2 ^ 64 * 10 ^ 9
deriving DecidableEq

namespace Duration

def ofNanos (n : Nat) : Option Duration :=
  if small : n < 2 ^ 64 * 10 ^ 9 then some ⟨n, small⟩ else none

def fromMillis (ms : UInt64) : Duration where
  nanos := ms.toNat * 10 ^ 6
  bounded := by have bound := ms.toNat_lt; omega

def asMillis (d : Duration) : Nat := d.nanos / 10 ^ 6

/-- `a + b`. -/
def add (a b : Duration) : Option Duration := ofNanos (a.nanos + b.nanos)

/-- `std::cmp::min`. -/
def min (a b : Duration) : Duration := if a.nanos ≤ b.nanos then a else b

/-- The whole seconds, plus the rest divided by the nanoseconds of a second. -/
def asSecsF64 (d : Duration) : Float :=
  (UInt64.ofNat (d.nanos / 10 ^ 9)).toFloat +
    (UInt64.ofNat (d.nanos % 10 ^ 9)).toFloat / (1000000000 : UInt64).toFloat

/-- A quotient to the nearest whole number, ties to even. -/
def roundHalfEven (num den : Nat) : Nat :=
  if 2 * (num % den) < den then num / den
  else if den < 2 * (num % den) then num / den + 1
  else num / den + num / den % 2

/-- Rounds to the nearest nanosecond. Panics on what is negative, too large or not finite. -/
def fromSecsF64 (secs : Float) : Option Duration :=
  match secs.toModel.unpack with
  | .zero _ => ofNanos 0
  | .finite .positive m e _ => ofNanos (roundHalfEven (m * 2 ^ e.toNat * 10 ^ 9) (2 ^ (-e).toNat))
  | _ => none

end Duration

structure RetryConfig where
  maxRetries : UInt32
  initialBackoff : Duration
  maxBackoff : Duration
  backoffMultiplier : Float

instance : Inhabited RetryConfig where
  default := {
    maxRetries := 3
    initialBackoff := .fromMillis 100
    maxBackoff := .fromMillis 5000
    backoffMultiplier := (2 : UInt64).toFloat }

/-- The backoff after a sleep: multiplied, capped, and lengthened by less than a tenth that
depends on the draw. -/
def RetryConfig.nextBackoff (config : RetryConfig) (backoff : Duration) (draw : UInt64) :
    Option Duration := do
  let scaled ← Duration.fromSecsF64 (backoff.asSecsF64 * config.backoffMultiplier)
  let backoff := scaled.min config.maxBackoff
  let jitter := UInt64.ofNat backoff.asMillis / 10
  if 0 < jitter then
    let jitterMs := (draw % jitter).toUInt32
    backoff.add (.fromMillis jitterMs.toUInt64)
  else some backoff

end FlussGateway.Resilience
