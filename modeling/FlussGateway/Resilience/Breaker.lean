import Mathlib.Data.List.Basic

/-!
# The circuit breaker

The three operations, cut where they take and release the lock. Counters are 64-bit words
that wrap. Times are readings of one clock.
-/
namespace FlussGateway.Resilience

structure CircuitState where
  failures : UInt64
  lastFailureTime : Option Nat
  isOpen : Bool

structure CircuitBreakerConfig where
  failureThreshold : UInt64
  recoveryTimeout : Nat

/-- Five failures, thirty seconds. -/
instance : Inhabited CircuitBreakerConfig := ⟨⟨5, 30 * 1000000000⟩⟩

structure CircuitBreaker where
  state : CircuitState
  blockedCount : UInt64
  successCount : UInt64
  failureCount : UInt64

namespace CircuitBreaker

def new : CircuitBreaker := ⟨⟨0, none, false⟩, 0, 0, 0⟩

/-- What the read-lock section of `allow_request` decides. -/
inductive ReadDecision where
  | allowed
  | recovering
  | blocked
deriving DecidableEq

/-- The recovery timeout has elapsed since the last failure. -/
def elapsed (config : CircuitBreakerConfig) (cb : CircuitBreaker) (now : Nat) : Bool :=
  match cb.state.lastFailureTime with
  | some lastFailure => config.recoveryTimeout ≤ now - lastFailure
  | none => false

def readDecision (config : CircuitBreakerConfig) (cb : CircuitBreaker) (now : Nat) : ReadDecision :=
  if !cb.state.isOpen then .allowed
  else if cb.elapsed config now then .recovering
  else .blocked

/-- `blocked_count.fetch_add(1)`. -/
def countBlocked (cb : CircuitBreaker) : CircuitBreaker := { cb with blockedCount := cb.blockedCount + 1 }

/-- The write-lock section of `allow_request` on an open circuit. -/
def halfOpen (cb : CircuitBreaker) : CircuitBreaker := { cb with state.isOpen := false }

def recordSuccess (cb : CircuitBreaker) : CircuitBreaker where
  state := { cb.state with failures := 0, isOpen := false }
  blockedCount := cb.blockedCount
  successCount := cb.successCount + 1
  failureCount := cb.failureCount

def recordFailure (config : CircuitBreakerConfig) (cb : CircuitBreaker) (now : Nat) : CircuitBreaker where
  state := {
    failures := cb.state.failures + 1
    lastFailureTime := some now
    isOpen := cb.state.isOpen || config.failureThreshold ≤ cb.state.failures + 1 }
  blockedCount := cb.blockedCount
  successCount := cb.successCount
  failureCount := cb.failureCount + 1

end CircuitBreaker

end FlussGateway.Resilience
