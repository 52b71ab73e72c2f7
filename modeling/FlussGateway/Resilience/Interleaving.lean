import FlussGateway.Foundation.LabelledRun
import FlussGateway.Resilience.Breaker
import Mathlib.Logic.Function.Basic

/-!
# Clients of one breaker

Any number of clients call the breaker, each one call at a time. A step is one section of
a call: one hold of the lock, or the counter update after the write lock is given back. A
label says who steps, when, and which section it is. The clock never goes back.
-/
namespace FlussGateway.Resilience

open FlussGateway.Foundation

inductive Action where
  | allowRead
  | allowWrite
  | allowReject
  | recordSuccess
  | recordFailure
deriving DecidableEq

structure Label (Client : Type) where
  client : Client
  time : Nat
  action : Action

/-- Where a client is: between calls, past the read section of `allow_request`, or past a write
section that found the circuit closed. -/
inductive Place where
  | idle
  | recovering
  | rejecting
deriving DecidableEq

structure System (Client : Type) where
  breaker : CircuitBreaker
  now : Nat
  place : Client → Place

variable {Client : Type} [DecidableEq Client]

namespace System

def start : System Client := ⟨.new, 0, fun _ => .idle⟩

/-- The client moves on, the clock shows the step's time. -/
def moved (s : System Client) (l : Label Client) (breaker : CircuitBreaker) (place : Place) : System Client :=
  ⟨breaker, l.time, Function.update s.place l.client place⟩

/-- One section. The output is what `allow_request` returns, if it returns with this section. -/
def step (config : CircuitBreakerConfig) (s : System Client) (l : Label Client) :
    Option (System Client × Option Bool) :=
  if l.time < s.now then none
  else
    match s.place l.client, l.action with
    | .idle, .allowRead =>
      match s.breaker.readDecision config l.time with
      -- The read section decides alone, or hands over to the write section.
      | .allowed => some (s.moved l s.breaker .idle, some true)
      | .recovering => some (s.moved l s.breaker .recovering, none)
      | .blocked => some (s.moved l s.breaker.countBlocked .idle, some false)
    | .recovering, .allowWrite =>
      -- Someone else may have closed the circuit in between: then the call falls through to the counter.
      if s.breaker.state.isOpen then some (s.moved l s.breaker.halfOpen .idle, some true)
      else some (s.moved l s.breaker .rejecting, none)
    | .rejecting, .allowReject => some (s.moved l s.breaker.countBlocked .idle, some false)
    | .idle, .recordSuccess => some (s.moved l s.breaker.recordSuccess .idle, none)
    | .idle, .recordFailure => some (s.moved l (s.breaker.recordFailure config l.time) .idle, none)
    | _, _ => none

@[simp] theorem moved_breaker (s : System Client) (l : Label Client) (b : CircuitBreaker) (p : Place) :
    (s.moved l b p).breaker = b := rfl

@[simp] theorem moved_now (s : System Client) (l : Label Client) (b : CircuitBreaker) (p : Place) :
    (s.moved l b p).now = l.time := rfl

@[simp] theorem moved_place_self (s : System Client) (l : Label Client) (b : CircuitBreaker) (p : Place) :
    (s.moved l b p).place l.client = p := Function.update_self ..

theorem moved_place_other (s : System Client) (l : Label Client) (b : CircuitBreaker) (p : Place) {c : Client}
    (other : c ≠ l.client) : (s.moved l b p).place c = s.place c := Function.update_of_ne other ..

end System

/-- Everything a step can be. -/
inductive Section (config : CircuitBreakerConfig) (s : System Client) (l : Label Client) :
    System Client → Option Bool → Prop where
  | pass (at_ : s.place l.client = .idle) (does : l.action = .allowRead)
      (closed : s.breaker.state.isOpen = false) : Section config s l (s.moved l s.breaker .idle) (some true)
  | recover (at_ : s.place l.client = .idle) (does : l.action = .allowRead)
      (opened : s.breaker.state.isOpen = true) (due : s.breaker.elapsed config l.time = true) :
      Section config s l (s.moved l s.breaker .recovering) none
  | block (at_ : s.place l.client = .idle) (does : l.action = .allowRead)
      (opened : s.breaker.state.isOpen = true) (early : s.breaker.elapsed config l.time = false) :
      Section config s l (s.moved l s.breaker.countBlocked .idle) (some false)
  | release (at_ : s.place l.client = .recovering) (does : l.action = .allowWrite)
      (opened : s.breaker.state.isOpen = true) :
      Section config s l (s.moved l s.breaker.halfOpen .idle) (some true)
  | miss (at_ : s.place l.client = .recovering) (does : l.action = .allowWrite)
      (closed : s.breaker.state.isOpen = false) : Section config s l (s.moved l s.breaker .rejecting) none
  | reject (at_ : s.place l.client = .rejecting) (does : l.action = .allowReject) :
      Section config s l (s.moved l s.breaker.countBlocked .idle) (some false)
  | success (at_ : s.place l.client = .idle) (does : l.action = .recordSuccess) :
      Section config s l (s.moved l s.breaker.recordSuccess .idle) none
  | failure (at_ : s.place l.client = .idle) (does : l.action = .recordFailure) :
      Section config s l (s.moved l (s.breaker.recordFailure config l.time) .idle) none

theorem step_cases {config : CircuitBreakerConfig} {s s' : System Client} {l : Label Client} {o : Option Bool}
    (stepped : s.step config l = some (s', o)) : s.now ≤ l.time ∧ Section config s l s' o := by
  unfold System.step at stepped
  split at stepped
  next => cases stepped
  next later =>
    refine ⟨Nat.not_lt.mp later, ?_⟩
    split at stepped
    -- The read section: closed, open and not due, or open and due.
    next at_ does =>
      cases opened : s.breaker.state.isOpen with
      | false =>
        simp only [CircuitBreaker.readDecision, opened, Bool.not_false, if_true, Option.some.injEq,
          Prod.mk.injEq] at stepped
        obtain ⟨rfl, rfl⟩ := stepped
        exact .pass at_ does opened
      | true =>
        cases due : s.breaker.elapsed config l.time <;>
          simp only [CircuitBreaker.readDecision, opened, due, Bool.not_true, Bool.false_eq_true, if_false, if_true,
            Option.some.injEq, Prod.mk.injEq] at stepped <;> obtain ⟨rfl, rfl⟩ := stepped
        · exact .block at_ does opened due
        · exact .recover at_ does opened due
    next at_ does =>
      split at stepped <;> cases stepped
      next opened => exact .release at_ does opened
      next closed => exact .miss at_ does (by simpa using closed)
    next at_ does => cases stepped; exact .reject at_ does
    next at_ does => cases stepped; exact .success at_ does
    next at_ does => cases stepped; exact .failure at_ does
    next => cases stepped

end FlussGateway.Resilience
