import FlussGateway.Foundation.XorShift

/-!
# The jitter generator

`rand::random` steps a 64-bit seed through three shifts and returns the new seed. Every thread
has a seed of its own, which starts at the same constant.
-/
namespace FlussGateway.Resilience

open FlussGateway.Foundation

namespace Rand

/-- `s ^= s << 13; s ^= s >> 7; s ^= s << 17`. -/
def xorshift (s : UInt64) : UInt64 :=
  let s := s ^^^ s <<< 13
  let s := s ^^^ s >>> 7
  s ^^^ s <<< 17

def seed : UInt64 := 0x1234567890abcdef

section Threads

variable {Thread : Type} [DecidableEq Thread]

/-- The thread-local `SEED`. -/
abbrev Seeds (Thread : Type) := Thread → UInt64

/-- A draw by one thread, converted to what its caller asks for. -/
def random {T : Type} (ofU64 : UInt64 → T) (thread : Thread) (seeds : Seeds Thread) :
    T × Seeds Thread :=
  let s := xorshift (seeds thread)
  (ofU64 s, Function.update seeds thread s)

/-- The seeds after the threads have drawn in this order. -/
def drawn (threads : List Thread) (seeds : Seeds Thread) : Seeds Thread :=
  threads.foldl (fun seeds thread => (random id thread seeds).2) seeds

end Threads

/-! ## One step -/

instance instFiniteUInt64 : Finite UInt64 :=
  Finite.of_injective UInt64.toFin fun _ _ same => UInt64.toFin_inj.mp same

theorem xorshift_injective : Function.Injective xorshift := by
  intro s t same
  have words := congrArg UInt64.toBitVec same
  simp only [xorshift, UInt64.toBitVec_xor, UInt64.toBitVec_shiftLeft,
    UInt64.toBitVec_shiftRight] at words
  -- The three lines of the step, undone from the last one to the first.
  have third := (determined_shiftLeft (w := 64) (k := 17) (by decide)).xor_injective words
  have second := (determined_shiftRight (w := 64) (k := 7) (by decide)).xor_injective third
  have first := (determined_shiftLeft (w := 64) (k := 13) (by decide)).xor_injective second
  exact UInt64.toBitVec_inj.mp first

theorem xorshift_bijective : Function.Bijective xorshift :=
  Finite.injective_iff_bijective.mp xorshift_injective

theorem xorshift_zero_iff (s : UInt64) : xorshift s = 0 ↔ s = 0 :=
  xorshift_injective.eq_iff' (by decide)

/-! ## Any number of steps -/

theorem iterate_zero_iff (n : Nat) (s : UInt64) : xorshift^[n] s = 0 ↔ s = 0 := by
  induction n generalizing s with
  | zero => rfl
  | succ n ih => rw [Function.iterate_succ_apply, ih, xorshift_zero_iff]

section Threads

variable {Thread : Type} [DecidableEq Thread]

/-- A thread's seed is stepped by its own draws alone. -/
theorem drawn_eq (threads : List Thread) (seeds : Seeds Thread) (thread : Thread) :
    drawn threads seeds thread = xorshift^[threads.count thread] (seeds thread) := by
  induction threads generalizing seeds with
  | nil => rfl
  | cons other threads ih =>
    have rest := ih (random id other seeds).2
    simp only [drawn, List.foldl_cons] at rest ⊢
    rw [rest]
    by_cases same : other = thread
    · subst same
      rw [List.count_cons_self, Function.iterate_succ_apply]
      simp [random]
    · rw [List.count_cons_of_ne same]
      simp [random, Ne.symm same]

end Threads

/-- What can be said of the seeds: the step merges no two of them and reaches each, a thread's seed
has been stepped once for each draw of its own and never comes to zero, and it repeats from the
first one on. -/
structure NeverStuck : Prop where
  bijective : Function.Bijective xorshift
  zero_iff : ∀ s, xorshift s = 0 ↔ s = 0
  stepped : ∀ {Thread : Type} [DecidableEq Thread] (threads : List Thread) (thread : Thread),
    drawn threads (fun _ => seed) thread = xorshift^[threads.count thread] seed
  nonzero : ∀ {Thread : Type} [DecidableEq Thread] (threads : List Thread) (thread : Thread),
    drawn threads (fun _ => seed) thread ≠ 0
  apart : ∀ {Thread : Type} [DecidableEq Thread] (threads : List Thread) (a b : Seeds Thread),
    drawn threads a = drawn threads b → a = b
  periodic : ∃ period > 0, ∀ n, xorshift^[n + period] seed = xorshift^[n] seed

/-- For any number of draws, by any threads in any order. -/
theorem random_neverStuck : NeverStuck where
  bijective := xorshift_bijective
  zero_iff := xorshift_zero_iff
  stepped := by
    intro Thread _ threads thread
    exact drawn_eq ..
  nonzero := by
    intro Thread _ threads thread
    rw [drawn_eq, Ne, iterate_zero_iff]
    decide
  apart := by
    intro Thread _ threads a b same
    funext thread
    have states := congrFun same thread
    rw [drawn_eq, drawn_eq] at states
    exact xorshift_injective.iterate _ states
  periodic := purely_periodic xorshift_injective seed

end Rand

end FlussGateway.Resilience
