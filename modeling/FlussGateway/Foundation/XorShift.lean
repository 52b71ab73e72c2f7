import Mathlib.Dynamics.PeriodicPts.Lemmas

/-!
# Words xored with a shift of themselves

A word can be recovered from its xor with another word, as long as every bit of the other
word is made from bits that have been recovered before. A shift by at least one place is
such a word, read from the low end for a left shift and from the high end for a right one.
-/
namespace FlussGateway.Foundation

section Word

variable {w : Nat}

/-- Bit `i` of `f x` is made from bits of `x` of smaller rank than `i`. -/
def Determined (rank : Nat → Nat) (f : BitVec w → BitVec w) : Prop :=
  ∀ x y i, (∀ j < w, rank j < rank i → x.getLsbD j = y.getLsbD j) →
    (f x).getLsbD i = (f y).getLsbD i

theorem Determined.xor_injective {rank : Nat → Nat} {f : BitVec w → BitVec w}
    (determined : Determined rank f) : Function.Injective fun x => x ^^^ f x := by
  intro x y same
  -- By induction on the rank: with the other word's bit known, the xor gives back the bit.
  have bits : ∀ n i, rank i = n → x.getLsbD i = y.getLsbD i := by
    intro n
    induction n using Nat.strongRecOn with
    | _ n ih =>
      intro i ranked
      have other := determined x y i fun j _ before => ih (rank j) (ranked ▸ before) j rfl
      have bit := congrArg (BitVec.getLsbD · i) same
      simp only [BitVec.getLsbD_xor, other] at bit
      exact Bool.xor_left_inj.mp bit
  exact BitVec.eq_of_getLsbD_eq fun i _ => bits (rank i) i rfl

theorem determined_shiftLeft {k : Nat} (positive : 0 < k) :
    Determined id fun x : BitVec w => x <<< k := by
  intro x y i lower
  simp only [BitVec.getLsbD_shiftLeft]
  by_cases inside : i < w
  · by_cases shifted : i < k
    · simp [shifted]
    · rw [lower (i - k) (by omega) (by simp only [id]; omega)]
  · simp [inside]

theorem determined_shiftRight {k : Nat} (positive : 0 < k) :
    Determined (w - ·) fun x : BitVec w => x >>> k := by
  intro x y i higher
  simp only [BitVec.getLsbD_ushiftRight]
  by_cases inside : k + i < w
  · exact higher (k + i) inside (show w - (k + i) < w - i by omega)
  · rw [BitVec.getLsbD_of_ge _ _ (by omega), BitVec.getLsbD_of_ge _ _ (by omega)]

end Word

section Orbit

variable {α : Type} [Finite α] {f : α → α}

/-- From any state of a finite machine that merges no two states, the run comes back to it. -/
theorem purely_periodic (injective : Function.Injective f) (x : α) :
    ∃ period > 0, ∀ n, f^[n + period] x = f^[n] x := by
  obtain ⟨period, positive, returns⟩ := injective.mem_periodicPts x
  refine ⟨period, positive, fun n => ?_⟩
  rw [Function.iterate_add_apply, returns.eq]

end Orbit

end FlussGateway.Foundation
