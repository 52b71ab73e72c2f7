import Mathlib.Data.List.Basic

/-!
# Runs of a labelled machine

A step takes a state and a label to a next state and an output, or is not possible. A run
records its labels with their outputs, the newest first, so that what happened since some
event is a prefix of the record.
-/
namespace FlussGateway.Foundation

section LabelledRun

variable {σ ℓ ο : Type} (step : σ → ℓ → Option (σ × ο))

/-- `Run step s h s'`: from `s` the labels of `h` lead to `s'` with the outputs of `h`. -/
inductive Run (s : σ) : List (ℓ × ο) → σ → Prop where
  | start : Run s [] s
  | next {h : List (ℓ × ο)} {mid s' : σ} {l : ℓ} {o : ο} (run : Run s h mid)
      (stepped : step mid l = some (s', o)) : Run s ((l, o) :: h) s'

namespace Run

variable {step} {s s' : σ}

/-- A run passes through the state at which any part of its record began. -/
theorem split {after before : List (ℓ × ο)} (run : Run step s (after ++ before) s') :
    ∃ mid, Run step s before mid ∧ Run step mid after s' := by
  induction after generalizing s' with
  | nil => exact ⟨s', run, .start⟩
  | cons e after ih =>
    cases run with
    | next run stepped =>
      obtain ⟨mid, first, rest⟩ := ih run
      exact ⟨mid, first, .next rest stepped⟩

theorem split_step {after before : List (ℓ × ο)} {l : ℓ} {o : ο}
    (run : Run step s (after ++ (l, o) :: before) s') :
    ∃ mid next, Run step s before mid ∧ step mid l = some (next, o) ∧ Run step next after s' := by
  obtain ⟨next, first, rest⟩ := run.split
  cases first with
  | next first stepped => exact ⟨_, next, first, stepped, rest⟩

theorem append {mid : σ} {before after : List (ℓ × ο)} (first : Run step s before mid) (rest : Run step mid after s') :
    Run step s (after ++ before) s' := by
  induction rest with
  | start => exact first
  | next _ stepped ih => exact .next ih stepped

/-- The record determines the state. -/
theorem unique {h : List (ℓ × ο)} {t : σ} (run : Run step s h s') (other : Run step s h t) : s' = t := by
  induction run generalizing t with
  | start => cases other; rfl
  | next _ stepped ih =>
    cases other with
    | next before stepped' =>
      obtain rfl := ih before
      rw [stepped] at stepped'
      exact (Prod.mk.inj (Option.some.inj stepped')).1

/-- The invariant rule over a record whose entries all satisfy `P`. -/
theorem invariant {P : ℓ × ο → Prop} {I : σ → Prop} {h : List (ℓ × ο)} (run : Run step s h s')
    (each : ∀ e ∈ h, P e) (initial : I s)
    (preserved : ∀ s l s' o, P (l, o) → I s → step s l = some (s', o) → I s') : I s' := by
  induction run with
  | start => exact initial
  | next _ stepped ih =>
    exact preserved _ _ _ _ (each _ (List.mem_cons_self ..))
      (ih fun e member => each e (List.mem_cons_of_mem _ member)) stepped

/-- The rule for facts about the state and the record together. -/
theorem record_invariant {I : List (ℓ × ο) → σ → Prop} {h : List (ℓ × ο)} (run : Run step s h s')
    (initial : I [] s)
    (preserved : ∀ h s l s' o, I h s → step s l = some (s', o) → I ((l, o) :: h) s') : I h s' := by
  induction run with
  | start => exact initial
  | next _ stepped ih => exact preserved _ _ _ _ _ ih stepped

end Run

end LabelledRun

/-! ## Counting by key -/

theorem countP_split {α : Type} (p q : α → Bool) (xs : List α) :
    xs.countP p = xs.countP (fun x => p x && q x) + (xs.filter fun x => !q x).countP p := by
  induction xs with
  | nil => rfl
  | cons x xs ih =>
    cases hq : q x <;> cases hp : p x <;> simp [hq, hp, ih] <;> omega

/-- A bound that holds for the elements of every key holds for all elements. -/
theorem countP_le_of_keys {α κ : Type} [DecidableEq κ] (key : α → κ) (p q : α → Bool) (xs : List α)
    (each : ∀ k, xs.countP (fun x => p x && key x = k) ≤ xs.countP (fun x => q x && key x = k)) :
    xs.countP p ≤ xs.countP q := by
  induction size : xs.length using Nat.strongRecOn generalizing xs with
  | _ n ih =>
    cases xs with
    | nil => simp
    | cons x xs =>
      -- Set the elements with the first one's key aside; the others are fewer.
      have here := each (key x)
      have rest := ih _ (by
        subst size
        have shorter := List.length_filter_le (fun y => !decide (key y = key x)) xs
        simp only [List.filter_cons, decide_true, Bool.not_true, Bool.false_eq_true, if_false, List.length_cons]
        omega) ((x :: xs).filter fun y => !decide (key y = key x)) (fun k => ?_) rfl
      · rw [countP_split p (fun y => key y = key x), countP_split q (fun y => key y = key x)]
        omega
      · by_cases same : k = key x
        · subst same
          simp [List.countP_filter, Bool.and_assoc]
        · have kept : ∀ r : α → Bool, ((x :: xs).filter fun y => !decide (key y = key x)).countP
              (fun y => r y && key y = k) = (x :: xs).countP fun y => r y && key y = k := by
            intro r
            rw [List.countP_filter]
            apply List.countP_congr
            intro y _
            by_cases at_ : key y = k
            · simp [at_, same]
            · simp [at_]
          rw [kept p, kept q]
          exact each k

end FlussGateway.Foundation
