import FlussGateway.Foundation.Program
import Mathlib.Data.List.Basic

/-!
# Schedules

A schedule lists the calls that reach a service, each with the tag of whoever issued it. It
fixes the reply to every call and the state every call finds, so that each caller's own calls
and replies can be read off.
-/
namespace FlussGateway.Foundation

namespace Schedule

variable {τ β Op σ : Type} {Reply : Op → Type}

/-- The entries under one tag, in order. -/
def own [DecidableEq τ] (tag : τ) (entries : List (τ × β)) : List β :=
  entries.filterMap fun e => if e.1 = tag then some e.2 else none

theorem mem_own [DecidableEq τ] {tag : τ} {entries : List (τ × β)} {b : β} :
    b ∈ own tag entries ↔ (tag, b) ∈ entries := by
  simp [own, List.mem_filterMap]

theorem own_cons_self [DecidableEq τ] (tag : τ) (b : β) (entries : List (τ × β)) :
    own tag ((tag, b) :: entries) = b :: own tag entries := List.filterMap_cons_some (if_pos rfl)

theorem own_cons_ne [DecidableEq τ] {tag other : τ} (ne : other ≠ tag) (b : β)
    (entries : List (τ × β)) :
    own tag ((other, b) :: entries) = own tag entries := List.filterMap_cons_none (if_neg ne)

theorem own_map_self [DecidableEq τ] (tag : τ) (xs : List β) :
    own tag (xs.map fun x => (tag, x)) = xs := by
  simp [own, List.filterMap_map]

theorem own_map_ne [DecidableEq τ] {tag other : τ} (ne : other ≠ tag) (xs : List β) :
    own tag (xs.map fun x => (other, x)) = [] := by
  simp [own, List.filterMap_map, ne]

theorem own_append [DecidableEq τ] (tag : τ) (xs ys : List (τ × β)) :
    own tag (xs ++ ys) = own tag xs ++ own tag ys := List.filterMap_append

/-- Entries under two tags each: where one tag is decided by the other and by what is kept, the other
alone selects. -/
theorem own_own [DecidableEq τ] {τ' : Type} [DecidableEq τ'] {tag : τ} {other : τ'} {keep : β → Bool}
    {entries : List (τ × τ' × β)}
    (decided : ∀ e ∈ entries, e.2.1 = other → keep e.2.2 = true → e.1 = tag) :
    (own other (own tag entries)).filter keep = (own other (entries.map Prod.snd)).filter keep := by
  induction entries with
  | nil => rfl
  | cons e entries ih =>
    obtain ⟨tag', other', b⟩ := e
    have rest := ih fun e member => decided e (List.mem_cons_of_mem _ member)
    rw [List.map_cons]
    by_cases same' : other' = other
    · subst same'
      rw [own_cons_self other' b (entries.map Prod.snd)]
      by_cases same : tag' = tag
      · subst same
        rw [own_cons_self, own_cons_self, List.filter_cons, List.filter_cons, rest]
      · -- An entry under the other tag only is not kept.
        have dropped : ¬keep b = true := fun kept => same (decided _ List.mem_cons_self rfl kept)
        rw [own_cons_ne same, List.filter_cons_of_neg dropped, rest]
    · rw [own_cons_ne same' b (entries.map Prod.snd), ← rest]
      by_cases same : tag' = tag
      · subst same
        rw [own_cons_self, own_cons_ne same']
      · rw [own_cons_ne same]

/-- The state after the calls. -/
def after (h : Program.Handler Op Reply σ) : List (τ × Op) → σ → σ
  | [], s => s
  | (_, op) :: calls, s => after h calls (h op s).2

/-- The calls with their replies. -/
def recorded (h : Program.Handler Op Reply σ) :
    List (τ × Op) → σ → List (τ × ((op : Op) × Reply op))
  | [], _ => []
  | (tag, op) :: calls, s => (tag, ⟨op, (h op s).1⟩) :: recorded h calls (h op s).2

@[simp] theorem after_append (h : Program.Handler Op Reply σ)
    (before later : List (τ × Op)) (s : σ) :
    after h (before ++ later) s = after h later (after h before s) := by
  induction before generalizing s with
  | nil => rfl
  | cons call before ih => exact ih _

theorem recorded_append (h : Program.Handler Op Reply σ) (before later : List (τ × Op)) (s : σ) :
    recorded h (before ++ later) s = recorded h before s ++ recorded h later (after h before s) := by
  induction before generalizing s with
  | nil => rfl
  | cons call before ih => exact congrArg (_ :: ·) (ih _)

/-- A caller's own call stands somewhere in the schedule, with the caller's earlier calls before it
and its later ones after it; the reply was given in the state it found. -/
theorem split_of_own [DecidableEq τ] {h : Program.Handler Op Reply σ} {calls : List (τ × Op)}
    {s : σ} {tag : τ} {xs ys : List ((op : Op) × Reply op)} {op : Op} {reply : Reply op}
    (here : own tag (recorded h calls s) = xs ++ ⟨op, reply⟩ :: ys) :
    ∃ before later, calls = before ++ (tag, op) :: later ∧ reply = (h op (after h before s)).1 ∧
      own tag (recorded h later (h op (after h before s)).2) = ys := by
  induction calls generalizing s xs with
  | nil => cases xs <;> cases here
  | cons call calls ih =>
    obtain ⟨tag', op'⟩ := call
    by_cases same : tag' = tag
    · subst same
      rw [recorded, own_cons_self] at here
      -- The caller's first call, which is the one in question unless others of its own precede.
      cases xs with
      | nil =>
        cases here
        exact ⟨[], calls, rfl, rfl, rfl⟩
      | cons x xs =>
        obtain ⟨before, later, rfl, given, rest⟩ := ih (List.cons.inj here).2
        exact ⟨(tag', op') :: before, later, rfl, given, rest⟩
    · rw [recorded, own_cons_ne same] at here
      obtain ⟨before, later, rfl, given, rest⟩ := ih here
      exact ⟨(tag', op') :: before, later, rfl, given, rest⟩

/-- The invariant rule: what every call of the schedule keeps holds at the end. -/
theorem after_preserves {h : Program.Handler Op Reply σ} {calls : List (τ × Op)} {P : Op → Prop}
    {I : σ → Prop}
    (step : ∀ op s, P op → I s → I (h op s).2) (each : ∀ call ∈ calls, P call.2) {s : σ}
    (initial : I s) :
    I (after h calls s) := by
  induction calls generalizing s with
  | nil => exact initial
  | cons call calls ih =>
    exact ih (fun c member => each c (List.mem_cons_of_mem _ member))
      (step _ _ (each call List.mem_cons_self) initial)

end Schedule

end FlussGateway.Foundation
