import Mathlib.Logic.Function.Basic
import Mathlib.Data.List.Basic

/-!
# Keyed content under a sequence of changes

A content maps each key to at most one value. A change sets one key or removes it, and a
sequence of changes is replayed from left to right. What a key holds afterwards is decided
by the last change that names it, or by the initial content when none does.
-/
namespace FlussGateway.Foundation

abbrev Content (κ ν : Type) := κ → Option ν

inductive Change (κ ν : Type) where
  | set (key : κ) (value : ν)
  | remove (key : κ)
deriving DecidableEq

namespace Change

variable {κ ν : Type}

def key : Change κ ν → κ
  | .set k _ => k
  | .remove k => k

/-- What the change leaves at its key. -/
def leaves : Change κ ν → Option ν
  | .set _ v => some v
  | .remove _ => none

@[simp] theorem key_set (k : κ) (v : ν) : (Change.set k v).key = k := rfl
@[simp] theorem key_remove (k : κ) : (Change.remove k : Change κ ν).key = k := rfl
@[simp] theorem leaves_set (k : κ) (v : ν) : (Change.set k v).leaves = some v := rfl
@[simp] theorem leaves_remove (k : κ) : (Change.remove k : Change κ ν).leaves = none := rfl

end Change

namespace Content

variable {κ ν : Type} [DecidableEq κ]

def apply (content : Content κ ν) (c : Change κ ν) : Content κ ν :=
  Function.update content c.key c.leaves

def replay (content : Content κ ν) (changes : List (Change κ ν)) : Content κ ν :=
  changes.foldl apply content

@[simp] theorem replay_nil (content : Content κ ν) : content.replay [] = content := rfl

@[simp] theorem replay_cons (content : Content κ ν) (c : Change κ ν) (cs : List (Change κ ν)) :
    content.replay (c :: cs) = (content.apply c).replay cs := rfl

theorem replay_append (content : Content κ ν) (cs ds : List (Change κ ν)) :
    content.replay (cs ++ ds) = (content.replay cs).replay ds := List.foldl_append

@[simp] theorem apply_self (content : Content κ ν) (c : Change κ ν) :
    content.apply c c.key = c.leaves := Function.update_self ..

theorem apply_of_ne (content : Content κ ν) (c : Change κ ν) {k : κ} (other : k ≠ c.key) :
    content.apply c k = content k := Function.update_of_ne other ..

/-- A key no change names keeps what it held. -/
theorem replay_untouched (content : Content κ ν) (cs : List (Change κ ν)) (k : κ)
    (untouched : ∀ c ∈ cs, c.key ≠ k) : content.replay cs k = content k := by
  induction cs generalizing content with
  | nil => rfl
  | cons c cs ih =>
    rw [replay_cons, ih _ fun d member => untouched d (List.mem_cons_of_mem _ member)]
    exact apply_of_ne content c (untouched c (List.mem_cons_self ..)).symm

/-- The last change that names a key decides what it holds. -/
theorem replay_last (content : Content κ ν) (cs ds : List (Change κ ν)) (c : Change κ ν)
    (last : ∀ d ∈ ds, d.key ≠ c.key) : content.replay (cs ++ c :: ds) c.key = c.leaves := by
  rw [replay_append, replay_cons, replay_untouched _ ds c.key last, apply_self]

end Content

/-- The changes that name this key. -/
def Change.naming {κ ν : Type} [DecidableEq κ] (k : κ) (cs : List (Change κ ν)) : List (Change κ ν) :=
  cs.filter fun c => c.key = k

/-! ## The last change at a key -/

/-- Every list whose elements include one with property `P` has a last such element. -/
theorem exists_last {α : Type} (P : α → Prop) [DecidablePred P] (xs : List α)
    (some_one : ∃ x ∈ xs, P x) :
    ∃ front x back, xs = front ++ x :: back ∧ P x ∧ ∀ y ∈ back, ¬P y := by
  induction xs with
  | nil => simp at some_one
  | cons a xs ih =>
    -- Either a later element has the property too, or this one is the last.
    by_cases later : ∃ x ∈ xs, P x
    · obtain ⟨front, x, back, rfl, holds, none⟩ := ih later
      exact ⟨a :: front, x, back, rfl, holds, none⟩
    · obtain ⟨x, member, holds⟩ := some_one
      rcases List.mem_cons.mp member with rfl | member
      · exact ⟨[], x, xs, rfl, holds, fun y member holds => later ⟨y, member, holds⟩⟩
      · exact absurd ⟨x, member, holds⟩ later

/-- An element further on than a split lies behind it. -/
theorem mem_back_of_getElem? {α : Type} {front back : List α} {c d : α} {i : Nat}
    (found : (front ++ c :: back)[i]? = some d) (beyond : front.length < i) : d ∈ back := by
  rw [List.getElem?_append_right (by omega)] at found
  obtain ⟨n, next⟩ : ∃ n, i - front.length = n + 1 := ⟨i - front.length - 1, by omega⟩
  rw [next, List.getElem?_cons_succ] at found
  exact List.mem_of_getElem? found

/-- A key that some change names holds what the last of them leaves. -/
theorem Content.replay_named {κ ν : Type} [DecidableEq κ] (content : Content κ ν) {cs : List (Change κ ν)} {k : κ}
    (named : ∃ c ∈ cs, c.key = k) :
    ∃ front c back, cs = front ++ c :: back ∧ c.key = k ∧ (∀ d ∈ back, d.key ≠ k) ∧
      content.replay cs k = c.leaves := by
  obtain ⟨front, c, back, rfl, rfl, last⟩ := exists_last (fun c => c.key = k) cs named
  exact ⟨front, c, back, rfl, rfl, last, replay_last content front back c last⟩

/-! ## Removing instead of setting -/

/-- The change that removes what another change names. -/
def Change.removal {κ ν : Type} (c : Change κ ν) : Change κ ν := .remove c.key

namespace Content

variable {κ ν : Type} [DecidableEq κ]

/-- The change at an index removes a key that is there when its turn comes. -/
def RemovesAt (content : Content κ ν) (changes : List (Change κ ν)) (i : Nat) : Prop :=
  ∃ k, changes[i]? = some (.remove k) ∧ content.replay (changes.take i) k ≠ none

/-- Every set key is removed by a later change, and a set key that was there at first has been
named by an earlier change. -/
def Covered (content : Content κ ν) (changes : List (Change κ ν)) : Prop :=
  ∀ (i : Nat) k v, changes[i]? = some (.set k v) →
    (∃ j, i < j ∧ changes[j]? = some (.remove k)) ∧
    (content k ≠ none → ∃ j c, j < i ∧ changes[j]? = some c ∧ c.key = k)

theorem replay_removals (content : Content κ ν) (cs : List (Change κ ν)) (k : κ) :
    content.replay (cs.map Change.removal) k = if ∃ c ∈ cs, c.key = k then none else content k := by
  induction cs generalizing content with
  | nil => simp
  | cons c cs ih =>
    rw [List.map_cons, replay_cons, ih]
    by_cases here : c.key = k
    · subst here
      have gone : content.apply c.removal c.key = none := apply_self content c.removal
      simp [gone]
    · have kept : content.apply c.removal k = content k := apply_of_ne content c.removal (Ne.symm here)
      simp [here, kept]

/-- Removing all named keys amounts to the changes themselves exactly when every key that is set
is removed later. -/
theorem replay_removals_eq_iff (content : Content κ ν) (cs : List (Change κ ν)) :
    content.replay (cs.map Change.removal) = content.replay cs ↔
      ∀ (i : Nat) k v, cs[i]? = some (.set k v) → ∃ j, i < j ∧ cs[j]? = some (.remove k) := by
  constructor
  · intro same i k v set
    by_contra later
    have sets : ∃ c ∈ cs, c.key = k := ⟨.set k v, List.mem_of_getElem? set, rfl⟩
    obtain ⟨front, c, back, split, named, last, left⟩ := content.replay_named sets
    -- The last change at the key is the set one or a later one, and so no removal.
    have place : i ≤ front.length := by
      by_contra beyond
      rw [split] at set
      exact last _ (mem_back_of_getElem? set (by omega)) rfl
    have here : cs[front.length]? = some c := by rw [split]; simp
    have removed : content.replay (cs.map Change.removal) k = none := by
      rw [replay_removals, if_pos sets]
    rw [same, left] at removed
    cases c with
    | set k' w => cases removed
    | remove k' =>
      cases named
      rcases Nat.lt_or_eq_of_le place with before | at_
      · exact later ⟨_, before, here⟩
      · rw [at_, here] at set
        cases set
  · intro covered
    funext k
    rw [replay_removals]
    split
    next named =>
      obtain ⟨front, c, back, split, named, last, left⟩ := content.replay_named named
      rw [left]
      cases c with
      | remove k' => rfl
      | set k' w =>
        -- A removal after the last change at the key would name the key again.
        obtain ⟨j, later, removed⟩ := covered front.length k' w (by rw [split]; simp)
        rw [split] at removed
        exact absurd named (last (.remove k') (mem_back_of_getElem? removed later))
    next unnamed =>
      exact (replay_untouched content cs k fun c member named => unnamed ⟨c, member, named⟩).symm

/-- Removing all named keys, a change removes a present key exactly when it is the first to name it. -/
theorem removesAt_removals_iff (content : Content κ ν) {cs : List (Change κ ν)} {i : Nat} {c : Change κ ν}
    (here : cs[i]? = some c) :
    content.RemovesAt (cs.map Change.removal) i ↔
      content c.key ≠ none ∧ ∀ (j : Nat) d, j < i → cs[j]? = some d → d.key ≠ c.key := by
  have turn : (cs.map Change.removal)[i]? = some (.remove c.key) := by simp [here, Change.removal]
  have earlier : (∃ d ∈ cs.take i, d.key = c.key) ↔
      ∃ (j : Nat) (d : Change κ ν), j < i ∧ cs[j]? = some d ∧ d.key = c.key := by
    constructor
    · rintro ⟨d, member, named⟩
      obtain ⟨j, found⟩ := List.mem_iff_getElem?.mp member
      rw [List.getElem?_take] at found
      split at found
      next before => exact ⟨j, d, before, found, named⟩
      next => cases found
    · rintro ⟨j, d, before, found, named⟩
      refine ⟨d, List.mem_iff_getElem?.mpr ⟨j, ?_⟩, named⟩
      rw [List.getElem?_take, if_pos before, found]
  have left : content.replay ((cs.map Change.removal).take i) c.key ≠ none ↔
      content c.key ≠ none ∧ ¬∃ d ∈ cs.take i, d.key = c.key := by
    -- After removals only, a key is there exactly if it was and none of them named it.
    rw [← List.map_take, replay_removals]
    split
    next named => simp [named]
    next unnamed => simp [unnamed]
  rw [earlier] at left
  constructor
  · rintro ⟨k, removes, there⟩
    rw [turn, Option.some.injEq, Change.remove.injEq] at removes
    subst removes
    obtain ⟨held, first⟩ := left.mp there
    exact ⟨held, fun j d before found named => first ⟨j, d, before, found, named⟩⟩
  · rintro ⟨held, first⟩
    exact ⟨c.key, turn, left.mpr ⟨held, fun ⟨j, d, before, found, named⟩ => first j d before found named⟩⟩

end Content

end FlussGateway.Foundation
