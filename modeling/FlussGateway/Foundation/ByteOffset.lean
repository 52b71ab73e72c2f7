import Mathlib.Algebra.Ring.Nat
import Mathlib.Data.List.Basic

/-!
# Text cut at byte offsets

A text is cut at an offset counted in the bytes of its UTF-8 encoding. A cut inside a
character or past the end does not exist. Searching for a character yields such an offset,
and the offsets before and after what was found are places where the text can be cut.
-/
namespace FlussGateway.Foundation.ByteOffset

/-- The text before and after an offset, if it falls between two characters. -/
def cut : List Char → Nat → Option (List Char × List Char)
  | text, 0 => some ([], text)
  | [], _ + 1 => none
  | c :: text, n + 1 =>
    if c.utf8Size ≤ n + 1 then (cut text (n + 1 - c.utf8Size)).map fun (l, r) => (c :: l, r) else none

/-- The offset of the first occurrence of a character. -/
def find (c : Char) : List Char → Option Nat
  | [] => none
  | d :: text => if d = c then some 0 else (find c text).map (d.utf8Size + ·)

/-- The length of a text in bytes. -/
def size (text : List Char) : Nat := (text.map Char.utf8Size).sum

@[simp] theorem size_nil : size [] = 0 := rfl

@[simp] theorem size_cons (c : Char) (text : List Char) : size (c :: text) = c.utf8Size + size text := by
  simp [size]

/-- A text can be cut after each of its prefixes. -/
theorem cut_append (front back : List Char) : cut (front ++ back) (size front) = some (front, back) := by
  induction front with
  | nil => simp [cut]
  | cons c front ih =>
    have positive := c.utf8Size_pos
    obtain ⟨n, next⟩ : ∃ n, c.utf8Size + size front = n + 1 := ⟨c.utf8Size + size front - 1, by omega⟩
    have fits : c.utf8Size ≤ n + 1 := by omega
    have rest : n + 1 - c.utf8Size = size front := by omega
    simp [next, cut, fits, rest, ih]

/-- The first occurrence: nothing before it is the character. -/
theorem find_eq_some_iff (c : Char) (text : List Char) (n : Nat) :
    find c text = some n ↔ ∃ front back, text = front ++ c :: back ∧ c ∉ front ∧ n = size front := by
  induction text generalizing n with
  | nil => simp [find]
  | cons d text ih =>
    -- The search stops here, or the rest of the text decides and this character's bytes are added.
    by_cases here : d = c
    · subst d
      simp only [find, if_true, Option.some.injEq]
      constructor
      · rintro rfl
        exact ⟨[], text, rfl, by simp, rfl⟩
      · rintro ⟨front, back, equal, fresh, rfl⟩
        cases front with
        | nil => rfl
        | cons e front =>
          obtain ⟨rfl, _⟩ := List.cons.inj equal
          exact absurd (List.mem_cons_self ..) fresh
    · simp only [find, here, if_false, Option.map_eq_some_iff, ih]
      constructor
      · rintro ⟨_, ⟨front, back, rfl, fresh, rfl⟩, rfl⟩
        exact ⟨d :: front, back, rfl, by simp [fresh, Ne.symm here], (size_cons ..).symm⟩
      · rintro ⟨front, back, equal, fresh, rfl⟩
        cases front with
        -- A split before the first character would make it the one searched for.
        | nil => exact absurd (List.cons.inj equal).1 here
        | cons e front =>
          obtain ⟨rfl, rfl⟩ := List.cons.inj equal
          exact ⟨_, ⟨front, back, rfl, fun member => fresh (List.mem_cons_of_mem _ member), rfl⟩,
            (size_cons ..).symm⟩

end FlussGateway.Foundation.ByteOffset
