import FlussGateway.Foundation.KeyedContent
import Mathlib

/-!
# Maps as entries in the order of their keys

Insertion keeps the entries sorted and replaces the value of a key that is there. Sorted
maps with equal lookups are equal, so a map built by insertions is determined by the last
insertion under each key.
-/
namespace FlussGateway.Foundation.SortedMap

variable {α κ ν : Type} [LinearOrder κ]

def insert (k : κ) (v : ν) : List (κ × ν) → List (κ × ν)
  | [] => [(k, v)]
  | (k', w) :: rest =>
    if k < k' then (k, v) :: (k', w) :: rest
    else if k = k' then (k, v) :: rest
    else (k', w) :: insert k v rest

/-- The keys increase, so that each occurs once. -/
def Sorted (map : List (κ × ν)) : Prop := map.Pairwise fun e e' => e.1 < e'.1

/-- One insertion for each element, in order. -/
def insertAll (key : α → κ) (value : α → ν) (xs : List α) (map : List (κ × ν)) : List (κ × ν) :=
  xs.foldl (fun map a => insert (key a) (value a) map) map

/-! ## One insertion -/

theorem lookup_cons (k k' : κ) (v : ν) (map : List (κ × ν)) :
    ((k', v) :: map).lookup k = if k = k' then some v else map.lookup k := by
  by_cases same : k = k'
  · simp [same]
  · simp [List.lookup_cons, same, beq_eq_false_iff_ne.mpr same]

theorem lookup_insert (k k' : κ) (v : ν) (map : List (κ × ν)) :
    (insert k' v map).lookup k = if k = k' then some v else map.lookup k := by
  induction map with
  | nil => exact lookup_cons k k' v []
  | cons entry rest ih =>
    obtain ⟨l, w⟩ := entry
    -- The new entry goes before this one, in its place, or further on.
    by_cases before : k' < l
    · simp only [insert, before, if_true, lookup_cons]
    · by_cases present : k' = l
      · subst l
        simp only [insert, before, if_false, if_true, lookup_cons]
        split <;> rfl
      · simp only [insert, before, present, if_false, lookup_cons, ih]
        by_cases here : k = l
        · subst l
          simp [Ne.symm present]
        · simp [here]

theorem mem_insert {k : κ} {v : ν} {map : List (κ × ν)} {e : κ × ν} (member : e ∈ insert k v map) :
    e = (k, v) ∨ e ∈ map := by
  induction map with
  | nil => exact .inl (List.mem_singleton.mp member)
  | cons entry rest ih =>
    simp only [insert] at member
    split at member
    next => exact List.mem_cons.mp member
    next =>
      split at member
      next => exact (List.mem_cons.mp member).imp id (List.mem_cons_of_mem _)
      next =>
        rcases List.mem_cons.mp member with rfl | further
        · exact .inr (List.mem_cons_self ..)
        · exact (ih further).imp id (List.mem_cons_of_mem _)

theorem sorted_insert {map : List (κ × ν)} (sorted : Sorted map) (k : κ) (v : ν) : Sorted (insert k v map) := by
  induction map with
  | nil => exact List.pairwise_singleton ..
  | cons entry rest ih =>
    obtain ⟨above, rest_sorted⟩ := List.pairwise_cons.mp sorted
    simp only [insert]
    split
    next before =>
      refine List.pairwise_cons.mpr ⟨fun e member => ?_, sorted⟩
      rcases List.mem_cons.mp member with rfl | further
      · exact before
      · exact before.trans (above e further)
    next notBefore =>
      split
      next present =>
        subst present
        exact List.pairwise_cons.mpr ⟨above, rest_sorted⟩
      next other =>
        refine List.pairwise_cons.mpr ⟨fun e member => ?_, ih rest_sorted⟩
        rcases mem_insert member with rfl | further
        · exact lt_of_le_of_ne (not_lt.mp notBefore) (Ne.symm other)
        · exact above e further

/-! ## Equal lookups -/

theorem lookup_of_lt {map : List (κ × ν)} {k : κ} (below : ∀ e ∈ map, k < e.1) : map.lookup k = none :=
  List.lookup_eq_none_iff.mpr fun e member => by simpa using (below e member).ne

/-- Sorted maps are determined by their lookups. -/
theorem ext_lookup {map map' : List (κ × ν)} (sorted : Sorted map) (sorted' : Sorted map')
    (same : ∀ k, map.lookup k = map'.lookup k) : map = map' := by
  induction map generalizing map' with
  | nil =>
    cases map' with
    | nil => rfl
    | cons entry rest =>
      have first := same entry.1
      rw [lookup_cons, if_pos rfl] at first
      cases first
  | cons entry rest ih =>
    obtain ⟨k, v⟩ := entry
    cases map' with
    | nil =>
      have first := same k
      rw [lookup_cons, if_pos rfl] at first
      cases first
    | cons entry' rest' =>
      obtain ⟨k', v'⟩ := entry'
      obtain ⟨above, rest_sorted⟩ := List.pairwise_cons.mp sorted
      obtain ⟨above', rest_sorted'⟩ := List.pairwise_cons.mp sorted'
      -- The smaller of the two first keys would be missing on the other side.
      have keys : k = k' := by
        rcases lt_trichotomy k k' with less | equal | greater
        · have first := same k
          rw [lookup_cons, if_pos rfl, lookup_cons, if_neg less.ne,
            lookup_of_lt fun e member => less.trans (above' e member)] at first
          cases first
        · exact equal
        · have first := same k'
          rw [lookup_cons k' k' v', if_pos rfl, lookup_cons, if_neg greater.ne,
            lookup_of_lt fun e member => greater.trans (above e member)] at first
          cases first
      subst k'
      have values := same k
      rw [lookup_cons, if_pos rfl, lookup_cons, if_pos rfl, Option.some.injEq] at values
      subst v'
      rw [ih rest_sorted rest_sorted' fun l => ?_]
      by_cases here : l = k
      · subst l
        rw [lookup_of_lt above, lookup_of_lt above']
      · have next := same l
        rwa [lookup_cons, if_neg here, lookup_cons, if_neg here] at next

/-! ## Many insertions -/

theorem sorted_insertAll (key : α → κ) (value : α → ν) (xs : List α) {map : List (κ × ν)} (sorted : Sorted map) :
    Sorted (insertAll key value xs map) := by
  induction xs generalizing map with
  | nil => exact sorted
  | cons a xs ih => exact ih (sorted_insert sorted ..)

/-- A key that no element has keeps its value. -/
theorem lookup_insertAll_other (key : α → κ) (value : α → ν) {xs : List α} (map : List (κ × ν)) {k : κ}
    (other : ∀ a ∈ xs, key a ≠ k) : (insertAll key value xs map).lookup k = map.lookup k := by
  induction xs generalizing map with
  | nil => rfl
  | cons a xs ih =>
    have rest := ih (insert (key a) (value a) map) fun b member => other b (List.mem_cons_of_mem _ member)
    rw [lookup_insert, if_neg (Ne.symm (other a (List.mem_cons_self ..)))] at rest
    exact rest

/-- The last element with a key decides what the key holds. -/
theorem lookup_insertAll_last (key : α → κ) (value : α → ν) (front : List α) (a : α) {back : List α}
    (map : List (κ × ν)) (last : ∀ b ∈ back, key b ≠ key a) :
    (insertAll key value (front ++ a :: back) map).lookup (key a) = some (value a) := by
  rw [insertAll, List.foldl_append, List.foldl_cons]
  have kept := lookup_insertAll_other key value (insert (key a) (value a) (insertAll key value front map)) last
  rw [lookup_insert, if_pos rfl] at kept
  exact kept

/-- Two maps built from the same elements are equal exactly when the last elements with each key
have equal values. -/
theorem insertAll_eq_iff (key : α → κ) (value value' : α → ν) (xs : List α) :
    insertAll key value xs [] = insertAll key value' xs [] ↔
      ∀ front a back, xs = front ++ a :: back → (∀ b ∈ back, key b ≠ key a) → value a = value' a := by
  constructor
  · rintro equal front a back rfl last
    have values := congrArg (List.lookup (key a)) equal
    rw [lookup_insertAll_last key value front a [] last, lookup_insertAll_last key value' front a [] last,
      Option.some.injEq] at values
    exact values
  · intro same
    refine ext_lookup (sorted_insertAll key value xs .nil) (sorted_insertAll key value' xs .nil) fun k => ?_
    by_cases named : ∃ a ∈ xs, key a = k
    · obtain ⟨front, a, back, split, rfl, last⟩ := exists_last (fun a => key a = k) xs named
      rw [split, lookup_insertAll_last key value front a [] last, lookup_insertAll_last key value' front a [] last,
        same front a back split last]
    · have other : ∀ a ∈ xs, key a ≠ k := fun a member equal => named ⟨a, member, equal⟩
      rw [lookup_insertAll_other key value [] other, lookup_insertAll_other key value' [] other]

/-- With distinct keys every element is the last with its key. -/
theorem lookup_insertAll_distinct (key : α → κ) (value : α → ν) {xs : List α} (map : List (κ × ν))
    (distinct : (xs.map key).Nodup) {a : α} (member : a ∈ xs) :
    (insertAll key value xs map).lookup (key a) = some (value a) := by
  obtain ⟨front, back, rfl⟩ := List.append_of_mem member
  apply lookup_insertAll_last
  intro b later same
  rw [List.map_append, List.map_cons, List.nodup_append, List.nodup_cons] at distinct
  exact distinct.2.1.1 (same ▸ List.mem_map_of_mem later)

/-- The keys are those of the elements. -/
theorem mem_keys_insertAll (key : α → κ) (value : α → ν) (xs : List α) (k : κ) :
    k ∈ (insertAll key value xs []).map (·.1) ↔ k ∈ xs.map key := by
  have present : k ∈ (insertAll key value xs []).map (·.1) ↔
      ((insertAll key value xs []).lookup k).isSome := by
    rw [List.lookup_isSome_iff, List.mem_map]
    refine exists_congr fun e => and_congr_right fun _ => ?_
    rw [beq_iff_eq, eq_comm]
  rw [present]
  by_cases named : ∃ a ∈ xs, key a = k
  · obtain ⟨front, a, back, split, rfl, last⟩ := exists_last (fun a => key a = k) xs named
    rw [split, lookup_insertAll_last key value front a [] last]
    simp
  · have other : ∀ a ∈ xs, key a ≠ k := fun a member same => named ⟨a, member, same⟩
    rw [lookup_insertAll_other key value [] other]
    simpa using other

theorem nodup_keys {map : List (κ × ν)} (sorted : Sorted map) : (map.map (·.1)).Nodup :=
  List.pairwise_map.mpr (sorted.imp fun less => less.ne)

end FlussGateway.Foundation.SortedMap
