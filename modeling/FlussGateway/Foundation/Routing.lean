import Mathlib.Data.List.Basic

/-!
# Routing by path templates

A template is a list of literal and parameter segments. The search goes down the path one
segment at a time and follows the templates with the literal first; only where they lead
nowhere does it take the segment as a parameter. A parameter may be anything between two slashes,
but what stands at the end of the path has to be filled.
-/
namespace FlussGateway.Foundation.Routing

inductive Segment (α : Type) where
  | literal (text : α)
  | param
deriving DecidableEq

abbrev Template (α : Type) := List (Segment α)

abbrev Table (α β : Type) := List (Template α × β)

/-- The number of parameters. -/
def arity {α : Type} (template : Template α) : Nat :=
  template.countP fun | .param => true | .literal _ => false

/-- A parameter takes every segment that others follow, and a last one that is `filled`. -/
def takes {α : Type} (filled : α → Bool) (x : α) (xs : List α) : Bool := filled x || !xs.isEmpty

@[simp] theorem takes_last {α : Type} {filled : α → Bool} {x : α} :
    takes filled x [] = filled x := Bool.or_false _

@[simp] theorem takes_followed {α : Type} {filled : α → Bool} {x y : α} {xs : List α} :
    takes filled x (y :: xs) = true := Bool.or_true _

section

variable {α β : Type} [DecidableEq α]

namespace Table

/-- The templates that go on after this segment as a literal. -/
def literals (x : α) (table : Table α β) : Table α β :=
  table.filterMap fun
    | (.literal text :: rest, b) => if text = x then some (rest, b) else none
    | _ => none

def params (table : Table α β) : Table α β :=
  table.filterMap fun
    | (.param :: rest, b) => some (rest, b)
    | _ => none

def ends (table : Table α β) : List β :=
  table.filterMap fun
    | ([], b) => some b
    | _ => none

/-- What the table holds at the template found for a path, with the parameters of the path. -/
def search (filled : α → Bool) : Table α β → List α → Option (List β × List α)
  | table, [] => if table.ends.isEmpty then none else some (table.ends, [])
  | table, x :: xs =>
    match search filled (table.literals x) xs with
    | some found => some found
    | none =>
      if takes filled x xs then
        (search filled table.params xs).map fun found => (found.1, x :: found.2)
      else none

variable {filled : α → Bool} {table : Table α β} {x y : α} {xs : List α}

@[simp] theorem literals_nil : literals x ([] : Table α β) = [] := rfl

@[simp] theorem literals_ended {b : β} : literals x (([], b) :: table) = table.literals x := rfl

@[simp] theorem literals_param {rest : Template α} {b : β} :
    literals x ((.param :: rest, b) :: table) = table.literals x := rfl

@[simp] theorem literals_same {rest : Template α} {b : β} :
    literals x ((.literal x :: rest, b) :: table) = (rest, b) :: table.literals x :=
  List.filterMap_cons_some (if_pos rfl)

@[simp] theorem literals_other {rest : Template α} {b : β} (other : y ≠ x) :
    literals x ((.literal y :: rest, b) :: table) = table.literals x :=
  List.filterMap_cons_none (if_neg other)

section

omit [DecidableEq α]

@[simp] theorem params_nil : params ([] : Table α β) = [] := rfl

@[simp] theorem params_ended {b : β} : params (([], b) :: table) = table.params := rfl

@[simp] theorem params_literal {rest : Template α} {b : β} :
    params ((.literal y :: rest, b) :: table) = table.params := rfl

@[simp] theorem params_param {rest : Template α} {b : β} :
    params ((.param :: rest, b) :: table) = (rest, b) :: table.params := rfl

@[simp] theorem ends_nil : ends ([] : Table α β) = [] := rfl

@[simp] theorem ends_ended {b : β} : ends (([], b) :: table) = b :: table.ends := rfl

@[simp] theorem ends_segment {s : Segment α} {rest : Template α} {b : β} :
    ends ((s :: rest, b) :: table) = table.ends := rfl

end

omit [DecidableEq α] in
theorem mem_ends {b : β} : b ∈ table.ends ↔ ([], b) ∈ table := by
  rw [ends, List.mem_filterMap]
  constructor
  · rintro ⟨⟨t, b'⟩, inside, ended⟩
    cases t with
    | nil => cases ended; exact inside
    | cons => cases ended
  · exact fun inside => ⟨_, inside, rfl⟩

theorem mem_literals {rest : Template α} {b : β} :
    (rest, b) ∈ table.literals x ↔ (.literal x :: rest, b) ∈ table := by
  rw [literals, List.mem_filterMap]
  constructor
  · rintro ⟨⟨t, b'⟩, inside, goes⟩
    match t with
    | [] | .param :: _ => cases goes
    | .literal text :: t =>
      simp only [Option.ite_none_right_eq_some, Option.some.injEq, Prod.mk.injEq] at goes
      obtain ⟨rfl, rfl, rfl⟩ := goes
      exact inside
  · exact fun inside => ⟨_, inside, if_pos rfl⟩

omit [DecidableEq α] in
theorem mem_params {rest : Template α} {b : β} :
    (rest, b) ∈ table.params ↔ (.param :: rest, b) ∈ table := by
  rw [params, List.mem_filterMap]
  constructor
  · rintro ⟨⟨t, b'⟩, inside, goes⟩
    match t with
    | [] | .literal _ :: _ => cases goes
    | .param :: t => cases goes; exact inside
  · exact fun inside => ⟨_, inside, rfl⟩

theorem search_empty (path : List α) : search filled ([] : Table α β) path = none := by
  induction path with
  | nil => rfl
  | cons x xs ih => cases taken : takes filled x xs <;> simp [search, ih, taken]

/-- The literal comes first. -/
theorem search_of_literals {found : List β × List α}
    (literal : (table.literals x).search filled xs = some found) :
    table.search filled (x :: xs) = some found := by
  rw [search, literal]

theorem search_of_params (none : (table.literals x).search filled xs = none)
    (taken : takes filled x xs = true) :
    table.search filled (x :: xs) = (table.params.search filled xs).map fun found =>
      (found.1, x :: found.2) := by
  rw [search, none]
  exact if_pos taken

end Table

/-! ## What is found -/

/-- The template fits the path, and its parameters are these segments of it. -/
inductive Fits (filled : α → Bool) : Template α → List α → List α → Prop where
  | nil : Fits filled [] [] []
  | literal {text : α} {rest : Template α} {xs ps : List α} (fits : Fits filled rest xs ps) :
      Fits filled (.literal text :: rest) (text :: xs) ps
  | param {x : α} {rest : Template α} {xs ps : List α} (taken : takes filled x xs = true)
      (fits : Fits filled rest xs ps) : Fits filled (.param :: rest) (x :: xs) (x :: ps)

variable {filled : α → Bool}

/-- A search finds entries whose templates fit the path. -/
theorem search_sound {table : Table α β} {path ps : List α} {bs : List β}
    (found : table.search filled path = some (bs, ps)) :
    ∀ b ∈ bs, ∃ t, (t, b) ∈ table ∧ Fits filled t path ps := by
  intro b member
  -- By induction on the path, which is what the search recurses on; the table changes with it.
  induction path generalizing table bs ps with
  | nil =>
    unfold Table.search at found
    split at found
    next => cases found
    next =>
      cases found
      exact ⟨[], Table.mem_ends.mp member, .nil⟩
  | cons x xs ih =>
    unfold Table.search at found
    split at found
    next first here =>
      cases found
      obtain ⟨rest, inside, fits⟩ := ih here member
      exact ⟨_, Table.mem_literals.mp inside, .literal fits⟩
    next =>
      split at found
      next taken =>
        obtain ⟨⟨bs', ps'⟩, here, same⟩ := Option.map_eq_some_iff.mp found
        cases same
        obtain ⟨rest, inside, fits⟩ := ih here member
        exact ⟨_, Table.mem_params.mp inside, .param taken fits⟩
      next => cases found

omit [DecidableEq α] in
@[simp] theorem fits_nil_iff {path ps : List α} : Fits filled [] path ps ↔ path = [] ∧ ps = [] := by
  constructor
  · intro fits
    cases fits
    exact ⟨rfl, rfl⟩
  · rintro ⟨rfl, rfl⟩
    exact .nil

omit [DecidableEq α] in
@[simp] theorem fits_literal_iff {text : α} {rest : Template α} {path ps : List α} :
    Fits filled (.literal text :: rest) path ps ↔
      ∃ xs, path = text :: xs ∧ Fits filled rest xs ps := by
  constructor
  · intro fits
    cases fits with
    | literal fits => exact ⟨_, rfl, fits⟩
  · rintro ⟨xs, rfl, fits⟩
    exact .literal fits

omit [DecidableEq α] in
@[simp] theorem fits_param_iff {rest : Template α} {path ps : List α} :
    Fits filled (.param :: rest) path ps ↔ ∃ x xs qs, path = x :: xs ∧ ps = x :: qs ∧
      takes filled x xs = true ∧ Fits filled rest xs qs := by
  constructor
  · intro fits
    cases fits with
    | param taken fits => exact ⟨_, _, _, rfl, rfl, taken, fits⟩
  · rintro ⟨x, xs, qs, rfl, rfl, taken, fits⟩
    exact .param taken fits

omit [DecidableEq α] in
/-- As many parameters as the template has. -/
theorem Fits.count {t : Template α} {path ps : List α} (fits : Fits filled t path ps) :
    ps.length = arity t := by
  induction fits with
  | nil => rfl
  | literal _ ih => simpa [arity] using ih
  | param _ _ ih => simpa [arity] using ih

end

end FlussGateway.Foundation.Routing
