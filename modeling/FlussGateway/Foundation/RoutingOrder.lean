import FlussGateway.Foundation.Routing

/-!
# Which template is found

The search goes down one branch at a time and comes back from those that lead nowhere. What it finds
can be told without it: of the templates that fit the path it is the first, where a literal comes
before a parameter at the first segment in which two templates differ.
-/
namespace FlussGateway.Foundation.Routing

variable {α β : Type}

/-- At the first segment in which they differ this one has a literal and the other a parameter. -/
inductive Before : Template α → Template α → Prop where
  | first {text : α} {rest rest' : Template α} : Before (.literal text :: rest) (.param :: rest')
  | later {s : Segment α} {rest rest' : Template α} (before : Before rest rest') :
      Before (s :: rest) (s :: rest')

instance [DecidableEq α] : DecidableRel (Before (α := α)) := decideBefore
where
  decideBefore : (t t' : Template α) → Decidable (Before t t')
    | [], _ => .isFalse (by rintro ⟨⟩)
    | _ :: _, [] => .isFalse (by rintro ⟨⟩)
    | .literal _ :: _, .param :: _ => .isTrue .first
    | .param :: _, .literal _ :: _ => .isFalse (by rintro ⟨⟩)
    | .param :: rest, .param :: rest' =>
      match decideBefore rest rest' with
      | .isTrue before => .isTrue (.later before)
      | .isFalse not => .isFalse (by rintro (_ | before); exact not before)
    | .literal x :: rest, .literal y :: rest' =>
      if same : x = y then
        match decideBefore rest rest' with
        | .isTrue before => .isTrue (same ▸ .later before)
        | .isFalse not => .isFalse (by rintro (_ | before); exact not before)
      else .isFalse (by rintro (_ | before); exact same rfl)

theorem Before.asymm {t t' : Template α} (before : Before t t') : ¬Before t' t := by
  induction before with
  | first => rintro ⟨⟩
  | later _ ih =>
    rintro (_ | back)
    exact ih back

section Fits

variable {filled : α → Bool} {rest : Template α} {text x : α} {xs ps qs : List α}

/-- A template takes its parameters from a path in one way. -/
theorem Fits.unique {t : Template α} {path : List α} (fits : Fits filled t path ps)
    (other : Fits filled t path qs) : ps = qs := by
  induction fits generalizing qs with
  | nil =>
    cases other
    rfl
  | literal _ ih =>
    cases other with
    | literal other => exact ih other
  | param _ _ ih =>
    cases other with
    | param _ other => rw [ih other]

theorem Fits.length {t : Template α} {path : List α} (fits : Fits filled t path ps) :
    t.length = path.length := by
  induction fits with
  | nil => rfl
  | literal _ ih => exact congrArg (· + 1) ih
  | param _ _ ih => exact congrArg (· + 1) ih

/-- Of two templates that fit a path one comes first. -/
theorem Fits.total {t t' : Template α} {path : List α} (fits : Fits filled t path ps)
    (other : Fits filled t' path qs) : t = t' ∨ Before t t' ∨ Before t' t := by
  induction fits generalizing t' qs with
  | nil =>
    cases other
    exact .inl rfl
  | literal _ ih =>
    cases other with
    | literal other =>
      rcases ih other with rfl | before | after
      · exact .inl rfl
      · exact .inr (.inl (.later before))
      · exact .inr (.inr (.later after))
    | param _ other => exact .inr (.inl .first)
  | param _ _ ih =>
    cases other with
    | literal other => exact .inr (.inr .first)
    | param _ other =>
      rcases ih other with rfl | before | after
      · exact .inl rfl
      · exact .inr (.inl (.later before))
      · exact .inr (.inr (.later after))

@[simp] theorem fits_literal_cons : Fits filled (.literal text :: rest) (x :: xs) ps ↔
    text = x ∧ Fits filled rest xs ps := by
  rw [fits_literal_iff]
  constructor
  · rintro ⟨_, same, fits⟩
    cases same
    exact ⟨rfl, fits⟩
  · rintro ⟨rfl, fits⟩
    exact ⟨xs, rfl, fits⟩

@[simp] theorem fits_param_cons : Fits filled (.param :: rest) (x :: xs) ps ↔
    takes filled x xs = true ∧ ∃ qs, ps = x :: qs ∧ Fits filled rest xs qs := by
  rw [fits_param_iff]
  constructor
  · rintro ⟨_, _, qs, same, rfl, taken, fits⟩
    cases same
    exact ⟨taken, qs, rfl, fits⟩
  · rintro ⟨taken, qs, rfl, fits⟩
    exact ⟨x, xs, qs, rfl, rfl, taken, fits⟩

@[simp] theorem fits_end_iff {t : Template α} : Fits filled t [] ps ↔ t = [] ∧ ps = [] := by
  constructor
  · rintro ⟨⟩
    exact ⟨rfl, rfl⟩
  · rintro ⟨rfl, rfl⟩
    exact .nil

@[simp] theorem not_fits_ended : ¬Fits filled [] (x :: xs) ps := by
  rintro ⟨⟩

end Fits

variable [DecidableEq α]

/-- What the table holds at one template. -/
def Table.entriesAt (table : Table α β) (t : Template α) : List β :=
  table.filterMap fun e => if e.1 = t then some e.2 else none

section Entries

variable {table : Table α β} {t : Template α} {x : α} {b : β}

theorem mem_entriesAt : b ∈ table.entriesAt t ↔ (t, b) ∈ table := by
  simp [Table.entriesAt, List.mem_filterMap]

theorem entriesAt_literals :
    (table.literals x).entriesAt t = table.entriesAt (.literal x :: t) := by
  unfold Table.literals Table.entriesAt
  rw [List.filterMap_filterMap]
  refine congrArg (List.filterMap · table) (funext fun ⟨t', b⟩ => ?_)
  match t' with
  | [] | .param :: _ => rfl
  | .literal text :: rest =>
    by_cases same : text = x <;> simp [same]

theorem entriesAt_params : table.params.entriesAt t = table.entriesAt (.param :: t) := by
  unfold Table.params Table.entriesAt
  rw [List.filterMap_filterMap]
  refine congrArg (List.filterMap · table) (funext fun ⟨t', b⟩ => ?_)
  match t' with
  | [] | .literal _ :: _ => rfl
  | .param :: rest => simp

theorem ends_eq : table.ends = table.entriesAt [] := by
  refine congrArg (List.filterMap · table) (funext fun ⟨t', b⟩ => ?_)
  cases t' <;> simp

end Entries

/-! ## The search and the order -/

variable {filled : α → Bool} {table : Table α β} {path ps : List α} {bs : List β} {t : Template α}

/-- The template fits the path, and any other of the table that does comes after it. -/
structure Preferred (filled : α → Bool) (table : Table α β) (path ps : List α) (t : Template α) :
    Prop where
  fits : Fits filled t path ps
  least : ∀ e ∈ table, ∀ qs, Fits filled e.1 path qs → e.1 = t ∨ Before t e.1

theorem search_none (none : table.search filled path = none) :
    ∀ e ∈ table, ∀ qs, ¬Fits filled e.1 path qs := by
  rintro ⟨t, b⟩ member qs fits
  induction path generalizing table t qs with
  | nil =>
    obtain ⟨rfl, rfl⟩ := fits_end_iff.mp fits
    unfold Table.search at none
    split at none
    next ended =>
      have inside := Table.mem_ends.mpr member
      rw [List.isEmpty_iff.mp ended] at inside
      cases inside
    next => cases none
  | cons x xs ih =>
    unfold Table.search at none
    split at none
    next => cases none
    next literals =>
      match t with
      | [] => exact not_fits_ended fits
      | .literal text :: rest =>
        obtain ⟨rfl, below⟩ := fits_literal_cons.mp fits
        exact ih literals rest (Table.mem_literals.mpr member) qs below
      | .param :: rest =>
        obtain ⟨taken, qs', rfl, below⟩ := fits_param_cons.mp fits
        rw [if_pos taken, Option.map_eq_none_iff] at none
        exact ih none rest (Table.mem_params.mpr member) qs' below

theorem search_preferred (found : table.search filled path = some (bs, ps)) :
    ∃ t, Preferred filled table path ps t ∧ bs = table.entriesAt t ∧ bs ≠ [] := by
  induction path generalizing table bs ps with
  | nil =>
    unfold Table.search at found
    split at found
    next => cases found
    next some =>
      cases found
      refine ⟨[], ⟨fits_end_iff.mpr ⟨rfl, rfl⟩, fun e _ qs fits => ?_⟩, ends_eq, ?_⟩
      · exact .inl (fits_end_iff.mp fits).1
      · exact fun none => some (List.isEmpty_iff.mpr none)
  | cons x xs ih =>
    unfold Table.search at found
    split at found
    next literals =>
      cases found
      obtain ⟨t, preferred, rfl, some⟩ := ih literals
      refine ⟨.literal x :: t, ⟨fits_literal_cons.mpr ⟨rfl, preferred.fits⟩, ?_⟩,
        entriesAt_literals, some⟩
      rintro ⟨t', b⟩ member qs fits
      match t' with
      | [] => exact absurd fits not_fits_ended
      | .param :: rest => exact .inr .first
      | .literal text :: rest =>
        obtain ⟨rfl, below⟩ := fits_literal_cons.mp fits
        rcases preferred.least _ (Table.mem_literals.mpr member) qs below with same | before
        · exact .inl (congrArg (.literal text :: ·) same)
        · exact .inr (.later before)
    next literals =>
      split at found
      next taken =>
        obtain ⟨⟨bs', ps'⟩, params, same⟩ := Option.map_eq_some_iff.mp found
        cases same
        obtain ⟨t, preferred, rfl, some⟩ := ih params
        refine ⟨.param :: t, ⟨fits_param_cons.mpr ⟨taken, ps', rfl, preferred.fits⟩, ?_⟩,
          entriesAt_params, some⟩
        rintro ⟨t', b⟩ member qs fits
        match t' with
        | [] => exact absurd fits not_fits_ended
        | .literal text :: rest =>
          -- The literal branch has been searched in vain.
          obtain ⟨rfl, below⟩ := fits_literal_cons.mp fits
          exact absurd below (search_none literals _ (Table.mem_literals.mpr member) qs)
        | .param :: rest =>
          obtain ⟨_, qs', rfl, below⟩ := fits_param_cons.mp fits
          rcases preferred.least _ (Table.mem_params.mpr member) qs' below with same | before
          · exact .inl (congrArg (.param :: ·) same)
          · exact .inr (.later before)
      next => cases found

/-- What is found are the entries at the one template that the order prefers. -/
theorem search_some_iff : table.search filled path = some (bs, ps) ↔
    ∃ t, Preferred filled table path ps t ∧ bs = table.entriesAt t ∧ bs ≠ [] := by
  refine ⟨search_preferred, ?_⟩
  rintro ⟨t, preferred, rfl, some⟩
  obtain ⟨b, member⟩ := List.exists_mem_of_ne_nil _ some
  cases found : table.search filled path with
  | none => exact absurd preferred.fits (search_none found _ (mem_entriesAt.mp member) _)
  | some found' =>
    obtain ⟨t', preferred', same, some'⟩ := search_preferred found
    obtain ⟨b', member'⟩ := List.exists_mem_of_ne_nil _ some'
    rw [same] at member'
    have here := preferred'.least _ (mem_entriesAt.mp member) _ preferred.fits
    have there := preferred.least _ (mem_entriesAt.mp member') _ preferred'.fits
    obtain rfl : t = t' := by
      rcases here with same | before
      · exact same
      · rcases there with same | after
        · exact same.symm
        · exact absurd after before.asymm
    rw [preferred.fits.unique preferred'.fits, ← same]

end FlussGateway.Foundation.Routing
