import FlussGateway.Foundation.Schedule
import Mathlib.Algebra.BigOperators.Group.Finset.Basic
import Mathlib.Data.Fintype.BigOperators

/-!
# Tallies

Programs that count what has come out of them on counters they share. In whatever order their calls
reach the service, a counter has grown by the number of programs that have counted on it.
-/
namespace FlussGateway.Foundation.Tally

/-- What holds of some elements is counted key by key. -/
theorem countP_sum {α κ : Type} [DecidableEq κ] (key : α → κ) (p : α → Bool) {xs : List α}
    {keys : Finset κ} (all : ∀ x ∈ xs, key x ∈ keys) :
    xs.countP p = ∑ k ∈ keys, (xs.filter fun x => key x = k).countP p := by
  induction xs with
  | nil => simp
  | cons x xs ih =>
    have own : ∀ k, ((x :: xs).filter fun y => key y = k).countP p =
        (if key x = k then if p x then 1 else 0 else 0) + (xs.filter fun y => key y = k).countP p := by
      intro k
      by_cases same : key x = k
      · simp [same, List.countP_cons, Nat.add_comm]
      · simp [same]
    rw [List.countP_cons, ih fun y member => all y (List.mem_cons_of_mem _ member),
      Finset.sum_congr rfl fun k _ => own k, Finset.sum_add_distrib, Finset.sum_ite_eq,
      if_pos (all x List.mem_cons_self), Nat.add_comm]

variable {Op κ ε α σ τ : Type} {Reply : Op → Type}

/-- A call of the program, or one more on a counter. -/
inductive Counting (Op κ : Type) where
  | call (op : Op)
  | count (k : κ)

@[reducible] def Counting.Answer (Reply : Op → Type) : Counting Op κ → Type
  | .call op => Reply op
  | .count _ => Unit

def Counting.counted : Counting Op κ → Option κ
  | .call _ => none
  | .count k => some k

abbrev Entry (Reply : Op → Type) (κ : Type) := (op : Counting Op κ) × op.Answer Reply

/-- The counters are 64 bits wide and wrap around. -/
def counting [DecidableEq κ] (h : Program.Handler Op Reply σ) :
    Program.Handler (Counting Op κ) (Counting.Answer Reply) (σ × (κ → UInt64))
  | .call op, (s, m) => ((h op s).1, ((h op s).2, m))
  | .count k, (s, m) => ((), (s, Function.update m k (m k + 1)))

/-! ## Programs that count -/

/-- The program itself counts nothing. -/
def through (p : Program Op Reply ε α) : Program (Counting Op κ) (Counting.Answer Reply) ε α :=
  p.translate fun op => Program.perform (.call op)

def countAll : List κ → Program (Counting Op κ) (Counting.Answer Reply) ε Unit
  | [] => pure ()
  | k :: ks => do
    Program.perform (Counting.count k : Counting Op κ)
    countAll ks

/-- The program's value is counted before it is returned. -/
def observed (p : Program Op Reply ε α) (readings : α → List κ) :
    Program (Counting Op κ) (Counting.Answer Reply) ε α := do
  let a ← through p
  countAll (readings a)
  pure a

/-- The counters that have been counted on. -/
def counts (trace : List (Entry Reply κ)) : List κ := trace.filterMap fun e => e.1.counted

@[simp] theorem counts_append (xs ys : List (Entry Reply κ)) :
    counts (xs ++ ys) = counts xs ++ counts ys := List.filterMap_append

theorem through_ends {p : Program Op Reply ε α} {trace : List (Entry Reply κ)}
    {result : Outcome ε α} (ended : (through p).Ends trace result) :
    counts trace = [] ∧ ∃ own, p.Ends own result := by
  induction p generalizing trace with
  | done =>
    cases ended
    exact ⟨rfl, [], .done _⟩
  | call op next ih =>
    cases ended with
    | @call _ _ reply _ _ rest =>
      obtain ⟨none, own, ended⟩ := ih reply rest
      exact ⟨none, ⟨op, reply⟩ :: own, .call ended⟩

theorem through_follows {p : Program Op Reply ε α} {trace : List (Entry Reply κ)}
    (follows : (through p).Follows trace) : counts trace = [] := by
  induction p generalizing trace with
  | done =>
    cases follows
    rfl
  | call op next ih =>
    cases follows with
    | here => rfl
    | @call _ _ reply _ rest =>
      have none := ih reply rest
      exact none

theorem countAll_follows {ks : List κ} {trace : List (Entry Reply κ)}
    (follows : (countAll ks : Program _ _ ε Unit).Follows trace) : counts trace <+: ks := by
  induction ks generalizing trace with
  | nil =>
    cases follows
    exact List.nil_prefix
  | cons k ks ih =>
    cases follows with
    | here => exact List.nil_prefix
    | call rest => exact List.cons_prefix_cons.mpr ⟨rfl, ih rest⟩

theorem countAll_ends {ks : List κ} {trace : List (Entry Reply κ)} {result : Outcome ε Unit}
    (ended : (countAll ks : Program _ _ ε Unit).Ends trace result) :
    counts trace = ks ∧ result = .ok () := by
  induction ks generalizing trace with
  | nil =>
    cases ended
    exact ⟨rfl, rfl⟩
  | cons k ks ih =>
    cases ended with
    | call rest =>
      obtain ⟨same, ok⟩ := ih rest
      exact ⟨congrArg (k :: ·) same, ok⟩

section Observed

variable {p : Program Op Reply ε α} {readings : α → List κ} {trace : List (Entry Reply κ)}

/-- Until the program has returned nothing is counted, and then only what is read off its value. -/
theorem observed_follows (follows : (observed p readings).Follows trace) :
    counts trace = [] ∨ ∃ a own, p.Ends own (.ok a) ∧ counts trace <+: readings a := by
  rcases Program.follows_bind follows with early | ⟨a, before, after, returned, late, rfl⟩
  · exact .inl (through_follows early)
  · obtain ⟨none, own, ended⟩ := through_ends returned
    refine .inr ⟨a, own, ended, ?_⟩
    rw [counts_append, none, List.nil_append]
    rcases Program.follows_bind late with counted | ⟨_, _, _, counted, finished, rfl⟩
    · exact countAll_follows counted
    · cases finished
      rw [List.append_nil]
      exact countAll_follows counted.follows

theorem observed_returned {a : α} (ended : (observed p readings).Ends trace (.ok a)) :
    counts trace = readings a := by
  obtain ⟨_, _, _, returned, late, rfl⟩ := Program.ends_bind_ok ended
  obtain ⟨_, _, _, counted, finished, rfl⟩ := Program.ends_bind_ok late
  cases finished
  rw [counts_append, counts_append, (through_ends returned).1, (countAll_ends counted).1]
  exact List.append_nil _

/-- A program that fails leaves no count. -/
theorem observed_failed {fault : Fault ε} (ended : (observed p readings).Ends trace (.error fault)) :
    counts trace = [] := by
  rcases Program.ends_bind ended with ⟨_, failed, _⟩ | ⟨_, _, _, _, late, rfl⟩
  · exact (through_ends failed).1
  · rcases Program.ends_bind late with ⟨_, failed, _⟩ | ⟨_, _, _, _, finished, rfl⟩
    · cases (countAll_ends failed).2
    · cases finished

theorem observed_silent (p : Program Op Reply ε α) (silent : ∀ a, readings a = []) :
    observed p readings = through p := by
  unfold observed
  generalize (through p : Program (Counting Op κ) _ ε α) = q
  induction q with
  | done result =>
    cases result with
    | ok a =>
      change (countAll (readings a) >>= fun _ => pure a) = _
      rw [silent]
      rfl
    | error => rfl
  | call op next ih => exact congrArg (Program.call op) (funext ih)

end Observed

/-! ## Counters over a schedule -/

section Schedule

variable [DecidableEq κ] {h : Program.Handler Op Reply σ} {calls : List (τ × Counting Op κ)}
  {s : σ × (κ → UInt64)} {k : κ}

theorem counters_after : (Schedule.after (counting h) calls s).2 k =
    s.2 k + UInt64.ofNat ((calls.filterMap fun call => call.2.counted).count k) := by
  induction calls generalizing s with
  | nil => simp [Schedule.after]
  | cons call calls ih =>
    obtain ⟨tag, op⟩ := call
    rw [Schedule.after, ih]
    cases op with
    | call op => rfl
    | count k' =>
      have first : ((tag, Counting.count k') :: calls).filterMap (fun call => call.2.counted) =
          k' :: calls.filterMap fun call => call.2.counted := rfl
      rw [first]
      by_cases same : k' = k
      · subst same
        have more : (counting h (.count k') s).2.2 k' = s.2 k' + 1 := Function.update_self ..
        rw [List.count_cons_self, more, UInt64.add_assoc, Nat.add_comm, UInt64.ofNat_add]
        rfl
      · have kept : (counting h (.count k') s).2.2 k = s.2 k := Function.update_of_ne (Ne.symm same) ..
        rw [List.count_cons_of_ne same, kept]

theorem recorded_counts : counts ((Schedule.recorded (counting h) calls s).map Prod.snd) =
    calls.filterMap fun call => call.2.counted := by
  induction calls generalizing s with
  | nil => rfl
  | cons call calls ih =>
    have rest := ih (s := (counting h call.2 s).2)
    rw [Schedule.recorded, List.map_cons, List.filterMap_cons, ← rest]
    rfl

theorem recorded_tags : (Schedule.recorded (counting h) calls s).map Prod.fst =
    calls.map Prod.fst := by
  induction calls generalizing s with
  | nil => rfl
  | cons call calls ih => exact congrArg (call.1 :: ·) ih

variable [DecidableEq τ]

omit [DecidableEq τ] in
theorem count_counts (trace : List (Entry Reply κ)) :
    (counts trace).count k = trace.countP fun e => e.1.counted == some k := by
  rw [counts, List.count, List.countP_filterMap]
  refine List.countP_congr fun e _ => ?_
  obtain ⟨op, reply⟩ := e
  cases op <;> simp [Counting.counted]

/-- Each count is somebody's own. -/
theorem count_own (entries : List (τ × Entry Reply κ)) {tags : Finset τ}
    (all : ∀ e ∈ entries, e.1 ∈ tags) : (counts (entries.map Prod.snd)).count k =
      ∑ tag ∈ tags, (counts (Schedule.own tag entries)).count k := by
  simp only [count_counts]
  rw [List.countP_map, countP_sum Prod.fst _ all]
  refine Finset.sum_congr rfl fun tag _ => ?_
  rw [Schedule.own, List.countP_filterMap, List.countP_filter]
  refine List.countP_congr fun e _ => ?_
  by_cases own : e.1 = tag <;> simp [own]

/-- Who has counted on a counter so far. -/
def counted (h : Program.Handler Op Reply σ) (calls : List (τ × Counting Op κ))
    (s : σ × (κ → UInt64)) (k : κ) : Finset τ :=
  (calls.map Prod.fst).toFinset.filter fun tag =>
    k ∈ counts (Schedule.own tag (Schedule.recorded (counting h) calls s))

theorem mem_counted {tag : τ} : tag ∈ counted h calls s k ↔
    k ∈ counts (Schedule.own tag (Schedule.recorded (counting h) calls s)) := by
  refine Finset.mem_filter.trans (and_iff_right_of_imp fun member => ?_)
  obtain ⟨e, own, _⟩ := List.mem_filterMap.mp member
  rw [List.mem_toFinset, ← recorded_tags (h := h) (s := s)]
  exact List.mem_map_of_mem (Schedule.mem_own.mp own)

/-- Where nobody counts twice on one counter, it has grown by the number of those who have. -/
theorem counters_tally
    (once : ∀ tag, (counts (Schedule.own tag (Schedule.recorded (counting h) calls s))).Nodup) :
    (Schedule.after (counting h) calls s).2 k =
      s.2 k + UInt64.ofNat (counted h calls s k).card := by
  rw [counters_after, ← recorded_counts (h := h) (s := s), counted, Finset.card_filter,
    count_own _ fun e member => ?_]
  · exact congrArg (fun n => s.2 k + UInt64.ofNat n)
      (Finset.sum_congr rfl fun tag _ => (once tag).count)
  · rw [List.mem_toFinset, ← recorded_tags (h := h) (s := s)]
    exact List.mem_map_of_mem member

end Schedule

end FlussGateway.Foundation.Tally
