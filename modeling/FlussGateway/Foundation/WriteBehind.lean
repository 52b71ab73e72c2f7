import FlussGateway.Foundation.KeyedContent
import FlussGateway.Foundation.Schedule

/-!
# Write-behind buffers

Changes wait in buffers, each a queue, and are settled from the front. Some may be settled at any time;
a flush settles all that waits in the buffers it covers. Whoever shares the buffers, nothing is
lost, nothing is settled twice, and what one tag puts into a buffer takes effect in its order.
-/
namespace FlussGateway.Foundation.WriteBehind

variable {β τ κ ν : Type}

structure State (β κ ν : Type) where
  stored : Content κ ν
  queued : β → List (Change κ ν)

inductive Event (β κ ν : Type) where
  | put (buffer : β) (change : Change κ ν)
  | flush (covers : β → Prop)
  | quiet

/-- The change an event puts into some buffer. -/
def Event.change : Event β κ ν → Option (Change κ ν)
  | .put _ c => some c
  | _ => none

section Steps

variable [DecidableEq β] [DecidableEq κ]

namespace State

/-- The first changes of a buffer take effect. -/
def settle (s : State β κ ν) (b : β) (n : Nat) : State β κ ν where
  stored := s.stored.replay ((s.queued b).take n)
  queued := Function.update s.queued b ((s.queued b).drop n)

def put (s : State β κ ν) (b : β) (c : Change κ ν) : State β κ ν where
  stored := s.stored
  queued := Function.update s.queued b (s.queued b ++ [c])

end State

/-- Changes have been settled in the background. -/
inductive Drains (s : State β κ ν) : State β κ ν → Prop where
  | refl : Drains s s
  | settle {mid : State β κ ν} (b : β) (n : Nat) (drains : Drains s mid) : Drains s (mid.settle b n)

inductive Step (s : State β κ ν) : Event β κ ν → State β κ ν → Prop where
  | put {mid : State β κ ν} (b : β) (c : Change κ ν) (drains : Drains s mid) :
      Step s (.put b c) (mid.put b c)
  | flush {mid : State β κ ν} (covers : β → Prop) (drains : Drains s mid)
      (empty : ∀ b, covers b → mid.queued b = []) : Step s (.flush covers) mid
  | quiet {mid : State β κ ν} (drains : Drains s mid) : Step s .quiet mid

/-- A run under events of any tags. -/
inductive Runs (s : State β κ ν) : List (τ × Event β κ ν) → State β κ ν → Prop where
  | nil : Runs s [] s
  | next {es : List (τ × Event β κ ν)} {mid s' : State β κ ν} {e : Event β κ ν} (tag : τ)
      (run : Runs s es mid) (stepped : Step mid e s') : Runs s (es ++ [(tag, e)]) s'

theorem Runs.trans {s mid s' : State β κ ν} {es fs : List (τ × Event β κ ν)} (first : Runs s es mid)
    (rest : Runs mid fs s') : Runs s (es ++ fs) s' := by
  induction rest with
  | nil => rwa [List.append_nil]
  | next tag _ stepped ih =>
    rw [← List.append_assoc]
    exact .next tag ih stepped

theorem Runs.single {s s' : State β κ ν} {e : Event β κ ν} (tag : τ) (stepped : Step s e s') :
    Runs s [(tag, e)] s' := .next tag .nil stepped

end Steps

/-! ## Accounting -/

section Account

variable [DecidableEq β] [DecidableEq τ]

/-- The changes that have been put, each with its buffer and its tag. -/
def placed (es : List (τ × Event β κ ν)) : List (β × τ × Change κ ν) :=
  es.filterMap fun
    | (tag, .put b c) => some (b, tag, c)
    | _ => none

/-- The changes put into a buffer, with their tags. -/
def puts (b : β) (es : List (τ × Event β κ ν)) : List (τ × Change κ ν) := Schedule.own b (placed es)

omit [DecidableEq β] [DecidableEq τ] in
theorem mem_placed {b : β} {tag : τ} {c : Change κ ν} {es : List (τ × Event β κ ν)} :
    (b, tag, c) ∈ placed es ↔ (tag, .put b c) ∈ es := by
  rw [placed, List.mem_filterMap]
  constructor
  · rintro ⟨⟨tag', e⟩, member, same⟩
    cases e with
    | put b' c' => cases same; exact member
    | flush | quiet => cases same
  · exact fun member => ⟨_, member, rfl⟩

omit [DecidableEq τ] in
theorem puts_append (b : β) (es fs : List (τ × Event β κ ν)) :
    puts b (es ++ fs) = puts b es ++ puts b fs := by
  rw [puts, placed, List.filterMap_append]
  exact Schedule.own_append ..

omit [DecidableEq β] in
theorem own_placed (tag : τ) (es : List (τ × Event β κ ν)) :
    Schedule.own tag ((placed es).map Prod.snd) = (Schedule.own tag es).filterMap Event.change := by
  rw [placed, Schedule.own, Schedule.own, List.map_filterMap, List.filterMap_filterMap,
    List.filterMap_filterMap]
  refine List.filterMap_congr fun entry _ => ?_
  obtain ⟨tag', e⟩ := entry
  by_cases own : tag' = tag <;> cases e <;> simp [own, Event.change]

/-- The tag has put something into the buffer that no flush has followed. -/
def Waits (es : List (τ × Event β κ ν)) (tag : τ) (b : β) : Prop :=
  ∃ front c back, es = front ++ (tag, .put b c) :: back ∧
    ∀ other covers, (other, .flush covers) ∈ back → ¬covers b

omit [DecidableEq β] [DecidableEq τ] in
theorem Waits.snoc {es : List (τ × Event β κ ν)} {tag other : τ} {b : β} {e : Event β κ ν}
    (waits : Waits es tag b) (unflushed : ∀ covers, e = .flush covers → ¬covers b) :
    Waits (es ++ [(other, e)]) tag b := by
  obtain ⟨front, c, back, rfl, none⟩ := waits
  refine ⟨front, c, back ++ [(other, e)], by simp, fun tag' covers member => ?_⟩
  rcases List.mem_append.mp member with before | last
  · exact none tag' covers before
  · cases List.mem_singleton.mp last
    exact unflushed covers rfl

variable [DecidableEq κ]

/-- What has been settled and what still waits, buffer by buffer and with the tags, is what has been put
there. -/
structure Account (start : Content κ ν) (es : List (τ × Event β κ ν)) (s : State β κ ν)
    (settled : List (β × τ × Change κ ν)) (waiting : β → List (τ × Change κ ν)) : Prop where
  stored : s.stored = start.replay (settled.map fun e => e.2.2)
  queued : ∀ b, s.queued b = (waiting b).map Prod.snd
  all : ∀ b, Schedule.own b settled ++ waiting b = puts b es
  waits : ∀ tag b, Schedule.own tag (waiting b) ≠ [] → Waits es tag b

/-- Some account of the state. -/
def Accounted (start : Content κ ν) (es : List (τ × Event β κ ν)) (s : State β κ ν) : Prop :=
  ∃ settled waiting, Account start es s settled waiting

variable {start : Content κ ν} {es : List (τ × Event β κ ν)} {s s' : State β κ ν}

theorem Accounted.settle (accounted : Accounted start es s) (b : β) (n : Nat) :
    Accounted start es (s.settle b n) := by
  obtain ⟨settled, waiting, account⟩ := accounted
  refine ⟨settled ++ ((waiting b).take n).map (fun x => (b, x)),
    Function.update waiting b ((waiting b).drop n), ?_, fun b' => ?_, fun b' => ?_, fun tag b' more => ?_⟩
  · rw [State.settle, account.stored, account.queued, List.map_append, Content.replay_append,
      List.map_map, ← List.map_take]
    rfl
  · by_cases here : b' = b
    · subst here
      simp only [State.settle, Function.update_self, account.queued, List.map_drop]
    · simp only [State.settle, Function.update_of_ne here, account.queued]
  · by_cases here : b' = b
    · subst here
      rw [Schedule.own_append, Schedule.own_map_self, Function.update_self, List.append_assoc, List.take_append_drop]
      exact account.all b'
    · rw [Schedule.own_append, Schedule.own_map_ne (Ne.symm here), Function.update_of_ne here, List.append_nil]
      exact account.all b'
  · refine account.waits tag b' fun none => more ?_
    by_cases here : b' = b
    · subst here
      -- What is left was waiting before.
      rw [Function.update_self]
      refine List.filterMap_eq_nil_iff.mpr fun x member => ?_
      exact List.filterMap_eq_nil_iff.mp none x (List.mem_of_mem_drop member)
    · rw [Function.update_of_ne here]
      exact none

theorem Accounted.drains (accounted : Accounted start es s) (drains : Drains s s') :
    Accounted start es s' := by
  induction drains with
  | refl => exact accounted
  | settle b n _ ih => exact ih.settle b n

theorem Accounted.put (accounted : Accounted start es s) (tag : τ) (b : β) (c : Change κ ν) :
    Accounted start (es ++ [(tag, .put b c)]) (s.put b c) := by
  obtain ⟨settled, waiting, account⟩ := accounted
  have here : puts b [(tag, Event.put b c)] = [(tag, c)] := by simp [puts, placed, Schedule.own]
  refine ⟨settled, Function.update waiting b (waiting b ++ [(tag, c)]), account.stored, fun b' => ?_,
    fun b' => ?_, fun other b' more => ?_⟩
  · by_cases same : b' = b
    · subst same
      simp [State.put, account.queued]
    · simp only [State.put, Function.update_of_ne same, account.queued]
  · by_cases same : b' = b
    · subst same
      rw [Function.update_self, puts_append, here, ← List.append_assoc, account.all]
    · have elsewhere : puts b' [(tag, Event.put b c)] = [] := by
        simp [puts, placed, Schedule.own, Ne.symm same]
      rw [Function.update_of_ne same, puts_append, elsewhere, List.append_nil, account.all]
  · by_cases same : b' = b
    · subst same
      rw [Function.update_self, Schedule.own_append] at more
      by_cases own : tag = other
      · subst own
        exact ⟨es, c, [], rfl, fun _ _ member => absurd member List.not_mem_nil⟩
      · rw [Schedule.own_cons_ne own] at more
        exact (account.waits other b' fun none => more (by rw [none]; rfl)).snoc fun _ same => by
          cases same
    · rw [Function.update_of_ne same] at more
      exact (account.waits other b' more).snoc fun _ same => by cases same

theorem Accounted.quiet (accounted : Accounted start es s) (tag : τ) :
    Accounted start (es ++ [(tag, .quiet)]) s := by
  obtain ⟨settled, waiting, account⟩ := accounted
  refine ⟨settled, waiting, account.stored, account.queued, fun b => ?_, fun other b more =>
    (account.waits other b more).snoc nofun⟩
  have none : puts b [(tag, (Event.quiet : Event β κ ν))] = [] := by simp [puts, placed, Schedule.own]
  rw [puts_append, none, List.append_nil, account.all]

theorem Accounted.flush (accounted : Accounted start es s) (tag : τ) {covers : β → Prop}
    (empty : ∀ b, covers b → s.queued b = []) : Accounted start (es ++ [(tag, .flush covers)]) s := by
  obtain ⟨settled, waiting, account⟩ := accounted
  refine ⟨settled, waiting, account.stored, account.queued, fun b => ?_, fun other b more => ?_⟩
  · have none : puts b [(tag, (Event.flush covers : Event β κ ν))] = [] := by simp [puts, placed, Schedule.own]
    rw [puts_append, none, List.append_nil, account.all]
  · refine (account.waits other b more).snoc fun covers' same covered => ?_
    cases same
    -- Nothing waits in a buffer that has just been flushed.
    have none := empty b covered
    rw [account.queued, List.map_eq_nil_iff] at none
    rw [none] at more
    exact more rfl

theorem Accounted.step (accounted : Accounted start es s) (tag : τ) {e : Event β κ ν}
    (stepped : Step s e s') : Accounted start (es ++ [(tag, e)]) s' := by
  cases stepped with
  | put b c drains => exact (accounted.drains drains).put tag b c
  | flush covers drains empty => exact (accounted.drains drains).flush tag empty
  | quiet drains => exact (accounted.drains drains).quiet tag

/-- Every run from empty buffers can be accounted for. -/
theorem Runs.accounted (run : Runs s es s') (empty : ∀ b, s.queued b = []) :
    Accounted s.stored es s' := by
  induction run with
  | nil =>
    refine ⟨[], fun _ => [], rfl, empty, fun _ => rfl, fun tag b more => absurd rfl more⟩
  | next tag _ stepped ih => exact ih.step tag stepped

/-- The final content is the first one under the changes that have been settled. Of every buffer these are,
for each tag, a first part of what the tag has put there, in the order of its puts, and all of it
once that has been flushed. -/
theorem Runs.settles (run : Runs s es s') (empty : ∀ b, s.queued b = []) :
    ∃ settled : List (β × τ × Change κ ν),
      s'.stored = s.stored.replay (settled.map fun e => e.2.2) ∧ ∀ b tag,
        Schedule.own tag (Schedule.own b settled) <+: Schedule.own tag (puts b es) ∧
        (¬Waits es tag b →
          Schedule.own tag (Schedule.own b settled) = Schedule.own tag (puts b es)) := by
  obtain ⟨settled, waiting, account⟩ := run.accounted empty
  refine ⟨settled, account.stored, fun b tag => ?_⟩
  rw [← account.all b, Schedule.own_append]
  refine ⟨List.prefix_append .., fun flushed => ?_⟩
  have none : Schedule.own tag (waiting b) = [] :=
    by_contra fun more => flushed (account.waits tag b more)
  rw [none, List.append_nil]

/-- Where key and tag decide the buffer, what one tag has put under one key takes effect in its order,
and all of it once that buffer has been flushed. -/
theorem Runs.interleaves (run : Runs s es s') (empty : ∀ b, s.queued b = []) (home : τ → κ → β)
    (atHome : ∀ tag b c, (tag, .put b c) ∈ es → b = home tag c.key) :
    ∃ log : List (τ × Change κ ν), s'.stored = s.stored.replay (log.map Prod.snd) ∧ ∀ tag k,
      Change.naming k (Schedule.own tag log) <+:
        Change.naming k ((Schedule.own tag es).filterMap Event.change) ∧
      (¬Waits es tag (home tag k) → Change.naming k (Schedule.own tag log) =
        Change.naming k ((Schedule.own tag es).filterMap Event.change)) := by
  obtain ⟨settled, stored, each⟩ := run.settles empty
  refine ⟨settled.map Prod.snd, by rw [stored, List.map_map]; rfl, fun tag k => ?_⟩
  -- What has been settled was put before, so it is at its home too.
  have was : ∀ e ∈ settled, e ∈ placed es := by
    rintro ⟨b, tag', c⟩ member
    have own := (each b tag').1.subset (Schedule.mem_own.mpr (Schedule.mem_own.mpr member))
    exact Schedule.mem_own.mp (Schedule.mem_own.mp own)
  have selects : ∀ {entries : List (β × τ × Change κ ν)}, (∀ e ∈ entries, e ∈ placed es) →
      Change.naming k (Schedule.own tag (Schedule.own (home tag k) entries)) =
        Change.naming k (Schedule.own tag (entries.map Prod.snd)) := by
    refine fun inside => Schedule.own_own ?_
    rintro ⟨b, tag', c⟩ member rfl named
    rw [← of_decide_eq_true named]
    exact atHome tag' b c (mem_placed.mp (inside _ member))
  obtain ⟨first, all⟩ := each (home tag k) tag
  rw [← own_placed, ← selects was, ← selects fun _ => id]
  exact ⟨first.filter _, fun flushed => by rw [all flushed]; rfl⟩

end Account

end FlussGateway.Foundation.WriteBehind
