import Mathlib.Data.List.Basic
import Mathlib.Logic.Function.Basic

/-!
# Outboxes

Items wait in the outbox of their key. A flush writes everything that waits there; a drain
writes some of it, as a flush that fails may have done. Nothing is taken back.
-/
namespace FlussGateway.Foundation

namespace Outbox

variable {κ α : Type}

inductive Event (κ α : Type) where
  | put (key : κ) (item : α)
  | flush (key : κ)
  | drain (key : κ)
  | other

structure State (κ α : Type) where
  waiting : κ → List α
  written : List α

def State.empty : State κ α := ⟨fun _ => [], []⟩

/-- The item is in the outbox of the key, or has been written. -/
def State.Holds (s : State κ α) (key : κ) (item : α) : Prop :=
  item ∈ s.waiting key ∨ item ∈ s.written

/-- The item is in some outbox, or has been written. -/
def State.Present (s : State κ α) (item : α) : Prop :=
  (∃ key, item ∈ s.waiting key) ∨ item ∈ s.written

variable [DecidableEq κ]

inductive Step (s : State κ α) : Event κ α → State κ α → Prop where
  | put (key : κ) (item : α) :
    Step s (.put key item) ⟨Function.update s.waiting key (s.waiting key ++ [item]), s.written⟩
  | flush (key : κ) : Step s (.flush key) ⟨Function.update s.waiting key [],
      s.written ++ s.waiting key⟩
  | drain {key : κ} {sent kept : List α} (split : (s.waiting key).Perm (sent ++ kept)) :
    Step s (.drain key) ⟨Function.update s.waiting key kept, s.written ++ sent⟩
  | other : Step s .other s

inductive Runs : State κ α → List (Event κ α) → State κ α → Prop where
  | nil (s : State κ α) : Runs s [] s
  | cons {s mid s' : State κ α} {e : Event κ α} {es : List (Event κ α)} (stepped : Step s e mid)
      (rest : Runs mid es s') :
    Runs s (e :: es) s'

variable {s s' : State κ α} {e : Event κ α} {es : List (Event κ α)} {key : κ} {item : α}

/-! ## An outbox replaced -/

section Update

variable {waiting : κ → List α} {items : List α} {other : κ}

theorem mem_update_self (member : item ∈ items) : item ∈ Function.update waiting key items key := by
  rwa [Function.update_self]

theorem mem_update_ne (ne : other ≠ key) (member : item ∈ waiting other) :
    item ∈ Function.update waiting key items other := by
  rwa [Function.update_of_ne ne]

theorem mem_update (member : item ∈ Function.update waiting key items other) :
    item ∈ items ∨ item ∈ waiting other := by
  by_cases same : other = key
  · subst same
    rw [Function.update_self] at member
    exact .inl member
  · rw [Function.update_of_ne same] at member
    exact .inr member

end Update

/-! ## What one event does -/

theorem Step.possible (s : State κ α) (e : Event κ α) : ∃ s', Step s e s' := by
  cases e with
  | put key item => exact ⟨_, .put key item⟩
  | flush key => exact ⟨_, .flush key⟩
  | drain key => exact ⟨_, .drain (List.Perm.refl ([] ++ s.waiting key))⟩
  | other => exact ⟨_, .other⟩

/-- An item leaves its outbox only by being written. -/
theorem Step.holds (stepped : Step s e s') (held : s.Holds key item) : s'.Holds key item := by
  rcases held with waits | written
  · cases stepped with
    | put other new =>
      by_cases same : key = other
      · subst same
        exact .inl (mem_update_self (List.mem_append_left _ waits))
      · exact .inl (mem_update_ne same waits)
    | flush other =>
      by_cases same : key = other
      · subst same
        exact .inr (List.mem_append_right _ waits)
      · exact .inl (mem_update_ne same waits)
    | @drain other sent kept split =>
      by_cases same : key = other
      · subst same
        -- A drain splits what waits: one part is written, the other still waits.
        rcases List.mem_append.mp (split.mem_iff.mp waits) with gone | stays
        · exact .inr (List.mem_append_right _ gone)
        · exact .inl (mem_update_self stays)
      · exact .inl (mem_update_ne same waits)
    | other => exact .inl waits
  · cases stepped with
    | put | other => exact .inr written
    | flush | drain => exact .inr (List.mem_append_left _ written)

theorem Step.put_holds (stepped : Step s (.put key item) s') : s'.Holds key item := by
  cases stepped
  exact .inl (mem_update_self (List.mem_append_right _ (List.mem_singleton_self item)))

theorem Step.flush_writes (stepped : Step s (.flush key) s') (held : s.Holds key item) :
    item ∈ s'.written := by
  cases stepped
  rcases held with waits | written
  · exact List.mem_append_right _ waits
  · exact List.mem_append_left _ written

theorem Step.written (stepped : Step s e s') (written : item ∈ s.written) : item ∈ s'.written := by
  cases stepped with
  | put | other => exact written
  | flush | drain => exact List.mem_append_left _ written

/-- What is there after an event was there before, or has just been put there. -/
theorem Step.present_inv (stepped : Step s e s') (present : s'.Present item) :
    s.Present item ∨ ∃ key, e = .put key item := by
  rcases present with ⟨other, waits⟩ | written
  -- Still waiting: an event may only add to the queue of its own key.
  · cases stepped with
    | put key new =>
      rcases mem_update waits with changed | same
      · rcases List.mem_append.mp changed with before | added
        · exact .inl (.inl ⟨key, before⟩)
        · exact .inr ⟨key, by rw [List.mem_singleton.mp added]⟩
      · exact .inl (.inl ⟨other, same⟩)
    | flush key =>
      rcases mem_update waits with changed | same
      · cases changed
      · exact .inl (.inl ⟨other, same⟩)
    | drain split =>
      rcases mem_update waits with changed | same
      · exact .inl (.inl ⟨_, split.mem_iff.mpr (List.mem_append_right _ changed)⟩)
      · exact .inl (.inl ⟨other, same⟩)
    | other => exact .inl (.inl ⟨other, waits⟩)
  · cases stepped with
    -- Written: it waited before, or was written before.
    | put | other => exact .inl (.inr written)
    | flush key =>
      rcases List.mem_append.mp written with before | waited
      · exact .inl (.inr before)
      · exact .inl (.inl ⟨key, waited⟩)
    | drain split =>
      rcases List.mem_append.mp written with before | gone
      · exact .inl (.inr before)
      · exact .inl (.inl ⟨_, split.mem_iff.mpr (List.mem_append_left _ gone)⟩)

/-! ## What any events do -/

theorem Runs.possible (s : State κ α) (es : List (Event κ α)) : ∃ s', Runs s es s' := by
  induction es generalizing s with
  | nil => exact ⟨s, .nil s⟩
  | cons e es ih =>
    obtain ⟨mid, stepped⟩ := Step.possible s e
    obtain ⟨s', rest⟩ := ih mid
    exact ⟨s', .cons stepped rest⟩

theorem Runs.split {fs : List (Event κ α)} (run : Runs s (es ++ fs) s') :
    ∃ mid, Runs s es mid ∧ Runs mid fs s' := by
  induction es generalizing s with
  | nil => exact ⟨s, .nil s, run⟩
  | cons e es ih =>
    cases run with
    | cons stepped rest =>
      obtain ⟨mid, first, last⟩ := ih rest
      exact ⟨mid, .cons stepped first, last⟩

theorem Runs.holds (run : Runs s es s') (held : s.Holds key item) : s'.Holds key item := by
  induction run with
  | nil => exact held
  | cons stepped _ ih => exact ih (stepped.holds held)

theorem Runs.written (run : Runs s es s') (written : item ∈ s.written) : item ∈ s'.written := by
  induction run with
  | nil => exact written
  | cons stepped _ ih => exact ih (stepped.written written)

theorem Runs.put_holds (run : Runs s es s') (put : .put key item ∈ es) : s'.Holds key item := by
  induction run with
  | nil => cases put
  | cons stepped rest ih =>
    rcases List.mem_cons.mp put with rfl | later
    · exact rest.holds stepped.put_holds
    · exact ih later

theorem Runs.flush_writes (run : Runs s es s') (flushed : .flush key ∈ es)
    (held : s.Holds key item) :
    item ∈ s'.written := by
  induction run with
  | nil => cases flushed
  | cons stepped rest ih =>
    rcases List.mem_cons.mp flushed with rfl | later
    · exact rest.written (stepped.flush_writes held)
    · exact ih later (stepped.holds held)

/-- Whoever flushes a key writes what anybody has put there before. -/
theorem Runs.put_flushed {fs : List (Event κ α)} (run : Runs s (es ++ fs) s')
    (put : .put key item ∈ es) (flushed : .flush key ∈ fs) : item ∈ s'.written := by
  obtain ⟨mid, first, last⟩ := run.split
  exact last.flush_writes flushed (first.put_holds put)

theorem Runs.present_inv (run : Runs s es s') (present : s'.Present item) :
    s.Present item ∨ ∃ key, .put key item ∈ es := by
  induction run with
  | nil => exact .inl present
  | cons stepped _ ih =>
    rcases ih present with before | ⟨key, put⟩
    · rcases stepped.present_inv before with earlier | ⟨key, rfl⟩
      · exact .inl earlier
      · exact .inr ⟨key, List.mem_cons_self⟩
    · exact .inr ⟨key, List.mem_cons_of_mem _ put⟩

/-- Only what was put somewhere is ever written. -/
theorem Runs.put_of_written (run : Runs .empty es s') (written : item ∈ s'.written) :
    ∃ key, .put key item ∈ es := by
  rcases run.present_inv (.inr written) with (⟨_, waits⟩ | before) | put
  · cases waits
  · cases before
  · exact put

end Outbox

end FlussGateway.Foundation
