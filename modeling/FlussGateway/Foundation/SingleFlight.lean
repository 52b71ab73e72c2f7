import FlussGateway.Foundation.LabelledRun
import Mathlib.Logic.Function.Basic

/-!
# A cache that runs one initialiser for a key

A request asks for the value under its key. On a hit it is answered from the cache, on a
miss it runs an initialiser, unless another request does so for the same key: then it waits
and is answered with that request's value. An initialiser may fail; those who wait for it
look again. Entries may be dropped at any time.
-/
namespace FlussGateway.Foundation.SingleFlight

variable {κ ν τ : Type} [DecidableEq κ] [DecidableEq τ]

inductive Status (ν : Type) where
  | absent
  | running
  | waiting
  | answered (v : ν)
  | failed

def Status.isWaiting : Status ν → Bool
  | .waiting => true
  | _ => false

structure State (κ ν τ : Type) where
  cached : κ → Option ν
  running : κ → Option τ
  status : τ → Status ν

inductive Event (κ ν τ : Type) where
  | ask (t : τ)
  | finish (t : τ) (v : ν)
  | fail (t : τ)
  | retry (t : τ)
  | evict (k : κ)
  | clear

namespace State

def empty : State κ ν τ := ⟨fun _ => none, fun _ => none, fun _ => .absent⟩

variable (key : τ → κ) (s : State κ ν τ)

def look (t : τ) : State κ ν τ :=
  match s.cached (key t), s.running (key t) with
  | some v, _ => { s with status := Function.update s.status t (.answered v) }
  | none, none => { s with
      running := Function.update s.running (key t) (some t)
      status := Function.update s.status t .running }
  | none, some _ => { s with status := Function.update s.status t .waiting }

/-- The value goes into the cache, to the request itself and to all that wait for its key. -/
def settle (t : τ) (v : ν) : State κ ν τ where
  cached := Function.update s.cached (key t) (some v)
  running := Function.update s.running (key t) none
  status u := if u = t ∨ (key u = key t ∧ (s.status u).isWaiting) then .answered v else s.status u

def abandon (t : τ) : State κ ν τ where
  cached := s.cached
  running := Function.update s.running (key t) none
  status := Function.update s.status t .failed

def step : Event κ ν τ → Option (State κ ν τ × Unit)
  | .ask t =>
    match s.status t with
    | .absent => some (s.look key t, ())
    | _ => none
  | .finish t v =>
    match s.status t with
    | .running => some (s.settle key t v, ())
    | _ => none
  | .fail t =>
    match s.status t with
    | .running => some (s.abandon key t, ())
    | _ => none
  | .retry t =>
    match s.status t, s.running (key t) with
    | .waiting, none => some (s.look key t, ())
    | _, _ => none
  | .evict k => some ({ s with cached := Function.update s.cached k none }, ())
  | .clear => some ({ s with cached := fun _ => none }, ())

end State

/-- Everything a step can be. -/
inductive Move (key : τ → κ) (s : State κ ν τ) : Event κ ν τ → State κ ν τ → Prop where
  | ask {t : τ} (at_ : s.status t = .absent) : Move key s (.ask t) (s.look key t)
  | finish {t : τ} {v : ν} (at_ : s.status t = .running) : Move key s (.finish t v)
      (s.settle key t v)
  | fail {t : τ} (at_ : s.status t = .running) : Move key s (.fail t) (s.abandon key t)
  | retry {t : τ} (at_ : s.status t = .waiting) : Move key s (.retry t) (s.look key t)
  | drop {e : Event κ ν τ} {cached : κ → Option ν}
      (fewer : ∀ k v, cached k = some v → s.cached k = some v) :
      Move key s e { s with cached := cached }

theorem step_cases {key : τ → κ} {s s' : State κ ν τ} {e : Event κ ν τ}
    (stepped : s.step key e = some (s', ())) :
    Move key s e s' := by
  cases e with
  | ask t =>
    simp only [State.step] at stepped
    split at stepped <;> cases stepped
    next at_ => exact .ask at_
  | finish t v =>
    simp only [State.step] at stepped
    split at stepped <;> cases stepped
    next at_ => exact .finish at_
  | fail t =>
    simp only [State.step] at stepped
    split at stepped <;> cases stepped
    next at_ => exact .fail at_
  | retry t =>
    simp only [State.step] at stepped
    split at stepped <;> cases stepped
    next at_ _ => exact .retry at_
  -- Both evictions only take values away.
  | evict k =>
    cases stepped
    refine .drop fun k' v present => ?_
    by_cases same : k' = k
    · rw [same, Function.update_self] at present
      cases present
    · rwa [Function.update_of_ne same] at present
  | clear =>
    cases stepped
    exact .drop fun _ _ present => by cases present

/-! ## Where values come from -/

abbrev Record (κ ν τ : Type) := List (Event κ ν τ × Unit)

/-- The value was returned by the initialiser of a request for the key, which had asked before. -/
def Made (key : τ → κ) (h : Record κ ν τ) (k : κ) (v : ν) : Prop :=
  ∃ u, key u = k ∧ (.finish u v, ()) ∈ h ∧ (.ask u, ()) ∈ h

structure Inv (key : τ → κ) (h : Record κ ν τ) (s : State κ ν τ) : Prop where
  cached : ∀ k v, s.cached k = some v → Made key h k v
  answered : ∀ t v, s.status t = .answered v → Made key h (key t) v
  running : ∀ t, s.status t = .running → s.running (key t) = some t
  asked : ∀ t, s.status t ≠ .absent → (.ask t, ()) ∈ h

omit [DecidableEq κ] [DecidableEq τ] in
theorem Made.later {key : τ → κ} {h : Record κ ν τ} {k : κ} {v : ν} (made : Made key h k v)
    (e : Event κ ν τ × Unit) :
    Made key (e :: h) k v := by
  obtain ⟨u, same, finished, asked⟩ := made
  exact ⟨u, same, List.mem_cons_of_mem _ finished, List.mem_cons_of_mem _ asked⟩

section Moves

variable {key : τ → κ} {h : Record κ ν τ} {s : State κ ν τ} (inv : Inv key h s) {t : τ}
    {e : Event κ ν τ × Unit}

include inv

omit [DecidableEq κ] in
/-- A move that changes the status of one request, and the table of initialisers to match. -/
theorem inv_status {x : Status ν} {running : κ → Option τ} (asked : (.ask t, ()) ∈ e :: h)
    (answered : ∀ v, x = .answered v → Made key h (key t) v)
    (own : x = .running → running (key t) = some t)
    (others : ∀ u, u ≠ t → s.status u = .running → running (key u) = some u) :
    Inv key (e :: h) ⟨s.cached, running, Function.update s.status t x⟩ := by
  -- The cache is as before; for the other three, the request itself and any other in turn.
  refine ⟨fun k v present => (inv.cached k v present).later e, fun u v answer => ?_,
    fun u runs => ?_, fun u known => ?_⟩
  all_goals by_cases same : u = t
  · subst same
    simp only [Function.update_self] at answer
    exact (answered v answer).later e
  · simp only [Function.update_of_ne same] at answer
    exact (inv.answered u v answer).later e
  · subst same
    simp only [Function.update_self] at runs
    exact own runs
  · simp only [Function.update_of_ne same] at runs
    exact others u same runs
  · subst same
    exact asked
  · simp only [Function.update_of_ne same] at known
    exact List.mem_cons_of_mem _ (inv.asked u known)

theorem inv_look (asked : (.ask t, ()) ∈ e :: h) : Inv key (e :: h) (s.look key t) := by
  unfold State.look
  split
  next v found =>
    refine inv_status inv asked ?_ nofun fun u _ runs => inv.running u runs
    rintro v' same
    cases same
    exact inv.cached _ _ found
  next free =>
    refine inv_status inv asked nofun (fun _ => Function.update_self ..) fun u _ runs => ?_
    -- Nobody runs for this key, so a request that runs has another key.
    have other : key u ≠ key t := by
      intro same
      have here := inv.running u runs
      rw [same, free] at here
      cases here
    rw [Function.update_of_ne other]
    exact inv.running u runs
  next => exact inv_status inv asked nofun nofun fun u _ runs => inv.running u runs

omit [DecidableEq κ] [DecidableEq τ] in
/-- Of the requests for one key at most one runs an initialiser. -/
theorem sole {u : τ} (runs : s.status t = .running) (runs' : s.status u = .running)
    (same : key u = key t) : u = t := by
  have here := inv.running u runs'
  rw [same, inv.running t runs, Option.some.injEq] at here
  exact here.symm

theorem inv_abandon (runs : s.status t = .running) : Inv key (e :: h) (s.abandon key t) := by
  refine inv_status inv
    (List.mem_cons_of_mem _ (inv.asked t (by rw [runs]; nofun))) nofun nofun fun u other runs' => ?_
  have apart : key u ≠ key t := fun same => other (sole inv runs runs' same)
  rw [Function.update_of_ne apart]
  exact inv.running u runs'

theorem inv_settle {v : ν} (runs : s.status t = .running) :
    Inv key ((.finish t v, ()) :: h) (s.settle key t v) := by
  have asked := inv.asked t (by rw [runs]; nofun)
  have made : Made key ((.finish t v, ()) :: h) (key t) v :=
    ⟨t, rfl, List.mem_cons_self .., List.mem_cons_of_mem _ asked⟩
  refine ⟨fun k w present => ?_, fun u w answer => ?_, fun u runs' => ?_, fun u known => ?_⟩
  · simp only [State.settle] at present
    by_cases same : k = key t
    · rw [same, Function.update_self, Option.some.injEq] at present
      subst same present
      exact made
    · rw [Function.update_of_ne same] at present
      exact (inv.cached k w present).later _
  all_goals simp only [State.settle] at *
  -- The request and those who wait are for the same key, so the value is theirs too.
  · split at answer
    next mine =>
      cases answer
      rcases mine with rfl | ⟨same, _⟩
      · exact made
      · rw [same]
        exact made
    next => exact (inv.answered u w answer).later _
  · split at runs'
    next => cases runs'
    next other =>
      have apart : key u ≠ key t := fun same => other (.inl (sole inv runs runs' same))
      rw [Function.update_of_ne apart]
      exact inv.running u runs'
  · split at known
    next mine =>
      rcases mine with rfl | ⟨_, waits⟩
      · exact List.mem_cons_of_mem _ asked
      · refine List.mem_cons_of_mem _ (inv.asked u fun absent => ?_)
        rw [absent] at waits
        cases waits
    next => exact List.mem_cons_of_mem _ (inv.asked u known)

end Moves

/-- Over every run: what is cached or answered under a key was made by the initialiser of a request
for that key. -/
theorem inv_run {key : τ → κ} {h : Record κ ν τ} {s : State κ ν τ}
    (run : Run (State.step key) .empty h s) :
    Inv key h s := by
  refine run.record_invariant (I := Inv key) ⟨nofun, nofun, nofun,
    fun t known => absurd rfl known⟩ ?_
  intro h s e s' _ inv stepped
  cases step_cases stepped with
  | ask => exact inv_look inv (List.mem_cons_self ..)
  | finish runs => exact inv_settle inv runs
  | fail runs => exact inv_abandon inv runs
  | retry waits => exact inv_look inv (List.mem_cons_of_mem _ (inv.asked _ (by rw [waits]; nofun)))
  | drop fewer =>
    exact ⟨fun k v present => (inv.cached k v (fewer k v present)).later _,
      fun t v answer => (inv.answered t v answer).later _, inv.running,
      fun t known => List.mem_cons_of_mem _ (inv.asked t known)⟩

end FlussGateway.Foundation.SingleFlight
