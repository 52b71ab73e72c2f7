import FlussGateway.Lifecycle.Effects

/-!
# Restarting

`restart` composes `stop` and `start`, whose refusals exit the script. From every state that a
history of commands and crashes can leave, it ends with one new gateway exactly when there is a
PID file to stop from.
-/
namespace FlussGateway.Lifecycle

open FlussGateway.Foundation Machine

/-! ## Histories -/

/-- The PID file that a command with these arguments is about. -/
def pidFileOf (args : List String) : String := ((default : Globals).withPidFile args).pidFile

section History

variable {self projectDir pf : String} {s s' : Machine}

/-- What commands on one PID file and crashes of its gateways leave, in any order. -/
inductive Reachable (self projectDir pf : String) : Machine → Prop where
  | fresh {s : Machine} (absent : s.pidFiles pf = none) (idle : s.running = ∅)
      (unasked : s.terminating = ∅) : Reachable self projectDir pf s
  | command {s s' : Machine} {argv : List String} {result : Outcome ExitStatus Unit}
      (reached : Reachable self projectDir pf s) (on : pidFileOf argv.tail = pf)
      (ran : Program.Runs react (script self projectDir argv) s result s') :
      Reachable self projectDir pf s'
  | crash {s : Machine} (pid : Pid) (reached : Reachable self projectDir pf s) :
      Reachable self projectDir pf { s with running := s.running.erase pid }

/-- Every command keeps the file and the gateways consistent, however it ends. -/
theorem script_keeps {argv : List String} (consistent : Consistent pf s)
    (on : pidFileOf argv.tail = pf) :
    (script self projectDir argv).Ensures react (fun _ => Consistent pf)
      (fun _ => Consistent pf) s := by
  have settled := consistent.settled
  refine .bind (resolveBinary_ensures settled fun runCmd => ?_)
  split
  next args =>
    refine .bind (doStart_ensures consistent ((pidFile_read ..).trans on) ?_ ?_ ?_)
    · exact fun pid new idle can => consistent.of_launched new idle can
    · exact fun pid new cannot => consistent.of_unwritten new cannot
    · exact fun _ _ _ => consistent
  next args =>
    refine .bind ?_
    cases content : s.pidFiles pf with
    | none => exact doStop_absent settled on content consistent
    | some pid => exact doStop_present consistent on content fun _ cleared => .of_cleared consistent.plain cleared
  next args =>
    refine .bind ?_
    cases content : s.pidFiles pf with
    | none => exact doRestart_absent settled on content consistent
    | some pid => exact doRestart_present consistent on content fun _ _ _ kept => kept
  next args =>
    refine .bind ((doStatus_ensures settled).mono ?_ ?_)
    · rintro status _ rfl
      unfold checked
      split <;> exact consistent
    · rintro fault _ rfl
      exact consistent
  next =>
    exact .bind (printLines_ensures _ settled consistent)

theorem reachable_consistent (plain : dashed pf = false) (reached : Reachable self projectDir pf s) :
    Consistent pf s := by
  induction reached with
  | fresh absent idle unasked => exact .of_fresh plain absent idle unasked
  | command _ on ran ih => exact (script_keeps ih on).after ran
  | crash pid _ ih => exact ih.of_crashed pid

/-! ## When a restart ends running -/

/-- A gateway that was not there before is running and is named in the file, and no other is. -/
def Restarted (pf : String) (s s' : Machine) : Prop :=
  ∃ pid ∉ s.used, s'.pidFiles pf = some pid ∧ s'.running = {pid}

/-- Without a PID file the script exits before it has done anything. -/
theorem restart_absent (self projectDir : String) {args : List String} (consistent : Consistent pf s)
    (on : pidFileOf args = pf) (absent : s.pidFiles pf = none) :
    (script self projectDir ("restart" :: args)).Ensures react (fun _ _ => False)
      (fun fault s' => fault = .err 1 ∧ s' = s) s := by
  have settled := consistent.settled
  refine .bind (resolveBinary_ensures settled fun runCmd => ?_)
  exact .bind (doRestart_absent settled on absent ⟨rfl, rfl⟩)

theorem restart_present (self projectDir : String) {args : List String} {pid : Pid}
    (consistent : Consistent pf s) (on : pidFileOf args = pf) (content : s.pidFiles pf = some pid) :
    (script self projectDir ("restart" :: args)).Ensures react (fun _ => Restarted pf s)
      (fun _ _ => False) s := by
  refine .bind (resolveBinary_ensures consistent.settled fun runCmd => ?_)
  exact .bind (doRestart_present consistent on content fun _ _ running _ => running)

/-- For every history on a PID file whose name is no option and every argument list: a restart comes
to an end, and it ends with one new gateway exactly when the PID file is there. -/
theorem restart_iff (plain : dashed pf = false) (reached : Reachable self projectDir pf s)
    {args : List String} (on : pidFileOf args = pf) :
    (∃ result s', Program.Runs react (script self projectDir ("restart" :: args)) s result s') ∧
    ∀ result s', Program.Runs react (script self projectDir ("restart" :: args)) s result s' →
      (Restarted pf s s' ↔ (s.pidFiles pf).isSome = true) := by
  have consistent := reachable_consistent plain reached
  refine ⟨Program.runs_exists react_total _ s, fun result s' ran => ?_⟩
  cases content : s.pidFiles pf with
  | none =>
    have ended := restart_absent self projectDir consistent on content
    refine iff_of_false ?_ nofun
    rintro ⟨pid, new, named, _⟩
    cases result with
    | ok => exact ended.value ran
    | error fault =>
      rw [(ended.fault ran).2, content] at named
      cases named
  | some pid =>
    have ended := restart_present self projectDir consistent on content
    refine iff_of_true ?_ rfl
    cases result with
    | ok => exact ended.value ran
    | error fault => exact (ended.fault ran).elim

end History

/-- Once it has been started, it can be restarted. -/
theorem restart_iff_started :
    ∃ s, Reachable "fluss-gateway.sh" "/opt/gateway" defaultPidFile s ∧
      s.pidFiles defaultPidFile = some 1 ∧
      ∃ result s', Program.Runs react
        (script "fluss-gateway.sh" "/opt/gateway" ["restart"]) s result s' ∧
        Restarted defaultPidFile s s' := by
  have started : Reachable "fluss-gateway.sh" "/opt/gateway" defaultPidFile
      ((script "fluss-gateway.sh" "/opt/gateway" ["start"]).run prompt Machine.empty).2 :=
    .command (.fresh rfl rfl rfl) (by decide) (Program.runs_run react_prompt _ _)
  refine ⟨_, started, by decide, ?_⟩
  obtain ⟨⟨result, s', ran⟩, ends⟩ := restart_iff (by decide) started (show pidFileOf [] = _ by decide)
  exact ⟨result, s', ran, (ends result s' ran).mpr (by decide)⟩

/-- Where nothing has been started, or all has been stopped, a restart starts nothing. -/
theorem restart_refused :
    Reachable "fluss-gateway.sh" "/opt/gateway" defaultPidFile Machine.empty ∧
    (∀ result s', Program.Runs react (script "fluss-gateway.sh" "/opt/gateway" ["restart"])
      Machine.empty result s' → result = Outcome.fail 1 ∧ s' = Machine.empty) ∧
    ¬∀ pf s, Reachable "fluss-gateway.sh" "/opt/gateway" pf s → ∀ args, pidFileOf args = pf →
      ∀ result s', Program.Runs react
        (script "fluss-gateway.sh" "/opt/gateway" ("restart" :: args)) s result s' →
        Restarted pf s s' := by
  have fresh : Reachable "fluss-gateway.sh" "/opt/gateway" defaultPidFile Machine.empty :=
    .fresh rfl rfl rfl
  have refused : ∀ result s', Program.Runs react
      (script "fluss-gateway.sh" "/opt/gateway" ["restart"]) Machine.empty result s' →
      result = Outcome.fail 1 ∧ s' = Machine.empty := by
    intro result s' ran
    have ended := restart_absent "fluss-gateway.sh" "/opt/gateway"
      (reachable_consistent (by decide) fresh) (show pidFileOf [] = _ by decide) rfl
    cases result with
    | ok => exact (ended.value ran).elim
    | error fault =>
      obtain ⟨status, same⟩ := ended.fault ran
      exact ⟨by rw [status]; rfl, same⟩
  refine ⟨fresh, refused, fun claim => ?_⟩
  obtain ⟨result, s', ran⟩ := Program.runs_exists react_total
    (script "fluss-gateway.sh" "/opt/gateway" ["restart"]) Machine.empty
  obtain ⟨pid, _, named, _⟩ := claim _ _ fresh [] (by decide) result s' ran
  rw [(refused result s' ran).2] at named
  cases named

end FlussGateway.Lifecycle
