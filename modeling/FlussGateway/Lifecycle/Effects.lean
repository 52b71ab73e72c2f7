import FlussGateway.Lifecycle.Machine
import FlussGateway.Lifecycle.Options

/-!
# What the commands do to the machine

One rule for each function of the script, for every way the machine may react. Between commands
no running process has been asked to terminate, so all but the end of a `stop` find a machine
that stands still.
-/
namespace FlussGateway.Lifecycle

open FlussGateway.Foundation Machine

section Ensures

variable {α : Type} {s s₀ s' : Machine} {pf : String} {pid : Pid}

/-- No running process has been asked to terminate. -/
def Machine.Settled (s : Machine) : Prop := Disjoint s.running s.terminating

theorem exits_settled {mid : Machine} (settled : s.Settled) (exits : Exits s mid) : mid = s := by
  obtain ⟨gone, asked, rfl⟩ := exits
  rw [Finset.sdiff_eq_self_of_disjoint (settled.mono_right asked)]

/-- In a settled state a command finds what is there. -/
theorem perform_ensures {tool : Tool} {Q : tool.Reply → Machine → Prop}
    {E : Fault ExitStatus → Machine → Prop} (settled : s.Settled)
    (acts : ∀ reply s', Acts tool s reply s' → Q reply s') :
    (Program.perform tool : Script tool.Reply).Ensures react Q E s := by
  rintro reply s' ⟨mid, exits, acted⟩
  rw [exits_settled settled exits] at acted
  exact acts reply s' acted

variable {E : Fault ExitStatus → Machine → Prop}

theorem date_ensures {Q : String → Machine → Prop} (settled : s.Settled) (after : ∀ now, Q now s) :
    date.Ensures react Q E s :=
  perform_ensures settled fun now _ acts => acts ▸ after now

theorem print_ensures {Q : Unit → Machine → Prop} {stream : Stream} {line : String}
    (settled : s.Settled) (after : Q () s) : (print stream line).Ensures react Q E s :=
  perform_ensures settled fun _ _ acts => acts ▸ after

theorem isExecutable_ensures {Q : Bool → Machine → Prop} {path : String} (settled : s.Settled)
    (after : ∀ found, Q found s) : (isExecutable path).Ensures react Q E s :=
  perform_ensures settled fun found _ acts => acts ▸ after found

theorem isFile_ensures {Q : Bool → Machine → Prop} {path : String} (settled : s.Settled)
    (after : Q (s.pidFiles path).isSome s) : (isFile path).Ensures react Q E s :=
  perform_ensures settled fun _ _ acts => acts.1 ▸ acts.2 ▸ after

theorem cat_ensures {Q : Option Pid → Machine → Prop} (plain : dashed pf = false)
    (settled : s.Settled) (after : Q (s.pidFiles pf) s) : (cat pf).Ensures react Q E s :=
  perform_ensures settled fun _ _ acts => acts.1 plain ▸ acts.2 ▸ after

theorem curl_ensures {Q : Except ExitStatus String → Machine → Prop} {url : String}
    (settled : s.Settled) (after : ∀ reply, Q reply s) : (curl url).Ensures react Q E s :=
  perform_ensures settled fun reply _ acts => acts ▸ after reply

theorem sleep_ensures {Q : Unit → Machine → Prop} {seconds : Nat} (settled : s.Settled)
    (after : Q () s) : (sleep seconds).Ensures react Q E s :=
  perform_ensures settled fun _ _ acts => acts ▸ after

theorem isAlive_ensures {Q : Bool → Machine → Prop} {pid : Option Pid} (settled : s.Settled)
    (after : Q (s.alive pid) s) : (isAlive pid).Ensures react Q E s :=
  perform_ensures settled fun _ _ acts => acts.1 ▸ acts.2 ▸ after

theorem log_ensures {Q : Unit → Machine → Prop} {text : String} (settled : s.Settled)
    (after : Q () s) : (log text).Ensures react Q E s :=
  .bind (date_ensures settled fun _ => print_ensures settled after)

theorem warn_ensures {Q : Unit → Machine → Prop} {text : String} (settled : s.Settled)
    (after : Q () s) : (warn text).Ensures react Q E s :=
  .bind (date_ensures settled fun _ => print_ensures settled after)

theorem die_ensures {Q : α → Machine → Prop} {text : String} (settled : s.Settled)
    (ends : E (.err 1) s) : (die text).Ensures react Q E s :=
  .bind (date_ensures settled fun _ => .bind (print_ensures settled ends))

theorem checked_ensures {Q : Unit → Machine → Prop} {errexit : Bool} {status : ExitStatus}
    (after : Q () s) : (checked errexit true status).Ensures react Q E s := by
  cases errexit <;> exact after

theorem rm_ensures {Q : Unit → Machine → Prop} {errexit : Bool} (plain : dashed pf = false)
    (settled : s.Settled) (after : Q () (s.setFile pf none)) :
    (rm errexit pf).Ensures react Q E s := by
  refine .bind (perform_ensures settled fun removed s' acts => ?_)
  rw [Acts, if_neg (by simp [plain])] at acts
  obtain ⟨rfl, rfl⟩ := acts
  exact checked_ensures after

theorem checked_refuses {Q : Unit → Machine → Prop} {status : ExitStatus}
    (ends : E (.err status) s) : (checked true false status).Ensures react Q E s := ends

theorem waitForHealth_ensures {Q : Bool → Machine → Prop} {url : String} (left : Nat)
    (settled : s.Settled) (after : ∀ healthy, Q healthy s) :
    (waitForHealth url left).Ensures react Q E s := by
  induction left with
  | zero => exact after false
  | succ left ih =>
    refine .bind (curl_ensures settled fun reply => ?_)
    cases reply with
    | ok => exact after true
    | error => exact .bind (sleep_ensures settled ih)

/-! ## Starting -/

/-- Either way the file is gone, unless it names a process that is running. -/
theorem refuseRunning_ensures {Q : Unit → Machine → Prop} (plain : dashed pf = false)
    (settled : s.Settled)
    (clear : (∀ pid ∈ s.running, s.pidFiles pf ≠ some pid) → Q () (s.setFile pf none))
    (live : ∀ pid ∈ s.running, s.pidFiles pf = some pid → E (.err 1) s) :
    (refuseRunning pf).Ensures react Q E s := by
  refine .bind (isFile_ensures settled ?_)
  cases content : s.pidFiles pf with
  | none =>
    have free := clear fun _ _ named => by rw [content] at named; cases named
    rwa [setFile_absent content] at free
  | some pid =>
    refine .bind (cat_ensures plain settled ?_)
    rw [content]
    refine .bind (checked_ensures (.bind (isAlive_ensures settled ?_)))
    cases alive : s.alive (some pid) with
    | true => exact die_ensures settled (live pid (alive_iff.mp alive) content)
    | false =>
      refine rm_ensures plain settled (clear fun p running named => ?_)
      rw [content, Option.some.injEq] at named
      rw [alive_iff.mpr (named ▸ running)] at alive
      cases alive

/-- Under a new id: the file names the process that has been started, unless it cannot be written. -/
theorem launch_ensures {Q : Unit → Machine → Prop} {runCmd serveArgs : List String}
    {globals : Globals} (settled : s.Settled) (asked : s.terminating ⊆ s.used)
    (written : ∀ pid ∉ s.used, s.writable globals.pidFile = true →
      Q () ((s.start pid).setFile globals.pidFile (some pid)))
    (unwritten : ∀ pid ∉ s.used, s.writable globals.pidFile = false → E (.err 1) (s.start pid)) :
    (launch runCmd globals serveArgs).Ensures react Q E s := by
  refine .bind (log_ensures settled (.bind (perform_ensures settled ?_)))
  rintro pid _ ⟨new, rfl⟩
  have started : (s.start pid).Settled :=
    Finset.disjoint_insert_left.mpr ⟨fun old => new (asked old), settled⟩
  refine .bind (perform_ensures started ?_)
  rintro _ _ ⟨rfl, rfl⟩
  cases can : s.writable globals.pidFile with
  | false =>
    simp only [start_writable, can, Bool.false_eq_true, if_false]
    exact .bind (checked_refuses (unwritten pid new can))
  | true =>
    simp only [start_writable, can, if_true]
    have named : ((s.start pid).setFile globals.pidFile (some pid)).Settled := started
    refine .bind (checked_ensures (.bind (log_ensures named (.bind (log_ensures named ?_)))))
    refine .bind (waitForHealth_ensures _ named fun healthy => ?_)
    cases healthy with
    | true => exact log_ensures named (written pid new can)
    | false => exact .bind (warn_ensures named (log_ensures named (written pid new can)))

/-! ## Stopping -/

/-- At most these processes are left of what was there; nothing else has changed but who has been
asked to terminate. -/
structure Within (left : Finset Pid) (s₀ s : Machine) : Prop where
  files : s.pidFiles = s₀.pidFiles
  writable : s.writable = s₀.writable
  used : s.used = s₀.used
  running : s.running ⊆ left
  terminating : s.terminating ⊆ s₀.used

namespace Within

variable {left : Finset Pid}

theorem exits {mid : Machine} (within : Within left s₀ s) (exits : Exits s mid) :
    Within left s₀ mid := by
  obtain ⟨gone, _, rfl⟩ := exits
  exact { within with running := Finset.sdiff_subset.trans within.running }

theorem settled (within : Within ∅ s₀ s) : s.Settled := by
  rw [Settled, Finset.subset_empty.mp within.running]
  exact Finset.disjoint_empty_left _

theorem perform_ensures {tool : Tool} {Q : tool.Reply → Machine → Prop} (within : Within left s₀ s)
    (acts : ∀ reply mid s', Within left s₀ mid → Acts tool mid reply s' → Q reply s') :
    (Program.perform tool : Script tool.Reply).Ensures react Q E s := by
  rintro reply s' ⟨mid, exits, acted⟩
  exact acts reply mid s' (within.exits exits) acted

theorem warn_ensures {Q : Unit → Machine → Prop} {text : String} (within : Within left s₀ s)
    (after : ∀ s', Within left s₀ s' → Q () s') : (warn text).Ensures react Q E s := by
  refine .bind (within.perform_ensures ?_)
  rintro _ _ _ within rfl
  refine within.perform_ensures ?_
  rintro _ _ _ within rfl
  exact after _ within

theorem waitForExit_ensures {pid : Option Pid} (count : Nat) (within : Within left s₀ s) :
    (waitForExit pid count).Ensures react (fun _ => Within left s₀) E s := by
  induction count generalizing s with
  | zero =>
    refine .bind (within.perform_ensures ?_)
    rintro _ _ _ within ⟨rfl, rfl⟩
    exact within
  | succ count ih =>
    refine .bind (within.perform_ensures ?_)
    rintro alive _ _ within ⟨rfl, rfl⟩
    split
    next =>
      refine .bind (within.perform_ensures ?_)
      rintro _ _ _ within rfl
      exact ih within
    next => exact within

/-- The last process of these has been killed. -/
theorem killed (within : Within {pid} s₀ s) :
    Within ∅ s₀ { s with running := s.running \ s.named (some pid) } := by
  refine { within with running := fun p member => ?_ }
  obtain ⟨running, other⟩ := Finset.mem_sdiff.mp member
  have same := Finset.mem_singleton.mp (within.running running)
  exact absurd (mem_named.mpr ⟨running, by rw [same]⟩) other

theorem gone (within : Within {pid} s₀ s) (dead : pid ∉ s.running) : Within ∅ s₀ s := by
  refine { within with running := fun p member => ?_ }
  have same := Finset.mem_singleton.mp (within.running member)
  exact absurd (same ▸ member) dead

end Within

/-- Whether the process obeys or not, it is gone in the end. -/
theorem terminate_ensures {Q : Unit → Machine → Prop} {errexit : Bool} (settled : s.Settled)
    (within : Within {pid} s s) (started : s.running ⊆ s.used) (live : pid ∈ s.running)
    (after : ∀ s', Within ∅ s s' → Q () s') :
    (terminate errexit (some pid)).Ensures react Q E s := by
  refine .bind (perform_ensures settled ?_)
  rintro _ _ ⟨rfl, asked⟩
  have asking : Within {pid} s { s with terminating := s.terminating ∪ s.named (some pid) } :=
    { within with
      terminating := Finset.union_subset within.terminating
        ((Finset.filter_subset ..).trans started) }
  rw [asked, alive_iff.mpr live]
  refine .bind (checked_ensures ?_)
  refine .bind
    ((asking.waitForExit_ensures 15).mono (fun _ mid within => ?_) fun _ _ ends => ends)
  refine .bind (within.perform_ensures ?_)
  rintro _ _ s' within ⟨rfl, rfl⟩
  cases alive : s'.alive (some pid) with
  | false => exact after s' (within.gone fun running => by simp [alive_iff.mpr running] at alive)
  | true =>
    refine .bind (within.warn_ensures fun _ within => ?_)
    refine .bind (within.perform_ensures ?_)
    rintro _ _ _ within ⟨rfl, rfl⟩
    refine within.killed.perform_ensures ?_
    rintro _ _ _ within rfl
    exact after _ within

/-! ## Between commands -/

/-- What holds of a PID file and its gateways between any two commands. -/
structure Consistent (pf : String) (s : Machine) : Prop where
  plain : dashed pf = false
  settled : s.Settled
  started : s.running ⊆ s.used
  asked : s.terminating ⊆ s.used
  owned : s.writable pf = true → ∀ pid ∈ s.running, s.pidFiles pf = some pid
  unwritten : s.writable pf = false → s.pidFiles pf = none

namespace Consistent

theorem writable_of_content (consistent : Consistent pf s) (content : s.pidFiles pf = some pid) :
    s.writable pf = true := by
  by_contra other
  rw [consistent.unwritten (by simpa using other)] at content
  cases content

/-- Only the process that the file names can be running. -/
theorem only (consistent : Consistent pf s) (content : s.pidFiles pf = some pid) :
    s.running ⊆ {pid} := by
  intro p running
  have named := consistent.owned (consistent.writable_of_content content) p running
  rw [content, Option.some.injEq] at named
  exact Finset.mem_singleton.mpr named.symm

theorem within (consistent : Consistent pf s) (content : s.pidFiles pf = some pid) :
    Within {pid} s s :=
  ⟨rfl, rfl, rfl, consistent.only content, consistent.asked⟩

/-- Nothing is running any more, and the file is gone. -/
theorem of_cleared {s₀ : Machine} (plain : dashed pf = false)
    (cleared : Within ∅ (s₀.setFile pf none) s) : Consistent pf s where
  plain := plain
  settled := cleared.settled
  started := cleared.running.trans (Finset.empty_subset _)
  asked := by rw [cleared.used]; exact cleared.terminating
  owned _ pid running := absurd (cleared.running running) (Finset.notMem_empty pid)
  unwritten _ := by rw [cleared.files, setFile_self]

/-- The one process that is running is new and is named in the file. -/
theorem of_launched (consistent : Consistent pf s) (new : pid ∉ s.used) (idle : s.running = ∅)
    (writable : s.writable pf = true) : Consistent pf ((s.start pid).setFile pf (some pid)) where
  plain := consistent.plain
  settled := Finset.disjoint_insert_left.mpr
    ⟨fun old => new (consistent.asked old), consistent.settled⟩
  started := Finset.insert_subset_insert _ consistent.started
  asked := consistent.asked.trans (Finset.subset_insert ..)
  owned _ p running := by
    rw [setFile_running, start_running, idle] at running
    rw [setFile_self, Finset.mem_singleton.mp running]
  unwritten other := by
    rw [setFile_writable, start_writable, writable] at other
    cases other

/-- A gateway that no file names: the file could not be written. -/
theorem of_unwritten (consistent : Consistent pf s) (new : pid ∉ s.used)
    (cannot : s.writable pf = false) : Consistent pf (s.start pid) where
  plain := consistent.plain
  settled := Finset.disjoint_insert_left.mpr
    ⟨fun old => new (consistent.asked old), consistent.settled⟩
  started := Finset.insert_subset_insert _ consistent.started
  asked := consistent.asked.trans (Finset.subset_insert ..)
  owned can := by rw [start_writable, cannot] at can; cases can
  unwritten := consistent.unwritten

theorem of_fresh (plain : dashed pf = false) (absent : s.pidFiles pf = none) (idle : s.running = ∅)
    (unasked : s.terminating = ∅) : Consistent pf s where
  plain := plain
  settled := by rw [Settled, idle]; exact Finset.disjoint_empty_left _
  started := by rw [idle]; exact Finset.empty_subset _
  asked := by rw [unasked]; exact Finset.empty_subset _
  owned _ pid running := by rw [idle] at running; exact absurd running (Finset.notMem_empty pid)
  unwritten _ := absent

theorem of_crashed (consistent : Consistent pf s) (pid : Pid) :
    Consistent pf { s with running := s.running.erase pid } where
  plain := consistent.plain
  settled := consistent.settled.mono_left (Finset.erase_subset ..)
  started := (Finset.erase_subset ..).trans consistent.started
  asked := consistent.asked
  owned can p running := consistent.owned can p (Finset.mem_of_mem_erase running)
  unwritten := consistent.unwritten

end Consistent

theorem doStop_absent {Q : Globals → Machine → Prop} {errexit : Bool} {globals : Globals}
    {args : List String} (settled : s.Settled) (on : (globals.withPidFile args).pidFile = pf)
    (absent : s.pidFiles pf = none) (ends : E (.err 1) s) :
    (doStop errexit globals args).Ensures react Q E s := by
  refine .bind (isFile_ensures settled ?_)
  rw [on, absent]
  exact die_ensures settled ends

theorem doStop_present {Q : Globals → Machine → Prop} {errexit : Bool} {globals : Globals}
    {args : List String} (consistent : Consistent pf s)
    (on : (globals.withPidFile args).pidFile = pf) (content : s.pidFiles pf = some pid)
    (after : ∀ s', Within ∅ (s.setFile pf none) s' → Q (globals.withPidFile args) s') :
    (doStop errexit globals args).Ensures react Q E s := by
  have settled := consistent.settled
  have within := consistent.within content
  refine .bind (isFile_ensures settled ?_)
  rw [on, content]
  refine .bind (cat_ensures consistent.plain settled ?_)
  rw [content]
  refine .bind (checked_ensures (.bind (isAlive_ensures settled ?_)))
  cases alive : s.alive (some pid) with
  | true =>
    refine .bind (log_ensures settled (.bind (terminate_ensures settled within consistent.started
      (alive_iff.mp alive) fun mid dead => ?_)))
    have cleared : Within ∅ (s.setFile pf none) (mid.setFile pf none) :=
      { dead with files := by simp only [setFile, dead.files] }
    exact .bind (rm_ensures consistent.plain dead.settled (.bind (log_ensures cleared.settled (after _ cleared))))
  | false =>
    have dead := within.gone fun running => by simp [alive_iff.mpr running] at alive
    refine .bind (log_ensures settled (.bind (rm_ensures consistent.plain settled ?_)))
    exact after _ { dead with files := rfl }

theorem doStart_ensures {Q : Globals → Machine → Prop} {runCmd : List String} {globals : Globals}
    {args : List String} (consistent : Consistent pf s) (on : (globals.read args).pidFile = pf)
    (launched : ∀ pid ∉ s.used, s.running = ∅ → s.writable pf = true →
      Q (globals.read args) ((s.start pid).setFile pf (some pid)))
    (unwritten : ∀ pid ∉ s.used, s.writable pf = false → E (.err 1) (s.start pid))
    (live : ∀ pid ∈ s.running, s.pidFiles pf = some pid → E (.err 1) s) :
    (doStart runCmd globals args).Ensures react Q E s := by
  rw [← read_dropSeparator] at on launched
  refine .bind ?_
  rw [on]
  refine refuseRunning_ensures consistent.plain consistent.settled (fun free => ?_) live
  have start : (s.setFile pf none).Settled := consistent.settled
  refine .bind (launch_ensures start consistent.asked ?_ ?_)
  · intro pid new can
    rw [on, setFile_writable] at can
    have idle : s.running = ∅ := by
      refine Finset.eq_empty_of_forall_notMem fun p running => ?_
      exact free p running (consistent.owned can p running)
    rw [on, setFile_again]
    exact launched pid new idle can
  · intro pid new cannot
    rw [on, setFile_writable] at cannot
    rw [setFile_absent (consistent.unwritten cannot)]
    exact unwritten pid new cannot

/-! ## Restarting -/

/-- Whatever is discarded, the machine is the same. -/
theorem discardErrors_refines (tool : Tool) (K : tool.Reply → Machine → Prop) (s : Machine)
    (after : ∀ reply mid, react tool s reply mid → K reply mid) :
    (discardErrors tool).Ensures react K E s := by
  cases tool with
  | echo stream line =>
    cases stream with
    | stdout => exact after
    | stderr => exact after () s ⟨s, exits_refl s, rfl⟩
  | _ => exact after

/-- The refusal of `stop` exits the script, and nobody sees why. -/
theorem doRestart_absent {Q : Globals → Machine → Prop} {runCmd : List String} {globals : Globals}
    {args : List String} (settled : s.Settled) (on : (globals.withPidFile args).pidFile = pf)
    (absent : s.pidFiles pf = none) (ends : E (.err 1) s) :
    (doRestart runCmd globals args).Ensures react Q E s :=
  .bind ((doStop_absent settled on absent ends).translate discardErrors_refines)

theorem doRestart_present {Q : Globals → Machine → Prop} {runCmd : List String} {globals : Globals}
    {args : List String} (consistent : Consistent pf s)
    (on : (globals.withPidFile args).pidFile = pf) (content : s.pidFiles pf = some pid)
    (after : ∀ globals s', (∃ new ∉ s.used, s'.pidFiles pf = some new ∧ s'.running = {new}) →
      Consistent pf s' → Q globals s') :
    (doRestart runCmd globals args).Ensures react Q E s := by
  have writable := consistent.writable_of_content content
  refine .bind (.translate discardErrors_refines
    (doStop_present consistent on content fun mid cleared => ?_))
  refine .bind (sleep_ensures cleared.settled ?_)
  have idle : mid.running = ∅ := Finset.subset_empty.mp cleared.running
  have again : ((globals.withPidFile args).read (dropSeparator args)).pidFile = pf := by
    rw [read_dropSeparator, pidFile_read, withPidFile_twice, on]
  have restart := Consistent.of_cleared consistent.plain cleared
  refine doStart_ensures restart again (fun new fresh _ can => ?_) ?_ ?_
  · refine after _ _ ⟨new, ?_, setFile_self .., ?_⟩ (restart.of_launched fresh idle can)
    · rwa [cleared.used] at fresh
    · rw [setFile_running, start_running, idle]
      rfl
  -- The file has been written before, and nothing is left running.
  · intro _ _ cannot
    rw [cleared.writable, setFile_writable, writable] at cannot
    cases cannot
  · intro p running
    rw [idle] at running
    exact absurd running (Finset.notMem_empty p)

/-! ## The status and the rest -/

theorem reportHealth_ensures {url : String} (settled : s.Settled) :
    (reportHealth url).Ensures react (fun _ s' => s' = s) (fun _ s' => s' = s) s := by
  refine .bind (curl_ensures settled fun reply => ?_)
  cases reply with
  | error => exact .bind (print_ensures settled rfl)
  | ok =>
    refine .bind (curl_ensures settled fun reply => ?_)
    cases reply with
    | error => exact rfl
    | ok => exact .bind (print_ensures settled rfl)

theorem doStatus_ensures {globals : Globals} {args : List String} (settled : s.Settled) :
    (doStatus globals args).Ensures react (fun _ s' => s' = s) (fun _ s' => s' = s) s := by
  refine .bind (isFile_ensures settled ?_)
  cases content : s.pidFiles ((globals.withPidFile args).withPort args).pidFile with
  | none => exact .bind (print_ensures settled (.bind (print_ensures settled rfl)))
  | some pid =>
    -- Whatever is read as the process id, nothing is changed.
    refine .bind (perform_ensures settled ?_)
    rintro (_ | read) _ ⟨_, rfl⟩
    · exact .bind (checked_refuses rfl)
    refine .bind (checked_ensures (.bind (isAlive_ensures settled ?_)))
    split
    next => exact .bind (print_ensures settled (reportHealth_ensures settled))
    next => exact .bind (print_ensures settled (.bind (print_ensures settled rfl)))

theorem printLines_ensures {Q : Unit → Machine → Prop} (lines : List String) (settled : s.Settled)
    (after : Q () s) : (printLines lines).Ensures react Q E s := by
  induction lines with
  | nil => exact after
  | cons line lines ih => exact .bind (print_ensures settled ih)

theorem resolveBinary_ensures {Q : List String → Machine → Prop} {projectDir : String}
    (settled : s.Settled) (after : ∀ runCmd, Q runCmd s) :
    (resolveBinary projectDir).Ensures react Q E s := by
  refine .bind (isExecutable_ensures settled fun release => ?_)
  cases release with
  | true => exact after _
  | false =>
    refine .bind (isExecutable_ensures settled fun debug => ?_)
    cases debug <;> exact after _

end Ensures

end FlussGateway.Lifecycle
