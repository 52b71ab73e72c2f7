import FlussGateway.Foundation.Reaction
import FlussGateway.Lifecycle.Script
import Mathlib.Data.Finset.Lattice.Fold
import Mathlib.Order.Lattice.Nat
import Mathlib.Data.Fintype.EquivFin

/-!
# The machine under the script

What the script's commands find and do on a machine: PID files, which are regular files where they
can be written, and the gateways that have been started. A process that was asked to terminate may
exit at any moment or never; one that is killed is gone. Process ids are not reused, the binary can
be launched, and nothing but the script writes the PID files. What `cat` and `rm` do with a name that
begins with a hyphen, which they take for options or for the standard input, is left open.
-/
namespace FlussGateway.Lifecycle

open FlussGateway.Foundation

structure Machine where
  pidFiles : String → Option Pid
  /-- Whether a file can be created here. -/
  writable : String → Bool
  running : Finset Pid
  terminating : Finset Pid
  used : Finset Pid

namespace Machine

variable {s s' mid : Machine} {pf : String} {pid : Pid}

def setFile (s : Machine) (path : String) (content : Option Pid) : Machine :=
  { s with pidFiles := Function.update s.pidFiles path content }

/-- A process is started under a new id. -/
def start (s : Machine) (pid : Pid) : Machine :=
  { s with running := insert pid s.running, used := insert pid s.used }

/-- The running process of this id, if there is one. -/
def named (s : Machine) (pid : Option Pid) : Finset Pid := s.running.filter fun p => pid = some p

def alive (s : Machine) (pid : Option Pid) : Bool := (s.named pid).Nonempty

@[simp] theorem setFile_running (path : String) (content : Option Pid) :
    (s.setFile path content).running = s.running := rfl

@[simp] theorem setFile_terminating (path : String) (content : Option Pid) :
    (s.setFile path content).terminating = s.terminating := rfl

@[simp] theorem setFile_used (path : String) (content : Option Pid) :
    (s.setFile path content).used = s.used := rfl

@[simp] theorem setFile_writable (path : String) (content : Option Pid) :
    (s.setFile path content).writable = s.writable := rfl

@[simp] theorem setFile_self (path : String) (content : Option Pid) :
    (s.setFile path content).pidFiles path = content := Function.update_self ..

theorem setFile_absent {path : String} (absent : s.pidFiles path = none) :
    s.setFile path none = s := by
  unfold setFile
  rw [← absent, Function.update_eq_self]

theorem setFile_again (path : String) (content content' : Option Pid) :
    ((s.setFile path content).start pid).setFile path content' =
      (s.start pid).setFile path content' := by
  unfold setFile start
  rw [Function.update_idem]

@[simp] theorem start_pidFiles : (s.start pid).pidFiles = s.pidFiles := rfl

@[simp] theorem start_writable : (s.start pid).writable = s.writable := rfl

@[simp] theorem start_running : (s.start pid).running = insert pid s.running := rfl

@[simp] theorem start_used : (s.start pid).used = insert pid s.used := rfl

@[simp] theorem start_terminating : (s.start pid).terminating = s.terminating := rfl

@[simp] theorem named_none : s.named none = ∅ := by simp [named]

theorem mem_named {p : Pid} {pid : Option Pid} : p ∈ s.named pid ↔ p ∈ s.running ∧ pid = some p := by
  simp [named]

theorem alive_iff : s.alive (some pid) = true ↔ pid ∈ s.running := by
  simp [alive, Finset.Nonempty, mem_named]

/-! ## Reactions -/

/-- Some of the processes asked to terminate exit. -/
def Exits (s mid : Machine) : Prop :=
  ∃ gone ⊆ s.terminating, mid = { s with running := s.running \ gone }

/-- No file name for `cat` and `rm`. -/
def dashed (path : String) : Bool := path.toList.head? == some '-'

def Acts : (tool : Tool) → Machine → tool.Reply → Machine → Prop
  | .date, s, _, s' => s' = s
  | .echo _ _, s, _, s' => s' = s
  | .isExecutable _, s, _, s' => s' = s
  | .isFile path, s, found, s' => found = (s.pidFiles path).isSome ∧ s' = s
  | .cat path, s, content, s' => (dashed path = false → content = s.pidFiles path) ∧ s' = s
  | .rm path, s, removed, s' =>
    if dashed path then s' = s ∨ s' = s.setFile path none
    else removed = true ∧ s' = s.setFile path none
  | .writePid path pid, s, written, s' =>
    written = s.writable path ∧ s' = if s.writable path then s.setFile path (some pid) else s
  | .kill .zero pid, s, sent, s' => sent = s.alive pid ∧ s' = s
  | .kill .term pid, s, sent, s' =>
    sent = s.alive pid ∧ s' = { s with terminating := s.terminating ∪ s.named pid }
  | .kill .kill pid, s, sent, s' =>
    sent = s.alive pid ∧ s' = { s with running := s.running \ s.named pid }
  | .nohup _, s, pid, s' => pid ∉ s.used ∧ s' = s.start pid
  | .curl _, s, _, s' => s' = s
  | .sleep _, s, _, s' => s' = s

def react : Program.Reaction Tool Tool.Reply Machine := fun tool s reply s' =>
  ∃ mid, Exits s mid ∧ Acts tool mid reply s'

theorem exits_refl (s : Machine) : Exits s s := ⟨∅, Finset.empty_subset _, by simp⟩

theorem react_total (tool : Tool) (s : Machine) : ∃ reply s', react tool s reply s' := by
  suffices acts : ∃ reply s', Acts tool s reply s' by
    obtain ⟨reply, s', acts⟩ := acts
    exact ⟨reply, s', s, exits_refl s, acts⟩
  cases tool with
  | date => exact ⟨"", s, rfl⟩
  | echo => exact ⟨(), s, rfl⟩
  | isExecutable => exact ⟨true, s, rfl⟩
  | isFile => exact ⟨_, _, rfl, rfl⟩
  | cat => exact ⟨_, _, fun _ => rfl, rfl⟩
  | rm path =>
    refine ⟨true, s.setFile path none, ?_⟩
    cases taken : dashed path <;> simp [Acts, taken]
  | writePid => exact ⟨_, _, rfl, rfl⟩
  | kill signal => cases signal <;> exact ⟨_, _, rfl, rfl⟩
  | nohup =>
    obtain ⟨pid, new⟩ := Infinite.exists_notMem_finset s.used
    exact ⟨pid, _, new, rfl⟩
  | curl => exact ⟨.ok "", s, rfl⟩
  | sleep => exact ⟨(), s, rfl⟩

/-! ## A machine that reacts at once -/

/-- Processes exit as soon as they are asked, the endpoint answers, ids count up, and nothing comes
from the standard input. -/
def prompt : Program.Handler Tool Tool.Reply Machine := fun tool s =>
  let s := { s with running := s.running \ s.terminating }
  match tool with
  | .date => ("", s)
  | .echo _ _ => ((), s)
  | .isExecutable _ => (true, s)
  | .isFile path => ((s.pidFiles path).isSome, s)
  | .cat path => (if dashed path then none else s.pidFiles path, s)
  | .rm path => if dashed path then (false, s) else (true, s.setFile path none)
  | .writePid path pid =>
    (s.writable path, if s.writable path then s.setFile path (some pid) else s)
  | .kill .zero pid => (s.alive pid, s)
  | .kill .term pid => (s.alive pid, { s with terminating := s.terminating ∪ s.named pid })
  | .kill .kill pid => (s.alive pid, { s with running := s.running \ s.named pid })
  | .nohup _ => (s.used.sup id + 1, s.start (s.used.sup id + 1))
  | .curl _ => (.ok "OK", s)
  | .sleep _ => ((), s)

theorem react_prompt (tool : Tool) (s : Machine) : react tool s (prompt tool s).1 (prompt tool s).2 := by
  refine ⟨_, ⟨s.terminating, Finset.Subset.refl _, rfl⟩, ?_⟩
  cases tool with
  | kill signal => cases signal <;> exact ⟨rfl, rfl⟩
  | nohup =>
    refine ⟨fun used => ?_, rfl⟩
    have bound : s.used.sup id + 1 ≤ s.used.sup id := Finset.le_sup (f := id) used
    exact absurd bound (Nat.not_succ_le_self _)
  | cat path => exact ⟨fun plain => if_neg (by simp [plain]), rfl⟩
  | rm path => cases taken : dashed path <;> simp [prompt, Acts, taken]
  | isFile | writePid => exact ⟨rfl, rfl⟩
  | date | echo | isExecutable | curl | sleep => rfl

/-- Nothing has been started here, and every file can be written. -/
def empty : Machine := ⟨fun _ => none, fun _ => true, ∅, ∅, ∅⟩

end Machine

end FlussGateway.Lifecycle
