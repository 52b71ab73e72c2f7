import FlussGateway.Lifecycle.Restart

/-!
# The gateway as its operator sees it

A PID file and the gateways started on it are in one of four conditions: nothing there, a file whose
process is gone, one gateway that the file names, or gateways that no file names because it could
not be written. Every history of commands and crashes is one of the steps between these.
-/
namespace FlussGateway.Lifecycle

open FlussGateway.Foundation Machine

inductive Life where
  | stopped
  | stale (pid : Pid)
  | running (pid : Pid)
  | unmanaged (gateways : Finset Pid)

/-- The file names a process, running or not. -/
def Life.Named (l : Life) : Prop := (∃ pid, l = .stale pid) ∨ ∃ pid, l = .running pid

/-- What happens to the gateways of a PID file. -/
inductive Incident where
  | command (argv : List String) (result : Outcome ExitStatus Unit)
  | crash (pid : Pid)

inductive Life.Step : Incident → Life → Life → Prop where
  | started {args : List String} {pid : Pid} {l : Life} (idle : l = .stopped ∨ ∃ old, l = .stale old) :
      Step (.command ("start" :: args) (.ok ())) l (.running pid)
  | refused {args : List String} {pid : Pid} :
      Step (.command ("start" :: args) (Outcome.fail 1)) (.running pid) (.running pid)
  | orphaned {args : List String} {pid : Pid} {gateways : Finset Pid} (new : pid ∉ gateways) :
      Step (.command ("start" :: args) (Outcome.fail 1)) (.unmanaged gateways)
        (.unmanaged (insert pid gateways))
  | stopped {args : List String} {l : Life} (named : l.Named) :
      Step (.command ("stop" :: args) (.ok ())) l .stopped
  | notStopped {args : List String} {l : Life} (nameless : ¬l.Named) :
      Step (.command ("stop" :: args) (Outcome.fail 1)) l l
  | restarted {args : List String} {pid : Pid} {l : Life} (named : l.Named) (new : l ≠ .running pid) :
      Step (.command ("restart" :: args) (.ok ())) l (.running pid)
  | notRestarted {args : List String} {l : Life} (nameless : ¬l.Named) :
      Step (.command ("restart" :: args) (Outcome.fail 1)) l l
  -- The health endpoint may answer once and then no more, which ends the script.
  | reported {args : List String} {pid : Pid} {result : Outcome ExitStatus Unit}
      (returns : ∀ msg, result ≠ .error (.panic msg)) :
      Step (.command ("status" :: args) result) (.running pid) (.running pid)
  | notRunning {args : List String} {l : Life} (down : ∀ pid, l ≠ .running pid) :
      Step (.command ("status" :: args) (Outcome.fail 1)) l l
  | usage {argv : List String} {l : Life}
      (unknown : argv.head? ∉ [some "start", some "stop", some "restart", some "status"]) :
      Step (.command argv (Outcome.fail 1)) l l
  | crashed (pid : Pid) : Step (.crash pid) (.running pid) (.stale pid)
  | lost (pid : Pid) (gateways : Finset Pid) :
      Step (.crash pid) (.unmanaged gateways) (.unmanaged (gateways.erase pid))
  | unaffected {pid : Pid} {l : Life} (other : l ≠ .running pid) (managed : ∀ g, l ≠ .unmanaged g) :
      Step (.crash pid) l l

/-! ## Conditions -/

section Conditions

variable {pf : String} {s : Machine} {pid : Pid}

end Conditions

/-! ## Commands -/

section Commands

variable {self projectDir pf : String} {s s' : Machine}

end Commands

/-! ## Histories -/

namespace Life.Steps

variable {i : Incident} {before after : List Incident} {l l' : Life}

end Life.Steps

/-- What takes a running gateway away. -/
def Incident.Ends : Incident → Prop
  | .command argv result => argv.head? = some "stop" ∧ result = .ok ()
  | .crash _ => True

namespace Life

variable {i : Incident} {incidents : List Incident} {pid : Pid} {l l' : Life}

end Life

section History

variable {self projectDir pf : String} {s s' : Machine} {incidents : List Incident}

end History

end FlussGateway.Lifecycle
