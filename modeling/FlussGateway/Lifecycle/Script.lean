import FlussGateway.Foundation.Program
import FlussGateway.Foundation.ShellText

/-!
# The lifecycle script

`fluss-gateway.sh` as a program that calls the tools of the host. A function returns a value;
`exit` ends the whole script, from inside any function and whatever list the call stands in.
The script runs under `set -e`, so a command that fails ends it too, unless the function was
called on the left of `||`. An empty array expands to no words, as it does from bash 4.4 on.
-/
namespace FlussGateway.Lifecycle

open FlussGateway.Foundation FlussGateway.Foundation.Shell

abbrev Pid := Nat

abbrev ExitStatus := Nat

inductive Stream where
  | stdout
  | stderr

/-- `kill -0`, `kill -TERM` and `kill -9`. -/
inductive Signal where
  | zero
  | term
  | kill

/-- The commands that the script runs. An unset process id is the empty word. -/
inductive Tool where
  | date
  | echo (stream : Stream) (line : String)
  | isExecutable (path : String)
  | isFile (path : String)
  | cat (path : String)
  | rm (path : String)
  | writePid (path : String) (pid : Pid)
  | kill (signal : Signal) (pid : Option Pid)
  | nohup (command : List String)
  | curl (url : String)
  | sleep (seconds : Nat)

/-- What a command gives back: its output, its success, or the id of the process it started. -/
abbrev Tool.Reply : Tool → Type
  | .date => String
  | .isExecutable _ | .isFile _ | .rm _ | .writePid _ _ | .kill _ _ => Bool
  | .cat _ => Option Pid
  | .nohup _ => Pid
  | .curl _ => Except ExitStatus String
  | .echo _ _ | .sleep _ => Unit

abbrev Script (α : Type) := Program Tool Tool.Reply ExitStatus α

def date : Script String := .perform Tool.date

def print (stream : Stream) (line : String) : Script Unit := .perform (Tool.echo stream line)

def isExecutable (path : String) : Script Bool := .perform (Tool.isExecutable path)

def isFile (path : String) : Script Bool := .perform (Tool.isFile path)

def cat (path : String) : Script (Option Pid) := .perform (Tool.cat path)

def writePid (path : String) (pid : Pid) : Script Bool := .perform (Tool.writePid path pid)

def kill (signal : Signal) (pid : Option Pid) : Script Bool := .perform (Tool.kill signal pid)

def nohup (command : List String) : Script Pid := .perform (Tool.nohup command)

def curl (url : String) : Script (Except ExitStatus String) := .perform (Tool.curl url)

def sleep (seconds : Nat) : Script Unit := .perform (Tool.sleep seconds)

def exit {α : Type} (status : ExitStatus) : Script α := Program.lift (Outcome.fail status)

/-- `set -e`, where it is in force. -/
def checked (errexit succeeded : Bool) (status : ExitStatus) : Script Unit :=
  if errexit && !succeeded then exit status else pure ()

/-- `rm -f`. -/
def rm (errexit : Bool) (path : String) : Script Unit := do
  let removed ← .perform (Tool.rm path)
  checked errexit removed 1

/-! ## Helpers -/

def log (text : String) : Script Unit := do
  let now ← date
  print .stdout s!"[{now}] {text}"

def warn (text : String) : Script Unit := do
  let now ← date
  print .stderr s!"[{now}] WARN: {text}"

def die {α : Type} (text : String) : Script α := do
  let now ← date
  print .stderr s!"[{now}] ERROR: {text}"
  exit 1

/-- What `get_opt` prints. The key is not looked at. -/
def getOpt (key : String) : List String → String
  | [] => echo ""
  | arg :: args =>
    match removePrefix "--pid-file=" arg with
    | some value => echo value
    | none => getOpt key args

/-- The text of a process id that may not have been read. -/
def pidText : Option Pid → String
  | some pid => toString pid
  | none => ""

def isAlive (pid : Option Pid) : Script Bool := kill .zero pid

def healthTimeout : Nat := 30

def healthInterval : Nat := 1

/-- So many seconds are left to wait. -/
def waitForHealth (url : String) : Nat → Script Bool
  | 0 => pure false
  | left + 1 => do
    match ← curl url with
    | .ok _ => pure true
    | .error _ =>
      sleep healthInterval
      waitForHealth url left

/-! ## Globals -/

structure Globals where
  pidFile : String
  healthUrl : String
deriving DecidableEq

def defaultPidFile : String := "/tmp/fluss-gateway.pid"

instance : Inhabited Globals where
  default := {
    pidFile := defaultPidFile
    healthUrl := "http://localhost:8080/health" }

def urlOf (port : String) : String := "http://localhost:" ++ port ++ "/health"

def Globals.withPort (globals : Globals) (args : List String) : Globals :=
  let port := substitute (getOpt "--port" args)
  { globals with healthUrl := urlOf (orDefault "8080" port) }

def Globals.withPidFile (globals : Globals) (args : List String) : Globals :=
  let pf := substitute (getOpt "--pid-file" args)
  if pf = "" then globals else { globals with pidFile := pf }

/-- The port first, then the PID file. -/
def Globals.read (globals : Globals) (args : List String) : Globals :=
  (globals.withPort args).withPidFile args

/-- A leading `--` is left out. -/
def dropSeparator : List String → List String
  | "--" :: args => args
  | args => args

/-! ## Starting -/

def refuseRunning (pidFile : String) : Script Unit := do
  if ← isFile pidFile then
    let oldPid ← cat pidFile
    checked true oldPid.isSome 1
    if ← isAlive oldPid then
      die s!"Gateway is already running (PID: {pidText oldPid}). Stop it first."
    else rm true pidFile
  else pure ()

def launch (runCmd : List String) (globals : Globals) (serveArgs : List String) :
    Script Unit := do
  log "Starting fluss-gateway..."
  let pid ← nohup (runCmd ++ "serve" :: serveArgs)
  let written ← writePid globals.pidFile pid
  checked true written 1
  log s!"PID file written: {globals.pidFile} (PID: {pid})"
  log s!"Waiting for health endpoint ({globals.healthUrl})..."
  if ← waitForHealth globals.healthUrl healthTimeout then
    log s!"Gateway started successfully (PID: {pid})"
  else
    warn s!"Gateway PID {pid} created but health check timed out after {healthTimeout}s"
    log "Check /tmp/fluss-gateway.out and /tmp/fluss-gateway.err for details"

def doStart (runCmd : List String) (globals : Globals) (args : List String) : Script Globals := do
  let args := dropSeparator args
  let globals := globals.read args
  let serveArgs := args.filter fun arg => (removePrefix "--pid-file=" arg).isNone
  refuseRunning globals.pidFile
  launch runCmd globals serveArgs
  pure globals

/-! ## Stopping -/

/-- So many more seconds, and the process is looked at once more when they are over. -/
def waitForExit (pid : Option Pid) : Nat → Script Unit
  | 0 => do
    let _ ← isAlive pid
    pure ()
  | left + 1 => do
    if ← isAlive pid then
      sleep 1
      waitForExit pid left
    else pure ()

def terminate (errexit : Bool) (pid : Option Pid) : Script Unit := do
  let sent ← kill .term pid
  checked errexit sent 1
  waitForExit pid 15
  if ← isAlive pid then
    warn "Process did not exit gracefully, sending SIGKILL..."
    -- `|| true`: whether there was a process left to kill does not matter.
    let _ ← kill .kill pid
    sleep 1
  else pure ()

def doStop (errexit : Bool) (globals : Globals) (args : List String) : Script Globals := do
  let globals := globals.withPidFile args
  if ← isFile globals.pidFile then
    let pid ← cat globals.pidFile
    checked errexit pid.isSome 1
    if ← isAlive pid then
      log s!"Stopping fluss-gateway (PID: {pidText pid})..."
      terminate errexit pid
      rm errexit globals.pidFile
      log "Gateway stopped."
      pure globals
    else
      log s!"Process {pidText pid} is not running. Cleaning up stale PID file."
      rm errexit globals.pidFile
      pure globals
  else die s!"PID file not found: {globals.pidFile}. Is the gateway running?"

/-! ## Restarting and the status -/

/-- `2>/dev/null`. -/
def discardErrors : (tool : Tool) → Script tool.Reply
  | .echo .stderr _ => pure ()
  | tool => .perform tool

/-- The `|| true` after `do_stop` takes a status that is returned; an `exit` passes it by. -/
def doRestart (runCmd : List String) (globals : Globals) (args : List String) :
    Script Globals := do
  let globals ← (doStop false globals args).translate discardErrors
  sleep 1
  doStart runCmd globals (dropSeparator args)

def reportHealth (url : String) : Script ExitStatus := do
  match ← curl url with
  | .ok _ =>
    -- Asked once more for its answer; if that fails now, `set -e` ends the script.
    match ← curl url with
    | .ok resp =>
      print .stdout s!"Health: {resp}"
      pure 0
    | .error status => exit status
  | .error _ =>
    print .stdout "Health: UNREACHABLE"
    pure 0

def doStatus (globals : Globals) (args : List String) : Script ExitStatus := do
  let globals := (globals.withPidFile args).withPort args
  if ← isFile globals.pidFile then
    let pid ← cat globals.pidFile
    checked true pid.isSome 1
    if ← isAlive pid then
      print .stdout s!"Gateway is running (PID: {pidText pid})"
      reportHealth globals.healthUrl
    else
      print .stdout s!"Gateway PID file exists but process {pidText pid} is not running (stale)."
      print .stdout s!"PID file: {globals.pidFile}"
      pure 1
  else
    print .stdout "Gateway is not running."
    print .stdout s!"PID file: {globals.pidFile}"
    pure 1

/-! ## Entry point -/

def usage (self : String) : List String := [
  "Usage: " ++ self ++ " \x7bstart|stop|restart|status\x7d [OPTIONS]",
  "",
  "Commands:",
  "  start    Start the gateway in the background",
  "  stop     Stop the running gateway",
  "  restart  Stop and start the gateway",
  "  status   Show the current gateway status",
  "",
  "Options:",
  "  --pid-file=PATH           PID file path (default: /tmp/fluss-gateway.pid)",
  "  --port=N                  HTTP port for health checks (default: 8080)",
  "  --fluss-coordinator=ADDR  Fluss coordinator address",
  "  --host=ADDR               Bind address",
  "  --auth-type=TYPE          Auth mode (none|passthrough)",
  "  --config=PATH             Config file path",
  "  (other 'fluss-gateway serve' options also supported)"]

def printLines : List String → Script Unit
  | [] => pure ()
  | line :: lines => do
    print .stdout line
    printLines lines

/-- The binary that was built, or `cargo run`. -/
def resolveBinary (projectDir : String) : Script (List String) := do
  let release := projectDir ++ "/target/release/fluss-gateway"
  let debug := projectDir ++ "/target/debug/fluss-gateway"
  if ← isExecutable release then pure [release]
  else if ← isExecutable debug then pure [debug]
  else pure ["cargo", "run", "--release", "--"]

/-- One invocation: the script's own name, the project's directory and the arguments. -/
def script (self projectDir : String) (argv : List String) : Script Unit := do
  let runCmd ← resolveBinary projectDir
  match argv with
  | "start" :: args =>
    let _ ← doStart runCmd default args
    pure ()
  | "stop" :: args =>
    let _ ← doStop true default args
    pure ()
  | "restart" :: args =>
    let _ ← doRestart runCmd default args
    pure ()
  | "status" :: args =>
    let status ← doStatus default args
    checked true (status == 0) status
  | _ =>
    printLines (usage self)
    exit 1

end FlussGateway.Lifecycle
