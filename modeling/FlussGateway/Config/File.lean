import Mathlib.Data.Option.Basic

/-!
# The configuration and its file

A file is parsed into optional sections of optional keys. The file system and the TOML
reader are parameters; everything after them is the gateway's own.
-/
namespace FlussGateway.Config

/-! ## Sections and their defaults -/

structure ServerConfig where
  host : String
  port : UInt16
  maxBodySize : Nat
deriving DecidableEq

instance : Inhabited ServerConfig := ⟨⟨"0.0.0.0", 8080, 16 * 1024 * 1024⟩⟩

structure FlussConfig where
  coordinator : String
deriving DecidableEq

instance : Inhabited FlussConfig := ⟨⟨"localhost:9123"⟩⟩

inductive AuthType where
  | none
  | passthrough
deriving DecidableEq

structure AuthConfig where
  type : AuthType
  startupUsername : String
  startupPassword : String
deriving DecidableEq

instance : Inhabited AuthConfig := ⟨⟨.none, "", ""⟩⟩

structure PoolConfig where
  maxConnections : UInt32
  idleTimeoutSecs : UInt64
deriving DecidableEq

instance : Inhabited PoolConfig := ⟨⟨500, 600⟩⟩

structure LogConfig where
  level : String
deriving DecidableEq

instance : Inhabited LogConfig := ⟨⟨"info"⟩⟩

structure GatewayConfig where
  server : ServerConfig
  fluss : FlussConfig
  auth : AuthConfig
  pool : PoolConfig
  log : LogConfig
deriving DecidableEq

instance : Inhabited GatewayConfig := ⟨⟨default, default, default, default, default⟩⟩

/-! ## The file -/

structure FileServerConfig where
  host : Option String
  port : Option UInt16
  maxBodySize : Option Nat

structure FileFlussConfig where
  coordinator : Option String

structure FileAuthConfig where
  type : Option String
  startupUsername : Option String
  startupPassword : Option String

structure FilePoolConfig where
  maxConnections : Option UInt32
  idleTimeoutSecs : Option UInt64

structure FileLogConfig where
  level : Option String

structure FileConfig where
  server : Option FileServerConfig
  fluss : Option FileFlussConfig
  auth : Option FileAuthConfig
  pool : Option FilePoolConfig
  log : Option FileLogConfig

namespace FileConfig

variable (file : FileConfig)

def host : Option String := file.server.bind (·.host)
def port : Option UInt16 := file.server.bind (·.port)
def maxBodySize : Option Nat := file.server.bind (·.maxBodySize)
def coordinator : Option String := file.fluss.bind (·.coordinator)
def authType : Option String := file.auth.bind (·.type)
def startupUsername : Option String := file.auth.bind (·.startupUsername)
def startupPassword : Option String := file.auth.bind (·.startupPassword)
def maxConnections : Option UInt32 := file.pool.bind (·.maxConnections)
def idleTimeoutSecs : Option UInt64 := file.pool.bind (·.idleTimeoutSecs)
def level : Option String := file.log.bind (·.level)

end FileConfig

inductive LoadError where
  | read (message : String)
  | invalidData (message : String)
deriving DecidableEq

/-- What a path leads to: nothing, a file of which not even the metadata can be read, one of which the
content cannot be read, or a text. -/
inductive FileState where
  | missing
  | hidden
  | unreadable (message : String)
  | text (content : String)

/-- The file system and the TOML reader. -/
structure Environment where
  files : String → FileState
  toml : String → Except String FileConfig

/-- The texts that name an auth mode. -/
def AuthType.named : String → Option AuthType
  | "none" => some .none
  | "passthrough" => some .passthrough
  | _ => Option.none

def FileConfig.auth? (file : FileConfig) : Except LoadError AuthType :=
  match file.authType with
  | none => .ok .none
  | some name =>
    match AuthType.named name with
    | some mode => .ok mode
    | none => .error (.invalidData ("invalid auth type: " ++ name))

/-- The settings of a parsed file. A missing host, port, coordinator or log level becomes
the empty value of its type, a missing limit its default. -/
def FileConfig.settings (file : FileConfig) (mode : AuthType) : GatewayConfig where
  server := {
    host := file.host.getD ""
    port := file.port.getD 0
    maxBodySize := file.maxBodySize.getD (16 * 1024 * 1024) }
  fluss := { coordinator := file.coordinator.getD "" }
  auth := {
    type := mode
    startupUsername := file.startupUsername.getD ""
    startupPassword := file.startupPassword.getD "" }
  pool := {
    maxConnections := file.maxConnections.getD 500
    idleTimeoutSecs := file.idleTimeoutSecs.getD 600 }
  log := { level := file.level.getD "" }

def GatewayConfig.fromFile (env : Environment) (path : String) : Except LoadError GatewayConfig :=
  match env.files path with
  -- `Path::exists` is false as well where it cannot find out.
  | .missing | .hidden => .ok default
  | .unreadable message => .error (.read message)
  | .text content => do
    -- Both faults of the content are reported as invalid data.
    let file ← (env.toml content).mapError fun e => .invalidData ("invalid TOML: " ++ e)
    let mode ← file.auth?
    pure (file.settings mode)

/-! ## What loading returns -/

/-- A file that loads: it is missing, or it parses and names no auth mode or a known one. -/
inductive Loads (env : Environment) (path : String) : Option FileConfig → Prop where
  | missing (absent : env.files path = .missing) : Loads env path none
  | parsed {content : String} {file : FileConfig} {mode : AuthType}
      (present : env.files path = .text content) (parses : env.toml content = .ok file)
      (named : file.auth? = .ok mode) : Loads env path (some file)

/-- The auth mode a file chooses; `none` stands for a missing file. -/
def chosenMode (file : Option FileConfig) : AuthType :=
  ((file.bind FileConfig.authType).bind AuthType.named).getD .none

theorem auth?_eq {file : FileConfig} {mode : AuthType} (named : file.auth? = .ok mode) :
    mode = chosenMode (some file) := by
  unfold FileConfig.auth? at named
  split at named
  next absent => cases named; simp [chosenMode, absent]
  next name present =>
    split at named
    next known => cases named; simp [chosenMode, present, known]
    next => cases named

theorem fromFile_of_loads {env : Environment} {path : String} {file : Option FileConfig}
    (loads : Loads env path file) :
    GatewayConfig.fromFile env path =
      .ok (file.elim default fun parsed => parsed.settings (chosenMode file)) := by
  cases loads with
  | missing absent => simp [GatewayConfig.fromFile, absent]
  | parsed present parses named =>
    simp [GatewayConfig.fromFile, present, parses, Except.mapError, named, auth?_eq named, bind, Except.bind,
      pure, Except.pure]

end FlussGateway.Config
