import FlussGateway.Config.File

/-!
# Flags over file over defaults

`load_config` reads the file and then overwrites each setting whose flag is given. For a
flag that is absent the setting is the file's, and for a key that is absent as well it
is whatever `from_file` puts there.
-/
namespace FlussGateway.Config

structure ServeArgs where
  host : Option String
  port : Option UInt16
  flussCoordinator : Option String
  authType : Option String
  saslUsername : Option String
  saslPassword : Option String
  config : Option String
  poolMaxConnections : Option UInt32
  poolIdleTimeoutSecs : Option UInt64
  logLevel : Option String

/-- `if let Some(v) = flag`, with the assignment in its body. -/
def overwrite {α : Type} (flag : Option α) (assign : GatewayConfig → α → GatewayConfig)
    (config : GatewayConfig) : GatewayConfig :=
  match flag with
  | some v => assign config v
  | none => config

/-- The overwriting steps, in the order of the source. -/
def ServeArgs.apply (args : ServeArgs) (config : GatewayConfig) : GatewayConfig :=
  let config := overwrite args.host (fun c v => { c with server.host := v }) config
  let config := overwrite args.port (fun c v => { c with server.port := v }) config
  let config := overwrite args.flussCoordinator (fun c v => { c with fluss.coordinator := v }) config
  let config := overwrite args.authType
    (fun c v => { c with auth.type := (AuthType.named v).getD c.auth.type }) config
  let config := overwrite args.saslUsername (fun c v => { c with auth.startupUsername := v }) config
  let config := overwrite args.saslPassword (fun c v => { c with auth.startupPassword := v }) config
  let config := overwrite args.poolMaxConnections (fun c v => { c with pool.maxConnections := v }) config
  let config := overwrite args.poolIdleTimeoutSecs (fun c v => { c with pool.idleTimeoutSecs := v }) config
  overwrite args.logLevel (fun c v => { c with log.level := v }) config

def ServeArgs.configPath (args : ServeArgs) : String := args.config.getD "gateway.toml"

/-- An explicit path must load; the default path falls back to the default configuration. -/
def ServeArgs.loadConfig (args : ServeArgs) (env : Environment) : Except LoadError GatewayConfig :=
  match args.config with
  | some path => (GatewayConfig.fromFile env path).map args.apply
  -- A default file that does not load is passed over.
  | none => .ok (args.apply ((GatewayConfig.fromFile env "gateway.toml").toOption.getD default))

/-! ## The documented precedence -/

/-- A setting: the flag if given, else the key if present, else the default. -/
def resolve {α : Type} (flag key : Option α) (fallback : α) : α := (flag.or key).getD fallback

/-- Every setting of a configuration follows the precedence. -/
structure Precedence (args : ServeArgs) (file : Option FileConfig) (config : GatewayConfig) : Prop where
  host : config.server.host = resolve args.host (file.bind (·.host)) (default : ServerConfig).host
  port : config.server.port = resolve args.port (file.bind (·.port)) (default : ServerConfig).port
  maxBodySize : config.server.maxBodySize =
    resolve none (file.bind (·.maxBodySize)) (default : ServerConfig).maxBodySize
  coordinator : config.fluss.coordinator =
    resolve args.flussCoordinator (file.bind (·.coordinator)) (default : FlussConfig).coordinator
  authType : config.auth.type = resolve (args.authType.bind AuthType.named)
    ((file.bind (·.authType)).bind AuthType.named) (default : AuthConfig).type
  startupUsername : config.auth.startupUsername =
    resolve args.saslUsername (file.bind (·.startupUsername)) (default : AuthConfig).startupUsername
  startupPassword : config.auth.startupPassword =
    resolve args.saslPassword (file.bind (·.startupPassword)) (default : AuthConfig).startupPassword
  maxConnections : config.pool.maxConnections =
    resolve args.poolMaxConnections (file.bind (·.maxConnections)) (default : PoolConfig).maxConnections
  idleTimeoutSecs : config.pool.idleTimeoutSecs =
    resolve args.poolIdleTimeoutSecs (file.bind (·.idleTimeoutSecs)) (default : PoolConfig).idleTimeoutSecs
  level : config.log.level = resolve args.logLevel (file.bind (·.level)) (default : LogConfig).level

/-- The settings that `from_file` gives no default of their own are all given. -/
structure Given (args : ServeArgs) (file : FileConfig) : Prop where
  host : args.host.isSome ∨ file.host.isSome
  port : args.port.isSome ∨ file.port.isSome
  coordinator : args.flussCoordinator.isSome ∨ file.coordinator.isSome
  level : args.logLevel.isSome ∨ file.level.isSome

/-! ## The overwriting steps -/

theorem overwrite_eq {α : Type} (get : GatewayConfig → α) (flag : Option α)
    (assign : GatewayConfig → α → GatewayConfig) (config : GatewayConfig)
    (same : assign config (get config) = config) :
    overwrite flag assign config = assign config (flag.getD (get config)) := by
  cases flag with
  | none => exact same.symm
  | some v => rfl

theorem apply_eq (args : ServeArgs) (config : GatewayConfig) :
    args.apply config = {
      server := {
        host := args.host.getD config.server.host
        port := args.port.getD config.server.port
        maxBodySize := config.server.maxBodySize }
      fluss := { coordinator := args.flussCoordinator.getD config.fluss.coordinator }
      auth := {
        type := (args.authType.bind AuthType.named).getD config.auth.type
        startupUsername := args.saslUsername.getD config.auth.startupUsername
        startupPassword := args.saslPassword.getD config.auth.startupPassword }
      pool := {
        maxConnections := args.poolMaxConnections.getD config.pool.maxConnections
        idleTimeoutSecs := args.poolIdleTimeoutSecs.getD config.pool.idleTimeoutSecs }
      log := { level := args.logLevel.getD config.log.level } } := by
  have mode : ∀ c : GatewayConfig, overwrite args.authType
      (fun c v => { c with auth.type := (AuthType.named v).getD c.auth.type }) c =
        { c with auth.type := (args.authType.bind AuthType.named).getD c.auth.type } := by
    intro c
    cases args.authType <;> rfl
  simp only [ServeArgs.apply, mode]
  -- Each step assigns the flag or, without one, what is there already.
  rw [overwrite_eq (·.server.host) args.host _ _ rfl, overwrite_eq (·.server.port) args.port _ _ rfl,
    overwrite_eq (·.fluss.coordinator) args.flussCoordinator _ _ rfl,
    overwrite_eq (·.auth.startupUsername) args.saslUsername _ _ rfl,
    overwrite_eq (·.auth.startupPassword) args.saslPassword _ _ rfl,
    overwrite_eq (·.pool.maxConnections) args.poolMaxConnections _ _ rfl,
    overwrite_eq (·.pool.idleTimeoutSecs) args.poolIdleTimeoutSecs _ _ rfl,
    overwrite_eq (·.log.level) args.logLevel _ _ rfl]

/-! ## The file that is loaded -/

section Load

variable {env : Environment} {args : ServeArgs} {path : String} {config : GatewayConfig} {e : LoadError}

theorem configPath_of_some (given : args.config = some path) : args.configPath = path := by
  rw [ServeArgs.configPath, given, Option.getD_some]

theorem configPath_of_none (absent : args.config = none) : args.configPath = "gateway.toml" := by
  rw [ServeArgs.configPath, absent, Option.getD_none]

/-- What the file yields is overwritten, at any path. -/
theorem loadConfig_of_ok (loaded : GatewayConfig.fromFile env args.configPath = .ok config) :
    args.loadConfig env = .ok (args.apply config) := by
  unfold ServeArgs.loadConfig
  cases given : args.config with
  | some path =>
    rw [configPath_of_some given] at loaded
    simp [loaded, Except.map]
  | none =>
    rw [configPath_of_none given] at loaded
    simp [loaded, Except.toOption]

theorem loadConfig_reports (given : args.config = some path)
    (failed : GatewayConfig.fromFile env args.configPath = .error e) :
    args.loadConfig env = .error e := by
  rw [configPath_of_some given] at failed
  simp [ServeArgs.loadConfig, given, failed, Except.map]

theorem loadConfig_passes_over (absent : args.config = none)
    (failed : GatewayConfig.fromFile env args.configPath = .error e) :
    args.loadConfig env = .ok (args.apply default) := by
  rw [configPath_of_none absent] at failed
  simp [ServeArgs.loadConfig, absent, failed, Except.toOption]

end Load

theorem loadConfig_of_loads {env : Environment} (args : ServeArgs) {file : Option FileConfig}
    (loads : Loads env args.configPath file) :
    args.loadConfig env =
      .ok (args.apply (file.elim default fun parsed => parsed.settings (chosenMode file))) :=
  loadConfig_of_ok (fromFile_of_loads loads)

/-! ## When the precedence holds -/

theorem resolve_file {α : Type} (flag key : Option α) (fallback : α) :
    flag.getD (key.getD fallback) = resolve flag key fallback := by
  cases flag <;> cases key <;> rfl

/-- A wrong fallback shows exactly when neither the flag nor the key is there. -/
theorem resolve_file_iff {α : Type} (flag key : Option α) {empty fallback : α} (differ : empty ≠ fallback) :
    flag.getD (key.getD empty) = resolve flag key fallback ↔ flag.isSome ∨ key.isSome := by
  cases flag <;> cases key <;> simp [resolve, differ]

theorem precedence_missing (args : ServeArgs) : Precedence args none (args.apply default) := by
  rw [apply_eq]
  constructor <;> simp only [resolve, Option.bind_none, Option.or_none] <;> rfl

theorem precedence_parsed_iff (args : ServeArgs) (file : FileConfig) :
    Precedence args (some file) (args.apply (file.settings (chosenMode (some file)))) ↔ Given args file := by
  -- An absent file entry becomes "" or 0, which then hides the default.
  have host := resolve_file_iff args.host file.host (show "" ≠ (default : ServerConfig).host by decide)
  have port := resolve_file_iff args.port file.port (show 0 ≠ (default : ServerConfig).port by decide)
  have coordinator := resolve_file_iff args.flussCoordinator file.coordinator
    (show "" ≠ (default : FlussConfig).coordinator by decide)
  have level := resolve_file_iff args.logLevel file.level (show "" ≠ (default : LogConfig).level by decide)
  rw [apply_eq]
  constructor
  · intro follows
    exact ⟨host.mp follows.host, port.mp follows.port, coordinator.mp follows.coordinator,
      level.mp follows.level⟩
  · intro given
    exact {
      host := host.mpr given.host
      port := port.mpr given.port
      maxBodySize := resolve_file none file.maxBodySize _
      coordinator := coordinator.mpr given.coordinator
      authType := resolve_file (args.authType.bind AuthType.named) (file.authType.bind AuthType.named) .none
      startupUsername := resolve_file args.saslUsername file.startupUsername ""
      startupPassword := resolve_file args.saslPassword file.startupPassword ""
      maxConnections := resolve_file args.poolMaxConnections file.maxConnections 500
      idleTimeoutSecs := resolve_file args.poolIdleTimeoutSecs file.idleTimeoutSecs 600
      level := level.mpr given.level }

/-- Whatever file loads, the configuration follows the precedence exactly when the file is
missing or host, port, coordinator and log level are each set by a flag or by the file. -/
theorem loadConfig_precedence_iff {env : Environment} (args : ServeArgs) {file : Option FileConfig}
    (loads : Loads env args.configPath file) :
    ∃ config, args.loadConfig env = .ok config ∧
      (Precedence args file config ↔ ∀ parsed, file = some parsed → Given args parsed) := by
  refine ⟨_, loadConfig_of_loads args loads, ?_⟩
  cases file with
  | none => simpa using precedence_missing args
  | some parsed => simpa using precedence_parsed_iff args parsed

/-! ## A file with a port and nothing else -/

def noFlags : ServeArgs := ⟨none, none, none, none, none, none, none, none, none, none⟩

/-- `gateway.toml` holds the two lines `[server]` and `port = 9000`. -/
def portOnly : Environment where
  files path := if path = "gateway.toml" then .text "[server]\nport = 9000\n" else .missing
  toml content :=
    if content = "[server]\nport = 9000\n" then
      .ok ⟨some ⟨none, some 9000, none⟩, none, none, none, none⟩
    else .ok ⟨none, none, none, none, none⟩

theorem portOnly_loads :
    Loads portOnly noFlags.configPath (some ⟨some ⟨none, some 9000, none⟩, none, none, none, none⟩) := by
  have present : portOnly.files noFlags.configPath = .text "[server]\nport = 9000\n" := rfl
  exact .parsed present rfl (show FileConfig.auth? _ = .ok .none from rfl)

theorem loadConfig_precedence_iff_portOnly :
    ∃ config, noFlags.loadConfig portOnly = .ok config ∧
      (Precedence noFlags (some ⟨some ⟨none, some 9000, none⟩, none, none, none, none⟩) config ↔
        ∀ parsed, some ⟨some ⟨none, some 9000, none⟩, none, none, none, none⟩ = some parsed →
          Given noFlags parsed) :=
  loadConfig_precedence_iff noFlags portOnly_loads

/-- The host, the coordinator and the log level come out empty instead of their defaults. -/
theorem loadConfig_precedence_fails :
    (∃ config, noFlags.loadConfig portOnly = .ok config ∧ config.server.port = 9000 ∧
      config.server.host = "" ∧ config.fluss.coordinator = "" ∧ config.log.level = "") ∧
    ¬∀ (env : Environment) (args : ServeArgs) (file : Option FileConfig), Loads env args.configPath file →
      ∃ config, args.loadConfig env = .ok config ∧ Precedence args file config := by
  have loaded := loadConfig_of_loads noFlags portOnly_loads
  constructor
  · exact ⟨_, loaded, rfl, rfl, rfl, rfl⟩
  · intro always
    obtain ⟨config, returned, follows⟩ := always portOnly noFlags _ portOnly_loads
    rw [loaded, Except.ok.injEq] at returned
    subst returned
    have host := ((precedence_parsed_iff noFlags _).mp follows).host
    simp [noFlags, FileConfig.host] at host

end FlussGateway.Config
