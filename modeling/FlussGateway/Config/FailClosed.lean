import FlussGateway.Config.Precedence

/-!
# Refusing an unknown auth mode

The auth mode may be asked for by the flag and by the file. An unknown name in the file is an
error of the file; an unknown name in the flag is passed over; and at the default path every
error of the file is passed over as well. A file that is there but hidden counts as missing at any
path.
-/
namespace FlussGateway.Config

namespace Environment

variable (env : Environment) (path : String)

/-- The sections of a file that can be read and parsed. -/
def sections : Option FileConfig :=
  match env.files path with
  | .text content => (env.toml content).toOption
  | _ => none

/-- The file exists but cannot be read or parsed. -/
def broken : Bool :=
  match env.files path with
  | .missing => false
  | .hidden | .unreadable _ => true
  | .text content => (env.toml content).toOption.isNone

/-- The auth mode the file asks for. -/
def request : Option String := (env.sections path).bind FileConfig.authType

end Environment

/-- A mode is asked for by a name that is not the name of one. -/
def unknown (request : Option String) : Bool := request.any fun name => (AuthType.named name).isNone

/-- The mode asked for by the most specific source that sets one. -/
def ServeArgs.requested (args : ServeArgs) (env : Environment) : Option String :=
  args.authType.or (env.request args.configPath)

structure FailsClosed (args : ServeArgs) (env : Environment) : Prop where
  refuses : unknown (args.requested env) = true ∨ env.broken args.configPath = true →
    ∃ e, args.loadConfig env = .error e
  /-- Where the mode is none, a source asked for it or no source asked for any. -/
  chosen : ∀ config, args.loadConfig env = .ok config → config.auth.type = .none →
    (args.authType = some "none" ∨ env.request args.configPath = some "none") ∨
    (args.authType = none ∧ env.request args.configPath = none)

/-- With an explicit path the file is not hidden, and the flag is absent or known or the file does
not load. At the default path the mode asked for is not unknown and the file is not broken. -/
def ClosedWhen (args : ServeArgs) (env : Environment) : Prop :=
  match args.config with
  | some path => env.files path ≠ .hidden ∧
    (unknown args.authType = true → env.broken path = true ∨ unknown (env.request path) = true)
  | none => unknown (args.requested env) = false ∧ env.broken "gateway.toml" = false

/-! ## Names -/

theorem named_none_iff (name : String) : AuthType.named name = some .none ↔ name = "none" := by
  unfold AuthType.named
  split <;> simp_all

theorem unknown_eq_false_iff (request : Option String) :
    unknown request = false ↔ ∀ name, request = some name →
    ∃ mode, AuthType.named name = some mode := by
  cases request with
  | none => simp [unknown]
  | some name => cases known : AuthType.named name <;> simp [unknown, known]

theorem auth?_unknown_iff (file : FileConfig) :
    unknown file.authType = true ↔ ∃ e, file.auth? = .error e := by
  unfold FileConfig.auth? unknown
  cases file.authType with
  | none => simp
  | some name => cases known : AuthType.named name <;> simp [known]

/-! ## Loading the file -/

/-- A hidden file loads as if it was not there. Any other loads and asks for a known mode or none,
or it is at fault and loading it fails. -/
theorem fromFile_cases (env : Environment) (path : String) :
    (env.files path = .hidden ∧ env.broken path = true ∧
      GatewayConfig.fromFile env path = .ok default) ∨
    (env.files path ≠ .hidden ∧ ∃ file, Loads env path file ∧ env.broken path = false ∧
      env.request path = file.bind FileConfig.authType ∧
      unknown (env.request path) = false) ∨
    (env.files path ≠ .hidden ∧ (env.broken path = true ∨ unknown (env.request path) = true) ∧
      ∃ e, GatewayConfig.fromFile env path = .error e) := by
  unfold Environment.broken Environment.request Environment.sections
  -- The branches of `from_file`: no file, no text, no TOML, and a name that is none.
  cases present : env.files path with
  | missing => exact .inr (.inl ⟨by simp, none, .missing present, rfl, rfl, rfl⟩)
  | hidden => exact .inl ⟨rfl, rfl, by simp [GatewayConfig.fromFile, present]⟩
  | unreadable message =>
    refine .inr (.inr ⟨by simp, .inl rfl, .read message, ?_⟩)
    simp [GatewayConfig.fromFile, present]
  | text content =>
    cases parses : env.toml content with
    | error e =>
      refine .inr (.inr ⟨by simp, .inl ?_, .invalidData ("invalid TOML: " ++ e), ?_⟩)
      · simp [parses, Except.toOption]
      · simp [GatewayConfig.fromFile, present, parses, Except.mapError, bind, Except.bind]
    | ok file =>
      cases named : file.auth? with
      | ok mode =>
        refine .inr (.inl ⟨by simp, some file, .parsed present parses named, ?_, ?_, ?_⟩)
        · simp [parses, Except.toOption]
        · simp [parses, Except.toOption]
        · have known := mt (auth?_unknown_iff file).mp (by simp [named])
          simpa [parses, Except.toOption] using known
      | error e =>
        refine .inr (.inr ⟨by simp, .inr ?_, e, ?_⟩)
        · simpa [parses, Except.toOption] using (auth?_unknown_iff file).mpr ⟨e, named⟩
        · simp [GatewayConfig.fromFile, present, parses, Except.mapError, named, bind, Except.bind]

/-! ## The mode of the configuration -/

theorem apply_mode (args : ServeArgs) (config : GatewayConfig) :
    (args.apply config).auth.type = (args.authType.bind AuthType.named).getD config.auth.type := by
  rw [apply_eq]

/-- A known flag decides. -/
theorem flag_chosen {args : ServeArgs} {config : GatewayConfig} {name : String}
    (given : args.authType = some name)
    (known : unknown args.authType = false) (open_ : (args.apply config).auth.type = .none) :
    args.authType = some "none" := by
  obtain ⟨mode, named⟩ := (unknown_eq_false_iff _).mp known name given
  rw [apply_mode, given, Option.bind_some, named, Option.getD_some] at open_
  rw [given, (named_none_iff name).mp (open_ ▸ named)]

theorem settled_mode (file : Option FileConfig) :
    (file.elim (default : GatewayConfig) fun parsed =>
      parsed.settings (chosenMode file)).auth.type = chosenMode file := by
  cases file <;> rfl

/-- A file that loads and a flag that is not unknown: the mode is none only if it was asked for,
or nothing was. -/
theorem loaded_chosen {env : Environment} {args : ServeArgs} {file : Option FileConfig}
    (same : env.request args.configPath = file.bind FileConfig.authType)
    (knownFile : unknown (env.request args.configPath) = false)
    (knownFlag : unknown args.authType = false)
    (open_ : (args.apply (file.elim default fun parsed =>
      parsed.settings (chosenMode file))).auth.type = .none) :
    (args.authType = some "none" ∨ env.request args.configPath = some "none") ∨
    (args.authType = none ∧ env.request args.configPath = none) := by
  cases given : args.authType with
  | some name => exact .inl (.inl (given ▸ flag_chosen given knownFlag open_))
  | none =>
    -- No flag: the mode is the file's, or the default where the file asks for none.
    rw [apply_mode, given, Option.bind_none, Option.getD_none, settled_mode, chosenMode,
      ← same] at open_
    cases asked : env.request args.configPath with
    | none => exact .inr ⟨rfl, rfl⟩
    | some name =>
      obtain ⟨mode, named⟩ := (unknown_eq_false_iff _).mp knownFile name asked
      rw [asked, Option.bind_some, named, Option.getD_some] at open_
      rw [(named_none_iff name).mp (open_ ▸ named)]
      exact .inl (.inr rfl)

theorem unknown_requested {env : Environment} {args : ServeArgs}
    (known : unknown (env.request args.configPath) = false) :
    unknown (args.requested env) = unknown args.authType := by
  unfold ServeArgs.requested
  cases args.authType with
  | none => simpa [unknown] using known
  | some name => rfl

/-! ## When loading fails closed -/

/-- Whatever loads: failing closed is up to the flag. -/
theorem failsClosed_of_loads {env : Environment} {args : ServeArgs} {file : Option FileConfig}
    (loads : Loads env args.configPath file) (whole : env.broken args.configPath = false)
    (same : env.request args.configPath = file.bind FileConfig.authType)
    (known : unknown (env.request args.configPath) = false) :
    FailsClosed args env ↔ unknown args.authType = false := by
  have loaded := loadConfig_of_loads args loads
  constructor
  -- An unknown flag would have to be refused, and this file loads.
  · intro closed
    by_contra flag
    obtain ⟨e, failed⟩ := closed.refuses (.inl (by rw [unknown_requested known]; simpa using flag))
    rw [loaded] at failed
    cases failed
  · intro flag
    refine ⟨?_, fun config returned open_ => ?_⟩
    · rw [unknown_requested known, flag, whole]
      rintro (bad | bad) <;> cases bad
    · rw [loaded, Except.ok.injEq] at returned
      subst returned
      exact loaded_chosen same known flag open_

/-- The fault of a file at an explicit path is reported, whatever the flag says. -/
theorem failsClosed_of_reported {env : Environment} {args : ServeArgs} {path : String}
    {e : LoadError} (explicit : args.config = some path)
    (failed : GatewayConfig.fromFile env args.configPath = .error e) : FailsClosed args env := by
  have refused := loadConfig_reports explicit failed
  refine ⟨fun _ => ⟨e, refused⟩, fun config returned => ?_⟩
  rw [refused] at returned
  cases returned

/-- The fault of the default file is passed over, so what was asked for must be known and the file
must be whole: only a known flag over an unknown name in the file meets both. -/
theorem failsClosed_of_passedOver {env : Environment} {args : ServeArgs}
    (loaded : args.loadConfig env = .ok (args.apply default))
    (fault : env.broken args.configPath = true ∨ unknown (env.request args.configPath) = true) :
    FailsClosed args env ↔
    unknown (args.requested env) = false ∧ env.broken args.configPath = false := by
  constructor
  · intro closed
    have refuses := closed.refuses
    rw [loaded] at refuses
    -- Loading succeeds, so neither premise of `refuses` can hold.
    refine ⟨?_, ?_⟩ <;> by_contra bad
    · obtain ⟨_, other⟩ := refuses (.inl (by simpa using bad))
      cases other
    · obtain ⟨_, other⟩ := refuses (.inr (by simpa using bad))
      cases other
  · rintro ⟨requested, whole⟩
    refine ⟨?_, fun config returned open_ => ?_⟩
    · rw [requested, whole]
      rintro (bad | bad) <;> cases bad
    · rw [loaded, Except.ok.injEq] at returned
      subst returned
      rw [whole] at fault
      cases given : args.authType with
      | some name =>
        have flag : unknown args.authType = false := by
          rw [ServeArgs.requested, given, Option.some_or] at requested
          rw [given, requested]
        exact .inl (.inl (given ▸ flag_chosen given flag open_))
      | none =>
        -- Without a flag the file's own name is the one asked for, and it was at fault.
        rw [ServeArgs.requested, given, Option.none_or] at requested
        rw [requested] at fault
        rcases fault with bad | bad <;> cases bad

/-- What a hidden file asks for is not even looked at. -/
theorem not_failsClosed_of_hidden {env : Environment} {args : ServeArgs}
    (broken : env.broken args.configPath = true)
    (passed : GatewayConfig.fromFile env args.configPath = .ok default) : ¬FailsClosed args env := by
  intro closed
  obtain ⟨e, failed⟩ := closed.refuses (.inr broken)
  rw [loadConfig_of_ok passed] at failed
  cases failed

theorem closedWhen_of_some {env : Environment} {args : ServeArgs} {path : String}
    (explicit : args.config = some path) : ClosedWhen args env ↔
    env.files args.configPath ≠ .hidden ∧ (unknown args.authType = true →
      env.broken args.configPath = true ∨ unknown (env.request args.configPath) = true) := by
  unfold ClosedWhen
  rw [configPath_of_some explicit, explicit]

theorem closedWhen_of_none {env : Environment} {args : ServeArgs} (absent : args.config = none) :
    ClosedWhen args env ↔
    unknown (args.requested env) = false ∧ env.broken args.configPath = false := by
  unfold ClosedWhen
  rw [configPath_of_none absent, absent]

/-- For all flags and every file: an auth mode nobody can serve and a file that cannot be understood
are refused exactly when the condition holds. -/
theorem failsClosed_iff (args : ServeArgs) (env : Environment) :
    FailsClosed args env ↔ ClosedWhen args env := by
  rcases fromFile_cases env args.configPath with ⟨hidden, broken, passed⟩ |
    ⟨seen, file, loads, whole, same, known⟩ | ⟨seen, fault, e, failed⟩
  · refine iff_of_false (not_failsClosed_of_hidden broken passed) ?_
    cases path : args.config with
    | some p =>
      rw [closedWhen_of_some path]
      exact fun closed => closed.1 hidden
    | none =>
      rw [closedWhen_of_none path]
      exact fun closed => Bool.false_ne_true (closed.2.symm.trans broken)
  · rw [failsClosed_of_loads loads whole same known]
    cases path : args.config with
    | some p =>
      rw [closedWhen_of_some path]
      simp [seen, whole, known]
    | none =>
      rw [closedWhen_of_none path, unknown_requested known]
      simp [whole]
  -- The file is at fault: reported at an explicit path, passed over at the default one.
  · cases path : args.config with
    | some p =>
      rw [closedWhen_of_some path]
      exact iff_of_true (failsClosed_of_reported path failed) ⟨seen, fun _ => fault⟩
    | none =>
      rw [closedWhen_of_none path]
      exact failsClosed_of_passedOver (loadConfig_passes_over path failed) fault

/-! ## A mode nobody can serve -/

/-- `--auth-type basic` in a directory without a file, and no flags beside a file with
`type = "basic"`. -/
def basicFlag : ServeArgs := { noFlags with authType := some "basic" }

def noFile : Environment := ⟨fun _ => .missing, fun _ => .error ""⟩

def basicFile : Environment where
  files path := if path = "gateway.toml" then .text "[auth]\ntype = \"basic\"\n" else .missing
  toml content :=
    if content = "[auth]\ntype = \"basic\"\n" then .ok
      ⟨none, none, some ⟨some "basic", none, none⟩, none, none⟩
    else .error "unexpected"

/-- `--config` with a file in a directory that the gateway may not enter. -/
def secretArgs : ServeArgs := { noFlags with config := some "secret/gateway.toml" }

def secretFile : Environment :=
  ⟨fun path => if path = "secret/gateway.toml" then .hidden else .missing, fun _ => .error ""⟩

/-- All three gateways come up without authentication. -/
theorem basic_falls_open :
    (∃ config, basicFlag.loadConfig noFile = .ok config ∧ config.auth.type = .none ∧
      ¬FailsClosed basicFlag noFile) ∧
    (∃ config, noFlags.loadConfig basicFile = .ok config ∧ config.auth.type = .none ∧
      ¬FailsClosed noFlags basicFile) ∧
    ∃ config, secretArgs.loadConfig secretFile = .ok config ∧ config.auth.type = .none ∧
      ¬FailsClosed secretArgs secretFile := by
  refine ⟨?_, ?_, ?_⟩
  · refine ⟨_, rfl, rfl, fun closed => ?_⟩
    obtain ⟨e, failed⟩ := closed.refuses (.inl rfl)
    cases failed
  · refine ⟨_, rfl, rfl, fun closed => ?_⟩
    obtain ⟨e, failed⟩ := closed.refuses (.inl rfl)
    cases failed
  · refine ⟨_, rfl, rfl, fun closed => ?_⟩
    obtain ⟨e, failed⟩ := closed.refuses (.inr rfl)
    cases failed

end FlussGateway.Config
