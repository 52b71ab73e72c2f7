import FlussGateway.Backend.Outage
import FlussGateway.Resilience.Health
import FlussGateway.Rest.Handlers

/-!
# The health endpoint

The shallow check answers at once. The deep one reads the breaker first and asks the backend
only if the breaker does not block. The endpoint is outside the routes that carry
credentials.
-/
namespace FlussGateway.Rest

open FlussGateway.Foundation FlussGateway.Backend FlussGateway.Codec FlussGateway.Resilience

section

variable (config : CircuitBreakerConfig) (cb : CircuitBreaker) (now : Nat)

def checkFlussHealth : Endpoint (Except GatewayError Unit × HealthStatus) :=
  if cb.health config now = .unhealthy then pure
    (.error (.internal "circuit breaker is open"), .unhealthy)
  else .call .checkHealth fun result => pure (result, cb.health config now)

/-- The status of a deep check. -/
def deepStatus : Except GatewayError Unit → HealthStatus → HealthStatus
  | _, .unhealthy => .unhealthy
  | _, .degraded => .degraded
  | .ok _, .healthy => .healthy
  | .error _, .healthy => .degraded

def deepCode : HealthStatus → Nat
  | .healthy => 200
  | .degraded => 200
  | .unhealthy => 503

def deepResponse (timestamp : String) (fluss : Except GatewayError Unit)
    (circuit : HealthStatus) : Response :=
  .json (deepCode (deepStatus fluss circuit)) (.object [
    ("status", .string (deepStatus fluss circuit).text),
    ("fluss", .string (match fluss with | .ok _ => "connected" | .error _ => "disconnected")),
    ("circuit_breaker", .string circuit.text),
    ("timestamp", .string timestamp)])

/-- `GET /health`; the texts of the timestamps are not the gateway's own. -/
def health (deep : Option Bool) (timestamp : String) : Endpoint Response :=
  if deep.getD false then do
    let (fluss, circuit) ← checkFlussHealth config cb now
    pure (deepResponse timestamp fluss circuit)
  else pure (.json 200 (.object [("status", .string "ok"), ("timestamp", .string timestamp)]))

end

/-- The response's own status. -/
def Response.reports (response : Response) (status : String) : Prop :=
  ∃ rest, response.body = .json (.object (("status", .string status) :: rest))

/-- What a deep check at one moment does, told from the admission at that moment. -/
structure DeepAgrees {Client : Type} (config : CircuitBreakerConfig) (h : List (Entry Client))
    (cb : CircuitBreaker) (now : Nat) (timestamp : String) : Prop where
  /-- A blocking circuit is reported without asking the backend. -/
  blocked : (cb.allowRequest config now).1 = false → ∃ response,
    health config cb now (some true) timestamp = pure response ∧ response.status = 503 ∧
      response.reports "unhealthy"
  /-- Any other is not, and only a good answer of the backend after no failure is called healthy. -/
  open_ : (cb.allowRequest config now).1 = true → ∃ respond : Except GatewayError Unit → Response,
    health config cb now (some true) timestamp = .call .checkHealth
      (fun result => pure (respond result)) ∧
    ∀ result, (respond result).status = 200 ∧
      (failuresSince h < 2 ^ 64 → (respond result).reports "healthy" → result = .ok () ∧
        failuresSince h = 0)

theorem reports_iff (timestamp : String) (fluss : Except GatewayError Unit) (circuit : HealthStatus)
    (status : String) :
    (deepResponse timestamp fluss circuit).reports status ↔
    (deepStatus fluss circuit).text = status := by
  simp [Response.reports, deepResponse, Response.json]

theorem deepStatus_healthy_iff (fluss : Except GatewayError Unit) (circuit : HealthStatus) :
    (deepStatus fluss circuit).text = "healthy" ↔ fluss = .ok () ∧ circuit = .healthy := by
  cases fluss <;> cases circuit <;> simp [deepStatus, HealthStatus.text]

theorem deepCode_iff {fluss : Except GatewayError Unit} {circuit : HealthStatus}
    (other : circuit ≠ .unhealthy) :
    deepCode (deepStatus fluss circuit) = 200 := by
  cases fluss <;> cases circuit <;> first | rfl | exact absurd rfl other

variable {Client : Type} [DecidableEq Client]

/-- In every state and at every time: the health agrees with admission, and so does the deep
check. -/
theorem health_agrees_with_admission {config : CircuitBreakerConfig} {h : List (Entry Client)}
    {s : System Client} (run : Interleaving config h s) :
    HealthAgrees config h s.breaker ∧ ∀ t timestamp, DeepAgrees config h s.breaker t timestamp := by
  have agrees := health_agrees run
  refine ⟨agrees, fun t timestamp => ⟨fun denied => ?_, fun allowed => ?_⟩⟩
  -- Denied: answered at once, without asking the backend.
  · have unhealthy := (agrees.unhealthy t).mpr denied
    refine ⟨deepResponse timestamp (.error (.internal "circuit breaker is open")) .unhealthy,
      ?_, rfl, _, rfl⟩
    simp only [health, Option.getD_some, if_true, checkFlussHealth, unhealthy]
    rfl
  · have other : s.breaker.health config t ≠ .unhealthy := by
      rw [Ne, agrees.unhealthy t, allowed]
      nofun
    refine ⟨fun result => deepResponse timestamp result (s.breaker.health config t), ?_,
      fun result => ⟨deepCode_iff other, ?_⟩⟩
    · simp only [health, Option.getD_some, if_true, checkFlussHealth, if_neg other]
      rfl
    · intro few reported
      obtain ⟨good, healthy⟩ := (deepStatus_healthy_iff ..).mp ((reports_iff ..).mp reported)
      exact ⟨good, (agrees.healthy few t).mp healthy⟩

theorem health_agrees_with_admission_twoProbes : ∃ s, Interleaving quickConfig twoProbes s ∧
    HealthAgrees quickConfig twoProbes s.breaker ∧
    ∀ t timestamp, DeepAgrees quickConfig twoProbes s.breaker t timestamp := by
  obtain ⟨s, run⟩ := twoProbes_run
  exact ⟨s, run, health_agrees_with_admission run⟩

/-! ## Without the coordinator -/

section Outage

variable {σ : Type} (service : Service σ) (sha256 : Sha256) (formats : Formats) (debug : Debug)
    (backend : FlussBackend)

/-- What operations, the health check and the deep endpoint do in a state of the pool and the
coordinator. -/
structure ReturnsWhenConnected (s : σ) : Prop where
  operation : ∀ creds op, (backend.perform sha256 formats debug creds op).Returns service s ↔
    Connects service sha256 backend creds s
  checkHealth : (backend.checkHealth sha256).Returns service s ↔
    Connects service sha256 backend none s
  deepHealth : ∀ config (cb : CircuitBreaker) now timestamp,
    ((health config cb now (some true) timestamp).translate (BackendCall.impl sha256 formats debug backend)).Returns service s ↔
      cb.Blocks config now ∨ Connects service sha256 backend none s
  /-- While others go on: the panic is the refused connection. -/
  interleaved : ∀ creds op trace result,
    (backend.perform sha256 formats debug creds op).Ends trace result →
    ((∃ msg, result = .error (.panic msg)) ↔ ∃ e,
      trace = [⟨.cacheGet (backend.key sha256 creds), none⟩,
      ⟨.connect (connectionConfig backend.pool.coordinator (backend.pair creds).1 (backend.pair creds).2), .error e⟩])

variable {service sha256 formats debug backend}

theorem deepHealth_returns_iff (config : CircuitBreakerConfig) (cb : CircuitBreaker) (now : Nat)
    (timestamp : String) (s : σ) :
    ((health config cb now (some true) timestamp).translate (BackendCall.impl sha256 formats debug backend)).Returns service s ↔
      cb.Blocks config now ∨ Connects service sha256 backend none s := by
  rw [← CircuitBreaker.health_unhealthy_iff]
  by_cases unhealthy : cb.health config now = .unhealthy
  · simp only [health, Option.getD_some, if_true, checkFlussHealth, unhealthy, true_or, iff_true]
    exact (Program.panicless_ok _).run service s
  · rw [or_iff_right unhealthy, ← works_returns_iff (checkHealth_works sha256 backend)]
    simp only [health, Option.getD_some, if_true, checkFlussHealth, if_neg unhealthy]
    -- The check's error is caught, its panic is not.
    exact (Program.returns_bind_iff (fun _ => Program.panicless_ok _) s).trans
      (Program.attempt_returns_iff ..)

/-- In every state of the pool and the coordinator: an operation, the health check and the deep
endpoint return exactly when the pool has their connection or the coordinator accepts a new one. -/
theorem returns_when_connected (s : σ) :
    ReturnsWhenConnected service sha256 formats debug backend s where
  operation creds op := works_returns_iff (perform_works sha256 formats debug backend creds op) s
  checkHealth := works_returns_iff (checkHealth_works sha256 backend) s
  deepHealth config cb now timestamp := deepHealth_returns_iff config cb now timestamp s
  interleaved creds op _ _ ended :=
    works_ends_iff (perform_works sha256 formats debug backend creds op) ended

end Outage

/-! ## The coordinator goes away -/

/-- The cluster in memory, refusing new connections. -/
def refusing : Service Memory
  | .connect _, s => (.error ⟨-1, "connection refused"⟩, s)
  | op, s => Memory.service samplePath sampleInfo op s

/-- The pool after the startup connection. -/
def warm : Memory :=
  ((sampleBackend.conn sampleSha256 none).run (Memory.service samplePath sampleInfo) .empty).2

/-- The same pool after the entry has been dropped. -/
def evicted : Memory := { warm with cache := fun _ => none }

def sampleFormats : Formats := ⟨fun _ => "", fun _ => "", fun _ => ""⟩

/-- The startup connection keeps the health check going, but the first request of another user
panics; and once the entry is dropped the deep health endpoint panics as well. -/
theorem refused_connection_panics :
    (sampleBackend.checkHealth sampleSha256).Returns refusing warm ∧
    (∃ msg, ((sampleBackend.perform sampleSha256 sampleFormats (fun _ _ => "") (some ⟨"user", ""⟩) .listDatabases).run
      refusing warm).1 = .error (.panic msg)) ∧
    (∃ msg, ((sampleBackend.checkHealth sampleSha256).run refusing evicted).1 =
      .error (.panic msg)) ∧
    ∃ msg, (((health default .new 0 (some true) "").translate
      (BackendCall.impl sampleSha256 sampleFormats (fun _ _ => "") sampleBackend)).run refusing evicted).1 =
        .error (.panic msg) := by
  refine ⟨?_, ⟨_, rfl⟩, ⟨_, rfl⟩, ⟨_, rfl⟩⟩
  intro msg
  nofun

end FlussGateway.Rest
