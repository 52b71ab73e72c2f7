import FlussGateway.Foundation.Tally
import FlussGateway.Rest.MetricLabels
import FlussGateway.Rest.Serving

/-!
# The request metrics

Every request that the router has a template for is counted after it has been answered, under its method, its
normalised path and its status, and an error once more by its kind. The counters are shared by all requests,
and each is written on its own.
-/
namespace FlussGateway.Rest

open FlussGateway.Foundation FlussGateway.Foundation.Tally FlussGateway.Backend FlussGateway.Codec

/-- A counter or the number of observations of a histogram, with its labels. -/
inductive Metric where
  | httpRequestsTotal (method : String) (path : Bytes) (status : Nat)
  | httpRequestDurationSeconds (method : String) (path : Bytes)
  | errorsTotal (errorType : String)
deriving DecidableEq

/-- Requests with their calls of the client and of the metrics recorder. -/
abbrev Metered (α : Type) := Program (Counting Call Metric) (Counting.Answer Call.Reply) GatewayError α

def increment (metric : Metric) : Metered Unit := Program.perform (Counting.count metric : Counting Call Metric)

def Method.asStr : Method → String
  | .get => "GET"
  | .head => "HEAD"
  | .post => "POST"
  | .put => "PUT"
  | .delete => "DELETE"
  | .other name => name

def recordHttpRequest (method : String) (path : Bytes) (status : Nat) : Metered Unit :=
  increment (.httpRequestsTotal method path status)

/-- How long the request took is not modelled, only that it has been recorded. -/
def recordHttpRequestDuration (method : String) (path : Bytes) : Metered Unit :=
  increment (.httpRequestDurationSeconds method path)

def recordError (errorType : String) : Metered Unit := increment (.errorsTotal errorType)

def metricsMiddleware (req : Request) (next : Metered Response) : Metered Response := do
  let response ← next
  let normalizedPath := normalizePath req.path
  recordHttpRequest req.method.asStr normalizedPath response.status
  recordHttpRequestDuration req.method.asStr normalizedPath
  if 400 ≤ response.status then
    let errorType := if 500 ≤ response.status then "server_error" else "client_error"
    recordError errorType
    pure response
  else pure response

section

variable (server : Server) (sha256 : Sha256) (debug : Debug) (backend : FlussBackend) (req : Request)

/-- The layers wrap the routes, with all their methods, but not what is served for other paths. -/
def Server.metered : Metered Response :=
  match dispatch req.method req.path with
  | .notFound => through (server.program sha256 debug backend req)
  | .methodNotAllowed | .handler _ _ => metricsMiddleware req (through (server.program sha256 debug backend req))

/-- The counter of requests like this one with such a response. -/
def Request.requestMetric (response : Response) : Metric :=
  .httpRequestsTotal req.method.asStr (normalizePath req.path) response.status

/-- What a response adds to the metrics. -/
def Request.readings (response : Response) : List Metric :=
  if dispatch req.method req.path = .notFound then []
  else
    req.requestMetric response ::
      .httpRequestDurationSeconds req.method.asStr (normalizePath req.path) ::
      if 400 ≤ response.status then
        [.errorsTotal (if 500 ≤ response.status then "server_error" else "client_error")]
      else []

theorem metered_eq : server.metered sha256 debug backend req =
    observed (server.program sha256 debug backend req) req.readings := by
  have wrapped : dispatch req.method req.path ≠ .notFound →
      metricsMiddleware req (through (server.program sha256 debug backend req)) =
        observed (server.program sha256 debug backend req) req.readings := by
    intro found
    refine congrArg (through (server.program sha256 debug backend req) >>= ·)
      (funext fun response => ?_)
    unfold Request.readings
    rw [if_neg found]
    split <;> rfl
  unfold Server.metered
  split
  next unrouted => exact (observed_silent _ fun _ => if_pos unrouted).symm
  next unserved => exact wrapped (by rw [unserved]; exact nofun)
  next routed => exact wrapped (by rw [routed]; exact nofun)

theorem readings_nodup (response : Response) : (req.readings response).Nodup := by
  unfold Request.readings
  split
  next => exact List.nodup_nil
  next => split <;> simp [Request.requestMetric]

/-- Nothing is counted before the request itself. -/
theorem request_first {response : Response} {metric : Metric} {counted : List Metric}
    (first : counted <+: req.readings response) (member : metric ∈ counted) :
    req.requestMetric response ∈ counted := by
  unfold Request.readings at first
  split at first
  next =>
    rw [List.prefix_nil.mp first] at member
    cases member
  next =>
    cases counted with
    | nil => cases member
    | cons here counted =>
      rw [(List.cons_prefix_cons.mp first).1]
      exact List.mem_cons_self

end

/-! ## What the counters tell -/

section Accounting

variable {σ : Type} {service : Service σ} {server : Server} {sha256 : Sha256} {debug : Debug}
  {backend : FlussBackend} {reqs : Nat → Request} {calls : List (Nat × Counting Call Metric)}
  {s : σ × (Metric → UInt64)}

/-- The counters, after any calls of any requests, told from who has been answered with what. -/
structure Accounted (service : Service σ) (server : Server) (sha256 : Sha256) (debug : Debug)
    (backend : FlussBackend) (reqs : Nat → Request) (calls : List (Nat × Counting Call Metric))
    (s : σ × (Metric → UInt64)) (counted : Metric → Finset Nat) : Prop where
  total : ∀ metric, (Schedule.after (counting service) calls s).2 metric =
    s.2 metric + UInt64.ofNat (counted metric).card
  /-- Whoever is counted has a response that says so, even if it is still under way, and has been
  counted under its status first. -/
  returned : ∀ metric, ∀ id ∈ counted metric, ∃ response own,
    (server.program sha256 debug backend (reqs id)).Ends own (.ok response) ∧
    metric ∈ (reqs id).readings response ∧ id ∈ counted ((reqs id).requestMetric response)
  /-- Once it is answered it is counted on exactly the counters that its response says. -/
  answered : ∀ id response, (server.metered sha256 debug backend (reqs id)).Ends
      (Schedule.own id (Schedule.recorded (counting service) calls s)) (.ok response) →
    ∀ metric, id ∈ counted metric ↔ metric ∈ (reqs id).readings response
  /-- A panic passes the metrics by. -/
  panicked : ∀ id fault, (server.metered sha256 debug backend (reqs id)).Ends
      (Schedule.own id (Schedule.recorded (counting service) calls s)) (.error fault) →
    ∀ metric, id ∉ counted metric

/-- Requests served side by side in any order of their calls and their counts: each counter has
grown by the number of those that are counted on it. -/
theorem metrics_account
    (served : ∀ id, (server.metered sha256 debug backend (reqs id)).Follows
      (Schedule.own id (Schedule.recorded (counting service) calls s))) :
    ∃ counted, Accounted service server sha256 debug backend reqs calls s counted := by
  simp only [metered_eq] at served
  have once : ∀ id, (counts (Schedule.own id (Schedule.recorded (counting service) calls s))).Nodup := by
    intro id
    rcases observed_follows (served id) with none | ⟨response, _, _, first⟩
    · rw [none]
      exact List.nodup_nil
    · exact (readings_nodup (reqs id) response).sublist first.sublist
  refine ⟨counted service calls s, fun metric => counters_tally once, ?_, ?_, ?_⟩
  · intro metric id member
    rw [mem_counted] at member
    rcases observed_follows (served id) with none | ⟨response, own, returned, first⟩
    · rw [none] at member
      exact absurd member List.not_mem_nil
    · refine ⟨response, own, returned, first.subset member, ?_⟩
      rw [mem_counted]
      exact request_first (reqs id) first member
  · intro id response ended metric
    rw [metered_eq] at ended
    rw [mem_counted, observed_returned ended]
  · intro id fault ended metric
    rw [metered_eq] at ended
    rw [mem_counted, observed_failed ended]
    exact List.not_mem_nil

end Accounting

/-! ## A refusal beside a request under way -/

/-- A scan without its content type. -/
def untypedRequest : Request := { scanRequest 0 none with headers := [] }

def meteredRequests : Nat → Request
  | 0 => listRequest
  | _ => untypedRequest

def scanLabel : Bytes := utf8 "/v1/\x7bdb\x7d/\x7btable\x7d/scan"

/-- The scan is answered before the list of databases. -/
def meteredCalls : List (Nat × Counting Call Metric) :=
  [(0, .call (.cacheGet (sampleBackend.key sampleSha256 none))),
   (1, .count (.httpRequestsTotal "POST" scanLabel 415)),
   (0, .call (.connect (connectionConfig "localhost:9123" "" ""))),
   (1, .count (.httpRequestDurationSeconds "POST" scanLabel)),
   (1, .count (.errorsTotal "client_error"))]

theorem meteredCalls_ends : ((scanServer 100).metered sampleSha256 (fun _ _ => "") sampleBackend
    untypedRequest).Ends (Schedule.own 1 (Schedule.recorded
      (counting (Memory.service samplePath sampleInfo)) meteredCalls (Memory.empty, fun _ => 0)))
    (.ok (.ofStatus 415)) := by
  have routed : dispatch .post scanPath = .handler .scan [utf8 "shop", utf8 "orders"] := scan_routed
  unfold Server.metered
  rw [show dispatch untypedRequest.method untypedRequest.path = _ from routed]
  exact .call (.call (.call (.done _)))

theorem meteredCalls_served (id : Nat) : ((scanServer 100).metered sampleSha256 (fun _ _ => "")
    sampleBackend (meteredRequests id)).Follows (Schedule.own id (Schedule.recorded
      (counting (Memory.service samplePath sampleInfo)) meteredCalls (Memory.empty, fun _ => 0))) := by
  match id with
  | 0 =>
    have routed : dispatch .get listRequest.path = .handler .listDatabases [] := by decide
    unfold Server.metered
    rw [show dispatch (meteredRequests 0).method (meteredRequests 0).path = _ from routed]
    exact .call (.call (.here _))
  | 1 => exact meteredCalls_ends.follows
  | _ + 2 => exact .here _

theorem metrics_account_refused : ∃ counted, Accounted (Memory.service samplePath sampleInfo)
    (scanServer 100) sampleSha256 (fun _ _ => "") sampleBackend meteredRequests meteredCalls
    (Memory.empty, fun _ => 0) counted :=
  metrics_account meteredCalls_served

end FlussGateway.Rest
