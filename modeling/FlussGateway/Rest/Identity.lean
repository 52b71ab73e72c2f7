import FlussGateway.Backend.Isolation
import FlussGateway.Rest.Addressing
import FlussGateway.Rest.Server

/-!
# Whose identity is used

The auth mode alone decides: in passthrough mode every operation runs with the credentials of the
request's own header, or there is none; in the other mode every operation runs with the
startup credentials and the header might as well not be there.
-/
namespace FlussGateway.Rest

open FlussGateway.Foundation FlussGateway.Backend FlussGateway.Codec

/-! ## Credentials of a request -/

/-- What `parse_basic_auth` accepts in the first `Authorization` header. -/
def Request.credentials (decode : Auth.Base64) (req : Request) : Option Auth.BasicAuthCredentials :=
  match (req.header "authorization").bind Auth.headerText with
  | none => none
  | some text =>
    match (Auth.parseBasicAuth decode text : Outcome GatewayError _) with
    | .ok creds => creds
    | .error _ => none

/-- The middleware stores just these and never panics. -/
theorem authMiddleware_eq (decode : Auth.Base64) (req : Request) :
    (Auth.authMiddleware decode (req.header "authorization") : Outcome GatewayError _) =
    .ok (req.credentials decode) := by
  unfold Auth.authMiddleware Request.credentials
  cases (req.header "authorization").bind Auth.headerText with
  | none => rfl
  | some text =>
    -- Only the text after the scheme is sliced, and the scheme ends at a character boundary.
    cases starts : Auth.scheme.isPrefixOf text.toList with
    | false => simp only [Auth.parseBasicAuth_other decode starts]
    | true =>
      obtain ⟨encoded, rest⟩ := List.isPrefixOf_iff_prefix.mp starts
      simp only [Auth.parseBasicAuth_basic decode rest.symm]

/-! ## What a handler asks -/

/-- An operation of the backend with these credentials. -/
def With (creds : Option Auth.BasicAuthCredentials) (call : BackendCall) : Prop :=
  ∃ op, call = .on creds op

/-- The shape of a handler: its credentials first, then operations with these. -/
def Asks {α : Type} (authType : Config.AuthType) (ext : Option Auth.BasicAuthCredentials)
    (p : Endpoint α) : Prop :=
  ∃ rest : Option Auth.BasicAuthCredentials → Endpoint α,
    (∀ creds, (rest creds).Always (With creds)) ∧
    p = Program.lift (Auth.extractCreds authType ext) >>= rest

section Asks

variable (library : Library) {authType : Config.AuthType} {ext : Option Auth.BasicAuthCredentials}

theorem ask_always (creds : Option Auth.BasicAuthCredentials) (op : Operation) :
    (ask creds op).Always (With creds) :=
  ⟨⟨op, rfl⟩, fun reply => by cases reply <;> trivial⟩

/-- An operation whose result is then put into a response. -/
theorem ask_then_always {α : Type} (creds : Option Auth.BasicAuthCredentials) (op : Operation)
    (f : op.Result → α) :
    (ask creds op >>= fun a => pure (f a)).Always (With creds) :=
  Program.always_bind (ask_always creds op) fun _ => trivial

theorem Asks.respond {α : Type} {p : Endpoint α} (asks : Asks authType ext p) (f : α → Response) :
    Asks authType ext (p >>= fun a => pure (f a)) := by
  obtain ⟨rest, always, rfl⟩ := asks
  exact ⟨fun creds => rest creds >>= fun a => pure (f a),
    fun creds => Program.always_bind (always creds) fun _ => trivial, Program.bind_assoc ..⟩

theorem createDatabase_asks (req : CreateDatabaseRequest) :
    Asks authType ext (Handler.createDatabase authType ext req) := by
  refine ⟨_, fun creds => ?_, rfl⟩
  split
  · trivial
  · exact ask_always creds _

theorem createTable_asks (db : String) (req : CreateTableRequest) :
    Asks authType ext (Handler.createTable library authType ext db req) := by
  refine ⟨_, fun creds => ?_, rfl⟩
  split
  · trivial
  · exact Program.always_bind trivial fun _ => ask_always creds _

theorem lookupEach_asks (db table : String) (creds : Option Auth.BasicAuthCredentials)
    (keys : List (List (String × String))) :
    (Handler.lookupEach db table creds keys).Always (With creds) := by
  induction keys with
  | nil => trivial
  | cons key keys ih =>
    exact Program.always_bind (ask_always creds _) fun _ => Program.always_bind ih fun _ => trivial

theorem listOffsets_asks (db table : String) (req : ListOffsetsRequest) :
    Asks authType ext (Handler.listOffsets authType ext db table req) := by
  refine ⟨_, fun creds => ?_, rfl⟩
  exact Program.always_bind trivial fun _ => ask_then_always creds _ _

theorem produce_asks (db table : String) (req : ProduceRequest) :
    Asks authType ext (Handler.produce library authType ext db table req) := by
  refine ⟨_, fun creds => ?_, rfl⟩
  refine Program.always_bind (ask_always creds _) fun tableInfo => ?_
  refine Program.always_bind trivial fun rows => ?_
  split
  · split
    · exact ask_always creds _
    · exact ask_always creds _
  · exact ask_always creds _

/-- Every handler but `prefix_scan` has this shape. -/
theorem run_asks {invocation : Invocation} (other : invocation ≠ .prefixScan) :
    Asks authType ext (invocation.run library authType ext) := by
  cases invocation with
  | prefixScan => exact absurd rfl other
  | listDatabases | dropDatabase | listTables | dropTable | lookup | scan =>
    exact Asks.respond ⟨_, fun creds => ask_always creds _, rfl⟩ _
  | createDatabase req => exact (createDatabase_asks req).respond _
  | createTable db req => exact (createTable_asks library db req).respond _
  | tableInfoPut | tableInfoGet | listPartitions =>
    exact Asks.respond ⟨_, fun creds => ask_then_always creds _ _, rfl⟩ _
  | batchLookup db table req =>
    exact Asks.respond ⟨_, fun creds => lookupEach_asks db table creds req.keys, rfl⟩ _
  | produce db table req => exact (produce_asks library db table req).respond _
  | listOffsets db table req => exact (listOffsets_asks db table req).respond _

/-- With credentials extracted, a handler's operations all run with these. -/
theorem answer_always {creds : Option Auth.BasicAuthCredentials}
    (extracted : Auth.extractCreds authType ext = .ok creds)
    (invocation : Invocation) : (invocation.answer library authType ext).Always (With creds) := by
  refine Program.always_bind (Program.attempt_always ?_) fun result => by cases result <;> trivial
  by_cases scan : invocation = .prefixScan
  · subst scan
    trivial
  · have asks : Asks authType ext (invocation.run library authType ext) := run_asks library scan
    obtain ⟨rest, always, same⟩ := asks
    rw [same, extracted]
    exact always creds

/-- What a handler answers to a request without credentials. -/
def Invocation.refusal : Invocation → GatewayError
  | .prefixScan => .internal "prefix scan not yet implemented"
  | _ => .unauthorized "authentication required"

theorem answer_refused (invocation : Invocation) :
    invocation.answer library .passthrough none = pure (.ofError invocation.refusal) := by
  by_cases scan : invocation = .prefixScan
  · subst scan
    rfl
  · -- The credentials are extracted before anything else, so nothing else happens.
    have refusal : invocation.refusal = .unauthorized "authentication required" := by
      cases invocation <;> first | rfl | exact absurd rfl scan
    have asks : Asks .passthrough none (invocation.run library .passthrough none) :=
      run_asks library scan
    obtain ⟨rest, _, same⟩ := asks
    rw [Invocation.answer, same, refusal]
    rfl

/-- Without an auth mode no handler looks at the credentials. -/
theorem run_blind (invocation : Invocation) (ext' : Option Auth.BasicAuthCredentials) :
    invocation.run library .none ext = invocation.run library .none ext' := by
  cases invocation <;> rfl

end Asks

/-! ## The whole server -/

/-- Two requests that differ in the `Authorization` headers at most. -/
structure SameButAuthorization (req req' : Request) : Prop where
  method : req.method = req'.method
  path : req.path = req'.path
  query : req.query = req'.query
  headers : req.headers.filter (·.1 != "authorization") =
    req'.headers.filter (·.1 != "authorization")
  body : req.body = req'.body

theorem lookup_filter_ne {name other : String} (differ : name ≠ other)
    (headers : List (String × Bytes)) :
    (headers.filter (·.1 != other)).lookup name = headers.lookup name := by
  induction headers with
  | nil => rfl
  | cons e headers ih =>
    by_cases dropped : e.1 = other
    · have passed : (name == e.1) = false := by simpa [dropped] using differ
      rw [List.filter_cons_of_neg (by simp [dropped]), ih, List.lookup_cons, passed]
    · rw [List.filter_cons_of_pos (by simp [dropped]), List.lookup_cons, List.lookup_cons, ih]

section Same

variable {req req' : Request} (same : SameButAuthorization req req')
include same

theorem header_same {name : String} (other : name ≠ "authorization") :
    req.header name = req'.header name := by
  unfold Request.header
  rw [← lookup_filter_ne other, ← lookup_filter_ne other req'.headers, same.headers]

/-- Routes, limits and extractors do not look at the header. -/
theorem receive_same (server : Server) : server.receive req = server.receive req' := by
  -- Each stage reads headers other than `authorization` only.
  have limit : bodyLimitMiddleware server.maxBodySize req =
    bodyLimitMiddleware server.maxBodySize req' := by
    unfold bodyLimitMiddleware
    rw [same.method, header_same same (by decide)]
  have query : server.extractors.readQuery req = server.extractors.readQuery req' := by
    unfold Extractors.readQuery
    rw [same.query]
  have json : ∀ {T : Type} (decode : Bytes → Except Response T),
      server.extractors.readJson req decode = server.extractors.readJson req' decode := by
    intro T decode
    unfold Extractors.readJson
    rw [header_same same (by decide), same.body]
  have extract : ∀ raw target, server.extractors.extract req raw target =
    server.extractors.extract req' raw target := by
    intro raw target
    cases target <;> simp only [Extractors.extract, json, query]
  unfold Server.receive
  rw [same.method, same.path]
  cases dispatch req'.method req'.path with
  | notFound => rfl
  | methodNotAllowed => simp only [limit]
  | handler target raw => simp only [limit, extract]

end Same

structure IdentityByMode (server : Server) : Prop where
  /-- The request's own credentials. -/
  passthrough : server.authType = .passthrough →
    ∀ req creds, req.credentials server.base64 = some creds →
    (server.serve req).Always (With (some creds))
  /-- Without credentials no operation at all, and the answer of every handler that is reached. -/
  anonymous : server.authType = .passthrough → ∀ req,
    req.credentials server.base64 = none → ∃ response,
    server.serve req = pure response ∧ ∀ invocation, server.receive req = .ok invocation →
      response = Server.finish req.method (.ofError invocation.refusal) ∧
        (invocation ≠ .prefixScan → response.status = 401)
  startup : server.authType = .none → ∀ req, (server.serve req).Always (With none)
  blind : server.authType = .none → ∀ req req', SameButAuthorization req req' →
    server.serve req = server.serve req'

theorem serve_eq (server : Server) (req : Request) : server.serve req =
    match server.receive req with
    | .error refusal => pure (Server.finish req.method refusal.response)
    | .ok invocation =>
      invocation.answer server.library server.authType
        (req.credentials server.base64) >>= fun response =>
        pure (Server.finish req.method response) := by
  rw [Server.serve, authMiddleware_eq]
  rfl

theorem serve_always {server : Server} {req : Request} {creds : Option Auth.BasicAuthCredentials}
    (extracted : Auth.extractCreds server.authType (req.credentials server.base64) = .ok creds) :
    (server.serve req).Always (With creds) := by
  rw [serve_eq]
  cases server.receive req with
  | error refusal => trivial
  | ok invocation =>
    exact Program.always_bind (answer_always server.library extracted invocation) fun _ => trivial

theorem status_of_refusal {invocation : Invocation} (other : invocation ≠ .prefixScan)
    (method : Method) :
    (Server.finish method (.ofError invocation.refusal)).status = 401 := by
  have refusal : invocation.refusal = .unauthorized "authentication required" := by
    cases invocation <;> first | rfl | exact absurd rfl other
  rw [refusal, Server.finish]
  split <;> rfl

/-- For every server and every request to it: the mode alone decides whose identity is used. -/
theorem identity_by_mode (server : Server) : IdentityByMode server where
  passthrough mode req creds accepted := serve_always (by rw [mode, accepted]; rfl)
  anonymous mode req absent := by
    rw [serve_eq, mode, absent]
    cases server.receive req with
    -- Refused before a handler is reached: an answer, and no operation.
    | error refusal => exact ⟨_, rfl, nofun⟩
    | ok invocation =>
      refine ⟨Server.finish req.method (.ofError invocation.refusal), ?_,
        fun invocation' same => ?_⟩
      · simp only [answer_refused]
        rfl
      · cases same
        exact ⟨rfl, fun other => status_of_refusal other req.method⟩
  startup mode req := serve_always (by rw [mode]; rfl)
  blind mode req req' same := by
    rw [serve_eq, serve_eq, receive_same same, same.method, mode]
    cases server.receive req' with
    | error refusal => rfl
    | ok invocation =>
      simp only [Invocation.answer, run_blind server.library invocation
        (req'.credentials server.base64)]

/-! ## The handlers over the client -/

section Client

variable (sha256 : Sha256) (library : Library) (debug : Debug) (backend : FlussBackend)
    (authType : Config.AuthType)
  (ext : Option Auth.BasicAuthCredentials) (db table : String)

/-- An operation asked for is the operation performed. -/
theorem ask_translate (formats : Formats) (creds : Option Auth.BasicAuthCredentials)
    (op : Operation) :
    (ask creds op).translate (BackendCall.impl sha256 formats debug backend) =
      backend.perform sha256 formats debug creds op := by
  -- The handler catches the error of the operation only to return it.
  rw [← Program.attempt_propagate (backend.perform sha256 formats debug creds op)]
  refine congrArg (Program.attempt _ >>= ·) (funext fun reply => ?_)
  cases reply <;> rfl

theorem produce_translate (req : ProduceRequest) :
    (Handler.produce library authType ext db table req).translate
      (BackendCall.impl sha256 library.formats debug backend) =
      produce sha256 library.formats ⟨backend, authType⟩ db table ext req := by
  unfold Handler.produce produce
  rw [Program.translate_bind]
  refine congrArg (Program.lift _ >>= ·) (funext fun creds => ?_)
  rw [Program.translate_bind, ask_translate sha256 debug backend library.formats creds
    (.getTableInfo db table)]
  refine congrArg (getTableInfo sha256 backend db table creds >>= ·) (funext fun tableInfo => ?_)
  rw [Program.translate_bind]
  refine congrArg (Program.lift _ >>= ·) (funext fun rows => ?_)
  split
  · split <;> exact ask_translate ..
  · exact ask_translate ..

theorem lookup_translate (params : List (String × String)) :
    (Handler.lookup authType ext db table params).translate
      (BackendCall.impl sha256 library.formats debug backend) =
      lookup sha256 library.formats debug ⟨backend, authType⟩ db table ⟨params⟩ ext := by
  unfold Handler.lookup lookup
  rw [Program.translate_bind]
  exact congrArg (Program.lift _ >>= ·) (funext fun creds => ask_translate ..)

theorem batchLookup_translate (req : BatchLookupRequest) :
    (Handler.batchLookup authType ext db table req).translate
      (BackendCall.impl sha256 library.formats debug backend) =
      batchLookup sha256 library.formats debug ⟨backend, authType⟩ db table
        (req.keys.map LookupParams.mk) ext := by
  -- One lookup a key, all with the same credentials.
  have each : ∀ creds keys, (Handler.lookupEach db table creds keys).translate
      (BackendCall.impl sha256 library.formats debug backend) =
        lookupEach sha256 library.formats debug ⟨backend, authType⟩ db table creds
          (keys.map LookupParams.mk) := by
    intro creds keys
    induction keys with
    | nil => rfl
    | cons key keys ih =>
      unfold Handler.lookupEach
      rw [Program.translate_bind, ask_translate sha256 debug backend library.formats creds
        (.lookup db table ⟨key⟩)]
      refine congrArg (backend.lookup sha256 library.formats debug db table ⟨key⟩ creds >>= ·)
        (funext fun rows => ?_)
      rw [Program.translate_bind, ih]
      rfl
  unfold Handler.batchLookup batchLookup
  rw [Program.translate_bind]
  exact congrArg (Program.lift _ >>= ·) (funext fun creds => each creds req.keys)

end Client

end FlussGateway.Rest
