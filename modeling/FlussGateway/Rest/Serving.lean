import FlussGateway.Backend.Scope
import FlussGateway.Rest.BodyLimit
import FlussGateway.Rest.Identity

/-!
# Requests side by side

A request served over the client is a program of client calls. Any number of them run at once on
one pool. What a request may touch is decided by its route, and whose connection it uses by
its own credentials, whatever the others do.
-/
namespace FlussGateway.Rest

open FlussGateway.Foundation FlussGateway.Backend FlussGateway.Codec

/-- The calls of the client that serve a request. -/
def Server.program (server : Server) (sha256 : Sha256) (debug : Debug) (backend : FlussBackend)
    (req : Request) : Gateway Response :=
  (server.serve req).translate (BackendCall.impl sha256 server.library.formats debug backend)

/-- The credentials a request's operations run with. -/
def Server.identity (server : Server) (req : Request) :
    Outcome GatewayError (Option Auth.BasicAuthCredentials) :=
  Auth.extractCreds server.authType (req.credentials server.base64)

/-- Without an identity a request is answered without a single call. -/
theorem serve_anonymous {server : Server} {req : Request} {fault : Fault GatewayError}
    (refused : server.identity req = .error fault) : ∃ response, server.serve req = pure response := by
  rw [serve_eq]
  cases server.receive req with
  | error refusal => exact ⟨_, rfl⟩
  | ok invocation =>
    unfold Server.identity Auth.extractCreds at refused
    -- Only passthrough mode refuses, and only a request without credentials.
    split at refused
    next => cases refused
    next mode =>
      split at refused
      next absent =>
        simp only [mode, absent, answer_refused]
        exact ⟨_, rfl⟩
      next => cases refused

/-! ## What a request may touch -/

namespace Invocation

/-- The part of the cluster a handler works on. -/
def scope : Invocation → Option Scope
  | .listDatabases => some .cluster
  | .createDatabase req => some (.database req.databaseName)
  | .dropDatabase db _ | .listTables db => some (.database db)
  | .createTable db req => some (.table ⟨db, req.tableName⟩)
  | .tableInfoPut db table | .dropTable db table _ | .tableInfoGet db table | .lookup db table _
  | .batchLookup db table _ | .scan db table _ | .produce db table _ | .listOffsets db table _
  | .listPartitions db table => some (.table ⟨db, table⟩)
  | .prefixScan => none

def target : Invocation → Target
  | .listDatabases => .listDatabases
  | .createDatabase _ => .createDatabase
  | .dropDatabase _ _ => .dropDatabase
  | .listTables _ => .listTables
  | .createTable _ _ => .createTable
  | .tableInfoPut _ _ => .tableInfoPut
  | .dropTable _ _ _ => .dropTable
  | .tableInfoGet _ _ => .tableInfoGet
  | .lookup _ _ _ => .lookup
  | .prefixScan => .prefixScan
  | .batchLookup _ _ _ => .batchLookup
  | .scan _ _ _ => .scan
  | .produce _ _ _ => .produce
  | .listOffsets _ _ _ => .listOffsets
  | .listPartitions _ _ => .listPartitions

end Invocation

/-- What a handler may change. -/
def Target.effect : Target → Option Effect
  | .createDatabase | .dropDatabase | .createTable | .dropTable => some .catalog
  | .produce => some .rows
  | _ => none

/-- An operation a handler may ask for. -/
def Serves (invocation : Invocation) (call : BackendCall) : Prop :=
  ∃ creds op, call = .on creds op ∧ invocation.scope = some op.scope ∧
    (∀ kind, op.effect = some kind → invocation.target.effect = some kind)

section Serves

variable (library : Library) {authType : Config.AuthType} {ext : Option Auth.BasicAuthCredentials}
  {invocation : Invocation}

theorem ask_serves {creds : Option Auth.BasicAuthCredentials} {op : Operation}
    (scope : invocation.scope = some op.scope)
    (effect : ∀ kind, op.effect = some kind → invocation.target.effect = some kind) :
    (ask creds op).Always (Serves invocation) :=
  ⟨⟨creds, op, rfl, scope, effect⟩, fun reply => by cases reply <;> trivial⟩

theorem lookupEach_serves {db table : String} {creds : Option Auth.BasicAuthCredentials}
    (keys : List (List (String × String))) (scope : invocation.scope = some (.table ⟨db, table⟩)) :
    (Handler.lookupEach db table creds keys).Always (Serves invocation) := by
  induction keys with
  | nil => trivial
  | cons key keys ih =>
    refine Program.always_bind (ask_serves scope nofun) fun _ => ?_
    exact Program.always_bind ih fun _ => trivial

/-- Every handler asks for operations on its own part of the cluster, and for changes only if it is
one of those that change something. -/
theorem run_serves (invocation : Invocation) :
    (invocation.run library authType ext).Always (Serves invocation) := by
  cases invocation with
  | prefixScan => trivial
  | listDatabases | listTables | lookup | scan =>
    refine Program.always_bind (Program.always_bind trivial fun creds => ?_) fun _ => trivial
    exact ask_serves rfl nofun
  | dropDatabase | dropTable =>
    refine Program.always_bind (Program.always_bind trivial fun creds => ?_) fun _ => trivial
    exact ask_serves rfl fun _ => id
  | tableInfoPut | tableInfoGet | listPartitions =>
    refine Program.always_bind (Program.always_bind trivial fun creds => ?_) fun _ => trivial
    exact Program.always_bind (ask_serves rfl nofun) fun _ => trivial
  | createDatabase req =>
    refine Program.always_bind (Program.always_bind trivial fun creds => ?_) fun _ => trivial
    split
    · trivial
    · exact ask_serves rfl fun _ => id
  | createTable db req =>
    refine Program.always_bind (Program.always_bind trivial fun creds => ?_) fun _ => trivial
    split
    · trivial
    · exact Program.always_bind trivial fun _ => ask_serves rfl fun _ => id
  | batchLookup db table req =>
    refine Program.always_bind (Program.always_bind trivial fun creds => ?_) fun _ => trivial
    exact lookupEach_serves req.keys rfl
  | produce db table req =>
    refine Program.always_bind (Program.always_bind trivial fun creds => ?_) fun _ => trivial
    refine Program.always_bind (ask_serves rfl nofun) fun info => ?_
    refine Program.always_bind trivial fun rows => ?_
    split
    · split <;> exact ask_serves rfl fun _ => id
    · exact ask_serves rfl fun _ => id
  | listOffsets db table req =>
    refine Program.always_bind (Program.always_bind trivial fun creds => ?_) fun _ => trivial
    refine Program.always_bind trivial fun spec => ?_
    exact Program.always_bind (ask_serves rfl nofun) fun _ => trivial

end Serves

/-! ## From the path to the invocation -/

section Extract

variable {ax : Extractors} {raw : List Bytes} {req : Request}

end Extract

section Confinement

variable (server : Server) (sha256 : Sha256) (debug : Debug) (backend : FlussBackend) (req : Request)

variable {server req}

/-- With its identity a request's operations serve its own invocation. -/
theorem serve_serves {invocation : Invocation} {creds : Option Auth.BasicAuthCredentials}
    (received : server.receive req = .ok invocation) (identified : server.identity req = .ok creds) :
    (server.serve req).Always fun call => With creds call ∧ Serves invocation call := by
  refine (serve_always identified).and ?_
  rw [serve_eq, received]
  refine Program.always_bind ?_ fun _ => trivial
  exact Program.always_bind (Program.attempt_always (run_serves server.library invocation))
    fun result => by cases result <;> trivial

theorem program_always {invocation : Invocation} {creds : Option Auth.BasicAuthCredentials}
    (received : server.receive req = .ok invocation) (identified : server.identity req = .ok creds) :
    (server.program sha256 debug backend req).Always fun call =>
      Takes sha256 backend creds call ∨
      ∃ part, invocation.scope = some part ∧ Within part invocation.target.effect call := by
  refine (serve_serves received identified).translate ?_
  rintro _ ⟨⟨op, rfl⟩, _, _, same, scope, effect⟩
  cases same
  refine Program.attempt_always ((perform_always sha256 _ debug backend creds op).mono ?_)
  rintro call (takes | ⟨conn, _, within⟩)
  · exact .inl takes
  · exact .inr ⟨op.scope, scope, within.scope, fun kind same => effect kind (within.effect kind same)⟩

end Confinement

/-! ## Identity -/

/-- The states of a service while any number of requests are served side by side. Their identities are
among those asked for. Other callers of the pool, such as the health check, call at any time; what
they put into the cache is opened for the pair of its key. -/
abbrev Serving {σ : Type} (h : Service σ) (server : Server) (sha256 : Sha256) (debug : Debug)
    (backend : FlussBackend) (asked : Set (String × String)) (start : σ) :
    σ → List (Request × Gateway Response) → Prop :=
  Program.Concurrent h (server.program sha256 debug backend)
    (fun req => ∀ creds, server.identity req = .ok creds → backend.pair creds ∈ asked)
    (Inserts sha256 backend.pool.coordinator asked) start

/-- The connection was opened for the request's own identity. -/
def OpenedFor (server : Server) (backend : FlussBackend) (req : Request) (conn : Connection) : Prop :=
  ∃ creds, server.identity req = .ok creds ∧
    conn.config = connectionConfig backend.pool.coordinator (backend.pair creds).1 (backend.pair creds).2

section Identity

variable {sha256 : Sha256} {asked : Set (String × String)} {backend : FlussBackend}

/-- An operation inserts only what it has opened, and works through a connection of its identity. -/
theorem perform_guarded
    (collisionFree : Set.InjOn sha256 {text | ∃ pair ∈ asked, text = hashedText pair.1 pair.2})
    (formats : Formats) (debug : Debug) {creds : Option Auth.BasicAuthCredentials}
    (member : backend.pair creds ∈ asked) (op : Operation) :
    (backend.perform sha256 formats debug creds op).Guarded
      (fun call => Inserts sha256 backend.pool.coordinator asked call ∧
        ∀ conn, call.connection = some conn → conn.config =
          connectionConfig backend.pool.coordinator (backend.pair creds).1 (backend.pair creds).2)
      (Answers sha256 backend.pool.coordinator asked) fun _ => True := by
  obtain ⟨rest, same, uses⟩ := perform_keeps
    (R := Answers sha256 backend.pool.coordinator asked) sha256 formats debug backend creds op
  rw [same]
  have opened := getOrCreate_guarded collisionFree backend.pool (some (backend.pair creds)) member
  refine Program.Guarded.bind ((opened.and (conn_takes sha256 backend creds)).mono ?_ fun _ => id) ?_
  · rintro call ⟨inserts, takes⟩
    refine ⟨inserts, fun conn through => ?_⟩
    rw [takes.silent.1] at through
    cases through
  · intro conn config
    refine (uses conn).mono (fun call used => ⟨?_, fun conn' through => ?_⟩) fun _ => id
    · exact fun key conn' same => absurd same (used.not_insert key conn')
    · rcases used.1 with here | ⟨descriptor, rfl⟩
      · rw [here, Option.some.injEq] at through
        rw [← through]
        exact config
      · cases through

theorem program_guarded
    (collisionFree : Set.InjOn sha256 {text | ∃ pair ∈ asked, text = hashedText pair.1 pair.2})
    (server : Server) (debug : Debug) {req : Request}
    (members : ∀ creds, server.identity req = .ok creds → backend.pair creds ∈ asked) :
    (server.program sha256 debug backend req).Guarded
      (fun call => Inserts sha256 backend.pool.coordinator asked call ∧
        ∀ conn, call.connection = some conn → OpenedFor server backend req conn)
      (Answers sha256 backend.pool.coordinator asked) fun _ => True := by
  cases identified : server.identity req with
  | error fault =>
    obtain ⟨response, same⟩ := serve_anonymous identified
    unfold Server.program
    rw [same]
    exact fun _ _ => trivial
  | ok creds =>
    have always : (server.serve req).Always (With creds) := serve_always identified
    refine always.translate_guarded ?_
    rintro _ ⟨op, rfl⟩
    refine ((perform_guarded collisionFree _ debug (members creds identified) op).attempt).mono ?_
      fun _ => id
    exact fun call ⟨inserts, config⟩ =>
      ⟨inserts, fun conn through => ⟨creds, identified, config conn through⟩⟩

/-- In every state that requests served side by side can reach, from any in which the cached connections
were opened for the pairs of their keys: a request about to make a call makes it through a connection
that was opened for its own identity. -/
theorem calls_identified {σ : Type} {h : Service σ} {cached : σ → CredentialKey → Option Connection}
    (cache : ConnectionCache h cached)
    (collisionFree : Set.InjOn sha256 {text | ∃ pair ∈ asked, text = hashedText pair.1 pair.2})
    {server : Server} {debug : Debug} {start s : σ}
    (sound : Sound sha256 backend.pool.coordinator asked (cached start))
    {threads : List (Request × Gateway Response)}
    (reached : Serving h server sha256 debug backend asked start s threads)
    {req : Request} {call : Call} {next : call.Reply → Gateway Response}
    (waiting : (req, .call call next) ∈ threads) {conn : Connection}
    (through : call.connection = some conn) : OpenedFor server backend req conn := by
  -- The cache stays sound as long as only what was opened is inserted.
  have keeps : ∀ op s, Inserts sha256 backend.pool.coordinator asked op →
      Sound sha256 backend.pool.coordinator asked (cached s) →
      Sound sha256 backend.pool.coordinator asked (cached (h op s).2) := by
    intro op s inserts sound key conn present
    rcases cache.kept op s key conn present with before | inserted
    · exact sound key conn before
    · exact inserts key conn inserted
  have guards := (reached.guarded (I := fun s => Sound sha256 backend.pool.coordinator asked (cached s))
    sound
    (fun req members => program_guarded collisionFree server debug members)
    (fun op s sound => by
      cases op with
      | cacheGet key => exact fun conn reply => sound key conn (cache.get key s conn reply)
      | _ => trivial)
    (fun _ op s permitted => keeps op s permitted.1)
    (fun op s inserts => keeps op s inserts)).2
  exact (guards _ waiting).1.2 conn through

/-! ## A request in flight -/

def passthroughServer : Server :=
  { scanServer 100 with authType := .passthrough, base64 := sampleBase64 }

/-- `user` lists the databases. -/
def listRequest : Request where
  method := .get
  path := render [utf8 "v1", utf8 "_databases"]
  query := none
  headers := [("authorization", sampleHeader)]
  body := []

theorem listRequest_received : passthroughServer.receive listRequest = .ok .listDatabases := by
  have routed : dispatch .get listRequest.path = .handler .listDatabases [] := by decide
  unfold Server.receive
  rw [show listRequest.method = .get from rfl, routed]
  rfl

theorem listRequest_identity : passthroughServer.identity listRequest = .ok (some ⟨"user", ""⟩) := rfl

def askedPairs : Set (String × String) := {("", ""), ("user", "")}

theorem asked_collisionFree : Set.InjOn sampleSha256
    {text | ∃ pair ∈ askedPairs, text = hashedText pair.1 pair.2} := by
  rintro _ ⟨_, rfl | rfl, rfl⟩ _ ⟨_, rfl | rfl, rfl⟩ same
  · rfl
  · exact absurd same (by decide)
  · exact absurd same (by decide)
  · rfl

/-- The gateway has been started, which opens a connection for the startup credentials. -/
def warmed : Memory :=
  ((sampleBackend.pool.getOrCreate sampleSha256 none).run (Memory.service samplePath sampleInfo) .empty).2

theorem warmed_sound : Sound sampleSha256 sampleBackend.pool.coordinator askedPairs warmed.cache := by
  intro key conn present
  by_cases startup : key = hashCredentials sampleSha256 "" ""
  · subst startup
    have opened : conn = ⟨0, connectionConfig "localhost:9123" "" ""⟩ :=
      (Option.some.inj present).symm
    exact owned_of_opened asked_collisionFree (.inl rfl) (congrArg Connection.config opened)
  · have absent : warmed.cache key = none := Function.update_of_ne startup ..
    rw [absent] at present
    cases present

def userConnection : Connection := ⟨1, connectionConfig "localhost:9123" "user" ""⟩

/-- The connection of `user` has been opened, and is about to be used. -/
theorem listRequest_reached : ∃ s next,
    Serving (Memory.service samplePath sampleInfo) passthroughServer sampleSha256 (fun _ _ => "")
      sampleBackend askedPairs warmed s [(listRequest, .call (.getAdmin userConnection) next)] := by
  have begun : Serving (Memory.service samplePath sampleInfo) passthroughServer sampleSha256
      (fun _ _ => "") sampleBackend askedPairs warmed warmed
      [(listRequest, passthroughServer.program sampleSha256 (fun _ _ => "") sampleBackend listRequest)] := by
    refine .begin _ (fun creds identified => ?_) .start
    rw [listRequest_identity] at identified
    cases identified
    exact .inr rfl
  unfold Server.program at begun
  rw [serve_eq, listRequest_received] at begun
  exact ⟨_, _, ((begun.step 0 rfl).step 0 rfl).step 0 rfl⟩

theorem calls_identified_listRequest :
    OpenedFor passthroughServer sampleBackend listRequest userConnection := by
  obtain ⟨s, next, reached⟩ := listRequest_reached
  exact calls_identified (memory_cache samplePath sampleInfo) asked_collisionFree warmed_sound reached
    List.mem_cons_self rfl

end Identity

end FlussGateway.Rest
