import FlussGateway.Auth
import FlussGateway.Backend.KvTable
import FlussGateway.Codec.JsonToDatum
import FlussGateway.Foundation.Concurrent
import Mathlib.Data.Set.Function

/-!
# The connection pool

One connection for each pair of user name and password, kept in a cache that may drop any
entry at any time. The digest of the cache key is a parameter. A connection remembers the
configuration it was opened with.
-/
namespace FlussGateway.Backend

open FlussGateway.Foundation

abbrev Sha256 := List UInt8 → List UInt8

structure ConnectionPool where
  coordinator : String
  auth : Config.AuthConfig

structure FlussBackend where
  pool : ConnectionPool
  auth : Config.AuthConfig

/-- `FlussBackend::new`, without the connection it opens to warm up. -/
def FlussBackend.new (coordinator : String) (auth : Config.AuthConfig) : FlussBackend where
  pool := ⟨coordinator, auth⟩
  auth := auth

/-- What the digest is taken of. -/
def hashedText (username password : String) : List UInt8 :=
  Codec.utf8 username ++ Codec.utf8 ":" ++ Codec.utf8 password

def hashCredentials (sha256 : Sha256) (username password : String) : CredentialKey :=
  (username, sha256 (hashedText username password))

/-- The client configuration for a pair of credentials: SASL only if both are there. -/
def connectionConfig (coordinator username password : String) : ClientConfig where
  bootstrapServers := coordinator
  securityProtocol := if !username.isEmpty && !password.isEmpty then "sasl" else ""
  securitySaslMechanism := if !username.isEmpty && !password.isEmpty then "PLAIN" else ""
  securitySaslUsername := username
  securitySaslPassword := password

def createConnection (coordinator username password : String) : Gateway Connection := do
  let config := connectionConfig coordinator username password
  match ← connect config with
  | .ok id => pure ⟨id, config⟩
  | .error e =>
    Program.lift (Outcome.panicked ("failed to connect to Fluss coordinator " ++ coordinator ++ ": " ++ e.text))

section Pool

variable (sha256 : Sha256)

/-- The pair a connection is asked for; the startup pair when there is none. -/
def ConnectionPool.pair (pool : ConnectionPool) : Option (String × String) → String × String
  | some pair => pair
  | none => (pool.auth.startupUsername, pool.auth.startupPassword)

/-- The cache's `get_with`: the cached connection, or a new one that is then cached. -/
def ConnectionPool.getOrCreate (pool : ConnectionPool) (creds : Option (String × String)) :
    Gateway Connection := do
  let (username, password) := pool.pair creds
  let key := hashCredentials sha256 username password
  match ← cacheGet key with
  | some conn => pure conn
  | none =>
    let conn ← createConnection pool.coordinator username password
    cacheInsert key conn
    pure conn

/-- The pair a backend asks the pool for. -/
def FlussBackend.pair (backend : FlussBackend) (creds : Option Auth.BasicAuthCredentials) : String × String :=
  match creds with
  | some c => (c.username, c.password)
  | none => (backend.auth.startupUsername, backend.auth.startupPassword)

def FlussBackend.conn (backend : FlussBackend) (creds : Option Auth.BasicAuthCredentials) :
    Gateway Connection :=
  backend.pool.getOrCreate sha256 (some (backend.pair creds))

/-- What serves a request in passthrough mode: its header read, its credentials extracted, its
connection taken from the pool. -/
def FlussBackend.passthroughConn (backend : FlussBackend) (decode : Auth.Base64)
    (authorization : Option (List UInt8)) : Gateway Connection := do
  let ext ← Program.lift (Auth.authMiddleware decode authorization)
  let creds ← Program.lift (Auth.extractCreds .passthrough ext)
  backend.conn sha256 creds

end Pool

/-- Taking a connection asks the cache, and may open one and cache it. -/
theorem getOrCreate_always (sha256 : Sha256) (pool : ConnectionPool) (creds : Option (String × String))
    {P : Call → Prop} (get : ∀ key, P (.cacheGet key)) (open_ : ∀ config, P (.connect config))
    (insert : ∀ key conn, P (.cacheInsert key conn)) : (pool.getOrCreate sha256 creds).Always P := by
  refine ⟨get _, fun found => ?_⟩
  cases found with
  | some conn => trivial
  | none =>
    refine ⟨open_ _, fun reply => ?_⟩
    cases reply with
    | ok id => exact ⟨insert _ _, fun _ => trivial⟩
    | error e => trivial

/-! ## Callers of the pool -/

/-- Who takes a connection: a request served in passthrough mode, with its first `Authorization`
header, or anyone else, with the credentials there are. -/
inductive Caller where
  | passthrough (authorization : Option (List UInt8))
  | other (creds : Option (String × String))

namespace Caller

variable (sha256 : Sha256) (backend : FlussBackend) (decode : Auth.Base64)

def program : Caller → Gateway Connection
  | .passthrough authorization => backend.passthroughConn sha256 decode authorization
  | .other creds => backend.pool.getOrCreate sha256 creds

/-- The pair a caller's connection is taken for; a request without credentials gets none. -/
def pair : Caller → Option (String × String)
  | .passthrough authorization =>
    match (Auth.authMiddleware decode authorization : Outcome GatewayError _) with
    | .ok (some creds) => some (creds.username, creds.password)
    | _ => none
  | .other creds => some (backend.pool.pair creds)

end Caller

/-- The states of a service while any number of callers, all with credentials from `asked`, take their
connections side by side. Calls other than insertions into the cache happen at any time. -/
abbrev Reachable {σ : Type} (h : Service σ) (sha256 : Sha256) (backend : FlussBackend) (decode : Auth.Base64)
    (asked : Set (String × String)) (start : σ) : σ → List (Caller × Gateway Connection) → Prop :=
  Program.Concurrent h (Caller.program sha256 backend decode)
    (fun caller => ∀ pair, caller.pair backend decode = some pair → pair ∈ asked)
    (fun op => ∀ key conn, op ≠ .cacheInsert key conn) start

/-! ## The cache -/

variable {σ : Type}

/-- What the pool relies on: a cached connection is one that was inserted under the same key. An
entry may vanish at any call. -/
structure ConnectionCache (h : Service σ) (cached : σ → CredentialKey → Option Connection) : Prop where
  get : ∀ key s conn, (h (.cacheGet key) s).1 = some conn → cached s key = some conn
  kept : ∀ op s key conn, cached (h op s).2 key = some conn →
    cached s key = some conn ∨ op = .cacheInsert key conn

section Owned

variable (sha256 : Sha256) (coordinator : String) (asked : Set (String × String))

/-- The connection under a key was opened for each pair with that key. -/
def Owned (key : CredentialKey) (conn : Connection) : Prop :=
  ∀ pair ∈ asked, key = hashCredentials sha256 pair.1 pair.2 → conn.config = connectionConfig coordinator pair.1 pair.2

/-- Only such connections are put into the cache. -/
def Inserts (op : Call) : Prop := ∀ key conn, op = .cacheInsert key conn → Owned sha256 coordinator asked key conn

/-- The cache answers with such connections only. -/
def Answers : (op : Call) → op.Reply → Prop
  | .cacheGet key, reply => ∀ conn, reply = some conn → Owned sha256 coordinator asked key conn
  | _, _ => True

def Sound (cache : CredentialKey → Option Connection) : Prop :=
  ∀ key conn, cache key = some conn → Owned sha256 coordinator asked key conn

end Owned

section Sound

variable {sha256 : Sha256} {coordinator : String} {asked : Set (String × String)}

theorem hashedText_injective {u p p' : String} (same : hashedText u p = hashedText u p') : p = p' := by
  have texts := List.append_cancel_left same
  exact String.toByteArray_inj.mp (ByteArray.ext (Array.toList_inj.mp texts))

/-- A connection belongs to the key of the pair it was opened for. -/
theorem owned_of_opened (collisionFree : Set.InjOn sha256 {text | ∃ pair ∈ asked, text = hashedText pair.1 pair.2})
    {u p : String} (member : (u, p) ∈ asked) {conn : Connection}
    (opened : conn.config = connectionConfig coordinator u p) :
    Owned sha256 coordinator asked (hashCredentials sha256 u p) conn := by
  rintro ⟨u', p'⟩ member' same
  obtain ⟨rfl, digests⟩ := Prod.mk.inj same
  obtain rfl := hashedText_injective (collisionFree ⟨_, member, rfl⟩ ⟨_, member', rfl⟩ digests)
  exact opened

/-- Taking a connection: the pool inserts what it opened, and returns a connection of the pair. -/
theorem getOrCreate_guarded
    (collisionFree : Set.InjOn sha256 {text | ∃ pair ∈ asked, text = hashedText pair.1 pair.2})
    (pool : ConnectionPool) (creds : Option (String × String)) (member : pool.pair creds ∈ asked) :
    (pool.getOrCreate sha256 creds).Guarded (Inserts sha256 pool.coordinator asked)
      (Answers sha256 pool.coordinator asked)
      (fun conn => conn.config = connectionConfig pool.coordinator (pool.pair creds).1 (pool.pair creds).2) := by
  refine ⟨nofun, fun found owned => ?_⟩
  cases found with
  -- A hit: the cache answers for the key, and the key is the pair's own.
  | some conn =>
    rintro conn' returned
    cases returned
    exact owned conn rfl _ member rfl
  | none =>
    -- A miss: a connection is opened for the pair, inserted under its key and returned.
    refine ⟨nofun, fun reply _ => ?_⟩
    cases reply with
    | error e => rintro conn returned; cases returned
    | ok id =>
      refine ⟨?_, fun _ _ => ?_⟩
      · rintro key conn same
        cases same
        exact owned_of_opened collisionFree member rfl
      · rintro conn returned
        cases returned
        rfl

theorem caller_guarded {backend : FlussBackend} {decode : Auth.Base64}
    (collisionFree : Set.InjOn sha256 {text | ∃ pair ∈ asked, text = hashedText pair.1 pair.2})
    (caller : Caller) (members : ∀ pair, caller.pair backend decode = some pair → pair ∈ asked) :
    (caller.program sha256 backend decode).Guarded (Inserts sha256 backend.pool.coordinator asked)
      (Answers sha256 backend.pool.coordinator asked)
      (fun conn => ∀ pair, caller.pair backend decode = some pair →
        conn.config = connectionConfig backend.pool.coordinator pair.1 pair.2) := by
  cases caller with
  | other creds =>
    simp only [Caller.pair, Option.some.injEq, forall_eq'] at members ⊢
    exact getOrCreate_guarded collisionFree backend.pool creds members
  | passthrough authorization =>
    simp only [Caller.program, FlussBackend.passthroughConn, Caller.pair] at members ⊢
    -- Only accepted credentials reach the pool.
    split at members
    next creds accepted =>
      simp only [accepted, Option.some.injEq, forall_eq'] at members ⊢
      exact getOrCreate_guarded collisionFree backend.pool (some (creds.username, creds.password)) members
    next refused =>
      cases ext : (Auth.authMiddleware decode authorization : Outcome GatewayError _) with
      | error e => rintro conn returned; cases returned
      | ok found =>
        cases found with
        | none => rintro conn returned; cases returned
        | some creds => exact absurd ext (refused creds)

/-- Whatever callers do side by side, every connection handed out was opened for the pair it was asked for. -/
theorem reachable_opened {h : Service σ} {cached : σ → CredentialKey → Option Connection}
    (cache : ConnectionCache h cached)
    (collisionFree : Set.InjOn sha256 {text | ∃ pair ∈ asked, text = hashedText pair.1 pair.2})
    {backend : FlussBackend} {decode : Auth.Base64} {start s : σ} (fresh : ∀ key, cached start key = none)
    {threads : List (Caller × Gateway Connection)}
    (reached : Reachable h sha256 backend decode asked start s threads) {caller : Caller} {conn : Connection}
    (served : (caller, .done (.ok conn)) ∈ threads) {pair : String × String}
    (asks : caller.pair backend decode = some pair) :
    conn.config = connectionConfig backend.pool.coordinator pair.1 pair.2 := by
  -- An operation that inserts only what was opened keeps the cache sound.
  have keeps : ∀ op s, Inserts sha256 backend.pool.coordinator asked op →
      Sound sha256 backend.pool.coordinator asked (cached s) →
      Sound sha256 backend.pool.coordinator asked (cached (h op s).2) := by
    intro op s inserts sound key conn present
    rcases cache.kept op s key conn present with before | inserted
    · exact sound key conn before
    · exact inserts key conn inserted
  have returns := (reached.guarded (I := fun s => Sound sha256 backend.pool.coordinator asked (cached s))
    (fun key conn present => by rw [fresh] at present; cases present)
    (fun caller members => caller_guarded collisionFree caller members)
    (fun op s sound => by
      cases op with
      | cacheGet key => exact fun conn reply => sound key conn (cache.get key s conn reply)
      | _ => trivial)
    (fun _ op s inserts => keeps op s inserts)
    (fun op s outside => keeps op s fun key conn same => absurd same (outside key conn))).2
  exact (returns _ served).value pair asks

end Sound

/-! ## Authentication -/

/-- The configuration opens a connection by SASL with this name and password. -/
structure Authenticates (config : ClientConfig) (username password : String) : Prop where
  protocol : config.securityProtocol = "sasl"
  mechanism : config.securitySaslMechanism = "PLAIN"
  username : config.securitySaslUsername = username
  password : config.securitySaslPassword = password

theorem connectionConfig_authenticates_iff (coordinator : String) {u : String} (named : u ≠ "") (p : String) :
    Authenticates (connectionConfig coordinator u p) u p ↔ p ≠ "" := by
  constructor
  · rintro ⟨protocol, _, _, _⟩ rfl
    simp [connectionConfig] at protocol
  · intro filled
    constructor <;> simp [connectionConfig, named, filled]

theorem pair_of_accepted (backend : FlussBackend) {decode : Auth.Base64} {authorization : List UInt8}
    {headerValue : String} {creds : Auth.BasicAuthCredentials}
    (text : Auth.headerText authorization = some headerValue)
    (accepted : (Auth.parseBasicAuth decode headerValue : Outcome GatewayError _) = .ok (some creds)) :
    (Caller.passthrough (some authorization)).pair backend decode = some (creds.username, creds.password) := by
  simp [Caller.pair, Auth.authMiddleware, text, accepted]

/-- Over every interleaving of the pool's callers: the connection that serves a request with accepted
credentials is authenticated as their user exactly when the password is not empty. -/
theorem passthrough_authenticated_iff {σ : Type} {h : Service σ} {cached : σ → CredentialKey → Option Connection}
    (cache : ConnectionCache h cached) {sha256 : Sha256} {asked : Set (String × String)}
    (collisionFree : Set.InjOn sha256 {text | ∃ pair ∈ asked, text = hashedText pair.1 pair.2})
    {backend : FlussBackend} {decode : Auth.Base64} {start s : σ} (fresh : ∀ key, cached start key = none)
    {threads : List (Caller × Gateway Connection)}
    (reached : Reachable h sha256 backend decode asked start s threads)
    {authorization : List UInt8} {headerValue u p : String}
    (text : Auth.headerText authorization = some headerValue)
    (accepted : (Auth.parseBasicAuth decode headerValue : Outcome GatewayError _) = .ok (some ⟨u, p⟩))
    {conn : Connection} (served : (Caller.passthrough (some authorization), .done (.ok conn)) ∈ threads) :
    Authenticates conn.config u p ↔ p ≠ "" := by
  have opened := reachable_opened cache collisionFree fresh reached served (pair_of_accepted backend text accepted)
  rw [opened]
  exact connectionConfig_authenticates_iff _ (Auth.username_of_accepted accepted) p

/-! ## A user without a password -/

/-- The digest of `:`. -/
def digestOfColon : List UInt8 :=
  [231, 172, 7, 134, 102, 142, 15, 240, 240, 43, 98, 189, 4, 244, 95, 246,
   54, 253, 130, 219, 99, 177, 16, 70, 1, 201, 117, 220, 0, 95, 58, 103]

/-- The digest of `user:`. -/
def digestOfUser : List UInt8 :=
  [10, 71, 140, 208, 129, 153, 7, 41, 213, 226, 221, 78, 206, 41, 30, 32,
   192, 156, 28, 164, 237, 147, 215, 58, 157, 148, 213, 114, 193, 0, 195, 8]

/-- SHA-256 on `:` and `user:`, and nothing elsewhere. -/
def sampleSha256 : Sha256 := fun text =>
  if text = Codec.utf8 ":" then digestOfColon
  else if text = Codec.utf8 "user:" then digestOfUser
  else []

def sampleBase64 : Auth.Base64 := fun text => if text = "dXNlcjo=" then some (Codec.utf8 "user:") else none

def sampleHeader : List UInt8 := Codec.utf8 "Basic dXNlcjo="

def sampleBackend : FlussBackend := .new "localhost:9123" ⟨.passthrough, "", ""⟩

def samplePath : TablePath := ⟨"app", "users"⟩

def sampleInfo : TableInfo := ⟨⟨[⟨"id", .int⟩, ⟨"name", .string⟩], some ["id"]⟩, true, 1, 1⟩

theorem memory_cache (path : TablePath) (info : TableInfo) :
    ConnectionCache (Memory.service path info) Memory.cache where
  get key s conn found := found
  kept op s key conn present := by
    cases op with
    | cacheInsert key' conn' =>
      by_cases same : key = key'
      · subst key'
        simp only [Memory.service, Function.update_self, Option.some.injEq] at present
        exact .inr (by rw [present])
      · simp only [Memory.service, Function.update_of_ne same] at present
        exact .inl present
    | upsert t row => simp only [Memory.service] at present; split at present <;> exact .inl present
    | delete t row => simp only [Memory.service] at present; split at present <;> exact .inl present
    | flushUpserts t => simp only [Memory.service] at present; split at present <;> exact .inl present
    | _ => exact .inl present

/-- The connection opened for `user` with an empty password. -/
def sampleConnection : Connection := ⟨0, connectionConfig "localhost:9123" "user" ""⟩

/-- The request of `user` begins and runs to its end. -/
theorem sample_reached : ∃ s, Reachable (Memory.service samplePath sampleInfo) sampleSha256 sampleBackend
    sampleBase64 {("user", "")} .empty s [(.passthrough (some sampleHeader), .done (.ok sampleConnection))] := by
  have begun : Reachable (Memory.service samplePath sampleInfo) sampleSha256 sampleBackend sampleBase64
      {("user", "")} .empty .empty [(.passthrough (some sampleHeader),
        (Caller.passthrough (some sampleHeader)).program sampleSha256 sampleBackend sampleBase64)] := by
    refine .begin _ ?_ .start
    rintro pair asks
    cases asks
    rfl
  exact ⟨_, begun.undisturbed⟩

theorem passthrough_authenticated_iff_sample : Authenticates sampleConnection.config "user" "" ↔ "" ≠ "" := by
  obtain ⟨s, reached⟩ := sample_reached
  have collisionFree : Set.InjOn sampleSha256
      {text | ∃ pair ∈ ({("user", "")} : Set (String × String)), text = hashedText pair.1 pair.2} := by
    rintro _ ⟨_, rfl, rfl⟩ _ ⟨_, rfl, rfl⟩ _
    rfl
  have text : Auth.headerText sampleHeader = some "Basic dXNlcjo=" := rfl
  exact passthrough_authenticated_iff (memory_cache samplePath sampleInfo) collisionFree (fun _ => rfl) reached
    text rfl (List.mem_singleton.mpr rfl)

/-- The header of `user` with an empty password is accepted and served without authentication. -/
theorem passthrough_not_authenticated :
    (Auth.parseBasicAuth sampleBase64 "Basic dXNlcjo=" : Outcome GatewayError _) = .ok (some ⟨"user", ""⟩) ∧
    (∃ s, Reachable (Memory.service samplePath sampleInfo) sampleSha256 sampleBackend sampleBase64 {("user", "")}
      .empty s [(.passthrough (some sampleHeader), .done (.ok sampleConnection))]) ∧
    sampleConnection.config.securityProtocol = "" ∧ sampleConnection.config.securitySaslMechanism = "" ∧
    ¬Authenticates sampleConnection.config "user" "" := by
  refine ⟨rfl, sample_reached, rfl, rfl, ?_⟩
  rintro ⟨protocol, _, _, _⟩
  exact absurd protocol (by decide)

end FlussGateway.Backend
