import FlussGateway.Backend.Pool
import FlussGateway.Foundation.SingleFlight

/-!
# One connection, one identity

The pool on a cache that answers an equal key with its value, or runs one initialiser for
it. Any number of calls overlap; entries are dropped when idle, when the cache is full, and
all at once when the pool is closed.
-/
namespace FlussGateway.Backend

open FlussGateway.Foundation

/-- What `createConnection` makes of the client's reply. -/
def connectionOf (coordinator username password : String) :
    Except FlussError Nat → Outcome GatewayError Connection
  | .ok id => .ok ⟨id, connectionConfig coordinator username password⟩
  | .error e =>
    Outcome.panicked ("failed to connect to Fluss coordinator " ++ coordinator ++ ": " ++ e.text)

theorem createConnection_eq (coordinator username password : String) :
    createConnection coordinator username password =
      .call (.connect (connectionConfig coordinator username password)) fun reply =>
        .done (connectionOf coordinator username password reply) := by
  unfold createConnection connect Program.perform
  rw [Program.call_bind]
  congr 1
  funext reply
  cases reply <;> rfl

/-- A call of `get_or_create`. -/
structure PoolRequest where
  id : Nat
  creds : Option (String × String)
deriving DecidableEq

inductive PoolEvent where
  | getOrCreate (r : PoolRequest)
  | connected (r : PoolRequest) (reply : Except FlussError Nat)
  | wake (r : PoolRequest)
  | evict (key : CredentialKey)
  | close

abbrev PoolState := SingleFlight.State CredentialKey Connection PoolRequest

section Step

variable (sha256 : Sha256) (pool : ConnectionPool)

def PoolRequest.key (r : PoolRequest) : CredentialKey :=
  hashCredentials sha256 (pool.pair r.creds).1 (pool.pair r.creds).2

/-- An initialiser ends with the connection `createConnection` returns, or fails with its panic. -/
def PoolEvent.event : PoolEvent → SingleFlight.Event CredentialKey Connection PoolRequest
  | .getOrCreate r => .ask r
  | .connected r reply =>
    match connectionOf pool.coordinator (pool.pair r.creds).1 (pool.pair r.creds).2 reply with
    | .ok conn => .finish r conn
    | .error _ => .fail r
  | .wake r => .retry r
  | .evict key => .evict key
  | .close => .clear

def ConnectionPool.step (s : PoolState) (e : PoolEvent) : Option (PoolState × Unit) :=
  SingleFlight.State.step (PoolRequest.key sha256 pool) s (e.event pool)

end Step

/-- A call that nobody overlaps asks the cache, and on a miss runs `createConnection` as its
initialiser. -/
theorem getOrCreate_eq (sha256 : Sha256) (pool : ConnectionPool) (r : PoolRequest) :
    pool.getOrCreate sha256 r.creds = .call (.cacheGet (r.key sha256 pool)) fun
      | some conn => .done (.ok conn)
      | none =>
        createConnection pool.coordinator (pool.pair r.creds).1
          (pool.pair r.creds).2 >>= fun conn =>
        .call (.cacheInsert (r.key sha256 pool) conn) fun _ => .done (.ok conn) := by
  refine congrArg (Program.call (Call.cacheGet (r.key sha256 pool))) (funext fun found => ?_)
  cases found <;> rfl

/-! ## Isolation -/

abbrev PoolRecord := List (PoolEvent × Unit)

/-- The pairs that have been asked for. -/
def askedPairs (pool : ConnectionPool) (h : PoolRecord) : Set (String × String) :=
  {pair | ∃ r, (.getOrCreate r, ()) ∈ h ∧ pair = pool.pair r.creds}

/-- The connection was created for this pair, by a call that asked for it. -/
def CreatedFor (pool : ConnectionPool) (h : PoolRecord) (pair : String × String)
    (conn : Connection) : Prop :=
  ∃ r reply, (.connected r reply, ()) ∈ h ∧ pool.pair r.creds = pair ∧
    connectionOf pool.coordinator pair.1 pair.2 reply = .ok conn

structure Isolated (sha256 : Sha256) (pool : ConnectionPool) (h : PoolRecord)
    (s : PoolState) : Prop where
  returned : ∀ r conn, s.status r = .answered conn → CreatedFor pool h (pool.pair r.creds) conn
  cached : ∀ key conn, s.cached key = some conn → ∃ pair ∈ askedPairs pool h,
    key = hashCredentials sha256 pair.1 pair.2 ∧ CreatedFor pool h pair conn
  keys : ∀ pair ∈ askedPairs pool h, ∀ pair' ∈ askedPairs pool h,
    hashCredentials sha256 pair.1 pair.2 = hashCredentials sha256 pair'.1 pair'.2 → pair = pair'

/-- The key keeps the user name, and for one name the digests of different passwords differ. -/
theorem hashCredentials_injective {sha256 : Sha256} {asked : Set (String × String)}
    (collisionFree : Set.InjOn sha256 {text | ∃ pair ∈ asked, text = hashedText pair.1 pair.2})
    {pair pair' : String × String} (member : pair ∈ asked) (member' : pair' ∈ asked)
    (same : hashCredentials sha256 pair.1 pair.2 = hashCredentials sha256 pair'.1 pair'.2) :
    pair = pair' := by
  obtain ⟨u, p⟩ := pair
  obtain ⟨u', p'⟩ := pair'
  obtain ⟨rfl, digests⟩ := Prod.mk.inj same
  -- The name is the same, so equal texts mean equal passwords.
  obtain rfl := hashedText_injective (collisionFree ⟨_, member, rfl⟩ ⟨_, member', rfl⟩ digests)
  rfl

/-- A run of the pool is a run of its cache. -/
theorem cache_run {sha256 : Sha256} {pool : ConnectionPool} {h : PoolRecord} {s : PoolState}
    (run : Run (pool.step sha256) .empty h s) :
    Run (SingleFlight.State.step (PoolRequest.key sha256 pool)) .empty
      (h.map fun e => (e.1.event pool, e.2)) s := by
  induction run with
  | start => exact .start
  | next _ stepped ih => exact .next ih stepped

/-- What the cache's record says of a value, said of the pool's. -/
theorem created_of_made {sha256 : Sha256} {pool : ConnectionPool} {h : PoolRecord}
    {key : CredentialKey} {conn : Connection}
    (made : SingleFlight.Made (PoolRequest.key sha256 pool) (h.map fun e => (e.1.event pool, e.2)) key conn) :
    ∃ pair ∈ askedPairs pool h, key = hashCredentials sha256 pair.1 pair.2 ∧
    CreatedFor pool h pair conn := by
  obtain ⟨u, rfl, finished, asked⟩ := made
  obtain ⟨⟨e, _⟩, member, same⟩ := List.mem_map.mp finished
  obtain ⟨⟨e', _⟩, member', same'⟩ := List.mem_map.mp asked
  -- Only `getOrCreate` is seen by the cache as a question, and only `connected` as a result.
  refine ⟨pool.pair u.creds, ⟨u, ?_, rfl⟩, rfl, ?_⟩
  · cases e' with
    | getOrCreate r => cases same'; exact member'
    | connected r reply =>
      simp only [PoolEvent.event] at same'
      split at same' <;> cases same'
    | wake | evict | close => cases same'
  · cases e with
    | connected r reply =>
      simp only [PoolEvent.event] at same
      split at same <;> cases same
      next created => exact ⟨u, reply, member, rfl, created⟩
    | getOrCreate | wake | evict | close => cases same

/-- In every state that overlapping calls, evictions and closing lead to: each connection returned
or cached was created for the pair it is returned for or cached under, and different pairs have
different keys. -/
theorem connections_isolated {sha256 : Sha256} {pool : ConnectionPool} {h : PoolRecord}
    {s : PoolState} (run : Run (pool.step sha256) .empty h s)
    (collisionFree : Set.InjOn sha256 {text | ∃ pair ∈ askedPairs pool h, text = hashedText pair.1 pair.2}) :
    Isolated sha256 pool h s := by
  have inv := SingleFlight.inv_run (cache_run run)
  refine ⟨fun r conn answer => ?_, fun key conn present =>
    created_of_made (inv.cached key conn present),
    fun pair member pair' member' => hashCredentials_injective collisionFree member member'⟩
  obtain ⟨pair, member, same, created⟩ := created_of_made (inv.answered r conn answer)
  -- The request itself has asked, so its own pair is among those whose keys are told apart.
  have asked := inv.asked r (by rw [answer]; nofun)
  obtain ⟨⟨e, _⟩, member', event⟩ := List.mem_map.mp asked
  have own : pool.pair r.creds ∈ askedPairs pool h := by
    cases e with
    | getOrCreate r' => cases event; exact ⟨r, member', rfl⟩
    | connected r' reply =>
      simp only [PoolEvent.event] at event
      split at event <;> cases event
    | wake | evict | close => cases event
  rw [hashCredentials_injective collisionFree own member same]
  exact created

/-! ## Two identities at once -/

/-- The pool without startup credentials serves `user`, a request without credentials, and `user`
again. -/
def samplePool : ConnectionPool := (FlussBackend.new "localhost:9123" ⟨.passthrough, "", ""⟩).pool

def twoIdentities : PoolRecord :=
  [(.getOrCreate ⟨2, some ("user", "")⟩, ()), (.connected ⟨1, none⟩ (.ok 1), ()),
   (.connected ⟨0, some ("user", "")⟩ (.ok 0), ()), (.getOrCreate ⟨1, none⟩, ()),
   (.getOrCreate ⟨0, some ("user", "")⟩, ())]

theorem connections_isolated_twoIdentities :
    ∃ s, Run (samplePool.step sampleSha256) .empty twoIdentities s ∧
      Isolated sampleSha256 samplePool twoIdentities s := by
  have run : ∃ s, Run (samplePool.step sampleSha256) .empty twoIdentities s :=
    ⟨_, .next (.next (.next (.next (.next .start rfl) rfl) rfl) rfl) rfl⟩
  obtain ⟨s, run⟩ := run
  have texts : ∀ pair ∈ askedPairs samplePool twoIdentities, pair = ("user", "") ∨
    pair = ("", "") := by
    rintro pair ⟨r, member, rfl⟩
    simp only [twoIdentities, List.mem_cons, Prod.mk.injEq, PoolEvent.getOrCreate.injEq,
      reduceCtorEq, and_true,
      false_or, List.not_mem_nil, or_false] at member
    rcases member with rfl | rfl | rfl <;> simp [ConnectionPool.pair, samplePool, FlussBackend.new]
  refine ⟨s, run, connections_isolated run ?_⟩
  rintro _ ⟨pair, member, rfl⟩ _ ⟨pair', member', rfl⟩ same
  rcases texts pair member with rfl | rfl <;> rcases texts pair' member' with rfl | rfl
  · rfl
  · exact absurd same (by decide)
  · exact absurd same (by decide)
  · rfl

end FlussGateway.Backend
