import FlussGateway.Backend.FailedWrite

/-!
# What an operation may touch

A call of the client goes through one connection, concerns one part of the cluster, and changes it
or does not. An operation takes its connection first and from then on stays within its own
part of the cluster, on that connection.
-/
namespace FlussGateway.Backend

open FlussGateway.Foundation

/-! ## Calls -/

/-- The connection a call goes through. -/
def Call.connection : Call → Option Connection
  | .cacheGet _ | .cacheInsert _ _ | .connect _ | .buildTable _ => none
  | .getTable conn _ | .getAdmin conn | .listDatabases conn | .listTables conn _
  | .createDatabase conn _ _ _ | .dropDatabase conn _ _ _ | .createTable conn _ _ _
  | .dropTable conn _ _ | .listOffsets conn _ _ _ | .listPartitionInfos conn _ => some conn
  | .newUpsert t | .createUpsertWriter t | .upsert t _ | .delete t _ | .flushUpserts t
  | .newAppend t | .createAppendWriter t | .append t _ | .flushAppends t
  | .newLookup t | .createLookuper t | .lookup t _
  | .project t _ | .createScanner t | .subscribe t _ | .poll t _ => some t.conn

/-- A part of the cluster. -/
inductive Scope where
  | cluster
  | database (db : String)
  | table (path : TablePath)
deriving DecidableEq

/-- The part of the cluster a call names, if it names one. -/
def Call.scope : Call → Option Scope
  | .cacheGet _ | .cacheInsert _ _ | .connect _ | .buildTable _ | .getAdmin _ => none
  | .listDatabases _ => some .cluster
  | .listTables _ db => some (.database db)
  | .createDatabase _ name _ _ | .dropDatabase _ name _ _ => some (.database name)
  | .getTable _ path | .createTable _ path _ _ | .dropTable _ path _
  | .listOffsets _ path _ _ | .listPartitionInfos _ path => some (.table path)
  | .newUpsert t | .createUpsertWriter t | .upsert t _ | .delete t _ | .flushUpserts t
  | .newAppend t | .createAppendWriter t | .append t _ | .flushAppends t
  | .newLookup t | .createLookuper t | .lookup t _
  | .project t _ | .createScanner t | .subscribe t _ | .poll t _ => some (.table t.path)

/-- What kind of data a change is about. -/
inductive Effect where
  | rows
  | catalog
deriving DecidableEq

/-- What a call changes, if it changes anything. -/
def Call.effect : Call → Option Effect
  | .upsert _ _ | .delete _ _ | .flushUpserts _ | .append _ _ | .flushAppends _ => some .rows
  | .createDatabase _ _ _ _ | .dropDatabase _ _ _ _ | .createTable _ _ _ _ | .dropTable _ _ _ => some .catalog
  | _ => none

/-- A call that is no write changes no rows. -/
theorem effect_of_quiet {call : Call} (quiet : call.writes = false) : call.effect ≠ some .rows := by
  cases call <;> first | (cases quiet; done) | exact nofun

/-! ## Operations -/

def Operation.scope : Operation → Scope
  | .listDatabases => .cluster
  | .listTables db => .database db
  | .createDatabase dbName _ _ _ | .dropDatabase dbName _ _ => .database dbName
  | .getTableInfo db table | .createTable db table _ _ | .dropTable db table _
  | .listOffsets db table _ _ | .listPartitions db table | .lookup db table _ | .scan db table _
  | .appendRows db table _ | .upsertRows db table _ | .deleteRows db table _ => .table ⟨db, table⟩

def Operation.effect : Operation → Option Effect
  | .createDatabase _ _ _ _ | .dropDatabase _ _ _ | .createTable _ _ _ _ | .dropTable _ _ _ => some .catalog
  | .appendRows _ _ _ | .upsertRows _ _ _ | .deleteRows _ _ _ => some .rows
  | _ => none

/-- The call stays in this part of the cluster, and changes nothing but what it may. -/
structure Within (scope : Scope) (effect : Option Effect) (call : Call) : Prop where
  scope : ∀ part, call.scope = some part → part = scope
  effect : ∀ kind, call.effect = some kind → effect = some kind

/-- The call goes through this connection, or builds a descriptor and goes nowhere. -/
def Through (conn : Connection) (call : Call) : Prop :=
  call.connection = some conn ∨ ∃ descriptor, call = .buildTable descriptor

/-- What an operation may do once it has its connection. -/
def Uses (conn : Connection) (op : Operation) (call : Call) : Prop :=
  Through conn call ∧ Within op.scope op.effect call

section Uses

variable {conn : Connection} {op : Operation}

theorem uses_of {call : Call} (connection : call.connection = some conn)
    (scope : call.scope = some op.scope)
    (effect : ∀ kind, call.effect = some kind → op.effect = some kind) : Uses conn op call := by
  refine ⟨.inl connection, ⟨fun part same => ?_, effect⟩⟩
  rw [scope] at same
  exact (Option.some.inj same).symm

/-- A call that names no part of the cluster and changes nothing. -/
theorem uses_silent {call : Call} (through : Through conn call) (scope : call.scope = none)
    (quiet : call.effect = none) : Uses conn op call := by
  refine ⟨through, ⟨fun part same => ?_, fun kind same => ?_⟩⟩
  · rw [scope] at same
    cases same
  · rw [quiet] at same
    cases same

end Uses

/-! ## Operations keep to their part -/

section Keeps

variable {R : (call : Call) → call.Reply → Prop} {P : Call → Prop}

/-- A call whose reply is returned or is its error. -/
theorem fallible_guarded {α : Type} {call : Call} {f : call.Reply → Gateway α} (here : P call)
    (finish : ∀ reply, ∃ r, f reply = orFlussErr r) :
    (Program.call call f).Guarded P R fun _ => True := by
  refine ⟨here, fun reply _ => ?_⟩
  obtain ⟨r, same⟩ := finish reply
  rw [same]
  exact (orFlussErr_always r).guarded

/-- A table handle keeps the connection and the path it was got with. -/
theorem getTable_guarded {conn : Connection} {path : TablePath} (here : P (.getTable conn path)) :
    (conn.getTable path).Guarded P R fun t => t.conn = conn ∧ t.path = path := by
  refine Program.Guarded.bind (fallible_guarded here fun r => ⟨r, rfl⟩) fun info _ => ?_
  rintro t same
  cases same
  exact ⟨rfl, rfl⟩

variable {conn : Connection} {op : Operation} {t : FlussTable}

/-- A call on the operation's table. -/
theorem table_guarded {α : Type} {call : Call} {f : call.Reply → Gateway α}
    (handle : t.conn = conn ∧ op.scope = .table t.path) (connection : call.connection = some t.conn)
    (scope : call.scope = some (.table t.path))
    (effect : ∀ kind, call.effect = some kind → op.effect = some kind)
    (finish : ∀ reply, ∃ r, f reply = orFlussErr r) :
    (Program.call call f).Guarded (Uses conn op) R fun _ => True := by
  refine fallible_guarded (uses_of ?_ ?_ effect) finish
  · rw [connection, handle.1]
  · rw [scope, handle.2]

/-- A step of an operation before the rest. -/
theorem then_guarded {α β : Type} {p : Gateway α} {f : α → Gateway β}
    (first : p.Guarded P R fun _ => True) (rest : ∀ a, (f a).Guarded P R fun _ => True) :
    (p >>= f).Guarded P R fun _ => True := first.bind fun a _ => rest a

theorem sendEach_guarded {send : GenericRow → Gateway Unit}
    (each : ∀ row, (send row).Guarded P R fun _ => True) (rows : List GenericRow) :
    (sendEach send rows).Guarded P R fun _ => True := by
  induction rows with
  | nil => exact fun _ _ => trivial
  | cons row rows ih => exact then_guarded (each row) fun _ => ih

theorem subscribeEach_guarded (each : ∀ bucket, P (.subscribe t bucket)) (buckets : List Nat) :
    (FlussBackend.subscribeEach t buckets).Guarded P R fun _ => True := by
  induction buckets with
  | nil => exact fun _ _ => trivial
  | cons bucket buckets ih => exact then_guarded (fallible_guarded (each bucket) fun r => ⟨r, rfl⟩) fun _ => ih

variable (sha256 : Sha256) (formats : Codec.Formats) (debug : Codec.Debug) (backend : FlussBackend)
  (creds : Option Auth.BasicAuthCredentials)

/-- The shape of an operation: its connection first, then only calls that it may make with it. -/
def Keeps {α : Type} (R : (call : Call) → call.Reply → Prop) (op : Operation) (p : Gateway α) : Prop :=
  ∃ rest : Connection → Gateway α, p = backend.conn sha256 creds >>= rest ∧
    ∀ conn, (rest conn).Guarded (Uses conn op) R fun _ => True

/-- Getting the admin client touches nothing. -/
theorem admin_keeps {α : Type} {request : Connection → Gateway α}
    (keeps : ∀ conn, (request conn).Guarded (Uses conn op) R fun _ => True) :
    Keeps sha256 backend creds R op (do
      let conn ← backend.conn sha256 creds
      conn.getAdmin
      request conn) := by
  refine ⟨_, rfl, fun conn => ?_⟩
  exact then_guarded (fallible_guarded (uses_silent (.inl rfl) rfl rfl) fun r => ⟨r, rfl⟩) fun _ =>
    keeps conn

theorem lookup_keeps (db table : String) (params : LookupParams) :
    Keeps sha256 backend creds R (.lookup db table params)
      (backend.lookup sha256 formats debug db table params creds) := by
  refine ⟨_, rfl, fun conn => ?_⟩
  refine (getTable_guarded (uses_of rfl rfl nofun)).bind fun t handle => ?_
  have here : t.conn = conn ∧ (Operation.lookup db table params).scope = .table t.path :=
    ⟨handle.1, by rw [handle.2]; rfl⟩
  split
  · exact nofun
  · cases t.info.schema.primaryKey with
    | none => exact nofun
    | some pkColNames =>
      refine then_guarded (Program.Always.guarded trivial) fun row => ?_
      refine then_guarded (table_guarded here rfl rfl nofun fun r => ⟨r, rfl⟩) fun _ => ?_
      refine then_guarded (table_guarded here rfl rfl nofun fun r => ⟨r, rfl⟩) fun _ => ?_
      refine then_guarded (table_guarded here rfl rfl nofun fun r => ⟨r, rfl⟩) fun result => ?_
      exact then_guarded (orFlussErr_always _).guarded fun _ _ _ => trivial

theorem scan_keeps (db table : String) (params : ScanParams) :
    Keeps sha256 backend creds R (.scan db table params)
      (backend.scan sha256 creds debug db table params) := by
  refine ⟨_, rfl, fun conn => ?_⟩
  refine (getTable_guarded (uses_of rfl rfl nofun)).bind fun t handle => ?_
  have here : t.conn = conn ∧ (Operation.scan db table params).scope = .table t.path :=
    ⟨handle.1, by rw [handle.2]; rfl⟩
  refine then_guarded ?_ fun _ => ?_
  · cases params.projection with
    | none => exact fun _ _ => trivial
    | some projection => exact table_guarded here rfl rfl nofun fun r => ⟨r, rfl⟩
  refine then_guarded (table_guarded here rfl rfl nofun fun r => ⟨r, rfl⟩) fun _ => ?_
  refine then_guarded (subscribeEach_guarded (fun bucket => ?_) _) fun _ => ?_
  · exact uses_of (by rw [Call.connection, handle.1]) (by rw [Call.scope, here.2]) nofun
  exact then_guarded (table_guarded here rfl rfl nofun fun r => ⟨r, rfl⟩) fun _ _ _ => trivial

theorem writeRows_keeps (kind : WriteKind) (db table : String) (rows : List GenericRow)
    (scope : op.scope = .table ⟨db, table⟩) (effect : op.effect = some .rows) :
    Keeps sha256 backend creds R op (kind.rows sha256 backend db table rows creds) := by
  rw [WriteKind.rows_eq]
  refine ⟨_, rfl, fun conn => ?_⟩
  refine (getTable_guarded (uses_of rfl (by rw [scope]; rfl) nofun)).bind fun t handle => ?_
  have here : t.conn = conn ∧ op.scope = .table t.path := ⟨handle.1, by rw [handle.2, scope]⟩
  split
  · exact nofun
  -- Creating the writer changes nothing yet; sending and flushing may, as the operation may.
  · refine then_guarded ?_ fun _ => ?_
    · cases kind <;>
        exact then_guarded (table_guarded here rfl rfl nofun fun r => ⟨r, rfl⟩) fun _ =>
          table_guarded here rfl rfl nofun fun r => ⟨r, rfl⟩
    refine then_guarded (sendEach_guarded (fun row => ?_) rows) fun _ => ?_
    · cases kind <;> exact table_guarded here rfl rfl (fun _ => effect.trans) fun r => ⟨r, rfl⟩
    refine then_guarded ?_ fun _ _ _ => trivial
    cases kind <;> exact table_guarded here rfl rfl (fun _ => effect.trans) fun r => ⟨r, rfl⟩

theorem perform_keeps (op : Operation) :
    Keeps sha256 backend creds R op (backend.perform sha256 formats debug creds op) := by
  cases op with
  | listDatabases | listTables | listOffsets =>
    exact admin_keeps sha256 backend creds fun conn =>
      fallible_guarded (uses_of rfl rfl nofun) fun r => ⟨r, rfl⟩
  | createDatabase | dropDatabase | dropTable =>
    exact admin_keeps sha256 backend creds fun conn =>
      fallible_guarded (uses_of rfl rfl fun _ => id) fun r => ⟨r, rfl⟩
  | createTable db table descriptor =>
    refine admin_keeps sha256 backend creds fun conn => ?_
    refine then_guarded (fallible_guarded (uses_silent (.inr ⟨_, rfl⟩) rfl rfl) fun r => ⟨r, rfl⟩)
      fun _ => ?_
    exact fallible_guarded (uses_of rfl rfl fun _ => id) fun r => ⟨r, rfl⟩
  | listPartitions db table =>
    refine admin_keeps sha256 backend creds fun conn => ⟨uses_of rfl rfl nofun, fun reply _ => ?_⟩
    cases reply with
    | ok parts => exact fun _ _ => trivial
    | error e =>
      dsimp only
      split
      · exact fun _ _ => trivial
      · exact nofun
  | getTableInfo db table =>
    refine ⟨_, rfl, fun conn => ?_⟩
    exact (getTable_guarded (uses_of rfl rfl nofun)).bind fun _ _ _ _ => trivial
  | lookup db table params => exact lookup_keeps sha256 formats debug backend creds db table params
  | scan db table params => exact scan_keeps sha256 debug backend creds db table params
  | appendRows db table rows =>
    exact writeRows_keeps sha256 backend creds .append db table rows rfl rfl
  | upsertRows db table rows =>
    exact writeRows_keeps sha256 backend creds .upsert db table rows rfl rfl
  | deleteRows db table rows =>
    exact writeRows_keeps sha256 backend creds .delete db table rows rfl rfl

end Keeps

/-! ## All calls of an operation -/

/-- A call that looks a connection of these credentials up, opens one or caches it. -/
def Takes (sha256 : Sha256) (backend : FlussBackend) (creds : Option Auth.BasicAuthCredentials)
    (call : Call) : Prop :=
  call = .cacheGet (backend.key sha256 creds) ∨
  call = .connect (connectionConfig backend.pool.coordinator (backend.pair creds).1 (backend.pair creds).2) ∨
  ∃ conn, call = .cacheInsert (backend.key sha256 creds) conn

section Takes

variable {sha256 : Sha256} {backend : FlussBackend} {creds : Option Auth.BasicAuthCredentials} {call : Call}

theorem conn_takes (sha256 : Sha256) (backend : FlussBackend)
    (creds : Option Auth.BasicAuthCredentials) :
    (backend.conn sha256 creds).Always (Takes sha256 backend creds) := by
  have asked := getOrCreate_eq sha256 backend.pool ⟨0, some (backend.pair creds)⟩
  rw [FlussBackend.conn, asked]
  refine ⟨.inl rfl, fun found => ?_⟩
  cases found with
  | some conn => trivial
  | none =>
    rw [createConnection_eq]
    refine Program.always_bind ⟨.inr (.inl rfl), fun _ => trivial⟩ fun conn => ?_
    exact ⟨.inr (.inr ⟨conn, rfl⟩), fun _ => trivial⟩

/-- The pool touches no part of the cluster. -/
theorem Takes.silent (takes : Takes sha256 backend creds call) :
    call.connection = none ∧ call.scope = none ∧ call.effect = none := by
  rcases takes with rfl | rfl | ⟨conn, rfl⟩ <;> exact ⟨rfl, rfl, rfl⟩

/-- What an operation uses is not the pool's. -/
theorem Uses.not_insert {conn : Connection} {op : Operation} (uses : Uses conn op call)
    (key : CredentialKey) (conn' : Connection) : call ≠ .cacheInsert key conn' := by
  rintro rfl
  rcases uses.1 with same | ⟨descriptor, same⟩ <;> cases same

/-- An operation takes a connection, and then uses one. -/
theorem perform_always (sha256 : Sha256) (formats : Codec.Formats) (debug : Codec.Debug)
    (backend : FlussBackend) (creds : Option Auth.BasicAuthCredentials) (op : Operation) :
    (backend.perform sha256 formats debug creds op).Always fun call =>
      Takes sha256 backend creds call ∨ ∃ conn, Uses conn op call := by
  obtain ⟨rest, same, uses⟩ :=
    perform_keeps (R := fun _ _ => True) sha256 formats debug backend creds op
  rw [same]
  refine Program.always_bind ((conn_takes sha256 backend creds).mono fun _ => .inl) fun conn => ?_
  exact (uses conn).always.mono fun _ used => .inr ⟨conn, used⟩

end Takes

end FlussGateway.Backend
