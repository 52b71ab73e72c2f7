import FlussGateway.Backend.Isolation
import FlussGateway.Backend.Operations

/-!
# Without the coordinator

An operation can panic in one place only: where a connection is opened. It is opened when the
pool has none for the credentials, so the pool and the coordinator together decide whether
an operation returns.
-/
namespace FlussGateway.Backend

open FlussGateway.Foundation

/-! ## What cannot panic -/

theorem orFlussErr_panicless {α : Type} (reply : Except FlussError α) :
    (orFlussErr reply).Panicless := by
  cases reply <;> nofun

theorem getTable_panicless (conn : Connection) (path : TablePath) :
    (conn.getTable path).Panicless :=
  Program.panicless_bind (fun reply => orFlussErr_panicless reply) fun _ => Program.panicless_ok _

theorem sendEach_panicless {send : GenericRow → Gateway Unit} (each : ∀ row, (send row).Panicless)
    (rows : List GenericRow) : (sendEach send rows).Panicless := by
  induction rows with
  | nil => exact Program.panicless_ok _
  | cons row rows ih => exact Program.panicless_bind (each row) fun _ => ih

theorem subscribeEach_panicless (t : FlussTable) (buckets : List Nat) :
    (FlussBackend.subscribeEach t buckets).Panicless := by
  induction buckets with
  | nil => exact Program.panicless_ok _
  | cons bucketId rest ih =>
    exact Program.panicless_bind (fun reply => orFlussErr_panicless reply) fun _ => ih

section Lookup

variable {formats : Codec.Formats} {schema : Schema} {params : LookupParams}

/-- A column found by its name has a position. -/
theorem keyField_panicless (colName msg : String) :
    keyField formats schema params colName ≠ .error (.panic msg) := by
  intro panicked
  unfold keyField at panicked
  split at panicked
  next => cases panicked
  next value _ =>
    split at panicked
    next => cases panicked
    next col found =>
      cases converted : Codec.jsonToDatum (.string value) col.dataType with
      | error e => rw [converted] at panicked; cases panicked
      | ok d =>
        rw [converted] at panicked
        cases place : schema.position colName with
        | some j => simp only [place] at panicked; cases panicked
        | none =>
          -- The column just found has this name, so the position cannot be missing.
          have absent := List.findIdx?_eq_none_iff.mp place col (List.mem_of_find?_eq_some found)
          have here := List.find?_some found
          rw [here] at absent
          cases absent

theorem fillKey_panicless {names : List String} {row : GenericRow}
    (sized : row.fields.length = schema.columns.length)
    (msg : String) : fillKey formats schema params names row ≠ .error (.panic msg) := by
  induction names generalizing row with
  | nil => nofun
  | cons name names ih =>
    cases field : keyField formats schema params name with
    | error fault =>
      rw [fillKey, field]
      rintro same
      cases same
      exact keyField_panicless name msg field
    | ok found =>
      obtain ⟨j, d⟩ := found
      rw [fillKey_cons names sized field]
      exact ih (by simpa using sized)

end Lookup

structure WriterPanicless (writer : Writer) : Prop where
  create : ∀ t, (writer.create t).Panicless
  send : ∀ t row, (writer.send t row).Panicless
  flush : ∀ t, (writer.flush t).Panicless

theorem appender_panicless : WriterPanicless appender where
  create t := by
    refine Program.panicless_bind (p := t.newAppend)
      (fun reply => orFlussErr_panicless reply) fun _ => ?_
    exact fun reply => orFlussErr_panicless reply
  send _ _ reply := orFlussErr_panicless reply
  flush _ reply := orFlussErr_panicless reply

theorem newUpsert_panicless (t : FlussTable) : (do
    t.newUpsert
    t.createUpsertWriter : Gateway Unit).Panicless := by
  refine Program.panicless_bind (p := t.newUpsert)
    (fun reply => orFlussErr_panicless reply) fun _ => ?_
  exact fun reply => orFlussErr_panicless reply

theorem upserter_panicless : WriterPanicless upserter where
  create := newUpsert_panicless
  send _ _ reply := orFlussErr_panicless reply
  flush _ reply := orFlussErr_panicless reply

theorem deleter_panicless : WriterPanicless deleter where
  create := newUpsert_panicless
  send _ _ reply := orFlussErr_panicless reply
  flush _ reply := orFlussErr_panicless reply

/-! ## What an operation does with its connection -/

/-- The shape of an operation: a connection for its credentials, then work that cannot panic. -/
def Works {α : Type} (sha256 : Sha256) (backend : FlussBackend)
    (creds : Option Auth.BasicAuthCredentials) (p : Gateway α) : Prop :=
  ∃ rest : Connection → Gateway α, (∀ conn, (rest conn).Panicless) ∧
    p = backend.conn sha256 creds >>= rest

section Works

variable (sha256 : Sha256) (formats : Codec.Formats) (debug : Codec.Debug) (backend : FlussBackend)
  (creds : Option Auth.BasicAuthCredentials)

theorem checkHealth_works : Works sha256 backend none (backend.checkHealth sha256) := by
  refine ⟨_, fun conn => ?_, rfl⟩
  refine Program.panicless_bind (fun reply => orFlussErr_panicless reply) fun _ => ?_
  exact Program.panicless_bind (fun reply => orFlussErr_panicless reply) fun _ =>
    Program.panicless_ok _

theorem lookup_works (db table : String) (params : LookupParams) :
    Works sha256 backend creds (backend.lookup sha256 formats debug db table params creds) := by
  refine ⟨_, fun conn => ?_, rfl⟩
  refine Program.panicless_bind (getTable_panicless conn _) fun t => ?_
  split
  · exact Program.panicless_fail _
  · cases t.info.schema.primaryKey with
    | none => exact Program.panicless_fail _
    | some pkColNames =>
      refine Program.panicless_bind
        (fun msg => fillKey_panicless (GenericRow.length_new _) msg) fun row => ?_
      refine Program.panicless_bind (fun reply => orFlussErr_panicless reply) fun _ => ?_
      refine Program.panicless_bind (fun reply => orFlussErr_panicless reply) fun _ => ?_
      refine Program.panicless_bind (fun reply => orFlussErr_panicless reply) fun result => ?_
      exact Program.panicless_bind (orFlussErr_panicless _) fun _ => Program.panicless_ok _

theorem scan_works (db table : String) (params : ScanParams) :
    Works sha256 backend creds (backend.scan sha256 creds debug db table params) := by
  refine ⟨_, fun conn => ?_, rfl⟩
  refine Program.panicless_bind (getTable_panicless conn _) fun t => ?_
  refine Program.panicless_bind ?_ fun _ => ?_
  · cases params.projection with
    | none => exact Program.panicless_ok _
    | some projection => exact fun reply => orFlussErr_panicless reply
  refine Program.panicless_bind (fun reply => orFlussErr_panicless reply) fun _ => ?_
  refine Program.panicless_bind (subscribeEach_panicless t _) fun _ => ?_
  exact Program.panicless_bind (fun reply => orFlussErr_panicless reply) fun _ =>
    Program.panicless_ok _

theorem writeRows_works (db table : String) {writer : Writer} (panicless : WriterPanicless writer)
    (rows : List GenericRow) : Works sha256 backend creds
      (writeRows sha256 backend db table writer rows creds) := by
  refine ⟨_, fun conn => ?_, rfl⟩
  refine Program.panicless_bind (getTable_panicless conn _) fun t => ?_
  split
  · exact Program.panicless_fail _
  · refine Program.panicless_bind (panicless.create t) fun _ => ?_
    refine Program.panicless_bind (sendEach_panicless (panicless.send t) rows) fun _ => ?_
    exact Program.panicless_bind (panicless.flush t) fun _ => Program.panicless_ok _

/-- An administrative operation makes one call after it has got the admin client. -/
theorem admin_works {α : Type} {request : Connection → Gateway α}
    (panicless : ∀ conn, (request conn).Panicless) :
    Works sha256 backend creds (do
      let conn ← backend.conn sha256 creds
      conn.getAdmin
      request conn) := by
  refine ⟨_, fun conn => ?_, rfl⟩
  exact Program.panicless_bind (fun reply => orFlussErr_panicless reply) fun _ => panicless conn

theorem perform_works (op : Operation) : Works sha256 backend creds
    (backend.perform sha256 formats debug creds op) := by
  -- Most operations are one administrative call; creating a table builds its descriptor before.
  cases op with
  | listDatabases | listTables | createDatabase | dropDatabase | dropTable | listOffsets =>
    exact admin_works sha256 backend creds fun conn reply => orFlussErr_panicless reply
  | createTable db table descriptor =>
    exact admin_works sha256 backend creds fun conn =>
      Program.panicless_bind (fun reply => orFlussErr_panicless reply) fun _ reply =>
        orFlussErr_panicless reply
  | listPartitions db table =>
    refine admin_works sha256 backend creds fun conn reply => ?_
    cases reply with
    | ok parts => exact Program.panicless_ok _
    | error e =>
      dsimp only
      split
      · exact Program.panicless_ok _
      · exact Program.panicless_fail _
  | getTableInfo db table =>
    exact ⟨_, fun conn => Program.panicless_bind (getTable_panicless conn _) fun _ =>
      Program.panicless_ok _, rfl⟩
  | lookup db table params => exact lookup_works sha256 formats debug backend creds db table params
  | scan db table params => exact scan_works sha256 debug backend creds db table params
  | appendRows db table rows =>
    exact writeRows_works sha256 backend creds db table appender_panicless rows
  | upsertRows db table rows =>
    exact writeRows_works sha256 backend creds db table upserter_panicless rows
  | deleteRows db table rows =>
    exact writeRows_works sha256 backend creds db table deleter_panicless rows

end Works

/-! ## Which operations return -/

section Connects

variable {σ : Type} (h : Service σ) (sha256 : Sha256) (backend : FlussBackend)

def FlussBackend.key (creds : Option Auth.BasicAuthCredentials) : CredentialKey :=
  hashCredentials sha256 (backend.pair creds).1 (backend.pair creds).2

/-- The pool has a connection for the credentials, or the coordinator accepts a new one. -/
def Connects (creds : Option Auth.BasicAuthCredentials) (s : σ) : Prop :=
  (h (.cacheGet (backend.key sha256 creds)) s).1.isSome ∨
    ∃ id,
      (h (.connect (connectionConfig backend.pool.coordinator (backend.pair creds).1 (backend.pair creds).2))
      (h (.cacheGet (backend.key sha256 creds)) s).2).1 = .ok id

variable {h sha256 backend}

theorem conn_returns_iff (creds : Option Auth.BasicAuthCredentials) (s : σ) :
    (backend.conn sha256 creds).Returns h s ↔ Connects h sha256 backend creds s := by
  have asked := getOrCreate_eq sha256 backend.pool ⟨0, some (backend.pair creds)⟩
  unfold Program.Returns Connects FlussBackend.conn FlussBackend.key
  rw [asked, Program.run_call]
  simp only [PoolRequest.key, ConnectionPool.pair]
  cases (h
    (.cacheGet (hashCredentials sha256 (backend.pair creds).1 (backend.pair creds).2)) s).1 with
  | some conn => simp
  | none =>
    -- A miss: the connection is opened, and an error of the client becomes a panic.
    simp only [Option.isSome_none, Bool.false_eq_true, false_or, createConnection_eq,
      Program.call_bind, Program.run_call]
    cases (h
      (.connect (connectionConfig backend.pool.coordinator (backend.pair creds).1 (backend.pair creds).2)) _).1 with
    | ok id => simp [connectionOf]
    | error e => simp [connectionOf, Outcome.panicked]

theorem works_returns_iff {α : Type} {creds : Option Auth.BasicAuthCredentials} {p : Gateway α}
    (works : Works sha256 backend creds p) (s : σ) :
    p.Returns h s ↔ Connects h sha256 backend creds s := by
  obtain ⟨rest, panicless, rfl⟩ := works
  rw [Program.returns_bind_iff panicless, conn_returns_iff]

/-- Among any other programs: an operation panics exactly when the pool had no connection for it and
the coordinator refused a new one. -/
theorem works_ends_iff {α : Type} {creds : Option Auth.BasicAuthCredentials} {p : Gateway α}
    (works : Works sha256 backend creds p) {trace : List ((op : Call) × op.Reply)}
    {result : Outcome GatewayError α}
    (ended : p.Ends trace result) : (∃ msg, result = .error (.panic msg)) ↔
    ∃ e, trace = [⟨.cacheGet (backend.key sha256 creds), none⟩,
      ⟨.connect (connectionConfig backend.pool.coordinator (backend.pair creds).1 (backend.pair creds).2), .error e⟩] := by
  obtain ⟨rest, panicless, rfl⟩ := works
  have asked := getOrCreate_eq sha256 backend.pool ⟨0, some (backend.pair creds)⟩
  rw [FlussBackend.conn, asked, Program.call_bind] at ended
  cases ended with
  | @call _ _ found _ _ after =>
    cases found with
    -- A hit: the rest cannot panic, and the second call is not a `connect`.
    | some conn =>
      refine iff_of_false (not_exists.mpr fun msg => (panicless conn).ends after msg) ?_
      rintro ⟨e, same⟩
      cases same
    | none =>
      simp only [createConnection_eq, Program.call_bind] at after
      cases after with
      | @call _ _ reply _ _ after =>
        cases reply with
        | ok id =>
          cases after with
          | call after =>
            refine iff_of_false (not_exists.mpr fun msg => (panicless _).ends after msg) ?_
            rintro ⟨e, same⟩
            cases same
        | error e =>
          cases after
          exact iff_of_true ⟨_, rfl⟩ ⟨e, rfl⟩

end Connects

end FlussGateway.Backend
