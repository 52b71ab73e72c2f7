import FlussGateway.Backend.KvTable
import FlussGateway.Backend.Pool

/-!
# Writing rows

Appending, upserting and deleting share one procedure: take the connection and the table,
refuse a table of the wrong kind, create a writer, hand it the rows one by one and flush.
-/
namespace FlussGateway.Backend

open FlussGateway.Foundation

/-- What differs between the three kinds of write. -/
structure Writer where
  refuses : FlussTable → Bool
  refusal : String
  create : FlussTable → Gateway Unit
  send : FlussTable → GenericRow → Gateway Unit
  flush : FlussTable → Gateway Unit

def appender : Writer where
  refuses t := t.info.hasPrimaryKey
  refusal := "cannot append to a primary key table, use upsert instead"
  create t := do
    t.newAppend
    t.createAppendWriter
  send := FlussTable.append
  flush := FlussTable.flushAppends

def upserter : Writer where
  refuses t := !t.info.hasPrimaryKey
  refusal := "cannot upsert to a log table, use append instead"
  create t := do
    t.newUpsert
    t.createUpsertWriter
  send := FlussTable.upsert
  flush := FlussTable.flushUpserts

def deleter : Writer where
  refuses t := !t.info.hasPrimaryKey
  refusal := "cannot delete from a log table"
  create t := do
    t.newUpsert
    t.createUpsertWriter
  send := FlussTable.delete
  flush := FlussTable.flushUpserts

/-- `for row in &rows { … }`. -/
def sendEach (send : GenericRow → Gateway Unit) : List GenericRow → Gateway Unit
  | [] => pure ()
  | row :: rows => do
    send row
    sendEach send rows

section

variable (sha256 : Sha256) (backend : FlussBackend) (db table : String)

def writeRows (writer : Writer) (rows : List GenericRow) (creds : Option Auth.BasicAuthCredentials) :
    Gateway WriteResult := do
  let conn ← backend.conn sha256 creds
  let flussTable ← conn.getTable ⟨db, table⟩
  if writer.refuses flussTable then
    Program.lift (Outcome.fail (.invalidOperation writer.refusal))
  else do
    writer.create flussTable
    sendEach (writer.send flussTable) rows
    writer.flush flussTable
    pure ⟨rows.length⟩

def appendRows (rows : List GenericRow) (creds : Option Auth.BasicAuthCredentials) : Gateway WriteResult :=
  writeRows sha256 backend db table appender rows creds

def upsertRows (rows : List GenericRow) (creds : Option Auth.BasicAuthCredentials) : Gateway WriteResult :=
  writeRows sha256 backend db table upserter rows creds

def deleteRows (rows : List GenericRow) (creds : Option Auth.BasicAuthCredentials) : Gateway WriteResult :=
  writeRows sha256 backend db table deleter rows creds

def getTableInfo (creds : Option Auth.BasicAuthCredentials) : Gateway TableInfo := do
  let conn ← backend.conn sha256 creds
  let flussTable ← conn.getTable ⟨db, table⟩
  pure flussTable.info

end

/-! ## Effects on a primary-key table -/

theorem getOrCreate_quiet (sha256 : Sha256) (pool : ConnectionPool) (creds : Option (String × String)) :
    (pool.getOrCreate sha256 creds).Always fun op => op.writes = false :=
  getOrCreate_always sha256 pool creds (fun _ => rfl) (fun _ => rfl) fun _ _ => rfl

variable {σ : Type} {kv : KvTable σ}

theorem sendEach_queues {send : GenericRow → Gateway Unit} {change : GenericRow → RowChange}
    (each : ∀ row, kv.Queues (send row) (fun _ => True) [change row]) (rows : List GenericRow) :
    kv.Queues (sendEach send rows) (fun _ => True) (rows.map change) := by
  induction rows with
  | nil => exact KvTable.queues_quiet trivial
  | cons row rows ih => exact KvTable.Queues.bind (each row) fun _ _ => ih

theorem conn_queues (sha256 : Sha256) (backend : FlussBackend) (creds : Option Auth.BasicAuthCredentials) :
    kv.Queues (backend.conn sha256 creds) (fun _ => True) [] := by
  rw [FlussBackend.conn]
  exact KvTable.queues_quiet (getOrCreate_quiet sha256 backend.pool (some (backend.pair creds)))

theorem getTableInfo_queues (sha256 : Sha256) (backend : FlussBackend) {db table : String}
    (here : ⟨db, table⟩ = kv.path) (creds : Option Auth.BasicAuthCredentials) :
    kv.Queues (getTableInfo sha256 backend db table creds) (fun info => info.schema = kv.schema) [] := by
  refine (conn_queues sha256 backend creds).bind fun conn _ => ?_
  refine (KvTable.queues_getTable conn here).bind fun t known => ?_
  refine (KvTable.queues_lift (.ok t.info)).weaken fun info same => ?_
  cases same
  exact known.2

theorem writeRows_settles (sha256 : Sha256) (backend : FlussBackend) {db table : String}
    (here : ⟨db, table⟩ = kv.path) {writer : Writer} {change : GenericRow → RowChange}
    (created : ∀ t, (writer.create t).Always fun op => op.writes = false)
    (each : ∀ t row, t.path = kv.path → kv.Queues (writer.send t row) (fun _ => True) [change row])
    (flushes : ∀ t, t.path = kv.path → kv.Settles (writer.flush t) (fun _ => True) [])
    (rows : List GenericRow) (creds : Option Auth.BasicAuthCredentials) :
    kv.Settles (writeRows sha256 backend db table writer rows creds)
      (fun result => result.rowCount = rows.length) (rows.map change) := by
  refine (conn_queues sha256 backend creds).quietly fun conn _ => ?_
  refine (KvTable.queues_getTable conn here).quietly fun t known => ?_
  split
  · exact KvTable.settles_fail _ _ _
  -- Creating the writer changes nothing, sending queues one change for each row, flushing settles.
  · refine (KvTable.queues_quiet (created t)).quietly fun _ _ => ?_
    rw [← List.append_nil (rows.map change)]
    refine (sendEach_queues (fun row => each t row known.1) rows).settles fun _ _ => ?_
    exact ((flushes t known.1).returns (⟨rows.length⟩ : WriteResult)).weaken fun result equal => by rw [equal]

theorem upsertWriter_quiet (t : FlussTable) : (do
    t.newUpsert
    t.createUpsertWriter : Gateway Unit).Always fun op => op.writes = false := by
  exact Program.always_bind (p := t.newUpsert) ⟨rfl, orFlussErr_always⟩ fun _ =>
    ⟨rfl, orFlussErr_always⟩

theorem upsertRows_settles (sha256 : Sha256) (backend : FlussBackend) {db table : String}
    (here : ⟨db, table⟩ = kv.path) (rows : List GenericRow) (creds : Option Auth.BasicAuthCredentials) :
    kv.Settles (upsertRows sha256 backend db table rows creds)
      (fun result => result.rowCount = rows.length) (rows.map fun row => .set (kv.schema.key row) row) :=
  writeRows_settles sha256 backend here upsertWriter_quiet (fun _ row inside => KvTable.queues_upsert inside row)
    (fun _ inside => KvTable.settles_flushUpserts inside) rows creds

theorem deleteRows_settles (sha256 : Sha256) (backend : FlussBackend) {db table : String}
    (here : ⟨db, table⟩ = kv.path) (rows : List GenericRow) (creds : Option Auth.BasicAuthCredentials) :
    kv.Settles (deleteRows sha256 backend db table rows creds)
      (fun result => result.rowCount = rows.length) (rows.map fun row => .remove (kv.schema.key row)) :=
  writeRows_settles sha256 backend here upsertWriter_quiet (fun _ row inside => KvTable.queues_delete inside row)
    (fun _ inside => KvTable.settles_flushUpserts inside) rows creds

end FlussGateway.Backend
