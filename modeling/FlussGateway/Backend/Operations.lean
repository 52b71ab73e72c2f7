import FlussGateway.Backend.Lookup
import FlussGateway.Backend.Write

/-!
# The operations of the backend

Every operation takes a connection for the credentials it is given and works through that
connection alone. `Operation` lists them with their arguments, `FlussBackend.perform` runs one.
-/
namespace FlussGateway.Backend

open FlussGateway.Foundation

/-! ## Metadata and scans -/

namespace FlussBackend

section

variable (sha256 : Sha256) (backend : FlussBackend)

/-- Lists the databases with the startup credentials. -/
def checkHealth : Gateway Unit := do
  let conn ← backend.conn sha256 none
  conn.getAdmin
  let _ ← conn.listDatabases
  pure ()

variable (creds : Option Auth.BasicAuthCredentials)

def listDatabases : Gateway (List String) := do
  let conn ← backend.conn sha256 creds
  conn.getAdmin
  conn.listDatabases

def listTables (db : String) : Gateway (List String) := do
  let conn ← backend.conn sha256 creds
  conn.getAdmin
  conn.listTables db

def createDatabase (dbName : String) (comment : Option String)
    (customProperties : List (String × String))
    (ignoreIfExists : Bool) : Gateway Unit := do
  let conn ← backend.conn sha256 creds
  conn.getAdmin
  conn.createDatabase dbName ⟨comment, customProperties⟩ ignoreIfExists

def dropDatabase (dbName : String) (ignoreIfNotExists cascade : Bool) : Gateway Unit := do
  let conn ← backend.conn sha256 creds
  conn.getAdmin
  conn.dropDatabase dbName ignoreIfNotExists cascade

def createTable (db table : String) (descriptor : TableDescriptor) (ignoreIfExists : Bool) :
    Gateway Unit := do
  let conn ← backend.conn sha256 creds
  conn.getAdmin
  descriptor.build
  conn.createTable ⟨db, table⟩ descriptor ignoreIfExists

def dropTable (db table : String) (ignoreIfNotExists : Bool) : Gateway Unit := do
  let conn ← backend.conn sha256 creds
  conn.getAdmin
  conn.dropTable ⟨db, table⟩ ignoreIfNotExists

def listOffsets (db table : String) (buckets : List Int32) (spec : OffsetSpec) :
    Gateway (List (Int32 × Int64)) := do
  let conn ← backend.conn sha256 creds
  conn.getAdmin
  conn.listOffsets ⟨db, table⟩ buckets spec

/-- The client's error says that the table has no partitions. -/
def notPartitioned (e : FlussError) : Bool :=
  "not a partitioned table".toList <:+: e.text.toList || "code: 37".toList <:+: e.text.toList

def listPartitions (db table : String) : Gateway (List PartitionInfo) := do
  let conn ← backend.conn sha256 creds
  conn.getAdmin
  .call (.listPartitionInfos conn ⟨db, table⟩) fun
    | .ok parts => pure parts
    | .error e => if notPartitioned e then pure [] else .lift (Outcome.fail (flussErr e))

/-- `for bucket_id in 0..num_buckets { … }`. -/
def subscribeEach (flussTable : FlussTable) : List Nat → Gateway Unit
  | [] => pure ()
  | bucketId :: rest => do
    flussTable.subscribe bucketId
    subscribeEach flussTable rest

def scan (debug : Codec.Debug) (db table : String) (params : ScanParams) :
    Gateway (List Codec.Value) := do
  let conn ← backend.conn sha256 creds
  let flussTable ← conn.getTable ⟨db, table⟩
  -- Without a projection the scan reads every column.
  params.projection.elim (pure ()) flussTable.project
  flussTable.createScanner
  subscribeEach flussTable (List.range flussTable.info.numBuckets.toNatClampNeg)
  let batches ← flussTable.poll (params.timeoutMs.getD 5000)
  let output := batches.flatMap fun batch => Codec.recordBatchToJson debug batch.rows
  pure (match params.limit with
    | some limit => output.take limit
    | none => output)

end

end FlussBackend

/-! ## All operations -/

inductive Operation where
  | listDatabases
  | listTables (db : String)
  | getTableInfo (db table : String)
  | createDatabase (dbName : String) (comment : Option String)
      (customProperties : List (String × String))
      (ignoreIfExists : Bool)
  | dropDatabase (dbName : String) (ignoreIfNotExists cascade : Bool)
  | createTable (db table : String) (descriptor : TableDescriptor) (ignoreIfExists : Bool)
  | dropTable (db table : String) (ignoreIfNotExists : Bool)
  | listOffsets (db table : String) (buckets : List Int32) (spec : OffsetSpec)
  | listPartitions (db table : String)
  | lookup (db table : String) (params : LookupParams)
  | scan (db table : String) (params : ScanParams)
  | appendRows (db table : String) (rows : List GenericRow)
  | upsertRows (db table : String) (rows : List GenericRow)
  | deleteRows (db table : String) (rows : List GenericRow)

@[reducible] def Operation.Result : Operation → Type
  | .listDatabases => List String
  | .listTables _ => List String
  | .getTableInfo _ _ => TableInfo
  | .listOffsets _ _ _ _ => List (Int32 × Int64)
  | .listPartitions _ _ => List PartitionInfo
  | .lookup _ _ _ => List Codec.Value
  | .scan _ _ _ => List Codec.Value
  | .appendRows _ _ _ => WriteResult
  | .upsertRows _ _ _ => WriteResult
  | .deleteRows _ _ _ => WriteResult
  | _ => Unit

section

variable (sha256 : Sha256) (formats : Codec.Formats) (debug : Codec.Debug) (backend : FlussBackend)

def FlussBackend.perform (creds : Option Auth.BasicAuthCredentials) :
    (op : Operation) → Gateway op.Result
  | .listDatabases => backend.listDatabases sha256 creds
  | .listTables db => backend.listTables sha256 creds db
  | .getTableInfo db table => getTableInfo sha256 backend db table creds
  | .createDatabase dbName comment properties ignore =>
    backend.createDatabase sha256 creds dbName comment properties ignore
  | .dropDatabase dbName ignore cascade => backend.dropDatabase sha256 creds dbName ignore cascade
  | .createTable db table descriptor ignore =>
    backend.createTable sha256 creds db table descriptor ignore
  | .dropTable db table ignore => backend.dropTable sha256 creds db table ignore
  | .listOffsets db table buckets spec => backend.listOffsets sha256 creds db table buckets spec
  | .listPartitions db table => backend.listPartitions sha256 creds db table
  | .lookup db table params => backend.lookup sha256 formats debug db table params creds
  | .scan db table params => backend.scan sha256 creds debug db table params
  | .appendRows db table rows => appendRows sha256 backend db table rows creds
  | .upsertRows db table rows => upsertRows sha256 backend db table rows creds
  | .deleteRows db table rows => deleteRows sha256 backend db table rows creds

end

end FlussGateway.Backend
