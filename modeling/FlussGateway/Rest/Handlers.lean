import FlussGateway.Backend.Operations
import FlussGateway.Codec.ColumnTypes
import FlussGateway.Foundation.SortedMap
import FlussGateway.Rest.Produce

/-!
# The handlers

Each handler as a program over the backend's operations. Those with credentials take them from
the request before they do anything else. `Invocation` lists the handlers together with
what their extractors have read.
-/
namespace FlussGateway.Rest

open FlussGateway.Foundation FlussGateway.Backend FlussGateway.Codec

/-! ## Calling the backend -/

inductive BackendCall where
  | checkHealth
  | on (creds : Option Auth.BasicAuthCredentials) (op : Operation)

@[reducible] def BackendCall.Reply : BackendCall → Type
  | .checkHealth => Except GatewayError Unit
  | .on _ op => Except GatewayError op.Result

abbrev Endpoint (α : Type) := Program BackendCall BackendCall.Reply GatewayError α

/-- `state.backend.op(…, creds.as_ref()).await?`. -/
def ask (creds : Option Auth.BasicAuthCredentials) (op : Operation) : Endpoint op.Result :=
  .call (.on creds op) Program.propagate

/-- The backend that answers the calls. -/
def BackendCall.impl (sha256 : Sha256) (formats : Formats) (debug : Debug)
    (backend : FlussBackend) :
    (call : BackendCall) → Gateway call.Reply
  | .checkHealth => (backend.checkHealth sha256).attempt
  | .on creds op => (backend.perform sha256 formats debug creds op).attempt

/-! ## Responses -/

inductive Body where
  | empty
  | json (value : Value)
  | text (s : String)

structure Response where
  status : Nat
  headers : List (String × String)
  body : Body

namespace Response

def json (status : Nat) (value : Value) : Response :=
  ⟨status, [("content-type", "application/json")], .json value⟩

def ofStatus (status : Nat) : Response := ⟨status, [], .empty⟩

def ofError (e : GatewayError) : Response :=
  json e.statusCode
    (.object [("error_code", .number (.posInt e.errorCode.toUInt64)), ("message", .string e.text)])

end Response

def strings (ss : List String) : Value := .array (ss.map .string)

def signed (n : Int64) : Value := .number (.ofSigned n)

def tableInfoResponse (formats : Formats) (db table : String)
    (info : TableInfo) : Value := .object [
  ("table_id", signed info.tableId),
  ("database", .string db),
  ("table", .string table),
  ("columns", .array (info.schema.columns.map fun c =>
    .object [("name", .string c.name), ("data_type", .string (formats.dataType c.dataType))])),
  ("has_primary_key", .bool info.schema.primaryKey.isSome),
  ("num_buckets", signed info.numBuckets.toInt64)]

def writeResult (result : WriteResult) : Value :=
  .object [("row_count", .number (.posInt result.rowCount.toUInt64))]

def listOffsetsResponse (db table : String) (req : ListOffsetsRequest)
    (offsets : List (Int32 × Int64)) : Value :=
  .object [
    ("table_path", .string (db ++ "/" ++ table)),
    ("spec", .string (req.spec.getD "earliest")),
    ("offsets", .array (offsets.map fun (bucketId, offset) =>
      .object [("bucket_id", signed bucketId.toInt64), ("offset", signed offset)]))]

def listPartitionsResponse (db table : String)
    (partitions : List PartitionInfo) : Value := .object [
  ("table_path", .string (db ++ "/" ++ table)),
  ("partitions", .array (partitions.map fun p => .object [
    ("partition_id", signed p.partitionId),
    ("partition_name", .string p.partitionName),
    ("partition_spec", .object (p.partitionSpec.map fun (k, v) => (k, .string v)))]))]

/-! ## The handlers -/

/-- What the handlers use of other libraries. -/
structure Library where
  formats : Formats
  lowercase : String → String
  /-- The schema builder's own checks. -/
  buildSchema : SchemaBuilder → Except FlussError Unit

def columnDefinitions (lowercase : String → String) :
    List ColumnSpec → Outcome GatewayError (List ColumnDefinition)
  | [] => .ok []
  | col :: cols => do
    let dataType ← Outcome.ofExcept id (parseDataType lowercase col.dataType)
    let rest ← columnDefinitions lowercase cols
    return ⟨col.name, dataType, col.comment⟩ :: rest

/-- The descriptor made from the request's columns, key and properties. -/
def tableDescriptor (library : Library) (req : CreateTableRequest) :
    Outcome GatewayError TableDescriptor := do
  let columns ← columnDefinitions library.lowercase req.schema
  let schema : SchemaBuilder :=
    ⟨columns, req.primaryKey.map fun pk => ⟨pk.constraintName, pk.columnNames⟩⟩
  Outcome.ofExcept flussErr (library.buildSchema schema)
  -- The comment is stored twice: as a property and as the table's comment.
  let properties := match req.comment with
    | some c => SortedMap.insert "table.comment" c (req.properties.getD [])
    | none => req.properties.getD []
  return ⟨schema, properties, req.partitionKeys.getD [], req.bucketCount,
    req.bucketKeys.getD [], req.comment⟩

def offsetSpec (req : ListOffsetsRequest) : Outcome GatewayError OffsetSpec :=
  match req.spec.getD "earliest" with
  | "earliest" => .ok .earliest
  | "latest" => .ok .latest
  | "timestamp" =>
    match req.timestamp with
    | some ts => .ok (.timestamp ts)
    | none => Outcome.fail (.badRequest "timestamp is required when spec=timestamp")
  | other => Outcome.fail (.badRequest ("invalid offset spec: " ++ other))

namespace Handler

section

variable (library : Library) (authType : Config.AuthType) (ext : Option Auth.BasicAuthCredentials)

def listDatabases : Endpoint (List String) := do
  let creds ← Program.lift (Auth.extractCreds authType ext)
  ask creds .listDatabases

def createDatabase (req : CreateDatabaseRequest) : Endpoint Unit := do
  let creds ← Program.lift (Auth.extractCreds authType ext)
  if req.databaseName = "" then
    Program.lift (Outcome.fail (.badRequest "database_name is required in request body"))
  else
    ask creds (.createDatabase req.databaseName req.comment req.customProperties req.ignoreIfExists)

def dropDatabase (db : String) (req : DropDatabaseRequest) : Endpoint Unit := do
  let creds ← Program.lift (Auth.extractCreds authType ext)
  ask creds (.dropDatabase db req.ignoreIfNotExists req.cascade)

def listTables (db : String) : Endpoint (List String) := do
  let creds ← Program.lift (Auth.extractCreds authType ext)
  ask creds (.listTables db)

def createTable (db : String) (req : CreateTableRequest) : Endpoint Unit := do
  let creds ← Program.lift (Auth.extractCreds authType ext)
  if req.tableName = "" then
    Program.lift (Outcome.fail (.badRequest "table_name is required in request body"))
  else do
    let descriptor ← Program.lift (tableDescriptor library req)
    ask creds (.createTable db req.tableName descriptor req.ignoreIfExists)

/-- `table_info_inner`, the body of both table_info handlers. -/
def tableInfo (db table : String) : Endpoint Value := do
  let creds ← Program.lift (Auth.extractCreds authType ext)
  let info ← ask creds (.getTableInfo db table)
  pure (tableInfoResponse library.formats db table info)

def lookup (db table : String) (params : List (String × String)) : Endpoint (List Value) := do
  let creds ← Program.lift (Auth.extractCreds authType ext)
  ask creds (.lookup db table ⟨params⟩)

def prefixScan : Endpoint (List Value) :=
  Program.lift (Outcome.fail (.internal "prefix scan not yet implemented"))

def lookupEach (db table : String) (creds : Option Auth.BasicAuthCredentials) :
    List (List (String × String)) → Endpoint (List Value)
  | [] => pure []
  | key :: keys => do
    let rows ← ask creds (.lookup db table ⟨key⟩)
    let results ← lookupEach db table creds keys
    pure (rows ++ results)

def batchLookup (db table : String) (req : BatchLookupRequest) : Endpoint (List Value) := do
  let creds ← Program.lift (Auth.extractCreds authType ext)
  lookupEach db table creds req.keys

def scan (db table : String) (params : ScanParams) : Endpoint (List Value) := do
  let creds ← Program.lift (Auth.extractCreds authType ext)
  ask creds (.scan db table params)

def listOffsets (db table : String) (req : ListOffsetsRequest) : Endpoint Value := do
  let creds ← Program.lift (Auth.extractCreds authType ext)
  let spec ← Program.lift (offsetSpec req)
  -- Without bucket ids the first bucket is asked for.
  let offsets ← ask creds (.listOffsets db table (req.buckets.getD [0]) spec)
  pure (listOffsetsResponse db table req offsets)

def listPartitions (db table : String) : Endpoint Value := do
  let creds ← Program.lift (Auth.extractCreds authType ext)
  let partitions ← ask creds (.listPartitions db table)
  pure (listPartitionsResponse db table partitions)

def dropTable (db table : String) (req : DropTableRequest) : Endpoint Unit := do
  let creds ← Program.lift (Auth.extractCreds authType ext)
  ask creds (.dropTable db table req.ignoreIfNotExists)

def produce (db table : String) (req : ProduceRequest) : Endpoint WriteResult := do
  let creds ← Program.lift (Auth.extractCreds authType ext)
  let tableInfo ← ask creds (.getTableInfo db table)
  let rows ← Program.lift (convertRows library.formats tableInfo.schema.columns 0 req.rows)
  if tableInfo.schema.primaryKey.isSome then
    if req.rows.any isDelete then ask creds (.deleteRows db table rows)
    else ask creds (.upsertRows db table rows)
  else ask creds (.appendRows db table rows)

end

end Handler

/-! ## Invocations -/

inductive Invocation where
  | listDatabases
  | createDatabase (req : CreateDatabaseRequest)
  | dropDatabase (db : String) (req : DropDatabaseRequest)
  | listTables (db : String)
  | createTable (db : String) (req : CreateTableRequest)
  | tableInfoPut (db table : String)
  | dropTable (db table : String) (req : DropTableRequest)
  | tableInfoGet (db table : String)
  | lookup (db table : String) (params : List (String × String))
  | prefixScan
  | batchLookup (db table : String) (req : BatchLookupRequest)
  | scan (db table : String) (params : ScanParams)
  | produce (db table : String) (req : ProduceRequest)
  | listOffsets (db table : String) (req : ListOffsetsRequest)
  | listPartitions (db table : String)

namespace Invocation

variable (library : Library) (authType : Config.AuthType) (ext : Option Auth.BasicAuthCredentials)

/-- The handler's program, its value made a response. -/
def run : Invocation → Endpoint Response
  | .listDatabases => do return .json 200 (strings (← Handler.listDatabases authType ext))
  | .createDatabase req => do
    Handler.createDatabase authType ext req
    return .ofStatus 201
  | .dropDatabase db req => do
    Handler.dropDatabase authType ext db req
    return .ofStatus 204
  | .listTables db => do return .json 200 (strings (← Handler.listTables authType ext db))
  | .createTable db req => do
    Handler.createTable library authType ext db req
    return .ofStatus 201
  | .tableInfoPut db table | .tableInfoGet db table => do
    return .json 200 (← Handler.tableInfo library authType ext db table)
  | .dropTable db table req => do
    Handler.dropTable authType ext db table req
    return .ofStatus 204
  | .lookup db table params =>
    do return .json 200 (.array (← Handler.lookup authType ext db table params))
  | .prefixScan => do return .json 200 (.array (← Handler.prefixScan))
  | .batchLookup db table req =>
    do return .json 200 (.array (← Handler.batchLookup authType ext db table req))
  | .scan db table params =>
    do return .json 200 (.array (← Handler.scan authType ext db table params))
  | .produce db table req =>
    do return .json 200 (writeResult (← Handler.produce library authType ext db table req))
  | .listOffsets db table req =>
    do return .json 200 (← Handler.listOffsets authType ext db table req)
  | .listPartitions db table => do return .json 200 (← Handler.listPartitions authType ext db table)

/-- The response to the client: an error of the handler is a response as well. -/
def answer (invocation : Invocation) : Endpoint Response := do
  match ← (invocation.run library authType ext).attempt with
  | .ok response => pure response
  | .error e => pure (.ofError e)

end Invocation

end FlussGateway.Rest
