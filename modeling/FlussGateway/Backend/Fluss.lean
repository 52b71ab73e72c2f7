import FlussGateway.Codec.ArrowToJson
import FlussGateway.Foundation.Program
import FlussGateway.Types

/-!
# The fluss client

What the gateway asks of the fluss client and of the connection cache, one call for each
operation that may fail or whose answer depends on the cluster. The answers are the
service's. Handles carry what they were created from: a connection its configuration, a
table the connection, the path and the metadata it was read with. A writer or lookuper is
known by the table it was created for.
-/
namespace FlussGateway.Backend

open FlussGateway.Foundation

/-! ## Tables and rows -/

structure Column where
  name : String
  dataType : Codec.DataType

structure Schema where
  columns : List Column
  primaryKey : Option (List String)

structure TableInfo where
  schema : Schema
  hasPrimaryKey : Bool
  tableId : Int64
  numBuckets : Int32

structure TablePath where
  database : String
  table : String
deriving DecidableEq

/-- A row under construction: one field for each column. -/
structure GenericRow where
  fields : List Codec.Datum
deriving DecidableEq

namespace GenericRow

variable {ε : Type}

def new (fieldCount : Nat) : GenericRow := ⟨List.replicate fieldCount .null⟩

/-- Replaces one field; a position outside the row panics. -/
def setField (row : GenericRow) (pos : Nat) (datum : Codec.Datum) : Outcome ε GenericRow :=
  if pos < row.fields.length then .ok ⟨row.fields.set pos datum⟩
  else Outcome.panicked "index out of bounds"

@[simp] theorem length_new (n : Nat) : (new n).fields.length = n := List.length_replicate

theorem setField_ok {row : GenericRow} {pos : Nat} (small : pos < row.fields.length) (datum : Codec.Datum) :
    (row.setField pos datum : Outcome ε GenericRow) = .ok ⟨row.fields.set pos datum⟩ := if_pos small

end GenericRow

/-! ## Names in a schema -/

namespace Schema

/-- `iter().position(|c| c.name() == name)`. -/
def position (schema : Schema) (name : String) : Option Nat :=
  schema.columns.findIdx? fun c => c.name == name

/-- The primary-key values of a row, in the order of the key's columns. -/
def key (schema : Schema) (row : GenericRow) : List Codec.Datum :=
  (schema.primaryKey.getD []).filterMap fun name =>
    (schema.position name).bind fun idx => row.fields[idx]?

/-- What a lookuper takes for the key in the row it is handed: as many of the first fields as the key
has columns. -/
def lookupKey (schema : Schema) (row : GenericRow) : List Codec.Datum :=
  row.fields.take (schema.primaryKey.getD []).length

/-- The key columns are the first columns, in the order of the key. -/
def Leads (schema : Schema) : Prop :=
  schema.primaryKey.getD [] <+: schema.columns.map (·.name)

instance (schema : Schema) : Decidable schema.Leads :=
  inferInstanceAs (Decidable (_ <+: _))

theorem position_of_leads {schema : Schema} (leads : schema.Leads)
    (distinct : (schema.primaryKey.getD []).Nodup) {j : Nat} {name : String}
    (here : (schema.primaryKey.getD [])[j]? = some name) : schema.position name = some j := by
  obtain ⟨inside, rfl⟩ := List.getElem?_eq_some_iff.mp here
  have within : (schema.primaryKey.getD []).length ≤ schema.columns.length := by
    simpa using leads.length_le
  have named : ∀ i (bound : i < (schema.primaryKey.getD []).length),
      schema.columns[i].name = (schema.primaryKey.getD [])[i] := by
    intro i bound
    have same := leads.getElem bound
    rw [List.getElem_map] at same
    exact same.symm
  rw [position, List.findIdx?_eq_some_iff_getElem]
  refine ⟨by omega, by simp [named j inside], fun i before => ?_⟩
  -- No earlier column has the name, since the key has it once.
  rw [named i (by omega)]
  simp only [beq_iff_eq]
  exact fun same => absurd (distinct.getElem_inj_iff.mp same) (by omega)

theorem filterMap_eq_take {α β : Type} {f : α → Option β} {xs : List α} {ys : List β}
    (at_ : ∀ (i : Nat) (x : α), xs[i]? = some x → f x = ys[i]?) (long : xs.length ≤ ys.length) :
    xs.filterMap f = ys.take xs.length := by
  induction xs generalizing ys with
  | nil => rfl
  | cons x xs ih =>
    cases ys with
    | nil => cases long
    | cons y ys =>
      have rest := ih (fun i x' => at_ (i + 1) x') (Nat.le_of_succ_le_succ long)
      rw [List.filterMap_cons_some (at_ 0 x rfl), rest]
      rfl

/-- Where the key columns lead, the lookuper reads the key of the row. -/
theorem lookupKey_eq_key {schema : Schema} (leads : schema.Leads)
    (distinct : (schema.primaryKey.getD []).Nodup) {row : GenericRow}
    (long : (schema.primaryKey.getD []).length ≤ row.fields.length) :
    schema.lookupKey row = schema.key row := by
  refine (filterMap_eq_take (fun i name here => ?_) long).symm
  rw [position_of_leads leads distinct here]
  rfl

/-- A key behind another column is not what the lookuper reads. -/
example : (Schema.mk [⟨"name", .string⟩, ⟨"id", .int⟩] (some ["id"])).lookupKey ⟨[.null, .int32 7]⟩ = [.null] ∧
    (Schema.mk [⟨"name", .string⟩, ⟨"id", .int⟩] (some ["id"])).key ⟨[.null, .int32 7]⟩ = [.int32 7] := by
  decide

end Schema

/-! ## What databases and tables are created from -/

structure ColumnDefinition where
  name : String
  dataType : Codec.DataType
  comment : Option String

structure PrimaryKeyDefinition where
  constraintName : Option String
  columnNames : List String

/-- What the schema builder has been given. -/
structure SchemaBuilder where
  columns : List ColumnDefinition
  primaryKey : Option PrimaryKeyDefinition

structure DatabaseDescriptor where
  comment : Option String
  customProperties : List (String × String)

structure TableDescriptor where
  schema : SchemaBuilder
  properties : List (String × String)
  partitionKeys : List String
  bucketCount : Option Int32
  bucketKeys : List String
  comment : Option String

inductive OffsetSpec where
  | earliest
  | latest
  | timestamp (ts : Int64)
deriving DecidableEq

structure PartitionInfo where
  partitionId : Int64
  partitionName : String
  partitionSpec : List (String × String)

/-! ## The client's calls -/

/-- `fluss::config::Config`, the fields the gateway sets. -/
structure ClientConfig where
  bootstrapServers : String
  securityProtocol : String
  securitySaslMechanism : String
  securitySaslUsername : String
  securitySaslPassword : String
deriving DecidableEq

structure Connection where
  id : Nat
  config : ClientConfig
deriving DecidableEq

structure FlussTable where
  conn : Connection
  path : TablePath
  info : TableInfo

/-- An error of the client: its code and the text it displays. -/
structure FlussError where
  code : Int
  text : String

structure Batch where
  fields : List (String × Codec.ArrowDataType)
  rows : Codec.RecordBatch fields

structure LookupResult where
  toRecordBatch : Except FlussError Batch

/-- A user name and the digest of the credentials. -/
abbrev CredentialKey := String × List UInt8

inductive Call where
  | cacheGet (key : CredentialKey)
  | cacheInsert (key : CredentialKey) (conn : Connection)
  | connect (config : ClientConfig)
  | getTable (conn : Connection) (path : TablePath)
  | newUpsert (table : FlussTable)
  | createUpsertWriter (table : FlussTable)
  | upsert (table : FlussTable) (row : GenericRow)
  | delete (table : FlussTable) (row : GenericRow)
  | flushUpserts (table : FlussTable)
  | newAppend (table : FlussTable)
  | createAppendWriter (table : FlussTable)
  | append (table : FlussTable) (row : GenericRow)
  | flushAppends (table : FlussTable)
  | newLookup (table : FlussTable)
  | createLookuper (table : FlussTable)
  | lookup (table : FlussTable) (row : GenericRow)
  | project (table : FlussTable) (projection : List Nat)
  | createScanner (table : FlussTable)
  | subscribe (table : FlussTable) (bucketId : Nat)
  | poll (table : FlussTable) (timeoutMs : UInt64)
  | getAdmin (conn : Connection)
  | listDatabases (conn : Connection)
  | listTables (conn : Connection) (db : String)
  | createDatabase (conn : Connection) (name : String) (descriptor : DatabaseDescriptor) (ignoreIfExists : Bool)
  | dropDatabase (conn : Connection) (name : String) (ignoreIfNotExists cascade : Bool)
  | buildTable (descriptor : TableDescriptor)
  | createTable (conn : Connection) (path : TablePath) (descriptor : TableDescriptor) (ignoreIfExists : Bool)
  | dropTable (conn : Connection) (path : TablePath) (ignoreIfNotExists : Bool)
  | listOffsets (conn : Connection) (path : TablePath) (buckets : List Int32) (spec : OffsetSpec)
  | listPartitionInfos (conn : Connection) (path : TablePath)

@[reducible] def Call.Reply : Call → Type
  | .cacheGet _ => Option Connection
  | .cacheInsert _ _ => Unit
  | .connect _ => Except FlussError Nat
  | .getTable _ _ => Except FlussError TableInfo
  | .lookup _ _ => Except FlussError LookupResult
  | .poll _ _ => Except FlussError (List Batch)
  | .listDatabases _ => Except FlussError (List String)
  | .listTables _ _ => Except FlussError (List String)
  | .listOffsets _ _ _ _ => Except FlussError (List (Int32 × Int64))
  | .listPartitionInfos _ _ => Except FlussError (List PartitionInfo)
  | _ => Except FlussError Unit

/-- Gateway code: it calls the client, returns errors or panics. -/
abbrev Gateway (α : Type) := Program Call Call.Reply GatewayError α

abbrev Service (σ : Type) := Program.Handler Call Call.Reply σ

def flussErr (e : FlussError) : GatewayError := .flussError e.text

/-- `map_err(fluss_err)?` on a reply. -/
def orFlussErr {α : Type} (reply : Except FlussError α) : Gateway α :=
  Program.lift (Outcome.ofExcept flussErr reply)

@[simp] theorem run_orFlussErr {α σ : Type} (h : Service σ) (reply : Except FlussError α) (s : σ) :
    (orFlussErr reply).run h s = (Outcome.ofExcept flussErr reply, s) := rfl

@[simp] theorem calls_orFlussErr {α σ : Type} (h : Service σ) (reply : Except FlussError α) (s : σ) :
    (orFlussErr reply).calls h s = [] := rfl

theorem orFlussErr_always {α : Type} {P : Call → Prop} (reply : Except FlussError α) :
    (orFlussErr reply).Always P := by
  cases reply <;> trivial

def cacheGet (key : CredentialKey) : Gateway (Option Connection) := Program.perform (Call.cacheGet key)
def cacheInsert (key : CredentialKey) (conn : Connection) : Gateway Unit :=
  Program.perform (Call.cacheInsert key conn)
def connect (config : ClientConfig) : Gateway (Except FlussError Nat) := Program.perform (Call.connect config)

def Connection.getTable (conn : Connection) (path : TablePath) : Gateway FlussTable := do
  -- The handle keeps the metadata it was read with.
  let info ← .call (.getTable conn path) orFlussErr
  pure ⟨conn, path, info⟩

namespace Connection

variable (conn : Connection)

def getAdmin : Gateway Unit := .call (.getAdmin conn) orFlussErr
def listDatabases : Gateway (List String) := .call (.listDatabases conn) orFlussErr
def listTables (db : String) : Gateway (List String) := .call (.listTables conn db) orFlussErr
def createDatabase (name : String) (descriptor : DatabaseDescriptor) (ignoreIfExists : Bool) : Gateway Unit :=
  .call (.createDatabase conn name descriptor ignoreIfExists) orFlussErr
def dropDatabase (name : String) (ignoreIfNotExists cascade : Bool) : Gateway Unit :=
  .call (.dropDatabase conn name ignoreIfNotExists cascade) orFlussErr
def createTable (path : TablePath) (descriptor : TableDescriptor) (ignoreIfExists : Bool) : Gateway Unit :=
  .call (.createTable conn path descriptor ignoreIfExists) orFlussErr
def dropTable (path : TablePath) (ignoreIfNotExists : Bool) : Gateway Unit :=
  .call (.dropTable conn path ignoreIfNotExists) orFlussErr
def listOffsets (path : TablePath) (buckets : List Int32) (spec : OffsetSpec) : Gateway (List (Int32 × Int64)) :=
  .call (.listOffsets conn path buckets spec) orFlussErr

end Connection

def TableDescriptor.build (descriptor : TableDescriptor) : Gateway Unit := .call (.buildTable descriptor) orFlussErr

namespace FlussTable

variable (t : FlussTable) (row : GenericRow)

def newUpsert : Gateway Unit := .call (.newUpsert t) orFlussErr
def createUpsertWriter : Gateway Unit := .call (.createUpsertWriter t) orFlussErr
def upsert : Gateway Unit := .call (.upsert t row) orFlussErr
def delete : Gateway Unit := .call (.delete t row) orFlussErr
def flushUpserts : Gateway Unit := .call (.flushUpserts t) orFlussErr
def newAppend : Gateway Unit := .call (.newAppend t) orFlussErr
def createAppendWriter : Gateway Unit := .call (.createAppendWriter t) orFlussErr
def append : Gateway Unit := .call (.append t row) orFlussErr
def flushAppends : Gateway Unit := .call (.flushAppends t) orFlussErr
def newLookup : Gateway Unit := .call (.newLookup t) orFlussErr
def createLookuper : Gateway Unit := .call (.createLookuper t) orFlussErr
def lookup : Gateway LookupResult := .call (.lookup t row) orFlussErr
def project (projection : List Nat) : Gateway Unit := .call (.project t projection) orFlussErr
def createScanner : Gateway Unit := .call (.createScanner t) orFlussErr
def subscribe (bucketId : Nat) : Gateway Unit := .call (.subscribe t bucketId) orFlussErr
def poll (timeoutMs : UInt64) : Gateway (List Batch) := .call (.poll t timeoutMs) orFlussErr

end FlussTable

/-! ## Calls that write -/

/-- Writes, deletions, flushes and changes of the catalog; every other call leaves the rows of tables alone. -/
def Call.writes : Call → Bool
  | .upsert _ _ | .delete _ _ | .flushUpserts _ | .append _ _ | .flushAppends _ => true
  | .dropDatabase _ _ _ _ | .createTable _ _ _ _ | .dropTable _ _ _ => true
  | _ => false

end FlussGateway.Backend
