import FlussGateway.Backend.FailedWrite
import FlussGateway.Foundation.FailFast

/-!
# What a failing client does to an operation

Every refusal of the client ends the operation at once: it is returned as the gateway's error, and
when a connection is refused it is a panic. Other errors are the operation's own, about its
arguments or the kind of table.
-/
namespace FlussGateway.Backend

open FlussGateway.Foundation

/-- The fault a refusal becomes. -/
def refused {α : Type} : Except FlussError α → Option (Fault GatewayError)
  | .ok _ => none
  | .error e => some (.err (flussErr e))

/-- The fault a call ends an operation with, if its reply is a failure. -/
def failure (coordinator : String) : Exchange → Option (Fault GatewayError)
  | ⟨.cacheGet _, _⟩ | ⟨.cacheInsert _ _, _⟩ | ⟨.connect _, .ok _⟩ => none
  | ⟨.connect _, .error e⟩ =>
    some (.panic ("failed to connect to Fluss coordinator " ++ coordinator ++ ": " ++ e.text))
  | ⟨.getTable _ _, reply⟩ => refused reply
  -- The batch is read out of the reply at once.
  | ⟨.lookup _ _, reply⟩ => refused (reply.bind LookupResult.toRecordBatch)
  | ⟨.poll _ _, reply⟩ => refused reply
  | ⟨.listDatabases _, reply⟩ | ⟨.listTables _ _, reply⟩ => refused reply
  | ⟨.listOffsets _ _ _ _, reply⟩ => refused reply
  -- A table without partitions is no failure.
  | ⟨.listPartitionInfos _ _, .ok _⟩ => none
  | ⟨.listPartitionInfos _ _, .error e⟩ =>
    if FlussBackend.notPartitioned e then none else some (.err (flussErr e))
  | ⟨.newUpsert _, reply⟩ | ⟨.createUpsertWriter _, reply⟩ | ⟨.upsert _ _, reply⟩
  | ⟨.delete _ _, reply⟩ | ⟨.flushUpserts _, reply⟩ | ⟨.newAppend _, reply⟩
  | ⟨.createAppendWriter _, reply⟩ | ⟨.append _ _, reply⟩ | ⟨.flushAppends _, reply⟩
  | ⟨.newLookup _, reply⟩ | ⟨.createLookuper _, reply⟩ | ⟨.project _ _, reply⟩
  | ⟨.createScanner _, reply⟩ | ⟨.subscribe _ _, reply⟩ | ⟨.getAdmin _, reply⟩
  | ⟨.createDatabase _ _ _ _, reply⟩ | ⟨.dropDatabase _ _ _ _, reply⟩ | ⟨.buildTable _, reply⟩
  | ⟨.createTable _ _ _ _, reply⟩ | ⟨.dropTable _ _ _, reply⟩ => refused reply

section Steps

variable {coordinator : String}

variable {Own : Fault GatewayError → Prop}

end Steps

/-! ## Operations -/

section Operations

variable (sha256 : Sha256) (formats : Codec.Formats) (debug : Codec.Debug) (backend : FlussBackend)
  (creds : Option Auth.BasicAuthCredentials)

end Operations

end FlussGateway.Backend
