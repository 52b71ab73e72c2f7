import FlussGateway.Codec.Value

/-!
# Requests, results and errors of the gateway
-/
namespace FlussGateway

/-! ## Errors -/

inductive GatewayError where
  | flussError (msg : String)
  | badRequest (msg : String)
  | invalidOperation (msg : String)
  | internal (msg : String)
  | unauthorized (msg : String)
  | bodyLimitTooLarge (limit : Nat)
deriving DecidableEq

namespace GatewayError

def statusCode : GatewayError → Nat
  | .badRequest _ => 400
  | .invalidOperation _ => 422
  | .flussError _ => 500
  | .internal _ => 500
  | .unauthorized _ => 401
  | .bodyLimitTooLarge _ => 413

def errorCode : GatewayError → Nat
  | .badRequest _ => 40001
  | .invalidOperation _ => 42205
  | .flussError _ => 50001
  | .internal _ => 50001
  | .unauthorized _ => 40101
  | .bodyLimitTooLarge _ => 41301

/-- The text `Display` writes. -/
def text : GatewayError → String
  | .flussError msg => "fluss error: " ++ msg
  | .badRequest msg => "bad request: " ++ msg
  | .invalidOperation msg => "invalid operation: " ++ msg
  | .internal msg => "internal error: " ++ msg
  | .unauthorized msg => "unauthorized: " ++ msg
  | .bodyLimitTooLarge limit =>
    "payload too large: request body exceeds the " ++ toString limit ++ " byte limit"

/-- The first three digits of an error's code are its status. -/
theorem status_of_errorCode (e : GatewayError) : e.errorCode / 100 = e.statusCode := by
  cases e <;> simp [errorCode, statusCode]

end GatewayError

/-! ## Requests and results -/

/-- The query parameters of a lookup, one value for each name. -/
structure LookupParams where
  params : List (String × String)

def LookupParams.get (p : LookupParams) (col : String) : Option String := p.params.lookup col

structure ScanParams where
  projection : Option (List Nat)
  limit : Option Nat
  timeoutMs : Option UInt64

structure ProduceRow where
  values : List Codec.Value
  changeType : Option String

structure ProduceRequest where
  rows : List ProduceRow

structure WriteResult where
  rowCount : Nat
deriving DecidableEq

structure BatchLookupRequest where
  keys : List (List (String × String))

structure ListOffsetsRequest where
  buckets : Option (List Int32)
  spec : Option String
  timestamp : Option Int64

/-! ## Bodies of the metadata requests -/

structure CreateDatabaseRequest where
  databaseName : String
  comment : Option String
  customProperties : List (String × String)
  ignoreIfExists : Bool

structure DropDatabaseRequest where
  ignoreIfNotExists : Bool
  cascade : Bool

structure ColumnSpec where
  name : String
  dataType : String
  comment : Option String

structure PrimaryKeySpec where
  constraintName : Option String
  columnNames : List String

structure CreateTableRequest where
  tableName : String
  schema : List ColumnSpec
  primaryKey : Option PrimaryKeySpec
  partitionKeys : Option (List String)
  bucketCount : Option Int32
  bucketKeys : Option (List String)
  properties : Option (List (String × String))
  comment : Option String
  ignoreIfExists : Bool

structure DropTableRequest where
  ignoreIfNotExists : Bool

end FlussGateway
