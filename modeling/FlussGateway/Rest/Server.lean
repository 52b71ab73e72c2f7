import FlussGateway.Rest.Router

/-!
# Serving a request

What stands between a request and its handler: the route, the two middlewares and the handler's
extractors, in that order. What they refuse they answer themselves; everything else becomes
one invocation.
-/
namespace FlussGateway.Rest

open FlussGateway.Foundation FlussGateway.Codec

/-- A request, its header names in lower case. -/
structure Request where
  method : Method
  path : Bytes
  query : Option Bytes
  headers : List (String × Bytes)
  body : Bytes

/-- The first value of a header. -/
def Request.header (req : Request) (name : String) : Option Bytes := req.headers.lookup name

/-- Why a request does not get to its handler. -/
inductive Refusal where
  | notFound
  | methodNotAllowed
  | bodyLimit (limit : Nat)
  | lengthLimit (response : Response)
  | rejected (response : Response)

def Refusal.response : Refusal → Response
  | .notFound => .ofStatus 404
  | .methodNotAllowed => .ofStatus 405
  | .bodyLimit limit =>
    let response := Response.ofError (.bodyLimitTooLarge limit)
    { response with headers := response.headers ++ [("x-gateway-max-body-size", toString limit)] }
  | .lengthLimit response => response
  | .rejected response => response

/-! ## The body limit -/

/-- `str::parse::<usize>`; an unsigned number has no minus sign. -/
def parseUsize (s : String) : Except Decimal.IntError Nat :=
  match s.toList with
  | '-' :: _ => .error .invalidDigit
  | text => (Decimal.parseInt 0 (2 ^ 64 - 1) text).map Int.toNat

def bodyLimitMiddleware (maxBodySize : Nat) (req : Request) : Except Refusal Unit :=
  if req.method = .post ∨ req.method = .put then
    match (req.header "content-length").bind Auth.headerText with
    | none => .ok ()
    | some len =>
      match parseUsize len with
      | .error _ => .ok ()
      | .ok size => if maxBodySize < size then .error (.bodyLimit maxBodySize) else .ok ()
  else .ok ()

/-! ## Extractors -/

/-- axum's and serde's part: the readers of queries and bodies, and the responses to what they
refuse. -/
structure Extractors where
  query : Option Bytes → Except Response (List (String × String))
  invalidPath : Response
  wrongNumberOfParameters : Response
  isJson : Option Bytes → Bool
  unsupportedMediaType : Response
  lengthLimit : Response
  createDatabase : Bytes → Except Response CreateDatabaseRequest
  dropDatabase : Bytes → Except Response DropDatabaseRequest
  createTable : Bytes → Except Response CreateTableRequest
  dropTable : Bytes → Except Response DropTableRequest
  batchLookup : Bytes → Except Response BatchLookupRequest
  scan : Bytes → Except Response ScanParams
  produce : Bytes → Except Response ProduceRequest
  listOffsets : Bytes → Except Response ListOffsetsRequest

/-- axum's limit for a body that an extractor reads whole. -/
def defaultBodyLimit : Nat := 2097152

namespace Extractors

variable (ax : Extractors) (req : Request)

/-- `Path<String>`. -/
def path1 (raw : List Bytes) : Except Refusal String :=
  match decodeParams raw with
  | some [name] => .ok name
  | some _ => .error (.rejected ax.wrongNumberOfParameters)
  | none => .error (.rejected ax.invalidPath)

/-- `Path<(String, String)>`. -/
def path2 (raw : List Bytes) : Except Refusal (String × String) :=
  match decodeParams raw with
  | some [name, name'] => .ok (name, name')
  | some _ => .error (.rejected ax.wrongNumberOfParameters)
  | none => .error (.rejected ax.invalidPath)

def readQuery : Except Refusal (List (String × String)) := (ax.query req.query).mapError .rejected

/-- `Json<T>`: the content type first, then the body up to the limit, then the value. -/
def readJson {T : Type} (decode : Bytes → Except Response T) : Except Refusal T :=
  if !ax.isJson (req.header "content-type") then .error (.rejected ax.unsupportedMediaType)
  else if defaultBodyLimit < req.body.length then .error (.lengthLimit ax.lengthLimit)
  else (decode req.body).mapError .rejected

/-- The arguments of a handler, read in the order of its parameters. -/
def extract (raw : List Bytes) : Target → Except Refusal Invocation
  | .listDatabases => return .listDatabases
  | .createDatabase => return .createDatabase (← ax.readJson req ax.createDatabase)
  | .dropDatabase => return .dropDatabase (← ax.path1 raw) (← ax.readJson req ax.dropDatabase)
  | .listTables => return .listTables (← ax.path1 raw)
  | .createTable => return .createTable (← ax.path1 raw) (← ax.readJson req ax.createTable)
  | .tableInfoPut => do
    let (db, table) ← ax.path2 raw
    return .tableInfoPut db table
  | .dropTable => do
    let (db, table) ← ax.path2 raw
    return .dropTable db table (← ax.readJson req ax.dropTable)
  | .tableInfoGet => do
    let (db, table) ← ax.path2 raw
    return .tableInfoGet db table
  | .lookup => do
    let (db, table) ← ax.path2 raw
    return .lookup db table (← ax.readQuery req)
  | .prefixScan => do
    let _ ← ax.path2 raw
    let _ ← ax.readQuery req
    return .prefixScan
  | .batchLookup => do
    let (db, table) ← ax.path2 raw
    return .batchLookup db table (← ax.readJson req ax.batchLookup)
  | .scan => do
    let (db, table) ← ax.path2 raw
    return .scan db table (← ax.readJson req ax.scan)
  | .produce => do
    let (db, table) ← ax.path2 raw
    return .produce db table (← ax.readJson req ax.produce)
  | .listOffsets => do
    let (db, table) ← ax.path2 raw
    return .listOffsets db table (← ax.readJson req ax.listOffsets)
  | .listPartitions => do
    let (db, table) ← ax.path2 raw
    return .listPartitions db table

end Extractors

/-! ## The server -/

structure Server where
  authType : Config.AuthType
  maxBodySize : Nat
  base64 : Auth.Base64
  extractors : Extractors
  library : Library

namespace Server

variable (server : Server)

/-- The invocation a request leads to, or the reason why it leads to none. -/
def receive (req : Request) : Except Refusal Invocation :=
  match dispatch req.method req.path with
  | .notFound => .error .notFound
  -- The middlewares wrap every route, also for the methods it does not have.
  | .methodNotAllowed => do
    bodyLimitMiddleware server.maxBodySize req
    .error .methodNotAllowed
  | .handler target raw => do
    bodyLimitMiddleware server.maxBodySize req
    server.extractors.extract req raw target

/-- The response to HEAD has no body. -/
def finish (method : Method) (response : Response) : Response :=
  if method = .head then { response with body := .empty } else response

def serve (req : Request) : Endpoint Response := do
  let ext ← Program.lift (Auth.authMiddleware server.base64 (req.header "authorization"))
  match server.receive req with
  | .error refusal => pure (finish req.method refusal.response)
  | .ok invocation => do
    let response ← invocation.answer server.library server.authType ext
    pure (finish req.method response)

end Server

end FlussGateway.Rest
