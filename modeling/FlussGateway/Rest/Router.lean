import FlussGateway.Foundation.Percent
import FlussGateway.Foundation.Routing
import FlussGateway.Rest.Handlers

/-!
# The routes

The table of the `/v1` routes, in the order of the source. A route is found by its path first and
its method second. Segments of a path are compared with the table as they stand; what
fills a parameter is decoded afterwards.
-/
namespace FlussGateway.Rest

open FlussGateway.Foundation FlussGateway.Codec
open FlussGateway.Foundation.Routing (Segment Table Template arity)

inductive Method where
  | get
  | head
  | post
  | put
  | delete
  | other (name : String)
deriving DecidableEq

/-- The handler behind a route. -/
inductive Target where
  | listDatabases
  | createDatabase
  | dropDatabase
  | listTables
  | createTable
  | tableInfoPut
  | dropTable
  | tableInfoGet
  | lookup
  | prefixScan
  | batchLookup
  | scan
  | produce
  | listOffsets
  | listPartitions
deriving DecidableEq

structure Route where
  method : Method
  target : Target
deriving DecidableEq

abbrev Bytes := List UInt8

def literal (s : String) : Segment Bytes := .literal (utf8 s)

def routes : Routing.Table Bytes Route := [
  ([literal "v1", literal "_databases"], ⟨.get, .listDatabases⟩),
  ([literal "v1", literal "_databases"], ⟨.post, .createDatabase⟩),
  ([literal "v1", literal "_databases", .param], ⟨.delete, .dropDatabase⟩),
  ([literal "v1", .param, literal "_tables"], ⟨.get, .listTables⟩),
  ([literal "v1", .param, literal "_tables"], ⟨.post, .createTable⟩),
  ([literal "v1", .param, literal "_tables", .param], ⟨.put, .tableInfoPut⟩),
  ([literal "v1", .param, literal "_tables", .param], ⟨.delete, .dropTable⟩),
  ([literal "v1", .param, .param, literal "_info"], ⟨.get, .tableInfoGet⟩),
  ([literal "v1", .param, .param], ⟨.get, .lookup⟩),
  ([literal "v1", .param, .param, literal "prefix"], ⟨.get, .prefixScan⟩),
  ([literal "v1", .param, .param, literal "batch"], ⟨.post, .batchLookup⟩),
  ([literal "v1", .param, .param, literal "scan"], ⟨.post, .scan⟩),
  ([literal "v1", .param, .param, literal "rows"], ⟨.post, .produce⟩),
  ([literal "v1", .param, .param, literal "offsets"], ⟨.post, .listOffsets⟩),
  ([literal "v1", .param, .param, literal "partitions"], ⟨.get, .listPartitions⟩)]

/-! ## Dispatch -/

def slash : UInt8 := 0x2F

def segments (path : Bytes) : Option (List Bytes) :=
  match path.splitOn slash with
  | [] :: rest => some rest
  | _ => none

inductive Dispatched where
  | notFound
  | methodNotAllowed
  | handler (target : Target) (params : List Bytes)
deriving DecidableEq

/-- A route for GET serves HEAD as well. -/
def Method.serves (own asked : Method) : Bool := own == asked || (own == .get && asked == .head)

/-- What the router wants of a parameter at the end of a path. -/
def filled (segment : Bytes) : Bool := !segment.isEmpty

def dispatch (method : Method) (path : Bytes) : Dispatched :=
  match (segments path).bind (routes.search filled) with
  | none => .notFound
  | some (entries, params) =>
    match entries.find? fun route => route.method.serves method with
    | none => .methodNotAllowed
    | some route => .handler route.target params

/-- The texts a handler gets for its parameters. -/
def decodeParams : List Bytes → Option (List String)
  | [] => some []
  | raw :: rest => do
    let text ← String.fromUTF8? ⟨(Percent.decode raw).toArray⟩
    let texts ← decodeParams rest
    return text :: texts

/-! ## Paths made from names -/

def encodeName (name : String) : Bytes := Percent.encode (utf8 name)

/-- A template with names for its parameters. -/
def fill : Template Bytes → List String → List Bytes
  | [], _ => []
  | .literal text :: rest, names => text :: fill rest names
  | .param :: rest, name :: names => encodeName name :: fill rest names
  | .param :: _, [] => []

def render (segments : List Bytes) : Bytes := [slash].intercalate ([] :: segments)

/-- A request with this method and path gets to the handler, with these names. -/
def Reaches (method : Method) (path : Bytes) (target : Target) (names : List String) : Prop :=
  ∃ raw, dispatch method path = .handler target raw ∧ decodeParams raw = some names

def RouteReached (e : Template Bytes × Route) (db table : String) : Prop :=
  Reaches e.2.method (render (fill e.1 [db, table])) e.2.target ([db, table].take (arity e.1))

def Addressable (db table : String) : Prop := ∀ e ∈ routes, RouteReached e db table

/-- The path made from these names belongs to another template. -/
def Shadowed (target : Target) (db table : String) : Prop :=
  match target with
  | .listDatabases | .createDatabase | .dropDatabase | .tableInfoPut | .dropTable => False
  | .listTables | .createTable => db = "_databases"
  | .lookup => db = "_databases" ∨ table = "_tables"
  | .tableInfoGet | .prefixScan | .batchLookup | .scan | .produce | .listOffsets | .listPartitions => table = "_tables"

/-! ## Names in paths -/

@[simp] theorem utf8_inj {s s' : String} : utf8 s = utf8 s' ↔ s = s' := by
  constructor
  · intro same
    exact String.toByteArray_inj.mp (ByteArray.ext (Array.toList_inj.mp same))
  · rintro rfl
    rfl

theorem decode_encodeName (name : String) :
    String.fromUTF8? ⟨(Percent.decode (encodeName name)).toArray⟩ = some name := by
  rw [encodeName, Percent.decode_encode]
  exact dif_pos name.isValidUTF8

theorem encodeName_eq_iff {literal : String} (plain : (utf8 literal).all Percent.unreserved = true)
    (name : String) :
    utf8 literal = encodeName name ↔ name = literal := by
  rw [← Percent.encode_unreserved plain]
  constructor
  · intro same
    exact (utf8_inj.mp (Percent.encode_injective same)).symm
  · rintro rfl
    rfl

theorem slash_not_mem_encodeName (name : String) : slash ∉ encodeName name := by
  intro member
  rcases Percent.unreserved_of_mem_encode member with plain | same
  · cases plain
  · cases same

theorem filled_encodeName {name : String} (named : name ≠ "") :
    filled (encodeName name) = true := by
  have bytes : utf8 name ≠ utf8 "" := mt utf8_inj.mp named
  simpa [filled, encodeName] using Percent.encode_ne_nil bytes

theorem segments_render {segs : List Bytes} (whole : ∀ seg ∈ segs, slash ∉ seg) :
    segments (render segs) = some segs := by
  have split : (render segs).splitOn slash = [] :: segs := by
    refine List.splitOn_intercalate slash (fun l member => ?_) (by simp)
    rcases List.mem_cons.mp member with rfl | member
    · exact List.not_mem_nil
    · exact whole l member
  rw [segments, split]

theorem decodeParams_encodeName (names : List String) :
    decodeParams (names.map encodeName) = some names := by
  induction names with
  | nil => rfl
  | cons name names ih => simp [decodeParams, decode_encodeName, ih]

/-! ## The search, by the shape of the path -/

section Search

open Routing.Table

/-- What is left of the routes below `/v1`. -/
def belowVersion : Table Bytes Route := routes.literals (utf8 "v1")

/-- The operations of a table. -/
def operations : List (String × Route) := [
  ("_info", ⟨.get, .tableInfoGet⟩),
  ("prefix", ⟨.get, .prefixScan⟩),
  ("batch", ⟨.post, .batchLookup⟩),
  ("scan", ⟨.post, .scan⟩),
  ("rows", ⟨.post, .produce⟩),
  ("offsets", ⟨.post, .listOffsets⟩),
  ("partitions", ⟨.get, .listPartitions⟩)]

variable {x y z : Bytes}

theorem below_databases : belowVersion.literals (utf8 "_databases") =
    [([], ⟨.get, .listDatabases⟩), ([], ⟨.post, .createDatabase⟩),
      ([.param], ⟨.delete, .dropDatabase⟩)] := by
  simp [belowVersion, routes, literal]

theorem below_tables : belowVersion.params.literals (utf8 "_tables") =
    [([], ⟨.get, .listTables⟩), ([], ⟨.post, .createTable⟩), ([.param], ⟨.put, .tableInfoPut⟩),
     ([.param], ⟨.delete, .dropTable⟩)] := by
  simp [belowVersion, routes, literal]

/-- `_databases` and `_tables` are the only literals at their places. -/
theorem below_other (other : utf8 "_databases" ≠ x) : belowVersion.literals x = [] := by
  simp [belowVersion, routes, literal, other]

theorem below_database_other (other : utf8 "_tables" ≠ y) :
    belowVersion.params.literals y = [] := by
  simp [belowVersion, routes, literal, other]

theorem below_table : belowVersion.params.params =
    ([literal "_info"], ⟨.get, .tableInfoGet⟩) ::
      ([], ⟨.get, .lookup⟩) :: operations.tail.map fun op => ([literal op.1], op.2) := by
  simp [belowVersion, routes, literal, operations]

theorem search_databases : routes.search filled [utf8 "v1", utf8 "_databases"] =
    some ([⟨.get, .listDatabases⟩, ⟨.post, .createDatabase⟩], []) := by
  refine search_of_literals (search_of_literals ?_)
  rw [← belowVersion, below_databases]
  rfl

theorem search_database (hy : filled y = true) :
    routes.search filled [utf8 "v1", utf8 "_databases", y] =
    some ([⟨.delete, .dropDatabase⟩], [y]) := by
  refine search_of_literals (search_of_literals ?_)
  rw [← belowVersion, below_databases, search_of_params rfl (Routing.takes_last.trans hy)]
  rfl

/-- Any other first name is a database. -/
theorem search_other (other : utf8 "_databases" ≠ x) (xs : List Bytes) :
    belowVersion.search filled (x :: y :: xs) =
      (belowVersion.params.search filled (y :: xs)).map fun found => (found.1, x :: found.2) := by
  refine search_of_params ?_ Routing.takes_followed
  rw [below_other other, search_empty]

/-- So is `_databases` itself, in a path too long for its template. -/
theorem search_long : belowVersion.search filled [x, y, z] =
    (belowVersion.params.search filled [y, z]).map fun found => (found.1, x :: found.2) := by
  by_cases database : utf8 "_databases" = x
  · -- The literal branch ends one segment too early, so the search comes back.
    subst database
    refine search_of_params ?_ Routing.takes_followed
    rw [below_databases]
    simp [search]
  · exact search_other database _

theorem search_table (other : utf8 "_tables" ≠ y) (xs : List Bytes)
    (taken : Routing.takes filled y xs = true) :
    belowVersion.params.search filled (y :: xs) =
      (belowVersion.params.params.search filled xs).map fun found => (found.1, y :: found.2) := by
  refine search_of_params ?_ taken
  rw [below_database_other other, search_empty]

theorem search_operation {op : String × Route} (member : op ∈ operations) :
    belowVersion.params.params.search filled [utf8 op.1] = some ([op.2], []) := by
  refine search_of_literals ?_
  rw [below_table]
  simp only [operations, List.mem_cons, List.not_mem_nil, or_false] at member
  rcases member with rfl | rfl | rfl | rfl | rfl | rfl | rfl <;>
    simp [operations, literal, search]

end Search

/-! ## Reaching a handler -/

/-- What a search has found decides who is reached. -/
theorem reaches_iff {method : Method} {segs : List Bytes} {entries : List Route}
    {names : List String} (whole : ∀ seg ∈ segs, slash ∉ seg)
    (found : routes.search filled segs = some (entries, names.map encodeName))
    (target : Target) (names' : List String) :
    Reaches method (render segs) target names' ↔
      (∃ route, entries.find? (fun route => route.method.serves method) = some route ∧
        route.target = target) ∧
      names' = names := by
  unfold Reaches dispatch
  -- The path splits back into its segments, so the search is the one that has been done.
  rw [segments_render whole, Option.bind_some, found]
  cases here : entries.find? fun route => route.method.serves method with
  | none => simp [here]
  | some route =>
    simp only [here, Dispatched.handler.injEq]
    constructor
    · rintro ⟨raw, ⟨rfl, rfl⟩, read⟩
      rw [decodeParams_encodeName, Option.some.injEq] at read
      exact ⟨⟨route, rfl, rfl⟩, read.symm⟩
    · rintro ⟨⟨_, same, rfl⟩, rfl⟩
      cases same
      exact ⟨_, ⟨rfl, rfl⟩, decodeParams_encodeName _⟩

/-- No segment of a filled template contains a slash. -/
theorem fill_whole {template : Template Bytes}
    (plain : ∀ text, Segment.literal text ∈ template → slash ∉ text)
    (names : List String) : ∀ seg ∈ fill template names, slash ∉ seg := by
  induction template generalizing names with
  | nil => nofun
  | cons s rest ih =>
    have later : ∀ text, Segment.literal text ∈ rest → slash ∉ text := fun text member =>
      plain text (List.mem_cons_of_mem _ member)
    intro seg member
    cases s with
    -- A literal stands as it is; a name is encoded, and no encoding has a slash in it.
    | literal text =>
      rcases List.mem_cons.mp member with rfl | member
      · exact plain seg (List.mem_cons_self ..)
      · exact ih later names seg member
    | param =>
      cases names with
      | nil => cases member
      | cons name names =>
        rcases List.mem_cons.mp member with rfl | member
        · exact slash_not_mem_encodeName name
        · exact ih later names seg member

theorem routes_plain : ∀ e ∈ routes, ∀ text, Segment.literal text ∈ e.1 → slash ∉ text := by
  have each : ∀ e ∈ routes, ∀ s ∈ e.1,
    (match s with | .literal text => !text.contains slash | .param => true) = true := by
    decide
  intro e member text inside
  simpa using each e member _ inside

theorem databases_iff (name : String) : utf8 "_databases" = encodeName name ↔ name = "_databases" :=
  encodeName_eq_iff (by decide) name

theorem tables_iff (name : String) : utf8 "_tables" = encodeName name ↔ name = "_tables" :=
  encodeName_eq_iff (by decide) name

section Names

variable {db table : String}

variable (db) in
theorem found_tables :
    routes.search filled [utf8 "v1", encodeName db, utf8 "_tables"] =
    if db = "_databases" then some ([⟨.delete, .dropDatabase⟩], ["_tables"].map encodeName)
    else some ([⟨.get, .listTables⟩, ⟨.post, .createTable⟩], [db].map encodeName) := by
  have tables : belowVersion.params.search filled [utf8 "_tables"] =
    some ([⟨.get, .listTables⟩, ⟨.post, .createTable⟩], []) := by
    refine Table.search_of_literals ?_
    rw [below_tables]
    rfl
  split
  next same =>
    -- `_databases` leads to its own branch, and there `_tables` is the name of a database.
    rw [← (databases_iff db).mpr same, (tables_iff "_tables").mpr rfl]
    exact search_database rfl
  next other =>
    refine Table.search_of_literals ?_
    rw [← belowVersion, search_other (mt (databases_iff db).mp other), tables]
    rfl

variable (db) in
theorem found_table (name : String) (full : name ≠ "") :
    routes.search filled [utf8 "v1", encodeName db, utf8 "_tables", encodeName name] =
      some ([⟨.put, .tableInfoPut⟩, ⟨.delete, .dropTable⟩], [db, name].map encodeName) := by
  have tables : belowVersion.params.search filled [utf8 "_tables", encodeName name] =
      some ([⟨.put, .tableInfoPut⟩, ⟨.delete, .dropTable⟩], [encodeName name]) := by
    refine Table.search_of_literals ?_
    rw [below_tables, Table.search_of_params rfl (Routing.takes_last.trans (filled_encodeName full))]
    rfl
  refine Table.search_of_literals ?_
  rw [← belowVersion, search_long, tables]
  rfl

theorem found_lookup (other : db ≠ "_databases") (full : table ≠ "")
    (plain : table ≠ "_tables") :
    routes.search filled [utf8 "v1", encodeName db, encodeName table] =
      some ([⟨.get, .lookup⟩], [db, table].map encodeName) := by
  refine Table.search_of_literals ?_
  rw [← belowVersion, search_other (mt (databases_iff db).mp other),
    search_table (mt (tables_iff table).mp plain) [] (Routing.takes_last.trans (filled_encodeName full)),
    below_table]
  rfl

theorem found_operation (plain : table ≠ "_tables") {op : String × Route}
    (member : op ∈ operations) :
    routes.search filled [utf8 "v1", encodeName db, encodeName table, utf8 op.1] =
      some ([op.2], [db, table].map encodeName) := by
  refine Table.search_of_literals ?_
  rw [← belowVersion, search_long,
    search_table (mt (tables_iff table).mp plain) _ Routing.takes_followed, search_operation member]
  rfl

/-! ## Which names are addressable -/

theorem routeReached_iff {e : Template Bytes × Route} (member : e ∈ routes) (names : List String)
    {entries : List Route}
    (found : routes.search filled (fill e.1 [db, table]) = some (entries, names.map encodeName)) :
    RouteReached e db table ↔
      (∃ route, entries.find? (fun route => route.method.serves e.2.method) = some route ∧
        route.target = e.2.target) ∧
      [db, table].take (arity e.1) = names :=
  reaches_iff (fill_whole (routes_plain e member) _) found _ _

theorem tables_reached_iff {route : Route}
    (own : route = ⟨.get, .listTables⟩ ∨ route = ⟨.post, .createTable⟩)
    (member : ([literal "v1", .param, literal "_tables"], route) ∈ routes) :
    RouteReached ([literal "v1", .param, literal "_tables"], route) db table ↔
    db ≠ "_databases" := by
  have found := found_tables db
  split at found
  next database =>
    rw [routeReached_iff member _ found]
    rcases own with rfl | rfl <;> simp [Method.serves, database]
  next other =>
    rw [routeReached_iff member _ found]
    rcases own with rfl | rfl <;> simp [Method.serves, arity, literal, other]

theorem table_reached (full : table ≠ "") {route : Route}
    (own : route = ⟨.put, .tableInfoPut⟩ ∨ route = ⟨.delete, .dropTable⟩)
    (member : ([literal "v1", .param, literal "_tables", .param], route) ∈ routes) :
    RouteReached ([literal "v1", .param, literal "_tables", .param], route) db table := by
  rw [routeReached_iff member _ (found_table db table full)]
  rcases own with rfl | rfl <;> simp [Method.serves, arity, literal]

theorem lookup_reached_iff (full : table ≠ "") {e : Template Bytes × Route}
    (member : e ∈ routes) (own : e = ([literal "v1", .param, .param], ⟨.get, .lookup⟩)) :
    RouteReached e db table ↔ ¬(db = "_databases" ∨ table = "_tables") := by
  subst own
  by_cases database : db = "_databases"
  · subst database
    have found := search_database (filled_encodeName full)
    rw [(databases_iff _).mpr rfl] at found
    rw [routeReached_iff member [table] found]
    simp [Method.serves]
  · by_cases tables : table = "_tables"
    · subst tables
      have found := found_tables db
      rw [if_neg database, (tables_iff _).mpr rfl] at found
      rw [routeReached_iff member _ found]
      simp [Method.serves]
    · rw [routeReached_iff member _ (found_lookup database full tables)]
      simp [Method.serves, arity, literal, database, tables]

theorem operation_reached_iff (op : String × Route)
    (own : op ∈ operations)
    (member : ([literal "v1", .param, .param, literal op.1], op.2) ∈ routes) :
    RouteReached ([literal "v1", .param, .param, literal op.1], op.2) db table ↔
    table ≠ "_tables" := by
  by_cases tables : table = "_tables"
  · subst tables
    -- The operation's own segment is taken for the name of a table.
    have plain : op.1 ≠ "" ∧ utf8 op.1 = encodeName op.1 ∧ op.2.target ≠ .tableInfoPut ∧
      op.2.target ≠ .dropTable := by
      revert op
      decide
    have found := found_table db op.1 plain.1
    rw [← plain.2.1, (tables_iff "_tables").mpr rfl] at found
    rw [routeReached_iff member _ found]
    refine iff_of_false ?_ (by simp)
    rintro ⟨⟨route, here, same⟩, _⟩
    have inside := List.mem_of_find?_eq_some here
    simp only [List.mem_cons, List.not_mem_nil, or_false] at inside
    rcases inside with rfl | rfl
    · exact plain.2.2.1 same.symm
    · exact plain.2.2.2 same.symm
  · rw [routeReached_iff member _ (found_operation tables own)]
    simp [Method.serves, arity, literal, tables]

/-- For every route of the table: its template, filled in with any two names, leads to its own
handler with these names unless the path belongs to another template. -/
theorem routeReached_iff_not_shadowed (named : db ≠ "") (full : table ≠ "")
    {e : Template Bytes × Route}
    (member : e ∈ routes) : RouteReached e db table ↔ ¬Shadowed e.2.target db table := by
  have own := member
  simp only [routes, List.mem_cons, List.not_mem_nil, or_false] at own
  rcases own with rfl | rfl | rfl | rfl | rfl | rfl | rfl | rfl | own | rfl | rfl | rfl | rfl | rfl | rfl
  -- One bullet for each route, in the order they are registered.
  · rw [routeReached_iff member [] search_databases]
    simp [Shadowed, Method.serves, arity, literal]
  · rw [routeReached_iff member [] search_databases]
    simp [Shadowed, Method.serves, arity, literal]
  · rw [routeReached_iff member [db] (search_database (filled_encodeName named))]
    simp [Shadowed, Method.serves, arity, literal]
  · exact tables_reached_iff (.inl rfl) member
  · exact tables_reached_iff (.inr rfl) member
  · exact iff_of_true (table_reached full (.inl rfl) member) id
  · exact iff_of_true (table_reached full (.inr rfl) member) id
  · exact operation_reached_iff ("_info", ⟨.get, .tableInfoGet⟩)
      (by simp [operations]) member
  -- The only template that others can take paths from.
  · have reached : RouteReached e db table ↔ _ := lookup_reached_iff full member own
    subst own
    exact reached
  · exact operation_reached_iff ("prefix", ⟨.get, .prefixScan⟩)
      (by simp [operations]) member
  · exact operation_reached_iff ("batch", ⟨.post, .batchLookup⟩)
      (by simp [operations]) member
  · exact operation_reached_iff ("scan", ⟨.post, .scan⟩) (by simp [operations]) member
  · exact operation_reached_iff ("rows", ⟨.post, .produce⟩) (by simp [operations]) member
  · exact operation_reached_iff ("offsets", ⟨.post, .listOffsets⟩)
      (by simp [operations]) member
  · exact operation_reached_iff ("partitions", ⟨.get, .listPartitions⟩)
      (by simp [operations]) member

end Names

/-! ## Names that can be created -/

/-- The handlers that create databases and tables pass the names on to the backend. -/
structure Creatable (db table : String) : Prop where
  database : ∀ creds comment properties ignore,
    Handler.createDatabase .passthrough (some creds) ⟨db, comment, properties, ignore⟩ =
      ask (some creds) (.createDatabase db comment properties ignore)
  table : ∀ library creds req descriptor, req.tableName = table →
    tableDescriptor library req = .ok descriptor →
    Handler.createTable library .passthrough (some creds) db req =
      ask (some creds) (.createTable db table descriptor req.ignoreIfExists)

/-- Any names but empty ones. -/
theorem creatable {db table : String} (named : db ≠ "") (full : table ≠ "") :
    Creatable db table where
  database creds comment properties ignore := if_neg named
  table library creds req descriptor same described := by
    subst same
    refine (if_neg full).trans ?_
    rw [described]
    rfl

/-- Every table is addressable through every route exactly when the database is not called
`_databases` and the table is not called `_tables`. -/
theorem addressable_iff {db table : String} (named : db ≠ "") (full : table ≠ "") :
    (∀ e ∈ routes, RouteReached e db table ↔ ¬Shadowed e.2.target db table) ∧
    (Addressable db table ↔ db ≠ "_databases" ∧ table ≠ "_tables") := by
  refine ⟨fun e member => routeReached_iff_not_shadowed named full member, fun all => ?_, ?_⟩
  · have member : ([literal "v1", .param, .param], ⟨.get, .lookup⟩) ∈ routes := by simp [routes]
    have lookup := (routeReached_iff_not_shadowed named full member).mp (all _ member)
    simpa [Shadowed] using lookup
  · rintro ⟨database, tables⟩ e member
    rw [routeReached_iff_not_shadowed named full member]
    unfold Shadowed
    split <;> simp [database, tables]

theorem addressable_iff_orders :
    (∀ e ∈ routes, RouteReached e "shop" "orders" ↔ ¬Shadowed e.2.target "shop" "orders") ∧
    (Addressable "shop" "orders" ↔ "shop" ≠ "_databases" ∧ "orders" ≠ "_tables") :=
  addressable_iff (by decide) (by decide)

/-- Both names can be created, and their lookups never get there: `GET /v1/shop/_tables` lists the
tables of the database, `GET /v1/_databases/orders` is a method that a database does not have. -/
theorem reserved_names_shadowed :
    (Creatable "shop" "_tables" ∧ Reaches .get (render [utf8 "v1", utf8 "shop", utf8 "_tables"]) .listTables ["shop"] ∧
      ¬Addressable "shop" "_tables") ∧
    Creatable "_databases" "orders" ∧ ¬Addressable "_databases" "orders" ∧
      dispatch .get (render [utf8 "v1", utf8 "_databases", utf8 "orders"]) = .methodNotAllowed := by
  refine ⟨⟨creatable (by decide) (by decide), ?_, ?_⟩, creatable (by decide) (by decide), ?_, ?_⟩
  · exact ⟨[utf8 "shop"], by decide, by decide⟩
  · exact fun all => ((addressable_iff (by decide) (by decide)).2.mp all).2 rfl
  · exact fun all => ((addressable_iff (by decide) (by decide)).2.mp all).1 rfl
  · decide

end FlussGateway.Rest
