import FlussGateway.Backend.FailedWrite

/-!
# The key of a lookup

The key loop goes through the key columns in the order of the key, and places each datum at the
column's position in the schema. Column names are distinct, so finding a column and finding its
position agree.
-/
namespace FlussGateway.Backend

open FlussGateway.Foundation

/-! ## Keys that the request gives -/

/-- The column's parameter converts to the datum. -/
def ConvertsTo (params : LookupParams) (column : Column) (d : Codec.Datum) : Prop :=
  ∃ value, params.get column.name = some value ∧
    Codec.jsonToDatum (.string value) column.dataType = .ok d

section Key

variable (schema : Schema) (params : LookupParams)

def HasKey (name : String) : Prop :=
  ∃ column ∈ schema.columns, column.name = name ∧ ∃ d, ConvertsTo params column d

/-- Why a key column stops the lookup, and the text of the answer. -/
inductive KeyFault (formats : Codec.Formats) (name : String) : String → Prop where
  | missing (absent : params.get name = none) :
    KeyFault formats name ("missing pk column: " ++ name)
  | invalid {column : Column} {value : String} {e : Codec.ConvertError}
    (member : column ∈ schema.columns) (named : column.name = name)
    (given : params.get name = some value)
    (fails : Codec.jsonToDatum (.string value) column.dataType = .error e) :
    KeyFault formats name (e.message formats)

/-- The first key column that stops the lookup. -/
def FirstFault (formats : Codec.Formats) (names : List String) (msg : String) : Prop :=
  ∃ front name back, names = front ++ name :: back ∧ (∀ n ∈ front, HasKey schema params n) ∧
    KeyFault schema params formats name msg

/-- One field for each column: a key column's datum at its own position, null elsewhere. -/
structure KeyRow (names : List String) (row : GenericRow) : Prop where
  length : row.fields.length = schema.columns.length
  key : ∀ (j : Nat) (column : Column), schema.columns[j]? = some column → column.name ∈ names →
    ∃ d, ConvertsTo params column d ∧ row.fields[j]? = some d
  other : ∀ (j : Nat) (column : Column), schema.columns[j]? = some column → column.name ∉ names →
    row.fields[j]? = some .null

end Key

/-! ## One key column -/

section Column

variable {schema : Schema} {params : LookupParams}

/-- With distinct names the first column of a name is the only one. -/
theorem position_distinct (distinct : (schema.columns.map (·.name)).Nodup) {j : Nat}
    {column : Column} (found : schema.columns[j]? = some column) :
    schema.position column.name = some j := by
  obtain ⟨inside, here⟩ := List.getElem?_eq_some_iff.mp found
  apply List.findIdx?_eq_some_iff_getElem.mpr
  refine ⟨inside, by simp [here], fun i smaller => ?_⟩
  have different := List.pairwise_iff_getElem.mp distinct i j (by simp; omega) (by simpa) smaller
  simpa [here] using different

theorem keyField_cases (formats : Codec.Formats) {name : String} {j : Nat}
    (placed : schema.position name = some j) :
    (∃ msg, KeyFault schema params formats name msg ∧
      keyField formats schema params name = Outcome.fail (.badRequest msg)) ∨
    (HasKey schema params name ∧ ∃ d, keyField formats schema params name = .ok (j, d)) := by
  obtain ⟨column, here, named, first⟩ := position_spec placed
  have member := List.mem_of_getElem? here
  cases given : params.get name with
  | none =>
    left
    exact ⟨_, .missing given, by simp [keyField, given]⟩
  | some value =>
    cases converted : Codec.jsonToDatum (.string value) column.dataType with
    | error e =>
      left
      refine ⟨_, .invalid member named given converted, ?_⟩
      simp [keyField, given, first, converted, Outcome.fail, bind, Except.bind]
    | ok d =>
      right
      have field : keyField formats schema params name = .ok (j, d) :=
        (keyField_ok_iff placed here j d).mpr ⟨rfl, value, given, converted⟩
      exact ⟨⟨column, member, named, d, value, named ▸ given, converted⟩, d, field⟩

/-- A column that stops the lookup has no key. -/
theorem KeyFault.not_hasKey (distinct : (schema.columns.map (·.name)).Nodup)
    {formats : Codec.Formats} {name msg : String}
    (fault : KeyFault schema params formats name msg) : ¬HasKey schema params name := by
  rintro ⟨column, member, rfl, d, value, given, converted⟩
  cases fault with
  | missing absent =>
    rw [absent] at given
    cases given
  | @invalid column' value' _ member' named given' fails =>
    -- Two columns of one name are one column.
    have same : column' = column := List.inj_on_of_nodup_map distinct member' member named
    rw [given, Option.some.injEq] at given'
    rw [same, ← given', converted] at fails
    cases fails

end Column

/-! ## The key loop -/

section Loop

variable {schema : Schema} {params : LookupParams}

variable (params) in
/-- The loop stops at the first key column it cannot fill, or fills the row. -/
theorem fillKey_cases (formats : Codec.Formats) {names : List String} {row : GenericRow}
    (placed : ∀ name ∈ names, ∃ j, schema.position name = some j)
    (sized : row.fields.length = schema.columns.length) :
    (∃ msg, FirstFault schema params formats names msg ∧
      fillKey formats schema params names row = Outcome.fail (.badRequest msg)) ∨
    ((∀ name ∈ names, HasKey schema params name) ∧
      ∃ row', fillKey formats schema params names row = .ok row') := by
  induction names generalizing row with
  | nil => exact .inr ⟨by simp, row, rfl⟩
  | cons name names ih =>
    obtain ⟨j, here⟩ := placed name List.mem_cons_self
    -- The first key column decides if it is at fault, and else those after it.
    rcases keyField_cases formats here with ⟨msg, fault, stops⟩ | ⟨has, d, field⟩
    · left
      refine ⟨msg, ⟨[], name, names, rfl, by simp, fault⟩, ?_⟩
      rw [fillKey, stops]
      rfl
    · have later : ∀ name' ∈ names, ∃ j, schema.position name' = some j :=
        fun name' member => placed name' (List.mem_cons_of_mem _ member)
      have resized :
          (GenericRow.mk (row.fields.set j d)).fields.length = schema.columns.length := by
        simpa using sized
      rw [fillKey_cons names sized field]
      rcases ih later resized with ⟨msg, ⟨front, stop, back, split, given, fault⟩, stops⟩ |
        ⟨all, filled⟩
      · left
        refine ⟨msg, ⟨name :: front, stop, back, by rw [split]; rfl, ?_, fault⟩, stops⟩
        exact List.forall_mem_cons.mpr ⟨has, given⟩
      · exact .inr ⟨List.forall_mem_cons.mpr ⟨has, all⟩, filled⟩

/-- A key column's field depends on its own parameter only. -/
theorem keyField_params (formats : Codec.Formats) {params' : LookupParams} {name : String}
    (same : params'.get name = params.get name) :
    keyField formats schema params' name = keyField formats schema params name := by
  rw [keyField, keyField, same]

theorem fillKey_params (formats : Codec.Formats) {params' : LookupParams} {names : List String}
    (same : ∀ name ∈ names, params'.get name = params.get name) (row : GenericRow) :
    fillKey formats schema params' names row = fillKey formats schema params names row := by
  induction names generalizing row with
  | nil => rfl
  | cons name names ih =>
    have rest := ih fun name' member => same name' (List.mem_cons_of_mem _ member)
    simp only [fillKey, keyField_params formats (same name List.mem_cons_self), rest]

variable (distinct : (schema.columns.map (·.name)).Nodup)
include distinct

theorem lookupRow_keyRow {formats : Codec.Formats} {names : List String} {row : GenericRow}
    (returned : lookupRow formats schema params names = .ok row) :
    KeyRow schema params names row := by
  obtain ⟨sized, filled, kept⟩ := fillKey_ok (GenericRow.length_new _) returned
  refine ⟨sized, fun j column found member => ?_, fun j column found other => ?_⟩
  · have placed := position_distinct distinct found
    obtain ⟨k, d, field, here⟩ := filled column.name member
    obtain ⟨rfl, value, given, converted⟩ := (keyField_ok_iff placed found k d).mp field
    exact ⟨d, ⟨value, given, converted⟩, here⟩
  -- A position that the loop sets is the position of a key column.
  · have untouched : ∀ name ∈ names, schema.position name ≠ some j := by
      intro name member placed
      obtain ⟨column', there, named, _⟩ := position_spec placed
      rw [found, Option.some.injEq] at there
      subst there
      exact other (named ▸ member)
    have inside := (List.getElem?_eq_some_iff.mp found).1
    rw [kept j untouched, GenericRow.new, List.getElem?_replicate, if_pos inside]

/-- A schema whose key columns are among its columns has a position for each. -/
theorem position_among {names : List String}
    (among : ∀ name ∈ names, name ∈ schema.columns.map (·.name)) :
    ∀ name ∈ names, ∃ j, schema.position name = some j := by
  intro name member
  obtain ⟨column, inside, rfl⟩ := List.mem_map.mp (among name member)
  obtain ⟨j, found⟩ := List.mem_iff_getElem?.mp inside
  exact ⟨j, position_distinct distinct found⟩

end Loop

/-! ## The operation -/

/-- The lookup once its row is complete. -/
def FlussTable.lookupFor (debug : Codec.Debug) (t : FlussTable) (row : GenericRow) :
    Gateway (List Codec.Value) := do
  t.newLookup
  t.createLookuper
  let result ← t.lookup row
  let batch ← orFlussErr result.toRecordBatch
  pure (Codec.recordBatchToJson debug batch.rows)

/-- What a lookup does after the calls with which it has read the table. -/
structure LooksUpKey (formats : Codec.Formats) (debug : Codec.Debug)
    (operation : LookupParams → Gateway (List Codec.Value)) (trace : List Exchange)
    (t : FlussTable) (names : List String) (params : LookupParams) : Prop where
  creates : (∃ later reply, (operation params).Follows (trace ++ later) ∧
    ⟨.createLookuper t, reply⟩ ∈ later) ↔ ∀ name ∈ names, HasKey t.info.schema params name
  row : (∀ name ∈ names, HasKey t.info.schema params name) →
    ∃ row, KeyRow t.info.schema params names row ∧
      (operation params).Becomes trace (t.lookupFor debug row)
  refused : (¬∀ name ∈ names, HasKey t.info.schema params name) →
    ∃ msg, FirstFault t.info.schema params formats names msg ∧
      (operation params).Becomes trace (.done (Outcome.fail (.badRequest msg)))
  /-- Only the parameters of key columns matter. -/
  others : ∀ params' : LookupParams, (∀ name ∈ names, params'.get name = params.get name) →
    ∀ left, (operation params').Becomes trace left ↔ (operation params).Becomes trace left
  returns : ∀ later result, (operation params).Ends (trace ++ later) result →
    ∀ msg, result ≠ .error (.panic msg)

section Operation

variable {sha256 : Sha256} (formats : Codec.Formats) (debug : Codec.Debug)
  {backend : FlussBackend} {db table : String} {creds : Option Auth.BasicAuthCredentials}
  {taken : List Exchange} {conn : Connection} {info : TableInfo} {names : List String}

/-- The calls with which an operation reads its table. -/
def tableRead (taken : List Exchange) (conn : Connection) (path : TablePath) (info : TableInfo) :
    List Exchange := taken ++ [⟨.getTable conn path, .ok info⟩]

variable (db table) in
theorem lookup_becomes (took : (backend.conn sha256 creds).Ends taken (.ok conn))
    (keyed : info.hasPrimaryKey = true) (primary : info.schema.primaryKey = some names)
    (params : LookupParams) :
    (backend.lookup sha256 formats debug db table params creds).Becomes
      (tableRead taken conn ⟨db, table⟩ info)
      (Program.lift (lookupRow formats info.schema params names) >>=
        FlussTable.lookupFor debug ⟨conn, ⟨db, table⟩, info⟩) := by
  -- The two checks on the table pass, and its row is made next.
  have flagged : (!info.hasPrimaryKey) = false := by simp [keyed]
  apply (took.becomes _).trans
  simp only [Connection.getTable, Program.call_bind]
  apply Program.Becomes.call
  simp only [orFlussErr, Outcome.ofExcept_ok, Program.lift, Program.done_ok_bind, Program.pure_eq,
    flagged, Bool.false_eq_true, if_false, primary]
  exact .here _

/-- A lookup stopped by a key column has not got all its keys. -/
theorem FirstFault.not_all {schema : Schema} {params : LookupParams} {formats : Codec.Formats}
    {msg : String} (distinct : (schema.columns.map (·.name)).Nodup)
    (first : FirstFault schema params formats names msg) :
    ¬∀ name ∈ names, HasKey schema params name := by
  obtain ⟨front, name, back, rfl, _, fault⟩ := first
  intro all
  have member : name ∈ front ++ name :: back := List.mem_append_right _ List.mem_cons_self
  exact fault.not_hasKey distinct (all name member)

/-- The lookup goes on exactly when the request has every key column, with each datum in its own
column's place, and else names the first key column at fault. -/
theorem looks_up_key (took : (backend.conn sha256 creds).Ends taken (.ok conn))
    (keyed : info.hasPrimaryKey = true) (primary : info.schema.primaryKey = some names)
    (distinct : (info.schema.columns.map (·.name)).Nodup)
    (among : ∀ name ∈ names, name ∈ info.schema.columns.map (·.name)) (params : LookupParams) :
    LooksUpKey formats debug
      (fun params => backend.lookup sha256 formats debug db table params creds)
      (tableRead taken conn ⟨db, table⟩ info) ⟨conn, ⟨db, table⟩, info⟩ names params := by
  have left := lookup_becomes formats debug db table took keyed primary
  have placed := position_among distinct among
  have ran := fillKey_cases params formats placed (GenericRow.length_new _)
  -- The rest depends on the parameters through the row only.
  have others : ∀ params' : LookupParams, (∀ name ∈ names, params'.get name = params.get name) →
      ∀ rest, (backend.lookup sha256 formats debug db table params' creds).Becomes
          (tableRead taken conn ⟨db, table⟩ info) rest ↔
        (backend.lookup sha256 formats debug db table params creds).Becomes
          (tableRead taken conn ⟨db, table⟩ info) rest := by
    intro params' agree rest
    have same : lookupRow formats info.schema params' names =
        lookupRow formats info.schema params names := fillKey_params formats agree _
    have left' := left params'
    rw [same] at left'
    constructor
    · intro becomes
      rw [← left'.unique becomes]
      exact left params
    · intro becomes
      rw [← (left params).unique becomes]
      exact left'
  have returns : ∀ later result,
      (backend.lookup sha256 formats debug db table params creds).Ends
        (tableRead taken conn ⟨db, table⟩ info ++ later) result →
      ∀ msg, result ≠ .error (.panic msg) := by
    intro later result ended
    obtain ⟨rest, panicless, same⟩ :=
      lookup_works sha256 formats debug backend creds db table params
    rw [same, tableRead, List.append_assoc, (took.becomes rest).ends_iff] at ended
    exact (panicless conn).ends ended
  rcases ran with ⟨msg, first, stops⟩ | ⟨all, row, filled⟩
  · have lacking := first.not_all distinct
    have refused := left params
    rw [lookupRow, stops] at refused
    refine ⟨⟨?_, fun all => absurd all lacking⟩, fun all => absurd all lacking,
      fun _ => ⟨msg, first, refused⟩, others, returns⟩
    -- Nothing is called after the refusal.
    rintro ⟨later, reply, follows, created⟩
    rw [refused.follows_iff] at follows
    cases follows
    cases created
  · have goesOn := left params
    rw [lookupRow, filled] at goesOn
    refine ⟨⟨fun _ => all, fun _ => ?_⟩,
      fun _ => ⟨row, lookupRow_keyRow distinct filled, goesOn⟩, absurd all, others, returns⟩
    -- With the row complete, nothing but the client can stop it any more.
    refine ⟨[⟨.newLookup ⟨conn, ⟨db, table⟩, info⟩, .ok ()⟩,
      ⟨.createLookuper ⟨conn, ⟨db, table⟩, info⟩, .ok ()⟩], .ok (), ?_, by simp⟩
    rw [goesOn.follows_iff]
    apply Program.Follows.call
    apply Program.Follows.call
    exact .here _

end Operation

/-- The connection is in the pool. -/
theorem pooled_ends (sha256 : Sha256) (backend : FlussBackend)
    (creds : Option Auth.BasicAuthCredentials) (conn : Connection) :
    (backend.conn sha256 creds).Ends [⟨.cacheGet (backend.key sha256 creds), some conn⟩]
      (.ok conn) := .call (.done _)

/-- A key of two columns, named in another order than they stand in the table. -/
def ordersInfo : TableInfo :=
  ⟨⟨[⟨"region", .string⟩, ⟨"total", .double⟩, ⟨"id", .bigInt⟩], some ["id", "region"]⟩, true, 2, 1⟩

def ordersParams : LookupParams := ⟨[("region", "eu"), ("note", "x"), ("id", "7")]⟩

theorem looks_up_key_orders : LooksUpKey ⟨fun _ => "", fun _ => "", fun _ => ""⟩ (fun _ _ => "")
    (fun params => sampleBackend.lookup sampleSha256 ⟨fun _ => "", fun _ => "", fun _ => ""⟩
      (fun _ _ => "") "app" "orders" params none)
    (tableRead [⟨.cacheGet (sampleBackend.key sampleSha256 none), some sampleConnection⟩]
      sampleConnection ⟨"app", "orders"⟩ ordersInfo)
    ⟨sampleConnection, ⟨"app", "orders"⟩, ordersInfo⟩ ["id", "region"] ordersParams :=
  looks_up_key _ _ (pooled_ends _ _ _ _) rfl rfl (by decide) (by decide) _

/-- Its row has the datum of `id` in the third place. -/
example : lookupRow ⟨fun _ => "", fun _ => "", fun _ => ""⟩ ordersInfo.schema ordersParams
    ["id", "region"] = .ok ⟨[.string "eu", .null, .int64 7]⟩ := rfl

end FlussGateway.Backend
