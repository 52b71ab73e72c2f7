import FlussGateway.Backend.Pool

/-!
# Looking up a key

The lookup row has one field for each column of the table. Each primary-key column is taken
from the request's parameters, wrapped as a JSON string and converted with the column's
type; all other fields stay null.
-/
namespace FlussGateway.Backend

open FlussGateway.Foundation

section Key

variable (formats : Codec.Formats) (schema : Schema) (params : LookupParams)

/-- One pass of the key loop: the position of a key column and the datum to put there. -/
def keyField (colName : String) : Outcome GatewayError (Nat × Codec.Datum) :=
  match params.get colName with
  | none => Outcome.fail (.badRequest ("missing pk column: " ++ colName))
  | some value =>
    match schema.columns.find? fun c => c.name == colName with
    | none => Outcome.fail (.badRequest ("unknown column: " ++ colName))
    | some col => do
      let datum ← Outcome.ofExcept (fun e => .badRequest (e.message formats))
        (Codec.jsonToDatum (.string value) col.dataType)
      match schema.position colName with
      -- Found by name just above, so the position is there.
      | none => Outcome.panicked "called `Option::unwrap()` on a `None` value"
      | some fieldIdx => .ok (fieldIdx, datum)

def fillKey : List String → GenericRow → Outcome GatewayError GenericRow
  | [], row => .ok row
  | colName :: rest, row => do
    let (fieldIdx, datum) ← keyField formats schema params colName
    let row ← row.setField fieldIdx datum
    fillKey rest row

/-- The row handed to the lookuper. -/
def lookupRow (pkColNames : List String) : Outcome GatewayError GenericRow :=
  fillKey formats schema params pkColNames (GenericRow.new schema.columns.length)

end Key

def FlussBackend.lookup (sha256 : Sha256) (formats : Codec.Formats) (debug : Codec.Debug)
    (backend : FlussBackend) (db table : String) (params : LookupParams)
    (creds : Option Auth.BasicAuthCredentials) : Gateway (List Codec.Value) := do
  let conn ← backend.conn sha256 creds
  let flussTable ← conn.getTable ⟨db, table⟩
  if !flussTable.info.hasPrimaryKey then
    Program.lift (Outcome.fail (.invalidOperation "lookup requires a primary key table"))
  else
    match flussTable.info.schema.primaryKey with
    | none => Program.lift (Outcome.fail (.invalidOperation "no primary key defined"))
    -- The row is complete before the lookuper is created.
    | some pkColNames => do
      let row ← Program.lift (lookupRow formats flussTable.info.schema params pkColNames)
      flussTable.newLookup
      flussTable.createLookuper
      let result ← flussTable.lookup row
      let batch ← orFlussErr result.toRecordBatch
      pure (Codec.recordBatchToJson debug batch.rows)

/-! ## Key columns -/

section Columns

variable {schema : Schema} {colName : String}

theorem position_spec {j : Nat} (found : schema.position colName = some j) :
    ∃ column, schema.columns[j]? = some column ∧ column.name = colName ∧
      schema.columns.find? (fun c => c.name == colName) = some column := by
  obtain ⟨small, named, before⟩ := List.findIdx?_eq_some_iff_getElem.mp found
  refine ⟨schema.columns[j], List.getElem?_eq_getElem small, by simpa using named, ?_⟩
  refine List.find?_eq_some_iff_getElem.mpr ⟨named, j, small, rfl, fun i smaller => ?_⟩
  simpa using before i smaller

/-- For a column of the schema the field is at the column's position, and only the parameter and its
conversion can fail. -/
theorem keyField_ok_iff {formats : Codec.Formats} {params : LookupParams} {j : Nat} {column : Column}
    (found : schema.position colName = some j) (here : schema.columns[j]? = some column) (k : Nat)
    (d : Codec.Datum) :
    keyField formats schema params colName = .ok (k, d) ↔ k = j ∧
      ∃ value, params.get colName = some value ∧ Codec.jsonToDatum (.string value) column.dataType = .ok d := by
  obtain ⟨column', there, _, first⟩ := position_spec found
  rw [here, Option.some.injEq] at there
  subst column'
  cases given : params.get colName with
  | none => simp [keyField, given, Outcome.fail]
  | some value =>
    cases converted : Codec.jsonToDatum (.string value) column.dataType with
    | error e => simp [keyField, given, first, converted, Outcome.fail, bind, Except.bind]
    | ok d' =>
      have field : keyField formats schema params colName = .ok (j, d') := by
        simp [keyField, given, first, converted, found, bind, Except.bind]
      rw [field, Except.ok.injEq, Prod.mk.injEq]
      constructor
      · rintro ⟨rfl, rfl⟩
        exact ⟨rfl, value, rfl, converted⟩
      · rintro ⟨rfl, value', same, converted'⟩
        cases same
        rw [converted, Except.ok.injEq] at converted'
        exact ⟨rfl, converted'⟩

/-- A field that succeeds is at the position of a column with the key column's name. -/
theorem keyField_position {formats : Codec.Formats} {params : LookupParams} {j : Nat} {d : Codec.Datum}
    (returned : keyField formats schema params colName = .ok (j, d)) : schema.position colName = some j := by
  unfold keyField at returned
  split at returned
  next => cases returned
  next value _ =>
    split at returned
    next => cases returned
    next col _ =>
      cases converted : Codec.jsonToDatum (.string value) col.dataType with
      | error e => rw [converted] at returned; cases returned
      | ok d' =>
        rw [converted] at returned
        cases found : schema.position colName with
        | none => simp only [found] at returned; cases returned
        | some k => simp only [found] at returned; cases returned; rfl

/-- Two key columns at one position have one name. -/
theorem position_injective {colName' : String} {j : Nat} (found : schema.position colName = some j)
    (found' : schema.position colName' = some j) : colName = colName' := by
  obtain ⟨column, here, name, _⟩ := position_spec found
  obtain ⟨column', here', name', _⟩ := position_spec found'
  rw [here, Option.some.injEq] at here'
  rw [← name, ← name', here']

end Columns

/-! ## The key loop -/

section Loop

variable {formats : Codec.Formats} {schema : Schema} {params : LookupParams}

theorem position_lt {name : String} {j : Nat} (placed : schema.position name = some j) :
    j < schema.columns.length := by
  obtain ⟨_, there, _, _⟩ := position_spec placed
  exact (List.getElem?_eq_some_iff.mp there).1

/-- The position is one of the columns, and the row is as long as these. -/
theorem fillKey_cons {name : String} {j : Nat} {d : Codec.Datum} (names : List String)
    {row : GenericRow} (sized : row.fields.length = schema.columns.length)
    (field : keyField formats schema params name = .ok (j, d)) :
    fillKey formats schema params (name :: names) row =
      fillKey formats schema params names ⟨row.fields.set j d⟩ := by
  have small := position_lt (keyField_position field)
  have placed : (row.setField j d : Outcome GatewayError _) = .ok ⟨row.fields.set j d⟩ :=
    GenericRow.setField_ok (by omega) d
  simp only [fillKey, field, bind, Except.bind, placed]

theorem fillKey_ok {names : List String} {row row' : GenericRow}
    (sized : row.fields.length = schema.columns.length)
    (returned : fillKey formats schema params names row = .ok row') :
    row'.fields.length = schema.columns.length ∧
    (∀ name ∈ names, ∃ j d, keyField formats schema params name = .ok (j, d) ∧ row'.fields[j]? = some d) ∧
    ∀ j, (∀ name ∈ names, schema.position name ≠ some j) → row'.fields[j]? = row.fields[j]? := by
  induction names generalizing row with
  | nil =>
    cases returned
    exact ⟨sized, by simp, fun _ _ => rfl⟩
  | cons name names ih =>
    cases field : keyField formats schema params name with
    | error e =>
      rw [fillKey, field] at returned
      cases returned
    | ok found =>
      obtain ⟨j, d⟩ := found
      have place := keyField_position field
      have small := position_lt place
      rw [fillKey_cons names sized field] at returned
      obtain ⟨sized', filled, kept⟩ := ih (by simpa using sized) returned
      refine ⟨sized', fun name' member => ?_, fun k other => ?_⟩
      · rcases List.mem_cons.mp member with rfl | member
        · refine ⟨j, d, field, ?_⟩
          -- A later key column either has this name again or another position.
          by_cases again : name' ∈ names
          · obtain ⟨j', d', field', value⟩ := filled name' again
            rw [field, Except.ok.injEq, Prod.mk.injEq] at field'
            rw [field'.1, field'.2, value]
          · rw [kept j fun other member same => again (position_injective place same ▸ member)]
            exact List.getElem?_set_self (by omega)
        · exact filled name' member
      · rw [kept k fun name' member => other name' (List.mem_cons_of_mem _ member)]
        exact List.getElem?_set_ne fun same => other name (List.mem_cons_self ..) (by rw [place, same])

/-- The loop succeeds when every key column's field does. -/
theorem fillKey_total {names : List String} {row : GenericRow}
    (sized : row.fields.length = schema.columns.length)
    (each : ∀ name ∈ names, ∃ found, keyField formats schema params name = .ok found) :
    ∃ row', fillKey formats schema params names row = .ok row' := by
  induction names generalizing row with
  | nil => exact ⟨row, rfl⟩
  | cons name names ih =>
    obtain ⟨⟨j, d⟩, field⟩ := each name (List.mem_cons_self ..)
    rw [fillKey_cons names sized field]
    exact ih (by simpa using sized) fun name' member => each name' (List.mem_cons_of_mem _ member)

end Loop

/-! ## What is looked up -/

/-- A lookup is for the row made from one of the keys for the table's own schema. -/
def LooksUp (formats : Codec.Formats) (keys : List LookupParams) (op : Call) : Prop :=
  ∀ t row, op = .lookup t row → ∃ params ∈ keys, ∃ pkColNames,
    t.info.schema.primaryKey = some pkColNames ∧ lookupRow formats t.info.schema params pkColNames = .ok row

theorem lookup_always (sha256 : Sha256) (formats : Codec.Formats) (debug : Codec.Debug) (backend : FlussBackend)
    (db table : String) {keys : List LookupParams} {params : LookupParams} (member : params ∈ keys)
    (creds : Option Auth.BasicAuthCredentials) :
    (backend.lookup sha256 formats debug db table params creds).Always (LooksUp formats keys) := by
  refine Program.always_bind (getOrCreate_always _ _ _ nofun nofun nofun) fun conn => ?_
  refine Program.always_bind (Program.always_bind ⟨nofun, orFlussErr_always⟩ fun _ => trivial)
    fun t => ?_
  split
  · trivial
  · cases primary : t.info.schema.primaryKey with
    | none => trivial
    | some pkColNames =>
      dsimp only
      cases made : lookupRow formats t.info.schema params pkColNames with
      | error e => trivial
      | ok row =>
        refine Program.always_bind (p := t.newLookup) ⟨nofun, orFlussErr_always⟩ fun _ => ?_
        refine Program.always_bind (p := t.createLookuper) ⟨nofun, orFlussErr_always⟩ fun _ => ?_
        refine Program.always_bind (p := t.lookup row) ⟨?_, orFlussErr_always⟩ fun result => ?_
        -- The one call that looks a row up, with the row just made.
        · rintro t' row' same
          cases same
          exact ⟨params, member, pkColNames, primary, made⟩
        · cases result.toRecordBatch <;> trivial

end FlussGateway.Backend
