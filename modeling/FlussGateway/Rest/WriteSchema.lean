import FlussGateway.Backend.Catalogue
import FlussGateway.Rest.Handlers

/-!
# The schema of a write

`produce` converts the rows with the metadata it has read, and the backend reads the
metadata again before it writes. Between the two the table may have been replaced.
-/
namespace FlussGateway.Rest

open FlussGateway.Foundation FlussGateway.Backend FlussGateway.Codec

/-! ## Conversion looks at the types only -/

section Convert

variable {formats : Formats} {columns columns' : List Column}

theorem fillRow_types (same : columns.map (·.dataType) = columns'.map (·.dataType)) (i j : Nat)
    (values : List Value) (row : GenericRow) : fillRow formats columns i j values row =
    fillRow formats columns' i j values row := by
  have sizes : columns.length = columns'.length := by simpa using congrArg List.length same
  induction values generalizing j row with
  | nil => rfl
  | cons value values ih =>
    -- The number of columns is read for the bound and the type of column `j` for the value.
    simp only [fillRow, sizes]
    split
    · rfl
    next inside =>
      have small : j < columns.length := by omega
      have small' : j < columns'.length := by omega
      have types : columns[j].dataType = columns'[j].dataType := by
        have at_ := congrArg (·[j]?) same
        simpa [small, small'] using at_
      rw [Outcome.index_of_some (List.getElem?_eq_getElem small),
        Outcome.index_of_some (List.getElem?_eq_getElem small')]
      simp only [bind, Except.bind, types, ih]

theorem convertRow_types (same : columns.map (·.dataType) = columns'.map (·.dataType)) (i : Nat)
    (prow : ProduceRow) :
    convertRow formats columns i prow = convertRow formats columns' i prow := by
  have sizes : columns.length = columns'.length := by simpa using congrArg List.length same
  rw [convertRow, convertRow, sizes, fillRow_types same]

theorem convertRows_mem {i : Nat} {prows : List ProduceRow} {rows : List GenericRow}
    (converted : convertRows formats columns i prows = .ok rows) {row : GenericRow}
    (member : row ∈ rows) :
    ∃ k prow, prows[k]? = some prow ∧ convertRow formats columns (i + k) prow = .ok row := by
  induction prows generalizing i rows with
  | nil =>
    cases converted
    cases member
  | cons prow prows ih =>
    simp only [convertRows, bind, Except.bind] at converted
    cases first : convertRow formats columns i prow with
    | error e => rw [first] at converted; cases converted
    | ok row' =>
      rw [first] at converted
      cases rest : convertRows formats columns (i + 1) prows with
      | error e => simp only [rest] at converted; cases converted
      | ok rows' =>
        simp only [rest] at converted
        cases converted
        -- The row number is counted from `i` on, and only error texts show it.
        rcases List.mem_cons.mp member with rfl | later
        · exact ⟨0, prow, rfl, first⟩
        · obtain ⟨k, prow', found, built⟩ := ih rest later
          exact ⟨k + 1, prow', found, by rwa [← Nat.add_right_comm, Nat.add_assoc] at built⟩

end Convert

/-- The row is what one of the request's rows becomes under these columns. -/
def BuiltFrom (formats : Formats) (columns : List Column) (prows : List ProduceRow)
    (row : GenericRow) : Prop :=
  ∃ i prow, prows[i]? = some prow ∧ convertRow formats columns i prow = .ok row

theorem BuiltFrom.of_types {formats : Formats} {info info' : TableInfo} {prows : List ProduceRow}
    {row : GenericRow}
    (built : BuiltFrom formats info.schema.columns prows row) (same : info'.types = info.types) :
    BuiltFrom formats info'.schema.columns prows row := by
  obtain ⟨i, prow, found, converted⟩ := built
  exact ⟨i, prow, found, by rw [convertRow_types same, converted]⟩

/-- A row fits no table with another number of columns. -/
theorem BuiltFrom.length {formats : Formats} {columns : List Column} {prows : List ProduceRow}
    {row : GenericRow}
    (built : BuiltFrom formats columns prows row) : row.fields.length = columns.length := by
  obtain ⟨_, _, _, converted⟩ := built
  exact (convertRow_ok converted).1

/-! ## What `produce` hands over -/

section Produce

variable {sha256 : Sha256} {formats : Formats} {state : AppState} {db table : String}
  {ext : Option Auth.BasicAuthCredentials} {req : ProduceRequest}

def writeKind (info : TableInfo) (req : ProduceRequest) : WriteKind :=
  if info.schema.primaryKey.isSome then if req.rows.any isDelete then .delete else .upsert else .append

theorem produce_eq : produce sha256 formats state db table ext req = (do
    let creds ← Program.lift (Auth.extractCreds state.authType ext)
    let info ← getTableInfo sha256 state.backend db table creds
    let rows ← Program.lift (convertRows formats info.schema.columns 0 req.rows)
    (writeKind info req).rows sha256 state.backend db table rows creds) := by
  unfold produce writeKind
  congr 1
  funext creds
  congr 1
  funext info
  congr 1
  funext rows
  split
  · split <;> rfl
  · rfl

theorem writeKind_refuses (info : TableInfo) (req : ProduceRequest) (t : FlussTable) :
    (writeKind info req).writer.refuses t = false ↔
    t.info.hasPrimaryKey = info.schema.primaryKey.isSome := by
  unfold writeKind
  cases info.schema.primaryKey.isSome with
  | true => cases req.rows.any isDelete <;> simp [WriteKind.writer, upserter, deleter]
  | false => simp [WriteKind.writer, appender]

theorem getTableInfo_quiet (creds : Option Auth.BasicAuthCredentials) :
    (getTableInfo sha256 state.backend db table creds).Always fun op => op.writes = false :=
  Program.always_bind (getOrCreate_quiet sha256 state.backend.pool _) fun conn =>
    Program.always_bind (KvTable.getTable_quiet conn _) fun _ => Program.always_done _ _

theorem getTableInfo_ends {creds : Option Auth.BasicAuthCredentials} {trace : List Exchange}
    {info : TableInfo}
    (ended : (getTableInfo sha256 state.backend db table creds).Ends trace (.ok info)) :
    ∃ before conn, trace = before ++ [⟨.getTable conn ⟨db, table⟩, .ok info⟩] := by
  rcases Program.ends_bind ended with ⟨_, _, same⟩ | ⟨conn, before, after, _, rest, rfl⟩
  · cases same
  rcases Program.ends_bind rest with ⟨_, _, same⟩ | ⟨t, asked, after, read, returned, rfl⟩
  · cases same
  obtain ⟨rfl, _, rfl⟩ := getTable_ends read
  cases returned
  exact ⟨before, _, rfl⟩

/-- A row is built from the columns read first and handed to a writer of the table read second; the
two agree on whether there is a primary key. -/
theorem produce_handed {trace : List Exchange}
    (follows : (produce sha256 formats state db table ext req).Follows trace)
    {x : Handover} {answer : Except FlussError Unit} (handed : (x, answer) ∈ handovers trace) :
    ∃ before conn info between conn' after,
      trace = before ++ ⟨.getTable conn ⟨db, table⟩, .ok info⟩ ::
        (between ++ ⟨.getTable conn' ⟨db, table⟩, .ok x.table.info⟩ :: after) ∧
      x.table.path = ⟨db, table⟩ ∧ x.table.info.hasPrimaryKey = info.schema.primaryKey.isSome ∧
      BuiltFrom formats info.schema.columns req.rows x.row := by
  rw [produce_eq] at follows
  -- Credentials and conversion call nothing, and the first metadata read hands over nothing.
  rcases Program.follows_bind follows with refused | ⟨creds, _, _, admitted, asked, rfl⟩
  · rw [Program.follows_lift refused] at handed
    cases handed
  rw [(Program.ends_lift admitted).1, List.nil_append] at handed ⊢
  rcases Program.follows_bind asked with reading | ⟨info, first, rest, read, converting, rfl⟩
  · rw [handovers_quiet ((getTableInfo_quiet creds).of_follows reading)] at handed
    cases handed
  rw [handovers_append, handovers_quiet ((getTableInfo_quiet creds).of_ends read),
    List.nil_append] at handed
  rcases Program.follows_bind converting with failed | ⟨rows, _, _, converted, writing, rfl⟩
  · rw [Program.follows_lift failed] at handed
    cases handed
  obtain ⟨rfl, result⟩ := Program.ends_lift converted
  rw [List.nil_append] at handed ⊢
  -- The rows are those converted with `info`; the writer works under metadata of its own.
  obtain ⟨member, path, accepted, before, conn, after, rfl⟩ := rows_handed writing handed
  obtain ⟨opening, conn', rfl⟩ := getTableInfo_ends read
  obtain ⟨i, prow, found, built⟩ := convertRows_mem result member
  refine ⟨opening, conn', info, before, conn, after, by simp, path,
    (writeKind_refuses info req _).mp accepted, i, prow,
    found, ?_⟩
  rwa [Nat.zero_add] at built

/-- Rows converted for the table `info` may be written to the table `info'`: there are none, or the
write is refused, or the two tables have columns of the same types in the same order. -/
def Compatible (req : ProduceRequest) (info info' : TableInfo) : Prop :=
  req.rows = [] ∨ info'.hasPrimaryKey ≠ info.schema.primaryKey.isSome ∨ info'.types = info.types

variable {σ : Type} {cat : Catalogue σ} {request : Nat} {calls : List (Nat × Call)} {start : σ}

/-- A row handed over shows both metadata reads, in the schedule and in the states they found. -/
theorem produce_reads
    (follows : (produce sha256 formats state cat.path.database cat.path.table ext req).Follows
      (Schedule.own request (Schedule.recorded cat.service calls start)))
    {x : Handover} {answer : Except FlussError Unit}
    (handed : (x, answer) ∈ handovers (Schedule.own request (Schedule.recorded cat.service calls start))) :
    ∃ info, cat.ReadsTwice request calls start info x.table.info ∧ x.table.path = cat.path ∧
      x.table.info.hasPrimaryKey = info.schema.primaryKey.isSome ∧
      BuiltFrom formats info.schema.columns req.rows x.row := by
  obtain ⟨_, conn, info, _, conn', _, trace, path, keyed, built⟩ := produce_handed follows handed
  obtain ⟨before, later, rfl, given, rest⟩ := Schedule.split_of_own trace
  obtain ⟨between, later, rfl, given', _⟩ := Schedule.split_of_own rest
  refine ⟨info, ⟨before, conn, between, conn', later, rfl, cat.read _ _ _ given.symm, ?_⟩,
    path, keyed, built⟩
  rw [Schedule.after_append]
  exact cat.read _ _ _ given'.symm

/-- However the calls of `produce` are mixed with the calls of others: if the table found by its
second metadata read is compatible with the one found by its first, each row it hands over is built
from the columns of the table it is written to. -/
theorem rows_fit_table
    (follows : (produce sha256 formats state cat.path.database cat.path.table ext req).Follows
      (Schedule.own request (Schedule.recorded cat.service calls start)))
    (compatible : ∀ info info', cat.ReadsTwice request calls start info info' → Compatible req info info')
    {x : Handover} {answer : Except FlussError Unit}
    (handed : (x, answer) ∈ handovers (Schedule.own request (Schedule.recorded cat.service calls start))) :
    x.table.path = cat.path ∧ (∃ info, cat.ReadsTwice request calls start info x.table.info) ∧
      BuiltFrom formats x.table.info.schema.columns req.rows x.row := by
  obtain ⟨info, reads, path, keyed, built⟩ := produce_reads follows handed
  refine ⟨path, ⟨info, reads⟩, ?_⟩
  rcases compatible info _ reads with empty | refused | same
  · obtain ⟨i, prow, found, _⟩ := built
    rw [empty] at found
    cases found
  · exact absurd keyed refused
  · exact built.of_types same

/-- Replacing the table by one with the same column types is harmless. -/
theorem rows_fit_recreated {types : List DataType}
    (creates : ∀ call ∈ calls, cat.Creates types call.2) (typed : cat.Typed types start)
    (follows : (produce sha256 formats state cat.path.database cat.path.table ext req).Follows
      (Schedule.own request (Schedule.recorded cat.service calls start)))
    {x : Handover} {answer : Except FlussError Unit}
    (handed : (x, answer) ∈ handovers (Schedule.own request (Schedule.recorded cat.service calls start))) :
    BuiltFrom formats x.table.info.schema.columns req.rows x.row := by
  obtain ⟨info, reads, _, _, built⟩ := produce_reads follows handed
  exact built.of_types (Catalogue.readsTwice_types creates typed reads)

/-- With another number of columns no row fits. -/
theorem rows_misfit
    (follows : (produce sha256 formats state cat.path.database cat.path.table ext req).Follows
      (Schedule.own request (Schedule.recorded cat.service calls start)))
    (different : ∀ info info', cat.ReadsTwice request calls start info info' → info'.types.length ≠ info.types.length)
    {x : Handover} {answer : Except FlussError Unit}
    (handed : (x, answer) ∈ handovers (Schedule.own request (Schedule.recorded cat.service calls start))) :
    ¬BuiltFrom formats x.table.info.schema.columns req.rows x.row := by
  obtain ⟨info, reads, _, _, built⟩ := produce_reads follows handed
  intro fits
  refine different info _ reads ?_
  rw [TableInfo.types, TableInfo.types, List.length_map, List.length_map, ← fits.length,
    ← built.length]

end Produce

/-! ## A table replaced between the two reads -/

def sampleLibrary : Library := ⟨⟨fun _ => "", fun _ => "", fun _ => ""⟩, id, fun _ => .ok ()⟩

/-- One row for the columns `id` and `name`. -/
def oneRow : ProduceRequest := ⟨[⟨[.number (.posInt 1), .string "a"], none⟩]⟩

/-- A table `users` with the key `id`. -/
def usersTable (columns : List ColumnSpec) : CreateTableRequest :=
  ⟨"users", columns, some ⟨none, ["id"]⟩, none, none, none, none, none, false⟩

def usersDescriptor (columns : List ColumnDefinition) : TableDescriptor :=
  ⟨⟨columns, some ⟨none, ["id"]⟩⟩, [], [], none, [], none⟩

/-- Request 0 produces a row. After its first metadata read, request 1 drops the table and request 2
creates it again. -/
def replaced (descriptor : TableDescriptor) : List (Nat × Call) :=
  let key := localState.backend.key sampleSha256 none
  let t : FlussTable := ⟨sampleConnection, samplePath, descriptor.describe 2⟩
  [(0, .cacheGet key), (0, .getTable sampleConnection samplePath),
   (1, .cacheGet key), (1, .getAdmin sampleConnection),
     (1, .dropTable sampleConnection samplePath false),
   (2, .cacheGet key), (2, .getAdmin sampleConnection), (2, .buildTable descriptor),
   (2, .createTable sampleConnection samplePath descriptor false),
   (0, .cacheGet key), (0, .getTable sampleConnection samplePath), (0, .newUpsert t),
     (0, .createUpsertWriter t),
   (0, .upsert t ⟨[.int32 1, .string "a"]⟩)]

def sampleCatalogue : Catalogue Shelf := Shelf.catalogue samplePath sampleConnection

/-- What one of the three requests has done and seen. -/
def replacedOwn (request : Nat) (descriptor : TableDescriptor) : List Exchange :=
  Schedule.own request
    (Schedule.recorded sampleCatalogue.service (replaced descriptor) ⟨some sampleInfo, 1⟩)

def sameColumns : TableDescriptor := usersDescriptor [⟨"id", .int, none⟩, ⟨"name", .string, none⟩]

theorem sameColumns_creates : ∀ call ∈ replaced sameColumns,
    sampleCatalogue.Creates [.int, .string] call.2 := by
  intro call member conn descriptor ignore creates
  simp only [replaced, List.mem_cons, List.not_mem_nil, or_false] at member
  rcases member with rfl | rfl | rfl | rfl | rfl | rfl | rfl | rfl | rfl | rfl | rfl | rfl | rfl | rfl <;>
    cases creates
  rfl

theorem rows_fit_table_sameColumns :
    BuiltFrom sampleLibrary.formats (sameColumns.describe 2).schema.columns oneRow.rows
      ⟨[.int32 1, .string "a"]⟩ := by
  have follows :
    (produce sampleSha256 sampleLibrary.formats localState sampleCatalogue.path.database
      sampleCatalogue.path.table none oneRow).Follows (replacedOwn 0 sameColumns) :=
    .call (.call (.call (.call (.call (.call (.call (.here _)))))))
  have typed : sampleCatalogue.Typed [.int, .string] ⟨some sampleInfo, 1⟩ := by
    rintro info found
    cases found
    rfl
  have handed :
    ((⟨.upsert, ⟨sampleConnection, samplePath, sameColumns.describe 2⟩, ⟨[.int32 1, .string "a"]⟩⟩ : Handover),
      .ok ()) ∈ handovers (replacedOwn 0 sameColumns) := List.mem_cons_self
  have compatible : ∀ info info', sampleCatalogue.ReadsTwice 0 (replaced sameColumns)
    ⟨some sampleInfo, 1⟩ info info' →
      Compatible oneRow info info' :=
    fun info info' reads => .inr (.inr (Catalogue.readsTwice_types sameColumns_creates typed reads))
  exact (rows_fit_table follows compatible handed).2.2

def idOnly : TableDescriptor := usersDescriptor [⟨"id", .int, none⟩]

/-- The other two requests succeed, and a row of two fields is handed to the writer of the table of one
column, which is the first to refuse it. -/
theorem row_handed_to_other_table :
    ((Handler.dropTable .none none "app" "users" ⟨false⟩).translate
      (BackendCall.impl sampleSha256 sampleLibrary.formats (fun _ _ => "") localState.backend)).Ends
      (replacedOwn 1 idOnly) (.ok ()) ∧
    ((Handler.createTable sampleLibrary .none none "app" (usersTable [⟨"id", "int", none⟩])).translate
      (BackendCall.impl sampleSha256 sampleLibrary.formats (fun _ _ => "") localState.backend)).Ends
      (replacedOwn 2 idOnly) (.ok ()) ∧
    (produce sampleSha256 sampleLibrary.formats localState "app" "users" none oneRow).Ends
      (replacedOwn 0 idOnly) (Outcome.fail (flussErr Shelf.fieldCount)) ∧
    ∃ x, (x, .error Shelf.fieldCount) ∈ handovers (replacedOwn 0 idOnly) ∧
      ¬BuiltFrom sampleLibrary.formats x.table.info.schema.columns oneRow.rows x.row := by
  refine ⟨.call (.call (.call (.done _))), .call (.call (.call (.call (.done _)))),
    .call (.call (.call (.call (.call (.call (.call (.done _))))))), ?_⟩
  refine ⟨⟨.upsert, ⟨sampleConnection, samplePath, idOnly.describe 2⟩, ⟨[.int32 1, .string "a"]⟩⟩,
    List.mem_cons_self, ?_⟩
  intro built
  exact absurd built.length (by decide)

end FlussGateway.Rest
