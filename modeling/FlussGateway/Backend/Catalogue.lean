import FlussGateway.Backend.FailedWrite

/-!
# One path of the catalogue

The table a path leads to changes while requests are under way: it is dropped, and created
again with other columns. Reading the metadata tells which table is there at that moment;
the handle that is read then keeps it.
-/
namespace FlussGateway.Backend

open FlussGateway.Foundation

/-- The types of the columns, in order. -/
def TableInfo.types (info : TableInfo) : List Codec.DataType := info.schema.columns.map (·.dataType)

def TableDescriptor.types (descriptor : TableDescriptor) : List Codec.DataType :=
  descriptor.schema.columns.map (·.dataType)

/-- The call may change which table the path leads to. -/
def Call.redefines (path : TablePath) : Call → Bool
  | .createTable _ p _ _ => p == path
  | .dropTable _ p _ => p == path
  | .dropDatabase _ name _ _ => name == path.database
  | _ => false

/-- A service seen as the catalogue entry of one path: the table that is there now, if any. -/
structure Catalogue (σ : Type) where
  service : Service σ
  path : TablePath
  current : σ → Option TableInfo
  read : ∀ conn s info, (service (.getTable conn path) s).1 = .ok info → current s = some info
  created : ∀ conn descriptor ignore s info,
    current (service (.createTable conn path descriptor ignore) s).2 = some info →
    current s = some info ∨ info.types = descriptor.types
  dropped : ∀ conn ignore s info, current (service (.dropTable conn path ignore) s).2 = some info →
    current s = some info
  databaseDropped : ∀ conn ignore cascade s info,
    current (service (.dropDatabase conn path.database ignore cascade) s).2 = some info →
      current s = some info
  kept : ∀ op s, op.redefines path = false → current (service op s).2 = current s

namespace Catalogue

variable {σ : Type} (cat : Catalogue σ)

/-- A table that is found at the path has these column types. -/
def Typed (types : List Codec.DataType) (s : σ) : Prop :=
  ∀ info, cat.current s = some info → info.types = types

/-- If the call creates a table at the path, it has these column types. -/
def Creates (types : List Codec.DataType) (op : Call) : Prop :=
  ∀ conn descriptor ignore, op = .createTable conn cat.path descriptor ignore →
    descriptor.types = types

variable {cat}

theorem typed_step {types : List Codec.DataType} {op : Call} {s : σ}
    (creates : cat.Creates types op)
    (typed : cat.Typed types s) : cat.Typed types (cat.service op s).2 := by
  intro info found
  cases redefines : op.redefines cat.path with
  | false =>
    rw [cat.kept op s redefines] at found
    exact typed info found
  | true =>
    cases op with
    | createTable conn p descriptor ignore =>
      obtain rfl : p = cat.path := by simpa [Call.redefines] using redefines
      -- Where a table is there already, it stays, or the call is refused.
      rcases cat.created conn descriptor ignore s info found with before | new
      · exact typed info before
      · rw [new, creates conn descriptor ignore rfl]
    | dropTable conn p ignore =>
      obtain rfl : p = cat.path := by simpa [Call.redefines] using redefines
      exact typed info (cat.dropped conn ignore s info found)
    | dropDatabase conn name ignore cascade =>
      obtain rfl : name = cat.path.database := by simpa [Call.redefines] using redefines
      exact typed info (cat.databaseDropped conn ignore cascade s info found)
    | _ => cases redefines

/-- As long as tables are created with the same column types only, every table found at the path has
them. -/
theorem typed_after {types : List Codec.DataType} {calls : List (Nat × Call)} {s : σ}
    (creates : ∀ call ∈ calls, cat.Creates types call.2) (typed : cat.Typed types s) :
    cat.Typed types (Schedule.after cat.service calls s) :=
  Schedule.after_preserves (fun _ _ => typed_step) creates typed

variable (cat)

/-- `request` reads the metadata of the path twice; it finds `info` first and `info'` later. -/
def ReadsTwice (request : Nat) (calls : List (Nat × Call)) (start : σ)
    (info info' : TableInfo) : Prop :=
  ∃ before conn between conn' later,
    calls = before ++ (request, .getTable conn cat.path) ::
      (between ++ (request, .getTable conn' cat.path) :: later) ∧
    cat.current (Schedule.after cat.service before start) = some info ∧
    cat.current
      (Schedule.after cat.service (before ++ (request, .getTable conn cat.path) :: between) start) =
      some info'

variable {cat}

theorem readsTwice_types {types : List Codec.DataType} {request : Nat}
    {calls : List (Nat × Call)} {start : σ}
    (creates : ∀ call ∈ calls, cat.Creates types call.2) (typed : cat.Typed types start)
    {info info' : TableInfo}
    (reads : cat.ReadsTwice request calls start info info') : info'.types = info.types := by
  obtain ⟨before, conn, between, conn', later, rfl, first, second⟩ := reads
  rw [← List.cons_append, ← List.append_assoc] at creates
  have creates' := (List.forall_mem_append.mp creates).1
  rw [typed_after creates' typed info' second, typed_after
    (List.forall_mem_append.mp creates').1 typed info first]

end Catalogue

/-! ## A catalogue in memory -/

/-- What is at one path: a table or nothing, and the number of tables created there. -/
structure Shelf where
  table : Option TableInfo
  created : Int64

/-- The table a descriptor leads to. -/
def TableDescriptor.describe (descriptor : TableDescriptor) (tableId : Int64) : TableInfo where
  schema :=
    ⟨descriptor.schema.columns.map fun c => ⟨c.name, c.dataType⟩,
    descriptor.schema.primaryKey.map (·.columnNames)⟩
  hasPrimaryKey := descriptor.schema.primaryKey.isSome
  tableId := tableId
  numBuckets := descriptor.bucketCount.getD 1

theorem TableDescriptor.describe_types (descriptor : TableDescriptor) (tableId : Int64) :
    (descriptor.describe tableId).types = descriptor.types := by
  simp [describe, TableInfo.types, TableDescriptor.types]

namespace Shelf

def tableExists : FlussError := ⟨15, "table already exists"⟩

def fieldCount : FlussError := ⟨-1, "field count does not match the table"⟩

def nullKey : FlussError := ⟨-1, "key with a null value"⟩

/-- What a writer answers to a row for its table: it wants a field for every column, and a whole key. -/
def taken (info : TableInfo) (row : GenericRow) : Except FlussError Unit :=
  if row.fields.length ≠ info.schema.columns.length then .error fieldCount
  else if .null ∈ info.schema.key row then .error nullKey
  else .ok ()

variable (path : TablePath) (conn : Connection)

/-- A cluster with one path, and a pool that has a connection for everyone. -/
def service : Service Shelf
  | .cacheGet _, s => (some conn, s)
  | .getTable _ p, s =>
    (if p = path then s.table.elim (.error Memory.unknownTable) .ok else .error Memory.unknownTable, s)
  | .createTable _ p descriptor ignore, s =>
    if p = path then
      match s.table with
      | some _ => (if ignore then .ok () else .error tableExists, s)
      | none => (.ok (), ⟨some (descriptor.describe (s.created + 1)), s.created + 1⟩)
    else (.error Memory.unknownTable, s)
  | .dropTable _ p ignore, s =>
    if p = path then
      match s.table with
      | some _ => (.ok (), { s with table := none })
      | none => (if ignore then .ok () else .error Memory.unknownTable, s)
    else (.error Memory.unknownTable, s)
  | .upsert t row, s | .delete t row, s =>
    (if t.path = path then taken t.info row else .error Memory.unknownTable, s)
  | op, s => ((Memory.service path ⟨⟨[], none⟩, true, 0, 1⟩ op .empty).1, s)

def catalogue : Catalogue Shelf where
  service := service path conn
  path := path
  current := table
  read _ s info returned := by
    simp only [service, if_true] at returned
    cases held : s.table with
    | none => rw [held] at returned; cases returned
    | some info' => rw [held] at returned; cases returned; rfl
  created _ descriptor ignore s info found := by
    simp only [service, if_true] at found
    cases held : s.table with
    | none =>
      rw [held] at found
      cases found
      exact .inr (descriptor.describe_types _)
    | some info' =>
      rw [held] at found
      exact .inl (held.symm.trans found)
  dropped _ ignore s info found := by
    simp only [service, if_true] at found
    cases held : s.table with
    | none => rw [held] at found; exact held.symm.trans found
    | some info' => rw [held] at found; cases found
  databaseDropped _ _ _ _ _ found := found
  kept op s other := by
    cases op with
    | createTable _ p _ _ | dropTable _ p _ =>
      have elsewhere : p ≠ path := by simpa [Call.redefines] using other
      simp only [service, if_neg elsewhere]
    | _ => rfl

end Shelf

/-! ## The handle a write works on -/

theorem getTable_follows {conn : Connection} {path : TablePath} {trace : List Exchange}
    (follows : (conn.getTable path).Follows trace) : handovers trace = [] :=
  handovers_quiet ((KvTable.getTable_quiet conn path).of_follows follows)

theorem getTable_ends {conn : Connection} {path : TablePath} {trace : List Exchange}
    {t : FlussTable} (ended : (conn.getTable path).Ends trace (.ok t)) :
    t.conn = conn ∧ t.path = path ∧ trace = [⟨.getTable conn path, .ok t.info⟩] := by
  rcases Program.ends_bind ended with ⟨_, _, same⟩ | ⟨info, before, after, asked, returned, rfl⟩
  · cases same
  · cases returned
    cases asked with
    | call rest =>
      obtain ⟨rfl, reply⟩ := Program.ends_lift rest
      obtain rfl := (Outcome.ofExcept_ok_iff flussErr _ info).mp reply
      exact ⟨rfl, rfl, rfl⟩

/-- The call hands over one of the rows to the writer of the table, or none at all. -/
def HandsOver (t : FlussTable) (rows : List GenericRow) (op : Call) : Prop :=
  ∀ reply x answer, handover ⟨op, reply⟩ = some (x, answer) → x.table = t ∧ x.row ∈ rows

theorem handsOver_quiet {t : FlussTable} {rows : List GenericRow} {op : Call}
    (quiet : op.writes = false) :
    HandsOver t rows op := by
  intro reply x answer handed
  rw [handover_quiet quiet] at handed
  cases handed

theorem sendEach_always {send : GenericRow → Gateway Unit} {P : Call → Prop}
    {rows : List GenericRow}
    (each : ∀ row ∈ rows, (send row).Always P) : (sendEach send rows).Always P := by
  induction rows with
  | nil => trivial
  | cons row rows ih =>
    exact Program.always_bind (each row List.mem_cons_self) fun _ => ih fun r member => each r
      (List.mem_cons_of_mem _ member)

theorem send_handsOver (kind : WriteKind) (t : FlussTable) {rows : List GenericRow}
    {row : GenericRow} (member : row ∈ rows) :
    (kind.writer.send t row).Always (HandsOver t rows) := by
  cases kind <;>
    exact ⟨fun reply x answer handed => by cases handed; exact ⟨rfl, member⟩,
      orFlussErr_always⟩

theorem flush_handsOver (kind : WriteKind) (t : FlussTable) (rows : List GenericRow) :
    (kind.writer.flush t).Always (HandsOver t rows) := by
  cases kind <;>
    exact ⟨fun reply x answer handed => (by cases handed), orFlussErr_always⟩

/-- A row is handed over under the metadata read last, and only if the table is of the right
kind. -/
theorem rows_handed {sha256 : Sha256} {backend : FlussBackend} {db table : String}
    {kind : WriteKind}
    {rows : List GenericRow} {creds : Option Auth.BasicAuthCredentials} {trace : List Exchange}
    (follows : (kind.rows sha256 backend db table rows creds).Follows trace) {x : Handover}
    {answer : Except FlussError Unit} (handed : (x, answer) ∈ handovers trace) :
    x.row ∈ rows ∧ x.table.path = ⟨db, table⟩ ∧ kind.writer.refuses x.table = false ∧
    ∃ before conn after,
      trace = before ++ ⟨.getTable conn ⟨db, table⟩, .ok x.table.info⟩ :: after := by
  rw [WriteKind.rows_eq, writeRows] at follows
  -- A trace that stops before the loop hands over nothing; one that gets there has `getTable` in it.
  rcases Program.follows_bind follows with opening | ⟨conn, before, rest, opened, used, rfl⟩
  · rw [handovers_quiet ((getOrCreate_quiet sha256 backend.pool _).of_follows opening)] at handed
    cases handed
  rw [handovers_append, handovers_quiet ((getOrCreate_quiet sha256 backend.pool _).of_ends opened),
    List.nil_append] at handed
  rcases Program.follows_bind used with reading | ⟨t, asked, rest, read, wrote, rfl⟩
  · rw [getTable_follows reading] at handed
    cases handed
  obtain ⟨rfl, path, rfl⟩ := getTable_ends read
  rw [handovers_append, getTable_follows read.follows, List.nil_append] at handed
  split at wrote
  · cases wrote
    cases handed
  next accepted =>
    -- From here on every call is about the handle `t`, whoever changes the catalogue meanwhile.
    obtain ⟨⟨op, reply⟩, member, taken⟩ := List.mem_filterMap.mp handed
    have all := (Program.always_bind ((create_quiet kind t).mono fun _ => handsOver_quiet) fun _ =>
      Program.always_bind (sendEach_always fun row member => send_handsOver kind t member) fun _ =>
      Program.always_bind (flush_handsOver kind t rows) fun _ =>
        Program.always_done _ _).of_follows wrote _ member
    obtain ⟨rfl, row⟩ := all reply x answer taken
    exact ⟨row, path, by simpa using accepted, before, _, rest, rfl⟩

end FlussGateway.Backend
