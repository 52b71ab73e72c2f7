import FlussGateway.Backend.FailedWrite
import FlussGateway.Codec.CellReading

/-!
# The result of a scan

A scan ends with the reply to its poll. The rows of all batches become one list of objects, and
the limit cuts that list, wherever a batch ends.
-/
namespace FlussGateway.Backend

open FlussGateway.Foundation

/-! ## Rows of the batches -/

/-- A row of a batch. -/
structure Place where
  batch : Batch
  row : Fin batch.rows.numRows

/-- The rows of all batches, batch by batch. -/
def places (batches : List Batch) : List Place :=
  batches.flatMap fun batch => (List.finRange batch.rows.numRows).map (Place.mk batch)

def Place.cell (place : Place) (j : Fin place.batch.fields.length) :
    Option (place.batch.fields.get j).2.Native :=
  (place.batch.rows.column j).cells.get (place.row.cast (place.batch.rows.rows j).symm)

/-- Distinct column names, and column types that JSON shows in full. -/
structure Batch.Supported (batch : Batch) : Prop where
  distinct : (batch.fields.map (·.1)).Nodup
  lossless : ∀ field ∈ batch.fields, field.2.lossless = true

/-- The entries of a row's object: the names of the columns, each with the JSON of its cell. -/
structure RowEntries (place : Place) (entries : List (String × Codec.Value)) : Prop where
  keys : (entries.map (·.1)).Perm (place.batch.fields.map (·.1))
  cell : ∀ j, entries.lookup (place.batch.fields.get j).1 =
    some (Codec.cellJson (place.batch.fields.get j).2 (place.cell j))
  null : ∀ j, entries.lookup (place.batch.fields.get j).1 = some .null ↔ place.cell j = none

def IsObjectOf (place : Place) (v : Codec.Value) : Prop :=
  ∃ entries, v = .object entries ∧ RowEntries place entries

theorem json_cell (debug : Codec.Debug) {place : Place} (supported : place.batch.Supported)
    (j : Fin place.batch.fields.length) : place.batch.rows.json debug place.row j =
      Codec.cellJson (place.batch.fields.get j).2 (place.cell j) := by
  have lossless := supported.lossless _ (List.get_mem place.batch.fields j)
  exact Codec.arrowValueToJson_cell lossless debug _ _

theorem rowToJson_isObjectOf (debug : Codec.Debug) {place : Place}
    (supported : place.batch.Supported) :
    IsObjectOf place (Codec.rowToJson debug place.batch.rows place.row) := by
  -- The columns are visited in the order of the schema, each once.
  have names : (List.finRange place.batch.fields.length).map
      (fun j => (place.batch.fields.get j).1) = place.batch.fields.map (·.1) := by
    have columns := congrArg (List.map (·.1)) (List.map_get_finRange place.batch.fields)
    rw [List.map_map] at columns
    exact columns
  have cells : ∀ j, (SortedMap.insertAll (fun j => (place.batch.fields.get j).1)
      (place.batch.rows.json debug place.row) (List.finRange place.batch.fields.length) []).lookup
        (place.batch.fields.get j).1 =
      some (Codec.cellJson (place.batch.fields.get j).2 (place.cell j)) := by
    intro j
    rw [← json_cell debug supported j]
    apply SortedMap.lookup_insertAll_distinct (fun j => (place.batch.fields.get j).1)
    · rw [names]
      exact supported.distinct
    · exact List.mem_finRange j
  refine ⟨_, rfl, ?_, cells, fun j => ?_⟩
  -- Both lists of names are without repetition, so equal members are enough.
  · have once := SortedMap.nodup_keys (SortedMap.sorted_insertAll
      (fun j => (place.batch.fields.get j).1) (place.batch.rows.json debug place.row)
      (List.finRange place.batch.fields.length) .nil)
    refine (List.perm_ext_iff_of_nodup once supported.distinct).mpr fun name => ?_
    rw [SortedMap.mem_keys_insertAll, names]
  · have lossless := supported.lossless _ (List.get_mem place.batch.fields j)
    rw [cells j, Option.some.injEq]
    exact Codec.cellJson_null_iff lossless _

/-! ## The list of objects -/

/-- What a scan without limit makes of the batches. -/
def scanned (debug : Codec.Debug) (batches : List Batch) : List Codec.Value :=
  batches.flatMap fun batch => Codec.recordBatchToJson debug batch.rows

theorem scanned_eq (debug : Codec.Debug) (batches : List Batch) :
    scanned debug batches =
      (places batches).map fun place => Codec.rowToJson debug place.batch.rows place.row := by
  unfold scanned places
  rw [List.map_flatMap]
  refine List.flatMap_congr fun batch _ => ?_
  rw [Codec.recordBatchToJson, List.map_map]
  rfl

theorem scanned_rows (debug : Codec.Debug) {batches : List Batch}
    (supported : ∀ batch ∈ batches, batch.Supported) :
    List.Forall₂ IsObjectOf (places batches) (scanned debug batches) := by
  rw [scanned_eq, List.forall₂_map_right_iff, List.forall₂_same]
  intro place member
  -- A row of the list is a row of one of the batches.
  obtain ⟨batch, inside, here⟩ := List.mem_flatMap.mp member
  obtain ⟨row, _, rfl⟩ := List.mem_map.mp here
  exact rowToJson_isObjectOf debug (supported batch inside)

/-! ## The scan -/

def IsPoll : Call → Prop
  | .poll _ _ => True
  | _ => False

theorem project_always {P : Call → Prop} (t : FlussTable) (each : ∀ columns, P (.project t columns))
    (projection : Option (List Nat)) : (projection.elim (pure ()) t.project).Always P := by
  cases projection with
  | none => trivial
  | some columns => exact ⟨each columns, orFlussErr_always⟩

theorem subscribeEach_always {P : Call → Prop} (t : FlussTable) (each : ∀ id, P (.subscribe t id))
    (ids : List Nat) : (FlussBackend.subscribeEach t ids).Always P := by
  induction ids with
  | nil => trivial
  | cons id ids ih =>
    apply Program.always_bind
    · exact ⟨each id, orFlussErr_always⟩
    · exact fun _ => ih

section Scan

variable (sha256 : Sha256) (debug : Codec.Debug) (backend : FlussBackend)
  (creds : Option Auth.BasicAuthCredentials) (db table : String)

/-- What a scan makes of the reply to its poll. -/
def scanOf (limit : Option Nat) :
    Except FlussError (List Batch) → Outcome GatewayError (List Codec.Value)
  | .ok batches => .ok (limit.elim (scanned debug batches) (scanned debug batches).take)
  | .error e => Outcome.fail (flussErr e)

/-- The reply to the poll decides what the scan returns. -/
theorem scan_endsOn (params : ScanParams) (t : FlussTable) (timeoutMs : UInt64)
    (batches : List Batch) :
    (backend.scan sha256 creds debug db table params).EndsOn ⟨.poll t timeoutMs, .ok batches⟩
      (.ok (params.limit.elim (scanned debug batches) (scanned debug batches).take)) := by
  have polls : ¬¬IsPoll (.poll t timeoutMs) := not_not_intro trivial
  -- Nothing before the poll is a poll.
  refine .bind (P := (¬IsPoll ·))
    (getOrCreate_always _ _ _ (fun _ => id) (fun _ => id) fun _ _ => id) polls fun conn => ?_
  refine .bind (P := (¬IsPoll ·))
    (Program.always_bind ⟨id, orFlussErr_always⟩ fun _ => trivial) polls fun flussTable => ?_
  refine .bind (P := (¬IsPoll ·)) (project_always _ (fun _ => id) _) polls fun _ => ?_
  refine .bind (P := (¬IsPoll ·)) ⟨id, orFlussErr_always⟩ polls fun _ => ?_
  refine .bind (P := (¬IsPoll ·)) (subscribeEach_always _ (fun _ => id) _) polls fun _ => ?_
  apply Program.EndsOn.last (scanOf debug params.limit)
  · rintro (e | batches)
    · rfl
    · cases params.limit <;> rfl
  · rintro reply same
    cases same
    rfl

/-- Any batches may be what the poll of a scan returns. -/
theorem scan_polls (params : ScanParams) (batches : List Batch) : ∃ t timeoutMs trace,
    (backend.scan sha256 creds debug db table params).Follows trace ∧
      (⟨.poll t timeoutMs, .ok batches⟩ : Exchange) ∈ trace := by
  let conn : Connection := ⟨0, ⟨"", "", "", "", ""⟩⟩
  -- A table without buckets, so that there is nothing to subscribe to.
  let t : FlussTable := ⟨conn, ⟨db, table⟩, ⟨⟨[], none⟩, false, 0, 0⟩⟩
  let opened : List Exchange :=
    [⟨.cacheGet (backend.key sha256 creds), some conn⟩, ⟨.getTable conn t.path, .ok t.info⟩]
  let polled : List Exchange :=
    [⟨.createScanner t, .ok ()⟩, ⟨.poll t (params.timeoutMs.getD 5000), .ok batches⟩]
  obtain ⟨projection, limit, timeoutMs⟩ := params
  cases projection with
  | none =>
    refine ⟨t, timeoutMs.getD 5000, opened ++ polled, ?_, by simp [polled]⟩
    exact .call (.call (.call (.call (.here _))))
  | some columns =>
    refine ⟨t, timeoutMs.getD 5000, opened ++ ⟨.project t columns, .ok ()⟩ :: polled, ?_,
      by simp [polled]⟩
    exact .call (.call (.call (.call (.call (.here _)))))

end Scan

/-! ## What the scan returns -/

/-- For the batches its poll returns: a scan without limit returns one object for each row, in
order, and a scan with a limit the first of them. -/
structure Assembles (operation : ScanParams → Gateway (List Codec.Value)) (batches : List Batch)
    (output : List Codec.Value) : Prop where
  rows : List.Forall₂ IsObjectOf (places batches) output
  polled : ∀ params, ∃ t timeoutMs trace, (operation params).Follows trace ∧
    (⟨.poll t timeoutMs, .ok batches⟩ : Exchange) ∈ trace
  whole : ∀ params t timeoutMs, params.limit = none →
    (operation params).EndsOn ⟨.poll t timeoutMs, .ok batches⟩ (.ok output)
  cut : ∀ params t timeoutMs n, params.limit = some n →
    ∃ front, (operation params).EndsOn ⟨.poll t timeoutMs, .ok batches⟩ (.ok front) ∧
      front <+: output ∧ front.length = min n output.length
  /-- Smaller limits give prefixes of larger ones. -/
  nested : ∀ params params' t timeoutMs m n, params.limit = some m → params'.limit = some n →
    m ≤ n → ∃ front front',
      (operation params).EndsOn ⟨.poll t timeoutMs, .ok batches⟩ (.ok front) ∧
      (operation params').EndsOn ⟨.poll t timeoutMs, .ok batches⟩ (.ok front') ∧
      front <+: front'
  /-- Two cells of a column are shown alike exactly when they are equal. -/
  shown : ∀ batch ∈ batches, ∀ field ∈ batch.fields, ∀ cell cell' : Option field.2.Native,
    Codec.cellJson field.2 cell = Codec.cellJson field.2 cell' ↔ cell = cell'

theorem scan_assembles (sha256 : Sha256) (debug : Codec.Debug) (backend : FlussBackend)
    (creds : Option Auth.BasicAuthCredentials) (db table : String) {batches : List Batch}
    (supported : ∀ batch ∈ batches, batch.Supported) :
    ∃ output, Assembles (backend.scan sha256 creds debug db table) batches output := by
  have ends := scan_endsOn sha256 debug backend creds db table
  refine ⟨scanned debug batches, ?_⟩
  constructor
  · exact scanned_rows debug supported
  · exact fun params => scan_polls sha256 debug backend creds db table params batches
  · intro params t timeoutMs unlimited
    have ended := ends params t timeoutMs batches
    rw [unlimited] at ended
    exact ended
  · intro params t timeoutMs n limited
    have ended := ends params t timeoutMs batches
    rw [limited] at ended
    exact ⟨_, ended, List.take_prefix .., List.length_take ..⟩
  · intro params params' t timeoutMs m n limited limited' le
    have ended := ends params t timeoutMs batches
    have ended' := ends params' t timeoutMs batches
    rw [limited] at ended
    rw [limited'] at ended'
    exact ⟨_, _, ended, ended', List.take_prefix_take_left le⟩
  · intro batch inside field member
    exact Codec.cellJson_inj ((supported batch inside).lossless field member)

/-- A batch of two rows, the second with a null. -/
def numbered : Batch where
  fields := [("id", .int32), ("tag", .binary)]
  rows := {
    numRows := 2
    column := fun
      | ⟨0, _⟩ => ⟨[some (1 : Int32), some (2 : Int32)]⟩
      | ⟨1, _⟩ => ⟨[some ([0xde, 0xad] : List UInt8), none]⟩
    rows := fun
      | ⟨0, _⟩ => rfl
      | ⟨1, _⟩ => rfl }

theorem scan_assembles_numbered :
    ∃ output, Assembles (sampleBackend.scan sampleSha256 none (fun _ _ => "") "app" "users")
      [numbered, numbered] output :=
  scan_assembles _ _ _ _ _ _ (by
    rintro batch member
    have same : batch = numbered := by simpa using member
    subst same
    exact ⟨by decide, by decide⟩)

end FlussGateway.Backend
