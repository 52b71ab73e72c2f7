import FlussGateway.Rest.WriteSchema

/-!
# Rows of a write request

The nested loops of `produce` either stop at the first value that does not convert, row by row
and field by field, or convert every row of the request.
-/
namespace FlussGateway.Rest

open FlussGateway.Foundation FlussGateway.Backend FlussGateway.Codec

/-! ## Types of converted values -/

/-- The variant of a cell that is not null belongs to the column type. -/
def isOfType : Datum → DataType → Bool
  | .bool _, .boolean => true
  | .int8 _, .tinyInt => true
  | .int16 _, .smallInt => true
  | .int32 _, .int => true
  | .int64 _, .bigInt => true
  | .float32 _, .float => true
  | .float64 _, .double => true
  | .string _, .string => true
  | .string _, .char _ => true
  | .blob _, .bytes => true
  | .blob _, .binary _ => true
  | _, _ => false

theorem expect_ok {what : String} {n : Number} {read : Option Datum} {d : Datum}
    (accepted : expect what n read = .ok d) : read = some d := by
  cases read <;> cases accepted
  rfl

theorem map_mapError_ok {α β ε ε' : Type} {r : Except ε α} {f : α → β} {g : ε → ε'} {b : β}
    (accepted : (r.map f).mapError g = .ok b) : ∃ a, f a = b := by
  cases r <;> cases accepted
  exact ⟨_, rfl⟩

/-- Null converts to null, and any other value to a cell of the column's type. -/
theorem jsonToDatum_type {v : Value} {T : DataType} {d : Datum}
    (converted : jsonToDatum v T = .ok d) : v = .null ∧ d = .null ∨ isOfType d T = true := by
  unfold jsonToDatum at converted
  split at converted
  case h_1 =>
    cases converted
    exact .inl ⟨rfl, rfl⟩
  all_goals right
  -- The arms for numbers, then those for texts that are parsed, then the others.
  case h_3 | h_4 | h_5 | h_6 | h_7 | h_8 =>
    obtain ⟨v, _, rfl⟩ := Option.map_eq_some_iff.mp (expect_ok converted)
    rfl
  case h_13 | h_14 | h_15 | h_16 | h_17 =>
    obtain ⟨v, rfl⟩ := map_mapError_ok converted
    rfl
  all_goals
    cases converted
    try rfl

/-! ## Values that do not convert -/

section Failures

variable (columns : List Column)

def FieldFails (values : List Value) (j : Nat) (e : ConvertError) : Prop :=
  ∃ v column, values[j]? = some v ∧ columns[j]? = some column ∧
    jsonToDatum v column.dataType = .error e

/-- The value at row `i`, position `j` has a column and does not convert to its type. -/
def ValueFails (prows : List ProduceRow) (i j : Nat) (e : ConvertError) : Prop :=
  ∃ prow, prows[i]? = some prow ∧ FieldFails columns prow.values j e

/-- The first such value, row by row. -/
structure FirstFailure (prows : List ProduceRow) (i j : Nat) (e : ConvertError) : Prop where
  fails : ValueFails columns prows i j e
  first : ∀ i' j' e', ValueFails columns prows i' j' e' → i < i' ∨ i = i' ∧ j ≤ j'

/-- One field for each column: the converted value where the request has one, else null. -/
structure RowMatches (prow : ProduceRow) (row : GenericRow) : Prop where
  length : row.fields.length = columns.length
  given : ∀ (j : Nat) (v : Value) (column : Column), prow.values[j]? = some v →
    columns[j]? = some column → ∃ d, jsonToDatum v column.dataType = .ok d ∧
      row.fields[j]? = some d ∧ (d ≠ .null → isOfType d column.dataType = true)
  missing : ∀ j < columns.length, prow.values.length ≤ j → row.fields[j]? = some .null

end Failures

/-- The answer that names a value. -/
def fieldError (formats : Formats) (i j : Nat) (e : ConvertError) : GatewayError :=
  .badRequest ("row[" ++ toString i ++ "] field[" ++ toString j ++ "]: " ++ e.message formats)

section Loops

variable {columns : List Column}

theorem fieldFails_nil (values : List Value) (j : Nat) (e : ConvertError) :
    ¬FieldFails [] values j e := by
  rintro ⟨_, _, _, absent, _⟩
  cases absent

theorem fieldFails_zero (column : Column) (v : Value) (values : List Value) (e : ConvertError) :
    FieldFails (column :: columns) (v :: values) 0 e ↔
      jsonToDatum v column.dataType = .error e := by
  constructor
  · rintro ⟨_, _, same, same', fails⟩
    cases same
    cases same'
    exact fails
  · exact fun fails => ⟨v, column, rfl, rfl, fails⟩

/-- From field `j` on, the loop stops at the first value that fails, or fills the row. -/
theorem fillRow_cases (formats : Formats) (i j : Nat) (values : List Value) {row : GenericRow}
    (sized : row.fields.length = columns.length) :
    (∃ k e, FieldFails (columns.drop j) values k e ∧
      (∀ k' e', FieldFails (columns.drop j) values k' e' → k ≤ k') ∧
      fillRow formats columns i j values row = Outcome.fail (fieldError formats i (j + k) e)) ∨
    ((∀ k e, ¬FieldFails (columns.drop j) values k e) ∧
      ∃ row', fillRow formats columns i j values row = .ok row') := by
  induction values generalizing j row with
  | nil =>
    refine .inr ⟨?_, row, rfl⟩
    rintro k e ⟨_, _, absent, _⟩
    cases absent
  | cons value values ih =>
    by_cases inside : j < columns.length
    · rw [List.drop_eq_getElem_cons inside]
      cases converted : jsonToDatum value columns[j].dataType with
      | error e =>
        refine .inl ⟨0, e, (fieldFails_zero ..).mpr converted, fun _ _ _ => Nat.zero_le _, ?_⟩
        exact fillRow_failed values inside converted
      | ok d =>
        rw [fillRow_converted values inside sized converted]
        -- The value here converts, so the rest of the row decides.
        have here : ∀ e,
            ¬FieldFails (columns[j] :: columns.drop (j + 1)) (value :: values) 0 e := by
          intro e fails
          rw [fieldFails_zero, converted] at fails
          cases fails
        have resized : (GenericRow.mk (row.fields.set j d)).fields.length = columns.length := by
          simpa using sized
        rcases ih (j + 1) resized with ⟨k, e, fails, first, stops⟩ | ⟨none, filled⟩
        · refine .inl ⟨k + 1, e, fails, ?_, ?_⟩
          · rintro (_ | k') e' fails'
            · exact absurd fails' (here e')
            · exact Nat.succ_le_succ (first k' e' fails')
          · rw [stops, Nat.add_right_comm, Nat.add_assoc]
        · refine .inr ⟨?_, filled⟩
          rintro (_ | k) e fails
          · exact here e fails
          · exact none k e fails
    · have past := Nat.not_lt.mp inside
      rw [List.drop_eq_nil_of_le past]
      refine .inr ⟨fieldFails_nil (value :: values), row, ?_⟩
      exact fillRow_past values past

theorem convertRow_matches {formats : Formats} {i : Nat} {prow : ProduceRow} {row : GenericRow}
    (returned : convertRow formats columns i prow = .ok row) : RowMatches columns prow row := by
  obtain ⟨sized, fields⟩ := convertRow_ok returned
  refine ⟨sized, fun j v column given found => ?_, fun j inside short => ?_⟩
  · obtain ⟨d, converted, placed⟩ := (fields j column found).2 v given
    exact ⟨d, converted, placed, fun filled =>
      (jsonToDatum_type converted).resolve_left fun null => filled null.2⟩
  · exact (fields j _ (List.getElem?_eq_getElem inside)).1 (List.getElem?_eq_none short)

/-- From row `i` on, the loops stop at the first value that fails, or convert every row. -/
theorem convertRows_cases (formats : Formats) (columns : List Column) (i : Nat)
    (prows : List ProduceRow) :
    (∃ k j e, FirstFailure columns prows k j e ∧
      convertRows formats columns i prows = Outcome.fail (fieldError formats (i + k) j e)) ∨
    ((∀ k j e, ¬ValueFails columns prows k j e) ∧ ∃ rows,
      convertRows formats columns i prows = .ok rows ∧
        List.Forall₂ (RowMatches columns) prows rows) := by
  induction prows generalizing i with
  | nil =>
    refine .inr ⟨?_, [], rfl, .nil⟩
    rintro k j e ⟨_, absent, _⟩
    cases absent
  | cons prow prows ih =>
    simp only [convertRows, bind, Except.bind]
    have row := fillRow_cases formats i 0 prow.values (GenericRow.length_new columns.length)
    rw [List.drop_zero] at row
    -- The first row decides if one of its values fails, and else the rows after it.
    rcases row with ⟨j, e, fails, first, stops⟩ | ⟨none, row, filled⟩
    · refine .inl ⟨0, j, e, ⟨⟨prow, rfl, fails⟩, ?_⟩, ?_⟩
      · rintro (_ | k) j' e' ⟨prow', found, fails'⟩
        · cases found
          exact .inr ⟨rfl, first j' e' fails'⟩
        · exact .inl (Nat.succ_pos k)
      · rw [convertRow, stops, Nat.zero_add]
        rfl
    · rw [convertRow, filled]
      have here : ∀ j e, ¬ValueFails columns (prow :: prows) 0 j e := by
        rintro j e ⟨prow', found, fails⟩
        cases found
        exact none j e fails
      dsimp only
      rcases ih (i + 1) with ⟨k, j, e, ⟨fails, first⟩, stops⟩ | ⟨none', rows, all, matched⟩
      · refine .inl ⟨k + 1, j, e, ⟨fails, ?_⟩, ?_⟩
        · rintro (_ | k') j' e' fails'
          · exact absurd fails' (here j' e')
          · rcases first k' j' e' fails' with before | ⟨rfl, le⟩
            · exact .inl (Nat.succ_lt_succ before)
            · exact .inr ⟨rfl, le⟩
        · rw [stops, Nat.add_right_comm, Nat.add_assoc]
          rfl
      · rw [all]
        refine .inr ⟨?_, row :: rows, rfl, .cons (convertRow_matches filled) matched⟩
        rintro (_ | k) j e fails
        · exact here j e fails
        · exact none' k j e fails

end Loops

/-! ## The request as a whole -/

/-- Once the table has been read, `produce` is left with the refusal of the first value that does
not convert, or with the write of all its rows. -/
theorem produce_conversion {sha256 : Sha256} (formats : Formats) {state : AppState}
    {db table : String} {ext creds : Option Auth.BasicAuthCredentials} (req : ProduceRequest)
    {trace : List Exchange} {info : TableInfo}
    (admitted : Auth.extractCreds state.authType ext = .ok creds)
    (read : (getTableInfo sha256 state.backend db table creds).Ends trace (.ok info)) :
    ((∃ i j e, ValueFails info.schema.columns req.rows i j e) →
      ∃ i j e, FirstFailure info.schema.columns req.rows i j e ∧
        (produce sha256 formats state db table ext req).Becomes trace
          (.done (Outcome.fail (.badRequest ("row[" ++ toString i ++ "] field[" ++ toString j ++
            "]: " ++ e.message formats))))) ∧
    ((∀ i j e, ¬ValueFails info.schema.columns req.rows i j e) →
      ∃ rows, List.Forall₂ (RowMatches info.schema.columns) req.rows rows ∧
        (produce sha256 formats state db table ext req).Becomes trace
          ((writeKind info req).rows sha256 state.backend db table rows creds)) := by
  -- With the metadata read, only the conversion and the write are left.
  have left : (produce sha256 formats state db table ext req).Becomes trace
      (Program.lift (convertRows formats info.schema.columns 0 req.rows) >>= fun rows =>
        (writeKind info req).rows sha256 state.backend db table rows creds) := by
    rw [produce_eq, admitted]
    exact read.becomes _
  rcases convertRows_cases formats info.schema.columns 0 req.rows with
    ⟨i, j, e, first, stops⟩ | ⟨none, rows, all, matched⟩
  · refine ⟨fun _ => ⟨i, j, e, first, ?_⟩, fun none => absurd first.fails (none i j e)⟩
    rw [stops, Nat.zero_add] at left
    exact left
  · refine ⟨?_, fun _ => ⟨rows, matched, ?_⟩⟩
    · rintro ⟨i, j, e, fails⟩
      exact absurd fails (none i j e)
    · rw [all] at left
      exact left

/-- The metadata of the table `users`, read through a cached connection. -/
def usersRead : List Exchange :=
  [⟨.cacheGet (localState.backend.key sampleSha256 none), some sampleConnection⟩,
   ⟨.getTable sampleConnection samplePath, .ok sampleInfo⟩]

theorem usersRead_ends :
    (getTableInfo sampleSha256 localState.backend "app" "users" none).Ends usersRead
      (.ok sampleInfo) :=
  .call (.call (.done _))

/-- The second row has a boolean for a name. -/
def badName : ProduceRequest :=
  ⟨[⟨[.number (.posInt 1)], none⟩, ⟨[.number (.posInt 2), .bool true], none⟩]⟩

theorem produce_conversion_badName :
    ∃ i j e, FirstFailure sampleInfo.schema.columns badName.rows i j e ∧
      (produce sampleSha256 sampleLibrary.formats localState "app" "users" none badName).Becomes
        usersRead (.done (Outcome.fail (.badRequest ("row[" ++ toString i ++ "] field[" ++
          toString j ++ "]: " ++ e.message sampleLibrary.formats)))) :=
  (produce_conversion _ badName rfl usersRead_ends).1
    ⟨1, 1, .cannotConvert (.bool true) .string, _, rfl, _, _, rfl, rfl, rfl⟩

end FlussGateway.Rest
