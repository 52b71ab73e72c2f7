import FlussGateway.Backend.Write
import Mathlib.Data.List.Forall2

/-!
# The write endpoint

`produce` converts every row of the request before it writes any. One decision is then
taken for the whole batch: a primary-key table gets deletions if some row is marked so,
and upserts otherwise; a log table gets appends.
-/
namespace FlussGateway.Rest

open FlussGateway.Foundation FlussGateway.Backend FlussGateway.Codec

structure AppState where
  backend : FlussBackend
  authType : Config.AuthType

/-- A gateway with the default configuration. -/
def localState : AppState where
  backend := .new "localhost:9123" default
  authType := .none

/-! ## Converting rows -/

section Convert

variable (formats : Formats) (columns : List Column)

/-- The inner loop from field `j` on: `break` past the last column, else convert and set the field. -/
def fillRow (i : Nat) : Nat → List Value → GenericRow → Outcome GatewayError GenericRow
  | _, [], row => .ok row
  | j, value :: values, row =>
    -- Values past the last column are ignored.
    if columns.length ≤ j then .ok row
    else do
      let column ← Outcome.index columns j
      let datum ← Outcome.ofExcept
        (fun e => .badRequest ("row[" ++ toString i ++ "] field[" ++ toString j ++ "]: " ++ e.message formats))
        (jsonToDatum value column.dataType)
      let row ← row.setField j datum
      fillRow i (j + 1) values row

def convertRow (i : Nat) (prow : ProduceRow) : Outcome GatewayError GenericRow :=
  fillRow formats columns i 0 prow.values (GenericRow.new columns.length)

/-- The outer loop from row `i` on. -/
def convertRows : Nat → List ProduceRow → Outcome GatewayError (List GenericRow)
  | _, [] => .ok []
  | i, prow :: prows => do
    let row ← convertRow formats columns i prow
    let rows ← convertRows (i + 1) prows
    return row :: rows

end Convert

/-- The row is marked as a deletion. -/
def isDelete (prow : ProduceRow) : Bool := prow.changeType == some "Delete"

def produce (sha256 : Sha256) (formats : Formats) (state : AppState) (db table : String)
    (ext : Option Auth.BasicAuthCredentials) (req : ProduceRequest) : Gateway WriteResult := do
  let creds ← Program.lift (Auth.extractCreds state.authType ext)
  let tableInfo ← getTableInfo sha256 state.backend db table creds
  let rows ← Program.lift (convertRows formats tableInfo.schema.columns 0 req.rows)
  if tableInfo.schema.primaryKey.isSome then
    -- One marked row decides for all of them.
    if req.rows.any isDelete then deleteRows sha256 state.backend db table rows creds
    else upsertRows sha256 state.backend db table rows creds
  else appendRows sha256 state.backend db table rows creds

/-! ## What conversion returns -/

section Converted

variable {formats : Formats} {columns : List Column}

section Pass

variable (values : List Value) {i j : Nat} {value : Value} {row : GenericRow}

theorem fillRow_past (past : columns.length ≤ j) :
    fillRow formats columns i j (value :: values) row = .ok row := by
  simp only [fillRow, if_pos past]

variable (inside : j < columns.length)
include inside

theorem fillRow_failed {e : ConvertError}
    (converted : jsonToDatum value columns[j].dataType = .error e) :
    fillRow formats columns i j (value :: values) row = Outcome.fail (.badRequest
      ("row[" ++ toString i ++ "] field[" ++ toString j ++ "]: " ++ e.message formats)) := by
  have indexed : (Outcome.index columns j : Outcome GatewayError _) = .ok columns[j] :=
    Outcome.index_of_some (List.getElem?_eq_getElem inside)
  simp only [fillRow, if_neg (Nat.not_le.mpr inside), indexed, converted, bind, Except.bind,
    Outcome.ofExcept_error, Outcome.fail]

/-- A converted value is put in its place, and the loop goes on with the next. -/
theorem fillRow_converted (sized : row.fields.length = columns.length) {d : Datum}
    (converted : jsonToDatum value columns[j].dataType = .ok d) :
    fillRow formats columns i j (value :: values) row =
      fillRow formats columns i (j + 1) values ⟨row.fields.set j d⟩ := by
  have indexed : (Outcome.index columns j : Outcome GatewayError _) = .ok columns[j] :=
    Outcome.index_of_some (List.getElem?_eq_getElem inside)
  have placed : (row.setField j d : Outcome GatewayError _) = .ok ⟨row.fields.set j d⟩ :=
    GenericRow.setField_ok (by omega) d
  simp only [fillRow, if_neg (Nat.not_le.mpr inside), indexed, converted, bind, Except.bind,
    Outcome.ofExcept_ok, placed]

end Pass

/-- The loop leaves earlier fields alone and converts each further value at its own column. -/
theorem fillRow_ok {i j : Nat} {values : List Value} {row row' : GenericRow}
    (sized : row.fields.length = columns.length) (returned : fillRow formats columns i j values row = .ok row') :
    row'.fields.length = columns.length ∧ (∀ k, k < j → row'.fields[k]? = row.fields[k]?) ∧
    ∀ k column, columns[j + k]? = some column →
      (values[k]? = none → row'.fields[j + k]? = row.fields[j + k]?) ∧
      ∀ v, values[k]? = some v → ∃ d, jsonToDatum v column.dataType = .ok d ∧ row'.fields[j + k]? = some d := by
  induction values generalizing j row with
  | nil =>
    cases returned
    exact ⟨sized, fun _ _ => rfl, fun k column _ => ⟨fun _ => rfl, fun v found => by cases found⟩⟩
  | cons value values ih =>
    by_cases past : columns.length ≤ j
    · rw [fillRow_past values past] at returned
      cases returned
      refine ⟨sized, fun _ _ => rfl, fun k column found => ?_⟩
      have small := (List.getElem?_eq_some_iff.mp found).1
      omega
    · have small : j < columns.length := Nat.not_le.mp past
      have column : columns[j]? = some columns[j] := List.getElem?_eq_getElem small
      cases converted : jsonToDatum value columns[j].dataType with
      | error e =>
        rw [fillRow_failed values small converted] at returned
        cases returned
      | ok datum =>
        rw [fillRow_converted values small sized converted] at returned
        obtain ⟨sized', before, after⟩ := ih (by simpa using sized) returned
        -- Later passes leave the field just set alone.
        refine ⟨sized', fun k smaller => ?_, fun k c found => ?_⟩
        · rw [before k (by omega)]
          simp [List.getElem?_set_ne (show j ≠ k by omega)]
        · cases k with
          | zero =>
            rw [Nat.add_zero, column, Option.some.injEq] at found
            subst c
            refine ⟨fun absent => (by cases absent), fun v same => ⟨datum, ?_, ?_⟩⟩
            · cases same; exact converted
            · rw [Nat.add_zero, before j (by omega)]
              simp [List.getElem?_set_self (show j < row.fields.length by omega)]
          | succ k =>
            have shift : j + (k + 1) = j + 1 + k := by omega
            rw [shift] at found ⊢
            obtain ⟨kept, set⟩ := after k c found
            refine ⟨fun absent => ?_, set⟩
            rw [kept absent]
            simp [List.getElem?_set_ne (show j ≠ j + 1 + k by omega)]

/-- A converted row has one field for each column: the converted value, or null where the
request's row is shorter. -/
theorem convertRow_ok {i : Nat} {prow : ProduceRow} {row : GenericRow}
    (returned : convertRow formats columns i prow = .ok row) :
    row.fields.length = columns.length ∧ ∀ (j : Nat) (column : Column), columns[j]? = some column →
      (prow.values[j]? = none → row.fields[j]? = some .null) ∧
      ∀ v, prow.values[j]? = some v → ∃ d, jsonToDatum v column.dataType = .ok d ∧ row.fields[j]? = some d := by
  obtain ⟨sized, _, fields⟩ := fillRow_ok (GenericRow.length_new _) returned
  refine ⟨sized, fun j column found => ?_⟩
  have field := fields j column (by simpa using found)
  rw [Nat.zero_add] at field
  refine ⟨fun absent => ?_, field.2⟩
  rw [field.1 absent, GenericRow.new, List.getElem?_replicate, if_pos (List.getElem?_eq_some_iff.mp found).1]

/-- Rows correspond one to one, in order. -/
theorem convertRows_ok {i : Nat} {prows : List ProduceRow} {rows : List GenericRow}
    (returned : convertRows formats columns i prows = .ok rows) :
    List.Forall₂ (fun prow row => ∃ k, convertRow formats columns k prow = .ok row) prows rows := by
  induction prows generalizing i rows with
  | nil => cases returned; exact .nil
  | cons prow prows ih =>
    simp only [convertRows, bind, Except.bind] at returned
    cases first : convertRow formats columns i prow with
    | error e => rw [first] at returned; cases returned
    | ok row =>
      rw [first] at returned
      cases rest : convertRows formats columns (i + 1) prows with
      | error e => simp only [rest] at returned; cases returned
      | ok rows' =>
        simp only [rest] at returned
        cases returned
        exact .cons ⟨i, first⟩ (ih rest)

theorem convertRows_length {i : Nat} {prows : List ProduceRow} {rows : List GenericRow}
    (returned : convertRows formats columns i prows = .ok rows) : prows.length = rows.length :=
  (convertRows_ok returned).length_eq

end Converted

end FlussGateway.Rest
