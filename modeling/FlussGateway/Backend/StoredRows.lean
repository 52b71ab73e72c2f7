import FlussGateway.Backend.ScanResult
import FlussGateway.Codec.RoundTrip

/-!
# Rows as a lookup shows them

A lookup is answered with a batch of one row, or of none. Whatever Arrow types the columns come in, the
row is shown as one object with the JSON of each field under the name of its column.
-/
namespace FlussGateway.Codec

/-- A field of a stored row as JSON shows it. -/
def Datum.json : Datum → Value
  | .null => .null
  | .bool b => .bool b
  | .int8 n => .number (.ofSigned n.toInt64)
  | .int16 n => .number (.ofSigned n.toInt64)
  | .int32 n => .number (.ofSigned n.toInt64)
  | .int64 n => .number (.ofSigned n)
  | .float32 x => .number (floatNumber (Foundation.FloatCast.widen x))
  | .float64 x => .number (floatNumber x)
  | .string s => .string s
  | .blob bytes => .string (hexEncode bytes)

/-- The delivered cell stands for the field; it is null only for a field that is. -/
def Delivers {A : ArrowDataType} (cell : Option A.Native) (d : Datum) : Prop :=
  cellDatum cell = d ∧ (d = .null → cell = none)

theorem arrowValueToJson_delivers (debug : Debug) {A : ArrowDataType} (array : ArrowArray A)
    (idx : Fin array.cells.length) {d : Datum} (delivers : Delivers (array.cells.get idx) d) :
    arrowValueToJson debug array idx = d.json := by
  obtain ⟨rfl, null⟩ := delivers
  unfold arrowValueToJson
  cases cell : array.cells.get idx with
  | none => rfl
  | some v =>
    rw [cell] at null
    -- A cell of a type that no field is stored as stands for no field.
    cases A <;> first | rfl | exact absurd (null rfl) nofun

end FlussGateway.Codec

namespace FlussGateway.Backend

open FlussGateway.Foundation

/-- A row of a batch stands for a stored row. -/
structure Place.Delivers (place : Place) (schema : Schema) (row : GenericRow) : Prop where
  names : place.batch.fields.map (·.1) = schema.columns.map (·.name)
  cells : ∀ j : Fin place.batch.fields.length,
    ∃ d, row.fields[j.1]? = some d ∧ Codec.Delivers (place.cell j) d

/-- A batch that says what is held under a key. -/
def Batch.Answers (batch : Batch) (schema : Schema) : Option GenericRow → Prop
  | none => batch.rows.numRows = 0
  | some row => batch.rows.numRows = 1 ∧ ∀ i, Place.Delivers ⟨batch, i⟩ schema row

/-- The object of a stored row. -/
structure RowObject (schema : Schema) (row : GenericRow) (entries : List (String × Codec.Value)) :
    Prop where
  keys : (entries.map (·.1)).Perm (schema.columns.map (·.name))
  field : ∀ (j : Nat) (column : Column), schema.columns[j]? = some column →
    ∃ d, row.fields[j]? = some d ∧ entries.lookup column.name = some d.json

/-- The values show what is held. -/
def Shows (schema : Schema) (values : List Codec.Value) : Option GenericRow → Prop
  | none => values = []
  | some row => ∃ entries, values = [.object entries] ∧ RowObject schema row entries

section Shows

variable {schema : Schema}

theorem rowToJson_rowObject (debug : Codec.Debug) (distinct : (schema.columns.map (·.name)).Nodup)
    {place : Place} {row : GenericRow} (delivers : place.Delivers schema row) :
    ∃ entries, Codec.rowToJson debug place.batch.rows place.row = .object entries ∧
      RowObject schema row entries := by
  obtain ⟨named, cells⟩ := delivers
  have names : (List.finRange place.batch.fields.length).map
      (fun j => (place.batch.fields.get j).1) = schema.columns.map (·.name) := by
    have columns := congrArg (List.map (·.1)) (List.map_get_finRange place.batch.fields)
    rw [List.map_map] at columns
    exact columns.trans named
  refine ⟨_, rfl, ?_, fun j column here => ?_⟩
  · have once := SortedMap.nodup_keys (SortedMap.sorted_insertAll
      (fun j => (place.batch.fields.get j).1) (place.batch.rows.json debug place.row)
      (List.finRange place.batch.fields.length) .nil)
    refine (List.perm_ext_iff_of_nodup once distinct).mpr fun name => ?_
    rw [SortedMap.mem_keys_insertAll, names]
  · -- The column's field of the batch, by its position.
    have at_ : (place.batch.fields.map (·.1))[j]? = some column.name := by
      rw [named, List.getElem?_map, here]
      rfl
    obtain ⟨field, found, same⟩ := List.getElem?_map ▸ at_ |> Option.map_eq_some_iff.mp
    obtain ⟨inside, rfl⟩ := List.getElem?_eq_some_iff.mp found
    obtain ⟨d, stored, delivered⟩ := cells ⟨j, inside⟩
    refine ⟨d, stored, ?_⟩
    rw [← same, ← Codec.arrowValueToJson_delivers debug _ _ delivered]
    exact SortedMap.lookup_insertAll_distinct (fun j => (place.batch.fields.get j).1) _ _
      (by rw [names]; exact distinct) (List.mem_finRange ⟨j, inside⟩)

/-- The answer to a lookup is shown as the row that is held, or as nothing. -/
theorem Batch.Answers.shows (debug : Codec.Debug) (distinct : (schema.columns.map (·.name)).Nodup)
    {batch : Batch} {held : Option GenericRow} (answers : batch.Answers schema held) :
    Shows schema (Codec.recordBatchToJson debug batch.rows) held := by
  cases held with
  | none =>
    have empty : batch.rows.numRows = 0 := answers
    refine List.map_eq_nil_iff.mpr (List.eq_nil_of_length_eq_zero ?_)
    rw [List.length_finRange, empty]
  | some row =>
    obtain ⟨one, delivers⟩ := answers
    obtain ⟨i, single⟩ : ∃ i, List.finRange batch.rows.numRows = [i] :=
      List.length_eq_one_iff.mp (by rw [List.length_finRange, one])
    obtain ⟨entries, shown, object⟩ := rowToJson_rowObject debug distinct (delivers i)
    exact ⟨entries, by rw [Codec.recordBatchToJson, single, List.map_singleton, shown], object⟩

end Shows

/-! ## Answers that are made from the row -/

/-- The type a field is delivered as. -/
def deliveredType : Codec.Datum → Codec.ArrowDataType
  | .null | .bool _ => .boolean
  | .int8 _ => .int8
  | .int16 _ => .int16
  | .int32 _ => .int32
  | .int64 _ => .int64
  | .float32 _ => .float32
  | .float64 _ => .float64
  | .string _ => .utf8
  | .blob _ => .binary

def deliveredCell : (A : Codec.ArrowDataType) → Codec.Datum → Option A.Native
  | .boolean, .bool b => some b
  | .int8, .int8 n => some n
  | .int16, .int16 n => some n
  | .int32, .int32 n => some n
  | .int64, .int64 n => some n
  | .float32, .float32 x => some x
  | .float64, .float64 x => some x
  | .utf8, .string s => some s
  | .binary, .blob bytes => some bytes
  | _, _ => none

theorem deliveredCell_delivers (d : Codec.Datum) :
    Codec.Delivers (deliveredCell (deliveredType d) d) d := by
  cases d with
  | null => exact ⟨rfl, fun _ => rfl⟩
  | _ => exact ⟨rfl, nofun⟩

namespace Schema

variable (schema : Schema)

/-- The batch of the row that is held under a key, if any. -/
def batch (held : Option GenericRow) : Batch where
  fields := (schema.columns.zip ((held.map (·.fields)).getD [])).map fun x =>
    (x.1.name, deliveredType x.2)
  rows :=
    { numRows := if held.isSome then 1 else 0
      column := fun j => ⟨(held.map fun row => deliveredCell _ (row.fields[j.1]?.getD .null)).toList⟩
      rows := fun j => by cases held <;> rfl }

theorem batch_answers {held : Option GenericRow}
    (fits : ∀ row ∈ held, row.fields.length = schema.columns.length) :
    (schema.batch held).Answers schema held := by
  cases held with
  | none => rfl
  | some row =>
    have length := fits row rfl
    refine ⟨rfl, fun i => ⟨?_, fun j => ?_⟩⟩
    · have columns : (schema.columns.zip row.fields).map (·.1) = schema.columns :=
        List.map_fst_zip (by omega)
      have named := congrArg (List.map (·.name)) columns
      rw [List.map_map] at named
      exact (List.map_map ..).trans named
    · have inside : j.1 < row.fields.length := by
        have bound := j.2
        simp only [batch, Option.map_some, Option.getD_some, List.length_map, List.length_zip] at bound
        omega
      have type : ((schema.batch (some row)).fields.get j).2 = deliveredType row.fields[j.1] := by
        rw [List.get_eq_getElem]
        simp only [batch, Option.map_some, Option.getD_some, List.getElem_map, List.getElem_zip]
      obtain rfl : i = ⟨0, Nat.one_pos⟩ := Fin.ext (by have := i.2; simp [batch] at this; omega)
      refine ⟨row.fields[j.1], List.getElem?_eq_getElem inside, ?_⟩
      have cell : Place.cell ⟨schema.batch (some row), ⟨0, Nat.one_pos⟩⟩ j =
          deliveredCell _ (row.fields[j.1]?.getD .null) := rfl
      rw [cell, List.getElem?_eq_getElem inside, Option.getD_some, type]
      exact deliveredCell_delivers _

end Schema

end FlussGateway.Backend
