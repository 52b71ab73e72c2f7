import FlussGateway.Codec.Value
import FlussGateway.Foundation.FloatCast
import FlussGateway.Foundation.SortedMap

/-!
# Reading: Arrow columns to JSON

An array is indexed by its data type, so a downcast to the type's own array class is
the identity and cannot fail. `debug` stands for Arrow's `Debug` rendering of a whole
array, which the arm for all remaining types puts in the place of the cell.
-/
namespace FlussGateway.Codec

open FlussGateway.Foundation FlussGateway.Foundation.FloatCast

/-! ## Arrow arrays -/

inductive TimeUnit where
  | second
  | millisecond
  | microsecond
  | nanosecond
deriving DecidableEq

/-- The Arrow types fluss delivers columns as. `nested` stands for lists, maps and structs. -/
inductive ArrowDataType where
  | boolean
  | int8
  | int16
  | int32
  | int64
  | float32
  | float64
  | utf8
  | largeUtf8
  | binary
  | largeBinary
  | date32
  | time32 (unit : TimeUnit)
  | time64 (unit : TimeUnit)
  | timestamp (unit : TimeUnit) (timezone : Option String)
  | decimal128 (precision scale : Nat)
  | fixedSizeBinary (length : Nat)
  | nested (name : String)
deriving DecidableEq

inductive NestedValue where
  | null
  | leaf (text : String)
  | node (items : List NestedValue)
deriving Inhabited

/-- What `value(idx)` returns on an array of the type. -/
def ArrowDataType.Native : ArrowDataType → Type
  | .boolean => Bool
  | .int8 => Int8
  | .int16 => Int16
  | .int32 | .date32 | .time32 _ => Int32
  | .int64 | .time64 _ | .timestamp _ _ => Int64
  | .float32 => Float32
  | .float64 => Float
  | .utf8 | .largeUtf8 => String
  | .binary | .largeBinary => List UInt8
  | .decimal128 _ _ => BitVec 128
  | .fixedSizeBinary length => { bytes : List UInt8 // bytes.length = length }
  | .nested _ => NestedValue

instance : (T : ArrowDataType) → Inhabited T.Native
  | .boolean => ⟨false⟩
  | .int8 => ⟨(0 : Int8)⟩
  | .int16 => ⟨(0 : Int16)⟩
  | .int32 | .date32 | .time32 _ => ⟨(0 : Int32)⟩
  | .int64 | .time64 _ | .timestamp _ _ => ⟨(0 : Int64)⟩
  | .float32 => ⟨(default : Float32)⟩
  | .float64 => ⟨(default : Float)⟩
  | .utf8 | .largeUtf8 => ⟨""⟩
  | .binary | .largeBinary => ⟨([] : List UInt8)⟩
  | .decimal128 _ _ => ⟨(0 : BitVec 128)⟩
  | .fixedSizeBinary length => ⟨⟨List.replicate length 0, List.length_replicate⟩⟩
  | .nested _ => ⟨NestedValue.null⟩

/-- An array of a data type: its cells, a null cell being absent. -/
structure ArrowArray (T : ArrowDataType) where
  cells : List (Option T.Native)

abbrev Debug := (T : ArrowDataType) → ArrowArray T → String

/-! ## Cells -/

/-- Two lower-case hexadecimal digits for each byte. -/
def hexEncode (data : List UInt8) : String :=
  String.ofList (data.flatMap fun b => [Nat.digitChar (b.toNat / 16), Nat.digitChar (b.toNat % 16)])

/-- A float as a JSON number; a value that JSON cannot write becomes `0`. -/
def floatNumber (x : Float) : Number := (Number.fromF64 x).getD (.posInt 0)

/-- The arms of `arrow_value_to_json` on a cell that is not null. -/
def valueToJson (fallback : Value) : (T : ArrowDataType) → T.Native → Value
  | .boolean, v => .bool v
  | .int8, v => .number (.ofSigned (Int8.toInt64 v))
  | .int16, v => .number (.ofSigned (Int16.toInt64 v))
  | .int32, v => .number (.ofSigned (Int32.toInt64 v))
  | .int64, v => .number (.ofSigned v)
  | .float32, v => .number (floatNumber (widen v))
  | .float64, v => .number (floatNumber v)
  | .utf8, s => .string s
  | .largeUtf8, s => .string s
  | .binary, bytes => .string (hexEncode bytes)
  | .largeBinary, bytes => .string (hexEncode bytes)
  | _, _ => fallback

def arrowValueToJson (debug : Debug) {T : ArrowDataType} (array : ArrowArray T)
    (idx : Fin array.cells.length) : Value :=
  match array.cells.get idx with
  | none => .null
  | some v => valueToJson (.string (debug T array)) T v

/-! ## Record batches -/

/-- A batch over a schema: for each field one column, all of the batch's row count. -/
structure RecordBatch (fields : List (String × ArrowDataType)) where
  numRows : Nat
  column : (j : Fin fields.length) → ArrowArray (fields.get j).2
  rows : ∀ j, (column j).cells.length = numRows

variable {fields : List (String × ArrowDataType)}

/-- The value of a row in one column. -/
def RecordBatch.json (debug : Debug) (batch : RecordBatch fields) (row : Fin batch.numRows)
    (j : Fin fields.length) : Value :=
  arrowValueToJson debug (batch.column j) (row.cast (batch.rows j).symm)

/-- One row's object, its entries inserted column by column into a `serde_json::Map`. -/
def rowToJson (debug : Debug) (batch : RecordBatch fields) (row : Fin batch.numRows) : Value :=
  .object (SortedMap.insertAll (fun j => (fields.get j).1) (batch.json debug row) (List.finRange fields.length) [])

def recordBatchToJson (debug : Debug) (batch : RecordBatch fields) : List Value :=
  (List.finRange batch.numRows).map (rowToJson debug batch)

end FlussGateway.Codec
