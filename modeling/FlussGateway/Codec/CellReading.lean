import FlussGateway.Codec.CellLocality
import FlussGateway.Codec.RoundTrip

/-!
# Reading a cell back from its JSON

Integers, booleans and texts are shown as they are, and bytes as two hexadecimal digits each. The
cell can be read back from each of them at the type of its column.
-/
namespace FlussGateway.Codec

/-- The types whose cells JSON shows in full. -/
def ArrowDataType.lossless : ArrowDataType → Bool
  | .boolean | .int8 | .int16 | .int32 | .int64 | .utf8 | .largeUtf8 | .binary
  | .largeBinary => true
  | _ => false

/-- The JSON of a cell, apart from the array it stands in. -/
def cellJson (T : ArrowDataType) : Option T.Native → Value
  | none => .null
  | some v => valueToJson .null T v

/-! ## Bytes -/

def readDigit (c : Char) : Nat := if c.isDigit then c.toNat - 48 else c.toNat - 87

/-- Two digits are one byte. -/
def readBytes : List Char → List UInt8
  | high :: low :: rest => UInt8.ofNat (16 * readDigit high + readDigit low) :: readBytes rest
  | _ => []

theorem readDigit_digitChar {d : Nat} (small : d < 16) : readDigit (Nat.digitChar d) = d := by
  have all : ∀ d : Fin 16, readDigit (Nat.digitChar d) = d := by decide
  exact all ⟨d, small⟩

theorem readBytes_hexEncode (bytes : List UInt8) : readBytes (hexEncode bytes).toList = bytes := by
  rw [hexEncode, String.toList_ofList]
  induction bytes with
  | nil => rfl
  | cons b bytes ih =>
    have bound := b.toNat_lt
    have high : b.toNat / 16 < 16 := by omega
    have low : b.toNat % 16 < 16 := by omega
    -- The two digits are the halves of the byte.
    have whole : 16 * (b.toNat / 16) + b.toNat % 16 = b.toNat := by omega
    rw [List.flatMap_cons, List.cons_append, List.cons_append, List.nil_append, readBytes,
      readDigit_digitChar high, readDigit_digitChar low, whole, ih, UInt8.ofNat_toNat]

/-! ## Cells -/

theorem map_asI64_ofSigned {α : Type} (n : Int64) (store : Int64 → α) :
    (Number.ofSigned n).asI64.map store = some (store n) := by
  rw [asI64_ofSigned]
  rfl

/-- The cell that a JSON value shows at a type. -/
def readCell : (T : ArrowDataType) → Value → Option T.Native
  | .boolean, .bool b => some b
  | .int8, .number n => n.asI64.map Int64.toInt8
  | .int16, .number n => n.asI64.map Int64.toInt16
  | .int32, .number n => n.asI64.map Int64.toInt32
  | .int64, .number n => n.asI64
  | .utf8, .string s => some s
  | .largeUtf8, .string s => some s
  | .binary, .string s => some (readBytes s.toList)
  | .largeBinary, .string s => some (readBytes s.toList)
  | _, _ => none

section Lossless

variable {T : ArrowDataType} (lossless : T.lossless = true)
include lossless

theorem readCell_cellJson (cell : Option T.Native) : readCell T (cellJson T cell) = cell := by
  cases cell with
  | none => cases T <;> rfl
  | some v =>
    cases T with
    | boolean | utf8 | largeUtf8 => rfl
    -- Widening to 64 bits loses nothing.
    | int8 => exact (map_asI64_ofSigned _ _).trans (congrArg some (Int8.toInt8_toInt64 v))
    | int16 => exact (map_asI64_ofSigned _ _).trans (congrArg some (Int16.toInt16_toInt64 v))
    | int32 => exact (map_asI64_ofSigned _ _).trans (congrArg some (Int32.toInt32_toInt64 v))
    | int64 => exact asI64_ofSigned v
    | binary | largeBinary => exact congrArg some (readBytes_hexEncode v)
    | _ => cases lossless

/-- Two cells of one type are shown alike exactly when they are equal. -/
theorem cellJson_inj (cell cell' : Option T.Native) :
    cellJson T cell = cellJson T cell' ↔ cell = cell' :=
  (Function.LeftInverse.injective (readCell_cellJson lossless)).eq_iff

theorem cellJson_null_iff (cell : Option T.Native) : cellJson T cell = .null ↔ cell = none :=
  cellJson_inj lossless cell none

/-- The arms for these types look at the cell alone. -/
theorem arrowValueToJson_cell (debug : Debug) (array : ArrowArray T)
    (idx : Fin array.cells.length) :
    arrowValueToJson debug array idx = cellJson T (array.cells.get idx) := by
  have arm : T.hasArm = true := by cases T <;> first | rfl | cases lossless
  unfold arrowValueToJson
  cases array.cells.get idx with
  | none => rfl
  | some v => exact valueToJson_of_hasArm arm _ _ v

end Lossless

end FlussGateway.Codec
