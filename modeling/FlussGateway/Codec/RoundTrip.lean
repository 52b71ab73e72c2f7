import FlussGateway.Codec.ColumnTypes
import FlussGateway.Codec.JsonToDatum

/-!
# Writing back what a read returned

Reading renders a cell as JSON and writing converts JSON to a cell. The two are inverse on
every cell that JSON can hold as it is. Bytes are read as the text of their hexadecimal
digits and non-finite floats as `0`, and these are what writing back stores.
-/
namespace FlussGateway.Codec

open FlussGateway.Foundation.FloatCast

/-- The cell of a fluss table that a delivered value stands for. -/
def ArrowDataType.datum : (A : ArrowDataType) → A.Native → Datum
  | .boolean, b => .bool b
  | .int8, n => .int8 n
  | .int16, n => .int16 n
  | .int32, n => .int32 n
  | .int64, n => .int64 n
  | .float32, x => .float32 x
  | .float64, x => .float64 x
  | .utf8, s => .string s
  | .binary, bytes => .blob bytes
  | _, _ => .null

def cellDatum {A : ArrowDataType} : Option A.Native → Datum
  | none => .null
  | some v => A.datum v

/-- The cell that writing back the JSON of a cell stores. -/
def Datum.readBack : Datum → Datum
  | .float32 x => .float32 (if x.isFinite then x else 0)
  | .float64 x => .float64 (if x.isFinite then x else 0)
  | .blob bytes => .blob (utf8 (hexEncode bytes))
  | d => d

/-- The cells that JSON holds as they are. -/
def Datum.representable : Datum → Bool
  | .float32 x => x.isFinite
  | .float64 x => x.isFinite
  | .blob bytes => bytes.isEmpty
  | _ => true

/-! ## Integers and floats -/

@[simp] theorem asI64_ofSigned (n : Int64) : (Number.ofSigned n).asI64 = some n := by
  unfold Number.ofSigned
  split
  next => rfl
  next nonnegative =>
    -- Without a sign bit the two readings of the word agree.
    have sign : 0 ≤ n.toInt := by
      have := Int64.not_lt.mp nonnegative
      simpa [Int64.le_iff_toInt_le] using this
    have value : n.toUInt64.toNat = n.toInt.toNat := by
      change n.toBitVec.toNat = n.toBitVec.toInt.toNat
      rw [BitVec.toInt_eq_toNat_cond]
      split
      · simp
      next large =>
        have := n.toBitVec.isLt
        change 0 ≤ n.toBitVec.toInt at sign
        rw [BitVec.toInt_eq_toNat_cond, if_neg large] at sign
        omega
    have small : n.toUInt64.toNat < 2 ^ 63 := by
      rw [value]
      have := n.toInt_lt
      omega
    have back : n.toUInt64.toInt64 = n := rfl
    rw [Number.asI64, if_pos small, back]

@[simp] theorem asF64_floatNumber (x : Float) :
    (floatNumber x).asF64 = some (if x.isFinite then x else 0) := by
  unfold floatNumber Number.fromF64
  split
  next => rfl
  next infinite =>
    have zero : (Number.posInt 0).asF64 = some 0 := by decide +kernel
    exact zero

theorem expect_ofSigned (what : String) (n : Int64) (store : Int64 → Datum) :
    expect what (.ofSigned n) ((Number.ofSigned n).asI64.map store) = .ok (store n) := by
  rw [asI64_ofSigned]
  rfl

theorem expect_floatNumber (what : String) (x : Float) (store : Float → Datum) :
    expect what (floatNumber x) ((floatNumber x).asF64.map store) =
      .ok (store (if x.isFinite then x else 0)) := by
  rw [asF64_floatNumber]
  rfl

theorem narrow_read (x : Float32) :
    narrow (if (widen x).isFinite then widen x else 0) = if x.isFinite then x else 0 := by
  rw [isFinite_widen]
  split
  · exact narrow_widen x
  · decide +kernel

/-! ## Bytes -/

theorem utf8_ofList (text : List Char) : utf8 (String.ofList text) = text.flatMap String.utf8EncodeChar := by
  simp [utf8, List.utf8Encode]

theorem length_le_utf8 (text : List Char) : text.length ≤ (utf8 (String.ofList text)).length := by
  rw [utf8_ofList]
  induction text with
  | nil => simp
  | cons c text ih =>
    have size := c.utf8Size_pos
    simp only [List.flatMap_cons, List.length_append, List.length_cons, String.length_utf8EncodeChar]
    omega

/-- The text of the digits is longer than the bytes it stands for. -/
theorem hexEncode_back_iff (bytes : List UInt8) : utf8 (hexEncode bytes) = bytes ↔ bytes = [] := by
  constructor
  · intro same
    have longer := length_le_utf8
      (bytes.flatMap fun b => [Nat.digitChar (b.toNat / 16), Nat.digitChar (b.toNat % 16)])
    have twice : (bytes.flatMap fun b =>
        [Nat.digitChar (b.toNat / 16), Nat.digitChar (b.toNat % 16)]).length = 2 * bytes.length := by
      rw [List.length_flatMap]
      simp [Nat.mul_comm]
    -- The text has two characters, so at least two bytes, for each byte.
    rw [← hexEncode, same, twice] at longer
    exact List.length_eq_zero_iff.mp (by omega)
  · rintro rfl
    rfl

/-! ## The round trip -/

theorem readBack_eq_iff (d : Datum) : d.readBack = d ↔ d.representable = true := by
  have zero32 : (0 : Float32).isFinite = true := by decide +kernel
  have zero64 : (0 : Float).isFinite = true := by decide +kernel
  cases d with
  | float32 x =>
    simp only [Datum.readBack, Datum.representable, Datum.float32.injEq, ite_eq_left_iff]
    exact ⟨fun same => by_contra fun infinite => infinite (same infinite ▸ zero32), absurd⟩
  | float64 x =>
    simp only [Datum.readBack, Datum.representable, Datum.float64.injEq, ite_eq_left_iff]
    exact ⟨fun same => by_contra fun infinite => infinite (same infinite ▸ zero64), absurd⟩
  | blob bytes => simp [Datum.readBack, Datum.representable, hexEncode_back_iff]
  | _ => simp [Datum.readBack, Datum.representable]

theorem jsonToDatum_value {T : DataType} {A : ArrowDataType} (delivered : arrowTypeOf T = some A)
    (fallback : Value) (v : A.Native) :
    jsonToDatum (valueToJson fallback A v) T = .ok (A.datum v).readBack := by
  cases T with
  | boolean => cases delivered; rfl
  | tinyInt =>
    cases delivered
    exact (expect_ofSigned _ _ _).trans (congrArg (fun n => Except.ok (Datum.int8 n)) (Int8.toInt8_toInt64 v))
  | smallInt =>
    cases delivered
    exact (expect_ofSigned _ _ _).trans (congrArg (fun n => Except.ok (Datum.int16 n)) (Int16.toInt16_toInt64 v))
  | int =>
    cases delivered
    exact (expect_ofSigned _ _ _).trans (congrArg (fun n => Except.ok (Datum.int32 n)) (Int32.toInt32_toInt64 v))
  | bigInt => cases delivered; exact expect_ofSigned _ v .int64
  | float =>
    cases delivered
    exact (expect_floatNumber _ _ _).trans (congrArg (fun x => Except.ok (Datum.float32 x)) (narrow_read v))
  | double => cases delivered; exact expect_floatNumber _ v .float64
  | string => cases delivered; rfl
  | bytes => cases delivered; rfl
  | _ => cases delivered

/-- What writing stores for the JSON of a cell, null or not. -/
theorem jsonToDatum_read (debug : Debug) {T : DataType} {A : ArrowDataType}
    (delivered : arrowTypeOf T = some A) (array : ArrowArray A) (idx : Fin array.cells.length) :
    jsonToDatum (arrowValueToJson debug array idx) T = .ok (cellDatum (array.cells.get idx)).readBack := by
  unfold arrowValueToJson
  cases array.cells.get idx with
  | none => rfl
  | some v => exact jsonToDatum_value delivered _ v

/-- Over every type that can be created and every cell delivered for it: writing back the
JSON of the cell stores `readBack` of it, which is the cell itself exactly when the cell is
neither a non-finite float nor a non-empty run of bytes. -/
theorem write_read (lowercase : String → String) (debug : Debug) (typeStr : String) (T : DataType)
    (created : parseDataType lowercase typeStr = .ok T) :
    ∃ A, arrowTypeOf T = some A ∧ ∀ (array : ArrowArray A) (idx : Fin array.cells.length),
      jsonToDatum (arrowValueToJson debug array idx) T = .ok (cellDatum (array.cells.get idx)).readBack ∧
      (jsonToDatum (arrowValueToJson debug array idx) T = .ok (cellDatum (array.cells.get idx)) ↔
        (cellDatum (array.cells.get idx)).representable = true) := by
  obtain ⟨A, delivered⟩ := arrowTypeOf_created created
  refine ⟨A, delivered, fun array idx => ?_⟩
  have stored := jsonToDatum_read debug delivered array idx
  refine ⟨stored, ?_⟩
  rw [stored, Except.ok.injEq]
  exact readBack_eq_iff _

theorem write_read_bigint : ∃ A, arrowTypeOf .bigInt = some A ∧
    ∀ (array : ArrowArray A) (idx : Fin array.cells.length),
      jsonToDatum (arrowValueToJson (fun _ _ => "") array idx) .bigInt =
        .ok (cellDatum (array.cells.get idx)).readBack ∧
      (jsonToDatum (arrowValueToJson (fun _ _ => "") array idx) .bigInt = .ok (cellDatum (array.cells.get idx)) ↔
        (cellDatum (array.cells.get idx)).representable = true) :=
  write_read (fun s => String.ofList (s.toList.map Char.toLower)) (fun _ _ => "") "BIGINT" .bigInt rfl

/-- The byte `de` comes back as the two letters of its hexadecimal text, NaN as zero. -/
theorem write_read_loses :
    jsonToDatum (arrowValueToJson (fun _ _ => "") (T := .binary) ⟨[some [0xde]]⟩ ⟨0, by decide⟩) .bytes =
      .ok (.blob [0x64, 0x65]) ∧
    jsonToDatum (arrowValueToJson (fun _ _ => "") (T := .float64) ⟨[some (0 / 0 : Float)]⟩ ⟨0, by decide⟩) .double =
      .ok (.float64 0) ∧
    ¬∀ (debug : Debug) (lowercase : String → String) (typeStr : String) (T : DataType)
        (A : ArrowDataType) (array : ArrowArray A) (idx : Fin array.cells.length),
      parseDataType lowercase typeStr = .ok T → arrowTypeOf T = some A →
        jsonToDatum (arrowValueToJson debug array idx) T = .ok (cellDatum (array.cells.get idx)) := by
  refine ⟨?_, ?_, ?_⟩
  · rw [jsonToDatum_read (T := .bytes) _ rfl]
    exact congrArg (fun bytes => Except.ok (Datum.blob bytes)) (by decide)
  · rw [jsonToDatum_read (T := .double) _ rfl]
    exact congrArg (fun x => Except.ok (Datum.float64 x)) (by decide +kernel)
  · intro inverse
    have equal := inverse (fun _ _ => "") id "bytes" .bytes .binary ⟨[some [0xde]]⟩ ⟨0, by decide⟩ rfl rfl
    rw [jsonToDatum_read (T := .bytes) _ rfl, Except.ok.injEq, readBack_eq_iff] at equal
    cases equal

end FlussGateway.Codec
