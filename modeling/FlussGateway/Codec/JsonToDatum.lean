import FlussGateway.Codec.Text
import FlussGateway.Codec.Value
import FlussGateway.Foundation.FloatCast

/-!
# Writing: JSON values to cells

`json_to_datum` pairs a JSON value with a column type. Integers from JSON numbers go
through `as` casts, which keep the low bits of a value that does not fit; integers from
strings go through the range-checked readers, and only for two of the four widths.
-/
namespace FlussGateway.Codec

open FlussGateway.Foundation FlussGateway.Foundation.FloatCast

/-- The errors of `json_to_datum`, with the data their messages quote. -/
inductive ConvertError where
  | expected (what : String) (n : Number)
  | invalidInt (what s : String) (e : Decimal.IntError)
  | invalidBool (s : String)
  | invalidFloat (what s : String) (e : FloatError)
  | cannotConvert (v : Value) (dt : DataType)

/-- The third-party renderings that error messages quote. -/
structure Formats where
  number : Number → String
  value : Value → String
  dataType : DataType → String

def intErrorText : Decimal.IntError → String
  | .empty => "cannot parse integer from empty string"
  | .invalidDigit => "invalid digit found in string"
  | .posOverflow => "number too large to fit in target type"
  | .negOverflow => "number too small to fit in target type"

def floatErrorText : FloatError → String
  | .empty => "cannot parse float from empty string"
  | .invalid => "invalid float literal"

def ConvertError.message (formats : Formats) : ConvertError → String
  | .expected what n => "expected " ++ what ++ ", got " ++ formats.number n
  | .invalidInt what s e => "invalid " ++ what ++ " '" ++ s ++ "': " ++ intErrorText e
  | .invalidBool s => "invalid bool '" ++ s ++ "': provided string was not `true` or `false`"
  | .invalidFloat what s e => "invalid " ++ what ++ " '" ++ s ++ "': " ++ floatErrorText e
  | .cannotConvert v dt => "cannot convert " ++ formats.value v ++ " to " ++ formats.dataType dt

/-- `ok_or_else` on a number's reading at a type. -/
def expect (what : String) (n : Number) : Option Datum → Except ConvertError Datum
  | some d => .ok d
  | none => .error (.expected what n)

def utf8 (s : String) : List UInt8 := s.toByteArray.data.toList

def jsonToDatum : Value → DataType → Except ConvertError Datum
  | .null, _ => .ok .null
  | .bool v, .boolean => .ok (.bool v)
  -- An `as` cast keeps the low bits of the 64-bit integer.
  | .number n, .tinyInt => expect "tinyint" n (n.asI64.map fun v => .int8 v.toInt8)
  | .number n, .smallInt => expect "smallint" n (n.asI64.map fun v => .int16 v.toInt16)
  | .number n, .int => expect "int" n (n.asI64.map fun v => .int32 v.toInt32)
  | .number n, .bigInt => expect "bigint" n (n.asI64.map .int64)
  | .number n, .float => expect "float" n (n.asF64.map fun v => .float32 (narrow v))
  | .number n, .double => expect "double" n (n.asF64.map .float64)
  | .string s, .string => .ok (.string s)
  | .string s, .char _ => .ok (.string s)
  | .string s, .bytes => .ok (.blob (utf8 s))
  | .string s, .binary _ => .ok (.blob (utf8 s))
  -- Of the integer types only these two read text.
  | .string s, .int => ((parseI32 s).map .int32).mapError (.invalidInt "int" s)
  | .string s, .bigInt => ((parseI64 s).map .int64).mapError (.invalidInt "bigint" s)
  | .string s, .boolean => ((parseBool s).map .bool).mapError fun _ => .invalidBool s
  | .string s, .float => ((parseF32 s).map .float32).mapError (.invalidFloat "float" s)
  | .string s, .double => ((parseF64 s).map .float64).mapError (.invalidFloat "double" s)
  | v, dt => .error (.cannotConvert v dt)

/-! ## Integers -/

/-- The width of an integer column. -/
def DataType.intBits : DataType → Option Nat
  | .tinyInt => some 8
  | .smallInt => some 16
  | .int => some 32
  | .bigInt => some 64
  | _ => none

/-- The integer a cell holds. -/
def Datum.integer : Datum → Option Int
  | .int8 n => some n.toInt
  | .int16 n => some n.toInt
  | .int32 n => some n.toInt
  | .int64 n => some n.toInt
  | _ => none

/-- The integer a JSON value denotes: an integral number, or a string that reads as one. -/
def Value.integer : Value → Option Int
  | .number (.posInt n) => some n.toNat
  | .number (.negInt n _) => some n.toInt
  | .string s => Decimal.reading s.toList
  | _ => none

theorem integer_of_asI64 {n : Number} {i : Int64} (read : n.asI64 = some i) :
    (Value.number n).integer = some i.toInt := by
  cases n with
  | posInt n =>
    simp only [Number.asI64] at read
    split at read
    next small =>
      cases read
      have whole : n.toInt64.toInt = (n.toNat : Int) := by
        change n.toBitVec.toInt = _
        rw [BitVec.toInt_eq_toNat_of_lt (by change 2 * n.toNat < 2 ^ 64; omega)]
        rfl
      simp only [Value.integer, whole]
    next => cases read
  | negInt n _ => cases read; rfl
  | float x _ => cases read

/-- A number that `as_i64` rejects denotes no integer of 64 signed bits. -/
theorem large_of_asI64_none {n : Number} {z : Int} (read : n.asI64 = none)
    (value : (Value.number n).integer = some z) : 2 ^ 63 ≤ z := by
  cases n with
  | posInt n =>
    simp only [Number.asI64] at read
    split at read
    next => cases read
    next large =>
      simp only [Value.integer, Option.some.injEq] at value
      omega
  | negInt n _ => cases read
  | float x _ => cases value

/-- A number at an integer column is rejected by `as_i64`, or keeps its low bits. -/
theorem number_at_int_column (n : Number) (T : DataType) (bits : Nat) (width : T.intBits = some bits) :
    (n.asI64 = none ∧ ∃ e, jsonToDatum (.number n) T = .error e) ∨
    ∃ i d, n.asI64 = some i ∧ jsonToDatum (.number n) T = .ok d ∧
      d.integer = some (i.toInt.bmod (2 ^ bits)) := by
  cases read : n.asI64 with
  | none =>
    left
    refine ⟨rfl, ?_⟩
    cases T <;> cases width <;> simp [jsonToDatum, read, expect]
  | some i =>
    right
    cases T <;> cases width <;> simp [jsonToDatum, read, expect, Datum.integer]

/-- A string at an integer column is rejected or stored as the integer it reads as. -/
theorem string_at_int_column (s : String) (T : DataType) (bits : Nat) (width : T.intBits = some bits)
    (d : Datum) (returned : jsonToDatum (.string s) T = .ok d) :
    ∃ z, d.integer = some z ∧ Decimal.reading s.toList = some z ∧ minOf bits ≤ z ∧ z ≤ maxOf bits := by
  -- Only `INT` and `BIGINT` are left: the narrower types refuse every string.
  cases T <;> cases width <;> simp only [jsonToDatum, reduceCtorEq] at returned
  · cases read : parseI32 s with
    | error e => simp [read, Except.map, Except.mapError] at returned
    | ok n =>
      have same : Datum.int32 n = d := by simpa [read, Except.map, Except.mapError] using returned
      subst same
      exact ⟨n.toInt, rfl, (parseI32_ok_iff s n).mp read, int32_range n⟩
  · cases read : parseI64 s with
    | error e => simp [read, Except.map, Except.mapError] at returned
    | ok n =>
      have same : Datum.int64 n = d := by simpa [read, Except.map, Except.mapError] using returned
      subst same
      exact ⟨n.toInt, rfl, (parseI64_ok_iff s n).mp read, int64_range n⟩

end FlussGateway.Codec
