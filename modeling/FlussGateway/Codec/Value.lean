import Mathlib.Algebra.Ring.Nat
import Mathlib.Data.List.Basic

/-!
# Values of the two codecs

JSON values as the request parser delivers them, and the column types and cell values
of fluss. Signed machine integers and the two float widths are Lean's own; a cell
therefore cannot leave its width.
-/
namespace FlussGateway.Codec

/-! ## JSON -/

/-- `serde_json::Number`: a non-negative integer, a negative one, or a finite float. -/
inductive Number where
  | posInt (n : UInt64)
  | negInt (n : Int64) (negative : n < 0)
  | float (x : Float) (finite : x.isFinite = true)
deriving DecidableEq

namespace Number

def asI64 : Number → Option Int64
  | .posInt n => if n.toNat < 2 ^ 63 then some n.toInt64 else none
  | .negInt n _ => some n
  | .float _ _ => none

def asF64 : Number → Option Float
  | .posInt n => some n.toFloat
  | .negInt n _ => some n.toFloat
  | .float x _ => some x

/-- `Number::from` on a signed integer. -/
def ofSigned (n : Int64) : Number := if h : n < 0 then .negInt n h else .posInt n.toUInt64

/-- `Number::from_f64`. -/
def fromF64 (x : Float) : Option Number := if h : x.isFinite = true then some (.float x h) else none

end Number

/-- `serde_json::Value`. Objects list their entries in the order of their keys. -/
inductive Value where
  | null
  | bool (b : Bool)
  | number (n : Number)
  | string (s : String)
  | array (items : List Value)
  | object (entries : List (String × Value))

/-! ## Column types and cells -/

/-- `fluss::metadata::DataType`, with the parameters of each type. -/
inductive DataType where
  | boolean
  | tinyInt
  | smallInt
  | int
  | bigInt
  | float
  | double
  | char (length : Nat)
  | string
  | decimal (precision scale : Nat)
  | date
  | time (precision : Nat)
  | timestamp (precision : Nat)
  | timestampLTz (precision : Nat)
  | bytes
  | binary (length : Nat)
  | array (element : DataType)
  | map (key value : DataType)
  | row (fields : List (String × DataType))

/-- The cell values `fluss::row::Datum` that the gateway builds. -/
inductive Datum where
  | null
  | bool (b : Bool)
  | int8 (n : Int8)
  | int16 (n : Int16)
  | int32 (n : Int32)
  | int64 (n : Int64)
  | float32 (x : Float32)
  | float64 (x : Float)
  | string (s : String)
  | blob (bytes : List UInt8)
deriving DecidableEq

end FlussGateway.Codec
