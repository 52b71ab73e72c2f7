import FlussGateway.Codec.ArrowToJson
import FlussGateway.Types

/-!
# Column types a table is created with

`parse_data_type` compares the lower-cased name of a type with a fixed list of names. Lower
casing is Unicode's, a parameter here: the types that can be created do not depend on it.
-/
namespace FlussGateway.Codec

def typeNamed : String → Option DataType
  | "boolean" | "bool" => some .boolean
  | "tinyint" | "i8" => some .tinyInt
  | "smallint" | "i16" => some .smallInt
  | "int" | "integer" | "i32" => some .int
  | "bigint" | "long" | "i64" => some .bigInt
  | "float" | "f32" => some .float
  | "double" | "f64" => some .double
  | "string" | "varchar" => some .string
  | "bytes" | "binary" | "blob" => some .bytes
  | _ => none

def parseDataType (lowercase : String → String) (typeStr : String) : Except GatewayError DataType :=
  match typeNamed (lowercase typeStr) with
  | some T => .ok T
  | none => .error (.badRequest ("unsupported data type: " ++ lowercase typeStr))

/-- The Arrow type that fluss delivers a column type as. -/
def arrowTypeOf : DataType → Option ArrowDataType
  | .boolean => some .boolean
  | .tinyInt => some .int8
  | .smallInt => some .int16
  | .int => some .int32
  | .bigInt => some .int64
  | .float => some .float32
  | .double => some .float64
  | .string => some .utf8
  | .bytes => some .binary
  | _ => none

/-- A type that can be created is delivered as an Arrow type with an arm of its own. -/
theorem arrowTypeOf_created {lowercase : String → String} {typeStr : String} {T : DataType}
    (created : parseDataType lowercase typeStr = .ok T) : ∃ A, arrowTypeOf T = some A := by
  simp only [parseDataType] at created
  split at created
  next U named =>
    cases created
    unfold typeNamed at named
    split at named <;> cases named <;> exact ⟨_, rfl⟩
  next => cases created

end FlussGateway.Codec
