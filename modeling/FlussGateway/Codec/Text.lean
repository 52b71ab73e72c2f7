import FlussGateway.Foundation.Decimal

/-!
# Reading numbers and booleans from text

The readers behind `str::parse` at the types the gateway uses it for. Integers go
through the range-checked decimal reader; a float literal is first taken apart into
sign, decimal mantissa and decimal exponent and then rounded once, to nearest even.
-/
namespace FlussGateway.Codec

open FlussGateway.Foundation

/-! ## Integers and booleans -/

def minOf (bits : Nat) : Int := -2 ^ (bits - 1)

def maxOf (bits : Nat) : Int := 2 ^ (bits - 1) - 1

/-- Read a literal into a signed machine integer of the given width. -/
def parseWidth {α : Type} (bits : Nat) (ofInt : Int → α) (s : String) : Except Decimal.IntError α :=
  (Decimal.parseInt (minOf bits) (maxOf bits) s.toList).map ofInt

/-- `str::parse::<i32>`. -/
def parseI32 : String → Except Decimal.IntError Int32 := parseWidth 32 Int32.ofInt

/-- `str::parse::<i64>`. -/
def parseI64 : String → Except Decimal.IntError Int64 := parseWidth 64 Int64.ofInt

/-- `str::parse::<bool>`; the only error is that the text is neither literal. -/
def parseBool (s : String) : Except Unit Bool :=
  if s = "true" then .ok true else if s = "false" then .ok false else .error ()

/-- A machine-integer reader accepts exactly the literals that denote a value of its type. -/
theorem parseWidth_ok_iff {α : Type} (bits : Nat) (ofInt : Int → α) (toInt : α → Int)
    (back : ∀ n, ofInt (toInt n) = n)
    (kept : ∀ v, minOf bits ≤ v → v ≤ maxOf bits → toInt (ofInt v) = v)
    (inside : ∀ n, minOf bits ≤ toInt n ∧ toInt n ≤ maxOf bits)
    (s : String) (n : α) :
    parseWidth bits ofInt s = .ok n ↔ Decimal.reading s.toList = some (toInt n) := by
  have positive : (0 : Int) < 2 ^ (bits - 1) := by positivity
  have spec := Decimal.parseInt_ok_iff (minOf bits) (maxOf bits)
    (by simp only [minOf]; omega) (by simp only [maxOf]; omega) s.toList
  unfold parseWidth
  constructor
  -- The reader stays in range, where the conversions are inverse.
  · intro returned
    cases read : Decimal.parseInt (minOf bits) (maxOf bits) s.toList with
    | error e => simp [read, Except.map] at returned
    | ok v =>
      obtain ⟨value, least, greatest⟩ := (spec v).mp read
      have same : ofInt v = n := by simpa [read, Except.map] using returned
      rw [value, ← same, kept v least greatest]
  · intro value
    rw [(spec (toInt n)).mpr ⟨value, inside n⟩]
    simp [Except.map, back]

theorem int32_range (n : Int32) : minOf 32 ≤ n.toInt ∧ n.toInt ≤ maxOf 32 := by
  have lower := n.le_toInt
  have upper := n.toInt_lt
  change -2 ^ 31 ≤ _ ∧ _ ≤ 2 ^ 31 - 1
  omega

theorem int64_range (n : Int64) : minOf 64 ≤ n.toInt ∧ n.toInt ≤ maxOf 64 := by
  have lower := n.le_toInt
  have upper := n.toInt_lt
  change -2 ^ 63 ≤ _ ∧ _ ≤ 2 ^ 63 - 1
  omega

theorem parseI32_ok_iff (s : String) (n : Int32) :
    parseI32 s = .ok n ↔ Decimal.reading s.toList = some n.toInt := by
  apply parseWidth_ok_iff 32 Int32.ofInt Int32.toInt (by simp) _ int32_range
  intro v least greatest
  change -2 ^ 31 ≤ v at least
  change v ≤ 2 ^ 31 - 1 at greatest
  exact Int32.toInt_ofInt_of_le least (by omega)

theorem parseI64_ok_iff (s : String) (n : Int64) :
    parseI64 s = .ok n ↔ Decimal.reading s.toList = some n.toInt := by
  apply parseWidth_ok_iff 64 Int64.ofInt Int64.toInt (by simp) _ int64_range
  intro v least greatest
  change -2 ^ 63 ≤ v at least
  change v ≤ 2 ^ 63 - 1 at greatest
  exact Int64.toInt_ofInt_of_le least (by omega)

/-! ## Floats -/

inductive FloatError where
  | empty
  | invalid
deriving DecidableEq

/-- A float literal without its sign. -/
inductive FloatLiteral where
  | nan
  | infinity
  | decimal (mantissa : Nat) (exponent : Int)
deriving DecidableEq

/-- The digits of an exponent; it stops growing once it is past every format's range. -/
def exponentDigits (digits : List Char) : Nat :=
  digits.foldl (fun e c => if e < 0x10000 then 10 * e + (c.toNat - '0'.toNat) else e) 0

/-- The exponent after the mantissa: nothing, or a marker and at least one digit. -/
def parseScientific : List Char → Option Int
  | [] => some 0
  | marker :: rest =>
    let (negative, digits) := Decimal.splitSign rest
    if (marker = 'e' ∨ marker = 'E') ∧ digits ≠ [] ∧ digits.all Char.isDigit = true then
      some (Decimal.signed negative (exponentDigits digits))
    else none

/-- Digits around at most one point, at least one of them, and an optional exponent. -/
def parseNumber (text : List Char) : Option FloatLiteral :=
  let (whole, rest) := text.span Char.isDigit
  let (fraction, rest) := match rest with
    | '.' :: rest => rest.span Char.isDigit
    | rest => ([], rest)
  if whole = [] ∧ fraction = [] then none
  else (parseScientific rest).map fun e =>
    .decimal (Nat.ofDigitChars 10 (whole ++ fraction) 0) (e - fraction.length)

def parseInfNan (text : List Char) : Option FloatLiteral :=
  let word := text.map Char.toLower
  if word = "nan".toList then some .nan
  else if word = "inf".toList ∨ word = "infinity".toList then some .infinity
  else none

/-- The literal a text stands for, and whether it has a minus sign. -/
def parseFloat (s : String) : Except FloatError (Bool × FloatLiteral) :=
  if s.toList = [] then .error .empty
  else
    let (negative, text) := Decimal.splitSign s.toList
    match (parseNumber text).orElse fun _ => parseInfNan text with
    | some literal => .ok (negative, literal)
    | none => .error .invalid

def FloatLiteral.toF64 : FloatLiteral → Float
  | .nan => .ofModel (.pack .notANumber)
  | .infinity => .ofModel (.pack (.infinity .positive))
  | .decimal m e => .ofModel (.ofScientific m e)

def FloatLiteral.toF32 : FloatLiteral → Float32
  | .nan => .ofModel (.pack .notANumber)
  | .infinity => .ofModel (.pack (.infinity .positive))
  | .decimal m e => .ofModel (.ofScientific m e)

/-- `str::parse::<f64>`. -/
def parseF64 (s : String) : Except FloatError Float :=
  (parseFloat s).map fun (negative, literal) => if negative then -literal.toF64 else literal.toF64

/-- `str::parse::<f32>`. -/
def parseF32 (s : String) : Except FloatError Float32 :=
  (parseFloat s).map fun (negative, literal) => if negative then -literal.toF32 else literal.toF32

end FlussGateway.Codec
