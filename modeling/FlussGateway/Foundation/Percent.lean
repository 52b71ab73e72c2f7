import Mathlib.Data.List.Basic

/-!
# Percent coding

A byte that is not unreserved is written as a mark and two hexadecimal digits. Decoding
takes any such group back and leaves every other byte alone.
-/
namespace FlussGateway.Foundation.Percent

def mark : UInt8 := 0x25

def hexDigit (n : UInt8) : UInt8 := if n < 10 then 0x30 + n else 0x37 + n

def hexValue (d : UInt8) : Option UInt8 :=
  if 0x30 ≤ d ∧ d ≤ 0x39 then some (d - 0x30)
  else if 0x41 ≤ d ∧ d ≤ 0x46 then some (d - 0x37)
  else if 0x61 ≤ d ∧ d ≤ 0x66 then some (d - 0x57)
  else none

def decode : List UInt8 → List UInt8
  | b :: hi :: lo :: rest =>
    if b = mark then
      match hexValue hi, hexValue lo with
      | some h, some l => (16 * h + l) :: decode rest
      | _, _ => b :: decode (hi :: lo :: rest)
    else b :: decode (hi :: lo :: rest)
  | b :: rest => b :: decode rest
  | [] => []

/-- Letters, digits and `- . _ ~`. -/
def unreserved (b : UInt8) : Bool :=
  (0x30 ≤ b && b ≤ 0x39) || (0x41 ≤ b && b ≤ 0x5A) || (0x61 ≤ b && b ≤ 0x7A) ||
    b == 0x2D || b == 0x2E || b == 0x5F || b == 0x7E

def encodeByte (b : UInt8) : List UInt8 :=
  if unreserved b then [b] else [mark, hexDigit (b / 16), hexDigit (b % 16)]

def encode (bytes : List UInt8) : List UInt8 := bytes.flatMap encodeByte

/-! ## Round trip -/

theorem hexValue_hexDigit {n : UInt8} (small : n < 16) : hexValue (hexDigit n) = some n := by
  have each : ∀ k < 16, hexValue (hexDigit (UInt8.ofNat k)) = some (UInt8.ofNat k) := by decide
  have bound : n.toNat < 16 := UInt8.lt_iff_toNat_lt.mp small
  simpa using each n.toNat bound

/-- The two digits of a byte. -/
theorem halves (b : UInt8) : b / 16 < 16 ∧ b % 16 < 16 ∧ 16 * (b / 16) + b % 16 = b := by
  have bound := b.toNat_lt
  refine ⟨UInt8.lt_iff_toNat_lt.mpr ?_, UInt8.lt_iff_toNat_lt.mpr ?_, UInt8.toNat_inj.mp ?_⟩ <;>
    simp <;> omega

theorem decode_cons_of_ne {b : UInt8} (other : b ≠ mark) (rest : List UInt8) :
    decode (b :: rest) = b :: decode rest := by
  match rest with
  | [] => rfl
  | [_] => rfl
  | hi :: lo :: rest => rw [decode, if_neg other]

theorem decode_encodeByte (b : UInt8) (rest : List UInt8) :
    decode (encodeByte b ++ rest) = b :: decode rest := by
  unfold encodeByte
  split
  next plain =>
    refine decode_cons_of_ne ?_ rest
    rintro rfl
    cases plain
  next =>
    obtain ⟨high, low, whole⟩ := halves b
    simp only [List.cons_append, List.nil_append, decode, if_true, hexValue_hexDigit high,
      hexValue_hexDigit low, whole]

theorem decode_encode (bytes : List UInt8) : decode (encode bytes) = bytes := by
  induction bytes with
  | nil => rfl
  | cons b bytes ih =>
    show decode (encodeByte b ++ encode bytes) = _
    rw [decode_encodeByte, ih]

theorem encode_injective {bytes bytes' : List UInt8} (same : encode bytes = encode bytes') :
    bytes = bytes' := by
  rw [← decode_encode bytes, same, decode_encode]

/-! ## What an encoding is made of -/

/-- Unreserved bytes stand for themselves. -/
theorem encode_unreserved {bytes : List UInt8} (plain : bytes.all unreserved = true) :
    encode bytes = bytes := by
  induction bytes with
  | nil => rfl
  | cons b bytes ih =>
    simp only [List.all_cons, Bool.and_eq_true] at plain
    show encodeByte b ++ encode bytes = _
    rw [encodeByte, if_pos plain.1, ih plain.2]
    rfl

theorem encode_ne_nil {bytes : List UInt8} (filled : bytes ≠ []) : encode bytes ≠ [] := by
  intro empty
  have same : encode bytes = encode [] := empty
  exact filled (encode_injective same)

theorem hexDigit_unreserved {n : UInt8} (small : n < 16) : unreserved (hexDigit n) = true := by
  have each : ∀ k < 16, unreserved (hexDigit (UInt8.ofNat k)) = true := by decide
  have bound : n.toNat < 16 := UInt8.lt_iff_toNat_lt.mp small
  simpa using each n.toNat bound

/-- No reserved byte but the mark occurs in an encoding. -/
theorem unreserved_of_mem_encode {bytes : List UInt8} {b : UInt8} (member : b ∈ encode bytes) :
    unreserved b = true ∨ b = mark := by
  obtain ⟨source, _, inside⟩ := List.mem_flatMap.mp member
  unfold encodeByte at inside
  split at inside
  next plain =>
    rw [List.mem_singleton.mp inside]
    exact .inl plain
  next =>
    obtain ⟨high, low, _⟩ := halves source
    simp only [List.mem_cons, List.not_mem_nil, or_false] at inside
    rcases inside with rfl | rfl | rfl
    · exact .inr rfl
    · exact .inl (hexDigit_unreserved high)
    · exact .inl (hexDigit_unreserved low)

end FlussGateway.Foundation.Percent
