import Mathlib.Data.List.Basic
import Mathlib.Data.List.GetD

/-!
# Base64

The standard alphabet with padding. Three bytes are four digits; one or two bytes at the end
are filled up with zero bits and marked by the padding. Decoding accepts nothing but what
encoding writes.
-/
namespace FlussGateway.Foundation.Base64

def digits : List Char := "ABCDEFGHIJKLMNOPQRSTUVWXYZabcdefghijklmnopqrstuvwxyz0123456789+/".toList

def pad : Char := '='

/-- The digit of six bits. -/
def digit (n : Nat) : Char := digits.getD n pad

def value (c : Char) : Option Nat := if c ∈ digits then some (digits.idxOf c) else none

/-! ## Groups -/

def encodeOne (a : UInt8) : List Char :=
  [digit (a.toNat / 4), digit (a.toNat % 4 * 16), pad, pad]

def encodeTwo (a b : UInt8) : List Char :=
  [digit (a.toNat / 4), digit (a.toNat % 4 * 16 + b.toNat / 16), digit (b.toNat % 16 * 4), pad]

def encodeThree (a b c : UInt8) : List Char :=
  [digit (a.toNat / 4), digit (a.toNat % 4 * 16 + b.toNat / 16),
    digit (b.toNat % 16 * 4 + c.toNat / 64), digit (c.toNat % 64)]

def encode : List UInt8 → List Char
  | [] => []
  | [a] => encodeOne a
  | [a, b] => encodeTwo a b
  | a :: b :: c :: rest => encodeThree a b c ++ encode rest

/-- The byte of the upper bits of one digit and the lower bits of the one before it. -/
def firstByte (p q : Nat) : UInt8 := UInt8.ofNat (p * 4 + q / 16)

def secondByte (q r : Nat) : UInt8 := UInt8.ofNat (q % 16 * 16 + r / 4)

def thirdByte (r s : Nat) : UInt8 := UInt8.ofNat (r % 4 * 64 + s)

/-- The bits that no byte takes have to be zero. -/
def decodeOne (w x : Char) : Option (List UInt8) := do
  let p ← value w
  let q ← value x
  if q % 16 = 0 then some [firstByte p q] else none

def decodeTwo (w x y : Char) : Option (List UInt8) := do
  let p ← value w
  let q ← value x
  let r ← value y
  if r % 4 = 0 then some [firstByte p q, secondByte q r] else none

def decodeThree (w x y z : Char) : Option (List UInt8) := do
  let p ← value w
  let q ← value x
  let r ← value y
  let s ← value z
  some [firstByte p q, secondByte q r, thirdByte r s]

/-- Only the last group may be padded. -/
def decodeLast (w x y z : Char) : Option (List UInt8) :=
  if z ≠ pad then decodeThree w x y z
  else if y ≠ pad then decodeTwo w x y
  else decodeOne w x

def decode : List Char → Option (List UInt8)
  | [] => some []
  | [w, x, y, z] => decodeLast w x y z
  | w :: x :: y :: z :: rest => do
    let bytes ← decodeThree w x y z
    let others ← decode rest
    some (bytes ++ others)
  | _ => none

/-! ## Digits -/

theorem value_digit {n : Nat} (small : n < 64) : value (digit n) = some n := by
  have each : ∀ k < 64, value (digit k) = some k := by decide +kernel
  exact each n small

theorem digit_ne_pad {n : Nat} (small : n < 64) : digit n ≠ pad := by
  intro same
  have valued := value_digit small
  rw [same] at valued
  cases valued

theorem value_eq_some_iff (c : Char) (n : Nat) : value c = some n ↔ n < 64 ∧ c = digit n := by
  constructor
  · intro valued
    unfold value at valued
    split at valued <;> cases valued
    next member =>
      have inside := List.idxOf_lt_length_of_mem member
      refine ⟨inside, ?_⟩
      rw [digit, List.getD_eq_getElem _ _ inside, List.getElem_idxOf]
  · rintro ⟨small, rfl⟩
    exact value_digit small

/-! ## One group -/

theorem firstByte_toNat {p q : Nat} (hp : p < 64) (hq : q < 64) :
    (firstByte p q).toNat = p * 4 + q / 16 :=
  UInt8.toNat_ofNat_of_lt' (show _ < 256 by omega)

theorem secondByte_toNat (q : Nat) {r : Nat} (hr : r < 64) :
    (secondByte q r).toNat = q % 16 * 16 + r / 4 :=
  UInt8.toNat_ofNat_of_lt' (show _ < 256 by omega)

theorem thirdByte_toNat (r : Nat) {s : Nat} (hs : s < 64) : (thirdByte r s).toNat = r % 4 * 64 + s :=
  UInt8.toNat_ofNat_of_lt' (show _ < 256 by omega)

theorem firstByte_eq {p q : Nat} {a : UInt8} (same : p * 4 + q / 16 = a.toNat) :
    firstByte p q = a := by
  rw [firstByte, same, UInt8.ofNat_toNat]

theorem secondByte_eq {q r : Nat} {b : UInt8} (same : q % 16 * 16 + r / 4 = b.toNat) :
    secondByte q r = b := by
  rw [secondByte, same, UInt8.ofNat_toNat]

theorem thirdByte_eq {r s : Nat} {c : UInt8} (same : r % 4 * 64 + s = c.toNat) :
    thirdByte r s = c := by
  rw [thirdByte, same, UInt8.ofNat_toNat]

theorem decodeThree_iff (w x y z : Char) (bytes : List UInt8) :
    decodeThree w x y z = some bytes ↔
      ∃ a b c, bytes = [a, b, c] ∧ [w, x, y, z] = encodeThree a b c := by
  simp only [decodeThree, encodeThree, Option.bind_eq_bind, Option.bind_eq_some_iff,
    Option.some.injEq, value_eq_some_iff, List.cons.injEq, and_true]
  constructor
  · rintro ⟨p, ⟨hp, rfl⟩, q, ⟨hq, rfl⟩, r, ⟨hr, rfl⟩, s, ⟨hs, rfl⟩, rfl⟩
    have first := firstByte_toNat hp hq
    have second := secondByte_toNat q hr
    have third := thirdByte_toNat r hs
    refine ⟨_, _, _, rfl, ?_, ?_, ?_, ?_⟩ <;> congr 1 <;> omega
  · rintro ⟨a, b, c, rfl, rfl, rfl, rfl, rfl⟩
    have boundA := a.toNat_lt
    have boundB := b.toNat_lt
    have boundC := c.toNat_lt
    refine ⟨_, ⟨?_, rfl⟩, _, ⟨?_, rfl⟩, _, ⟨?_, rfl⟩, _, ⟨?_, rfl⟩, ?_⟩ <;> try omega
    rw [firstByte_eq (a := a) (by omega), secondByte_eq (b := b) (by omega),
      thirdByte_eq (c := c) (by omega)]

theorem decodeTwo_iff (w x y : Char) (bytes : List UInt8) :
    decodeTwo w x y = some bytes ↔
      ∃ a b, bytes = [a, b] ∧ [w, x, y, pad] = encodeTwo a b := by
  simp only [decodeTwo, encodeTwo, Option.bind_eq_bind, Option.bind_eq_some_iff,
    Option.ite_none_right_eq_some, Option.some.injEq, value_eq_some_iff, List.cons.injEq, and_true]
  constructor
  · rintro ⟨p, ⟨hp, rfl⟩, q, ⟨hq, rfl⟩, r, ⟨hr, rfl⟩, zero, rfl⟩
    have first := firstByte_toNat hp hq
    have second := secondByte_toNat q hr
    refine ⟨_, _, rfl, ?_, ?_, ?_⟩ <;> congr 1 <;> omega
  · rintro ⟨a, b, rfl, rfl, rfl, rfl⟩
    have boundA := a.toNat_lt
    have boundB := b.toNat_lt
    refine ⟨_, ⟨?_, rfl⟩, _, ⟨?_, rfl⟩, _, ⟨?_, rfl⟩, ?_, ?_⟩ <;> try omega
    rw [firstByte_eq (a := a) (by omega), secondByte_eq (b := b) (by omega)]

theorem decodeOne_iff (w x : Char) (bytes : List UInt8) :
    decodeOne w x = some bytes ↔ ∃ a, bytes = [a] ∧ [w, x, pad, pad] = encodeOne a := by
  simp only [decodeOne, encodeOne, Option.bind_eq_bind, Option.bind_eq_some_iff,
    Option.ite_none_right_eq_some, Option.some.injEq, value_eq_some_iff, List.cons.injEq, and_true]
  constructor
  · rintro ⟨p, ⟨hp, rfl⟩, q, ⟨hq, rfl⟩, zero, rfl⟩
    have first := firstByte_toNat hp hq
    refine ⟨_, rfl, ?_, ?_⟩ <;> congr 1 <;> omega
  · rintro ⟨a, rfl, rfl, rfl⟩
    have boundA := a.toNat_lt
    refine ⟨_, ⟨?_, rfl⟩, _, ⟨?_, rfl⟩, ?_, ?_⟩ <;> try omega
    rw [firstByte_eq (a := a) (by omega)]

/-! ## Whole texts -/

theorem decodeLast_iff (w x y z : Char) (bytes : List UInt8) :
    decodeLast w x y z = some bytes ↔
      (∃ a, bytes = [a] ∧ [w, x, y, z] = encodeOne a) ∨
      (∃ a b, bytes = [a, b] ∧ [w, x, y, z] = encodeTwo a b) ∨
      ∃ a b c, bytes = [a, b, c] ∧ [w, x, y, z] = encodeThree a b c := by
  -- No digit is the padding character, so the padding tells the three forms apart.
  have third : ∀ b c : UInt8, digit (b.toNat % 16 * 4 + c.toNat / 64) ≠ pad := by
    intro b c
    have bound := c.toNat_lt
    exact digit_ne_pad (by omega)
  have second : ∀ b : UInt8, digit (b.toNat % 16 * 4) ≠ pad := fun b => digit_ne_pad (by omega)
  have last : ∀ c : UInt8, digit (c.toNat % 64) ≠ pad := fun c => digit_ne_pad (by omega)
  unfold decodeLast
  split
  next unpadded =>
    rw [decodeThree_iff]
    constructor
    · exact fun three => .inr (.inr three)
    · rintro (⟨a, _, same⟩ | ⟨a, b, _, same⟩ | three)
      · simp only [encodeOne, List.cons.injEq] at same
        exact absurd same.2.2.2.1 unpadded
      · simp only [encodeTwo, List.cons.injEq] at same
        exact absurd same.2.2.2.1 unpadded
      · exact three
  next padded =>
    obtain rfl := Decidable.not_not.mp padded
    split
    next unpadded =>
      rw [decodeTwo_iff]
      constructor
      · exact fun two => .inr (.inl two)
      · rintro (⟨a, _, same⟩ | two | ⟨a, b, c, _, same⟩)
        · simp only [encodeOne, List.cons.injEq] at same
          exact absurd same.2.2.1 unpadded
        · exact two
        · simp only [encodeThree, List.cons.injEq] at same
          exact absurd same.2.2.2.1.symm (last c)
    next padded =>
      obtain rfl := Decidable.not_not.mp padded
      rw [decodeOne_iff]
      constructor
      · exact .inl
      · rintro (one | ⟨a, b, _, same⟩ | ⟨a, b, c, _, same⟩)
        · exact one
        · simp only [encodeTwo, List.cons.injEq] at same
          exact absurd same.2.2.1.symm (second b)
        · simp only [encodeThree, List.cons.injEq] at same
          exact absurd same.2.2.1.symm (third b c)

theorem encode_nil_iff (bytes : List UInt8) : encode bytes = [] ↔ bytes = [] := by
  match bytes with
  | [] => simp [encode]
  | [a] => simp [encode, encodeOne]
  | [a, b] => simp [encode, encodeTwo]
  | a :: b :: c :: rest => simp [encode, encodeThree]

/-- Texts of other lengths encode nothing. -/
theorem length_encode (bytes : List UInt8) : 4 ∣ (encode bytes).length := by
  induction bytes using encode.induct with
  | case1 => simp [encode]
  | case2 | case3 => simp [encode, encodeOne, encodeTwo]
  | case4 a b c rest ih =>
    rw [encode, List.length_append]
    exact Nat.dvd_add (by simp [encodeThree]) ih

/-- Decoding accepts exactly the encodings, and inverts them. -/
theorem decode_eq_some_iff (text : List Char) (bytes : List UInt8) :
    decode text = some bytes ↔ text = encode bytes := by
  induction text using decode.induct generalizing bytes with
  | case1 =>
    rw [decode, Option.some.injEq, eq_comm, eq_comm (a := []), encode_nil_iff]
  | case2 w x y z =>
    rw [decode, decodeLast_iff]
    constructor
    · rintro (⟨a, rfl, same⟩ | ⟨a, b, rfl, same⟩ | ⟨a, b, c, rfl, same⟩)
      · exact same
      · exact same
      · rw [same, encode, encode, List.append_nil]
    · intro same
      match bytes with
      | [] => cases same
      | [a] => exact .inl ⟨a, rfl, same⟩
      | [a, b] => exact .inr (.inl ⟨a, b, rfl, same⟩)
      | a :: b :: c :: rest =>
        -- One group is left, so nothing follows it.
        have none : encode rest = [] := by
          have lengths := congrArg List.length same
          rw [encode, List.length_append] at lengths
          exact List.length_eq_zero_iff.mp (by simpa [encodeThree] using lengths)
        rw [encode, none, List.append_nil] at same
        rw [encode_nil_iff] at none
        exact .inr (.inr ⟨a, b, c, by rw [none], same⟩)
  | case3 w x y z rest more ih =>
    -- More groups follow, so the first is a whole one.
    have step : decode (w :: x :: y :: z :: rest) = (do
        let bytes ← decodeThree w x y z
        let others ← decode rest
        some (bytes ++ others)) := by
      cases rest with
      | nil => exact absurd rfl more
      | cons v rest => rfl
    simp only [step, Option.bind_eq_bind, Option.bind_eq_some_iff, decodeThree_iff, ih,
      Option.some.injEq]
    constructor
    · rintro ⟨_, ⟨a, b, c, rfl, same⟩, others, rfl, rfl⟩
      show [w, x, y, z] ++ encode others = encodeThree a b c ++ encode others
      rw [same]
    · intro same
      match bytes with
      | [] => cases same
      | [a] =>
        simp only [encode, encodeOne, List.cons.injEq] at same
        exact absurd same.2.2.2.2 more
      | [a, b] =>
        simp only [encode, encodeTwo, List.cons.injEq] at same
        exact absurd same.2.2.2.2 more
      | a :: b :: c :: others =>
        simp only [encode, encodeThree, List.cons_append, List.nil_append, List.cons.injEq] at same
        obtain ⟨rfl, rfl, rfl, rfl, rfl⟩ := same
        exact ⟨_, ⟨a, b, c, rfl, rfl⟩, others, rfl, rfl⟩
  | case4 text nonempty notFour notMore =>
    -- Texts of fewer than four characters have no last group.
    have short : decode text = none ∧ ¬4 ∣ text.length := by
      match text with
      | [] => exact absurd rfl nonempty
      | [_] | [_, _] | [_, _, _] => exact ⟨rfl, by simp⟩
      | w :: x :: y :: z :: rest => exact absurd rfl (notMore w x y z rest)
    rw [short.1]
    constructor
    · intro accepted
      cases accepted
    · rintro rfl
      exact absurd (length_encode bytes) short.2

end FlussGateway.Foundation.Base64
