import Mathlib

/-!
# Conversion between binary floating-point formats

Lean's logical model of `Float` and `Float32` packs and unpacks values of one format;
the conversions between the two formats are opaque to it. Here a value is converted by
unpacking it, rounding it to nearest even in the target format and packing it again.
A value of a format whose mantissa and exponents fit into a second one survives the way
there and back unchanged.
-/
namespace FlussGateway.Foundation.FloatCast

open Float.Model Float.Model.UnpackedFloat

/-- Round an unpacked value to a format; zeros, infinities and NaN carry over. -/
def reround (spec : Format) : UnpackedFloat → UnpackedFloat
  | .finite s m e _ => UnpackedFloat.round spec s m e
  | u => u

/-- `x as f64` for a binary32 value. -/
def widen (x : Float32) : Float := .ofModel (.pack (reround .binary64 x.toModel.unpack))

/-- `x as f32` for a binary64 value. -/
def narrow (x : Float) : Float32 := .ofModel (.pack (reround .binary32 x.toModel.unpack))

/-! ## Rounding what is already representable -/

/-- An unpacked value in the form a format stores: the mantissa fits, the exponent lies
between the format's least and greatest, and the mantissa is full unless the exponent is least. -/
structure Stored (spec : Format) (m : Nat) (e : Int) : Prop where
  positive : 0 < m
  fits : m < 2 ^ spec.mantissaBits
  least : spec.minExponent ≤ e
  full : 2 ^ spec.mantissaBitsWithoutImplicit ≤ m ∨ e = spec.minExponent
  greatest : e ≤ (spec.exponentBias : Int) - spec.mantissaBitsWithoutImplicit

theorem log2_shift (m k : Nat) (positive : 0 < m) : (m * 2 ^ k).log2 = m.log2 + k := by
  induction k with
  | zero => simp
  | succ k ih =>
    have halves : m * 2 ^ (k + 1) = 2 * (m * 2 ^ k) := by ring
    have nonzero : m * 2 ^ k ≠ 0 := by positivity
    rw [halves, Nat.log2_two_mul nonzero, ih]
    omega

/-- A stored value already has the exponent the format aims at. -/
theorem stored_target {spec : Format} {m : Nat} {e : Int} (stored : Stored spec m e) :
    spec.targetExponent (totalExponent m e) = e := by
  have nonzero : m ≠ 0 := stored.positive.ne'
  have upper : m.log2 < spec.mantissaBits := (Nat.log2_lt nonzero).mpr stored.fits
  have bits : spec.mantissaBits = 1 + spec.mantissaBitsWithoutImplicit := rfl
  have least := stored.least
  simp only [Format.targetExponent, totalExponent]
  -- A full mantissa fixes the logarithm; otherwise the exponent is the least one already.
  rcases stored.full with full | equal
  · have lower := (Nat.le_log2 nonzero).mpr full
    omega
  · omega

/-- Shifting an exact multiple of a power of two right drops nothing. -/
theorem shift_exact (m k : Nat) :
    (ExtendedMantissa.mk (m * 2 ^ k) false false) >>> k = ExtendedMantissa.mk m false false := by
  induction k generalizing m with
  | zero => simp [HShiftRight.hShiftRight, Nat.repeat]
  | succ k ih =>
    have split : m * 2 ^ (k + 1) = (m * 2) * 2 ^ k := by ring
    change ExtendedMantissa.shiftRightOne ((ExtendedMantissa.mk (m * 2 ^ (k + 1)) false false) >>> k) = _
    rw [split, ih]
    simp [ExtendedMantissa.shiftRightOne]

/-- Rounding to a format is exact on a multiple `m * 2 ^ k` whose quotient sits at the target exponent. -/
theorem roundWithAccuracy_exact (spec : Format) (s : Sign) (m k : Nat) (e : Int) (positive : 0 < m)
    (target : spec.targetExponent (totalExponent m (e + k)) = e + k) :
    roundWithAccuracy spec s (m * 2 ^ k) e .exact = .finite s m (e + k) positive := by
  have total : totalExponent (m * 2 ^ k) e = totalExponent m (e + k) := by
    simp only [totalExponent, log2_shift m k positive]
    push_cast
    ring
  have amount : (e + (k : Int) - e).toNat = k := by omega
  have again : (e + (k : Int) - (e + k)).toNat = 0 := by omega
  have still : ∀ em : ExtendedMantissa, em >>> (0 : Nat) = em := fun _ => rfl
  have nonzero : m ≠ 0 := positive.ne'
  simp only [roundWithAccuracy, shiftToTargetExponent, shiftToExponent, total, target, amount,
    ExtendedMantissa.ofMantissaAndAccuracy, shift_exact, ExtendedMantissa.roundedMantissa,
    ExtendedMantissa.accuracy, Accuracy.roundToNearestEven, again, still, nonzero, dif_neg,
    not_false_eq_true]
  simp

/-- Rounding moves a representable value to the target exponent and changes nothing else. -/
theorem round_exact (spec : Format) (s : Sign) (m : Nat) (e : Int) (positive : 0 < m)
    (room : spec.targetExponent (totalExponent m e) ≤ e) :
    UnpackedFloat.round spec s m e =
      .finite s (m * 2 ^ (e - spec.targetExponent (totalExponent m e)).toNat)
        (spec.targetExponent (totalExponent m e)) (by positivity) := by
  obtain ⟨t, ht⟩ : ∃ t, t = spec.targetExponent (totalExponent m e) := ⟨_, rfl⟩
  have total : totalExponent (m * 2 ^ (e - t).toNat) t = totalExponent m e := by
    simp only [totalExponent, log2_shift m _ positive]
    omega
  have settled : spec.targetExponent (totalExponent (m * 2 ^ (e - t).toNat) (t + (0 : Nat))) =
      t + (0 : Nat) := by
    simp only [Nat.cast_zero, add_zero, total, ← ht]
  have rounded := roundWithAccuracy_exact spec s (m * 2 ^ (e - t).toNat) 0 t (by positivity) settled
  have down : e - ((e - t).toNat : Int) = t := by omega
  simp only [UnpackedFloat.round, decreaseExponent, ← ht, down, Nat.shiftLeft_eq]
  simpa using rounded

/-- A rounding that only drops zero bits: the mantissa is a multiple of the power in question. -/
theorem round_drops (spec : Format) (s : Sign) (m k : Nat) (e : Int) (positive : 0 < m)
    (target : spec.targetExponent (totalExponent m (e + k)) = e + k) :
    UnpackedFloat.round spec s (m * 2 ^ k) e = .finite s m (e + k) positive := by
  have total : totalExponent (m * 2 ^ k) e = totalExponent m (e + k) := by
    simp only [totalExponent, log2_shift m k positive]
    push_cast
    ring
  have none : (e - (e + k)).toNat = 0 := by omega
  simp only [UnpackedFloat.round, decreaseExponent, total, target, none, Nat.shiftLeft_zero,
    Nat.cast_zero, sub_zero]
  exact roundWithAccuracy_exact spec s m k e positive target

/-! ## Packing and unpacking -/

theorem minExponent_eq (spec : Format) :
    spec.minExponent = 1 - (spec.exponentBias : Int) - spec.mantissaBitsWithoutImplicit := by
  have one : 1 ≤ 2 ^ (spec.exponentBits - 1) := Nat.one_le_two_pow
  simp only [Format.minExponent, Format.exponentBias, Format.mantissaBits]
  push_cast [one]
  ring

theorem two_pow_exponentBits (spec : Format) :
    2 ^ spec.exponentBits = 2 * spec.exponentBias + 2 := by
  have one : 1 ≤ 2 ^ (spec.exponentBits - 1) := Nat.one_le_two_pow
  have bits : spec.exponentBits = (spec.exponentBits - 1) + 1 := by
    have := spec.he
    omega
  rw [bits, pow_succ, Format.exponentBias]
  omega

theorem zero_ne_allOnes (spec : Format) : BitVec.ofNat spec.exponentBits 0 ≠ -1#_ := by
  intro equal
  have values := congrArg BitVec.toNat equal
  have capacity := two_pow_exponentBits spec
  simp only [BitVec.neg_one_eq_allOnes, BitVec.toNat_allOnes, BitVec.toNat_zero] at values
  omega

/-- The stored mantissa with its implicit leading bit. -/
theorem implicit_bit (n : Nat) (b : BitVec n) : (1#1 ++ b).toNat = 2 ^ n + b.toNat := by
  rw [BitVec.toNat_append, ← Nat.shiftLeft_add_eq_or_of_lt b.isLt]
  simp [Nat.shiftLeft_eq]

@[simp] theorem unpack_packedInfinity (spec : Format) (s : Sign) :
    UnpackedFloat.unpack spec (packedInfinity spec s) = .infinity s := by
  simp [UnpackedFloat.unpack, packedInfinity]

/-- An exponent field that is neither all zeros nor all ones. -/
theorem exponent_field (spec : Format) {b : Nat} (positive : 0 < b)
    (room : b + 1 < 2 ^ spec.exponentBits) :
    (BitVec.ofNat spec.exponentBits b).toNat = b ∧ BitVec.ofNat spec.exponentBits b ≠ 0#_ ∧
      BitVec.ofNat spec.exponentBits b ≠ -1#_ := by
  have exponent : (BitVec.ofNat spec.exponentBits b).toNat = b := by
    rw [BitVec.toNat_ofNat, Nat.mod_eq_of_lt (by omega)]
  refine ⟨exponent, ?_, ?_⟩
  · intro equal
    have values := congrArg BitVec.toNat equal
    rw [exponent, BitVec.toNat_zero] at values
    omega
  · intro equal
    have values := congrArg BitVec.toNat equal
    rw [exponent, BitVec.neg_one_eq_allOnes, BitVec.toNat_allOnes] at values
    omega

/-- The mantissa field of a normal number lacks just the leading bit. -/
theorem normal_field {n m : Nat} (normal : 2 ^ n ≤ m) (fits : m < 2 * 2 ^ n) :
    (1#1 ++ BitVec.ofNat n m).toNat = m := by
  rw [implicit_bit, BitVec.toNat_ofNat]
  have once : m / 2 ^ n = 1 := Nat.div_eq_of_lt_le (by omega) (by omega)
  have parts := Nat.mod_add_div m (2 ^ n)
  rw [once] at parts
  omega

/-- The mantissa field of a subnormal number is the mantissa, and it is not zero. -/
theorem subnormal_field {n m : Nat} (positive : 0 < m) (small : m < 2 ^ n) :
    (BitVec.ofNat n m).toNat = m ∧ BitVec.ofNat n m ≠ 0#_ := by
  have mantissa : (BitVec.ofNat n m).toNat = m := by
    rw [BitVec.toNat_ofNat, Nat.mod_eq_of_lt small]
  refine ⟨mantissa, fun zero => ?_⟩
  have values := congrArg BitVec.toNat zero
  rw [mantissa, BitVec.toNat_zero] at values
  omega

/-- Packing a stored value loses nothing. -/
theorem unpack_pack_finite (spec : Format) (s : Sign) (m : Nat) (e : Int) (positive : 0 < m)
    (stored : Stored spec m e) :
    UnpackedFloat.unpack spec (UnpackedFloat.pack spec (.finite s m e positive)) =
      .finite s m e positive := by
  obtain ⟨_, fits, least, full, greatest⟩ := stored
  have lowest := minExponent_eq spec
  have capacity := two_pow_exponentBits spec
  have bits : spec.mantissaBits = 1 + spec.mantissaBitsWithoutImplicit := rfl
  obtain ⟨b, hb⟩ : ∃ b, b = (e + spec.exponentBias + spec.mantissaBitsWithoutImplicit).toNat := ⟨_, rfl⟩
  have biased : (b : Int) = e + spec.exponentBias + spec.mantissaBitsWithoutImplicit := by omega
  have room : ¬2 ^ spec.exponentBits ≤ b + 1 := by omega
  obtain ⟨exponent, nonzero, below⟩ := exponent_field spec (show 0 < b by omega) (by omega)
  -- Normal: the leading bit is implicit. Subnormal: the exponent field is zero and the mantissa stands as it is.
  by_cases normal : 2 ^ spec.mantissaBitsWithoutImplicit ≤ m
  · have lower := (Nat.le_log2 positive.ne').mpr normal
    have upper := (Nat.log2_lt positive.ne').mpr fits
    have log : m.log2 + 1 = spec.mantissaBits := by omega
    have mantissa := normal_field normal (by rwa [bits, pow_add, pow_one] at fits)
    simp only [UnpackedFloat.pack, ← hb, room, if_false, log, if_true, UnpackedFloat.unpack,
      unpackExponent_packComponents, unpackMantissa_packComponents, unpackSign_packComponents,
      Sign.ofBitVec_toBitVec, below, nonzero, exponent, mantissa]
    congr 1
    omega
  · have equal : e = spec.minExponent := full.resolve_left normal
    have small : m < 2 ^ spec.mantissaBitsWithoutImplicit := by omega
    have short : m.log2 + 1 ≠ spec.mantissaBits := by
      have := (Nat.log2_lt positive.ne').mpr small
      omega
    obtain ⟨mantissa, some_bit⟩ := subnormal_field positive small
    simp only [UnpackedFloat.pack, ← hb, room, if_false, short, UnpackedFloat.unpack,
      unpackExponent_packComponents, unpackMantissa_packComponents, unpackSign_packComponents,
      Sign.ofBitVec_toBitVec, zero_ne_allOnes, if_true, some_bit, dif_neg, not_false_eq_true, mantissa,
      BitVec.toNat_zero]
    congr 1
    push_cast
    omega

/-- What unpacking yields is a stored value. -/
theorem stored_unpack (spec : Format) (biased : 1 ≤ spec.exponentBias) (bits : BitVec spec.numBits)
    (s : Sign) (m : Nat) (e : Int) (positive : 0 < m) (unpacked : UnpackedFloat.unpack spec bits = .finite s m e positive) :
    Stored spec m e := by
  have lowest := minExponent_eq spec
  have capacity := two_pow_exponentBits spec
  have width : spec.mantissaBits = 1 + spec.mantissaBitsWithoutImplicit := rfl
  have double : 2 ^ spec.mantissaBits = 2 * 2 ^ spec.mantissaBitsWithoutImplicit := by
    rw [width, pow_add, pow_one]
  have bound := (@unpackExponent spec bits).isLt
  have mantissa := (@unpackMantissa spec bits).isLt
  simp only [UnpackedFloat.unpack] at unpacked
  split at unpacked
  · split at unpacked <;> cases unpacked
  next notOnes =>
    have below : (@unpackExponent spec bits).toNat ≠ 2 ^ spec.exponentBits - 1 := by
      intro equal
      apply notOnes
      rw [BitVec.neg_one_eq_allOnes, ← BitVec.toNat_inj, BitVec.toNat_allOnes]
      exact equal
    split at unpacked
    -- Subnormal: no implicit bit, and the exponent is the least.
    next zero =>
      split at unpacked
      · cases unpacked
      next some_bit =>
        have value : (@unpackExponent spec bits).toNat = 0 := by rw [zero]; rfl
        cases unpacked
        exact ⟨positive, by omega, by omega, .inr (by omega), by omega⟩
    -- Normal: the implicit bit fills the mantissa.
    next nonzero =>
      have value : (@unpackExponent spec bits).toNat ≠ 0 := by
        intro equal
        exact nonzero (BitVec.eq_of_toNat_eq (by simpa using equal))
      have implicit := implicit_bit _ (@unpackMantissa spec bits)
      cases unpacked
      exact ⟨positive, by omega, by omega, .inl (by omega), by omega⟩

/-! ## Widening binary32 to binary64 -/

theorem exponentBias_binary32 : Format.binary32.exponentBias = 127 := rfl

theorem exponentBias_binary64 : Format.binary64.exponentBias = 1023 := rfl

/-- Every stored binary32 value is, after shifting, a stored binary64 value. -/
theorem stored_widen {m : Nat} {e : Int} (stored : Stored .binary32 m e) :
    Format.binary64.targetExponent (totalExponent m e) ≤ e ∧
      Stored .binary64 (m * 2 ^ (e - Format.binary64.targetExponent (totalExponent m e)).toNat)
        (Format.binary64.targetExponent (totalExponent m e)) := by
  obtain ⟨positive, fits, least, _, greatest⟩ := stored
  have low : Format.binary32.minExponent = -149 := by decide
  have low64 : Format.binary64.minExponent = -1074 := by decide
  have bits : Format.binary32.mantissaBits = 24 := rfl
  have bits64 : Format.binary64.mantissaBits = 53 := rfl
  rw [low] at least
  rw [exponentBias_binary32] at greatest
  rw [bits] at fits
  have log : m.log2 < 24 := (Nat.log2_lt positive.ne').mpr fits
  -- The 64-bit mantissa is always full: 24 bits shift up to 53.
  have target : Format.binary64.targetExponent (totalExponent m e) = m.log2 + e - 52 := by
    simp only [Format.targetExponent, totalExponent, low64, bits64]
    omega
  have shift : (e - (m.log2 + e - 52)).toNat = 52 - m.log2 := by omega
  have log64 : (m * 2 ^ (52 - m.log2)).log2 = 52 := by
    rw [log2_shift m _ positive]
    omega
  have nonzero : m * 2 ^ (52 - m.log2) ≠ 0 := by positivity
  rw [target, shift]
  refine ⟨by omega, ⟨by positivity, ?_, by omega, .inl ?_, ?_⟩⟩
  · exact (Nat.log2_lt nonzero).mp (by omega)
  · exact (Nat.le_log2 nonzero).mp (by change 52 ≤ _; omega)
  · have width : (Format.binary64.mantissaBitsWithoutImplicit : Int) = 52 := rfl
    have width32 : (Format.binary32.mantissaBitsWithoutImplicit : Int) = 23 := rfl
    rw [exponentBias_binary64, width]
    rw [width32] at greatest
    omega

theorem unpack_ofPack (u : UnpackedFloat) :
    (Float.Model.pack u).unpack = UnpackedFloat.unpack .binary64 (UnpackedFloat.pack .binary64 u) := rfl

/-- Widening stores the rounded value as it is. -/
theorem unpack_widen (x : Float32) :
    (widen x).toModel.unpack = reround .binary64 x.toModel.unpack := by
  have unpacked : ∀ s m e positive, x.toModel.unpack = .finite s m e positive →
      Stored .binary32 m e := fun s m e positive equal =>
    stored_unpack .binary32 (by decide) _ s m e positive equal
  rw [widen, unpack_ofPack]
  cases value : x.toModel.unpack with
  | infinity s => exact unpack_packedInfinity _ s
  | notANumber => exact unpack_packedNaN
  | zero s => exact unpack_packedZero
  | finite s m e positive =>
    -- Only a finite value is rounded, and the wider format has room for it.
    obtain ⟨room, stored⟩ := stored_widen (unpacked s m e positive value)
    simp only [reround]
    rw [round_exact .binary64 s m e positive room]
    exact unpack_pack_finite .binary64 s _ _ _ stored

theorem pack_toModel (x : Float32) : Float32.Model.pack x.toModel.unpack = x.toModel := by
  have kept := pack_unpack_of_valid x.toModel.valid (show 2 ≤ Format.binary32.exponentBits by decide)
  simp only [Float32.Model.pack, Float32.Model.unpack, kept]

/-- A binary32 value survives the way to binary64 and back. -/
@[simp] theorem narrow_widen (x : Float32) : narrow (widen x) = x := by
  have back : reround .binary32 (widen x).toModel.unpack = x.toModel.unpack := by
    rw [unpack_widen]
    cases value : x.toModel.unpack with
    | infinity s => rfl
    | notANumber => rfl
    | zero s => rfl
    | finite s m e positive =>
      have stored := stored_unpack .binary32 (by decide) _ s m e positive value
      obtain ⟨room, _⟩ := stored_widen stored
      have place : Format.binary64.targetExponent (totalExponent m e) +
          ((e - Format.binary64.targetExponent (totalExponent m e)).toNat : Int) = e := by omega
      have target := stored_target stored
      simp only [reround]
      rw [round_exact .binary64 s m e positive room]
      -- The way back drops exactly the zero bits that the way there appended.
      refine (round_drops .binary32 s m _ _ positive (by rw [place, target])).trans ?_
      simp only [place]
  rw [narrow, back, pack_toModel]

@[simp] theorem isFinite_widen (x : Float32) : (widen x).isFinite = x.isFinite := by
  change (widen x).toModel.unpack.isFinite = x.toModel.unpack.isFinite
  rw [unpack_widen]
  cases value : x.toModel.unpack with
  | infinity s => rfl
  | notANumber => rfl
  | zero s => rfl
  | finite s m e positive =>
    have stored := stored_unpack .binary32 (by decide) _ s m e positive value
    simp only [reround]
    rw [round_exact .binary64 s m e positive (stored_widen stored).1]
    rfl

end FlussGateway.Foundation.FloatCast
