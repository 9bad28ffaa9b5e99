import Reckon.Binary64
import Reckon.Expression

/-!
Contract: the words of the binary64 format for finite magnitudes, and their product with a sign.

`Float` is a word of 64 bits, and its arithmetic takes words apart into sign, significand and
exponent.  Here both are read off the bits of the magnitude.

Owns:
- the three fields of a word, as numbers;
- what the word of a finite magnitude is taken apart into, and that it is put together from this;
- that a finite value is given back by its sign and its magnitude;
- that the factor of a sign changes the sign of a value and nothing else.

Does not own: other arithmetic.

The factor of a sign is `2 ^ 52 * 2 ^ -52`, so the exact product has the significand of the value
shifted to the left by 52 places.  Rounding shifts it back and drops zeros only.
-/

set_option autoImplicit false

namespace Reckon.Binary64

/-! ## Words -/

-- Powers are those of the core library, whatever other instance an importing file has in scope.
attribute [local instance (high)] instPowNat

open Float.Model Float.Model.UnpackedFloat

/-- A word of the format. -/
abbrev Word : Type := BitVec Format.binary64.numBits

/-! ### Fields -/

theorem toNat_unpackMantissa (word : Word) :
    (unpackMantissa word).toNat = word.toNat % 2 ^ (52 : Nat) := by
  simp [unpackMantissa]

theorem toNat_unpackExponent (word : Word) :
    (unpackExponent word).toNat = word.toNat / 2 ^ (52 : Nat) % 2 ^ (11 : Nat) := by
  simp [unpackExponent, Nat.shiftRight_eq_div_pow]

theorem toNat_unpackSign (word : Word) :
    (unpackSign word).toNat = word.toNat / 2 ^ (63 : Nat) := by
  have bound : word.toNat < 2 ^ (64 : Nat) := word.isLt
  have field : (unpackSign word).toNat = (word.extractLsb' 63 1).toNat := rfl
  rw [field, BitVec.extractLsb'_toNat, Nat.shiftRight_eq_div_pow]
  exact Nat.mod_eq_of_lt (by omega)

theorem toNat_packComponents (sign : UnpackedFloat.Sign) (exponent : BitVec 11)
    (mantissa : BitVec 52) :
    (packComponents Format.binary64 sign exponent mantissa).toNat =
      sign.toBitVec.toNat * 2 ^ (63 : Nat) + exponent.toNat * 2 ^ (52 : Nat) + mantissa.toNat := by
  unfold packComponents
  rw [BitVec.toNat_append, BitVec.toNat_append, ← Nat.shiftLeft_add_eq_or_of_lt mantissa.isLt,
    ← Nat.shiftLeft_add_eq_or_of_lt exponent.isLt, Nat.shiftLeft_eq, Nat.shiftLeft_eq]
  omega

/-- A normal significand has a leading bit that no field holds. -/
theorem toNat_one_append (mantissa : BitVec 52) :
    (1#1 ++ mantissa).toNat = 2 ^ (52 : Nat) + mantissa.toNat := by
  rw [BitVec.toNat_append, ← Nat.shiftLeft_add_eq_or_of_lt mantissa.isLt, Nat.shiftLeft_eq]
  rfl

/-! ### Finite magnitudes, taken apart -/

/-- The sign of a value that carries a minus sign or not. -/
def signOf (negative : Bool) : UnpackedFloat.Sign := if negative then .negative else .positive

variable {negative : Bool} {bits : Nat} {word : Word}

theorem significand_of_subnormal (subnormal : bits < 2 ^ (52 : Nat)) :
    significand bits = bits ∧ shift bits = 0 := by
  unfold significand shift
  omega

theorem significand_of_normal (normal : 2 ^ (52 : Nat) ≤ bits) :
    significand bits = 2 ^ (52 : Nat) + bits % 2 ^ (52 : Nat) ∧
      shift bits + 1 = bits / 2 ^ (52 : Nat) := by
  unfold significand shift
  omega

theorem significand_pos (nonzero : bits ≠ 0) : 0 < significand bits := by
  unfold significand shift
  omega

theorem log2_significand_of_subnormal (nonzero : bits ≠ 0) (subnormal : bits < 2 ^ (52 : Nat)) :
    (significand bits).log2 < 52 := by
  rw [(significand_of_subnormal subnormal).1]
  exact (Nat.log2_lt nonzero).2 subnormal

theorem log2_significand_of_normal (normal : 2 ^ (52 : Nat) ≤ bits) :
    (significand bits).log2 = 52 := by
  have significandEq := (significand_of_normal normal).1
  rw [Nat.log2_eq_iff (by omega)]
  omega

/-- A finite magnitude with a sign, as arithmetic takes it.  The least positive magnitude is
`2 ^ -1074`, and the significand counts it, shifted. -/
def unpacked (negative : Bool) (bits : Nat) : UnpackedFloat :=
  if nonzero : bits ≠ 0 then
    .finite (signOf negative) (significand bits) (shift bits - 1074) (significand_pos nonzero)
  else .zero (signOf negative)

theorem unpacked_of_ne_zero (negative : Bool) (nonzero : bits ≠ 0) :
    unpacked negative bits =
      .finite (signOf negative) (significand bits) (shift bits - 1074) (significand_pos nonzero) :=
  dif_pos nonzero

theorem unpacked_zero (negative : Bool) : unpacked negative 0 = .zero (signOf negative) := rfl

/-- A word holds a sign and the bits of a finite magnitude. -/
structure Encodes (word : Word) (negative : Bool) (bits : Nat) : Prop where
  finite : bits < infinityBits
  toNat_eq : word.toNat = (signOf negative).toBitVec.toNat * 2 ^ (63 : Nat) + bits

namespace Encodes

theorem mantissa (encodes : Encodes word negative bits) :
    (unpackMantissa word).toNat = bits % 2 ^ (52 : Nat) := by
  rw [toNat_unpackMantissa, encodes.toNat_eq]
  omega

theorem exponent (encodes : Encodes word negative bits) :
    (unpackExponent word).toNat = bits / 2 ^ (52 : Nat) := by
  have finite := encodes.finite
  rw [toNat_unpackExponent, encodes.toNat_eq]
  unfold infinityBits at finite
  omega

theorem sign (encodes : Encodes word negative bits) :
    Sign.ofBitVec (unpackSign word) = signOf negative := by
  have finite := encodes.finite
  have field : unpackSign word = (signOf negative).toBitVec := by
    apply BitVec.eq_of_toNat_eq
    rw [toNat_unpackSign, encodes.toNat_eq]
    unfold infinityBits at finite
    omega
  rw [field]
  cases negative <;> rfl

/-- The exponent field of a finite magnitude is not the one of infinity. -/
theorem exponent_ne (encodes : Encodes word negative bits) : unpackExponent word ≠ -1#_ := by
  intro same
  have finite := encodes.finite
  have full : bits / 2 ^ (52 : Nat) = 2047 := by
    rw [← encodes.exponent, same]
    rfl
  unfold infinityBits at finite
  omega

theorem finite_congr {sign otherSign : UnpackedFloat.Sign} {mantissa otherMantissa : Nat}
    {exponent otherExponent : Int} {positive : 0 < mantissa} {otherPositive : 0 < otherMantissa}
    (signEq : sign = otherSign) (mantissaEq : mantissa = otherMantissa)
    (exponentEq : exponent = otherExponent) :
    UnpackedFloat.finite sign mantissa exponent positive =
      .finite otherSign otherMantissa otherExponent otherPositive := by
  subst signEq mantissaEq exponentEq
  rfl

theorem unpack_eq (encodes : Encodes word negative bits) :
    UnpackedFloat.unpack Format.binary64 word = unpacked negative bits := by
  have sign := encodes.sign
  have mantissa := encodes.mantissa
  have exponent := encodes.exponent
  have bias : Format.binary64.exponentBias = 1023 := rfl
  have exponentZero : unpackExponent word = 0#_ ↔ bits / 2 ^ (52 : Nat) = 0 := by
    rw [← exponent]
    exact BitVec.toNat_inj.symm
  have mantissaZero : unpackMantissa word = 0#_ ↔ bits % 2 ^ (52 : Nat) = 0 := by
    rw [← mantissa]
    exact BitVec.toNat_inj.symm
  unfold UnpackedFloat.unpack
  dsimp only
  rw [if_neg encodes.exponent_ne]
  rcases Nat.lt_or_ge bits (2 ^ (52 : Nat)) with subnormal | normal
  · obtain ⟨significandEq, shiftEq⟩ := significand_of_subnormal subnormal
    rw [if_pos (exponentZero.2 (by omega))]
    by_cases zero : bits = 0
    · rw [dif_pos (mantissaZero.2 (by omega)), zero, unpacked_zero, sign]
    · rw [dif_neg (mt mantissaZero.1 (by omega)), unpacked_of_ne_zero negative zero]
      exact finite_congr sign (by omega) (by omega)
  · obtain ⟨significandEq, shiftEq⟩ := significand_of_normal normal
    rw [if_neg (mt exponentZero.1 (by omega)), unpacked_of_ne_zero negative (by omega)]
    refine finite_congr sign ?_ (by omega)
    rw [toNat_one_append, mantissa, significandEq]

theorem pack_finite (encodes : Encodes word negative bits) (nonzero : bits ≠ 0) :
    UnpackedFloat.pack Format.binary64 (.finite (signOf negative) (significand bits)
      (shift bits - 1074) (significand_pos nonzero)) = word := by
  have finite := encodes.finite
  have bias : Format.binary64.exponentBias = 1023 := rfl
  have mantissaBits : Format.binary64.mantissaBits = 53 := rfl
  have biased : ((shift bits : Int) - 1074 + (1023 : Nat) + (52 : Nat)).toNat = shift bits + 1 := by
    omega
  have bounded : ¬2 ^ (11 : Nat) ≤ shift bits + 1 + 1 := by
    unfold infinityBits at finite
    unfold shift
    omega
  apply BitVec.eq_of_toNat_eq
  rw [encodes.toNat_eq]
  unfold UnpackedFloat.pack
  simp only [bias, mantissaBits, biased]
  rw [if_neg bounded]
  rcases Nat.lt_or_ge bits (2 ^ (52 : Nat)) with subnormal | normal
  · have log2Lt := log2_significand_of_subnormal nonzero subnormal
    obtain ⟨significandEq, _⟩ := significand_of_subnormal subnormal
    rw [if_neg (by omega), toNat_packComponents, BitVec.toNat_ofNat, BitVec.toNat_ofNat]
    omega
  · obtain ⟨significandEq, shiftEq⟩ := significand_of_normal normal
    rw [if_pos (by rw [log2_significand_of_normal normal]), toNat_packComponents,
      BitVec.toNat_ofNat, BitVec.toNat_ofNat]
    omega

theorem pack_eq (encodes : Encodes word negative bits) :
    UnpackedFloat.pack Format.binary64 (unpacked negative bits) = word := by
  by_cases zero : bits = 0
  · apply BitVec.eq_of_toNat_eq
    rw [encodes.toNat_eq, zero, unpacked_zero]
    show (packComponents Format.binary64 (signOf negative) 0#11 0#52).toNat = _
    rw [toNat_packComponents, BitVec.toNat_zero, BitVec.toNat_zero, Nat.zero_mul]
  · rw [unpacked_of_ne_zero negative zero]
    exact encodes.pack_finite zero

end Encodes

/-! ### Values -/

/-- The word that a sign and a finite magnitude are turned into. -/
theorem encodes_ofNat (negative : Bool) (finite : bits < infinityBits) :
    Encodes (UInt64.ofNat (if negative then 2 ^ (63 : Nat) + bits else bits)).toBitVec negative
      bits := by
  refine ⟨finite, ?_⟩
  unfold infinityBits at finite
  show (UInt64.ofNat _).toNat = _
  rw [UInt64.toNat_ofNat']
  cases negative with
  | false =>
      show bits % 2 ^ (64 : Nat) = 0 * 2 ^ (63 : Nat) + bits
      omega
  | true =>
      show (2 ^ (63 : Nat) + bits) % 2 ^ (64 : Nat) = 1 * 2 ^ (63 : Nat) + bits
      omega

theorem encodes_toBits {value : Float} (finite : magnitude value < infinityBits) :
    Encodes value.toBits.toBitVec (isNegative value) (magnitude value) := by
  refine ⟨finite, ?_⟩
  have bounded : value.toBits.toNat < 2 ^ (64 : Nat) := value.toBits.toNat_lt
  show value.toBits.toNat = _
  unfold isNegative magnitude
  by_cases negative : 2 ^ (63 : Nat) ≤ value.toBits.toNat
  · rw [decide_eq_true negative]
    show _ = 1 * 2 ^ (63 : Nat) + _
    omega
  · rw [decide_eq_false negative]
    show _ = 0 * 2 ^ (63 : Nat) + _
    omega

theorem toFloat_eq (negative : Bool) (finite : bits < infinityBits) :
    toFloat negative bits = .ofModel (.pack (unpacked negative bits)) := by
  rw [← (encodes_ofNat negative finite).unpack_eq]
  rfl

theorem unpack_pack (negative : Bool) (finite : bits < infinityBits) :
    (Float.Model.pack (unpacked negative bits)).unpack = unpacked negative bits := by
  have encodes := encodes_ofNat negative finite
  show UnpackedFloat.unpack Format.binary64
    (UnpackedFloat.pack Format.binary64 (unpacked negative bits)) = _
  rw [encodes.pack_eq]
  exact encodes.unpack_eq

/-- A finite value is given back by its sign and its magnitude. -/
theorem toFloat_magnitude {value : Float} (finite : magnitude value < infinityBits) :
    toFloat (isNegative value) (magnitude value) = value := by
  rw [toFloat_eq _ finite]
  have wordEq : (Float.Model.pack (unpacked (isNegative value) (magnitude value))).toBits =
      value.toModel.toBits :=
    congrArg UInt64.ofBitVec (encodes_toBits finite).pack_eq
  have modelEq : Float.Model.pack (unpacked (isNegative value) (magnitude value)) = value.toModel :=
    (Float.Model.mk.injEq ..).mpr wordEq
  rw [modelEq]

theorem magnitude_lt_of_isFinite {value : Float} (finite : value.isFinite) :
    magnitude value < infinityBits := by
  have bounded : value.toBits.toNat < 2 ^ (64 : Nat) := value.toBits.toNat_lt
  refine Nat.lt_of_not_le fun beyond => ?_
  have exponent : @unpackExponent Format.binary64 value.toBits.toBitVec = -1#_ := by
    apply BitVec.eq_of_toNat_eq
    rw [toNat_unpackExponent]
    show value.toBits.toNat / 2 ^ (52 : Nat) % 2 ^ (11 : Nat) = 2047
    unfold magnitude infinityBits at beyond
    omega
  have unpackedFinite :
      (UnpackedFloat.unpack Format.binary64 value.toBits.toBitVec).isFinite = true := finite
  unfold UnpackedFloat.unpack at unpackedFinite
  dsimp only at unpackedFinite
  rw [if_pos exponent] at unpackedFinite
  split at unpackedFinite <;> cases unpackedFinite

/-! ## Factors -/

/-! ### Rounding -/

variable {mantissa : Nat} {exponent : Int}

theorem shiftRight_mul_two_pow (mantissa count : Nat) :
    ExtendedMantissa.ofMantissaAndAccuracy (mantissa * 2 ^ count) .exact >>> count =
      ExtendedMantissa.ofMantissaAndAccuracy mantissa .exact := by
  induction count generalizing mantissa with
  | zero =>
      rw [Nat.pow_zero, Nat.mul_one]
      rfl
  | succ count inductionHypothesis =>
      have regrouped : mantissa * 2 ^ (count + 1) = mantissa * 2 * 2 ^ count := by
        rw [Nat.pow_succ, Nat.mul_assoc, Nat.mul_comm 2]
      rw [regrouped]
      show (ExtendedMantissa.ofMantissaAndAccuracy (mantissa * 2 * 2 ^ count) .exact >>>
        count).shiftRightOne = _
      rw [inductionHypothesis]
      simp [ExtendedMantissa.ofMantissaAndAccuracy, ExtendedMantissa.shiftRightOne]

theorem totalExponent_mul_two_pow (positive : 0 < mantissa) (count : Nat) :
    totalExponent (mantissa * 2 ^ count) (exponent - count) = totalExponent mantissa exponent := by
  have nonzero := Nat.ne_of_gt positive
  have countPositive := Nat.two_pow_pos count
  have log2Eq : (mantissa * 2 ^ count).log2 = mantissa.log2 + count := by
    rw [Nat.log2_eq_iff (Nat.mul_ne_zero nonzero (Nat.ne_of_gt countPositive)),
      Nat.add_right_comm, Nat.pow_add, Nat.pow_add _ _ count]
    exact ⟨Nat.mul_le_mul_right _ (Nat.log2_self_le nonzero),
      Nat.mul_lt_mul_of_pos_right Nat.lt_log2_self countPositive⟩
  unfold totalExponent
  omega

/-- A significand that stands where the format wants it is left there. -/
theorem shiftToTargetExponent_mul_two_pow (positive : 0 < mantissa) (count : Nat)
    (settled : Format.binary64.targetExponent (totalExponent mantissa exponent) = exponent) :
    shiftToTargetExponent Format.binary64 (mantissa * 2 ^ count) (exponent - count) .exact =
      (.ofMantissaAndAccuracy mantissa .exact, exponent) := by
  have amount : (exponent - (exponent - count)).toNat = count := by omega
  simp only [shiftToTargetExponent, shiftToExponent, totalExponent_mul_two_pow positive, settled,
    amount, shiftRight_mul_two_pow, Int.sub_add_cancel]

theorem roundWithAccuracy_mul_two_pow (positive : 0 < mantissa) (sign : UnpackedFloat.Sign)
    (count : Nat)
    (settled : Format.binary64.targetExponent (totalExponent mantissa exponent) = exponent) :
    roundWithAccuracy Format.binary64 sign (mantissa * 2 ^ count) (exponent - count) .exact =
      .finite sign mantissa exponent positive := by
  have unshifted :
      shiftToTargetExponent Format.binary64 mantissa exponent .exact =
        (.ofMantissaAndAccuracy mantissa .exact, exponent) := by
    have shifted := shiftToTargetExponent_mul_two_pow positive 0 settled
    rwa [Nat.pow_zero, Nat.mul_one, Int.natCast_zero, Int.sub_zero] at shifted
  unfold roundWithAccuracy
  rw [shiftToTargetExponent_mul_two_pow positive count settled]
  -- Nothing was dropped, so the significand is not rounded up, and the second shift starts from it.
  show (let settledAgain := shiftToTargetExponent Format.binary64 mantissa exponent .exact
    if zero : settledAgain.1.mantissa = 0 then UnpackedFloat.zero sign
    else .finite sign settledAgain.1.mantissa settledAgain.2 (Nat.pos_of_ne_zero zero)) = _
  rw [unshifted]
  exact dif_neg (Nat.ne_of_gt positive)

/-- The significand of a finite magnitude stands where the format wants it. -/
theorem targetExponent_significand {bits : Nat} (nonzero : bits ≠ 0) :
    Format.binary64.targetExponent (totalExponent (significand bits) (shift bits - 1074)) =
      shift bits - 1074 := by
  have target (total : Int) : Format.binary64.targetExponent total = max (total - 53) (-1074) := rfl
  rw [target]
  unfold totalExponent
  rcases Nat.lt_or_ge bits (2 ^ (52 : Nat)) with subnormal | normal
  · have log2Lt := log2_significand_of_subnormal nonzero subnormal
    obtain ⟨_, shiftEq⟩ := significand_of_subnormal subnormal
    omega
  · have log2Eq := log2_significand_of_normal normal
    omega

/-! ### Factors -/

theorem unpack_factor (sign : Reckon.Sign) :
    sign.factor.toModel.unpack =
      .finite (signOf (sign == .minus)) (2 ^ (52 : Nat)) (-52) (by decide) := by
  cases sign <;> rfl

theorem signOf_mul (negative factorNegative : Bool) :
    signOf negative * signOf factorNegative = signOf (negative ^^ factorNegative) := by
  cases negative <;> cases factorNegative <;> rfl

theorem mul_unpacked (negative : Bool) (bits : Nat) (sign : Reckon.Sign) :
    UnpackedFloat.mul Format.binary64 (unpacked negative bits) sign.factor.toModel.unpack =
      unpacked (negative ^^ (sign == .minus)) bits := by
  rw [unpack_factor]
  by_cases zero : bits = 0
  · rw [zero, unpacked_zero, unpacked_zero, ← signOf_mul]
    rfl
  · rw [unpacked_of_ne_zero negative zero, unpacked_of_ne_zero _ zero, ← signOf_mul]
    exact roundWithAccuracy_mul_two_pow (significand_pos zero) _ 52
      (targetExponent_significand zero)

/-- The factor of a sign changes the sign of a finite value, if it is a minus, and nothing else. -/
theorem toFloat_mul_factor {bits : Nat} (finite : bits < infinityBits) (negative : Bool)
    (sign : Reckon.Sign) :
    toFloat negative bits * sign.factor = toFloat (negative ^^ (sign == .minus)) bits := by
  have unpackedEq := unpack_pack negative finite
  have product : toFloat negative bits * sign.factor =
      .ofModel (.pack (UnpackedFloat.mul Format.binary64
        (Float.Model.pack (unpacked negative bits)).unpack sign.factor.toModel.unpack)) := by
    rw [toFloat_eq negative finite]
    rfl
  rw [product, unpackedEq, mul_unpacked, toFloat_eq _ finite]

end Reckon.Binary64
