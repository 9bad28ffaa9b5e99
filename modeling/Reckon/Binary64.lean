/-!
Contract: the finite magnitudes of the IEEE 754 binary64 format, as natural numbers.

Every finite magnitude is a whole number of the least one, `2 ^ -1074`, and the bits of a magnitude,
read as a number, rise with it.  So the format is a function from bits to counts of the least
magnitude, and rounding to nearest is its inverse.

Owns:
- the count that the bits of a finite magnitude stand for;
- rounding of a quotient of natural numbers to the nearest magnitude, a tie going to even bits;
- the passage between bits, with a sign, and `Float`.

`nearest_units` says that rounding leaves a finite magnitude as it is, and `nearest_mul_mul` that it
depends on the value of a quotient only.

Does not own: decimal notation.
-/

set_option autoImplicit false

namespace Reckon.Binary64

-- Powers are those of the core library, whatever other instance an importing file has in scope.
attribute [local instance (high)] instPowNat

/-- The number of places after the binary point of the least positive magnitude.  No law here
depends on how many there are, so powers of this size stay folded in proofs. -/
@[irreducible]
def places : Nat := 1074

/-- The bits of infinity: one more than those of the greatest finite magnitude. -/
def infinityBits : Nat := 0x7ff0000000000000

/-- The power of two by which the significand of a magnitude is shifted.  Both the subnormal
magnitudes and the least normal ones are not shifted at all. -/
def shift (bits : Nat) : Nat := bits / 2 ^ (52 : Nat) - 1

/-- The significand of a magnitude.  The leading bit of a normal magnitude is the last bit of its
exponent, once the shift is taken away. -/
def significand (bits : Nat) : Nat := bits - shift bits * 2 ^ (52 : Nat)

/-- How often the least positive magnitude goes into the magnitude with the given bits. -/
def units (bits : Nat) : Nat := significand bits * 2 ^ shift bits

/-- The whole number nearest to a quotient; of two equally near, the even one. -/
def roundDiv (numerator denominator : Nat) : Nat :=
  let quotient := numerator / denominator
  let remainder := numerator % denominator
  if 2 * remainder < denominator ∨ 2 * remainder = denominator ∧ quotient % 2 = 0 then quotient
  else quotient + 1

/-- The bits of the magnitude nearest to a quotient, ties to even; of infinity for a quotient past
the greatest finite magnitude by half its spacing or more.

A significand that rounds up to `2 ^ 53` carries into the exponent, which is the sum here.  Proofs
use the laws below and leave it folded. -/
@[irreducible]
def nearest (numerator denominator : Nat) : Nat :=
  let scaled := numerator * 2 ^ places
  let shift := (scaled / denominator).log2 - 52
  min infinityBits (shift * 2 ^ (52 : Nat) + roundDiv scaled (denominator * 2 ^ shift))

def toFloat (negative : Bool) (magnitude : Nat) : Float :=
  Float.ofBits (UInt64.ofNat (if negative then 2 ^ (63 : Nat) + magnitude else magnitude))

/-- A value carries a minus sign, be it zero or not. -/
def isNegative (value : Float) : Bool := 2 ^ (63 : Nat) ≤ value.toBits.toNat

def magnitude (value : Float) : Nat := value.toBits.toNat % 2 ^ (63 : Nat)

theorem roundDiv_mul_mul (numerator denominator : Nat) {factor : Nat} (positive : 0 < factor) :
    roundDiv (numerator * factor) (denominator * factor) = roundDiv numerator denominator := by
  unfold roundDiv
  simp only [Nat.mul_div_mul_right _ _ positive, Nat.mul_mod_mul_right, ← Nat.mul_assoc,
    Nat.mul_lt_mul_right positive, Nat.mul_left_inj (Nat.ne_of_gt positive)]

/-- Rounding depends on the value of a quotient only. -/
theorem nearest_mul_mul (numerator denominator : Nat) {factor : Nat} (positive : 0 < factor) :
    nearest (numerator * factor) (denominator * factor) = nearest numerator denominator := by
  unfold nearest
  have scaled : numerator * factor * 2 ^ places = numerator * 2 ^ places * factor :=
    Nat.mul_right_comm ..
  simp only [scaled, Nat.mul_div_mul_right _ _ positive, Nat.mul_right_comm denominator factor,
    roundDiv_mul_mul _ _ positive]

theorem roundDiv_mul (quotient : Nat) {denominator : Nat} (positive : 0 < denominator) :
    roundDiv (quotient * denominator) denominator = quotient := by
  simp [roundDiv, Nat.mul_div_cancel _ positive, positive]

theorem shift_add_significand (bits : Nat) :
    shift bits * 2 ^ (52 : Nat) + significand bits = bits := by
  unfold significand shift
  omega

theorem units_lt_of_shift_eq_zero {bits : Nat} (unshifted : shift bits = 0) :
    units bits < 2 ^ (53 : Nat) := by
  unfold units significand
  simp only [unshifted]
  unfold shift at unshifted
  omega

theorem significand_bounds {bits : Nat} (shifted : shift bits ≠ 0) :
    2 ^ (52 : Nat) ≤ significand bits ∧ significand bits < 2 ^ (53 : Nat) := by
  unfold significand
  unfold shift at shifted ⊢
  omega

/-- The shift of a magnitude is seen from the count that it stands for. -/
theorem log2_units_sub (bits : Nat) : (units bits).log2 - 52 = shift bits := by
  by_cases unshifted : shift bits = 0
  · have small := units_lt_of_shift_eq_zero unshifted
    rw [unshifted]
    rcases Nat.eq_zero_or_pos (units bits) with zero | positive
    · simp [zero]
    · have : (units bits).log2 < 53 := (Nat.log2_lt (Nat.ne_of_gt positive)).2 small
      omega
  · obtain ⟨lower, upper⟩ := significand_bounds unshifted
    have shiftPositive := Nat.two_pow_pos (shift bits)
    have nonzero : units bits ≠ 0 :=
      Nat.ne_of_gt (Nat.mul_pos (Nat.lt_of_lt_of_le (by decide) lower) shiftPositive)
    have log2Eq : (units bits).log2 = 52 + shift bits := by
      rw [Nat.log2_eq_iff nonzero, Nat.pow_add, Nat.add_right_comm, Nat.pow_add]
      exact ⟨Nat.mul_le_mul_right _ lower, Nat.mul_lt_mul_of_pos_right upper shiftPositive⟩
    omega

theorem nearest_units {bits : Nat} (finite : bits < infinityBits) :
    nearest (units bits) (2 ^ places) = bits := by
  have placesPositive := Nat.two_pow_pos places
  have rounded :
      roundDiv (units bits * 2 ^ places) (2 ^ places * 2 ^ shift bits) = significand bits := by
    have regrouped :
        units bits * 2 ^ places = significand bits * (2 ^ places * 2 ^ shift bits) := by
      unfold units
      rw [Nat.mul_assoc, Nat.mul_comm (2 ^ shift bits)]
    rw [regrouped]
    exact roundDiv_mul _ (Nat.mul_pos placesPositive (Nat.two_pow_pos _))
  unfold nearest
  simp only [Nat.mul_div_cancel _ placesPositive, log2_units_sub, rounded,
    shift_add_significand]
  omega

end Reckon.Binary64
