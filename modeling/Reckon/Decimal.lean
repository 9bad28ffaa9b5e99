import Reckon.Binary64

/-!
Contract: binary64 values in decimal notation.

A binary64 magnitude is a whole number of `2 ^ -1074`, so it is a whole number of `10 ^ -1074` too.
Here a decimal number with at most 1074 places is the natural number that counts these.

Owns:
- the exact decimal form of a magnitude;
- the shortest decimal number that is read back as the same magnitude, and of several equally short
  ones the nearest, the upper one on a tie;
- the positional notation of a decimal number and the text of a value.

`readsBackAs_shortest` says that no digit is dropped that reading back needs.

Does not own: the reading of decimal notation.
-/

set_option autoImplicit false

namespace Reckon.Decimal

-- Powers are those of the core library, whatever other instance an importing file has in scope.
attribute [local instance (high)] instPowNat

/-- The number of places after the decimal point of every decimal number here. -/
def places : Nat := Binary64.places

/-- A magnitude, exactly. -/
def exact (bits : Nat) : Nat := Binary64.units bits * 5 ^ places

/-- Of the two neighbours of a number on a coarser grid, the nearer one that is accepted.  On a tie
the upper neighbour is taken. -/
def onGrid? (accepted : Nat → Bool) (number spacing : Nat) : Option Nat :=
  let lower := number / spacing * spacing
  let upper := lower + spacing
  match accepted lower, accepted upper with
  | true, true => some (if number - lower < upper - number then lower else upper)
  | true, false => some lower
  | false, true => some upper
  | false, false => none

/-- Search the grids of spacing `10 ^ dropped` and finer, coarsest first, for an accepted number.
The finest grid holds the number itself. -/
def coarsest (accepted : Nat → Bool) (number : Nat) : (dropped : Nat) → Nat
  | 0 => number
  | dropped + 1 =>
      match onGrid? accepted number (10 ^ dropped.succ) with
      | some rounded => rounded
      | none => coarsest accepted number dropped

/-- A decimal number is nearer to the given magnitude than to any other. -/
def readsBackAs (bits decimal : Nat) : Bool :=
  Binary64.nearest decimal (10 ^ places) == bits

/-- The decimal number with the fewest digits that is read back as the given magnitude.  The search
starts with a single digit. -/
def shortest (bits : Nat) : Nat :=
  coarsest (readsBackAs bits) (exact bits) ((Nat.toDigits 10 (exact bits)).length - 1)

/-- The digits after the point: as many as `places`, without the zeros at the end. -/
def fractionDigits (fraction : Nat) : List Char :=
  let digits := Nat.toDigits 10 fraction
  let padded := List.replicate (places - digits.length) '0' ++ digits
  (padded.reverse.dropWhile (· == '0')).reverse

/-- A decimal number in digits, with a point only if digits follow it. -/
def positional (decimal : Nat) : List Char :=
  let whole := Nat.toDigits 10 (decimal / 10 ^ places)
  match fractionDigits (decimal % 10 ^ places) with
  | [] => whole
  | fraction => whole ++ '.' :: fraction

/-- The text of a value: its shortest decimal form after a minus sign if it carries one, also for a
negative zero, and never with an exponent. -/
def text (value : Float) : String :=
  let magnitude := Binary64.magnitude value
  if Binary64.infinityBits < magnitude then "NaN"
  else
    (if Binary64.isNegative value then "-" else "") ++
      if magnitude = Binary64.infinityBits then "inf"
      else String.ofList (positional (shortest magnitude))

theorem accepted_of_onGrid? {accepted : Nat → Bool} {number spacing rounded : Nat}
    (found : onGrid? accepted number spacing = some rounded) : accepted rounded = true := by
  unfold onGrid? at found
  grind

theorem accepted_coarsest {accepted : Nat → Bool} {number : Nat}
    (start : accepted number = true) (dropped : Nat) :
    accepted (coarsest accepted number dropped) = true := by
  induction dropped with
  | zero => exact start
  | succ dropped inductionHypothesis =>
      unfold coarsest
      split
      · next found => exact accepted_of_onGrid? found
      · exact inductionHypothesis

theorem readsBackAs_exact {bits : Nat} (finite : bits < Binary64.infinityBits) :
    readsBackAs bits (exact bits) = true := by
  unfold readsBackAs exact places
  rw [show 10 = 2 * 5 by decide, Nat.mul_pow,
    Binary64.nearest_mul_mul _ _ (Nat.pow_pos (by decide)), Binary64.nearest_units finite]
  exact beq_self_eq_true bits

/-- The shortest form of a finite magnitude is read back as this magnitude. -/
theorem readsBackAs_shortest {bits : Nat} (finite : bits < Binary64.infinityBits) :
    readsBackAs bits (shortest bits) = true :=
  accepted_coarsest (readsBackAs_exact finite) _

end Reckon.Decimal
