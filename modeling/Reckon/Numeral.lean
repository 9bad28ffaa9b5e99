import Reckon.Binary64

/-!
Contract: the numerals that a number token may hold, and their binary64 values.

A numeral has an optional sign.  It is then either one of the words `inf`, `infinity` and `nan`, in
letters of any case, or digits with an optional point and at least one digit on either side of it,
and an optional exponent with at least one digit.

Owns: the grammar of numerals and the value of each.

Does not own: which numerals occur in an expression; a scan lets through far fewer.
-/

set_option autoImplicit false

namespace Reckon

-- Powers are those of the core library, whatever other instance an importing file has in scope.
attribute [local instance (high)] instPowNat

/-- A numeral without its sign. -/
inductive Numeral.Magnitude where
  | infinity
  | notANumber
  /-- The value `coefficient * 10 ^ exponent`. -/
  | decimal (coefficient : Nat) (exponent : Int)
deriving DecidableEq, Repr

/-- A numeral that has been read. -/
structure Numeral where
  negative : Bool
  magnitude : Numeral.Magnitude
deriving DecidableEq, Repr

namespace Numeral

/-- The exponent part of a numeral: nothing at all, or a mark, an optional sign and digits. -/
def readExponent? : List Char → Option Int
  | [] => some 0
  | mark :: rest =>
      if mark = 'e' ∨ mark = 'E' then
        match rest with
        | '-' :: digits => (readDigits? digits).map fun value => -(value : Int)
        | '+' :: digits => (readDigits? digits).map Int.ofNat
        | digits => (readDigits? digits).map Int.ofNat
      else none
where
  /-- The value of a text of at least one digit and nothing else. -/
  readDigits? (digits : List Char) : Option Nat :=
    if digits ≠ [] ∧ digits.all Char.isDigit then some (Nat.ofDigitChars 10 digits 0) else none

/-- Digits, a point among them or not, and an exponent.  Digits after the point count towards the
coefficient and lower the exponent. -/
def readDecimal? (characters : List Char) : Option Magnitude := do
  let whole := characters.takeWhile Char.isDigit
  let afterWhole := characters.dropWhile Char.isDigit
  let (fraction, afterFraction) :=
    match afterWhole with
    | '.' :: rest => (rest.takeWhile Char.isDigit, rest.dropWhile Char.isDigit)
    | rest => ([], rest)
  guard (whole ++ fraction ≠ [])
  let exponent ← readExponent? afterFraction
  return .decimal (Nat.ofDigitChars 10 (whole ++ fraction) 0) (exponent - fraction.length)

/-- A numeral without its sign. -/
def readMagnitude? (characters : List Char) : Option Magnitude :=
  let word := String.ofList (characters.map Char.toLower)
  if word = "inf" ∨ word = "infinity" then some .infinity
  else if word = "nan" then some .notANumber
  else readDecimal? characters

def ofText? (text : String) : Option Numeral :=
  match text.toList with
  | '-' :: rest => (readMagnitude? rest).map (⟨true, ·⟩)
  | '+' :: rest => (readMagnitude? rest).map (⟨false, ·⟩)
  | rest => (readMagnitude? rest).map (⟨false, ·⟩)

/-- The bits of the binary64 magnitude nearest to a decimal number.

A positive coefficient with an exponent above 400 is past every finite magnitude, and one with an
exponent below `-(1100 + log2 coefficient)` is far below half the least one, so that no power of ten
has to be computed that the digits themselves do not account for. -/
def nearestDecimal (coefficient : Nat) (exponent : Int) : Nat :=
  if coefficient = 0 then 0
  else if 400 < exponent then Binary64.infinityBits
  else if exponent < -(1100 + coefficient.log2 : Int) then 0
  else if 0 ≤ exponent then Binary64.nearest (coefficient * 10 ^ exponent.toNat) 1
  else Binary64.nearest coefficient (10 ^ (-exponent).toNat)

/-- The binary64 value nearest to a numeral, with the sign that is written. -/
def toFloat (numeral : Numeral) : Float :=
  match numeral.magnitude with
  | .infinity => Binary64.toFloat numeral.negative Binary64.infinityBits
  | .notANumber => Float.ofBits 0x7ff8000000000000
  | .decimal coefficient exponent =>
      Binary64.toFloat numeral.negative (nearestDecimal coefficient exponent)

/-- The value that a text denotes, if it is a numeral. -/
def value? (text : String) : Option Float :=
  (ofText? text).map toFloat

end Numeral

end Reckon
