import Reckon.Decimal
import Reckon.Numeral
import Reckon.Proofs.Token.Adjacency

/-!
Contract: the numerals among texts, and the positional notation of decimal numbers.

Owns:
- that digits, and digits with a point between them, are numerals, and what they are read as;
- that no numeral that starts with a digit has a sign or is a word;
- that the notation of a decimal number is digits, or digits with a point between them, up to zeros
  at the end;
- that reading it rounds the decimal number that it stands for;
- the characters that the text of a value is written with.

Does not own: which magnitude is nearest to a decimal number, and which decimal number a value is
written as.
-/

set_option autoImplicit false

namespace Reckon

/-! ## Numerals -/

namespace Numeral

theorem guard_of_holds {condition : Prop} [Decidable condition] (holds : condition) :
    (guard condition : Option Unit) = some () :=
  if_pos holds

theorem readDecimal?_digits {digits : List Char} (isDigits : IsDigits digits) :
    readDecimal? digits = some (.decimal (Nat.ofDigitChars 10 digits 0) 0) := by
  have nonempty : digits ++ [] ≠ [] := by
    simp [isDigits.1]
  unfold readDecimal?
  rw [isDigits.takeWhile_eq, isDigits.dropWhile_eq]
  dsimp only
  rw [guard_of_holds nonempty]
  simp [readExponent?]

/-- Digits after a point count towards the coefficient and lower the exponent. -/
theorem readDecimal?_pointed {whole fraction : List Char} (wholeDigits : IsDigits whole)
    (fractionDigits : IsDigits fraction) :
    readDecimal? (whole ++ '.' :: fraction) =
      some (.decimal (Nat.ofDigitChars 10 (whole ++ fraction) 0) (0 - fraction.length)) := by
  have nonempty : whole ++ fraction ≠ [] := by
    simp [wholeDigits.1]
  unfold readDecimal?
  rw [wholeDigits.takeWhile_point, wholeDigits.dropWhile_point]
  show (do
      guard (whole ++ fraction.takeWhile Char.isDigit ≠ [])
      let exponent ← readExponent? (fraction.dropWhile Char.isDigit)
      return Magnitude.decimal (Nat.ofDigitChars 10 (whole ++ fraction.takeWhile Char.isDigit) 0)
        (exponent - (fraction.takeWhile Char.isDigit).length)) = _
  rw [fractionDigits.takeWhile_eq, fractionDigits.dropWhile_eq, guard_of_holds nonempty]
  simp [readExponent?]

theorem toLower_of_isDigit {digit : Char} (isDigit : digit.isDigit) : digit.toLower = digit := by
  have notUpper : ¬(digit.val ≥ 'A'.val ∧ digit.val ≤ 'Z'.val) := by
    intro ⟨lower, _⟩
    simp only [Char.isDigit, Bool.and_eq_true, decide_eq_true_eq] at isDigit
    exact absurd (UInt32.le_trans lower isDigit.2) (by decide)
  exact dif_neg notUpper

/-- What starts with a digit is none of the words. -/
theorem readMagnitude?_of_digit {digit : Char} (isDigit : digit.isDigit) (rest : List Char) :
    readMagnitude? (digit :: rest) = readDecimal? (digit :: rest) := by
  have differs {letter : Char} {letters : List Char} (notDigit : letter.isDigit = false) :
      String.ofList ((digit :: rest).map Char.toLower) ≠ String.ofList (letter :: letters) := by
    intro same
    rw [List.map_cons, toLower_of_isDigit isDigit] at same
    cases String.ofList_injective same
    rw [isDigit] at notDigit
    cases notDigit
  have notInfinity : ¬(String.ofList ((digit :: rest).map Char.toLower) = "inf" ∨
      String.ofList ((digit :: rest).map Char.toLower) = "infinity") :=
    not_or.2 ⟨differs rfl, differs rfl⟩
  unfold readMagnitude?
  rw [if_neg notInfinity, if_neg (differs rfl)]

/-- A text that starts with a digit has no sign. -/
theorem value?_of_digit {text : String} {digit : Char} {rest : List Char} (isDigit : digit.isDigit)
    (textEq : text.toList = digit :: rest) :
    value? text = (readDecimal? text.toList).map fun magnitude => toFloat ⟨false, magnitude⟩ := by
  have unsigned : ofText? text = (readMagnitude? text.toList).map (⟨false, ·⟩) := by
    unfold ofText?
    rw [textEq]
    split
    · next minusEq =>
        cases minusEq
        cases isDigit
    · next plusEq =>
        cases plusEq
        cases isDigit
    · rfl
  rw [value?, unsigned, textEq, readMagnitude?_of_digit isDigit, Option.map_map]
  rfl

theorem value?_digits {text : String} (digits : IsDigits text.toList) :
    value? text =
      some (toFloat ⟨false, .decimal (Nat.ofDigitChars 10 text.toList 0) 0⟩) := by
  obtain ⟨digit, rest, isDigit, textEq⟩ := digits.exists_digit
  rw [value?_of_digit isDigit textEq, readDecimal?_digits digits]
  rfl

theorem value?_pointed {text : String} {whole fraction : List Char} (wholeDigits : IsDigits whole)
    (fractionDigits : IsDigits fraction) (textEq : text.toList = whole ++ '.' :: fraction) :
    value? text =
      some (toFloat ⟨false,
        .decimal (Nat.ofDigitChars 10 (whole ++ fraction) 0) (0 - fraction.length)⟩) := by
  have pointed : IsPointed text.toList := ⟨whole, fraction, wholeDigits, fractionDigits, textEq⟩
  obtain ⟨digit, rest, isDigit, startEq⟩ := pointed.exists_digit
  rw [value?_of_digit isDigit startEq, textEq, readDecimal?_pointed wholeDigits fractionDigits]
  rfl

theorem isSome_value?_of_isDigits {text : String} (digits : IsDigits text.toList) :
    (value? text).isSome := by
  rw [value?_digits digits]
  rfl

theorem isSome_value?_of_isPointed {text : String} (pointed : IsPointed text.toList) :
    (value? text).isSome := by
  obtain ⟨whole, fraction, wholeDigits, fractionDigits, textEq⟩ := pointed
  rw [value?_pointed wholeDigits fractionDigits textEq]
  rfl

end Numeral

/-! ## Positional notation -/

-- Powers are those of the core library, whatever other instance an importing file has in scope.
attribute [local instance (high)] instPowNat

/-! ### Rounding -/

theorem Binary64.nearest_zero {denominator : Nat} (positive : 0 < denominator) :
    nearest 0 denominator = 0 := by
  have rounded : roundDiv 0 denominator = 0 := by
    have roundedMul := roundDiv_mul 0 positive
    rwa [Nat.zero_mul] at roundedMul
  unfold nearest
  simp [rounded]

/-- None of the shortcuts is taken for a number with at most 1074 places. -/
theorem Numeral.nearestDecimal_neg (coefficient : Nat) {count : Nat}
    (few : count ≤ Decimal.places) :
    nearestDecimal coefficient (-count) = Binary64.nearest coefficient (10 ^ count) := by
  have places : Decimal.places = 1074 := by
    unfold Decimal.places Binary64.places
    rfl
  have notTiny : ¬(-count : Int) < -(1100 + coefficient.log2) := by omega
  unfold nearestDecimal
  by_cases zero : coefficient = 0
  · rw [if_pos zero, zero, Binary64.nearest_zero (Nat.pow_pos (by decide))]
  · rw [if_neg zero, if_neg (by omega), if_neg notTiny]
    cases count with
    | zero => simp
    | succ count => rw [if_neg (by omega), Int.neg_neg, Int.toNat_natCast]

namespace Decimal

/-! ### Digits -/

theorem isDigit_of_mem_toDigits {number : Nat} :
    ∀ character ∈ Nat.toDigits 10 number, character.isDigit :=
  fun _ member => Nat.isDigit_of_mem_toDigits (by decide) (by decide) member

/-- The digits after the point, with the zeros at the end. -/
def padded (fraction : Nat) : List Char :=
  List.replicate (places - (Nat.toDigits 10 fraction).length) '0' ++ Nat.toDigits 10 fraction

theorem length_padded {fraction : Nat} (small : fraction < 10 ^ places) :
    (padded fraction).length = places := by
  have placesPositive : 0 < places := by
    unfold places Binary64.places
    decide
  have fits := (Nat.length_toDigits_le_iff (by decide) placesPositive).2 small
  rw [padded, List.length_append, List.length_replicate, Nat.sub_add_cancel fits]

theorem isDigit_of_mem_padded {fraction : Nat} :
    ∀ character ∈ padded fraction, character.isDigit := by
  intro character member
  rcases List.mem_append.1 member with zero | digit
  · rw [List.eq_of_mem_replicate zero]
    rfl
  · exact isDigit_of_mem_toDigits character digit

theorem ofDigitChars_padded (fraction : Nat) :
    Nat.ofDigitChars 10 (padded fraction) 0 = fraction := by
  rw [padded, Nat.ofDigitChars_append, Nat.ofDigitChars_replicate_zero, Nat.mul_zero,
    Nat.ofDigitChars_ten_toDigits]

/-- Only zeros are left out at the end. -/
theorem exists_padded_eq (fraction : Nat) :
    ∃ count, padded fraction = fractionDigits fraction ++ List.replicate count '0' := by
  obtain ⟨zeros, rest, cut, allZero, boundary⟩ := exists_cut (· == '0') (padded fraction).reverse
  have kept : fractionDigits fraction = rest.reverse := by
    show ((padded fraction).reverse.dropWhile (· == '0')).reverse = _
    rw [cut, dropWhile_append_of_boundary allZero boundary]
  have zerosEq : zeros = List.replicate zeros.length '0' :=
    List.eq_replicate_iff.2 ⟨rfl, fun zero member => eq_of_beq (allZero zero member)⟩
  refine ⟨zeros.length, ?_⟩
  rw [kept, ← List.reverse_inj, cut, List.reverse_append, List.reverse_reverse,
    List.reverse_replicate, ← zerosEq]

theorem isDigit_of_mem_fractionDigits {fraction : Nat} :
    ∀ character ∈ fractionDigits fraction, character.isDigit := by
  intro character member
  obtain ⟨count, paddedEq⟩ := exists_padded_eq fraction
  have inPadded : character ∈ padded fraction := by
    rw [paddedEq]
    exact List.mem_append_left _ member
  exact isDigit_of_mem_padded character inPadded

theorem length_fractionDigits_add {fraction count : Nat} (small : fraction < 10 ^ places)
    (paddedEq : padded fraction = fractionDigits fraction ++ List.replicate count '0') :
    (fractionDigits fraction).length + count = places := by
  rw [← length_padded small, paddedEq, List.length_append, List.length_replicate]

theorem length_fractionDigits_le {fraction : Nat} (small : fraction < 10 ^ places) :
    (fractionDigits fraction).length ≤ places := by
  obtain ⟨count, paddedEq⟩ := exists_padded_eq fraction
  exact Nat.le.intro (length_fractionDigits_add small paddedEq)

theorem ofDigitChars_fractionDigits {fraction : Nat} (small : fraction < 10 ^ places) :
    Nat.ofDigitChars 10 (fractionDigits fraction) 0 *
        10 ^ (places - (fractionDigits fraction).length) = fraction := by
  obtain ⟨count, paddedEq⟩ := exists_padded_eq fraction
  have length := length_fractionDigits_add small paddedEq
  have value := ofDigitChars_padded fraction
  rw [paddedEq, Nat.ofDigitChars_append, Nat.ofDigitChars_replicate_zero] at value
  rw [← length, Nat.add_sub_cancel_left, Nat.mul_comm, value]

/-! ### Notation -/

def beforePoint (decimal : Nat) : List Char := Nat.toDigits 10 (decimal / 10 ^ places)

def afterPoint (decimal : Nat) : List Char := fractionDigits (decimal % 10 ^ places)

variable {decimal : Nat}

theorem mod_places_lt (decimal : Nat) : decimal % 10 ^ places < 10 ^ places :=
  Nat.mod_lt _ (Nat.pow_pos (by decide))

theorem isDigits_beforePoint (decimal : Nat) : IsDigits (beforePoint decimal) :=
  ⟨Nat.toDigits_ne_nil, isDigit_of_mem_toDigits⟩

theorem isDigits_afterPoint (pointed : afterPoint decimal ≠ []) : IsDigits (afterPoint decimal) :=
  ⟨pointed, isDigit_of_mem_fractionDigits⟩

theorem length_afterPoint_le (decimal : Nat) : (afterPoint decimal).length ≤ places :=
  length_fractionDigits_le (mod_places_lt decimal)

theorem positional_of_whole (whole : afterPoint decimal = []) :
    positional decimal = beforePoint decimal := by
  have none : fractionDigits (decimal % 10 ^ places) = [] := whole
  unfold positional
  rw [none]
  rfl

theorem positional_of_pointed (pointed : afterPoint decimal ≠ []) :
    positional decimal = beforePoint decimal ++ '.' :: afterPoint decimal := by
  unfold positional
  split
  · next none => exact absurd none pointed
  · rfl

/-- The digits on both sides of the point, read as one number, count the places in use. -/
theorem ofDigitChars_digits (decimal : Nat) :
    Nat.ofDigitChars 10 (beforePoint decimal ++ afterPoint decimal) 0 *
        10 ^ (places - (afterPoint decimal).length) = decimal := by
  have split : (afterPoint decimal).length + (places - (afterPoint decimal).length) = places :=
    Nat.add_sub_cancel' (length_afterPoint_le decimal)
  have fraction : Nat.ofDigitChars 10 (afterPoint decimal) 0 *
      10 ^ (places - (afterPoint decimal).length) = decimal % 10 ^ places :=
    ofDigitChars_fractionDigits (mod_places_lt decimal)
  calc
    Nat.ofDigitChars 10 (beforePoint decimal ++ afterPoint decimal) 0 *
          10 ^ (places - (afterPoint decimal).length) =
        (10 ^ (afterPoint decimal).length * (decimal / 10 ^ places) +
            Nat.ofDigitChars 10 (afterPoint decimal) 0) *
          10 ^ (places - (afterPoint decimal).length) := by
      rw [Nat.ofDigitChars_append, Nat.ofDigitChars_eq_ofDigitChars_zero, beforePoint,
        Nat.ofDigitChars_ten_toDigits]
    _ = 10 ^ places * (decimal / 10 ^ places) + decimal % 10 ^ places := by
      rw [Nat.add_mul, fraction, Nat.mul_right_comm, ← Nat.pow_add, split]
    _ = decimal := Nat.div_add_mod decimal (10 ^ places)

theorem nearestDecimal_digits (decimal : Nat) :
    Numeral.nearestDecimal (Nat.ofDigitChars 10 (beforePoint decimal ++ afterPoint decimal) 0)
        (-(afterPoint decimal).length) =
      Binary64.nearest decimal (10 ^ places) := by
  have few := length_afterPoint_le decimal
  have scale : 0 < 10 ^ (places - (afterPoint decimal).length) := Nat.pow_pos (by decide)
  rw [Numeral.nearestDecimal_neg _ few, ← Binary64.nearest_mul_mul _ _ scale,
    ofDigitChars_digits, ← Nat.pow_add, Nat.add_sub_cancel' few]

/-- The notation of a decimal number is spelled as a number token is, with a point or without. -/
theorem isDigits_or_isPointed_positional (decimal : Nat) :
    IsDigits (positional decimal) ∨ IsPointed (positional decimal) := by
  by_cases whole : afterPoint decimal = []
  · rw [positional_of_whole whole]
    exact .inl (isDigits_beforePoint decimal)
  · rw [positional_of_pointed whole]
    exact .inr ⟨_, _, isDigits_beforePoint decimal, isDigits_afterPoint whole, rfl⟩

/-- The notation of a decimal number is read as the magnitude nearest to it. -/
theorem value?_positional (decimal : Nat) :
    Numeral.value? (String.ofList (positional decimal)) =
      some (Binary64.toFloat false (Binary64.nearest decimal (10 ^ places))) := by
  have nearest := nearestDecimal_digits decimal
  by_cases whole : afterPoint decimal = []
  · have textEq : (String.ofList (positional decimal)).toList = beforePoint decimal := by
      rw [String.toList_ofList, positional_of_whole whole]
    have digits : IsDigits (String.ofList (positional decimal)).toList := by
      rw [textEq]
      exact isDigits_beforePoint decimal
    rw [whole, List.append_nil] at nearest
    rw [Numeral.value?_digits digits, textEq, ← nearest]
    rfl
  · have textEq : (String.ofList (positional decimal)).toList =
        beforePoint decimal ++ '.' :: afterPoint decimal := by
      rw [String.toList_ofList, positional_of_pointed whole]
    rw [Numeral.value?_pointed (isDigits_beforePoint decimal) (isDigits_afterPoint whole) textEq,
      ← nearest, Int.zero_sub]
    rfl

theorem mem_positional {character : Char} (member : character ∈ positional decimal) :
    character.isDigit ∨ character = '.' := by
  rcases isDigits_or_isPointed_positional decimal with digits | pointed
  · exact .inl (digits.2 character member)
  · obtain ⟨whole, fraction, wholeDigits, fractionDigits, positionalEq⟩ := pointed
    rw [positionalEq] at member
    rcases List.mem_append.1 member with inWhole | afterWhole
    · exact .inl (wholeDigits.2 character inWhole)
    · rcases List.mem_cons.1 afterWhole with point | inFraction
      · exact .inr point
      · exact .inl (fractionDigits.2 character inFraction)

/-! ### Texts of values -/

variable {value : Float}

theorem text_of_finite (finite : Binary64.magnitude value < Binary64.infinityBits) :
    text value = (if Binary64.isNegative value then "-" else "") ++
      String.ofList (positional (shortest (Binary64.magnitude value))) := by
  unfold text
  rw [if_neg (Nat.lt_asymm finite), if_neg (Nat.ne_of_lt finite)]

theorem mem_text {character : Char} (member : character ∈ (text value).toList) :
    character.isDigit ∨ character ∈ ['-', '.', 'N', 'a', 'i', 'n', 'f'] := by
  have ofWord {word : String}
      (among : word.toList.all (['-', '.', 'N', 'a', 'i', 'n', 'f'].contains ·) = true)
      (inWord : character ∈ word.toList) :
      character.isDigit ∨ character ∈ ['-', '.', 'N', 'a', 'i', 'n', 'f'] :=
    .inr (List.contains_iff_mem.1 (List.all_eq_true.1 among character inWord))
  by_cases notANumber : Binary64.infinityBits < Binary64.magnitude value
  · simp only [text, notANumber, if_true] at member
    exact ofWord rfl member
  · simp only [text, notANumber, if_false, String.toList_append] at member
    rcases List.mem_append.1 member with inSign | inMagnitude
    · split at inSign
      · exact ofWord rfl inSign
      · exact ofWord rfl inSign
    · split at inMagnitude
      · exact ofWord rfl inMagnitude
      · rw [String.toList_ofList] at inMagnitude
        refine (mem_positional inMagnitude).imp_right ?_
        rintro rfl
        decide

end Decimal

end Reckon
