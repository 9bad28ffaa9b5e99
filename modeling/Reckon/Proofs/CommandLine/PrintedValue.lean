import Reckon.Proofs.Binary64
import Reckon.Proofs.CommandLine.Display

/-!
Contract: the text of a finite value, evaluated.

Owns:
- the values of a number on its own, and of a number in parentheses with a unary minus;
- that the text of a finite value is evaluated to this value, in parentheses if it has a minus sign.

Does not own: infinities and what is not a number, whose texts are no expressions.
-/

set_option autoImplicit false

namespace Reckon.CommandLine

-- Powers are those of the core library, whatever other instance an importing file has in scope.
attribute [local instance (high)] instPowNat

variable {text : String} {value : Float}

/-! ### Numbers -/

theorem exists_derives_number (spelled : IsDigits text.toList ∨ IsPointed text.toList) :
    ∃ fractional, Phrase.Derives 1 (.number fractional text) text.toList := by
  rcases spelled with digits | pointed
  · exact ⟨false, (Phrase.Derives.integer digits).of_le (by decide)⟩
  · exact ⟨true, (Phrase.Derives.fractional pointed).of_le (by decide)⟩

theorem outcome_evaluate_of_value {phrase : Phrase} (derived : Phrase.Derives 1 phrase text.toList)
    (valueEq : phrase.value? = some value) : (evaluate text).outcome = .ok value := by
  obtain ⟨result, resultEq, evaluated⟩ := Phrase.outcome_evaluate_of_derives derived
  rw [valueEq] at resultEq
  cases resultEq
  exact evaluated

theorem outcome_evaluate_number (spelled : IsDigits text.toList ∨ IsPointed text.toList)
    (read : Numeral.value? text = some value) :
    (evaluate text).outcome = .ok (value * Sign.plus.factor) := by
  obtain ⟨fractional, derived⟩ := exists_derives_number spelled
  apply outcome_evaluate_of_value derived
  show (Numeral.value? text).map (· * Sign.plus.factor) = _
  rw [read]
  rfl

/-- A minus directly after a left parenthesis negates the number behind it. -/
theorem outcome_evaluate_negated (spelled : IsDigits text.toList ∨ IsPointed text.toList)
    (read : Numeral.value? text = some value) :
    (evaluate ("(" ++ ("-" ++ text) ++ ")")).outcome = .ok (value * Sign.minus.factor) := by
  obtain ⟨fractional, derived⟩ := exists_derives_number spelled
  obtain ⟨digit, rest, isDigit, textEq⟩ : ∃ digit rest, digit.isDigit ∧ text.toList = digit :: rest :=
    spelled.elim IsDigits.exists_digit IsPointed.exists_digit
  have grouped : Phrase.Derives 1 (.negatedGroup (.number fractional text))
      ("(" ++ ("-" ++ text) ++ ")").toList := by
    rw [textEq] at derived
    rw [String.toList_append, String.toList_append, String.toList_append, textEq]
    exact (Phrase.Derives.negatedGroup isDigit derived).of_le (by decide)
  apply outcome_evaluate_of_value grouped
  show (Numeral.value? text).map (· * Sign.minus.factor) = _
  rw [read]
  rfl

/-! ### Texts of finite values -/

/-- The text of a magnitude is read as the magnitude. -/
theorem value?_shortest {bits : Nat} (finite : bits < Binary64.infinityBits) :
    Numeral.value? (String.ofList (Decimal.positional (Decimal.shortest bits))) =
      some (Binary64.toFloat false bits) := by
  have readBack : Binary64.nearest (Decimal.shortest bits) (10 ^ Decimal.places) = bits :=
    eq_of_beq (Decimal.readsBackAs_shortest finite)
  rw [Decimal.value?_positional, readBack]

theorem isDigits_or_isPointed_shortest (bits : Nat) :
    IsDigits (String.ofList (Decimal.positional (Decimal.shortest bits))).toList ∨
      IsPointed (String.ofList (Decimal.positional (Decimal.shortest bits))).toList := by
  rw [String.toList_ofList]
  exact Decimal.isDigits_or_isPointed_positional _

/-- The text of a finite value without a minus sign stands on its own. -/
theorem evaluate_text_of_not_isNegative (finite : value.isFinite)
    (unsigned : Binary64.isNegative value = false) :
    (Decimal.text value).toList.head? ≠ some '-' ∧
      (evaluate (Decimal.text value)).outcome = .ok value := by
  have bounded := Binary64.magnitude_lt_of_isFinite finite
  have spelled := isDigits_or_isPointed_shortest (Binary64.magnitude value)
  have givenBack := Binary64.toFloat_magnitude bounded
  have printed := Decimal.text_of_finite bounded
  rw [unsigned] at givenBack printed
  have bare : Decimal.text value =
      String.ofList (Decimal.positional (Decimal.shortest (Binary64.magnitude value))) :=
    printed.trans String.empty_append
  rw [bare]
  constructor
  · obtain ⟨digit, rest, isDigit, startEq⟩ :=
      spelled.elim IsDigits.exists_digit IsPointed.exists_digit
    intro minus
    rw [startEq] at minus
    cases minus
    cases isDigit
  · have evaluated := outcome_evaluate_number spelled (value?_shortest bounded)
    rw [Binary64.toFloat_mul_factor bounded] at evaluated
    exact evaluated.trans (congrArg Except.ok givenBack)

/-- The text of a finite value with a minus sign is taken for a unary minus and a number, once it
stands in parentheses. -/
theorem evaluate_text_of_isNegative (finite : value.isFinite)
    (negative : Binary64.isNegative value) :
    (Decimal.text value).toList.head? = some '-' ∧
      (evaluate ("(" ++ Decimal.text value ++ ")")).outcome = .ok value := by
  have bounded := Binary64.magnitude_lt_of_isFinite finite
  have spelled := isDigits_or_isPointed_shortest (Binary64.magnitude value)
  have givenBack := Binary64.toFloat_magnitude bounded
  rw [negative] at givenBack
  rw [Decimal.text_of_finite bounded, if_pos negative]
  constructor
  · rw [String.toList_append]
    rfl
  · have evaluated := outcome_evaluate_negated spelled (value?_shortest bounded)
    rw [Binary64.toFloat_mul_factor bounded] at evaluated
    exact evaluated.trans (congrArg Except.ok givenBack)

/-- What a run prints for a finite value is evaluated to this value, bit by bit: as it stands or, if
it starts with a minus sign, in parentheses.  This holds of both zeros. -/
theorem evaluate_printed_value (finite : value.isFinite) :
    (∀ expression, (evaluate expression).outcome = .ok value →
      (runExpression {} expression).output = [Decimal.text value]) ∧
    ((Decimal.text value).toList.head? ≠ some '-' →
      (evaluate (Decimal.text value)).outcome = .ok value) ∧
    ((Decimal.text value).toList.head? = some '-' →
      (evaluate ("(" ++ Decimal.text value ++ ")")).outcome = .ok value) := by
  refine ⟨?_, ?_⟩
  · intro expression evaluated
    rw [output_runExpression, valuePart, evaluated]
    rfl
  · cases negative : Binary64.isNegative value with
    | false =>
        obtain ⟨bare, evaluated⟩ := evaluate_text_of_not_isNegative finite negative
        exact ⟨fun _ => evaluated, fun minus => absurd minus bare⟩
    | true =>
        obtain ⟨minus, evaluated⟩ := evaluate_text_of_isNegative finite negative
        exact ⟨fun bare => absurd minus bare, fun _ => evaluated⟩

/-- A tenth is printed as it is written.  Negative zero needs parentheses. -/
theorem evaluate_printed_tenth_and_negative_zero :
    ((0.1 : Float).isFinite ∧ Decimal.text 0.1 = "0.1" ∧ (evaluate "0.1").outcome = .ok 0.1) ∧
      (-0.0 : Float).isFinite ∧ Decimal.text (-0.0) = "-0" ∧
        (evaluate "(-0)").outcome = .ok (-0.0) := by
  have tenthFinite : (0.1 : Float).isFinite := by decide +kernel
  have tenthPrinted : Decimal.text 0.1 = "0.1" := by decide +kernel
  have zeroFinite : (-0.0 : Float).isFinite := by decide +kernel
  have zeroPrinted : Decimal.text (-0.0) = "-0" := by decide +kernel
  obtain ⟨_, tenth, _⟩ := evaluate_printed_value tenthFinite
  obtain ⟨_, _, zero⟩ := evaluate_printed_value zeroFinite
  rw [tenthPrinted] at tenth
  rw [zeroPrinted] at zero
  exact ⟨⟨tenthFinite, tenthPrinted, tenth (by decide)⟩, zeroFinite, zeroPrinted, zero rfl⟩

end Reckon.CommandLine
