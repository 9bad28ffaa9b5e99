import Reckon.Expression
import Reckon.Proofs.Expression
import Reckon.Proofs.Numeral
import Reckon.Proofs.Token.Adjacency

/-!
Contract: the tokens of a phrase, and the grammar in terms of them.

Owns:
- the tokens of a phrase and the levels it fits;
- that a text is derived exactly if it spells the tokens of a phrase that fits;
- that the tokens of a phrase that fits are well-formed and write its expression;
- that a phrase that fits has a value.

Does not own: which token lists are those of a phrase.
-/

set_option autoImplicit false

namespace Reckon

namespace Phrase

/-- The tokens of a phrase, in the order they are written. -/
def tokens : Phrase → List Token
  | .number fractional lexeme => [(Operand.unsigned fractional lexeme).number]
  | .binary operator left right => left.tokens ++ .operator operator.symbol :: right.tokens
  | .group inner => .leftParenthesis :: inner.tokens ++ [.rightParenthesis]
  | .negatedGroup inner =>
      .leftParenthesis :: .unaryMinus :: inner.tokens ++ [.rightParenthesis]

/-- The first token is a number. -/
def startsWithNumber : Phrase → Bool
  | .number _ _ => true
  | .binary _ left _ => left.startsWithNumber
  | .group _ | .negatedGroup _ => false

/-- A phrase is one of the grammar, on a given level or a tighter one. -/
def Fits (level : Nat) : Phrase → Prop
  | .number fractional lexeme => (Operand.unsigned fractional lexeme).number.IsSpelled
  | .binary operator left right =>
      level ≤ operator.precedence ∧ left.Fits operator.precedence ∧
        right.Fits (operator.precedence + 1)
  | .group inner => inner.Fits 1
  | .negatedGroup inner => inner.startsWithNumber ∧ inner.Fits 1

theorem Fits.of_le {level tighter : Nat} {phrase : Phrase} (fits : phrase.Fits tighter)
    (le : level ≤ tighter) : phrase.Fits level := by
  cases phrase with
  | binary operator left right => exact ⟨Nat.le_trans le fits.1, fits.2⟩
  | _ => exact fits

/-! ## Derivation -/

/-- The grammar joins phrases on the level of an operator's precedence, by its symbol. -/
theorem joins_iff {level : Nat} {character : Char} {operator : Operator} :
    Joins level character operator ↔
      level = operator.precedence ∧ character = operator.symbol := by
  constructor
  · intro joins
    cases joins <;> exact ⟨rfl, rfl⟩
  · rintro ⟨rfl, rfl⟩
    cases operator
    · exact .plus
    · exact .minus
    · exact .times
    · exact .over
    · exact .toThe

theorem Derives.of_le {level tighter : Nat} {phrase : Phrase} {text : List Char}
    (derived : Derives tighter phrase text) (le : level ≤ tighter) : Derives level phrase text := by
  induction tighter with
  | zero =>
      rw [Nat.le_zero.1 le]
      exact derived
  | succ tighter inductionHypothesis =>
      rcases Nat.lt_or_eq_of_le le with below | same
      · exact inductionHypothesis derived.tighter (Nat.le_of_lt_succ below)
      · rw [same]
        exact derived

theorem exists_digit_of_isSpelled {fractional : Bool} {lexeme : String}
    (spelled : (Operand.unsigned fractional lexeme).number.IsSpelled) :
    ∃ digit rest, digit.isDigit ∧ lexeme.toList = digit :: rest := by
  have started := spelled.exists_digit (Operand.isNumber_number _)
  rwa [Operand.lexeme_number] at started

@[simp]
theorem characters_number (fractional : Bool) (lexeme : String) :
    Token.characters (tokens (.number fractional lexeme)) = lexeme.toList := by
  cases fractional <;> simp [tokens, Operand.unsigned, Operand.number, Token.integer,
    Token.floatingPoint]

@[simp]
theorem characters_binary (operator : Operator) (left right : Phrase) :
    Token.characters (tokens (.binary operator left right)) =
      Token.characters left.tokens ++ operator.symbol :: Token.characters right.tokens := by
  simp [tokens]

@[simp]
theorem characters_group (inner : Phrase) :
    Token.characters (tokens (.group inner)) =
      '(' :: Token.characters inner.tokens ++ [')'] := by
  simp [tokens, Token.leftParenthesis, Token.rightParenthesis]

@[simp]
theorem characters_negatedGroup (inner : Phrase) :
    Token.characters (tokens (.negatedGroup inner)) =
      '(' :: '-' :: Token.characters inner.tokens ++ [')'] := by
  simp [tokens, Token.leftParenthesis, Token.rightParenthesis, Token.unaryMinus]

/-- Among phrases of the grammar, those whose text starts with a digit start with a number. -/
theorem startsWithNumber_iff {level : Nat} {phrase : Phrase} (fits : phrase.Fits level) :
    phrase.startsWithNumber ↔
      ∃ digit rest, digit.isDigit ∧ Token.characters phrase.tokens = digit :: rest := by
  induction phrase generalizing level with
  | number fractional lexeme =>
      rw [characters_number]
      exact iff_of_true rfl (exists_digit_of_isSpelled fits)
  | binary operator left right leftHypothesis _ =>
      rw [characters_binary]
      constructor
      · intro starts
        obtain ⟨digit, rest, isDigit, leftEq⟩ := (leftHypothesis fits.2.1).1 starts
        exact ⟨digit, _, isDigit, by rw [leftEq, List.cons_append]⟩
      · intro ⟨digit, rest, isDigit, textEq⟩
        apply (leftHypothesis fits.2.1).2
        cases leftEq : Token.characters left.tokens with
        | nil =>
            rw [leftEq] at textEq
            cases textEq
            cases operator <;> cases isDigit
        | cons first others =>
            rw [leftEq] at textEq
            cases textEq
            exact ⟨digit, others, isDigit, rfl⟩
  | group inner _ =>
      rw [characters_group]
      apply iff_of_false Bool.false_ne_true
      intro ⟨digit, rest, isDigit, textEq⟩
      cases textEq
      cases isDigit
  | negatedGroup inner _ =>
      rw [characters_negatedGroup]
      apply iff_of_false Bool.false_ne_true
      intro ⟨digit, rest, isDigit, textEq⟩
      cases textEq
      cases isDigit

theorem fits_of_derives {level : Nat} {phrase : Phrase} {text : List Char}
    (derived : Derives level phrase text) :
    level ≤ 4 ∧ phrase.Fits level ∧ Token.characters phrase.tokens = text := by
  induction derived with
  | tighter _ inductionHypothesis =>
      obtain ⟨bound, fits, textEq⟩ := inductionHypothesis
      exact ⟨by omega, fits.of_le (by omega), textEq⟩
  | binary joins _ _ leftHypothesis rightHypothesis =>
      obtain ⟨rfl, rfl⟩ := joins_iff.1 joins
      obtain ⟨leftBound, leftFits, leftEq⟩ := leftHypothesis
      obtain ⟨_, rightFits, rightEq⟩ := rightHypothesis
      refine ⟨leftBound, ⟨Nat.le_refl _, leftFits, rightFits⟩, ?_⟩
      rw [characters_binary, leftEq, rightEq]
  | integer spelled => exact ⟨Nat.le_refl 4, spelled, characters_number false _⟩
  | fractional spelled => exact ⟨Nat.le_refl 4, spelled, characters_number true _⟩
  | group _ inductionHypothesis =>
      obtain ⟨_, fits, textEq⟩ := inductionHypothesis
      exact ⟨Nat.le_refl 4, fits, by rw [characters_group, textEq]⟩
  | @negatedGroup phrase digit text startsWithDigit _ inductionHypothesis =>
      obtain ⟨_, fits, textEq⟩ := inductionHypothesis
      have starts := (startsWithNumber_iff fits).2 ⟨digit, text, startsWithDigit, textEq⟩
      exact ⟨Nat.le_refl 4, ⟨starts, fits⟩, by rw [characters_negatedGroup, textEq]⟩

theorem derives_of_fits {level : Nat} {phrase : Phrase} (bound : level ≤ 4)
    (fits : phrase.Fits level) : Derives level phrase (Token.characters phrase.tokens) := by
  induction phrase generalizing level with
  | number fractional lexeme =>
      rw [characters_number]
      refine Derives.of_le ?_ bound
      cases fractional with
      | false => exact .integer fits
      | true => exact .fractional fits
  | binary operator left right leftHypothesis rightHypothesis =>
      obtain ⟨bindsEnough, leftFits, rightFits⟩ := fits
      have tightest := operator.precedence_le_three
      rw [characters_binary]
      exact (Derives.binary (joins_iff.2 ⟨rfl, rfl⟩) (leftHypothesis (by omega) leftFits)
        (rightHypothesis (by omega) rightFits)).of_le bindsEnough
  | group inner inductionHypothesis =>
      rw [characters_group]
      exact (Derives.group (inductionHypothesis (by decide) fits)).of_le bound
  | negatedGroup inner inductionHypothesis =>
      obtain ⟨digit, rest, isDigit, textEq⟩ := (startsWithNumber_iff fits.2).1 fits.1
      have derived := inductionHypothesis (by decide) fits.2
      rw [textEq] at derived
      rw [characters_negatedGroup, textEq]
      exact (Derives.negatedGroup isDigit derived).of_le bound

/-- The texts of the grammar are those that spell the tokens of a phrase that fits. -/
theorem derives_iff {phrase : Phrase} {text : List Char} :
    Derives 1 phrase text ↔ phrase.Fits 1 ∧ Token.characters phrase.tokens = text := by
  constructor
  · intro derived
    exact (fits_of_derives derived).2
  · intro ⟨fits, textEq⟩
    rw [← textEq]
    exact derives_of_fits (by decide) fits

/-! ## Well-formedness -/

theorem leads_tokens {level : Nat} {phrase : Phrase} (fits : phrase.Fits level)
    {previous : Option Token.Kind}
    (follows : Token.Kind.mayFollow previous .leftParenthesis ∨
      phrase.startsWithNumber ∧ Token.Kind.mayFollow previous .integer) :
    ∃ last, Token.Leads previous phrase.tokens (some last) ∧ last.mayEnd := by
  induction phrase generalizing level previous with
  | number fractional lexeme =>
      have mayFollow : Token.Kind.mayFollow previous .integer := by
        rcases follows with parenthesis | ⟨_, number⟩
        · exact Token.Kind.mayFollow_integer_of_leftParenthesis parenthesis
        · exact number
      cases fractional with
      | false => exact ⟨.integer, ⟨mayFollow, fits, rfl⟩, rfl⟩
      | true =>
          rw [← Token.Kind.mayFollow_floatingPoint] at mayFollow
          exact ⟨.floatingPoint, ⟨mayFollow, fits, rfl⟩, rfl⟩
  | binary operator left right leftHypothesis rightHypothesis =>
      obtain ⟨_, leftFits, rightFits⟩ := fits
      obtain ⟨middle, leftLeads, leftEnds⟩ := leftHypothesis leftFits follows
      obtain ⟨last, rightLeads, rightEnds⟩ :=
        rightHypothesis rightFits (.inl (rfl : Token.Kind.mayFollow (some .operator) _ = true))
      refine ⟨last, Token.leads_append.2 ⟨some middle, leftLeads, ?_⟩, rightEnds⟩
      exact ⟨(Token.Kind.mayFollow_of_mayEnd leftEnds).2, ⟨operator, rfl⟩, rightLeads⟩
  | group inner inductionHypothesis =>
      obtain ⟨last, leads, ends⟩ :=
        inductionHypothesis fits (.inl (rfl : Token.Kind.mayFollow (some .leftParenthesis) _ = true))
      have mayFollow : Token.Kind.mayFollow previous .leftParenthesis := by
        rcases follows with parenthesis | ⟨starts, _⟩
        · exact parenthesis
        · cases starts
      refine ⟨.rightParenthesis, ⟨mayFollow, rfl, ?_⟩, rfl⟩
      exact leads.concat (Token.Kind.mayFollow_of_mayEnd ends).1 rfl
  | negatedGroup inner inductionHypothesis =>
      obtain ⟨starts, innerFits⟩ := fits
      obtain ⟨last, leads, ends⟩ := inductionHypothesis innerFits
        (.inr ⟨starts, (rfl : Token.Kind.mayFollow (some .unaryMinus) _ = true)⟩)
      have mayFollow : Token.Kind.mayFollow previous .leftParenthesis := by
        rcases follows with parenthesis | ⟨absurdity, _⟩
        · exact parenthesis
        · cases absurdity
      refine ⟨.rightParenthesis, ⟨mayFollow, rfl, rfl, rfl, ?_⟩, rfl⟩
      exact leads.concat (Token.Kind.mayFollow_of_mayEnd ends).1 rfl

/-- The tokens of a phrase of the grammar are well-formed. -/
theorem wellFormed_tokens {phrase : Phrase} (fits : phrase.Fits 1) :
    Token.WellFormed phrase.tokens :=
  Token.wellFormed_iff.2 (leads_tokens fits (.inl rfl))

/-! ## Writing -/

mutual

/-- The tokens of a phrase of the grammar write its expression. -/
theorem written_tokens {level : Nat} {phrase : Phrase} (fits : phrase.Fits level) :
    Expression.Written Operand.tokens level phrase.expression phrase.tokens := by
  cases phrase with
  | number fractional lexeme => exact .leaf (Operand.unsigned fractional lexeme)
  | binary operator left right =>
      obtain ⟨bindsEnough, leftFits, rightFits⟩ := fits
      exact .binary bindsEnough (written_tokens leftFits) (written_tokens rightFits)
  | group inner =>
      have inside : inner.Fits 1 := fits
      exact .parenthesized ((written_tokens inside).of_le (Nat.zero_le 1))
  | negatedGroup inner =>
      obtain ⟨starts, inside⟩ := fits
      exact .parenthesized ((written_negated starts inside).of_le (Nat.zero_le 1))

/-- A unary minus in front of the tokens of a phrase negates its first number. -/
theorem written_negated {level : Nat} {phrase : Phrase} (starts : phrase.startsWithNumber)
    (fits : phrase.Fits level) :
    Expression.Written Operand.tokens level (phrase.expression.mapFirst Operand.negated)
      (.unaryMinus :: phrase.tokens) := by
  cases phrase with
  | number fractional lexeme => exact .leaf (Operand.unsigned fractional lexeme).negated
  | binary operator left right =>
      have leftStarts : left.startsWithNumber := starts
      obtain ⟨bindsEnough, leftFits, rightFits⟩ := fits
      exact .binary bindsEnough (written_negated leftStarts leftFits) (written_tokens rightFits)
  | group inner => cases starts
  | negatedGroup inner => cases starts

end

/-! ## Values -/

theorem isSome_value?_number {fractional : Bool} {lexeme : String}
    (spelled : (Operand.unsigned fractional lexeme).number.IsSpelled) :
    (Numeral.value? lexeme).isSome := by
  cases fractional with
  | false => exact Numeral.isSome_value?_of_isDigits spelled
  | true => exact Numeral.isSome_value?_of_isPointed spelled

/-- A phrase of the grammar has a value. -/
theorem isSome_value? {level : Nat} {phrase : Phrase} (fits : phrase.Fits level) :
    phrase.value?.isSome := by
  induction phrase generalizing level with
  | number fractional lexeme =>
      show (Operand.unsigned fractional lexeme).value?.isSome
      rw [Operand.isSome_value?]
      exact isSome_value?_number fits
  | binary operator left right leftHypothesis rightHypothesis =>
      obtain ⟨_, leftFits, rightFits⟩ := fits
      have leftValued := leftHypothesis leftFits
      have rightValued := rightHypothesis rightFits
      simp only [value?] at leftValued rightValued
      simp [value?, expression, leftValued, rightValued]
  | group inner inductionHypothesis => exact inductionHypothesis fits
  | negatedGroup inner inductionHypothesis =>
      have readable : ∀ operand : Operand,
          operand.negated.value?.isSome = operand.value?.isSome := by
        intro operand
        rw [Operand.isSome_value?, Operand.isSome_value?]
        rfl
      rw [value?, expression, Expression.isSome_value?_mapFirst readable]
      exact inductionHypothesis fits.2

end Phrase

end Reckon
