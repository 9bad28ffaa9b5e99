import Reckon.Proofs.Phrase.Grammar
import Reckon.Proofs.ReversePolish.Arrangement

/-!
Contract: no two phrases of the grammar have the same tokens.

Owns: the comparison of two phrases at the end of one token list, after stretches that end with a
token which binds weaker than the phrases.

Does not own: texts, which determine their tokens by themselves.

Phrases are read from the right.  All operators associate to the left, so the right operand of the
last operator is a phrase of the next level, and what stands before that operator ends with a token
that binds weaker than it.  From the left there is no such bound on the first operand.
-/

set_option autoImplicit false

namespace Reckon.Phrase

/-- Tokens end with one that binds weaker than a level, if they are any. -/
def EndsBelow (level : Nat) (tokens : List Token) : Prop :=
  ∀ last ∈ tokens.getLast?, last.precedence < level

theorem EndsBelow.of_le {level tighter : Nat} {tokens : List Token}
    (endsBelow : EndsBelow level tokens) (le : level ≤ tighter) : EndsBelow tighter tokens := by
  intro last member
  have below := endsBelow last member
  omega

theorem endsBelow_concat {level : Nat} {tokens : List Token} {token : Token} :
    EndsBelow level (tokens ++ [token]) ↔ token.precedence < level := by
  simp [EndsBelow]

theorem unsigned_number_inj {fractional fractional' : Bool} {lexeme lexeme' : String}
    (same : (Operand.unsigned fractional lexeme).number =
      (Operand.unsigned fractional' lexeme').number) :
    fractional = fractional' ∧ lexeme = lexeme' := by
  cases fractional <;> cases fractional' <;> cases same <;> exact ⟨rfl, rfl⟩

/-- A number and a right parenthesis are not the same last token. -/
theorem append_number_ne {before before' : List Token} {fractional : Bool} {lexeme : String} :
    before ++ [(Operand.unsigned fractional lexeme).number] ≠ before' ++ [.rightParenthesis] := by
  intro same
  have last := List.singleton_inj.1 (List.append_inj' same rfl).2
  cases fractional <;> cases last

/-- Two phrases end in the same place only if they begin in the same place. -/
def Aligned (level : Nat) (phrase phrase' : Phrase) : Prop :=
  ∀ before before' : List Token, EndsBelow level before → EndsBelow level before' →
    before ++ phrase.tokens = before' ++ phrase'.tokens → before = before' ∧ phrase = phrase'

theorem Aligned.symm {level : Nat} {phrase phrase' : Phrase}
    (aligned : Aligned level phrase phrase') : Aligned level phrase' phrase := by
  intro before before' below below' same
  obtain ⟨beforeEq, phraseEq⟩ := aligned _ _ below' below same.symm
  exact ⟨beforeEq.symm, phraseEq.symm⟩

/-- A phrase of a tighter level than an operator ends after that operator begins, if it ends with
its right operand. -/
theorem aligned_binary_of_tighter {level : Nat} {operator : Operator} {left right phrase : Phrase}
    (bindsEnough : level ≤ operator.precedence)
    (aligned : Aligned (operator.precedence + 1) right phrase) :
    Aligned level (.binary operator left right) phrase := by
  intro before before' _ below' same
  have behind : EndsBelow (operator.precedence + 1)
      (before ++ left.tokens ++ [.operator operator.symbol]) := by
    rw [endsBelow_concat, Token.precedence_operator]
    omega
  have regrouped : before ++ left.tokens ++ [.operator operator.symbol] ++ right.tokens =
      before' ++ phrase.tokens := by
    rw [← same]
    simp [tokens]
  obtain ⟨rfl, _⟩ := aligned _ _ behind (below'.of_le (by omega)) regrouped
  rw [endsBelow_concat, Token.precedence_operator] at below'
  omega

theorem aligned_binary {level : Nat} {operator operator' : Operator}
    {left right left' right' : Phrase} (bindsEnough : level ≤ operator.precedence)
    (samePrecedence : operator.precedence = operator'.precedence)
    (alignedLeft : Aligned operator.precedence left left')
    (alignedRight : Aligned (operator.precedence + 1) right right') :
    Aligned level (.binary operator left right) (.binary operator' left' right') := by
  intro before before' below below' same
  have behind : EndsBelow (operator.precedence + 1)
      (before ++ left.tokens ++ [.operator operator.symbol]) := by
    rw [endsBelow_concat, Token.precedence_operator]
    omega
  have behind' : EndsBelow (operator.precedence + 1)
      (before' ++ left'.tokens ++ [.operator operator'.symbol]) := by
    rw [endsBelow_concat, Token.precedence_operator]
    omega
  obtain ⟨beforeRight, rfl⟩ := alignedRight _ _ behind behind' (by simpa [tokens] using same)
  obtain ⟨beforeOperator, operatorEq⟩ := List.append_inj' beforeRight rfl
  obtain ⟨rfl, rfl⟩ := alignedLeft _ _ (below.of_le bindsEnough) (below'.of_le bindsEnough)
    beforeOperator
  have operators := congrArg Token.operator? (List.singleton_inj.1 operatorEq)
  rw [Token.operator?_operator, Token.operator?_operator] at operators
  cases operators
  exact ⟨rfl, rfl⟩

/-- Phrases between parentheses are compared with what opens the parentheses before them. -/
theorem of_append_parenthesized {before before' opening opening' : List Token}
    {inner inner' : Phrase} (aligned : Aligned 1 inner inner')
    (weak : EndsBelow 1 (before ++ opening)) (weak' : EndsBelow 1 (before' ++ opening'))
    (same : before ++ (opening ++ inner.tokens ++ [.rightParenthesis]) =
      before' ++ (opening' ++ inner'.tokens ++ [.rightParenthesis])) :
    before ++ opening = before' ++ opening' ∧ inner = inner' := by
  apply aligned _ _ weak weak'
  simp only [← List.append_assoc] at same
  exact (List.append_inj' same rfl).1

theorem endsBelow_group (before : List Token) : EndsBelow 1 (before ++ [.leftParenthesis]) := by
  rw [endsBelow_concat]
  decide

theorem endsBelow_negatedGroup (before : List Token) :
    EndsBelow 1 (before ++ [.leftParenthesis, .unaryMinus]) := by
  rw [List.append_cons, endsBelow_concat]
  decide

theorem aligned_group {level : Nat} {inner inner' : Phrase} (aligned : Aligned 1 inner inner') :
    Aligned level (.group inner) (.group inner') := by
  intro before before' _ _ same
  obtain ⟨openingEq, rfl⟩ := of_append_parenthesized aligned (endsBelow_group before)
    (endsBelow_group before') same
  exact ⟨(List.append_inj' openingEq rfl).1, rfl⟩

theorem aligned_negatedGroup {level : Nat} {inner inner' : Phrase}
    (aligned : Aligned 1 inner inner') :
    Aligned level (.negatedGroup inner) (.negatedGroup inner') := by
  intro before before' _ _ same
  obtain ⟨openingEq, rfl⟩ := of_append_parenthesized aligned (endsBelow_negatedGroup before)
    (endsBelow_negatedGroup before') same
  exact ⟨(List.append_inj' openingEq rfl).1, rfl⟩

/-- A group that is negated opens with another token than one that is not. -/
theorem aligned_group_negatedGroup {level : Nat} {inner inner' : Phrase}
    (aligned : Aligned 1 inner inner') : Aligned level (.group inner) (.negatedGroup inner') := by
  intro before before' _ _ same
  obtain ⟨openingEq, _⟩ := of_append_parenthesized aligned (endsBelow_group before)
    (endsBelow_negatedGroup before') same
  rw [List.append_cons before'] at openingEq
  exact absurd (List.singleton_inj.1 (List.append_inj' openingEq rfl).2) (by decide)

theorem aligned_number (level : Nat) (fractional fractional' : Bool) (lexeme lexeme' : String) :
    Aligned level (.number fractional lexeme) (.number fractional' lexeme') := by
  intro before before' _ _ same
  obtain ⟨beforeEq, numberEq⟩ := List.append_inj' same rfl
  obtain ⟨rfl, rfl⟩ := unsigned_number_inj (List.singleton_inj.1 numberEq)
  exact ⟨beforeEq, rfl⟩

theorem aligned_number_group (level : Nat) (fractional : Bool) (lexeme : String) (inner : Phrase) :
    Aligned level (.number fractional lexeme) (.group inner) := by
  intro before before' _ _ same
  rw [tokens, tokens, ← List.append_assoc] at same
  exact absurd same append_number_ne

theorem aligned_number_negatedGroup (level : Nat) (fractional : Bool) (lexeme : String)
    (inner : Phrase) : Aligned level (.number fractional lexeme) (.negatedGroup inner) := by
  intro before before' _ _ same
  rw [tokens, tokens, ← List.append_assoc] at same
  exact absurd same append_number_ne

/-- Phrases of one level are aligned. -/
theorem aligned_of_fits {level : Nat} (phrase phrase' : Phrase) (positive : 0 < level)
    (fits : phrase.Fits level) (fits' : phrase'.Fits level) : Aligned level phrase phrase' := by
  match phrase, phrase' with
  | .binary operator left right, .binary operator' left' right' =>
      obtain ⟨bindsEnough, leftFits, rightFits⟩ := fits
      obtain ⟨bindsEnough', leftFits', rightFits'⟩ := fits'
      rcases Nat.lt_trichotomy operator.precedence operator'.precedence with weaker | same | tighter
      · have whole' : Fits (operator.precedence + 1) (.binary operator' left' right') :=
          ⟨weaker, leftFits', rightFits'⟩
        exact aligned_binary_of_tighter bindsEnough
          (aligned_of_fits right (.binary operator' left' right') (by omega) rightFits whole')
      · rw [← same] at leftFits' rightFits'
        exact aligned_binary bindsEnough same
          (aligned_of_fits left left' (by omega) leftFits leftFits')
          (aligned_of_fits right right' (by omega) rightFits rightFits')
      · have whole : Fits (operator'.precedence + 1) (.binary operator left right) :=
          ⟨tighter, leftFits, rightFits⟩
        exact (aligned_binary_of_tighter bindsEnough'
          (aligned_of_fits right' (.binary operator left right) (by omega) rightFits' whole)).symm
  -- An atom fits every level, the one of a right operand too.
  | .binary operator left right, .number fractional' lexeme' =>
      exact aligned_binary_of_tighter fits.1
        (aligned_of_fits right (.number fractional' lexeme') (by omega) fits.2.2 fits')
  | .binary operator left right, .group inner' =>
      exact aligned_binary_of_tighter fits.1
        (aligned_of_fits right (.group inner') (by omega) fits.2.2 fits')
  | .binary operator left right, .negatedGroup inner' =>
      exact aligned_binary_of_tighter fits.1
        (aligned_of_fits right (.negatedGroup inner') (by omega) fits.2.2 fits')
  | .number fractional lexeme, .binary operator' left' right' =>
      exact (aligned_binary_of_tighter fits'.1
        (aligned_of_fits right' (.number fractional lexeme) (by omega) fits'.2.2 fits)).symm
  | .group inner, .binary operator' left' right' =>
      exact (aligned_binary_of_tighter fits'.1
        (aligned_of_fits right' (.group inner) (by omega) fits'.2.2 fits)).symm
  | .negatedGroup inner, .binary operator' left' right' =>
      exact (aligned_binary_of_tighter fits'.1
        (aligned_of_fits right' (.negatedGroup inner) (by omega) fits'.2.2 fits)).symm
  | .number fractional lexeme, .number fractional' lexeme' =>
      exact aligned_number level fractional fractional' lexeme lexeme'
  | .number fractional lexeme, .group inner' =>
      exact aligned_number_group level fractional lexeme inner'
  | .number fractional lexeme, .negatedGroup inner' =>
      exact aligned_number_negatedGroup level fractional lexeme inner'
  | .group inner, .number fractional' lexeme' =>
      exact (aligned_number_group level fractional' lexeme' inner).symm
  | .negatedGroup inner, .number fractional' lexeme' =>
      exact (aligned_number_negatedGroup level fractional' lexeme' inner).symm
  | .group inner, .group inner' =>
      exact aligned_group (aligned_of_fits inner inner' Nat.one_pos fits fits')
  | .negatedGroup inner, .negatedGroup inner' =>
      exact aligned_negatedGroup (aligned_of_fits inner inner' Nat.one_pos fits.2 fits'.2)
  | .group inner, .negatedGroup inner' =>
      exact aligned_group_negatedGroup (aligned_of_fits inner inner' Nat.one_pos fits fits'.2)
  | .negatedGroup inner, .group inner' =>
      exact (aligned_group_negatedGroup
        (aligned_of_fits inner' inner Nat.one_pos fits' fits.2)).symm
termination_by sizeOf phrase + sizeOf phrase'

/-- A token list is that of one phrase of the grammar at most. -/
theorem eq_of_tokens_eq {phrase phrase' : Phrase} (fits : phrase.Fits 1) (fits' : phrase'.Fits 1)
    (same : phrase.tokens = phrase'.tokens) : phrase = phrase' := by
  have nothing : EndsBelow 1 [] := by
    simp [EndsBelow]
  exact (aligned_of_fits phrase phrase' Nat.one_pos fits fits' [] [] nothing nothing same).2

end Reckon.Phrase
