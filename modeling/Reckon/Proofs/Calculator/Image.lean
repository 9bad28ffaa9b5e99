import Reckon.Proofs.Calculator.Course
import Reckon.Proofs.Token.Field

/-!
Contract: the token lists that the conversion of texts puts out, and their lines.

Owns:
- trees over numbers as texts spell them, and the text that writes such a tree with all parentheses;
- that the conversion takes this text back to the tree, and puts out the reverse Polish order of such
  trees and nothing else;
- that the tokens of a text, in either order, are read back from their line.

Does not own: which texts are converted to the same tokens, and the lines of token lists that come
from no text.
-/

set_option autoImplicit false

namespace Reckon

/-! ## The image of the conversion -/

namespace Expression

/-- The numbers of a tree are spelled as in a text. -/
def IsSpelled (tree : Expression Operand) : Prop :=
  ∀ operand ∈ tree.operands, operand.number.IsSpelled

theorem isSpelled_leaf {operand : Operand} :
    (leaf operand).IsSpelled ↔ operand.number.IsSpelled :=
  List.forall_mem_singleton

theorem isSpelled_binary {operator : Operator} {left right : Expression Operand} :
    (binary operator left right).IsSpelled ↔ left.IsSpelled ∧ right.IsSpelled := by
  unfold IsSpelled
  rw [operands, List.forall_mem_append]

/-- A sign is no part of the spelling of a number. -/
theorem isSpelled_mapFirst_negated {tree : Expression Operand} :
    (tree.mapFirst Operand.negated).IsSpelled ↔ tree.IsSpelled := by
  induction tree with
  | leaf operand => rw [mapFirst, isSpelled_leaf, isSpelled_leaf, Operand.negated, Operand.number,
      Operand.number]
  | binary operator left right leftHypothesis _ =>
      rw [mapFirst, isSpelled_binary, leftHypothesis, isSpelled_binary]

/-- The text that writes a tree with parentheses around every operator and every negated number. -/
def parenthesizedText (tree : Expression Operand) : String :=
  String.join (tree.parenthesized.map Token.lexeme)

/-- The phrase that writes a tree with parentheses around every operator and every negated number. -/
def parenthesizedPhrase : Expression Operand → Phrase
  | .leaf operand =>
      match operand.sign with
      | .plus => .number operand.fractional operand.lexeme
      | .minus => .negatedGroup (.number operand.fractional operand.lexeme)
  | .binary operator left right =>
      .group (.binary operator left.parenthesizedPhrase right.parenthesizedPhrase)

theorem tokens_parenthesizedPhrase (tree : Expression Operand) :
    tree.parenthesizedPhrase.tokens = tree.parenthesized := by
  induction tree with
  | leaf operand =>
      obtain ⟨sign, fractional, lexeme⟩ := operand
      cases sign <;> rfl
  | binary operator left right leftHypothesis rightHypothesis =>
      rw [parenthesizedPhrase, parenthesized, ← leftHypothesis, ← rightHypothesis]
      rfl

theorem expression_parenthesizedPhrase (tree : Expression Operand) :
    tree.parenthesizedPhrase.expression = tree := by
  induction tree with
  | leaf operand =>
      obtain ⟨sign, fractional, lexeme⟩ := operand
      cases sign <;> rfl
  | binary operator left right leftHypothesis rightHypothesis =>
      rw [parenthesizedPhrase, Phrase.expression, Phrase.expression, leftHypothesis,
        rightHypothesis]

/-- With all parentheses written, a tree stands on every level of the grammar. -/
theorem fits_parenthesizedPhrase {tree : Expression Operand} (spelled : tree.IsSpelled)
    (level : Nat) : tree.parenthesizedPhrase.Fits level := by
  induction tree generalizing level with
  | leaf operand =>
      have number := isSpelled_leaf.1 spelled
      obtain ⟨sign, fractional, lexeme⟩ := operand
      cases sign with
      | plus => exact number
      | minus => exact ⟨rfl, number⟩
  | binary operator left right leftHypothesis rightHypothesis =>
      obtain ⟨leftSpelled, rightSpelled⟩ := isSpelled_binary.1 spelled
      exact ⟨operator.precedence_pos, leftHypothesis leftSpelled operator.precedence,
        rightHypothesis rightSpelled (operator.precedence + 1)⟩

end Expression

namespace Phrase

/-- A phrase of the grammar writes a tree over spelled numbers. -/
theorem isSpelled_expression {level : Nat} {phrase : Phrase} (fits : phrase.Fits level) :
    phrase.expression.IsSpelled := by
  induction phrase generalizing level with
  | number fractional lexeme => exact Expression.isSpelled_leaf.2 fits
  | binary operator left right leftHypothesis rightHypothesis =>
      obtain ⟨_, leftFits, rightFits⟩ := fits
      exact Expression.isSpelled_binary.2 ⟨leftHypothesis leftFits, rightHypothesis rightFits⟩
  | group inner inductionHypothesis => exact inductionHypothesis fits
  | negatedGroup inner inductionHypothesis =>
      exact Expression.isSpelled_mapFirst_negated.2 (inductionHypothesis fits.2)

end Phrase

theorem outcome_convert_parenthesizedText {tree : Expression Operand} (spelled : tree.IsSpelled) :
    (convert tree.parenthesizedText).outcome = .ok (tree.postorder Operand.tokens) := by
  have derived : Phrase.Derives 1 tree.parenthesizedPhrase tree.parenthesizedText.toList := by
    apply Phrase.derives_iff.2
    refine ⟨Expression.fits_parenthesizedPhrase spelled 1, ?_⟩
    rw [Expression.tokens_parenthesizedPhrase, Expression.parenthesizedText,
      Token.toList_join_lexemes]
  have converted := Phrase.outcome_convert_of_derives derived
  rw [Expression.expression_parenthesizedPhrase] at converted
  exact converted

theorem exists_tree_of_convert {text : String} {ordered : List Token}
    (converted : (convert text).outcome = .ok ordered) :
    ∃ tree : Expression Operand, tree.IsSpelled ∧ tree.postorder Operand.tokens = ordered := by
  cases course text with
  | refused _ _ failed =>
      rw [failed] at converted
      cases converted
  | unbalanced _ _ failed =>
      rw [failed] at converted
      cases converted
  | @valued phrase _ _ derived _ _ succeeded =>
      rw [succeeded] at converted
      cases converted
      exact ⟨phrase.expression, phrase.isSpelled_expression (Phrase.derives_iff.1 derived).1, rfl⟩

/-- What the conversion of texts puts out is the reverse Polish order of the trees over numbers as
texts spell them, each with a unary minus or without, and all of it.  Each such tree is put out for
the text that writes it with all parentheses. -/
theorem convert_image_eq_postorders :
    (∀ ordered, (∃ text, (convert text).outcome = .ok ordered) ↔
      ∃ tree : Expression Operand, tree.IsSpelled ∧ tree.postorder Operand.tokens = ordered) ∧
    ∀ tree : Expression Operand, tree.IsSpelled →
      (convert tree.parenthesizedText).outcome = .ok (tree.postorder Operand.tokens) := by
  refine ⟨?_, fun tree spelled => outcome_convert_parenthesizedText spelled⟩
  intro ordered
  constructor
  · intro ⟨text, converted⟩
    exact exists_tree_of_convert converted
  · rintro ⟨tree, spelled, rfl⟩
    exact ⟨tree.parenthesizedText, outcome_convert_parenthesizedText spelled⟩

/-- The tree of `((-2)-(3.5^(-1)))`, whose minuses are one operator and two signs. -/
theorem convert_parenthesized_difference :
    let tree : Expression Operand :=
      .binary .subtract (.leaf ⟨.minus, false, "2"⟩)
        (.binary .exponentiate (.leaf ⟨.plus, true, "3.5"⟩) (.leaf ⟨.minus, false, "1"⟩))
    tree.IsSpelled ∧
      tree.parenthesizedText = "((-2)-(3.5^(-1)))" ∧
      (convert "((-2)-(3.5^(-1)))").outcome =
        .ok [.unaryMinus, .integer "2", .floatingPoint "3.5", .unaryMinus, .integer "1",
          .operator '^', .operator '-'] := by
  intro tree
  have point : IsPointed "3.5".toList :=
    ⟨['3'], ['5'], isDigits_singleton rfl, isDigits_singleton rfl, rfl⟩
  have spelled : tree.IsSpelled := by
    apply Expression.isSpelled_binary.2
    refine ⟨?_, Expression.isSpelled_binary.2 ⟨?_, ?_⟩⟩
    · exact Expression.isSpelled_leaf.2 (@isDigits_singleton '2' rfl)
    · exact Expression.isSpelled_leaf.2 point
    · exact Expression.isSpelled_leaf.2 (@isDigits_singleton '1' rfl)
  exact ⟨spelled, rfl, convert_image_eq_postorders.2 tree spelled⟩

/-! ## Lines -/

theorem Operand.isField_tokens {operand : Operand} (spelled : operand.number.IsSpelled) :
    Token.IsField operand.tokens := by
  have isNumber := operand.isNumber_number
  unfold tokens
  cases operand.sign with
  | plus => exact .single spelled (Token.kind_ne_unaryMinus_of_isNumber isNumber)
  | minus => exact .negated spelled isNumber

namespace Expression

/-- Reordering moves operands as a whole, and so keeps every unary minus next to its number. -/
theorem inFields_postorder {tree : Expression Operand} (spelled : tree.IsSpelled) :
    Token.InFields (tree.postorder Operand.tokens) := by
  induction tree with
  | leaf operand => exact (Operand.isField_tokens (isSpelled_leaf.1 spelled)).inFields
  | binary operator left right leftHypothesis rightHypothesis =>
      obtain ⟨leftSpelled, rightSpelled⟩ := isSpelled_binary.1 spelled
      exact ((leftHypothesis leftSpelled).append (rightHypothesis rightSpelled)).append
        (Token.inFields_operator operator)

theorem postorder_ne_nil (tree : Expression Operand) : tree.postorder Operand.tokens ≠ [] := by
  cases tree with
  | leaf operand => exact Operand.passesThrough_tokens.nonempty operand
  | binary operator left right => simp [postorder]

end Expression

theorem ofSpaced?_of_convert {text : String} {ordered : List Token}
    (converted : (convert text).outcome = .ok ordered) :
    Token.ofSpaced? (Token.spaced ordered) = some ordered := by
  obtain ⟨tree, spelled, rfl⟩ := exists_tree_of_convert converted
  exact Token.ofSpaced?_spaced (Expression.inFields_postorder spelled) tree.postorder_ne_nil

/-- The line of the tokens of a text is the text with spaces put in.  The tokens, and the tokens in
reverse Polish order, are read back from their lines.  Two texts with the same line in reverse
Polish order have the same tokens in this order. -/
theorem lines_of_text_read_back (text : String) :
    (∀ tokens, (tokenize text).outcome = .ok tokens →
      (Token.spaced tokens).toList.filter (· ≠ ' ') = text.toList ∧
        Token.ofSpaced? (Token.spaced tokens) = some tokens) ∧
    ∀ ordered, (convert text).outcome = .ok ordered →
      Token.ofSpaced? (Token.spaced ordered) = some ordered ∧
        ∀ other otherOrdered, (convert other).outcome = .ok otherOrdered →
          Token.spaced otherOrdered = Token.spaced ordered → otherOrdered = ordered := by
  refine ⟨?_, ?_⟩
  · intro tokens scanned
    rw [outcome_tokenize] at scanned
    obtain ⟨wellFormed, textEq⟩ := Scan.run_eq_ok_iff.1 scanned
    obtain ⟨_, leads, _⟩ := Token.wellFormed_iff.1 wellFormed
    refine ⟨?_, Token.ofSpaced?_spaced wellFormed.inFields wellFormed.ne_nil⟩
    rw [Token.filter_spaced_of_isSpelled leads.isSpelled, textEq]
  · intro ordered converted
    refine ⟨ofSpaced?_of_convert converted, ?_⟩
    intro other otherOrdered otherConverted sameLine
    have read := ofSpaced?_of_convert otherConverted
    rw [sameLine, ofSpaced?_of_convert converted] at read
    exact (Option.some.inj read).symm

/-- The minuses of `3-(-2.5)` are an operator and a sign, in the line of either order.  One more pair
of parentheses does not change the line in reverse Polish order. -/
theorem lines_of_difference_read_back :
    let tokens : List Token :=
      [.integer "3", .operator '-', .leftParenthesis, .unaryMinus, .floatingPoint "2.5",
        .rightParenthesis]
    let ordered : List Token :=
      [.integer "3", .unaryMinus, .floatingPoint "2.5", .operator '-']
    (tokenize "3-(-2.5)").outcome = .ok tokens ∧
      Token.spaced tokens = "3 - ( -2.5 )" ∧
      Token.ofSpaced? (Token.spaced tokens) = some tokens ∧
      (convert "3-(-2.5)").outcome = .ok ordered ∧
      Token.spaced ordered = "3 -2.5 -" ∧
      Token.ofSpaced? (Token.spaced ordered) = some ordered ∧
      ∀ otherOrdered, (convert "(3-(-2.5))").outcome = .ok otherOrdered →
        Token.spaced otherOrdered = Token.spaced ordered → otherOrdered = ordered := by
  intro tokens ordered
  have scanned : (tokenize "3-(-2.5)").outcome = .ok tokens := rfl
  have converted : (convert "3-(-2.5)").outcome = .ok ordered := rfl
  obtain ⟨ofText, ofConverted⟩ := lines_of_text_read_back "3-(-2.5)"
  obtain ⟨read, unique⟩ := ofConverted ordered converted
  exact ⟨scanned, rfl, (ofText tokens scanned).2, converted, rfl, read,
    fun otherOrdered => unique "(3-(-2.5))" otherOrdered⟩

end Reckon
