import Reckon.Token

/-!
Contract: the token lists that some text is scanned into.

Owns:
- the spelling of each kind of token;
- which kind of token may follow which, may come first and may come last;
- the well-formed token lists, by these two alone.

Does not own: scanning.  Nothing here refers to it, and parentheses need not pair up.
-/

set_option autoImplicit false

namespace Reckon

/-- One digit or more, and nothing else. -/
def IsDigits (characters : List Char) : Prop :=
  characters ≠ [] ∧ ∀ character ∈ characters, character.isDigit

instance (characters : List Char) : Decidable (IsDigits characters) :=
  inferInstanceAs (Decidable (_ ∧ _))

/-- Digits, a point and digits. -/
def IsPointed (characters : List Char) : Prop :=
  ∃ whole fraction, IsDigits whole ∧ IsDigits fraction ∧ characters = whole ++ '.' :: fraction

theorem isDigits_singleton {digit : Char} (isDigit : digit.isDigit) : IsDigits [digit] := by
  refine ⟨by simp, ?_⟩
  intro character member
  rw [List.mem_singleton.1 member]
  exact isDigit

theorem IsDigits.concat {characters : List Char} {digit : Char} (digits : IsDigits characters)
    (isDigit : digit.isDigit) : IsDigits (characters ++ [digit]) := by
  refine ⟨by simp, ?_⟩
  intro character member
  rcases List.mem_append.1 member with before | last
  · exact digits.2 character before
  · rw [List.mem_singleton.1 last]
    exact isDigit

theorem IsDigits.exists_digit {characters : List Char} (digits : IsDigits characters) :
    ∃ digit rest, digit.isDigit ∧ characters = digit :: rest := by
  obtain ⟨nonempty, isDigit⟩ := digits
  cases characters with
  | nil => exact absurd rfl nonempty
  | cons digit rest => exact ⟨digit, rest, isDigit digit (by simp), rfl⟩

theorem IsPointed.ne_nil {characters : List Char} (pointed : IsPointed characters) :
    characters ≠ [] := by
  obtain ⟨whole, fraction, _, _, rfl⟩ := pointed
  simp

theorem IsPointed.exists_digit {characters : List Char} (pointed : IsPointed characters) :
    ∃ digit rest, digit.isDigit ∧ characters = digit :: rest := by
  obtain ⟨whole, fraction, wholeDigits, _, charactersEq⟩ := pointed
  obtain ⟨digit, rest, isDigit, wholeEq⟩ := wholeDigits.exists_digit
  refine ⟨digit, rest ++ '.' :: fraction, isDigit, ?_⟩
  rw [charactersEq, wholeEq, List.cons_append]

namespace Token

/-- A token is spelled as its kind demands. -/
def IsSpelled (token : Token) : Prop :=
  match token.kind with
  | .integer => IsDigits token.lexeme.toList
  | .floatingPoint => IsPointed token.lexeme.toList
  | .leftParenthesis => token = .leftParenthesis
  | .rightParenthesis => token = .rightParenthesis
  | .unaryMinus => token = .unaryMinus
  | .operator => ∃ operator : Operator, token = .operator operator.symbol

/-- Which kinds of token may stand after a kind, or first in a list if there is none before. -/
def Kind.mayFollow : Option Kind → Kind → Bool
  | none, .leftParenthesis | none, .integer | none, .floatingPoint => true
  | some .leftParenthesis, .leftParenthesis
  | some .leftParenthesis, .unaryMinus
  | some .leftParenthesis, .integer
  | some .leftParenthesis, .floatingPoint => true
  | some .unaryMinus, .integer | some .unaryMinus, .floatingPoint => true
  | some .integer, .operator | some .integer, .rightParenthesis => true
  | some .floatingPoint, .operator | some .floatingPoint, .rightParenthesis => true
  | some .rightParenthesis, .operator | some .rightParenthesis, .rightParenthesis => true
  | some .operator, .leftParenthesis
  | some .operator, .integer
  | some .operator, .floatingPoint => true
  | _, _ => false

/-- Which kinds of token may come last. -/
def Kind.mayEnd : Kind → Bool
  | .integer | .floatingPoint | .rightParenthesis => true
  | _ => false

/-- A token list is well-formed after a token of a given kind, or from the start. -/
def WellFormedAfter : Option Kind → List Token → Prop
  | previous, [] => ∃ kind, previous = some kind ∧ kind.mayEnd
  | previous, token :: rest =>
      Kind.mayFollow previous token.kind ∧ token.IsSpelled ∧ WellFormedAfter (some token.kind) rest

/-- Every token is spelled as its kind demands and stands where its kind may stand. -/
def WellFormed (tokens : List Token) : Prop := WellFormedAfter none tokens

theorem WellFormed.ne_nil {tokens : List Token} (wellFormed : WellFormed tokens) : tokens ≠ [] := by
  rintro rfl
  obtain ⟨kind, absent, _⟩ := wellFormed
  cases absent

end Token

end Reckon
