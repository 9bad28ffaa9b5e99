import Reckon.Operator

/-!
Contract: the finite automaton that decides, character by character, whether a text can still become
an expression.

Owns:
- the classes of character the automaton tells apart;
- its phases, named for what was read last, and its transition table;
- the explanation a phase gives when it refuses a character or the end of the text;
- the transitions a text takes, in order.

Does not own: the tokens that the characters are collected into.  Parentheses are not counted here.
-/

set_option autoImplicit false

namespace Reckon

/-- The classes of character that an expression is written with. -/
inductive Symbol where
  /-- One of the ten ASCII digits. -/
  | digit
  | point
  | leftParenthesis
  | rightParenthesis
  | operator (operator : Operator)
  /-- A character that occurs in no expression. -/
  | foreign
deriving DecidableEq, Repr

def Symbol.ofChar (character : Char) : Symbol :=
  if character.isDigit then .digit
  else if character = '.' then .point
  else if character = '(' then .leftParenthesis
  else if character = ')' then .rightParenthesis
  else
    match Operator.ofSymbol? character with
    | some found => .operator found
    | none => .foreign

/-- What was read last, as far as it decides what may come next. -/
inductive Phase where
  | start
  | afterLeftParenthesis
  | afterRightParenthesis
  | afterUnaryMinus
  /-- In the digits before a point. -/
  | inDigits
  | afterPoint
  /-- In the digits after a point. -/
  | inFraction
  | afterOperator
deriving DecidableEq, Repr

namespace Phase

/-- The transition table.  A minus directly after a left parenthesis is unary; anywhere else it is a
binary operator like the other four. -/
def next : Phase → Symbol → Option Phase
  | .start, .leftParenthesis
  | .afterLeftParenthesis, .leftParenthesis
  | .afterOperator, .leftParenthesis => some .afterLeftParenthesis
  | .start, .digit
  | .afterLeftParenthesis, .digit
  | .afterUnaryMinus, .digit
  | .afterOperator, .digit
  | .inDigits, .digit => some .inDigits
  | .afterLeftParenthesis, .operator .subtract => some .afterUnaryMinus
  | .inDigits, .point => some .afterPoint
  | .afterPoint, .digit
  | .inFraction, .digit => some .inFraction
  | .inDigits, .rightParenthesis
  | .inFraction, .rightParenthesis
  | .afterRightParenthesis, .rightParenthesis => some .afterRightParenthesis
  | .inDigits, .operator _
  | .inFraction, .operator _
  | .afterRightParenthesis, .operator _ => some .afterOperator
  | _, _ => none

theorem next_ne_start (phase : Phase) (symbol : Symbol) : phase.next symbol ≠ some .start := by
  unfold next
  split <;> simp

/-- The phases in which a text may end. -/
def isFinal : Phase → Bool
  | .inDigits | .inFraction | .afterRightParenthesis => true
  | _ => false

/-- The name of a phase, as a log shows it. -/
def name : Phase → String
  | .start => "Init"
  | .afterLeftParenthesis => "AfterLeftParenthesis"
  | .afterRightParenthesis => "AfterRightParenthesis"
  | .afterUnaryMinus => "AfterUnary"
  | .inDigits => "InDigits"
  | .afterPoint => "AfterPoint"
  | .inFraction => "InFraction"
  | .afterOperator => "AfterOperator"

/-- What a phase says when it refuses a character: the characters it would have taken. -/
def rejection : Phase → String
  | .start => "expression must start with a left parenthesis or a digit"
  | .afterLeftParenthesis =>
      "after a left parenthesis there can only be a unary minus, a digit or a left parenthesis"
  | .afterRightParenthesis =>
      "after a right parenthesis there can only be an operator or a right parenthesis"
  | .afterUnaryMinus => "after a unary minus there can only be a digit"
  | .inDigits =>
      "after a digit there can only be a digit, a point, an operator or a right parenthesis"
  | .afterPoint => "after a point there can only be a digit"
  | .inFraction =>
      "after a fractional digit there can only be a digit, an operator or a right parenthesis"
  | .afterOperator => "after an operator there can only be a digit or a left parenthesis"

/-- What a phase says when the text ends too early. -/
def prematureEnd : Phase → String
  | .start => "expression is empty"
  | .afterPoint => rejection .afterPoint
  | _ => "expression should end only on a digit or a right parenthesis"

end Phase

/-- One move of the automaton on one character.  It has no target when the character is refused. -/
structure Transition where
  source : Phase
  character : Char
  target : Option Phase
deriving DecidableEq, Repr

/-- The moves that a text makes from a phase on, up to and including the first refusal. -/
def Phase.transitions : Phase → List Char → List Transition
  | _, [] => []
  | phase, character :: rest =>
      match phase.next (.ofChar character) with
      | some target => ⟨phase, character, some target⟩ :: target.transitions rest
      | none => [⟨phase, character, none⟩]

end Reckon
