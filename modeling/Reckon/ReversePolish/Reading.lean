import Reckon.Expression
import Reckon.Numeral
import Reckon.Token

/-!
Contract: what a token list in reverse Polish order says, read off the list as a whole.

Owns:
- the tree that a token list is the reverse Polish order of, once its unary minuses are left out;
- the sign of a number at its place in a token list, and the numbers with these signs;
- the height behind tokens, a count of numbers against operators;
- the complaint about a token behind others, and the first token that there is one about.

Does not own: evaluation.  Nothing here keeps a stack, and a unary minus may stand anywhere.
-/

set_option autoImplicit false

namespace Reckon

/-! ## Trees and signs -/

namespace Expression

variable {α β : Type}

/-- The same tree over changed operands. -/
def map (change : α → β) : Expression α → Expression β
  | .leaf operand => .leaf (change operand)
  | .binary operator left right => .binary operator (left.map change) (right.map change)

end Expression

namespace Token

/-- The tokens that are no unary minus. -/
def withoutMinuses (tokens : List Token) : List Token :=
  tokens.filter fun token => token.kind != .unaryMinus

/-- The sign of a number that stands behind tokens: minus exactly if there is a unary minus since the
number before it, or since the start if it is the first number. -/
def signBehind (tokens : List Token) : Sign :=
  if (tokens.reverse.takeWhile (!·.isNumber)).any (·.kind == .unaryMinus) then .minus else .plus

end Token

namespace Operand

/-- A number token with a sign. -/
def ofToken (sign : Sign) (token : Token) : Operand :=
  ⟨sign, token.kind == .floatingPoint, token.lexeme⟩

/-- The numbers among tokens in their order, each with the sign that it has at its place. -/
def ofTokens (tokens : List Token) : List Operand :=
  (Token.places tokens).filterMap fun (before, token) =>
    if token.isNumber then some (ofToken (Token.signBehind before) token) else none

end Operand

/-- Without its unary minuses, a token list is the reverse Polish order of a tree over number tokens,
and each of their lexemes is a numeral. -/
structure Expression.IsReadFrom (tree : Expression Token) (tokens : List Token) : Prop where
  order : Token.withoutMinuses tokens = tree.postorder fun number => [number]
  isNumber : ∀ number ∈ tree.operands, number.isNumber
  isNumeral : ∀ number ∈ tree.operands, (Numeral.value? number.lexeme).isSome

/-! ## Faults -/

namespace ReversePolish

/-- How many numbers there are among tokens, less the operators among them, known or not. -/
def height (tokens : List Token) : Int :=
  tokens.countP Token.isNumber - tokens.countP (·.kind == .operator)

/-- The complaint about a token behind others.  An operator that names none is complained of as
such, whatever the height is. -/
def complaint? (before : List Token) (token : Token) : Option String :=
  match token.kind with
  | .integer | .floatingPoint =>
      if (Numeral.value? token.lexeme).isSome then none
      else some ("'" ++ token.lexeme ++ "' is not a number")
  | .unaryMinus => none
  | .operator =>
      if token.operator?.isNone then some ("unknown operator '" ++ token.lexeme ++ "'")
      else if height before < 2 then some ("missing operand for '" ++ token.lexeme ++ "'")
      else none
  | .leftParenthesis | .rightParenthesis =>
      some ("unexpected parenthesis '" ++ token.lexeme ++ "' in postfix expression")

/-- The first token that there is a complaint about, behind the tokens in front of it. -/
def firstFaulty? (tokens : List Token) : Option (List Token × Token) :=
  (Token.places tokens).find? fun (before, token) => (complaint? before token).isSome

end ReversePolish

end Reckon
