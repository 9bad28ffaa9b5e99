import Reckon.Operator

/-!
Contract: the tokens of an expression, whichever order they stand in.

Owns:
- the kinds of token and the token type, a lexeme together with its kind;
- one constructor function per piece of an expression;
- the operator and the precedence of a token;
- the places of a token list, each token together with those in front of it;
- a token list as one line of text, and the reading of such a line.

Does not own: which texts are scanned into tokens.  A token's lexeme may be any text, whatever its
kind: the stages that read a lexeme judge it there.  A line holds lexemes unchanged, even if they
hold spaces themselves; such a line is not read back as it was.
-/

set_option autoImplicit false

namespace Reckon

/-- What a lexeme is used as in an expression. -/
inductive Token.Kind where
  /-- A number without a point. -/
  | integer
  /-- A number with a point. -/
  | floatingPoint
  | leftParenthesis
  | rightParenthesis
  /-- A minus sign that negates the number after it. -/
  | unaryMinus
  /-- A sign between two operands. -/
  | operator
deriving DecidableEq, Repr

/-- A discrete part of an expression: a text and what it is used as. -/
structure Token where
  lexeme : String
  kind : Token.Kind
deriving DecidableEq, Repr

namespace Token

/-- The name of a kind, as a log shows it. -/
def Kind.name : Kind → String
  | .integer => "Integer"
  | .floatingPoint => "FloatingPoint"
  | .leftParenthesis => "LeftParenthesis"
  | .rightParenthesis => "RightParenthesis"
  | .unaryMinus => "UnaryOperator"
  | .operator => "Operator"

def integer (lexeme : String) : Token := ⟨lexeme, .integer⟩

def floatingPoint (lexeme : String) : Token := ⟨lexeme, .floatingPoint⟩

/-- A binary operator written with any one character. -/
def operator (symbol : Char) : Token := ⟨symbol.toString, .operator⟩

/-- The minus that negates the number after it. -/
def unaryMinus : Token := ⟨"-", .unaryMinus⟩

def leftParenthesis : Token := ⟨"(", .leftParenthesis⟩

def rightParenthesis : Token := ⟨")", .rightParenthesis⟩

def isNumber (token : Token) : Bool :=
  token.kind == .integer || token.kind == .floatingPoint

def isParenthesis (token : Token) : Bool :=
  token.kind == .leftParenthesis || token.kind == .rightParenthesis

/-- The binary operator a token stands for: the token is used as one and its lexeme names one. -/
def operator? (token : Token) : Option Operator :=
  if token.kind = .operator then Operator.ofText? token.lexeme else none

/-- How tightly a token binds its neighbours.  A token that stands for no operator binds at 0, below
every operator. -/
def precedence (token : Token) : Nat :=
  match token.operator? with
  | some operator => operator.precedence
  | none => 0

@[simp]
theorem operator?_operator (operator : Operator) :
    (Token.operator operator.symbol).operator? = some operator := by
  simp [Token.operator, operator?, Operator.ofText?]

theorem isNumber_iff {token : Token} :
    token.isNumber ↔ token.kind = .integer ∨ token.kind = .floatingPoint := by
  simp [isNumber]

theorem kind_ne_unaryMinus_of_isNumber {token : Token} (isNumber : token.isNumber) :
    token.kind ≠ .unaryMinus := by
  rcases isNumber_iff.1 isNumber with kind | kind <;> simp [kind]

theorem operator?_eq_none_of_kind {token : Token} (kind : token.kind ≠ .operator) :
    token.operator? = none := by
  simp [operator?, kind]

/-- Precedence 0 says exactly that a token stands for no operator. -/
theorem precedence_eq_zero_iff {token : Token} :
    token.precedence = 0 ↔ token.operator? = none := by
  unfold precedence
  cases token.operator? with
  | none => simp
  | some operator => simpa using Nat.ne_of_gt operator.precedence_pos

theorem precedence_pos_iff {token : Token} : 0 < token.precedence ↔ token.operator?.isSome := by
  rw [Nat.pos_iff_ne_zero, Ne, precedence_eq_zero_iff, ← Ne, Option.ne_none_iff_isSome]

theorem precedence_le_three (token : Token) : token.precedence ≤ 3 := by
  unfold precedence
  cases token.operator? with
  | none => exact Nat.zero_le 3
  | some operator => exact operator.precedence_le_three

/-! ## Places -/

/-- The tokens of a list in their order, each after all the tokens in front of it. -/
def places (tokens : List Token) : List (List Token × Token) :=
  tokens.zipIdx.map fun (token, place) => (tokens.take place, token)

/-- A token at the end of a list does not change what is in front of the others. -/
@[simp]
theorem places_concat (tokens : List Token) (token : Token) :
    places (tokens ++ [token]) = places tokens ++ [(tokens, token)] := by
  unfold places
  rw [List.zipIdx_append, List.map_append]
  congr 1
  · apply List.map_congr_left
    intro ⟨other, place⟩ member
    have inside : place < tokens.length := (List.mem_zipIdx' member).1
    simp only [List.take_append_of_le_length (Nat.le_of_lt inside)]
  · simp

/-! ## Lines -/

/-- The lexemes in order with a single space after each but the last.  No space follows a unary
minus, so that it stays next to the number it negates. -/
def spaced : List Token → String
  | [] => ""
  | [token] => token.lexeme
  | token :: rest =>
      token.lexeme ++ (if token.kind = .unaryMinus then "" else " ") ++ spaced rest

/-- The parts of a text between single spaces. -/
def fields : List Char → List (List Char)
  | [] => [[]]
  | character :: rest =>
      if character = ' ' then [] :: fields rest
      else
        match fields rest with
        | field :: others => (character :: field) :: others
        | [] => [[character]]

/-- The number that a field of digits, with a point among them or not, stands for. -/
def ofDigitField? (field : List Char) : Option Token :=
  match field.takeWhile Char.isDigit, field.dropWhile Char.isDigit with
  | [], _ => none
  | _, [] => some (.integer (String.ofList field))
  | _, '.' :: fraction =>
      if fraction ≠ [] ∧ fraction.all Char.isDigit then
        some (.floatingPoint (String.ofList field))
      else none
  | _, _ => none

/-- The parenthesis or the operator that a character stands for. -/
def ofMark? : Char → Option Token
  | '(' => some .leftParenthesis
  | ')' => some .rightParenthesis
  | character => (Operator.ofSymbol? character).map fun operator => .operator operator.symbol

/-- The tokens of a field: a parenthesis, an operator, or a number with a unary minus or without. -/
def ofField? : List Char → Option (List Token)
  | [character] => ((ofMark? character).or (ofDigitField? [character])).map ([·])
  | '-' :: rest => do
      let number ← ofDigitField? rest
      return [.unaryMinus, number]
  | field => (ofDigitField? field).map ([·])

/-- Read a line of lexemes with a single space between them. -/
def ofSpaced? (text : String) : Option (List Token) :=
  ((fields text.toList).mapM ofField?).map List.flatten

end Token

end Reckon
