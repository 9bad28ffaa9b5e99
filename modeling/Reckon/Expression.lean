import Reckon.Numeral
import Reckon.Token
import Reckon.Token.WellFormed

/-!
Contract: arithmetic expressions as trees, and the ways to write them.

Owns:
- the tree of operators over operands of any type, its reverse Polish order and its value;
- the two signs and the factor each stands for;
- signed numbers, the operands that a text can hold, and signed number tokens, which are more;
- the token lists that write a tree between parentheses, those it needs and any it does not;
- phrases, which are expressions together with the parentheses they are written with, and the texts
  that they are derived as, by a grammar of sums, products, powers and atoms.

Does not own: finding the tree that tokens write or the phrase of a text, and that there is only one.
Nothing here refers to a stage of the calculation.
-/

set_option autoImplicit false

namespace Reckon

/-! ## Signs -/

/-- What a unary minus changes about a number. -/
inductive Sign where
  | plus
  | minus
deriving DecidableEq, Repr

/-- The factor that a number with a sign is multiplied by, which is exact. -/
def Sign.factor : Sign → Float
  | .plus => 1.0
  | .minus => -1.0

/-! ## Trees -/

/-- A tree of binary operators over operands. -/
inductive Expression (α : Type) where
  | leaf (operand : α)
  | binary (operator : Operator) (left right : Expression α)
deriving DecidableEq, Repr

namespace Expression

variable {α : Type}

/-- The operands from left to right. -/
def operands : Expression α → List α
  | .leaf operand => [operand]
  | .binary _ left right => left.operands ++ right.operands

/-- Reverse Polish order: an operator stands after both its operands. -/
def postorder (spell : α → List Token) : Expression α → List Token
  | .leaf operand => spell operand
  | .binary operator left right =>
      left.postorder spell ++ right.postorder spell ++ [.operator operator.symbol]

/-- The value of a tree, if every operand has one. -/
def value? (read : α → Option Float) : Expression α → Option Float
  | .leaf operand => read operand
  | .binary operator left right => do
      let leftValue ← left.value? read
      let rightValue ← right.value? read
      return operator.apply leftValue rightValue

def mapFirst (change : α → α) : Expression α → Expression α
  | .leaf operand => .leaf (change operand)
  | .binary operator left right => .binary operator (left.mapFirst change) right

end Expression

/-- A number as a text holds it. -/
structure Operand where
  sign : Sign
  /-- The number has a point. -/
  fractional : Bool
  lexeme : String
deriving DecidableEq, Repr

namespace Operand

/-- A number without a unary minus. -/
def unsigned (fractional : Bool) (lexeme : String) : Operand := ⟨.plus, fractional, lexeme⟩

/-- The same number with a unary minus. -/
def negated (operand : Operand) : Operand := { operand with sign := .minus }

/-- The number without its sign. -/
def number (operand : Operand) : Token :=
  if operand.fractional then .floatingPoint operand.lexeme else .integer operand.lexeme

theorem isNumber_number (operand : Operand) : operand.number.isNumber := by
  unfold number
  split <;> rfl

theorem lexeme_number (operand : Operand) : operand.number.lexeme = operand.lexeme := by
  unfold number
  split <;> rfl

/-- The tokens of an operand: a unary minus stands before a number with the minus sign. -/
def tokens (operand : Operand) : List Token :=
  match operand.sign with
  | .plus => [operand.number]
  | .minus => [.unaryMinus, operand.number]

/-- The value of an operand, if its lexeme is a numeral: the numeral times 1, or times -1 if the sign
is minus. -/
def value? (operand : Operand) : Option Float :=
  (Numeral.value? operand.lexeme).map (· * operand.sign.factor)

end Operand

/-- A number token, and the unary minus in front of it if there is one.  Lexemes may be any texts.
-/
structure SignedToken where
  minus : Option Token
  number : Token
  minus_kind : ∀ token ∈ minus, token.kind = .unaryMinus := by simp
  number_isNumber : number.isNumber = true := by rfl
deriving DecidableEq, Repr

def SignedToken.tokens (signed : SignedToken) : List Token :=
  signed.minus.toList ++ [signed.number]

/-- An operand as a signed number token. -/
def Operand.signed (operand : Operand) : SignedToken where
  minus :=
    match operand.sign with
    | .plus => none
    | .minus => some .unaryMinus
  number := operand.number
  minus_kind := by cases operand.sign <;> simp [Token.unaryMinus]
  number_isNumber := operand.isNumber_number

@[simp]
theorem Operand.tokens_signed (operand : Operand) : operand.signed.tokens = operand.tokens := by
  obtain ⟨sign, fractional, lexeme⟩ := operand
  cases sign <;> rfl

/-! ## Token lists -/

namespace Expression

/-- `Written spell level expression tokens`: the tokens write the expression in a place where an
operator of a precedence below `level` has to stand in parentheses.

All operators associate to the left: the right operand of an operator needs parentheses around an
operator of the same precedence, the left operand does not. -/
inductive Written {α : Type} (spell : α → List Token) :
    Nat → Expression α → List Token → Prop where
  | leaf {level : Nat} (operand : α) : Written spell level (.leaf operand) (spell operand)
  | binary {level : Nat} {operator : Operator} {left right : Expression α}
      {leftTokens rightTokens : List Token}
      (bindsEnough : level ≤ operator.precedence)
      (leftWritten : Written spell operator.precedence left leftTokens)
      (rightWritten : Written spell (operator.precedence + 1) right rightTokens) :
      Written spell level (.binary operator left right)
        (leftTokens ++ .operator operator.symbol :: rightTokens)
  | parenthesized {level : Nat} {expression : Expression α} {tokens : List Token}
      (inner : Written spell 0 expression tokens) :
      Written spell level expression (.leftParenthesis :: tokens ++ [.rightParenthesis])

theorem Written.of_le {α : Type} {spell : α → List Token} {level tighter : Nat}
    {expression : Expression α} {tokens : List Token}
    (written : Written spell tighter expression tokens) (le : level ≤ tighter) :
    Written spell level expression tokens := by
  cases written with
  | leaf operand => exact .leaf operand
  | binary bindsEnough left right => exact .binary (Nat.le_trans le bindsEnough) left right
  | parenthesized inner => exact .parenthesized inner

/-- Parentheses around every operator and every negated number, and nowhere else. -/
def parenthesized : Expression Operand → List Token
  | .leaf operand =>
      match operand.sign with
      | .plus => operand.tokens
      | .minus => .leftParenthesis :: operand.tokens ++ [.rightParenthesis]
  | .binary operator left right =>
      .leftParenthesis :: left.parenthesized ++ .operator operator.symbol :: right.parenthesized
        ++ [.rightParenthesis]

end Expression

/-! ## Texts -/

/-- A tree of the grammar.  A step from one level of the grammar to the next leaves no trace in it:
the levels of a phrase and of its parts determine these steps. -/
inductive Phrase where
  | number (fractional : Bool) (lexeme : String)
  | binary (operator : Operator) (left right : Phrase)
  /-- A phrase in parentheses. -/
  | group (inner : Phrase)
  /-- A phrase in parentheses with a unary minus in front of it. -/
  | negatedGroup (inner : Phrase)
deriving DecidableEq, Repr

namespace Phrase

/-- `Joins level character operator`: on a level of the grammar, two phrases may be joined by a
character, which stands for an operator.  Level 1 holds sums, level 2 products and level 3 powers. -/
inductive Joins : Nat → Char → Operator → Prop where
  | plus : Joins 1 '+' .add
  | minus : Joins 1 '-' .subtract
  | times : Joins 2 '*' .multiply
  | over : Joins 2 '/' .divide
  | toThe : Joins 3 '^' .exponentiate

/-- The grammar of texts.  Level 1 holds sums, level 2 products, level 3 powers and level 4 atoms.
Every level takes in the next, and associates to the left.

An atom is a number, or a text of level 1 in parentheses.  Directly after a left parenthesis a minus
may stand in front of a text that starts with a digit. -/
inductive Derives : Nat → Phrase → List Char → Prop where
  | tighter {level : Nat} {phrase : Phrase} {text : List Char}
      (derived : Derives (level + 1) phrase text) : Derives level phrase text
  | binary {level : Nat} {character : Char} {operator : Operator} {left right : Phrase}
      {leftText rightText : List Char} (joins : Joins level character operator)
      (leftDerived : Derives level left leftText)
      (rightDerived : Derives (level + 1) right rightText) :
      Derives level (.binary operator left right) (leftText ++ character :: rightText)
  | integer {lexeme : String} (spelled : IsDigits lexeme.toList) :
      Derives 4 (.number false lexeme) lexeme.toList
  | fractional {lexeme : String} (spelled : IsPointed lexeme.toList) :
      Derives 4 (.number true lexeme) lexeme.toList
  | group {phrase : Phrase} {text : List Char} (inner : Derives 1 phrase text) :
      Derives 4 (.group phrase) ('(' :: text ++ [')'])
  | negatedGroup {phrase : Phrase} {digit : Char} {text : List Char}
      (startsWithDigit : digit.isDigit) (inner : Derives 1 phrase (digit :: text)) :
      Derives 4 (.negatedGroup phrase) ('(' :: '-' :: digit :: text ++ [')'])

/-- The expression that a phrase writes.  A unary minus negates the first number after it only. -/
def expression : Phrase → Expression Operand
  | .number fractional lexeme => .leaf (.unsigned fractional lexeme)
  | .binary operator left right => .binary operator left.expression right.expression
  | .group inner => inner.expression
  | .negatedGroup inner => inner.expression.mapFirst Operand.negated

/-- The value of a phrase, if the lexeme of every number is a numeral. -/
def value? (phrase : Phrase) : Option Float := phrase.expression.value? Operand.value?

end Phrase

end Reckon
