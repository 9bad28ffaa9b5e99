import Reckon.Failure
import Reckon.Numeral
import Reckon.Token

/-!
Contract: bringing a token list from the conventional order into reverse Polish order, and the value
of a token list in that order.

Operands pass straight through to the output.  An operator is held back until its right operand is
complete: until an operator arrives that binds no tighter, the parenthesis around it closes, or the
tokens end.  Equal precedence releases too, so every operator associates to the left.

Owns, for the shunting yard as for the evaluation: the state, the step that takes in one token, and
the closing step.

Does not own: whether the tokens form an expression.  The yard only checks parentheses, and an
operator token that names no operator, at precedence 0, releases all that is held back, left
parentheses included.  The arithmetic is `Operator.apply`, and the reading of numerals is
`Numeral.value?`.
-/

set_option autoImplicit false

namespace Reckon

/-! ## Into reverse Polish order -/

/-- A shunting yard at work: the tokens held back, last one first, and the tokens put out. -/
structure ShuntingYard where
  held : List Token
  output : Array Token
deriving Repr

namespace ShuntingYard

def empty : ShuntingYard := ⟨[], #[]⟩

/-- An arriving operator puts out a waiting token that binds at least as tightly. -/
def releases (arriving waiting : Token) : Bool :=
  arriving.precedence ≤ waiting.precedence

/-- Hold an operator back, after putting out all that it releases. -/
def holdOperator (yard : ShuntingYard) (token : Token) : ShuntingYard where
  held := token :: yard.held.dropWhile (releases token)
  output := yard.output ++ yard.held.takeWhile (releases token)

def opens (token : Token) : Bool := token.kind == .leftParenthesis

/-- Put out all that is held back since the last left parenthesis, and drop the latter. -/
def close (yard : ShuntingYard) : Except Imbalance ShuntingYard :=
  match yard.held, yard.held.dropWhile (!opens ·) with
  | [], _ => .error .extraRightParenthesis
  | _, [] => .error .leftParenthesisMissing
  | _, _ :: kept => .ok ⟨kept, yard.output ++ yard.held.takeWhile (!opens ·)⟩

/-- Take in one token. -/
def step (yard : ShuntingYard) (token : Token) : Except Imbalance ShuntingYard :=
  match token.kind with
  | .integer | .floatingPoint | .unaryMinus => .ok { yard with output := yard.output.push token }
  | .operator => .ok (yard.holdOperator token)
  | .leftParenthesis => .ok { yard with held := token :: yard.held }
  | .rightParenthesis => yard.close

/-- Put out all that is still held back.  An open parenthesis among it is one too many. -/
def finish (yard : ShuntingYard) : Except Imbalance (List Token) :=
  if yard.held.any opens then .error .rightParenthesisMissing
  else .ok (yard.output ++ yard.held).toList

/-- The reverse Polish order of a token list. -/
def run (tokens : List Token) : Except Failure (List Token) :=
  if tokens.isEmpty then .error .emptyInput
  else
    let arranged := do
      let yard ← tokens.foldlM step empty
      yard.finish
    arranged.mapError .unbalanced

end ShuntingYard

/-! ## From reverse Polish order to a value -/

/-- An evaluation in progress: the operands, last one first, and the sign of the next number, which
is a factor that the number is multiplied by. -/
structure Evaluation where
  operands : List Float
  sign : Float
deriving Repr

namespace Evaluation

def start : Evaluation := ⟨[], 1.0⟩

/-- Take in one token.  A unary minus marks the next number, however many other tokens stand
between; marking it twice is marking it once. -/
def step (evaluation : Evaluation) (token : Token) : Except EvaluationFault Evaluation :=
  match token.kind with
  | .integer | .floatingPoint =>
      match Numeral.value? token.lexeme with
      | some value => .ok ⟨value * evaluation.sign :: evaluation.operands, 1.0⟩
      | none => .error (.notANumber token.lexeme)
  | .unaryMinus => .ok { evaluation with sign := -1.0 }
  | .operator =>
      match token.operator?, evaluation.operands with
      | none, _ => .error (.unknownOperator token.lexeme)
      | some operator, second :: first :: rest =>
          .ok { evaluation with operands := operator.apply first second :: rest }
      | some _, _ => .error (.missingOperand token.lexeme)
  | .leftParenthesis | .rightParenthesis => .error (.unexpectedParenthesis token.lexeme)

/-- The value of a complete evaluation. -/
def finish (evaluation : Evaluation) : Except EvaluationFault Float :=
  match evaluation.operands with
  | [value] => .ok value
  | operands => .error (.notOneValue operands.length)

/-- The value of a token list in reverse Polish order. -/
def run (tokens : List Token) : Except Failure Float :=
  let evaluated := do
    let evaluation ← tokens.foldlM step start
    evaluation.finish
  evaluated.mapError .evaluation

end Evaluation

end Reckon
