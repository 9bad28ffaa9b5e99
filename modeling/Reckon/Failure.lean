import Reckon.Scan.Phase

/-!
Contract: why a calculation fails.

Owns: the causes of failure of every stage, the stage each belongs to and the wording of each.

Does not own: when a cause arises; the stages decide that.
-/

set_option autoImplicit false

namespace Reckon

/-- Why a text is no sequence of tokens. -/
inductive LexicalFault where
  /-- A phase refused the character at the failing position. -/
  | refused (phase : Phase)
  /-- The text ended in a phase in which it may not end. -/
  | endedIn (phase : Phase)
deriving DecidableEq, Repr

/-- Why the parentheses of a token list do not pair up. -/
inductive Imbalance where
  /-- A right parenthesis while nothing is held back. -/
  | extraRightParenthesis
  /-- A right parenthesis while operators, but no left parenthesis, are held back. -/
  | leftParenthesisMissing
  /-- A left parenthesis that is still open at the end. -/
  | rightParenthesisMissing
deriving DecidableEq, Repr

/-- Why a token list in reverse Polish order has no value. -/
inductive EvaluationFault where
  /-- The lexeme of a number token is no numeral. -/
  | notANumber (lexeme : String)
  /-- The lexeme of an operator token names no operator. -/
  | unknownOperator (lexeme : String)
  /-- An operator stands after fewer than two operands. -/
  | missingOperand (lexeme : String)
  /-- Reverse Polish order has no parentheses. -/
  | unexpectedParenthesis (lexeme : String)
  /-- No value or several values are left at the end. -/
  | notOneValue (remaining : Nat)
deriving DecidableEq, Repr

/-- Why a calculation has no result. -/
inductive Failure where
  /-- The text is refused after `position` characters. -/
  | lexical (fault : LexicalFault) (position : Nat)
  /-- There are no tokens to arrange. -/
  | emptyInput
  | unbalanced (imbalance : Imbalance)
  | evaluation (fault : EvaluationFault)
deriving DecidableEq, Repr

/-- The part of the job that a failure belongs to. -/
inductive Stage where
  | lexical
  | syntactic
  | evaluation
deriving DecidableEq, Repr

def LexicalFault.message : LexicalFault → String
  | .refused phase => phase.rejection
  | .endedIn phase => phase.prematureEnd

def Imbalance.message : Imbalance → String
  | .extraRightParenthesis => "extra right parenthesis"
  | .leftParenthesisMissing => "left parenthesis missing"
  | .rightParenthesisMissing => "right parenthesis missing"

def EvaluationFault.message : EvaluationFault → String
  | .notANumber lexeme => "'" ++ lexeme ++ "' is not a number"
  | .unknownOperator lexeme => "unknown operator '" ++ lexeme ++ "'"
  | .missingOperand lexeme => "missing operand for '" ++ lexeme ++ "'"
  | .unexpectedParenthesis lexeme =>
      "unexpected parenthesis '" ++ lexeme ++ "' in postfix expression"
  | .notOneValue remaining =>
      "expression should reduce to exactly one value, but " ++ Nat.repr remaining ++ " remained"

namespace Failure

/-- The stage that reports a failure. -/
def stage : Failure → Stage
  | .lexical .. => .lexical
  | .emptyInput | .unbalanced _ => .syntactic
  | .evaluation _ => .evaluation

/-- What a user is told. -/
def message : Failure → String
  | .lexical fault position =>
      "Lexical error at position " ++ Nat.repr position ++ ": " ++ fault.message
  | .emptyInput => "Syntax error: input is empty"
  | .unbalanced imbalance => "Syntax error: " ++ imbalance.message
  | .evaluation fault => "Evaluation error: " ++ fault.message

/-- What the log is told. -/
def warning : Failure → String
  | .lexical fault position =>
      "Tokenization error at position " ++ Nat.repr position ++ ": " ++ fault.message
  | .emptyInput => "Conversion error: input is empty"
  | .unbalanced imbalance => "Conversion error: " ++ imbalance.message
  | .evaluation fault => "Evaluation error: " ++ fault.message

end Failure

end Reckon
