import Reckon.Decimal
import Reckon.Failure
import Reckon.Text.Quoted
import Reckon.Token

/-!
Contract: what a calculation reports while it runs.

Owns: the events of every stage, the part of the calculation each comes from, its severity, and its
text.

Does not own: the order of events, and whether anyone looks at them.
-/

set_option autoImplicit false

namespace Reckon

/-- One thing that happens in a calculation. -/
inductive Event where
  /-- The scan made a move, or refused a character. -/
  | moved (transition : Transition)
  | tokenized (text : String) (tokens : List Token)
  /-- A token arrived in the shunting yard. -/
  | shunted (token : Token)
  /-- No more tokens arrive in the shunting yard. -/
  | tokensEnded
  | arranged (tokens : List Token)
  | evaluated (text : String) (value : Float)
  /-- A stage gave up. -/
  | failed (failure : Failure)

inductive Event.Source where
  | scan
  | shuntingYard
  | arrangement
  | evaluation
  | calculator
deriving DecidableEq, Repr

/-- How much attention an event deserves. -/
inductive Event.Severity where
  | trace
  | debug
  | warning
deriving DecidableEq, Repr

namespace Event

def source : Event → Source
  | .moved _ | .tokenized .. => .scan
  | .shunted _ | .tokensEnded => .shuntingYard
  | .arranged _ => .arrangement
  | .evaluated .. => .calculator
  | .failed failure =>
      match failure.stage with
      | .lexical => .scan
      | .syntactic => .shuntingYard
      | .evaluation => .evaluation

/-- Single steps are traced, results are for debugging and failures are warnings. -/
def severity : Event → Severity
  | .moved _ | .shunted _ | .tokensEnded => .trace
  | .tokenized .. | .arranged _ | .evaluated .. => .debug
  | .failed _ => .warning

/-- A move with both its phases; a refusal leads to `Error`. -/
def describeTransition (transition : Transition) : String :=
  let target :=
    match transition.target with
    | some phase => phase.name
    | none => "Error"
  transition.source.name ++ " --" ++ Text.Quoted.character transition.character ++ "--> " ++ target

def describeToken (token : Token) : String :=
  "Token \x7b lexeme: " ++ Text.Quoted.text token.lexeme ++ ", kind: " ++ token.kind.name ++ " \x7d"

def describeTokens (tokens : List Token) : String :=
  "[" ++ String.intercalate ", " (tokens.map describeToken) ++ "]"

def describeArrival (token : Token) : String :=
  match token.kind with
  | .integer | .floatingPoint | .unaryMinus => "Operand or unary minus: " ++ token.lexeme
  | .operator => "Operator: " ++ token.lexeme
  | .leftParenthesis => "Left parenthesis"
  | .rightParenthesis => "Right parenthesis"

def message : Event → String
  | .moved transition => describeTransition transition
  | .tokenized text tokens => "Tokens of " ++ Text.Quoted.text text ++ ": " ++ describeTokens tokens
  | .shunted token => describeArrival token
  | .tokensEnded => "End of input tokens"
  | .arranged tokens => "Postfix tokens: " ++ describeTokens tokens
  | .evaluated text value => text ++ " = " ++ Decimal.text value
  | .failed failure => failure.warning

end Event

end Reckon
