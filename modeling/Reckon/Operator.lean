/-!
Contract: the five binary operators of an arithmetic expression.

Owns:
- the symbol each operator is written with, and reading a symbol back;
- the precedence of each operator;
- the IEEE 754 binary64 operation each operator stands for.

Does not own: where an operator may stand, or how operators of equal precedence associate.
-/

set_option autoImplicit false

namespace Reckon

/-- A binary operator on numbers. -/
inductive Operator where
  | add
  | subtract
  | multiply
  | divide
  | exponentiate
deriving DecidableEq, Repr

namespace Operator

/-- The one character an operator is written with. -/
def symbol : Operator → Char
  | .add => '+'
  | .subtract => '-'
  | .multiply => '*'
  | .divide => '/'
  | .exponentiate => '^'

def ofSymbol? : Char → Option Operator
  | '+' => some .add
  | '-' => some .subtract
  | '*' => some .multiply
  | '/' => some .divide
  | '^' => some .exponentiate
  | _ => none

/-- The operator that a whole text stands for: the text is exactly one operator symbol. -/
def ofText? (text : String) : Option Operator :=
  match text.toList with
  | [character] => ofSymbol? character
  | _ => none

/-- How tightly an operator binds its operands; a higher number binds tighter. -/
def precedence : Operator → Nat
  | .add | .subtract => 1
  | .multiply | .divide => 2
  | .exponentiate => 3

/-- The binary64 operation of an operator.  Dividing by zero and powers without a real value give
infinities and NaN, as IEEE 754 lays down; no operation fails. -/
def apply : Operator → Float → Float → Float
  | .add, left, right => left + right
  | .subtract, left, right => left - right
  | .multiply, left, right => left * right
  | .divide, left, right => left / right
  | .exponentiate, left, right => left.pow right

@[simp]
theorem ofSymbol?_symbol (operator : Operator) : ofSymbol? operator.symbol = some operator := by
  cases operator <;> rfl

theorem symbol_of_ofSymbol? {character : Char} {operator : Operator}
    (read : ofSymbol? character = some operator) : operator.symbol = character := by
  unfold ofSymbol? at read
  split at read <;> simp_all [symbol, eq_comm]

/-- Every operator binds tighter than a token that is none. -/
theorem precedence_pos (operator : Operator) : 0 < operator.precedence := by
  cases operator <;> decide

theorem precedence_le_three (operator : Operator) : operator.precedence ≤ 3 := by
  cases operator <;> decide

end Operator

end Reckon
