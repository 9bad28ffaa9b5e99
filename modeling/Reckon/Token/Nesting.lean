import Reckon.Token

/-!
Contract: the nesting of parentheses.

Owns:
- balance, a property of any list whose opening and closing elements are known, and of texts;
- the depth behind a token list, whatever its lexemes;
- the first right parenthesis that closes nothing;
- the operators that stand outside all parentheses;
- the parentheses that are lost to operators that name none.

Does not own: any rearrangement of tokens.  Nothing here keeps a stack.
-/

set_option autoImplicit false

namespace Reckon

/-- Nothing closes that did not open, and all that opened is closed at the end. -/
def Balanced {α : Type} (opens closes : α → Bool) (elements : List α) : Prop :=
  (∀ count, (elements.take count).countP closes ≤ (elements.take count).countP opens) ∧
    elements.countP closes = elements.countP opens

/-- The parentheses of a text are balanced, whatever else it holds. -/
def BalancedText (text : String) : Prop :=
  Balanced (fun character => character == '(') (fun character => character == ')') text.toList

namespace Nesting

/-- The depth behind a token.  An operator that names none closes all that is open. -/
def depthAfter (depth : Nat) (token : Token) : Nat :=
  match token.kind with
  | .leftParenthesis => depth + 1
  | .rightParenthesis => depth - 1
  | .operator => if token.operator?.isNone then 0 else depth
  | .integer | .floatingPoint | .unaryMinus => depth

/-- How many parentheses are open behind tokens. -/
def depth (tokens : List Token) : Nat := tokens.foldl depthAfter 0

@[simp]
theorem depth_concat (tokens : List Token) (token : Token) :
    depth (tokens ++ [token]) = depthAfter (depth tokens) token := by
  simp [depth]

/-- A right parenthesis behind tokens that leave nothing open. -/
def strays (before : List Token) (token : Token) : Bool :=
  token.kind == .rightParenthesis && depth before = 0

/-- The first right parenthesis that closes nothing, after the tokens in front of it. -/
def firstStray? (tokens : List Token) : Option (List Token × Token) :=
  (Token.places tokens).find? fun (before, token) => strays before token

/-- An operator behind tokens that leave nothing open.  An operator that names none counts as one
wherever it stands. -/
def standsOutside (before : List Token) (token : Token) : Bool :=
  token.kind == .operator && (token.operator?.isNone || depth before = 0)

/-- There is an operator outside all parentheses. -/
def operatorOutside (tokens : List Token) : Bool :=
  (Token.places tokens).any fun (before, token) => standsOutside before token

@[simp]
theorem operatorOutside_concat (tokens : List Token) (token : Token) :
    operatorOutside (tokens ++ [token]) = (operatorOutside tokens || standsOutside tokens token) := by
  simp [operatorOutside]

/-- How many parentheses a token closes that is no right parenthesis. -/
def lostTo (before : List Token) (token : Token) : Nat :=
  if token.kind = .operator ∧ token.operator? = none then depth before else 0

/-- How many parentheses are open where an operator stands that names none. -/
def lost (tokens : List Token) : Nat :=
  (Token.places tokens).foldl (fun count (before, token) => count + lostTo before token) 0

@[simp]
theorem lost_concat (tokens : List Token) (token : Token) :
    lost (tokens ++ [token]) = lost tokens + lostTo tokens token := by
  simp [lost]

end Nesting

end Reckon
