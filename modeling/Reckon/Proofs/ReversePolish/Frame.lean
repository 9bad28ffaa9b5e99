import Reckon.Calculator
import Reckon.Proofs.Expression
import Reckon.Proofs.Run

/-!
Contract: the evaluation of reverse Polish order on top of whatever is there.

Owns:
- the moves of an evaluation, one constructor for each kind of move, and that a step succeeds exactly
  if it is one of them;
- that an expression pushes its value, and its first operand takes up the sign before it, for any
  spelling of operands that does so;
- the operands that a text can hold, and number tokens behind any number of unary minuses;
- that an evaluation which succeeds on its own operands leaves whatever lies below them alone.

Does not own: token lists that are not the reverse Polish order of an expression.

That the operands below end up as they were does not say that no step took one of them.  So a stretch
is run on no operands first.  There it cannot take any but its own, and a step that succeeds there
does the same on top of others.
-/

set_option autoImplicit false

namespace Reckon

/-! ## Moves -/

theorem Operator.eq_of_ofText? {text : String} {operator : Operator}
    (named : ofText? text = some operator) : text = operator.symbol.toString := by
  unfold ofText? at named
  split at named
  · next character spelled =>
      apply String.toList_injective
      rw [spelled, symbol_of_ofSymbol? named, Char.toString, String.toList_singleton]
  · cases named

namespace Token

/-- The tokens that stand for an operator are those written with its symbol. -/
theorem operator?_eq_some_iff {token : Token} {operator : Operator} :
    token.operator? = some operator ↔ token = .operator operator.symbol := by
  constructor
  · intro named
    by_cases kind : token.kind = .operator
    · rw [operator?, if_pos kind] at named
      have lexeme := Operator.eq_of_ofText? named
      calc
        token = ⟨token.lexeme, token.kind⟩ := rfl
        _ = .operator operator.symbol := by rw [lexeme, kind]; rfl
    · rw [operator?_eq_none_of_kind kind] at named
      cases named
  · rintro rfl
    exact operator?_operator operator

end Token

namespace Evaluation

/-- The moves of an evaluation, by what they do to the operands and to the sign. -/
inductive Move (evaluation : Evaluation) (token : Token) : Evaluation → Prop where
  | pushed {value : Float} (isNumber : token.isNumber)
      (numeral : Numeral.value? token.lexeme = some value) :
      Move evaluation token ⟨value * evaluation.sign :: evaluation.operands, 1.0⟩
  | marked (kind : token.kind = .unaryMinus) :
      Move evaluation token { evaluation with sign := -1.0 }
  | applied {operator : Operator} {second first : Float} {rest : List Float}
      (isOperator : token = .operator operator.symbol)
      (operands : evaluation.operands = second :: first :: rest) :
      Move evaluation token { evaluation with operands := operator.apply first second :: rest }

theorem step_eq_ok_iff {evaluation next : Evaluation} {token : Token} :
    evaluation.step token = .ok next ↔ Move evaluation token next := by
  constructor
  · intro stepped
    unfold step at stepped
    split at stepped
    · next kind =>
        split at stepped
        · next value numeral =>
            cases stepped
            exact .pushed (Token.isNumber_iff.2 (.inl kind)) numeral
        · cases stepped
    · next kind =>
        split at stepped
        · next value numeral =>
            cases stepped
            exact .pushed (Token.isNumber_iff.2 (.inr kind)) numeral
        · cases stepped
    · next kind =>
        cases stepped
        exact .marked kind
    · split at stepped
      · cases stepped
      · next operator second first rest named operands =>
          cases stepped
          exact .applied (Token.operator?_eq_some_iff.1 named) operands
      · cases stepped
    · cases stepped
    · cases stepped
  · intro move
    cases move with
    | pushed isNumber numeral =>
        rcases Token.isNumber_iff.1 isNumber with kind | kind <;> simp [step, kind, numeral]
    | marked kind => simp [step, kind]
    | @applied operator second first rest isOperator operands =>
        have kind : token.kind = .operator := by
          rw [isOperator]
          rfl
        have named := Token.operator?_eq_some_iff.2 isOperator
        simp [step, kind, named, operands]

/-- Unary minuses leave the operands, and set the sign if there are any. -/
theorem foldlM_step_minuses {tokens : List Token}
    (minuses : ∀ token ∈ tokens, token.kind = .unaryMinus) (operands : List Float) (sign : Float) :
    tokens.foldlM Evaluation.step ⟨operands, sign⟩ =
      .ok ⟨operands, if tokens.isEmpty then sign else -1.0⟩ := by
  induction tokens generalizing sign with
  | nil => rfl
  | cons token rest inductionHypothesis =>
      rw [List.forall_mem_cons] at minuses
      rw [Run.foldlM_cons_of_ok (step_eq_ok_iff.2 (.marked minuses.1)),
        inductionHypothesis minuses.2]
      cases rest <;> rfl

/-! ## Expressions -/

variable {α : Type} {spell : α → List Token} {read : α → Option Float} {mark : Sign → α → α}

/-- A spelling of operands that pushes the value of each.  An operand is marked by the sign that
stands before it. -/
structure Pushes (spell : α → List Token) (read : α → Option Float) (mark : Sign → α → α) :
    Prop where
  push : ∀ {sign operand value}, read (mark sign operand) = some value →
    ∀ operands, (spell operand).foldlM step ⟨operands, sign.factor⟩ = .ok ⟨value :: operands, 1.0⟩
  mark_plus : ∀ operand, mark .plus operand = operand

theorem step_operator (operator : Operator) (second first : Float) (rest : List Float)
    (sign : Float) :
    step ⟨second :: first :: rest, sign⟩ (.operator operator.symbol) =
      .ok ⟨operator.apply first second :: rest, sign⟩ := by
  have known := Token.operator?_operator operator
  unfold step
  rw [known]
  rfl

/-- An expression pushes its value on any operands, and nothing below is read or changed. -/
theorem foldlM_step_postorder (pushes : Pushes spell read mark) {expression : Expression α}
    {sign : Sign} {value : Float}
    (valued : (expression.mapFirst (mark sign)).value? read = some value)
    (operands : List Float) :
    (expression.postorder spell).foldlM step ⟨operands, sign.factor⟩ =
      .ok ⟨value :: operands, 1.0⟩ := by
  induction expression generalizing sign value operands with
  | leaf operand => exact pushes.push valued operands
  | binary operator left right leftHypothesis rightHypothesis =>
      obtain ⟨leftValue, rightValue, leftValued, rightValued, valueEq⟩ :=
        Expression.value?_binary_eq_some.1 valued
      have leftRan := leftHypothesis leftValued operands
      -- The left operand has used up the sign.
      rw [← Expression.mapFirst_of_fixed pushes.mark_plus right] at rightValued
      have rightRan : (right.postorder spell).foldlM step ⟨leftValue :: operands, 1.0⟩ =
          .ok ⟨rightValue :: leftValue :: operands, 1.0⟩ :=
        rightHypothesis rightValued (leftValue :: operands)
      rw [Expression.postorder, List.append_assoc, Run.foldlM_append_of_ok leftRan,
        Run.foldlM_append_of_ok rightRan, ← valueEq]
      exact Run.foldlM_singleton (step_operator operator rightValue leftValue operands 1.0)

/-- The value of an expression is that of its reverse Polish order. -/
theorem run_postorder (pushes : Pushes spell read mark) {expression : Expression α} {value : Float}
    (valued : expression.value? read = some value) :
    run (expression.postorder spell) = .ok value := by
  rw [← Expression.mapFirst_of_fixed pushes.mark_plus expression] at valued
  have ran : (expression.postorder spell).foldlM step start = .ok ⟨[value], 1.0⟩ :=
    foldlM_step_postorder pushes valued []
  simp only [run, ran]
  rfl

end Evaluation

namespace Operand

/-- The same operand after a sign.  A second minus changes nothing. -/
def marked (sign : Sign) (operand : Operand) : Operand :=
  match sign with
  | .plus => operand
  | .minus => operand.negated

theorem step_number {operand : Operand} {magnitude : Float}
    (numeral : Numeral.value? operand.lexeme = some magnitude) (operands : List Float)
    (sign : Float) :
    Evaluation.step ⟨operands, sign⟩ operand.number =
      .ok ⟨magnitude * sign :: operands, 1.0⟩ := by
  obtain ⟨ownSign, fractional, lexeme⟩ := operand
  cases fractional <;> simp_all [number, Evaluation.step, Token.integer, Token.floatingPoint]

theorem value?_marked {sign : Sign} {operand : Operand} {value : Float}
    (valued : (marked sign operand).value? = some value) :
    ∃ magnitude, Numeral.value? operand.lexeme = some magnitude ∧
      value = magnitude * (marked sign operand).sign.factor := by
  obtain ⟨magnitude, numeral, valueEq⟩ := Option.map_eq_some_iff.1 valued
  refine ⟨magnitude, ?_, valueEq.symm⟩
  cases sign <;> exact numeral

theorem pushes_tokens : Evaluation.Pushes tokens value? marked where
  push := by
    intro sign operand value valued operands
    obtain ⟨magnitude, numeral, valueEq⟩ := value?_marked valued
    rw [valueEq]
    cases own : operand.sign with
    | plus =>
        have tokensEq : operand.tokens = [operand.number] := by
          simp [tokens, own]
        have signEq : (marked sign operand).sign = sign := by
          cases sign
          · exact own
          · rfl
        rw [tokensEq, signEq]
        exact Run.foldlM_singleton (step_number numeral operands sign.factor)
    | minus =>
        have tokensEq : operand.tokens = [.unaryMinus, operand.number] := by
          simp [tokens, own]
        have signEq : (marked sign operand).sign = .minus := by
          cases sign
          · exact own
          · rfl
        have marking : Evaluation.step ⟨operands, sign.factor⟩ .unaryMinus =
            .ok ⟨operands, -1.0⟩ := rfl
        rw [tokensEq, signEq, Run.foldlM_cons_of_ok marking]
        exact Run.foldlM_singleton (step_number numeral operands (-1.0))
  mark_plus _ := rfl

end Operand

/-! ## Stretches -/

/-! ### Numbers behind unary minuses -/

/-- A number token behind any number of unary minuses.  Lexemes may be any texts. -/
structure MarkedNumber where
  minuses : List Token
  number : Token
  minuses_kind : ∀ token ∈ minuses, token.kind = .unaryMinus
  number_isNumber : number.isNumber

namespace MarkedNumber

def tokens (marked : MarkedNumber) : List Token := marked.minuses ++ [marked.number]

/-- The number with its sign.  Several minuses are as one. -/
def operand (marked : MarkedNumber) : Operand :=
  .ofToken (if marked.minuses.isEmpty then .plus else .minus) marked.number

/-- The same number behind a sign, which is as one more unary minus if it is the minus. -/
def behind : Sign → MarkedNumber → MarkedNumber
  | .plus, marked => marked
  | .minus, marked =>
      { marked with
        minuses := .unaryMinus :: marked.minuses
        minuses_kind := List.forall_mem_cons.2 ⟨rfl, marked.minuses_kind⟩ }

theorem operand_behind (sign : Sign) (marked : MarkedNumber) :
    (behind sign marked).operand = Operand.marked sign marked.operand := by
  cases sign <;> rfl

theorem factor_marked_operand (sign : Sign) (marked : MarkedNumber) :
    (Operand.marked sign marked.operand).sign.factor =
      if marked.minuses.isEmpty then sign.factor else -1.0 := by
  cases sign with
  | plus => exact apply_ite Sign.factor _ .plus .minus
  | minus => exact (ite_self Sign.minus.factor).symm

theorem pushes_tokens :
    Evaluation.Pushes tokens (fun marked => marked.operand.value?) behind where
  push := by
    intro sign marked value valued operands
    rw [operand_behind] at valued
    obtain ⟨magnitude, numeral, valueEq⟩ := Operand.value?_marked valued
    rw [valueEq, factor_marked_operand, tokens, Run.foldlM_append_of_ok
        (Evaluation.foldlM_step_minuses marked.minuses_kind operands sign.factor)]
    exact Run.foldlM_singleton
      (Evaluation.step_eq_ok_iff.2 (.pushed marked.number_isNumber numeral))
  mark_plus _ := rfl

end MarkedNumber

/-! ### Operands below -/

namespace Evaluation

variable {evaluation next final : Evaluation} {token : Token} {tokens : List Token}

/-- The same evaluation with more operands below its own. -/
def onTopOf (evaluation : Evaluation) (below : List Float) : Evaluation :=
  { evaluation with operands := evaluation.operands ++ below }

theorem Move.onTopOf (move : Move evaluation token next) (below : List Float) :
    Move (evaluation.onTopOf below) token (next.onTopOf below) := by
  cases move with
  | pushed isNumber numeral => exact .pushed isNumber numeral
  | marked kind => exact .marked kind
  | @applied operator second first rest isOperator operands =>
      have operandsBelow :
          (evaluation.onTopOf below).operands = second :: first :: (rest ++ below) := by
        simp [Evaluation.onTopOf, operands]
      exact .applied isOperator operandsBelow

/-- A run that succeeds takes no operands but its own. -/
theorem foldlM_step_onTopOf (ran : tokens.foldlM step evaluation = .ok final)
    (below : List Float) :
    tokens.foldlM step (evaluation.onTopOf below) = .ok (final.onTopOf below) := by
  induction tokens generalizing evaluation with
  | nil =>
      cases ran
      rfl
  | cons token rest inductionHypothesis =>
      obtain ⟨next, stepped, ranRest⟩ := Run.foldlM_cons_eq_ok_iff.1 ran
      have steppedAbove := step_eq_ok_iff.2 ((step_eq_ok_iff.1 stepped).onTopOf below)
      rw [Run.foldlM_cons_of_ok steppedAbove]
      exact inductionHypothesis ranRest

/-- A run that succeeds reports nothing. -/
theorem foldlM_advance_of_ok (ran : tokens.foldlM step evaluation = .ok final) :
    tokens.foldlM advance evaluation = pure final := by
  induction tokens generalizing evaluation with
  | nil =>
      cases ran
      rfl
  | cons token rest inductionHypothesis =>
      obtain ⟨next, stepped, ranRest⟩ := Run.foldlM_cons_eq_ok_iff.1 ran
      have advanced : evaluation.advance token = pure next := by
        rw [advance, stepped]
        rfl
      rw [List.foldlM_cons, advanced, pure_bind]
      exact inductionHypothesis ranRest

end Evaluation

/-! ### Trees -/

namespace MarkedNumber

/-- The value of a tree behind a sign, which its first number takes up. -/
def valueBehind? (sign : Sign) (tree : Expression MarkedNumber) : Option Float :=
  ((tree.map operand).mapFirst (Operand.marked sign)).value? Operand.value?

variable {sign : Sign} {tree : Expression MarkedNumber}

theorem isSome_valueBehind?
    (readable : ∀ marked ∈ tree.operands, (Numeral.value? marked.number.lexeme).isSome) :
    (valueBehind? sign tree).isSome := by
  have signless : ∀ operand,
      (Operand.marked sign operand).value?.isSome = operand.value?.isSome := by
    intro operand
    cases sign <;> simp [Operand.marked, Operand.negated]
  rw [valueBehind?, Expression.isSome_value?_mapFirst signless, Expression.isSome_value?_iff,
    Expression.operands_map, List.forall_mem_map]
  intro marked member
  rw [Operand.isSome_value?]
  exact readable marked member

theorem foldlM_step_postorder {value : Float} (valued : valueBehind? sign tree = some value)
    (operands : List Float) :
    (tree.postorder tokens).foldlM Evaluation.step ⟨operands, sign.factor⟩ =
      .ok ⟨value :: operands, 1.0⟩ := by
  rw [valueBehind?, ← Expression.map_mapFirst (operand_behind sign), Expression.value?_map] at valued
  exact Evaluation.foldlM_step_postorder pushes_tokens valued operands

end MarkedNumber

/-- The reverse Polish order of a tree over numerals, each of them behind any number of unary
minuses, is evaluated on top of any operands and behind either sign without a failure, and without a
report.  It pushes the value of the tree, in which only the first number takes up the sign, and
leaves the sign at 1.  At every place of it the operands that were there lie untouched below those
of the stretch itself, which do not depend on them. -/
theorem segment_pushes_one_value (tree : Expression MarkedNumber) (sign : Sign)
    (readable : ∀ marked ∈ tree.operands, (Numeral.value? marked.number.lexeme).isSome) :
    let segment := tree.postorder MarkedNumber.tokens
    ∃ value, MarkedNumber.valueBehind? sign tree = some value ∧
      (∀ below : List Float,
        segment.foldlM Evaluation.advance ⟨below, sign.factor⟩ = pure ⟨value :: below, 1.0⟩) ∧
      ∀ count, ∃ (own : List Float) (pending : Float), ∀ below : List Float,
        (segment.take count).foldlM Evaluation.advance ⟨below, sign.factor⟩ =
          pure ⟨own ++ below, pending⟩ := by
  intro segment
  obtain ⟨value, valued⟩ :=
    Option.isSome_iff_exists.1 (MarkedNumber.isSome_valueBehind? readable)
  refine ⟨value, valued, ?_, ?_⟩
  · intro below
    exact Evaluation.foldlM_advance_of_ok (MarkedNumber.foldlM_step_postorder valued below)
  · intro count
    have ran := MarkedNumber.foldlM_step_postorder valued []
    rw [← List.take_append_drop count (tree.postorder MarkedNumber.tokens)] at ran
    obtain ⟨middle, ranFront, _⟩ := Run.foldlM_append_eq_ok_iff.1 ran
    refine ⟨middle.operands, middle.sign, ?_⟩
    intro below
    exact Evaluation.foldlM_advance_of_ok (Evaluation.foldlM_step_onTopOf ranFront below)

/-- The stretch `2 - - 3 + 1e1 *` behind a minus, which reads `(-2 + -3) * 1e1`.  The second operand
has its sign from its own minuses, and the third has none. -/
theorem segment_pushes_one_value_of_product :
    let two : MarkedNumber := ⟨[], .integer "2", List.forall_mem_nil _, rfl⟩
    let three : MarkedNumber :=
      ⟨[.unaryMinus, .unaryMinus], .integer "3",
        List.forall_mem_cons.2 ⟨rfl, List.forall_mem_singleton.2 rfl⟩, rfl⟩
    let ten : MarkedNumber := ⟨[], .floatingPoint "1e1", List.forall_mem_nil _, rfl⟩
    let tree : Expression MarkedNumber :=
      .binary .multiply (.binary .add (.leaf two) (.leaf three)) (.leaf ten)
    let segment : List Token :=
      [.integer "2", .unaryMinus, .unaryMinus, .integer "3", .operator '+', .floatingPoint "1e1",
        .operator '*']
    (∀ marked ∈ tree.operands, (Numeral.value? marked.number.lexeme).isSome) ∧
      ((tree.map MarkedNumber.operand).mapFirst (Operand.marked .minus)).operands =
        [⟨.minus, false, "2"⟩, ⟨.minus, false, "3"⟩, ⟨.plus, true, "1e1"⟩] ∧
      MarkedNumber.valueBehind? .minus tree = some ((2.0 * -1.0 + 3.0 * -1.0) * (10.0 * 1.0)) ∧
      (∀ below : List Float,
        segment.foldlM Evaluation.advance ⟨below, -1.0⟩ = pure ⟨-50.0 :: below, 1.0⟩) ∧
      ∀ count, ∃ (own : List Float) (pending : Float), ∀ below : List Float,
        (segment.take count).foldlM Evaluation.advance ⟨below, -1.0⟩ =
          pure ⟨own ++ below, pending⟩ := by
  intro two three ten tree segment
  have readable : ∀ marked ∈ tree.operands, (Numeral.value? marked.number.lexeme).isSome := by
    decide
  have factors : MarkedNumber.valueBehind? .minus tree =
      some ((2.0 * -1.0 + 3.0 * -1.0) * (10.0 * 1.0)) := by
    decide +kernel
  have product : ((2.0 * -1.0 + 3.0 * -1.0) * (10.0 * 1.0) : Float) = -50.0 := by
    decide +kernel
  obtain ⟨value, valued, ran, ranFront⟩ := segment_pushes_one_value tree .minus readable
  rw [factors, product] at valued
  cases valued
  exact ⟨readable, rfl, factors, ran, ranFront⟩

end Reckon
