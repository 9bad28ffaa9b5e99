import Reckon.Calculator
import Reckon.Proofs.Expression
import Reckon.Proofs.ReversePolish.Frame
import Reckon.Proofs.Run

/-!
Contract: the evaluation of any token list, against the tree that the list is read from.

Owns:
- that a token list is read from one tree at most;
- the trees behind the operands of an evaluation, and their preservation by a step and by a run;
- that an evaluation succeeds exactly on the token lists that are read from a tree, with its value.

Does not own: the fault of an evaluation that fails.

Unary minuses may stand anywhere, so the frame law of an expression does not apply: what is carried
through a run is the whole list taken in so far, cut into one tree for each operand.
-/

set_option autoImplicit false

namespace Reckon

/-! ## Trees -/

namespace Expression

/-- Reverse Polish order is read in one way only, from its end: the last token tells a number from an
operator, and a right operand that is read leaves the left one at the end. -/
theorem eq_of_postorder_eq {tree other : Expression Token} {before before' : List Token}
    (isNumber : ∀ number ∈ tree.operands, number.isNumber)
    (isNumber' : ∀ number ∈ other.operands, number.isNumber)
    (same : before ++ tree.postorder (fun number => [number]) =
      before' ++ other.postorder fun number => [number]) :
    before = before' ∧ tree = other := by
  induction tree generalizing other before before' with
  | leaf number =>
      cases other with
      | leaf number' =>
          obtain ⟨beforeEq, numberEq⟩ := List.append_inj' same rfl
          exact ⟨beforeEq, congrArg leaf (List.singleton_inj.1 numberEq)⟩
      | binary operator' left' right' =>
          simp only [postorder, ← List.append_assoc] at same
          have last := List.singleton_inj.1 (List.append_inj' same rfl).2
          have number := isNumber _ (List.mem_singleton_self _)
          rw [last] at number
          cases number
  | binary operator left right leftHypothesis rightHypothesis =>
      cases other with
      | leaf number' =>
          simp only [postorder, ← List.append_assoc] at same
          have last := List.singleton_inj.1 (List.append_inj' same rfl).2
          have number := isNumber' _ (List.mem_singleton_self _)
          rw [← last] at number
          cases number
      | binary operator' left' right' =>
          simp only [operands, List.mem_append, or_imp, forall_and] at isNumber isNumber'
          simp only [postorder, ← List.append_assoc] at same
          obtain ⟨operandsEq, operatorEq⟩ := List.append_inj' same rfl
          obtain ⟨leftEq, rfl⟩ := rightHypothesis isNumber.2 isNumber'.2 operandsEq
          obtain ⟨beforeEq, rfl⟩ := leftHypothesis isNumber.1 isNumber'.1 leftEq
          have named := congrArg Token.operator? (List.singleton_inj.1 operatorEq)
          rw [Token.operator?_operator, Token.operator?_operator] at named
          cases named
          exact ⟨beforeEq, rfl⟩

/-- A token list is read from one tree at most. -/
theorem IsReadFrom.eq {tree other : Expression Token} {tokens : List Token}
    (read : tree.IsReadFrom tokens) (otherRead : other.IsReadFrom tokens) : other = tree := by
  have same : [] ++ other.postorder (fun number => [number]) =
      [] ++ tree.postorder fun number => [number] := by
    rw [← otherRead.order, ← read.order]
  exact (eq_of_postorder_eq otherRead.isNumber read.isNumber same).2

end Expression

/-! ## Signs -/

namespace Token

theorem withoutMinuses_append (left right : List Token) :
    withoutMinuses (left ++ right) = withoutMinuses left ++ withoutMinuses right :=
  List.filter_append ..

theorem withoutMinuses_of_kind {token : Token} (kind : token.kind ≠ .unaryMinus) :
    withoutMinuses [token] = [token] := by
  simp [withoutMinuses, kind]

/-- The sign behind a list is decided by its last number or unary minus. -/
theorem signBehind_concat (tokens : List Token) (token : Token) :
    signBehind (tokens ++ [token]) =
      if token.isNumber then .plus
      else if token.kind = .unaryMinus then .minus
      else signBehind tokens := by
  unfold signBehind
  rw [List.reverse_concat, List.takeWhile_cons]
  by_cases isNumber : token.isNumber
  · simp [isNumber]
  · by_cases kind : token.kind = .unaryMinus
    · simp [isNumber, kind]
    · simp [isNumber, kind]

end Token

namespace Operand

/-- A number at the end of a list does not change the signs of the others. -/
theorem ofTokens_concat (tokens : List Token) (token : Token) :
    ofTokens (tokens ++ [token]) =
      ofTokens tokens ++
        if token.isNumber then [ofToken (Token.signBehind tokens) token] else [] := by
  unfold ofTokens
  rw [Token.places_concat, List.filterMap_append]
  by_cases isNumber : token.isNumber
  · simp [isNumber]
  · simp [isNumber]

theorem number_ofToken {token : Token} (isNumber : token.isNumber) (sign : Sign) :
    (ofToken sign token).number = token := by
  obtain ⟨lexeme, kind⟩ := token
  rcases Token.isNumber_iff.1 isNumber with rfl | rfl <;> rfl

end Operand

/-! ## Evaluations -/

namespace Evaluation

/-- The operands of an evaluation are the values of trees, last one first, and the tokens taken in
are the trees one after the other, with every number signed as at its place. -/
structure Holds (taken : List Token) (evaluation : Evaluation)
    (trees : List (Expression Operand)) : Prop where
  values : trees.map (Expression.value? Operand.value?) = evaluation.operands.map some
  order : Token.withoutMinuses taken =
    trees.reverse.flatMap (Expression.postorder fun operand => [operand.number])
  operands : Operand.ofTokens taken = trees.reverse.flatMap Expression.operands
  sign : evaluation.sign = (Token.signBehind taken).factor

theorem holds_start : Holds [] start [] :=
  ⟨rfl, rfl, rfl, rfl⟩

variable {taken : List Token} {evaluation next : Evaluation} {token : Token}
  {trees : List (Expression Operand)}

/-- A number is a tree of its own. -/
theorem Holds.pushed {value : Float} (holds : Holds taken evaluation trees)
    (isNumber : token.isNumber) (numeral : Numeral.value? token.lexeme = some value) :
    Holds (taken ++ [token]) ⟨value * evaluation.sign :: evaluation.operands, 1.0⟩
      (.leaf (.ofToken (Token.signBehind taken) token) :: trees) where
  values := by
    have valued : (Operand.ofToken (Token.signBehind taken) token).value? =
        some (value * evaluation.sign) := by
      simp [Operand.value?, Operand.ofToken, numeral, holds.sign]
    simp [Expression.value?, valued, holds.values]
  order := by
    rw [Token.withoutMinuses_append, holds.order,
      Token.withoutMinuses_of_kind (Token.kind_ne_unaryMinus_of_isNumber isNumber)]
    simp [Expression.postorder, Operand.number_ofToken isNumber]
  operands := by
    rw [Operand.ofTokens_concat, holds.operands, if_pos isNumber]
    simp [Expression.operands]
  sign := by
    rw [Token.signBehind_concat, if_pos isNumber]
    rfl

theorem Holds.marked (holds : Holds taken evaluation trees) (kind : token.kind = .unaryMinus) :
    Holds (taken ++ [token]) { evaluation with sign := -1.0 } trees where
  values := holds.values
  order := by
    rw [Token.withoutMinuses_append, holds.order]
    simp [Token.withoutMinuses, kind]
  operands := by
    rw [Operand.ofTokens_concat, holds.operands]
    simp [Token.isNumber, kind]
  sign := by
    have other : token.isNumber = false := by
      simp [Token.isNumber, kind]
    simp [Token.signBehind_concat, other, kind, Sign.factor]

/-- An operator joins the last two trees. -/
theorem Holds.applied {operator : Operator} {second first : Float} {rest : List Float}
    (holds : Holds taken evaluation trees) (isOperator : token = .operator operator.symbol)
    (operands : evaluation.operands = second :: first :: rest) :
    ∃ joined, Holds (taken ++ [token])
      { evaluation with operands := operator.apply first second :: rest } joined := by
  have values := holds.values
  rw [operands] at values
  obtain ⟨right, others, rfl, rightValued, othersValued⟩ := List.map_eq_cons_iff.1 values
  obtain ⟨left, below, rfl, leftValued, belowValued⟩ := List.map_eq_cons_iff.1 othersValued
  have kind : token.kind = .operator := by
    rw [isOperator]
    rfl
  have notNumber : token.isNumber = false := by
    simp [Token.isNumber, kind]
  refine ⟨.binary operator left right :: below, ?_, ?_, ?_, ?_⟩
  · simp [Expression.value?, leftValued, rightValued, belowValued]
  · rw [Token.withoutMinuses_append, holds.order, Token.withoutMinuses_of_kind (by simp [kind])]
    simp [Expression.postorder, isOperator]
  · rw [Operand.ofTokens_concat, holds.operands]
    simp [Expression.operands, notNumber]
  · rw [Token.signBehind_concat]
    simpa [notNumber, kind] using holds.sign

/-- Every step that succeeds keeps the operands the values of trees. -/
theorem Holds.step (holds : Holds taken evaluation trees)
    (stepped : evaluation.step token = .ok next) : ∃ after, Holds (taken ++ [token]) next after := by
  cases step_eq_ok_iff.1 stepped with
  | pushed isNumber numeral => exact ⟨_, holds.pushed isNumber numeral⟩
  | marked kind => exact ⟨_, holds.marked kind⟩
  | applied isOperator operands => exact holds.applied isOperator operands

theorem exists_holds_of_foldlM {tokens : List Token} {final : Evaluation}
    (ran : tokens.foldlM Evaluation.step start = .ok final) : ∃ trees, Holds tokens final trees := by
  have preserved : ∀ {taken evaluation token next}, (∃ trees, Holds taken evaluation trees) →
      evaluation.step token = .ok next → ∃ trees, Holds (taken ++ [token]) next trees := by
    intro taken evaluation token next ⟨trees, holds⟩ stepped
    exact holds.step stepped
  exact Run.invariant_foldlM (fun taken evaluation => ∃ trees, Holds taken evaluation trees)
    preserved ⟨[], holds_start⟩ ran

theorem finish_eq_ok_iff {final : Evaluation} {value : Float} :
    final.finish = .ok value ↔ final.operands = [value] := by
  unfold finish
  split
  · next result operands => simp [operands]
  · next several => exact iff_of_false nofun (several value)

theorem run_eq_ok_iff {tokens : List Token} {value : Float} :
    run tokens = .ok value ↔
      ∃ final, tokens.foldlM Evaluation.step start = .ok final ∧ final.operands = [value] := by
  simp only [← finish_eq_ok_iff]
  exact Run.mapError_foldlM_bind_eq_ok_iff

/-- The value of an evaluation that succeeds is that of a tree whose numbers are signed as in the
token list. -/
theorem exists_tree_of_run {tokens : List Token} {value : Float} (ran : run tokens = .ok value) :
    ∃ signed : Expression Operand,
      Token.withoutMinuses tokens = signed.postorder (fun operand => [operand.number]) ∧
        signed.operands = Operand.ofTokens tokens ∧ signed.value? Operand.value? = some value := by
  obtain ⟨final, reached, operands⟩ := run_eq_ok_iff.1 ran
  obtain ⟨trees, holds⟩ := exists_holds_of_foldlM reached
  have values := holds.values
  rw [operands] at values
  obtain ⟨signed, rfl, valued⟩ := List.map_eq_singleton_iff.1 values
  refine ⟨signed, ?_, ?_, valued⟩
  · simpa using holds.order
  · simpa using holds.operands.symm

/-! ### Success -/

/-- A token that pushes a value on the operands it keeps does so among unary minuses. -/
theorem foldlM_step_single {tokens : List Token} {token : Token} {operands kept : List Float}
    (single : Token.withoutMinuses tokens = [token])
    (pushes : ∀ sign, ∃ next value, Move ⟨operands, sign⟩ token next ∧ next.operands = value :: kept)
    (sign : Float) :
    ∃ final value, tokens.foldlM Evaluation.step ⟨operands, sign⟩ = .ok final ∧
      final.operands = value :: kept := by
  obtain ⟨before, after, rfl, beforeMinuses, _, afterMinuses⟩ := List.filter_eq_cons_iff.1 single
  have ranBefore := foldlM_step_minuses (by simpa using beforeMinuses) operands sign
  obtain ⟨next, value, move, pushed⟩ := pushes (if before.isEmpty then sign else -1.0)
  have ranAfter := foldlM_step_minuses (by simpa using afterMinuses) next.operands next.sign
  refine ⟨⟨next.operands, if after.isEmpty then next.sign else -1.0⟩, value, ?_, pushed⟩
  rw [Run.foldlM_append_of_ok ranBefore, Run.foldlM_cons_of_ok (step_eq_ok_iff.2 move)]
  exact ranAfter

/-- A token list that is read from a tree pushes one value on any operands. -/
theorem foldlM_step_of_isReadFrom {tree : Expression Token} {tokens : List Token}
    (read : tree.IsReadFrom tokens) (operands : List Float) (sign : Float) :
    ∃ final value, tokens.foldlM Evaluation.step ⟨operands, sign⟩ = .ok final ∧
      final.operands = value :: operands := by
  obtain ⟨order, isNumber, isNumeral⟩ := read
  induction tree generalizing tokens operands sign with
  | leaf number =>
      apply foldlM_step_single order
      intro pending
      have member : number ∈ (Expression.leaf number).operands := List.mem_singleton_self number
      obtain ⟨value, numeral⟩ := Option.isSome_iff_exists.1 (isNumeral number member)
      exact ⟨_, _, .pushed (isNumber number member) numeral, rfl⟩
  | binary operator left right leftHypothesis rightHypothesis =>
      rw [Expression.operands, List.forall_mem_append] at isNumber isNumeral
      obtain ⟨both, last, rfl, bothOrder, lastOrder⟩ := List.filter_eq_append_iff.1 order
      obtain ⟨first, second, rfl, firstOrder, secondOrder⟩ := List.filter_eq_append_iff.1 bothOrder
      obtain ⟨afterLeft, leftValue, ranLeft, leftPushed⟩ :=
        leftHypothesis operands sign firstOrder isNumber.1 isNumeral.1
      obtain ⟨afterRight, rightValue, ranRight, rightPushed⟩ :=
        rightHypothesis afterLeft.operands afterLeft.sign secondOrder isNumber.2 isNumeral.2
      rw [leftPushed] at rightPushed
      have applies : ∀ pending, ∃ next value,
          Move ⟨afterRight.operands, pending⟩ (.operator operator.symbol) next ∧
            next.operands = value :: operands := by
        intro pending
        exact ⟨_, _, .applied rfl rightPushed, rfl⟩
      rw [Run.foldlM_append_of_ok ((Run.foldlM_append_of_ok ranLeft second).trans ranRight)]
      exact foldlM_step_single lastOrder applies afterRight.sign

/-- A token list that is read from a tree has a value. -/
theorem exists_run_of_isReadFrom {tree : Expression Token} {tokens : List Token}
    (read : tree.IsReadFrom tokens) : ∃ value, run tokens = .ok value := by
  obtain ⟨final, value, ran, operands⟩ := foldlM_step_of_isReadFrom read [] 1.0
  exact ⟨value, run_eq_ok_iff.2 ⟨final, ran, operands⟩⟩

/-- A tree with a value, over the numbers of a token list with their signs, is the tree that the list
is read from once these signs are left out. -/
theorem isReadFrom_of_signed {signed : Expression Operand} {tokens : List Token} {value : Float}
    (order : Token.withoutMinuses tokens = signed.postorder fun operand => [operand.number])
    (valued : signed.value? Operand.value? = some value) :
    (signed.map Operand.number).IsReadFrom tokens where
  order := by rw [order, Expression.postorder_map]
  isNumber := by
    simp [Expression.operands_map, Operand.isNumber_number]
  isNumeral := by
    have readable : (signed.value? Operand.value?).isSome := by
      rw [valued]
      rfl
    simpa [Expression.operands_map, Operand.lexeme_number] using
      Expression.isSome_value?_iff.1 readable

end Evaluation

theorem outcome_evaluateReversePolish (tokens : List Token) :
    (evaluateReversePolish tokens).outcome = Evaluation.run tokens := by
  unfold evaluateReversePolish Evaluation.run
  rw [Report.outcome_bind, Report.outcome_foldlM, Run.mapError_foldlM_bind]
  simp only [Evaluation.outcome_advance, Report.outcome_ofExcept]

/-- A token list has a value exactly if, its unary minuses left out, it is the reverse Polish order
of a tree over numerals.  There is one such tree only, and the value of the list is that of the tree
with every number signed as at its place in the list. -/
theorem evaluateReversePolish_eq_value_of_tree (tokens : List Token) :
    ((∃ value, (evaluateReversePolish tokens).outcome = .ok value) ↔
      ∃ tree : Expression Token, tree.IsReadFrom tokens) ∧
    ∀ tree : Expression Token, tree.IsReadFrom tokens →
      (∀ other : Expression Token, other.IsReadFrom tokens → other = tree) ∧
      ∃ (signed : Expression Operand) (value : Float),
        signed.map Operand.number = tree ∧ signed.operands = Operand.ofTokens tokens ∧
          signed.value? Operand.value? = some value ∧
          (evaluateReversePolish tokens).outcome = .ok value := by
  simp only [outcome_evaluateReversePolish]
  refine ⟨⟨?_, ?_⟩, ?_⟩
  · intro ⟨value, ran⟩
    obtain ⟨signed, order, _, valued⟩ := Evaluation.exists_tree_of_run ran
    exact ⟨_, Evaluation.isReadFrom_of_signed order valued⟩
  · intro ⟨tree, read⟩
    exact Evaluation.exists_run_of_isReadFrom read
  · intro tree read
    obtain ⟨value, ran⟩ := Evaluation.exists_run_of_isReadFrom read
    obtain ⟨signed, order, operands, valued⟩ := Evaluation.exists_tree_of_run ran
    have treeEq := read.eq (Evaluation.isReadFrom_of_signed order valued)
    refine ⟨?_, signed, value, treeEq, operands, valued, ran⟩
    intro other otherRead
    exact read.eq otherRead

/-- The tokens `- - 2 3 - + 1e1 * -`, read as `(-2 + 3) * -1e1`.  Two minuses in front of a number
count once, the one in front of `+` counts for the number after it, and the last one for none. -/
theorem evaluateReversePolish_product_of_sum :
    let tokens : List Token :=
      [.unaryMinus, .unaryMinus, .integer "2", .integer "3", .unaryMinus, .operator '+',
        .floatingPoint "1e1", .operator '*', .unaryMinus]
    let tree : Expression Token :=
      .binary .multiply (.binary .add (.leaf (.integer "2")) (.leaf (.integer "3")))
        (.leaf (.floatingPoint "1e1"))
    tree.IsReadFrom tokens ∧
      Operand.ofTokens tokens = [⟨.minus, false, "2"⟩, ⟨.plus, false, "3"⟩, ⟨.minus, true, "1e1"⟩] ∧
      (Operand.ofTokens tokens).map Operand.value? =
        [some (2.0 * -1.0), some (3.0 * 1.0), some (10.0 * -1.0)] ∧
      (∀ other : Expression Token, other.IsReadFrom tokens → other = tree) ∧
      ∃ signed : Expression Operand,
        signed.map Operand.number = tree ∧ signed.operands = Operand.ofTokens tokens ∧
          signed.value? Operand.value? = some (-10.0) ∧
          (evaluateReversePolish tokens).outcome = .ok (-10.0) := by
  intro tokens tree
  have read : tree.IsReadFrom tokens :=
    { order := rfl
      isNumber := by decide
      isNumeral := by decide }
  have factors : (Operand.ofTokens tokens).map Operand.value? =
      [some (2.0 * -1.0), some (3.0 * 1.0), some (10.0 * -1.0)] := by
    decide +kernel
  have evaluated : (evaluateReversePolish tokens).outcome.toOption = some (-10.0) := by
    decide +kernel
  obtain ⟨unique, signed, value, mapEq, operandsEq, valued, succeeded⟩ :=
    (evaluateReversePolish_eq_value_of_tree tokens).2 tree read
  rw [succeeded] at evaluated
  cases evaluated
  exact ⟨read, rfl, factors, unique, signed, mapEq, operandsEq, valued, succeeded⟩

end Reckon
