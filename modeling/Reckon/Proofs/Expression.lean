import Reckon.ReversePolish.Reading

/-!
Contract: trees, apart from any way to write them.

Owns:
- a change of the operands of a tree, of all or of the first;
- which trees have a value.

Does not own: reverse Polish order and evaluation.
-/

set_option autoImplicit false

namespace Reckon

namespace Expression

variable {α β : Type} {read : α → Option Float}

theorem operands_map (change : α → β) (expression : Expression α) :
    (expression.map change).operands = expression.operands.map change := by
  induction expression with
  | leaf operand => rfl
  | binary operator left right leftHypothesis rightHypothesis =>
      simp [map, operands, leftHypothesis, rightHypothesis]

theorem postorder_map (change : α → β) (spell : β → List Token) (expression : Expression α) :
    (expression.map change).postorder spell =
      expression.postorder fun operand => spell (change operand) := by
  induction expression with
  | leaf operand => rfl
  | binary operator left right leftHypothesis rightHypothesis =>
      simp [map, postorder, leftHypothesis, rightHypothesis]

theorem value?_map (change : β → α) (expression : Expression β) :
    (expression.map change).value? read = expression.value? fun operand => read (change operand) := by
  induction expression with
  | leaf operand => rfl
  | binary operator left right leftHypothesis rightHypothesis =>
      simp [map, value?, leftHypothesis, rightHypothesis]

/-- A change of the first operand may be made before or after all are changed. -/
theorem map_mapFirst {view : α → β} {change : α → α} {viewed : β → β}
    (commutes : ∀ operand, view (change operand) = viewed (view operand))
    (expression : Expression α) :
    (expression.mapFirst change).map view = (expression.map view).mapFirst viewed := by
  induction expression with
  | leaf operand => simp [map, mapFirst, commutes]
  | binary operator left right leftHypothesis _ => simp [map, mapFirst, leftHypothesis]

theorem mapFirst_of_fixed {change : α → α} (fixed : ∀ operand, change operand = operand)
    (expression : Expression α) : expression.mapFirst change = expression := by
  induction expression with
  | leaf operand => rw [mapFirst, fixed]
  | binary operator left right leftHypothesis _ => rw [mapFirst, leftHypothesis]

theorem value?_binary_eq_some {operator : Operator} {left right : Expression α} {value : Float} :
    (binary operator left right).value? read = some value ↔
      ∃ leftValue rightValue, left.value? read = some leftValue ∧
        right.value? read = some rightValue ∧ operator.apply leftValue rightValue = value := by
  simp [value?, Option.bind_eq_some_iff]

@[simp]
theorem isSome_value?_binary (operator : Operator) (left right : Expression α) :
    ((binary operator left right).value? read).isSome =
      ((left.value? read).isSome && (right.value? read).isSome) := by
  cases leftValued : left.value? read <;> cases rightValued : right.value? read <;>
    simp [value?, leftValued, rightValued]

/-- A tree has a value exactly if all its operands have one. -/
theorem isSome_value?_iff {expression : Expression α} :
    (expression.value? read).isSome ↔ ∀ operand ∈ expression.operands, (read operand).isSome := by
  induction expression with
  | leaf operand => simp [value?, operands]
  | binary operator left right leftHypothesis rightHypothesis =>
      rw [isSome_value?_binary, Bool.and_eq_true, leftHypothesis, rightHypothesis, operands,
        List.forall_mem_append]

/-- Whether there is a value does not depend on a change that keeps operands readable. -/
theorem isSome_value?_mapFirst {change : α → α}
    (readable : ∀ operand, (read (change operand)).isSome = (read operand).isSome)
    (expression : Expression α) :
    ((expression.mapFirst change).value? read).isSome = (expression.value? read).isSome := by
  induction expression with
  | leaf operand => exact readable operand
  | binary operator left right leftHypothesis _ =>
      rw [mapFirst, isSome_value?_binary, leftHypothesis, isSome_value?_binary]

end Expression

@[simp]
theorem Operand.isSome_value? (operand : Operand) :
    operand.value?.isSome = (Numeral.value? operand.lexeme).isSome := by
  simp [Operand.value?]

end Reckon
