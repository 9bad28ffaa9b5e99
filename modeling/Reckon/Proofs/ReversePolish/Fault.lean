import Reckon.Proofs.ReversePolish.Reading
import Reckon.Proofs.Run
import Reckon.ReversePolish.Reading

/-!
Contract: where an evaluation fails, and what it says there.

Owns:
- the height, which counts the operands of an evaluation through a run;
- that an evaluation fails on a token exactly if there is a complaint about it, and with its wording;
- the outcome of evaluating any token list, but for the value.

Does not own: the value.

An operator is complained of by the height in front of it, whether it finds one operand or none: a
step that fails leaves no operands behind that could tell these apart.
-/

set_option autoImplicit false

namespace Reckon

namespace ReversePolish

theorem height_concat (tokens : List Token) (token : Token) :
    height (tokens ++ [token]) =
      height tokens + (if token.isNumber then 1 else 0) -
        (if token.kind == .operator then 1 else 0) := by
  unfold height
  rw [List.countP_append, List.countP_append, List.countP_singleton, List.countP_singleton]
  split <;> split <;> omega

end ReversePolish

namespace Evaluation

open ReversePolish

variable {taken tokens : List Token} {evaluation next final : Evaluation} {token : Token}

/-- An evaluation keeps as many operands as the height of the tokens taken in. -/
def Counts (taken : List Token) (evaluation : Evaluation) : Prop :=
  height taken = evaluation.operands.length

theorem counts_start : Counts [] start :=
  rfl

/-- Every move changes the number of operands as it changes the height. -/
theorem Counts.of_move (counts : Counts taken evaluation) (move : Move evaluation token next) :
    Counts (taken ++ [token]) next := by
  unfold Counts at counts ⊢
  rw [height_concat, counts]
  cases move with
  | pushed isNumber numeral =>
      have kind : token.kind ≠ .operator := by
        rcases Token.isNumber_iff.1 isNumber with kind | kind <;> simp [kind]
      simp [isNumber, kind]
  | marked kind => simp [Token.isNumber, kind]
  | applied isOperator operands =>
      have kind : token.kind = .operator := by
        rw [isOperator]
        rfl
      simp [Token.isNumber, kind, operands]

/-- The complaint about a token is what the step says that fails on it. -/
theorem Counts.complaint?_eq (counts : Counts taken evaluation) (token : Token) :
    complaint? taken token =
      match evaluation.step token with
      | .ok _ => none
      | .error fault => some fault.message := by
  unfold complaint? step
  rw [counts]
  cases token.kind with
  | integer | floatingPoint => cases Numeral.value? token.lexeme <;> rfl
  | unaryMinus => rfl
  | operator =>
      cases token.operator? with
      | none => rfl
      | some operator =>
          -- Two operands or more, one, or none.
          match evaluation.operands with
          | [] => rfl
          | [_] => rfl
          | second :: first :: rest =>
              have enough : ¬(((second :: first :: rest).length : Nat) : Int) < 2 := by
                rw [List.length_cons, List.length_cons]
                omega
              rw [if_neg enough]
              rfl
  | leftParenthesis | rightParenthesis => rfl

/-- A token that there is no complaint about is taken in. -/
theorem Counts.step (counts : Counts taken evaluation) (fine : complaint? taken token = none) :
    ∃ next, evaluation.step token = .ok next ∧ Counts (taken ++ [token]) next := by
  rw [counts.complaint?_eq] at fine
  cases stepped : evaluation.step token with
  | ok next => exact ⟨next, rfl, counts.of_move (step_eq_ok_iff.1 stepped)⟩
  | error fault =>
      rw [stepped] at fine
      cases fine

/-- A token that there is a complaint about is refused with that complaint. -/
theorem Counts.step_of_complaint {message : String} (counts : Counts taken evaluation)
    (complaint : complaint? taken token = some message) :
    ∃ fault : EvaluationFault, fault.message = message ∧ evaluation.step token = .error fault := by
  rw [counts.complaint?_eq] at complaint
  cases stepped : evaluation.step token with
  | ok next =>
      rw [stepped] at complaint
      cases complaint
  | error fault =>
      rw [stepped] at complaint
      exact ⟨fault, Option.some.inj complaint, rfl⟩

/-- Tokens without a complaint are all taken in. -/
theorem exists_counts_of_foldlM (fine : firstFaulty? tokens = none) :
    ∃ final, tokens.foldlM Evaluation.step start = .ok final ∧ Counts tokens final := by
  apply Token.exists_foldlM_of_find?_places Counts _ counts_start fine
  intro taken evaluation token counts quiet
  exact counts.step (Option.not_isSome_iff_eq_none.1 (Bool.eq_false_iff.1 quiet))

theorem finish_of_length_ne (several : final.operands.length ≠ 1) :
    final.finish = .error (.notOneValue final.operands.length) := by
  unfold finish
  split
  · next value operands => exact absurd (by rw [operands]; rfl) several
  · rfl

/-- A token that a step fails on is the last one that is read. -/
theorem run_eq_error_of_step {fault : EvaluationFault}
    (ran : taken.foldlM Evaluation.step start = .ok evaluation)
    (failed : evaluation.step token = .error fault) (rest : List Token) :
    run (taken ++ token :: rest) = .error (.evaluation fault) := by
  unfold run
  rw [Run.foldlM_append_of_ok ran, Run.foldlM_cons_of_error failed]
  rfl

/-- An evaluation that takes in all its tokens has a value exactly if one operand is left. -/
theorem exists_run_iff_of_foldlM (ran : tokens.foldlM Evaluation.step start = .ok final) :
    (∃ value, run tokens = .ok value) ↔ final.operands.length = 1 := by
  simp only [run_eq_ok_iff, ran, Except.ok.injEq, exists_eq_left', List.length_eq_one_iff]

theorem run_of_length_ne (ran : tokens.foldlM Evaluation.step start = .ok final)
    (several : final.operands.length ≠ 1) :
    run tokens = .error (.evaluation (.notOneValue final.operands.length)) := by
  unfold run
  rw [ran]
  show final.finish.mapError Failure.evaluation = _
  rw [finish_of_length_ne several]
  rfl

end Evaluation

/-- An evaluation fails at the first token that there is a complaint about, with that complaint and
whatever follows.  Without a complaint as many values are left as the height says, never less than
none: a single one is the result, and any other number of them is a failure that tells the number. -/
theorem evaluateReversePolish_fails_at_first_fault (tokens : List Token) :
    (∀ before token, ReversePolish.firstFaulty? tokens = some (before, token) →
      (∃ after, tokens = before ++ token :: after) ∧
      ∃ fault : EvaluationFault,
        ReversePolish.complaint? before token = some fault.message ∧
        ∀ after, (evaluateReversePolish (before ++ token :: after)).outcome =
          .error (.evaluation fault)) ∧
    (ReversePolish.firstFaulty? tokens = none →
      0 ≤ ReversePolish.height tokens ∧
      ((∃ value, (evaluateReversePolish tokens).outcome = .ok value) ↔
        ReversePolish.height tokens = 1) ∧
      (ReversePolish.height tokens ≠ 1 →
        ∃ fault : EvaluationFault,
          fault.message = "expression should reduce to exactly one value, but " ++
            Int.repr (ReversePolish.height tokens) ++ " remained" ∧
          (evaluateReversePolish tokens).outcome = .error (.evaluation fault))) := by
  simp only [outcome_evaluateReversePolish]
  constructor
  · intro before token first
    obtain ⟨after, tokensEq, fineBefore, faulty⟩ := Token.exists_split_of_find?_places first
    obtain ⟨evaluation, ran, counts⟩ := Evaluation.exists_counts_of_foldlM fineBefore
    obtain ⟨message, complaint⟩ := Option.isSome_iff_exists.1 faulty
    obtain ⟨fault, messageEq, failed⟩ := counts.step_of_complaint complaint
    refine ⟨⟨after, tokensEq⟩, fault, ?_, Evaluation.run_eq_error_of_step ran failed⟩
    rw [messageEq]
    exact complaint
  · intro fine
    obtain ⟨final, ran, counts⟩ := Evaluation.exists_counts_of_foldlM fine
    have heightEq : ReversePolish.height tokens = final.operands.length := counts
    refine ⟨?_, ?_, ?_⟩
    · omega
    · rw [Evaluation.exists_run_iff_of_foldlM ran]
      omega
    · intro several
      refine ⟨.notOneValue final.operands.length, ?_, ?_⟩
      · rw [heightEq]
        rfl
      · apply Evaluation.run_of_length_ne ran
        omega

/-- In `1 % +` the unknown operator is complained of, although it lacks an operand too, and `+` is
not reached.  In `1 +` an operand is missing.  Of `- 2 3` two values are left. -/
theorem evaluateReversePolish_faults :
    let unknown : Token := .operator '%'
    let plus : Token := .operator '+'
    let one : List Token := [.integer "1"]
    let two : List Token := [.unaryMinus, .integer "2", .integer "3"]
    ReversePolish.firstFaulty? (one ++ [unknown, plus]) = some (one, unknown) ∧
      (∃ fault : EvaluationFault,
        ReversePolish.complaint? one unknown = some fault.message ∧
        ∀ after, (evaluateReversePolish (one ++ unknown :: after)).outcome =
          .error (.evaluation fault)) ∧
      ReversePolish.firstFaulty? (one ++ [plus]) = some (one, plus) ∧
      (∃ fault : EvaluationFault,
        ReversePolish.complaint? one plus = some fault.message ∧
        ∀ after, (evaluateReversePolish (one ++ plus :: after)).outcome =
          .error (.evaluation fault)) ∧
      ReversePolish.firstFaulty? two = none ∧ ReversePolish.height two = 2 ∧
      ∃ fault : EvaluationFault,
        fault.message = "expression should reduce to exactly one value, but 2 remained" ∧
        (evaluateReversePolish two).outcome = .error (.evaluation fault) := by
  intro unknown plus one two
  have atUnknown : ReversePolish.firstFaulty? (one ++ [unknown, plus]) = some (one, unknown) := by
    decide
  have atPlus : ReversePolish.firstFaulty? (one ++ [plus]) = some (one, plus) := by
    decide
  have fine : ReversePolish.firstFaulty? two = none := by
    decide
  have height : ReversePolish.height two = 2 := rfl
  obtain ⟨ofUnknown, _⟩ := evaluateReversePolish_fails_at_first_fault (one ++ [unknown, plus])
  obtain ⟨ofPlus, _⟩ := evaluateReversePolish_fails_at_first_fault (one ++ [plus])
  obtain ⟨_, ofTwo⟩ := evaluateReversePolish_fails_at_first_fault two
  obtain ⟨fault, message, failed⟩ := (ofTwo fine).2.2 (by decide)
  exact ⟨atUnknown, (ofUnknown _ _ atUnknown).2, atPlus, (ofPlus _ _ atPlus).2, fine, height,
    fault, message.trans (by decide), failed⟩

end Reckon
