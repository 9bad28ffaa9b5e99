import Reckon.Proofs.Phrase.Grammar
import Reckon.Proofs.Phrase.Parsing
import Reckon.Proofs.Phrase.Unambiguity
import Reckon.Proofs.ReversePolish.Arrangement
import Reckon.Proofs.ReversePolish.Frame
import Reckon.Proofs.ReversePolish.LostParenthesis
import Reckon.Proofs.ReversePolish.Reading
import Reckon.Proofs.Scan.Tokenization
import Reckon.Proofs.Token.Balance

/-!
Contract: what the stages make of a text together.

Owns:
- the three courses that a calculation may take, and the outcomes of every stage on each of them;
- which failures reach the user, and for which texts;
- that a text has a value exactly if the grammar derives it, that it is derived in one way only, and
  that the value is the one that the grammar gives it.

Does not own: the log of a calculation.
-/

set_option autoImplicit false

namespace Reckon

theorem outcome_convert (text : String) :
    (convert text).outcome = (tokenize text).outcome >>= fun tokens => (arrange tokens).outcome := by
  simp [convert]

theorem outcome_evaluate (text : String) :
    (evaluate text).outcome =
      (convert text).outcome >>= fun tokens => (evaluateReversePolish tokens).outcome := by
  unfold evaluate
  rw [Report.outcome_announce, Report.outcome_bind]

/-- The operands of a text are signed number tokens. -/
theorem Operand.passesThrough_tokens : ShuntingYard.PassesThrough Operand.tokens where
  passes operand token member := by
    rw [← Operand.tokens_signed] at member
    exact ShuntingYard.passesThrough_signedToken.passes operand.signed token member
  nonempty operand := by
    rw [← Operand.tokens_signed]
    exact ShuntingYard.passesThrough_signedToken.nonempty operand.signed

/-! ## Phrases -/

namespace Phrase

variable {phrase : Phrase} {text : String}

theorem outcome_tokenize_of_derives (derived : Derives 1 phrase text.toList) :
    (tokenize text).outcome = .ok phrase.tokens := by
  obtain ⟨fits, textEq⟩ := derives_iff.1 derived
  rw [outcome_tokenize]
  exact Scan.run_eq_ok_iff.2 ⟨wellFormed_tokens fits, textEq⟩

theorem outcome_convert_of_derives (derived : Derives 1 phrase text.toList) :
    (convert text).outcome = .ok (phrase.expression.postorder Operand.tokens) := by
  obtain ⟨fits, _⟩ := derives_iff.1 derived
  have arranged := ShuntingYard.run_written Operand.passesThrough_tokens (written_tokens fits)
  rw [outcome_convert, outcome_tokenize_of_derives derived]
  exact (outcome_arrange phrase.tokens).trans arranged

theorem outcome_evaluateReversePolish_of_value {value : Float}
    (valueEq : phrase.value? = some value) :
    (evaluateReversePolish (phrase.expression.postorder Operand.tokens)).outcome = .ok value := by
  rw [outcome_evaluateReversePolish]
  exact Evaluation.run_postorder Operand.pushes_tokens valueEq

/-- A text of the grammar has the value of its phrase. -/
theorem outcome_evaluate_of_derives (derived : Derives 1 phrase text.toList) :
    ∃ value, phrase.value? = some value ∧ (evaluate text).outcome = .ok value := by
  obtain ⟨fits, _⟩ := derives_iff.1 derived
  obtain ⟨value, valueEq⟩ := Option.isSome_iff_exists.1 (isSome_value? fits)
  refine ⟨value, valueEq, ?_⟩
  rw [outcome_evaluate, outcome_convert_of_derives derived]
  exact outcome_evaluateReversePolish_of_value valueEq

end Phrase

/-! ## Courses -/

/-- A calculation is given up in the scan, is given up over parentheses, or has the value of a
phrase. -/
inductive Course (text : String) : Prop where
  | refused {failure : Failure} (isLexical : failure.stage = .lexical)
      (scanned : (tokenize text).outcome = .error failure)
      (converted : (convert text).outcome = .error failure)
      (evaluated : (evaluate text).outcome = .error failure)
  | unbalanced {tokens : List Token} {imbalance : Imbalance} (notBalanced : ¬BalancedText text)
      (scanned : (tokenize text).outcome = .ok tokens)
      (converted : (convert text).outcome = .error (.unbalanced imbalance))
      (evaluated : (evaluate text).outcome = .error (.unbalanced imbalance))
  | valued {phrase : Phrase} {value : Float} (balanced : BalancedText text)
      (derived : Phrase.Derives 1 phrase text.toList) (valueEq : phrase.value? = some value)
      (scanned : (tokenize text).outcome = .ok phrase.tokens)
      (converted :
        (convert text).outcome = .ok (phrase.expression.postorder Operand.tokens))
      (reduced : (evaluateReversePolish (phrase.expression.postorder Operand.tokens)).outcome =
        .ok value)
      (evaluated : (evaluate text).outcome = .ok value)

theorem course_of_refused {text : String} {failure : Failure}
    (scanned : (tokenize text).outcome = .error failure) : Course text := by
  have isLexical : failure.stage = .lexical := by
    rw [outcome_tokenize] at scanned
    exact Scan.stage_of_run_eq_error scanned
  have converted : (convert text).outcome = .error failure := by
    rw [outcome_convert, scanned]
    rfl
  apply Course.refused isLexical scanned converted
  rw [outcome_evaluate, converted]
  rfl

theorem course_of_imbalance {text : String} {tokens : List Token}
    (scanned : (tokenize text).outcome = .ok tokens) (wellFormed : Token.WellFormed tokens)
    (textEq : Token.characters tokens = text.toList) (unbalanced : ¬BalancedTokens 0 tokens) :
    Course text := by
  have notBalanced : ¬BalancedText text :=
    mt (balancedTokens_iff_balancedText wellFormed textEq).2 unbalanced
  obtain ⟨imbalance, arranged⟩ := exists_imbalance_of_not_balanced wellFormed.ne_nil
    (fun token member => (wellFormed.isSpelled token member).operator?_ne_none)
    (mt balancedFrom_zero.2 unbalanced)
  have converted : (convert text).outcome = .error (.unbalanced imbalance) := by
    rw [outcome_convert, scanned]
    exact arranged
  apply Course.unbalanced notBalanced scanned converted
  rw [outcome_evaluate, converted]
  rfl

theorem course_of_derives {text : String} {phrase : Phrase} (balanced : BalancedText text)
    (derived : Phrase.Derives 1 phrase text.toList) : Course text := by
  obtain ⟨value, valueEq, evaluated⟩ := Phrase.outcome_evaluate_of_derives derived
  exact .valued balanced derived valueEq (Phrase.outcome_tokenize_of_derives derived)
    (Phrase.outcome_convert_of_derives derived)
    (Phrase.outcome_evaluateReversePolish_of_value valueEq) evaluated

/-- Every calculation takes one of the courses. -/
theorem course (text : String) : Course text := by
  cases scanned : (tokenize text).outcome with
  | error failure => exact course_of_refused scanned
  | ok tokens =>
      have ran := scanned
      rw [outcome_tokenize] at ran
      obtain ⟨wellFormed, textEq⟩ := Scan.run_eq_ok_iff.1 ran
      by_cases balanced : BalancedTokens 0 tokens
      · have balancedText := (balancedTokens_iff_balancedText wellFormed textEq).1 balanced
        obtain ⟨phrase, fits, tokensEq⟩ := Phrase.exists_of_wellFormed wellFormed balanced
        rw [← tokensEq] at textEq
        exact course_of_derives balancedText (Phrase.derives_iff.2 ⟨fits, textEq⟩)
      · exact course_of_imbalance scanned wellFormed textEq balanced

/-- No stage is given what it cannot deal with by the stages before it.  The user is told of lexical
failures and of unbalanced parentheses only, each for the texts that have them. -/
theorem evaluate_failures (text : String) :
    (evaluate text).outcome ≠ .error .emptyInput ∧
    (∀ fault, (evaluate text).outcome ≠ .error (.evaluation fault)) ∧
    (∀ failure, (evaluate text).outcome = .error failure ∧ failure.stage = .lexical ↔
      (tokenize text).outcome = .error failure) ∧
    ((∃ imbalance, (evaluate text).outcome = .error (.unbalanced imbalance)) ↔
      (∃ tokens, (tokenize text).outcome = .ok tokens) ∧ ¬BalancedText text) ∧
    ((∃ value, (evaluate text).outcome = .ok value) ↔
      (∃ tokens, (tokenize text).outcome = .ok tokens) ∧ BalancedText text) ∧
    (∀ ordered, (convert text).outcome = .ok ordered →
      ∃ value, (evaluateReversePolish ordered).outcome = .ok value) := by
  cases course text with
  | @refused failure isLexical scanned converted evaluated =>
      simp only [scanned, converted, evaluated]
      cases failure with
      | lexical fault position => simp [Failure.stage]
      | _ => cases isLexical
  | unbalanced notBalanced scanned converted evaluated =>
      simp only [scanned, converted, evaluated]
      simp [notBalanced, Failure.stage]
  | valued balanced _ _ scanned converted reduced evaluated =>
      simp only [scanned, converted, evaluated]
      simp [balanced, reduced]

/-- The text `(1+2.5)*3` is evaluated in its reverse Polish order.  Without the right parenthesis it
is unbalanced. -/
theorem evaluate_with_and_without_rightParenthesis :
    let ordered : List Token :=
      [.integer "1", .floatingPoint "2.5", .operator '+', .integer "3", .operator '*']
    (convert "(1+2.5)*3").outcome = .ok ordered ∧
      (∃ value, (evaluateReversePolish ordered).outcome = .ok value) ∧
      ¬BalancedText "(1+2.5*3" ∧
      ∃ imbalance, (evaluate "(1+2.5*3").outcome = .error (.unbalanced imbalance) := by
  intro ordered
  have converted : (convert "(1+2.5)*3").outcome = .ok ordered := rfl
  have notBalanced : ¬BalancedText "(1+2.5*3" := by
    intro balanced
    exact absurd balanced.2 (by decide)
  obtain ⟨_, _, _, _, _, reduced⟩ := evaluate_failures "(1+2.5)*3"
  obtain ⟨_, _, _, unbalanced, _⟩ := evaluate_failures "(1+2.5*3"
  exact ⟨converted, reduced ordered converted, notBalanced,
    unbalanced.2 ⟨⟨_, rfl⟩, notBalanced⟩⟩

/-! ## Meaning -/

namespace Phrase

/-- The grammar is unambiguous: the scan of a text determines the tokens of its phrase, and these
the phrase. -/
theorem eq_of_derives {phrase other : Phrase} {text : String}
    (derived : Derives 1 phrase text.toList) (otherDerived : Derives 1 other text.toList) :
    other = phrase := by
  have scanned := outcome_tokenize_of_derives derived
  rw [outcome_tokenize_of_derives otherDerived] at scanned
  exact eq_of_tokens_eq (derives_iff.1 otherDerived).1 (derives_iff.1 derived).1
    (Except.ok.inj scanned)

end Phrase

theorem exists_phrase_of_evaluate {text : String} {value : Float}
    (evaluated : (evaluate text).outcome = .ok value) :
    ∃ phrase, Phrase.Derives 1 phrase text.toList ∧ phrase.value? = some value := by
  cases course text with
  | refused _ _ _ failed =>
      rw [failed] at evaluated
      cases evaluated
  | unbalanced _ _ _ failed =>
      rw [failed] at evaluated
      cases evaluated
  | @valued phrase _ _ derived valueEq _ _ _ succeeded =>
      rw [succeeded] at evaluated
      cases evaluated
      exact ⟨phrase, derived, valueEq⟩

/-- A text has a value exactly if the grammar derives it.  It is then derived as one phrase only, and
the value is that of this phrase. -/
theorem evaluate_eq_value_of_phrase (text : String) :
    ((∃ value, (evaluate text).outcome = .ok value) ↔
      ∃ phrase, Phrase.Derives 1 phrase text.toList) ∧
    ∀ phrase, Phrase.Derives 1 phrase text.toList →
      (∀ other, Phrase.Derives 1 other text.toList → other = phrase) ∧
      ∃ value, phrase.value? = some value ∧ (evaluate text).outcome = .ok value := by
  refine ⟨⟨?_, ?_⟩, ?_⟩
  · intro ⟨value, evaluated⟩
    obtain ⟨phrase, derived, _⟩ := exists_phrase_of_evaluate evaluated
    exact ⟨phrase, derived⟩
  · intro ⟨phrase, derived⟩
    obtain ⟨value, _, evaluated⟩ := Phrase.outcome_evaluate_of_derives derived
    exact ⟨value, evaluated⟩
  · intro phrase derived
    refine ⟨?_, Phrase.outcome_evaluate_of_derives derived⟩
    intro other otherDerived
    exact Phrase.eq_of_derives derived otherDerived

/-- The text `(-1+2.5)*3`: the minus belongs to the number after it, not to the sum. -/
theorem evaluate_product_of_negatedGroup :
    let sum : Phrase := .negatedGroup (.binary .add (.number false "1") (.number true "2.5"))
    let phrase : Phrase := .binary .multiply sum (.number false "3")
    Phrase.Derives 1 phrase "(-1+2.5)*3".toList ∧
      sum.expression = .binary .add (.leaf ⟨.minus, false, "1"⟩) (.leaf ⟨.plus, true, "2.5"⟩) ∧
      phrase.value? = some ((1.0 * -1.0 + 2.5 * 1.0) * (3.0 * 1.0)) ∧
      (∀ other, Phrase.Derives 1 other "(-1+2.5)*3".toList → other = phrase) ∧
      (evaluate "(-1+2.5)*3").outcome = .ok 4.5 := by
  intro sum phrase
  have sumDerived : Phrase.Derives 4 sum "(-1+2.5)".toList := by
    have one : Phrase.Derives 4 (.number false "1") "1".toList := .integer (isDigits_singleton rfl)
    have point : IsPointed "2.5".toList :=
      ⟨['2'], ['5'], isDigits_singleton rfl, isDigits_singleton rfl, rfl⟩
    have inner : Phrase.Derives 1 (.binary .add (.number false "1") (.number true "2.5"))
        ('1' :: "+2.5".toList) :=
      .binary .plus one.tighter.tighter.tighter (Phrase.Derives.fractional point).tighter.tighter
    exact .negatedGroup rfl inner
  have derived : Phrase.Derives 1 phrase "(-1+2.5)*3".toList := by
    have three : Phrase.Derives 4 (.number false "3") "3".toList := .integer (isDigits_singleton rfl)
    have product : Phrase.Derives 2 phrase ("(-1+2.5)".toList ++ '*' :: "3".toList) :=
      .binary .times sumDerived.tighter.tighter three.tighter
    exact product.tighter
  have factors : phrase.value? = some ((1.0 * -1.0 + 2.5 * 1.0) * (3.0 * 1.0)) := by
    decide +kernel
  have product : ((1.0 * -1.0 + 2.5 * 1.0) * (3.0 * 1.0) : Float) = 4.5 := by
    decide +kernel
  obtain ⟨unique, value, valued, evaluated⟩ :=
    (evaluate_eq_value_of_phrase "(-1+2.5)*3").2 phrase derived
  rw [factors, product] at valued
  cases valued
  exact ⟨derived, rfl, factors, unique, evaluated⟩

end Reckon
