import Reckon.Proofs.Calculator.Course
import Reckon.Proofs.CommandLine.Batch
import Reckon.Proofs.Numeral
import Reckon.Proofs.ReversePolish.Conservation
import Reckon.Proofs.Token.Field

/-!
Contract: the options of a run decide what is shown, and nothing else.

The line of tokens takes a scan of its own, which may fail before the calculation starts.  It fails
only where the scan of the calculation does, and for the same reason.

Owns:
- that a calculation is the evaluation of its expression, whatever is shown on the way, and which
  lines are shown, from the outcome of each stage;
- the ways of giving a run its input, and the expressions that are calculated;
- the lines that are shown for the sake of an option, by what they start with;
- that the diagnostics, the exit code and all other lines are the same for all options;
- which lines are shown of an expression with both options.

Does not own: the reading of arguments.
-/

set_option autoImplicit false

namespace Reckon.CommandLine

/-! ## One calculation -/

section Stages

variable {α : Type} {options : Options} {expression : String}

/-- The line of a result, if there is one. -/
def lineOf (line : α → String) : Except Failure α → List String
  | .ok result => [line result]
  | .error _ => []

@[simp]
theorem lineOf_ok (line : α → String) (result : α) :
    lineOf line (.ok result) = [line result] := rfl

@[simp]
theorem lineOf_error (line : α → String) (failure : Failure) :
    lineOf line (.error failure) = [] := rfl

theorem mem_lineOf {line : α → String} {outcome : Except Failure α} {shown : String}
    (member : shown ∈ lineOf line outcome) : ∃ result, outcome = .ok result ∧ shown = line result := by
  cases outcome with
  | error failure => cases member
  | ok result => exact ⟨result, rfl, List.mem_singleton.1 member⟩

/-- The tokens of an expression on their line, if they are asked for and it has any. -/
def tokensPart (options : Options) (expression : String) : List String :=
  if options.showTokens then lineOf tokensLine (tokenize expression).outcome else []

/-- The reverse Polish form of an expression on its line, if it is asked for and there is one. -/
def reversePolishPart (options : Options) (expression : String) : List String :=
  if options.showReversePolish then lineOf reversePolishLine (convert expression).outcome else []

theorem tokensShown_of_ok {tokens : List Token} (options : Options)
    (scanned : (tokenize expression).outcome = .ok tokens) :
    tokensShown options expression = .ok (tokensPart options expression) := by
  unfold tokensShown tokensPart
  rw [scanned]
  split <;> rfl

theorem tokensPart_of_error {failure : Failure} (options : Options)
    (scanned : (tokenize expression).outcome = .error failure) :
    tokensPart options expression = [] := by
  unfold tokensPart
  rw [scanned, lineOf_error, ite_self]

theorem reversePolishPart_of_error {failure : Failure} (options : Options)
    (converted : (convert expression).outcome = .error failure) :
    reversePolishPart options expression = [] := by
  unfold reversePolishPart
  rw [converted, lineOf_error, ite_self]

/-- A calculation has the outcome of an evaluation.  It shows what stages had a result. -/
theorem calculate_eq (options : Options) (expression : String) :
    calculate options expression =
      ⟨tokensPart options expression ++ reversePolishPart options expression,
        (evaluate expression).outcome⟩ := by
  unfold calculate
  cases course expression with
  | refused _ scanned converted evaluated =>
      -- The scan for the line of tokens fails as the scan of the conversion does.
      rw [converted, evaluated, tokensPart_of_error options scanned,
        reversePolishPart_of_error options converted, tokensShown, scanned]
      cases options.showTokens <;> rfl
  | unbalanced _ scanned converted evaluated =>
      rw [tokensShown_of_ok options scanned, converted, evaluated,
        reversePolishPart_of_error options converted, List.append_nil]
  | valued _ _ _ scanned converted reduced evaluated =>
      rw [tokensShown_of_ok options scanned, converted, evaluated, reversePolishPart, converted,
        ← reduced]
      rfl

/-- The value of an expression on its line, if it has one. -/
def valuePart (expression : String) : List String :=
  lineOf Decimal.text (evaluate expression).outcome

theorem output_calculate (options : Options) (expression : String) :
    (calculate options expression).output =
      tokensPart options expression ++ reversePolishPart options expression ++
        valuePart expression := by
  rw [calculate_eq, Calculation.output, valuePart]
  cases (evaluate expression).outcome <;> rfl

theorem output_runExpression (options : Options) (expression : String) :
    (runExpression options expression).output =
      tokensPart options expression ++ reversePolishPart options expression ++
        valuePart expression := by
  rw [runExpression_eq]
  exact output_calculate options expression

/-- Whether a calculation fails, and why, does not depend on what is shown of it. -/
theorem failure?_calculate (options other : Options) (expression : String) :
    (calculate options expression).failure? = (calculate other expression).failure? := by
  rw [calculate_eq, calculate_eq]
  rfl

/-! ### Lines -/

/-- The tokens of a text are spelled as their kinds demand. -/
theorem isSpelled_of_tokenize {tokens : List Token}
    (scanned : (tokenize expression).outcome = .ok tokens) : ∀ token ∈ tokens, token.IsSpelled := by
  rw [outcome_tokenize] at scanned
  obtain ⟨wellFormed, _⟩ := Scan.run_eq_ok_iff.1 scanned
  exact wellFormed.isSpelled

/-- Conversion brings in no token. -/
theorem isSpelled_of_convert {ordered : List Token}
    (converted : (convert expression).outcome = .ok ordered) :
    ∀ token ∈ ordered, token.IsSpelled := by
  intro token member
  rw [outcome_convert] at converted
  cases scanned : (tokenize expression).outcome with
  | error failure =>
      rw [scanned] at converted
      cases converted
  | ok tokens =>
      rw [scanned] at converted
      have arranged : ShuntingYard.run tokens = .ok ordered :=
        (outcome_arrange tokens).symm.trans converted
      have kept := ShuntingYard.mem_filter_of_mem_run arranged member
      exact isSpelled_of_tokenize scanned token (List.mem_filter.1 kept).1

/-- A line is unbroken if its only white space is spaces. -/
theorem isUnbroken_of_isWhitespace {line : String}
    (spaces : ∀ character ∈ line.toList, character ≠ ' ' → character.isWhitespace = false) :
    Text.Line.IsUnbroken line := by
  constructor
  · intro newline
    cases spaces '\n' newline (by decide)
  · intro carriageReturn
    cases spaces '\r' (List.mem_of_getLast? carriageReturn) (by decide)

theorem isUnbroken_spaced {tokens : List Token} {label : String}
    (plain : label.toList.all (fun character => character == ' ' || !character.isWhitespace) = true)
    (spelled : ∀ token ∈ tokens, token.IsSpelled) :
    Text.Line.IsUnbroken (label ++ Token.spaced tokens) := by
  apply isUnbroken_of_isWhitespace
  intro character member other
  rw [String.toList_append] at member
  rcases List.mem_append.1 member with inLabel | inTokens
  · have allowed := List.all_eq_true.1 plain character inLabel
    simpa [other] using allowed
  · exact Token.isWhitespace_of_mem_spaced spelled inTokens other

theorem isUnbroken_text (value : Float) : Text.Line.IsUnbroken (Decimal.text value) := by
  apply isUnbroken_of_isWhitespace
  intro character member _
  rcases Decimal.mem_text member with digit | among
  · exact Token.isWhitespace_of_isDigit digit
  · simp only [List.mem_cons, List.not_mem_nil, or_false] at among
    rcases among with rfl | rfl | rfl | rfl | rfl | rfl | rfl <;> rfl

/-- What a calculation puts out stands in a stream line by line. -/
theorem isUnbroken_of_mem_runExpression {line : String}
    (member : line ∈ (runExpression options expression).output) : Text.Line.IsUnbroken line := by
  rw [output_runExpression] at member
  rcases List.mem_append.1 member with inShown | inValue
  · rcases List.mem_append.1 inShown with inTokens | inReversePolish
    · unfold tokensPart at inTokens
      split at inTokens
      · obtain ⟨tokens, scanned, rfl⟩ := mem_lineOf inTokens
        exact isUnbroken_spaced rfl (isSpelled_of_tokenize scanned)
      · cases inTokens
    · unfold reversePolishPart at inReversePolish
      split at inReversePolish
      · obtain ⟨ordered, converted, rfl⟩ := mem_lineOf inReversePolish
        exact isUnbroken_spaced rfl (isSpelled_of_convert converted)
      · cases inReversePolish
  · obtain ⟨value, _, rfl⟩ := mem_lineOf inValue
    exact isUnbroken_text value

end Stages

/-! ## Runs -/

/-- What a run is given: an expression among its arguments, or standard input. -/
inductive Input where
  | expression (text : String)
  | stream (bytes : List UInt8)
deriving DecidableEq, Repr

namespace Input

def run (options : Options) : Input → Outcome
  | .expression text => runExpression options text
  | .stream bytes => runStream options bytes

/-- The expressions that a run calculates, in their order. -/
def calculated : Input → List String
  | .expression text => [text]
  | .stream bytes => expressions (textsOf bytes)

theorem output_run (input : Input) (options : Options) :
    (input.run options).output =
      input.calculated.flatMap fun expression => (runExpression options expression).output := by
  cases input with
  | expression text => exact (List.flatMap_singleton ..).symm
  | stream bytes =>
      rw [run, runStream_eq]
      rfl

end Input

/-! ### Failures -/

section Failures

variable (options other : Options)

theorem fails_eq : fails options = fails other := by
  funext expression
  rw [fails_eq_isSome_failure?, fails_eq_isSome_failure?, failure?_calculate options other]

theorem reason_eq : reason options = reason other := by
  funext expression
  rw [reason, failure?_calculate options other]
  rfl

theorem failing_eq : failing options = failing other := by
  funext lines
  rw [failing, fails_eq options other]
  rfl

theorem failureLine_eq : failureLine options = failureLine other := by
  funext line
  rw [failureLine, reason_eq options other]
  rfl

theorem verdict?_eq : verdict? options = verdict? other := by
  funext lines
  rw [verdict?, failing_eq options other]
  rfl

theorem Input.diagnostics_and_exitCode_run (input : Input) :
    (input.run options).diagnostics = (input.run other).diagnostics ∧
      (input.run options).exitCode = (input.run other).exitCode := by
  cases input with
  | expression text =>
      rw [run, run, runExpression_eq, runExpression_eq, fails_eq options other,
        reason_eq options other]
      exact ⟨rfl, rfl⟩
  | stream bytes =>
      rw [run, run, runStream_eq, runStream_eq, failing_eq options other,
        failureLine_eq options other, verdict?_eq options other]
      exact ⟨rfl, rfl⟩

end Failures

/-! ### Lines -/

def startsWith (label line : String) : Bool := label.toList.isPrefixOf line.toList

/-- A line that only an option puts out. -/
def isDisplay (line : String) : Bool := startsWith "tokens: " line || startsWith "postfix: " line

theorem startsWith_append (label rest : String) : startsWith label (label ++ rest) := by
  rw [startsWith, List.isPrefixOf_iff_prefix, String.toList_append]
  exact List.prefix_append _ _

theorem isDisplay_tokensLine (tokens : List Token) : isDisplay (tokensLine tokens) := by
  rw [isDisplay, tokensLine, startsWith_append]
  rfl

theorem isDisplay_reversePolishLine (ordered : List Token) :
    isDisplay (reversePolishLine ordered) := by
  rw [isDisplay, reversePolishLine, startsWith_append, Bool.or_true]

theorem startsWith_postfix_tokensLine (tokens : List Token) :
    startsWith "postfix: " (tokensLine tokens) = false := by
  rw [startsWith, tokensLine, String.toList_append]
  rfl

/-- No value is written with the letters that labels start with. -/
theorem startsWith_text {label : String} {first : Char} {rest : List Char} {value : Float}
    (labelEq : label.toList = first :: rest) (letter : first.isDigit = false)
    (other : first ∉ ['-', '.', 'N', 'a', 'i', 'n', 'f']) :
    startsWith label (Decimal.text value) = false := by
  apply Bool.eq_false_iff.2
  intro starts
  rw [startsWith, List.isPrefixOf_iff_prefix, labelEq] at starts
  rcases Decimal.mem_text (starts.subset List.mem_cons_self) with digit | among
  · rw [letter] at digit
    cases digit
  · exact other among

theorem startsWith_postfix_text (value : Float) :
    startsWith "postfix: " (Decimal.text value) = false :=
  startsWith_text rfl rfl (by decide)

theorem isDisplay_text (value : Float) : isDisplay (Decimal.text value) = false := by
  rw [isDisplay, startsWith_postfix_text, Bool.or_false]
  exact startsWith_text rfl rfl (by decide)

theorem filter_lineOf_of_isDisplay {α : Type} {line : α → String}
    (display : ∀ result, isDisplay (line result)) (outcome : Except Failure α) :
    (lineOf line outcome).filter (!isDisplay ·) = [] := by
  cases outcome with
  | error failure => rfl
  | ok result => simp [display result]

theorem filter_valuePart (expression : String) :
    (valuePart expression).filter (!isDisplay ·) = valuePart expression := by
  apply List.filter_eq_self.2
  intro line member
  obtain ⟨value, _, rfl⟩ := mem_lineOf member
  rw [isDisplay_text]
  rfl

/-- Without the lines that options put out, values are left. -/
theorem filter_output_runExpression (options : Options) (expression : String) :
    (runExpression options expression).output.filter (!isDisplay ·) = valuePart expression := by
  have noTokens : (tokensPart options expression).filter (!isDisplay ·) = [] := by
    unfold tokensPart
    split
    · exact filter_lineOf_of_isDisplay isDisplay_tokensLine _
    · rfl
  have noReversePolish : (reversePolishPart options expression).filter (!isDisplay ·) = [] := by
    unfold reversePolishPart
    split
    · exact filter_lineOf_of_isDisplay isDisplay_reversePolishLine _
    · rfl
  rw [output_runExpression, List.filter_append, List.filter_append, noTokens, noReversePolish,
    filter_valuePart]
  rfl

theorem Input.filter_output_run (input : Input) (options : Options) :
    (input.run options).output.filter (!isDisplay ·) = input.calculated.flatMap valuePart := by
  rw [output_run, List.filter_flatMap]
  exact congrArg input.calculated.flatMap (funext (filter_output_runExpression options))

theorem Input.isUnbroken_of_mem_run {input : Input} {options : Options} {line : String}
    (member : line ∈ (input.run options).output) : Text.Line.IsUnbroken line := by
  rw [output_run] at member
  obtain ⟨expression, _, inExpression⟩ := List.mem_flatMap.1 member
  exact isUnbroken_of_mem_runExpression inExpression

/-! ### Both options -/

/-- In what is shown of an expression, its value stands directly after its reverse Polish form. -/
theorem value_after_reversePolish {expression line : String} {before after : List String}
    (shown : (runExpression ⟨true, true⟩ expression).output = before ++ line :: after)
    (reversePolish : startsWith "postfix: " line) :
    ∃ value, (evaluate expression).outcome = .ok value ∧ after = [Decimal.text value] := by
  rw [output_runExpression] at shown
  unfold tokensPart reversePolishPart valuePart at shown
  cases course expression with
  | refused _ scanned converted evaluated =>
      rw [scanned, converted, evaluated] at shown
      cases before <;> cases shown
  | unbalanced _ scanned converted evaluated =>
      rw [scanned, converted, evaluated] at shown
      cases before with
      | nil =>
          cases shown
          rw [startsWith_postfix_tokensLine] at reversePolish
          cases reversePolish
      | cons first rest => cases rest <;> cases shown
  | valued _ _ _ scanned converted _ evaluated =>
      rw [scanned, converted, evaluated] at shown
      rcases before with _ | ⟨first, _ | ⟨second, _ | ⟨third, rest⟩⟩⟩
      · cases shown
        rw [startsWith_postfix_tokensLine] at reversePolish
        cases reversePolish
      · cases shown
        exact ⟨_, evaluated, rfl⟩
      · cases shown
        rw [startsWith_postfix_text] at reversePolish
        cases reversePolish
      · cases rest <;> cases shown

/-- The expressions that can be brought into reverse Polish order are those with a value.  Those
with tokens and no value have unbalanced parentheses. -/
theorem outcomes_of_stages (expression : String) :
    ((∃ ordered, (convert expression).outcome = .ok ordered) ↔
      ∃ value, (evaluate expression).outcome = .ok value) ∧
    ((∃ tokens, (tokenize expression).outcome = .ok tokens) ∧
        (∀ value, (evaluate expression).outcome ≠ .ok value) ↔
      ∃ imbalance, (evaluate expression).outcome = .error (.unbalanced imbalance)) := by
  cases course expression with
  | @refused failure isLexical scanned converted evaluated =>
      rw [scanned, converted, evaluated]
      cases failure with
      | lexical fault position => simp
      | _ => cases isLexical
  | unbalanced _ scanned converted evaluated =>
      rw [scanned, converted, evaluated]
      simp
  | valued _ _ _ scanned converted _ evaluated =>
      rw [scanned, converted, evaluated]
      simp

/-- A place in what several expressions show is a place in what one of them shows. -/
theorem exists_of_flatMap_eq {α β : Type} {shown : α → List β} {items : List α}
    {before after : List β} {line : β} (split : items.flatMap shown = before ++ line :: after) :
    ∃ item ∈ items, ∃ earlier later others, shown item = earlier ++ line :: later ∧
      after = later ++ others := by
  induction items generalizing before with
  | nil => cases before <;> cases split
  | cons item rest inductionHypothesis =>
      rw [List.flatMap_cons, List.append_eq_append_iff] at split
      rcases split with ⟨below, _, restEq⟩ | ⟨below, itemEq, lineEq⟩
      · obtain ⟨other, member, found⟩ := inductionHypothesis restEq
        exact ⟨other, List.mem_cons_of_mem item member, found⟩
      · cases below with
        | nil =>
            have atFront : rest.flatMap shown = [] ++ line :: after := lineEq.symm
            obtain ⟨other, member, found⟩ := inductionHypothesis atFront
            exact ⟨other, List.mem_cons_of_mem item member, found⟩
        | cons first later =>
            cases lineEq
            exact ⟨item, List.mem_cons_self, before, later, rest.flatMap shown, itemEq, rfl⟩

/-- Options change no result.  With any two settings a run leaves behind the same diagnostics, the
same exit code and, apart from the lines that options put out, the same lines.

With both options an expression is shown by its tokens, its reverse Polish form and its value, as
far as it has them.  Whenever it has a reverse Polish form it has a value, which stands directly
after it; it has tokens but neither of both exactly if its parentheses are unbalanced. -/
theorem options_change_no_result (input : Input) (options other : Options) :
    (input.run options).exitCode = (input.run other).exitCode ∧
    (input.run options).diagnostics = (input.run other).diagnostics ∧
    (input.run options).output.filter (!isDisplay ·) =
      (input.run other).output.filter (!isDisplay ·) ∧
    Text.Line.split (Text.Line.encode (renderLines (input.run options).output)) =
      (input.run options).output.map Text.Line.encode ∧
    ((input.run ⟨true, true⟩).output = input.calculated.flatMap fun expression =>
      lineOf tokensLine (tokenize expression).outcome ++
        lineOf reversePolishLine (convert expression).outcome ++
        lineOf Decimal.text (evaluate expression).outcome) ∧
    (∀ before line after, (input.run ⟨true, true⟩).output = before ++ line :: after →
      startsWith "postfix: " line →
      ∃ expression ∈ input.calculated, ∃ value,
        (evaluate expression).outcome = .ok value ∧ after.head? = some (Decimal.text value)) ∧
    ∀ expression ∈ input.calculated,
      ((∃ ordered, (convert expression).outcome = .ok ordered) ↔
        ∃ value, (evaluate expression).outcome = .ok value) ∧
      ((∃ tokens, (tokenize expression).outcome = .ok tokens) ∧
          (∀ value, (evaluate expression).outcome ≠ .ok value) ↔
        ∃ imbalance, (evaluate expression).outcome = .error (.unbalanced imbalance)) := by
  obtain ⟨diagnostics, exitCode⟩ := Input.diagnostics_and_exitCode_run options other input
  refine ⟨exitCode, diagnostics, ?_, ?_, ?_, ?_, ?_⟩
  · rw [Input.filter_output_run, Input.filter_output_run]
  · exact split_encode_renderLines fun _ => Input.isUnbroken_of_mem_run
  · rw [Input.output_run]
    exact congrArg input.calculated.flatMap (funext (output_runExpression ⟨true, true⟩))
  · intro before line after split reversePolish
    rw [Input.output_run] at split
    obtain ⟨expression, member, earlier, later, others, shown, afterEq⟩ :=
      exists_of_flatMap_eq split
    obtain ⟨value, evaluated, laterEq⟩ := value_after_reversePolish shown reversePolish
    refine ⟨expression, member, value, evaluated, ?_⟩
    rw [afterEq, laterEq]
    rfl
  · intro expression _
    exact outcomes_of_stages expression

/-- Of the two lines here, the first one has tokens only. -/
theorem options_on_unbalanced_line :
    let input : Input := .stream (Text.Line.encode (renderLines ["(1+2", "2*3"]))
    let both := input.run ⟨true, true⟩
    let neither := input.run {}
    both.output = ["tokens: ( 1 + 2", "tokens: 2 * 3", "postfix: 2 3 *", "6"] ∧
      both.output.filter (!isDisplay ·) = neither.output.filter (!isDisplay ·) ∧
      both.diagnostics = neither.diagnostics ∧ both.exitCode = neither.exitCode ∧
      (∃ expression ∈ input.calculated, ∃ value,
        (evaluate expression).outcome = .ok value ∧ some "6" = some (Decimal.text value)) ∧
      ∃ imbalance, (evaluate "(1+2").outcome = .error (.unbalanced imbalance) := by
  intro input both neither
  have output : both.output = ["tokens: ( 1 + 2", "tokens: 2 * 3"] ++ "postfix: 2 3 *" :: ["6"] := by
    decide +kernel
  have calculated : "(1+2" ∈ input.calculated := by
    decide +kernel
  have noValue (value : Float) : (evaluate "(1+2").outcome ≠ .ok value := nofun
  obtain ⟨exitCode, diagnostics, others, _, _, valueAfter, stages⟩ :=
    options_change_no_result input ⟨true, true⟩ {}
  exact ⟨output, others, diagnostics, exitCode, valueAfter _ _ _ output rfl,
    (stages "(1+2" calculated).2.1 ⟨⟨_, rfl⟩, noValue⟩⟩

end Reckon.CommandLine
