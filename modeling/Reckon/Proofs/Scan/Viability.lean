import Mathlib.Data.List.Induction
import Reckon.Proofs.Scan.Tokenization
import Reckon.Scan.Viable

/-!
Contract: a scan fails where a text can no longer become an expression, and its message is true.

Owns:
- that every scan under way can be completed, so that the viable texts are those that a scan takes
  in;
- what the position of a failure says about the text;
- the characters that a message allows, against the symbols that the automaton tells apart;
- that a rejection lists the symbols that its phase has a transition on, and no others;
- what the last character of a text says about the message for a text that is too short.

Does not own: the tokens of a text that is accepted.

The table of the automaton and the words of its messages meet in `exists_allowances` only.  That the
table speaks for all texts that go on from a phase is viability.
-/

set_option autoImplicit false

namespace Reckon

/-! ## Positions -/

/-- A digit completes a text that may not end where it does. -/
theorem Phase.exists_next_digit {phase : Phase} (notFinal : phase.isFinal = false) :
    ∃ target, phase.next .digit = some target ∧ target.isFinal := by
  revert notFinal
  cases phase <;> decide

namespace Scan

theorem exists_finish {scan : Scan} (final : scan.phase.isFinal) :
    ∃ tokens, scan.finish = .ok tokens :=
  ⟨_, finish_eq_ok_iff.2 ⟨final, rfl⟩⟩

/-- A scan that may not end yet may end after one more digit. -/
theorem exists_run_append_digit {taken : List Char} {scan : Scan}
    (ran : taken.foldlM step start = .ok scan) (notFinal : scan.phase.isFinal = false) :
    ∃ tokens, run (taken ++ ['0']) = .ok tokens := by
  obtain ⟨target, moves, final⟩ := Phase.exists_next_digit notFinal
  have digit : Symbol.ofChar '0' = .digit := rfl
  rw [← digit] at moves
  rw [run_append_of_ok ran, Run.foldlM_singleton (step_eq_ok_iff.2 ⟨target, moves, rfl⟩)]
  exact exists_finish final

theorem exists_run_append {taken : List Char} {scan : Scan}
    (ran : taken.foldlM step start = .ok scan) : ∃ rest tokens, run (taken ++ rest) = .ok tokens := by
  by_cases final : scan.phase.isFinal
  · refine ⟨[], ?_⟩
    rw [run_append_of_ok ran]
    exact exists_finish final
  · exact ⟨['0'], exists_run_append_digit ran (Bool.eq_false_iff.2 final)⟩

end Scan

/-- The viable texts are those whose characters are all taken in by a scan. -/
theorem viable_iff {text : String} :
    Viable text ↔ ∃ scan, text.toList.foldlM Scan.step .start = .ok scan := by
  constructor
  · intro ⟨rest, tokens, scanned⟩
    rw [outcome_tokenize, String.toList_append] at scanned
    cases ran : text.toList.foldlM Scan.step .start with
    | ok scan => exact ⟨scan, rfl⟩
    | error failure =>
        unfold Scan.run at scanned
        rw [List.foldlM_append, ran] at scanned
        cases scanned
  · intro ⟨scan, ran⟩
    obtain ⟨rest, tokens, completed⟩ := Scan.exists_run_append ran
    refine ⟨String.ofList rest, tokens, ?_⟩
    rw [outcome_tokenize, String.toList_append, String.toList_ofList]
    exact completed

theorem viable_ofList_of_foldlM {characters : List Char} {scan : Scan}
    (ran : characters.foldlM Scan.step .start = .ok scan) : Viable (String.ofList characters) := by
  apply viable_iff.2
  rw [String.toList_ofList]
  exact ⟨scan, ran⟩

/-- A text fails at the end of the longest part at its front that is viable.  If a character stands
there, it makes every text that goes on with it fail in the same way, whatever follows.  If none
does, the text itself is viable, and too short. -/
theorem tokenize_fails_behind_viable_front (text : String) (fault : LexicalFault) (position : Nat)
    (failed : (tokenize text).outcome = .error (.lexical fault position)) :
    position ≤ text.length ∧ Viable (Text.front position text) ∧
    (position < text.length → ∀ rest,
      (tokenize (Text.front (position + 1) text ++ rest)).outcome =
        .error (.lexical fault position)) ∧
    (position = text.length →
      ∃ rest, rest ≠ "" ∧ ∃ tokens, (tokenize (text ++ rest)).outcome = .ok tokens) := by
  rw [← String.length_toList]
  unfold Text.front
  cases givesUp_of_tokenize failed with
  | @refused taken rest character scan split ran stuck =>
      have inside : taken.length < text.toList.length := by
        simp [split]
      refine ⟨Nat.le_of_lt inside, ?_, ?_, ?_⟩
      · rw [split, List.take_left]
        exact viable_ofList_of_foldlM ran
      · intro _ other
        have front : text.toList.take (taken.length + 1) = taken ++ [character] := by
          rw [split, List.append_cons]
          exact List.take_left' List.length_append
        rw [front, outcome_tokenize, String.toList_append, String.toList_ofList, List.append_assoc]
        exact Scan.run_eq_error_iff.2 ⟨_, _, rfl, .refused rfl ran stuck⟩
      · intro atEnd
        exact absurd atEnd (Nat.ne_of_lt inside)
  | @ended scan ran notFinal =>
      refine ⟨Nat.le_refl _, ?_, ?_, ?_⟩
      · rw [List.take_length]
        exact viable_ofList_of_foldlM ran
      · intro inside
        exact absurd inside (Nat.lt_irrefl _)
      · intro _
        obtain ⟨tokens, completed⟩ := Scan.exists_run_append_digit ran notFinal
        refine ⟨"0", by decide, tokens, ?_⟩
        rw [outcome_tokenize, String.toList_append]
        exact completed

/-- In `1+a*2` the part `1+` is viable and `1+a` is not.  All of `(1.` is viable, and too short. -/
theorem tokenize_fails_behind_operator_and_point :
    (tokenize "1+a*2").outcome = .error (.lexical (.refused .afterOperator) 2) ∧ Viable "1+" ∧
      (∀ rest, (tokenize ("1+a" ++ rest)).outcome =
        .error (.lexical (.refused .afterOperator) 2)) ∧
      (tokenize "(1.").outcome = .error (.lexical (.endedIn .afterPoint) 3) ∧
      ∃ rest, rest ≠ "" ∧ ∃ tokens, (tokenize ("(1." ++ rest)).outcome = .ok tokens := by
  have refused : (tokenize "1+a*2").outcome = .error (.lexical (.refused .afterOperator) 2) := rfl
  have ended : (tokenize "(1.").outcome = .error (.lexical (.endedIn .afterPoint) 3) := rfl
  obtain ⟨_, viable, same, _⟩ := tokenize_fails_behind_viable_front "1+a*2" _ _ refused
  obtain ⟨_, _, _, completed⟩ := tokenize_fails_behind_viable_front "(1." _ _ ended
  exact ⟨refused, viable, same (by decide), ended, completed rfl⟩

/-! ## Messages -/

/-! ### Allowances and symbols -/

namespace Allowance

/-- The symbols that a class of character consists of. -/
def accepts : Allowance → Symbol → Bool
  | .digit, symbol => symbol == .digit
  | .point, symbol => symbol == .point
  | .leftParenthesis, symbol => symbol == .leftParenthesis
  | .rightParenthesis, symbol => symbol == .rightParenthesis
  | .unaryMinus, symbol => symbol == .operator .subtract
  | .operator, .operator _ => true
  | .operator, _ => false

theorem covers_operator_symbol (operator : Operator) : covers .operator operator.symbol := by
  cases operator <;> decide

theorem accepts_of_covers_operator {character : Char} (covered : covers .operator character) :
    accepts .operator (.ofChar character) := by
  simp only [covers, List.contains_eq_mem, List.mem_cons, List.not_mem_nil, or_false,
    decide_eq_true_eq] at covered
  rcases covered with rfl | rfl | rfl | rfl | rfl <;> rfl

theorem covers_of_accepts_operator {character : Char}
    (accepted : accepts .operator (.ofChar character)) : covers .operator character := by
  generalize symbolEq : Symbol.ofChar character = symbol at accepted
  cases symbol with
  | operator operator =>
      rw [Symbol.eq_of_ofChar_eq_operator symbolEq]
      exact covers_operator_symbol operator
  | _ => cases accepted

/-- Whether a character is covered depends on its symbol only. -/
theorem covers_iff_accepts (allowance : Allowance) (character : Char) :
    allowance.covers character ↔ allowance.accepts (.ofChar character) := by
  cases allowance with
  | digit => simp only [covers, accepts, beq_iff_eq, Symbol.ofChar_eq_digit]
  | point =>
      simp only [covers, accepts, beq_iff_eq]
      exact ⟨by rintro rfl; rfl, Symbol.eq_of_ofChar_eq_point⟩
  | leftParenthesis =>
      simp only [covers, accepts, beq_iff_eq]
      exact ⟨by rintro rfl; rfl, Symbol.eq_of_ofChar_eq_leftParenthesis⟩
  | rightParenthesis =>
      simp only [covers, accepts, beq_iff_eq]
      exact ⟨by rintro rfl; rfl, Symbol.eq_of_ofChar_eq_rightParenthesis⟩
  | unaryMinus =>
      simp only [covers, accepts, beq_iff_eq]
      exact ⟨by rintro rfl; rfl, Symbol.eq_of_ofChar_eq_operator⟩
  | operator => exact ⟨accepts_of_covers_operator, covers_of_accepts_operator⟩

/-- A rejection names the symbols that its phase goes on with. -/
theorem exists_allowances (phase : Phase) :
    ∃ allowances, ofMessage? phase.rejection = some allowances ∧
      ∀ symbol, (phase.next symbol).isSome = allowances.any (·.accepts symbol) := by
  cases phase <;> refine ⟨_, (ofMessage?_ofList _).trans rfl, ?_⟩
  all_goals
    intro symbol
    cases symbol with
    | operator operator => cases operator <;> rfl
    | _ => rfl

end Allowance

/-- One more character keeps a text viable if the phase behind it goes on with the character. -/
theorem viable_push_iff {taken : List Char} {scan : Scan}
    (ran : taken.foldlM Scan.step .start = .ok scan) (character : Char) :
    Viable ((String.ofList taken).push character) ↔
      (scan.phase.next (.ofChar character)).isSome := by
  rw [viable_iff, String.toList_push, String.toList_ofList, Option.isSome_iff_exists]
  constructor
  · intro ⟨next, ranNext⟩
    obtain ⟨middle, ranMiddle, stepped⟩ := Run.foldlM_concat_eq_ok_iff.1 ranNext
    cases ran.symm.trans ranMiddle
    obtain ⟨target, moves, _⟩ := Scan.step_eq_ok_iff.1 stepped
    exact ⟨target, moves⟩
  · intro ⟨target, moves⟩
    have stepped := Scan.step_eq_ok_iff.2 ⟨target, moves, rfl⟩
    exact ⟨_, Run.foldlM_concat_eq_ok_iff.2 ⟨scan, ran, stepped⟩⟩

/-! ### Texts that are too short -/

/-- The last move of a text that may not end tells why. -/
theorem Phase.Move.prematureEnd_eq {phase target : Phase} {symbol : Symbol}
    (move : Move phase symbol target) (notFinal : target.isFinal = false) :
    (symbol = .point ∧ target.prematureEnd = "after a point there can only be a digit") ∨
    ((symbol = .leftParenthesis ∨ ∃ operator, symbol = .operator operator) ∧
      target.prematureEnd = "expression should end only on a digit or a right parenthesis") := by
  cases move with
  | opened awaits => exact .inr ⟨.inl rfl, rfl⟩
  | negated => exact .inr ⟨.inr ⟨_, rfl⟩, rfl⟩
  | pointed => exact .inl ⟨rfl, rfl⟩
  | operated final operator => exact .inr ⟨.inr ⟨operator, rfl⟩, rfl⟩
  | _ => cases notFinal

/-- The characters that call for another one behind them, apart from a point. -/
def continuing : List Char := ['(', '+', '-', '*', '/', '^']

theorem mem_continuing {character : Char}
    (symbol : Symbol.ofChar character = .leftParenthesis ∨
      ∃ operator, Symbol.ofChar character = .operator operator) : character ∈ continuing := by
  rcases symbol with parenthesis | ⟨operator, isOperator⟩
  · rw [Symbol.eq_of_ofChar_eq_leftParenthesis parenthesis]
    decide
  · rw [Symbol.eq_of_ofChar_eq_operator isOperator]
    cases operator <;> decide

/-- A text that is too short is empty, or ends in a point, or in another character that calls for one
behind it, and the message tells these cases apart. -/
theorem Scan.prematureEnd_eq {characters : List Char} {scan : Scan}
    (ran : characters.foldlM step start = .ok scan) (notFinal : scan.phase.isFinal = false) :
    (characters = [] ∧ scan.phase.prematureEnd = "expression is empty") ∨
    (characters.getLast? = some '.' ∧
      scan.phase.prematureEnd = "after a point there can only be a digit") ∨
    ((∃ last ∈ continuing, characters.getLast? = some last) ∧
      scan.phase.prematureEnd = "expression should end only on a digit or a right parenthesis") := by
  cases characters using List.reverseRecOn with
  | nil =>
      cases ran
      exact .inl ⟨rfl, rfl⟩
  | append_singleton front last =>
      obtain ⟨middle, _, stepped⟩ := Run.foldlM_concat_eq_ok_iff.1 ran
      obtain ⟨target, moves, rfl⟩ := step_eq_ok_iff.1 stepped
      rw [List.getLast?_concat]
      rcases (Phase.next_eq_some_iff.1 moves).prematureEnd_eq notFinal with
        ⟨point, message⟩ | ⟨symbol, message⟩
      · rw [Symbol.eq_of_ofChar_eq_point point]
        exact .inr (.inl ⟨rfl, message⟩)
      · exact .inr (.inr ⟨⟨last, mem_continuing symbol, rfl⟩, message⟩)

/-- A message tells the truth about the text that it is given for.  At a character, it lists exactly
the characters with which the front of the text, up to there, stays viable.  At the end, it tells
empty texts, texts that end in a point, and texts that end in another character that calls for one
behind it apart. -/
theorem rejection_message_is_exact (text : String) (fault : LexicalFault) (position : Nat)
    (failed : (tokenize text).outcome = .error (.lexical fault position)) :
    (position < text.length →
      ∃ allowances, Allowance.ofMessage? fault.message = some allowances ∧
        ∀ character, Viable ((Text.front position text).push character) ↔
          ∃ allowance ∈ allowances, allowance.covers character) ∧
    (position = text.length →
      (fault.message = "expression is empty" ↔ text = "") ∧
      (fault.message = "after a point there can only be a digit" ↔
        text.toList.getLast? = some '.') ∧
      (fault.message = "expression should end only on a digit or a right parenthesis" ↔
        ∃ last ∈ ['(', '+', '-', '*', '/', '^'], text.toList.getLast? = some last)) := by
  rw [← String.length_toList]
  unfold Text.front
  cases givesUp_of_tokenize failed with
  | @refused taken rest character scan split ran stuck =>
      have inside : taken.length < text.toList.length := by
        simp [split]
      refine ⟨?_, fun atEnd => absurd atEnd (Nat.ne_of_lt inside)⟩
      intro _
      obtain ⟨allowances, read, complete⟩ := Allowance.exists_allowances scan.phase
      refine ⟨allowances, read, ?_⟩
      intro other
      rw [split, List.take_left, viable_push_iff ran, complete, List.any_eq_true]
      simp only [Allowance.covers_iff_accepts]
  | @ended scan ran notFinal =>
      refine ⟨fun inside => absurd inside (Nat.lt_irrefl _), ?_⟩
      intro _
      rw [← String.toList_eq_nil_iff, LexicalFault.message]
      rcases Scan.prematureEnd_eq ran notFinal with
        ⟨empty, message⟩ | ⟨point, message⟩ | ⟨⟨last, member, lastEq⟩, message⟩
      · simp [empty, message]
      · have nonempty : text.toList ≠ [] := List.getLast?_isSome.1 (point ▸ rfl)
        simp [point, nonempty, message]
      · have nonempty : text.toList ≠ [] := List.getLast?_isSome.1 (lastEq ▸ rfl)
        have noPoint : last ≠ '.' := by
          rintro rfl
          revert member
          decide
        refine ⟨?_, ?_, iff_of_true message ⟨last, member, lastEq⟩⟩
        · simp [nonempty, message]
        · simp [lastEq, noPoint, message]

/-- Behind `1.5` the message allows a digit, an operator and a right parenthesis, so that `1.5+` is
viable and `1.5.` is not.  The texts `2-` and `2.` are too short for different reasons. -/
theorem rejection_message_of_second_point :
    (tokenize "1.5.2").outcome = .error (.lexical (.refused .inFraction) 3) ∧
      Viable "1.5+" ∧ ¬Viable "1.5." ∧
      (tokenize "2-").outcome = .error (.lexical (.endedIn .afterOperator) 2) ∧
      (LexicalFault.endedIn .afterOperator).message =
        "expression should end only on a digit or a right parenthesis" ∧
      (tokenize "2.").outcome = .error (.lexical (.endedIn .afterPoint) 2) ∧
      (LexicalFault.endedIn .afterPoint).message = "after a point there can only be a digit" := by
  have refused : (tokenize "1.5.2").outcome = .error (.lexical (.refused .inFraction) 3) := rfl
  have minus : (tokenize "2-").outcome = .error (.lexical (.endedIn .afterOperator) 2) := rfl
  have point : (tokenize "2.").outcome = .error (.lexical (.endedIn .afterPoint) 2) := rfl
  obtain ⟨allowed, _⟩ := rejection_message_is_exact "1.5.2" _ _ refused
  obtain ⟨allowances, read, exact⟩ := allowed (by decide)
  obtain ⟨_, atMinus⟩ := rejection_message_is_exact "2-" _ _ minus
  obtain ⟨_, atPoint⟩ := rejection_message_is_exact "2." _ _ point
  have listed : allowances = [.digit, .operator, .rightParenthesis] :=
    Option.some.inj (read.symm.trans ((Allowance.ofMessage?_ofList _).trans rfl))
  rw [listed] at exact
  refine ⟨refused, (exact '+').2 (by decide), ?_, minus, (atMinus rfl).2.2.2 ⟨'-', by decide, rfl⟩,
    point, (atPoint rfl).2.1.2 rfl⟩
  intro viable
  exact absurd ((exact '.').1 viable) (by decide)

end Reckon
