import Reckon.Calculator
import Reckon.Proofs.Scan.Coherence

/-!
Contract: scanning is the inverse of writing lexemes one after the other, and fails otherwise.

Owns:
- the scan of a single token from a phase in which it may come, and of a whole stretch of tokens;
- the texts and the token lists that correspond to each other;
- the two ways in which a scan gives up, with the fault and the position of each, and that it fails
  in no other.

Does not own: what a failure says about the texts that begin in the same way.

The two halves of the correspondence are proved apart.  That a scan yields a well-formed list with
the right characters is coherence.  That it yields every such list is the run that `Completed`
describes, token by token.
-/

set_option autoImplicit false

namespace Reckon

/-! ## Success -/

/-- The phase after a complete token of a kind.  A number may still go on. -/
def Phase.after : Option Token.Kind → Phase
  | none => .start
  | some .leftParenthesis => .afterLeftParenthesis
  | some .rightParenthesis => .afterRightParenthesis
  | some .unaryMinus => .afterUnaryMinus
  | some .operator => .afterOperator
  | some .integer => .inDigits
  | some .floatingPoint => .inFraction

namespace Phase

theorem awaitsOperand_after {previous : Option Token.Kind}
    (follows : Token.Kind.mayFollow previous .leftParenthesis) :
    (after previous).awaitsOperand := by
  rcases previous with _ | kind
  · rfl
  · cases kind <;> first | rfl | cases follows

theorem awaitsNumber_after {previous : Option Token.Kind}
    (follows : Token.Kind.mayFollow previous .integer) :
    (after previous).awaitsOperand ∨ after previous = .afterUnaryMinus := by
  rcases previous with _ | kind
  · exact .inl rfl
  · cases kind <;> first | exact .inl rfl | exact .inr rfl | cases follows

theorem after_eq_afterLeftParenthesis {previous : Option Token.Kind}
    (follows : Token.Kind.mayFollow previous .unaryMinus) :
    after previous = .afterLeftParenthesis := by
  rcases previous with _ | kind
  · cases follows
  · cases kind <;> first | rfl | cases follows

theorem isFinal_after {kind : Token.Kind} : (after (some kind)).isFinal = kind.mayEnd := by
  cases kind <;> rfl

theorem isFinal_of_mayFollow {previous : Option Token.Kind}
    (follows : Token.Kind.mayFollow previous .rightParenthesis ∨
      Token.Kind.mayFollow previous .operator) : (after previous).isFinal := by
  rcases previous with _ | kind
  · rcases follows with follows | follows <;> cases follows
  · cases kind <;> first | rfl | (rcases follows with follows | follows <;> cases follows)

end Phase

namespace Scan

theorem step_of_move {scan : Scan} {target : Phase} {character : Char}
    (move : scan.phase.Move (.ofChar character) target) :
    scan.step character = .ok
      { scan.collect character target with phase := target, position := scan.position + 1 } :=
  step_eq_ok_iff.2 ⟨target, Phase.next_eq_some_iff.2 move, rfl⟩

/-- Digits go on in a number that has begun, before its point or after it. -/
theorem foldlM_step_digits {scan : Scan} {digits : List Char}
    (inNumber : scan.phase = .inDigits ∨ scan.phase = .inFraction)
    (isDigit : ∀ digit ∈ digits, digit.isDigit) :
    digits.foldlM step scan = .ok
      { scan with
        number := scan.number ++ String.ofList digits
        position := scan.position + digits.length } := by
  induction digits generalizing scan with
  | nil => simp [pure, Except.pure]
  | cons digit rest inductionHypothesis =>
      have symbolEq := Symbol.ofChar_eq_digit.2 (isDigit digit (by simp))
      have stepped : scan.step digit = .ok
          { scan with number := scan.number.push digit, position := scan.position + 1 } := by
        rcases inNumber with phase | phase
        · have move : scan.phase.Move (.ofChar digit) .inDigits := by
            rw [phase, symbolEq]
            exact .continued
          rw [step_of_move move]
          simp [collect, append, phase]
        · have move : scan.phase.Move (.ofChar digit) .inFraction := by
            rw [phase, symbolEq]
            exact .fractionContinued
          rw [step_of_move move]
          simp [collect, append, phase]
      rw [Run.foldlM_cons_of_ok stepped]
      refine (inductionHypothesis ?_ fun digit member => isDigit digit (by simp [member])).trans ?_
      · exact inNumber
      · have position : scan.position + 1 + rest.length = scan.position + (rest.length + 1) := by
          omega
        simp only [String.push_eq_append, String.append_assoc, ← String.ofList_cons,
          List.length_cons, position]

/-- A scan has completed tokens, the last of them of a given kind, except that a number at the end
may go on. -/
structure Completed (scan : Scan) (previous : Option Token.Kind) (tokens : List Token) : Prop where
  phase : scan.phase = .after previous
  number : scan.phase.NumberFits scan.number.toList scan.numberKind
  tokens : scan.flush.tokens.toList = tokens

theorem completed_start : start.Completed none [] :=
  ⟨rfl, rfl, rfl⟩

theorem Completed.tokens_eq {scan : Scan} {previous : Option Token.Kind} {tokens : List Token}
    (completed : scan.Completed previous tokens)
    (awaits : scan.phase.awaitsOperand ∨ scan.phase = .afterUnaryMinus) :
    scan.number.toList = [] ∧ scan.tokens.toList = tokens := by
  have empty := completed.number.eq_nil awaits
  refine ⟨empty, ?_⟩
  rw [← flush_of_number_eq_nil empty]
  exact completed.tokens

/-- A token that is complete with its one character. -/
theorem completed_emit {scan : Scan} {token : Token} {target : Phase}
    {tokens : List Token} {position : Nat} (kind : target = .after (some token.kind))
    (complete : target.NumberFits [] scan.numberKind) (empty : scan.number.toList = [])
    (held : scan.tokens.toList = tokens) :
    Completed { scan.emit token with phase := target, position := position } (some token.kind)
      (tokens ++ [token]) := by
  refine ⟨kind, ?_, ?_⟩
  · simpa [empty] using complete
  · rw [flush_of_number_eq_nil (by simpa using empty)]
    simp [held]

/-- A number that stands after complete tokens. -/
theorem completed_number {scan : Scan} {token : Token} {tokens : List Token}
    (phase : scan.phase = .after (some token.kind))
    (spelled : scan.phase.NumberFits token.lexeme.toList token.kind)
    (nonempty : token.lexeme.toList ≠ [])
    (lexeme : scan.number = token.lexeme) (kind : scan.numberKind = token.kind)
    (held : scan.tokens.toList = tokens) :
    scan.Completed (some token.kind) (tokens ++ [token]) := by
  refine ⟨phase, ?_, ?_⟩
  · rw [lexeme, kind]
    exact spelled
  · rw [flush_of_number_ne_nil (lexeme ▸ nonempty)]
    simp [lexeme, kind, held]

/-- The digits that begin a number are taken in from every phase in which a number may come. -/
theorem foldlM_step_integer {scan : Scan} {digits : List Char} (isDigits : IsDigits digits)
    (awaits : scan.phase.awaitsOperand ∨ scan.phase = .afterUnaryMinus)
    (empty : scan.number.toList = []) :
    ∃ next, digits.foldlM step scan = .ok next ∧ next.phase = .inDigits ∧
      next.number.toList = digits ∧ next.numberKind = .integer ∧ next.tokens = scan.tokens := by
  obtain ⟨nonempty, isDigit⟩ := isDigits
  cases digits with
  | nil => exact absurd rfl nonempty
  | cons digit rest =>
      have symbolEq := Symbol.ofChar_eq_digit.2 (isDigit digit (by simp))
      have move : scan.phase.Move (.ofChar digit) .inDigits := by
        rw [symbolEq]
        exact .begun awaits
      rw [Run.foldlM_cons_of_ok (step_of_move move), collect_begun awaits,
        foldlM_step_digits (.inl rfl) fun digit member => isDigit digit (by simp [member])]
      refine ⟨_, rfl, rfl, ?_, rfl, rfl⟩
      simp [empty]

/-- The rest of a number with a point is taken in after its first digits. -/
theorem foldlM_step_fraction {scan : Scan} {fraction : List Char} (isDigits : IsDigits fraction)
    (phase : scan.phase = .inDigits) :
    ∃ next, ('.' :: fraction).foldlM step scan = .ok next ∧ next.phase = .inFraction ∧
      next.number.toList = scan.number.toList ++ '.' :: fraction ∧
      next.numberKind = .floatingPoint ∧ next.tokens = scan.tokens := by
  obtain ⟨nonempty, isDigit⟩ := isDigits
  cases fraction with
  | nil => exact absurd rfl nonempty
  | cons digit rest =>
      have symbolEq := Symbol.ofChar_eq_digit.2 (isDigit digit (by simp))
      have pointMove : scan.phase.Move (.ofChar '.') .afterPoint := by
        rw [phase]
        exact .pointed
      have digitMove : Phase.Move .afterPoint (.ofChar digit) .inFraction := by
        rw [symbolEq]
        exact .fractionBegun
      rw [Run.foldlM_cons_of_ok (step_of_move pointMove),
        Run.foldlM_cons_of_ok (step_of_move digitMove),
        foldlM_step_digits (.inr rfl) fun digit member => isDigit digit (by simp [member])]
      refine ⟨_, rfl, rfl, ?_, rfl, rfl⟩
      simp [collect]

/-- A token is taken in wherever its kind may stand. -/
theorem Completed.token {scan : Scan} {previous : Option Token.Kind} {tokens : List Token}
    {token : Token} (completed : scan.Completed previous tokens)
    (follows : Token.Kind.mayFollow previous token.kind) (spelled : token.IsSpelled) :
    ∃ next, token.lexeme.toList.foldlM step scan = .ok next ∧
      next.Completed (some token.kind) (tokens ++ [token]) := by
  have phase := completed.phase
  obtain ⟨lexeme, kind⟩ := token
  cases kind with
  | integer =>
      have awaits := phase ▸ Phase.awaitsNumber_after follows
      obtain ⟨empty, held⟩ := completed.tokens_eq awaits
      obtain ⟨next, ran, nextPhase, number, numberKind, nextTokens⟩ :=
        foldlM_step_integer spelled awaits empty
      refine ⟨next, ran, completed_number nextPhase ?_ spelled.1 (String.toList_injective number)
        numberKind (nextTokens ▸ held)⟩
      rw [nextPhase]
      exact ⟨spelled, rfl⟩
  | floatingPoint =>
      rw [Token.Kind.mayFollow_floatingPoint] at follows
      have awaits := phase ▸ Phase.awaitsNumber_after follows
      obtain ⟨empty, held⟩ := completed.tokens_eq awaits
      obtain ⟨whole, fraction, wholeDigits, fractionDigits, lexemeEq⟩ := spelled
      obtain ⟨middle, ranWhole, middlePhase, middleNumber, _, middleTokens⟩ :=
        foldlM_step_integer wholeDigits awaits empty
      obtain ⟨next, ranFraction, nextPhase, number, numberKind, nextTokens⟩ :=
        foldlM_step_fraction fractionDigits middlePhase
      rw [middleNumber, ← lexemeEq] at number
      refine ⟨next, ?_, completed_number nextPhase ?_ ?_ (String.toList_injective number)
        numberKind (nextTokens ▸ middleTokens ▸ held)⟩
      · rw [lexemeEq, Run.foldlM_append_of_ok ranWhole]
        exact ranFraction
      · rw [nextPhase]
        exact ⟨⟨whole, fraction, wholeDigits, fractionDigits, lexemeEq⟩, rfl⟩
      · simp [lexemeEq]
  | leftParenthesis =>
      cases spelled
      have awaits := phase ▸ Phase.awaitsOperand_after follows
      obtain ⟨empty, held⟩ := completed.tokens_eq (.inl awaits)
      have move : scan.phase.Move (.ofChar '(') .afterLeftParenthesis := .opened awaits
      exact ⟨_, Run.foldlM_singleton (step_of_move move),
        completed_emit rfl rfl empty held⟩
  | unaryMinus =>
      cases spelled
      rw [Phase.after_eq_afterLeftParenthesis follows] at phase
      obtain ⟨empty, held⟩ := completed.tokens_eq (.inl (phase ▸ rfl))
      have move : scan.phase.Move (.ofChar '-') .afterUnaryMinus := by
        rw [phase]
        exact .negated
      exact ⟨_, Run.foldlM_singleton (step_of_move move),
        completed_emit rfl rfl empty held⟩
  | rightParenthesis =>
      cases spelled
      have final := phase ▸ Phase.isFinal_of_mayFollow (.inl follows)
      have move : scan.phase.Move (.ofChar ')') .afterRightParenthesis := .closed final
      exact ⟨_, Run.foldlM_singleton (step_of_move move),
        completed_emit rfl rfl (by simp) completed.tokens⟩
  | operator =>
      obtain ⟨operator, tokenEq⟩ := spelled
      cases tokenEq
      have final := phase ▸ Phase.isFinal_of_mayFollow (.inr follows)
      have move : scan.phase.Move (.ofChar operator.symbol) .afterOperator := by
        rw [Symbol.ofChar_symbol]
        exact .operated final operator
      have ran := Run.foldlM_singleton (step_of_move move)
      rw [← Token.toList_lexeme_operator] at ran
      exact ⟨_, ran, completed_emit rfl rfl (by simp) completed.tokens⟩

/-- A stretch of tokens is taken in wherever it may stand. -/
theorem Completed.leads {scan : Scan} {previous last : Option Token.Kind}
    {done tokens : List Token} (completed : scan.Completed previous done)
    (leads : Token.Leads previous tokens last) :
    ∃ final, (Token.characters tokens).foldlM step scan = .ok final ∧
      final.Completed last (done ++ tokens) := by
  induction tokens generalizing scan previous done with
  | nil =>
      cases leads
      exact ⟨scan, rfl, (List.append_nil done).symm ▸ completed⟩
  | cons token rest inductionHypothesis =>
      obtain ⟨follows, spelled, restLeads⟩ := leads
      obtain ⟨next, ranToken, nextCompleted⟩ := completed.token follows spelled
      obtain ⟨final, ranRest, finalCompleted⟩ := inductionHypothesis nextCompleted restLeads
      refine ⟨final, ?_, ?_⟩
      · rw [Token.characters_cons, Run.foldlM_append_of_ok ranToken]
        exact ranRest
      · rw [List.append_assoc] at finalCompleted
        exact finalCompleted

theorem finish_eq_ok_iff {scan : Scan} {tokens : List Token} :
    scan.finish = .ok tokens ↔ scan.phase.isFinal ∧ scan.flush.tokens.toList = tokens := by
  unfold finish
  split
  · next final => simp [final]
  · next notFinal => simp [notFinal]

/-- A scan succeeds exactly on the characters of a well-formed list, and yields this list. -/
theorem run_eq_ok_iff {characters : List Char} {tokens : List Token} :
    run characters = .ok tokens ↔
      Token.WellFormed tokens ∧ Token.characters tokens = characters := by
  constructor
  · intro ran
    unfold run at ran
    cases scanned : characters.foldlM step start with
    | error failure =>
        rw [scanned] at ran
        cases ran
    | ok scan =>
        rw [scanned] at ran
        obtain ⟨final, tokensEq⟩ := finish_eq_ok_iff.1 ran
        have flushed := (coherent_start.foldlM scanned).flush final
        rw [tokensEq] at flushed
        exact ⟨Token.wellFormed_iff.2 flushed.1, flushed.2⟩
  · rintro ⟨wellFormed, rfl⟩
    obtain ⟨kind, leads, ends⟩ := Token.wellFormed_iff.1 wellFormed
    obtain ⟨scan, scanned, completed⟩ := completed_start.leads leads
    unfold run
    rw [scanned]
    refine finish_eq_ok_iff.2 ⟨?_, completed.tokens⟩
    rw [completed.phase, Phase.isFinal_after]
    exact ends

end Scan

@[simp]
theorem outcome_tokenize (text : String) : (tokenize text).outcome = Scan.run text.toList := by
  unfold tokenize Scan.run
  rw [Report.outcome_announce, Report.outcome_bind, Report.outcome_foldlM]
  simp only [Scan.outcome_advance, Report.outcome_ofExcept]

/-- Scanning is a bijection between the texts it accepts and the well-formed token lists.  Its
inverse writes the lexemes one after the other. -/
theorem tokenize_eq_ok_iff (text : String) (tokens : List Token) :
    (tokenize text).outcome = .ok tokens ↔
      Token.WellFormed tokens ∧ String.join (tokens.map Token.lexeme) = text := by
  rw [outcome_tokenize, Scan.run_eq_ok_iff, ← Token.toList_join_lexemes, String.toList_inj]

/-! ## Failure -/

namespace Scan

/-- A scan gives up on a character that its phase refuses, or at the end of the text if it may not
end there. -/
inductive GivesUp (characters : List Char) : LexicalFault → Nat → Prop where
  | refused {taken rest : List Char} {character : Char} {scan : Scan}
      (split : characters = taken ++ character :: rest) (ran : taken.foldlM step start = .ok scan)
      (stuck : scan.phase.next (.ofChar character) = none) :
      GivesUp characters (.refused scan.phase) taken.length
  | ended {scan : Scan} (ran : characters.foldlM step start = .ok scan)
      (notFinal : scan.phase.isFinal = false) :
      GivesUp characters (.endedIn scan.phase) characters.length

theorem position_of_foldlM {taken : List Char} {scan : Scan}
    (ran : taken.foldlM step start = .ok scan) : scan.position = taken.length :=
  (coherent_start.foldlM ran).position

theorem run_append_of_ok {taken : List Char} {scan : Scan}
    (ran : taken.foldlM step start = .ok scan) (rest : List Char) :
    run (taken ++ rest) = rest.foldlM step scan >>= finish := by
  unfold run
  rw [Run.foldlM_append_of_ok ran]

theorem run_eq_error_iff {characters : List Char} {failure : Failure} :
    run characters = .error failure ↔
      ∃ fault position, failure = .lexical fault position ∧ GivesUp characters fault position := by
  constructor
  · intro failed
    unfold run at failed
    cases ran : characters.foldlM step start with
    | error stepFailure =>
        rw [ran] at failed
        cases failed
        obtain ⟨taken, character, rest, scan, split, reached, refused⟩ :=
          Run.foldlM_eq_error_iff.1 ran
        obtain ⟨stuck, failureEq⟩ := step_eq_error_iff.1 refused
        rw [← failureEq, position_of_foldlM reached]
        exact ⟨_, _, rfl, .refused split reached stuck⟩
    | ok scan =>
        rw [ran] at failed
        obtain ⟨notFinal, failureEq⟩ := finish_eq_error_iff.1 failed
        rw [← failureEq, position_of_foldlM ran]
        exact ⟨_, _, rfl, .ended ran notFinal⟩
  · rintro ⟨fault, position, rfl, givesUp⟩
    cases givesUp with
    | refused split ran stuck =>
        rw [split, run_append_of_ok ran, ← position_of_foldlM ran,
          Run.foldlM_cons_of_error (step_eq_error_iff.2 ⟨stuck, rfl⟩)]
        rfl
    | ended ran notFinal =>
        rw [← List.append_nil characters, run_append_of_ok ran, List.append_nil,
          ← position_of_foldlM ran]
        exact finish_eq_error_iff.2 ⟨notFinal, rfl⟩

/-- A scan fails with a lexical failure. -/
theorem stage_of_run_eq_error {characters : List Char} {failure : Failure}
    (failed : run characters = .error failure) : failure.stage = .lexical := by
  obtain ⟨fault, position, rfl, _⟩ := run_eq_error_iff.1 failed
  rfl

end Scan

theorem givesUp_of_tokenize {text : String} {fault : LexicalFault} {position : Nat}
    (failed : (tokenize text).outcome = .error (.lexical fault position)) :
    Scan.GivesUp text.toList fault position := by
  rw [outcome_tokenize] at failed
  obtain ⟨_, _, failureEq, givesUp⟩ := Scan.run_eq_error_iff.1 failed
  cases failureEq
  exact givesUp

end Reckon
