import Reckon.Calculator
import Reckon.Proofs.Run
import Reckon.Proofs.Token.Adjacency
import Reckon.Scan

/-!
Contract: what holds at every moment of a scan.

Owns:
- the moves of the automaton, one constructor for each kind of move;
- the coherence of a scan with the characters it has taken in, and its preservation by a step and by a
  run;
- the last complete token, seen from a phase, and the moves at which the kind of the number under way
  may change;
- the account of the front of a text, at every length of it that is taken in.

Does not own: which scans come to an end.
-/

set_option autoImplicit false

namespace Reckon

/-! ## Moves -/

namespace Symbol

theorem ofChar_eq_digit {character : Char} : ofChar character = .digit ↔ character.isDigit := by
  grind [ofChar]

theorem eq_of_ofChar_eq_point {character : Char} (point : ofChar character = .point) :
    character = '.' := by
  grind [ofChar]

theorem eq_of_ofChar_eq_leftParenthesis {character : Char}
    (parenthesis : ofChar character = .leftParenthesis) : character = '(' := by
  grind [ofChar]

theorem eq_of_ofChar_eq_rightParenthesis {character : Char}
    (parenthesis : ofChar character = .rightParenthesis) : character = ')' := by
  grind [ofChar]

theorem eq_of_ofChar_eq_operator {character : Char} {operator : Operator}
    (symbol : ofChar character = .operator operator) : character = operator.symbol := by
  have read : Operator.ofSymbol? character = some operator := by
    grind [ofChar]
  exact (Operator.symbol_of_ofSymbol? read).symm

@[simp]
theorem ofChar_symbol (operator : Operator) : ofChar operator.symbol = .operator operator := by
  cases operator <;> rfl

end Symbol

namespace Phase

/-- A left parenthesis or a number may come. -/
def awaitsOperand : Phase → Bool
  | .start | .afterLeftParenthesis | .afterOperator => true
  | _ => false

/-- The moves of the automaton, by what they do to the tokens. -/
inductive Move : Phase → Symbol → Phase → Prop where
  | opened {phase : Phase} (awaits : phase.awaitsOperand) :
      Move phase .leftParenthesis .afterLeftParenthesis
  | negated : Move .afterLeftParenthesis (.operator .subtract) .afterUnaryMinus
  | begun {phase : Phase} (awaits : phase.awaitsOperand ∨ phase = .afterUnaryMinus) :
      Move phase .digit .inDigits
  | continued : Move .inDigits .digit .inDigits
  | pointed : Move .inDigits .point .afterPoint
  | fractionBegun : Move .afterPoint .digit .inFraction
  | fractionContinued : Move .inFraction .digit .inFraction
  | closed {phase : Phase} (final : phase.isFinal) :
      Move phase .rightParenthesis .afterRightParenthesis
  | operated {phase : Phase} (final : phase.isFinal) (operator : Operator) :
      Move phase (.operator operator) .afterOperator

/-- The transition table holds the moves and nothing else. -/
theorem next_eq_some_iff {phase target : Phase} {symbol : Symbol} :
    phase.next symbol = some target ↔ Move phase symbol target := by
  constructor
  · intro moves
    unfold next at moves
    split at moves <;> cases moves
    all_goals
      first
      | exact .opened rfl
      | exact .negated
      | exact .begun (.inl rfl)
      | exact .begun (.inr rfl)
      | exact .continued
      | exact .pointed
      | exact .fractionBegun
      | exact .fractionContinued
      | exact .closed rfl
      | exact .operated rfl _
  · intro move
    cases move with
    | opened awaits => cases phase <;> first | rfl | cases awaits
    | begun awaits =>
        rcases awaits with awaits | rfl
        · cases phase <;> first | rfl | cases awaits
        · rfl
    | closed final => cases phase <;> first | rfl | cases final
    | operated final operator => cases phase <;> first | rfl | cases final
    | _ => rfl

/-- The kind of token that was completed last, seen from a phase.  In a number it is the kind of the
token before the number. -/
def Follows : Phase → Option Token.Kind → Prop
  | .start, previous => previous = none
  | .afterLeftParenthesis, previous => previous = some .leftParenthesis
  | .afterRightParenthesis, previous => previous = some .rightParenthesis
  | .afterUnaryMinus, previous => previous = some .unaryMinus
  | .afterOperator, previous => previous = some .operator
  | .inDigits, previous | .afterPoint, previous | .inFraction, previous =>
      Token.Kind.mayFollow previous .integer

/-- What is known in a phase about the number under way. -/
def NumberFits : Phase → List Char → Token.Kind → Prop
  | .inDigits, number, kind => IsDigits number ∧ kind = .integer
  | .afterPoint, number, kind =>
      (∃ whole, IsDigits whole ∧ number = whole ++ ['.']) ∧ kind = .floatingPoint
  | .inFraction, number, kind => IsPointed number ∧ kind = .floatingPoint
  | _, number, _ => number = []

theorem Follows.mayFollow_leftParenthesis {phase : Phase} {previous : Option Token.Kind}
    (follows : phase.Follows previous) (awaits : phase.awaitsOperand) :
    Token.Kind.mayFollow previous .leftParenthesis := by
  cases phase <;> first | (cases follows; rfl) | cases awaits

theorem Follows.mayFollow_integer {phase : Phase} {previous : Option Token.Kind}
    (follows : phase.Follows previous) (awaits : phase.awaitsOperand ∨ phase = .afterUnaryMinus) :
    Token.Kind.mayFollow previous .integer := by
  rcases awaits with awaits | rfl
  · exact Token.Kind.mayFollow_integer_of_leftParenthesis
      (follows.mayFollow_leftParenthesis awaits)
  · cases follows
    rfl

/-- Outside a number no number is under way. -/
theorem NumberFits.eq_nil {phase : Phase} {number : List Char} {kind : Token.Kind}
    (fits : phase.NumberFits number kind)
    (awaits : phase.awaitsOperand ∨ phase = .afterUnaryMinus) : number = [] := by
  rcases awaits with awaits | rfl
  · cases phase <;> first | exact fits | cases awaits
  · exact fits

end Phase

/-! ## Coherence -/

namespace Scan

/-- The tokens and the number under way hold the characters taken in, and agree with the phase. -/
structure Coherent (scan : Scan) (taken : List Char) : Prop where
  leads : ∃ previous, Token.Leads none scan.tokens.toList previous ∧ scan.phase.Follows previous
  number : scan.phase.NumberFits scan.number.toList scan.numberKind
  characters : Token.characters scan.tokens.toList ++ scan.number.toList = taken
  position : scan.position = taken.length

theorem coherent_start : start.Coherent [] :=
  ⟨⟨none, rfl, rfl⟩, rfl, rfl, rfl⟩

@[simp]
theorem toList_tokens_emit (scan : Scan) (token : Token) :
    (scan.emit token).tokens.toList = scan.tokens.toList ++ [token] := by
  simp [emit]

@[simp]
theorem number_emit (scan : Scan) (token : Token) : (scan.emit token).number = scan.number := rfl

@[simp]
theorem numberKind_emit (scan : Scan) (token : Token) :
    (scan.emit token).numberKind = scan.numberKind := rfl

@[simp]
theorem toList_number_append (scan : Scan) (character : Char) :
    (scan.append character).number.toList = scan.number.toList ++ [character] := by
  simp [append]

@[simp]
theorem number_ofKind (scan : Scan) (kind : Token.Kind) :
    (scan.ofKind kind).number = scan.number := rfl

/-- The first digit of a number sets its kind. -/
theorem collect_begun {scan : Scan}
    (awaits : scan.phase.awaitsOperand ∨ scan.phase = .afterUnaryMinus) (character : Char) :
    scan.collect character .inDigits = (scan.ofKind .integer).append character := by
  have outside : scan.phase ≠ .inDigits := by
    intro inside
    rw [inside] at awaits
    rcases awaits with awaits | awaits <;> cases awaits
  rw [collect, if_neg outside]

theorem collect_continued {scan : Scan} (phase : scan.phase = .inDigits) (character : Char) :
    scan.collect character .inDigits = scan.append character := by
  rw [collect, if_pos phase]

theorem flush_of_number_eq_nil {scan : Scan} (empty : scan.number.toList = []) :
    scan.flush = scan := by
  rw [String.toList_eq_nil_iff] at empty
  simp [flush, empty]

theorem flush_of_number_ne_nil {scan : Scan} (nonempty : scan.number.toList ≠ []) :
    scan.flush =
      { scan with tokens := scan.tokens.push ⟨scan.number, scan.numberKind⟩, number := "" } := by
  have notEmpty : scan.number.isEmpty = false := by
    simpa [String.toList_eq_nil_iff] using nonempty
  simp [flush, notEmpty]

@[simp]
theorem number_flush (scan : Scan) : scan.flush.number = "" := by
  by_cases empty : scan.number.toList = []
  · rw [flush_of_number_eq_nil empty]
    exact String.toList_eq_nil_iff.1 empty
  · rw [flush_of_number_ne_nil empty]

/-- Where a text may end, flushing leaves tokens alone, and the last of them may end. -/
theorem Coherent.flush {scan : Scan} {taken : List Char} (coherent : scan.Coherent taken)
    (final : scan.phase.isFinal) :
    (∃ kind, Token.Leads none scan.flush.tokens.toList (some kind) ∧ kind.mayEnd) ∧
      Token.characters scan.flush.tokens.toList = taken := by
  obtain ⟨⟨previous, leads, follows⟩, number, characters, _⟩ := coherent
  -- A number under way becomes the last token; its spelling is what the phase knows of it.
  have pending : ∀ kind, scan.number.toList ≠ [] → kind.mayEnd → scan.numberKind = kind →
      Token.Kind.mayFollow previous kind → Token.IsSpelled ⟨scan.number, kind⟩ →
      (∃ kind, Token.Leads none scan.flush.tokens.toList (some kind) ∧ kind.mayEnd) ∧
        Token.characters scan.flush.tokens.toList = taken := by
    rintro kind nonempty ends rfl mayFollow spelled
    rw [flush_of_number_ne_nil nonempty]
    refine ⟨⟨scan.numberKind, ?_, ends⟩, ?_⟩
    · simpa using leads.concat mayFollow spelled
    · simpa using characters
  cases phase : scan.phase with
  | inDigits =>
      rw [phase] at follows number
      exact pending .integer number.1.1 rfl number.2 follows number.1
  | inFraction =>
      rw [phase] at follows number
      refine pending .floatingPoint number.1.ne_nil rfl number.2 ?_ number.1
      rw [Token.Kind.mayFollow_floatingPoint]
      exact follows
  | afterRightParenthesis =>
      rw [phase] at follows number
      rw [flush_of_number_eq_nil number]
      refine ⟨⟨.rightParenthesis, follows ▸ leads, rfl⟩, ?_⟩
      rw [number, List.append_nil] at characters
      exact characters
  | _ =>
      rw [phase] at final
      cases final

/-- A step keeps a scan coherent. -/
theorem Coherent.step {scan next : Scan} {taken : List Char} {character : Char}
    (coherent : scan.Coherent taken) (stepped : scan.step character = .ok next) :
    next.Coherent (taken ++ [character]) := by
  obtain ⟨target, moves, rfl⟩ := step_eq_ok_iff.1 stepped
  have move := Phase.next_eq_some_iff.1 moves
  have position : scan.position + 1 = (taken ++ [character]).length := by
    simp [coherent.position]
  obtain ⟨previous, leads, follows⟩ := coherent.leads
  have number := coherent.number
  -- Outside a flush the characters grow by one, in the tokens or in the number.
  have inToken : ∀ token : Token, scan.number.toList = [] → token.lexeme.toList = [character] →
      Token.characters (scan.emit token).tokens.toList ++ scan.number.toList
        = taken ++ [character] := by
    intro token empty lexeme
    simp [← coherent.characters, empty, lexeme]
  have inNumber : Token.characters scan.tokens.toList ++ (scan.append character).number.toList
      = taken ++ [character] := by
    simp [← coherent.characters]
  generalize symbolEq : Symbol.ofChar character = symbol at move
  generalize phaseEq : scan.phase = phase at move follows number
  cases move with
  | opened awaits =>
      have empty := number.eq_nil (.inl awaits)
      cases Symbol.eq_of_ofChar_eq_leftParenthesis symbolEq
      refine ⟨⟨_, ?_, rfl⟩, empty, inToken .leftParenthesis empty rfl, position⟩
      simp only [collect, toList_tokens_emit]
      exact leads.concat (follows.mayFollow_leftParenthesis awaits) rfl
  | negated =>
      cases Symbol.eq_of_ofChar_eq_operator symbolEq
      cases follows
      refine ⟨⟨_, ?_, rfl⟩, number, inToken .unaryMinus number rfl, position⟩
      simp only [collect, toList_tokens_emit]
      exact leads.concat rfl rfl
  | begun awaits =>
      have empty := number.eq_nil awaits
      have digit := Symbol.ofChar_eq_digit.1 symbolEq
      rw [collect_begun (phaseEq ▸ awaits)]
      refine ⟨⟨previous, leads, follows.mayFollow_integer awaits⟩, ⟨?_, rfl⟩, inNumber, position⟩
      simp only [toList_number_append, number_ofKind, empty, List.nil_append]
      exact isDigits_singleton digit
  | continued =>
      have digit := Symbol.ofChar_eq_digit.1 symbolEq
      rw [collect_continued phaseEq]
      refine ⟨⟨previous, leads, follows⟩, ⟨?_, number.2⟩, inNumber, position⟩
      simp only [toList_number_append]
      exact number.1.concat digit
  | pointed =>
      cases Symbol.eq_of_ofChar_eq_point symbolEq
      refine ⟨⟨previous, leads, follows⟩, ⟨⟨scan.number.toList, number.1, ?_⟩, rfl⟩,
        inNumber, position⟩
      simp only [collect, toList_number_append, number_ofKind]
  | fractionBegun =>
      have digit := Symbol.ofChar_eq_digit.1 symbolEq
      obtain ⟨⟨whole, digits, numberEq⟩, kind⟩ := number
      refine ⟨⟨previous, leads, follows⟩,
        ⟨⟨whole, [character], digits, isDigits_singleton digit, ?_⟩, kind⟩, inNumber, position⟩
      simp [collect, numberEq]
  | fractionContinued =>
      have digit := Symbol.ofChar_eq_digit.1 symbolEq
      obtain ⟨⟨whole, fraction, wholeDigits, fractionDigits, numberEq⟩, kind⟩ := number
      refine ⟨⟨previous, leads, follows⟩,
        ⟨⟨whole, fraction ++ [character], wholeDigits, fractionDigits.concat digit, ?_⟩, kind⟩,
        inNumber, position⟩
      simp [collect, numberEq]
  | closed final =>
      obtain ⟨⟨kind, flushedLeads, ends⟩, flushedCharacters⟩ := coherent.flush (phaseEq ▸ final)
      cases Symbol.eq_of_ofChar_eq_rightParenthesis symbolEq
      refine ⟨⟨_, ?_, rfl⟩, String.toList_eq_nil_iff.2 (number_flush scan), ?_, position⟩
      · simp only [collect, toList_tokens_emit]
        exact flushedLeads.concat (Token.Kind.mayFollow_of_mayEnd ends).1 rfl
      · simp [collect, flushedCharacters, Token.rightParenthesis]
  | operated final operator =>
      obtain ⟨⟨kind, flushedLeads, ends⟩, flushedCharacters⟩ := coherent.flush (phaseEq ▸ final)
      cases Symbol.eq_of_ofChar_eq_operator symbolEq
      refine ⟨⟨_, ?_, rfl⟩, String.toList_eq_nil_iff.2 (number_flush scan), ?_, position⟩
      · simp only [collect, toList_tokens_emit]
        exact flushedLeads.concat (Token.Kind.mayFollow_of_mayEnd ends).2 ⟨operator, rfl⟩
      · simp [collect, flushedCharacters, Token.operator]

/-- A run keeps a scan coherent. -/
theorem Coherent.foldlM {scan final : Scan} {taken characters : List Char}
    (coherent : scan.Coherent taken) (ran : characters.foldlM Scan.step scan = .ok final) :
    final.Coherent (taken ++ characters) :=
  Run.invariant_foldlM (fun taken scan => scan.Coherent taken)
    (fun coherent stepped => coherent.step stepped) coherent ran

end Scan

/-! ## The account of a front -/

/-- What is known in a phase about the last token that is complete.  In a number it is the token
before the number, if there is one. -/
def Phase.LastFits : Phase → Option Token → Prop
  | .start, last => last = none
  | .afterLeftParenthesis, last => last = some .leftParenthesis
  | .afterRightParenthesis, last => last = some .rightParenthesis
  | .afterUnaryMinus, last => last = some .unaryMinus
  | .afterOperator, last => ∃ operator : Operator, last = some (.operator operator.symbol)
  | .inDigits, last | .afterPoint, last | .inFraction, last =>
      Token.Kind.mayFollow (last.map Token.kind) .integer

namespace Phase

/-- The kind of the last token and its spelling make the token. -/
theorem Follows.lastFits {phase : Phase} {last : Option Token}
    (follows : phase.Follows (last.map Token.kind)) (spelled : ∀ token ∈ last, token.IsSpelled) :
    phase.LastFits last := by
  cases phase with
  | start => exact Option.map_eq_none_iff.1 follows
  | inDigits | afterPoint | inFraction => exact follows
  | afterLeftParenthesis | afterRightParenthesis | afterUnaryMinus =>
      obtain ⟨⟨lexeme, kind⟩, rfl, rfl⟩ := Option.map_eq_some_iff.1 follows
      exact congrArg some (spelled _ rfl)
  | afterOperator =>
      obtain ⟨⟨lexeme, kind⟩, rfl, rfl⟩ := Option.map_eq_some_iff.1 follows
      obtain ⟨operator, tokenEq⟩ := spelled _ rfl
      exact ⟨operator, congrArg some tokenEq⟩

/-- A number is under way in three phases, and in no other. -/
theorem NumberFits.ne_nil_iff {phase : Phase} {number : List Char} {kind : Token.Kind}
    (fits : phase.NumberFits number kind) :
    number ≠ [] ↔ phase ∈ [inDigits, afterPoint, inFraction] := by
  cases phase with
  | inDigits => exact iff_of_true fits.1.1 (by decide)
  | afterPoint =>
      obtain ⟨⟨whole, digits, numberEq⟩, _⟩ := fits
      exact iff_of_true (by simp [numberEq]) (by decide)
  | inFraction => exact iff_of_true fits.1.ne_nil (by decide)
  | _ => exact iff_of_false (not_not_intro fits) (by decide)

end Phase

namespace Scan

variable {scan next : Scan} {taken : List Char} {character : Char}

/-- The last token of a coherent scan is the one that its phase is named for. -/
theorem Coherent.lastFits (coherent : scan.Coherent taken) :
    scan.phase.LastFits scan.tokens.toList.getLast? := by
  obtain ⟨previous, leads, follows⟩ := coherent.leads
  rw [← leads.kind_getLast?, Option.or_none] at follows
  apply follows.lastFits
  intro token member
  exact leads.isSpelled token (List.mem_of_getLast? member)

@[simp]
theorem numberKind_flush (scan : Scan) : scan.flush.numberKind = scan.numberKind := by
  unfold flush
  split <;> rfl

/-- The kind of the number under way changes when a number begins and at its point only.  Neither the
end of a number nor any other token changes it. -/
theorem Coherent.numberKind_of_step (coherent : scan.Coherent taken)
    (stepped : scan.step character = .ok next) :
    next.numberKind = scan.numberKind ∨
      (scan.number = "" ∧ next.phase = .inDigits) ∨ next.phase = .afterPoint := by
  obtain ⟨target, moves, rfl⟩ := step_eq_ok_iff.1 stepped
  have move := Phase.next_eq_some_iff.1 moves
  have number := coherent.number
  generalize Symbol.ofChar character = symbol at move
  generalize phaseEq : scan.phase = phase at move number
  cases move with
  | opened awaits => exact .inl rfl
  | negated => exact .inl rfl
  | begun awaits => exact .inr (.inl ⟨String.toList_eq_nil_iff.1 (number.eq_nil awaits), rfl⟩)
  | continued =>
      rw [collect_continued phaseEq]
      exact .inl rfl
  | pointed => exact .inr (.inr rfl)
  | fractionBegun => exact .inl rfl
  | fractionContinued => exact .inl rfl
  | closed final => exact .inl (numberKind_flush scan)
  | operated final operator => exact .inl (numberKind_flush scan)

theorem outcome_foldlM_advance (characters : List Char) (scan : Scan) :
    (characters.foldlM advance scan).outcome = characters.foldlM Scan.step scan := by
  rw [Report.outcome_foldlM]
  simp only [outcome_advance]

end Scan

/-- Behind every front of a text that is taken in, the tokens and the number under way spell the
front, and the position is its length.  There is a number under way exactly in the three phases of a
number, where it is spelled as far as the phase says and its kind is that of its spelling; the kind
is set when a number begins and at its point only.  In the other phases the last token is the one
that the phase is named for. -/
theorem scan_accounts_for_front (text : String) (count : Nat) (scan : Scan)
    (ran : ((text.toList.take count).foldlM Scan.advance .start).outcome = .ok scan) :
    let front := text.toList.take count
    String.join (scan.tokens.toList.map Token.lexeme) ++ scan.number = String.ofList front ∧
      scan.position = front.length ∧
      (scan.number ≠ "" ↔ scan.phase ∈ [.inDigits, .afterPoint, .inFraction]) ∧
      scan.phase.NumberFits scan.number.toList scan.numberKind ∧
      scan.phase.LastFits scan.tokens.toList.getLast? ∧
      ∀ character next, (scan.advance character).outcome = .ok next →
        next.numberKind = scan.numberKind ∨
          (scan.number = "" ∧ next.phase = .inDigits) ∨ next.phase = .afterPoint := by
  intro front
  rw [Scan.outcome_foldlM_advance] at ran
  have coherent : scan.Coherent front := Scan.coherent_start.foldlM ran
  refine ⟨?_, coherent.position, ?_, coherent.number, coherent.lastFits, ?_⟩
  · apply String.toList_injective
    rw [String.toList_append, Token.toList_join_lexemes, String.toList_ofList]
    exact coherent.characters
  · rw [← coherent.number.ne_nil_iff, Ne, Ne, String.toList_eq_nil_iff]
  · intro character next advanced
    rw [Scan.outcome_advance] at advanced
    exact coherent.numberKind_of_step advanced

/-- Behind the first nine characters of `2.5*(-12.75)` a number stands at its point. -/
theorem scan_accounts_for_unfinished_number :
    let scan : Scan :=
      ⟨.afterPoint,
        #[.floatingPoint "2.5", .operator '*', .leftParenthesis, .unaryMinus],
        "12.", .floatingPoint, 9⟩
    (("2.5*(-12.75)".toList.take 9).foldlM Scan.advance .start).outcome = .ok scan ∧
      String.join (scan.tokens.toList.map Token.lexeme) ++ scan.number = "2.5*(-12." ∧
      scan.position = 9 ∧
      (scan.number ≠ "" ↔ scan.phase ∈ [.inDigits, .afterPoint, .inFraction]) ∧
      scan.phase.NumberFits scan.number.toList scan.numberKind ∧
      scan.phase.LastFits scan.tokens.toList.getLast? ∧
      ∃ next, (scan.advance '7').outcome = .ok next ∧ next.numberKind = scan.numberKind := by
  intro scan
  have ran : (("2.5*(-12.75)".toList.take 9).foldlM Scan.advance .start).outcome = .ok scan := rfl
  obtain ⟨spells, position, underWay, number, last, changes⟩ :=
    scan_accounts_for_front "2.5*(-12.75)" 9 scan ran
  refine ⟨ran, spells, position, underWay, number, last, _, rfl, ?_⟩
  rcases changes '7' _ rfl with same | ⟨empty, _⟩ | point
  · exact same
  · exact absurd empty (by decide)
  · cases point

end Reckon
