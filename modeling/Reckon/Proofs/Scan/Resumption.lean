import Mathlib.Data.List.Induction
import Reckon.Proofs.Scan.Tokenization

/-!
Contract: behind an operator a scan goes on as it does from the start.

Owns:
- the phase behind an operator that stands for each phase from the start;
- that a text behind an operator is taken in and given up as it is on its own;
- the outcome of a text that goes on behind an operator.

Does not own: which texts are scanned on their own.

The two scans differ in all that they have collected, so only their phases are compared.  This is
enough for a failure.  The tokens of a success are found by their neighbours.
-/

set_option autoImplicit false

namespace Reckon

namespace Phase

/-- The phase that stands for a phase of a scan from the start, if the scan goes on behind an
operator instead. -/
def resumed : Phase → Phase
  | .start => .afterOperator
  | phase => phase

theorem next_resumed (phase : Phase) (symbol : Symbol) :
    phase.resumed.next symbol = phase.next symbol := by
  cases phase with
  | start => cases symbol <;> rfl
  | _ => rfl

theorem isFinal_resumed (phase : Phase) : phase.resumed.isFinal = phase.isFinal := by
  cases phase <;> rfl

theorem resumed_of_ne_start {phase : Phase} (moved : phase ≠ .start) : phase.resumed = phase := by
  cases phase <;> first | rfl | exact absurd rfl moved

theorem resumed_of_next {phase target : Phase} {symbol : Symbol}
    (moves : phase.next symbol = some target) : target.resumed = target := by
  apply resumed_of_ne_start
  rintro rfl
  exact next_ne_start phase symbol moves

end Phase

/-- The fault behind an operator. -/
def LexicalFault.resumed : LexicalFault → LexicalFault
  | .refused phase => .refused phase.resumed
  | .endedIn phase => .endedIn phase.resumed

namespace Scan

variable {scan other next final : Scan} {characters front : List Char}

/-! ## Failures -/

theorem exists_step_resumed {character : Char} (resumes : other.phase = scan.phase.resumed)
    (stepped : scan.step character = .ok next) :
    ∃ otherNext, other.step character = .ok otherNext ∧ otherNext.phase = next.phase.resumed := by
  obtain ⟨target, moves, rfl⟩ := step_eq_ok_iff.1 stepped
  have otherMoves : other.phase.next (.ofChar character) = some target := by
    rw [resumes, Phase.next_resumed]
    exact moves
  exact ⟨_, step_eq_ok_iff.2 ⟨target, otherMoves, rfl⟩, (Phase.resumed_of_next moves).symm⟩

theorem exists_foldlM_resumed (resumes : other.phase = scan.phase.resumed)
    (ran : characters.foldlM step scan = .ok final) :
    ∃ otherFinal, characters.foldlM step other = .ok otherFinal ∧
      otherFinal.phase = final.phase.resumed := by
  induction characters generalizing scan other with
  | nil =>
      cases ran
      exact ⟨other, rfl, resumes⟩
  | cons character rest inductionHypothesis =>
      obtain ⟨next, stepped, ranRest⟩ := Run.foldlM_cons_eq_ok_iff.1 ran
      obtain ⟨otherNext, otherStepped, nextResumes⟩ := exists_step_resumed resumes stepped
      rw [Run.foldlM_cons_of_ok otherStepped]
      exact inductionHypothesis nextResumes ranRest

theorem exists_foldlM_append_resumed {taken : List Char} {reached : Scan}
    (ran : front.foldlM step start = .ok scan) (phase : scan.phase = .afterOperator)
    (taking : taken.foldlM step start = .ok reached) :
    ∃ final, (front ++ taken).foldlM step start = .ok final ∧
      final.phase = reached.phase.resumed := by
  have resumes : scan.phase = start.phase.resumed := phase
  rw [Run.foldlM_append_of_ok ran]
  exact exists_foldlM_resumed resumes taking

/-- Behind an operator a text is given up where it is on its own. -/
theorem GivesUp.resumed {fault : LexicalFault} {position : Nat}
    (givesUp : GivesUp characters fault position) (ran : front.foldlM step start = .ok scan)
    (phase : scan.phase = .afterOperator) :
    GivesUp (front ++ characters) fault.resumed (front.length + position) := by
  cases givesUp with
  | @refused taken rest character reached split taking stuck =>
      obtain ⟨final, ranAll, finalPhase⟩ := exists_foldlM_append_resumed ran phase taking
      have splitAll : front ++ characters = (front ++ taken) ++ character :: rest := by
        rw [split, List.append_assoc]
      have stuckThere : final.phase.next (.ofChar character) = none := by
        rw [finalPhase, Phase.next_resumed]
        exact stuck
      have given := GivesUp.refused splitAll ranAll stuckThere
      rw [finalPhase, List.length_append] at given
      exact given
  | ended taking notFinal =>
      obtain ⟨final, ranAll, finalPhase⟩ := exists_foldlM_append_resumed ran phase taking
      have given := GivesUp.ended ranAll (by rw [finalPhase, Phase.isFinal_resumed, notFinal])
      rw [finalPhase, List.length_append] at given
      exact given

/-- A scan that has taken in a character has left the start. -/
theorem resumed_phase_of_ne_nil (ran : characters.foldlM step start = .ok scan)
    (nonempty : characters ≠ []) : scan.phase.resumed = scan.phase := by
  cases characters using List.reverseRecOn with
  | nil => exact absurd rfl nonempty
  | append_singleton front last =>
      obtain ⟨middle, _, stepped⟩ := Run.foldlM_concat_eq_ok_iff.1 ran
      obtain ⟨target, moves, rfl⟩ := step_eq_ok_iff.1 stepped
      exact Phase.resumed_of_next moves

theorem GivesUp.resumed_fault {fault : LexicalFault} {position : Nat}
    (givesUp : GivesUp characters fault position) (moved : 1 ≤ position) :
    fault.resumed = fault := by
  cases givesUp with
  | refused _ ran _ =>
      have phase := resumed_phase_of_ne_nil ran (List.length_pos_iff.1 moved)
      rw [LexicalFault.resumed, phase]
  | ended ran _ =>
      have phase := resumed_phase_of_ne_nil ran (List.length_pos_iff.1 moved)
      rw [LexicalFault.resumed, phase]

/-- A text that is given up before its first character, if it has one. -/
theorem GivesUp.resumed_message {fault : LexicalFault} {position : Nat}
    (givesUp : GivesUp characters fault position) (atOnce : position = 0) :
    fault.resumed.message =
      if characters = [] then "expression should end only on a digit or a right parenthesis"
      else "after an operator there can only be a digit or a left parenthesis" := by
  cases givesUp with
  | refused split ran _ =>
      cases List.eq_nil_of_length_eq_zero atOnce
      cases ran
      rw [split, List.nil_append, if_neg (List.cons_ne_nil _ _)]
      rfl
  | ended ran _ =>
      cases List.eq_nil_of_length_eq_zero atOnce
      cases ran
      rw [if_pos rfl]
      rfl

/-- An operator is taken in behind a text that is complete. -/
theorem exists_foldlM_operator {tokens : List Token} (scanned : run characters = .ok tokens)
    (operator : Operator) :
    ∃ scan, (characters ++ [operator.symbol]).foldlM step start = .ok scan ∧
      scan.phase = .afterOperator := by
  unfold run at scanned
  cases ran : characters.foldlM step start with
  | error failure =>
      rw [ran] at scanned
      cases scanned
  | ok scan =>
      rw [ran] at scanned
      obtain ⟨final, _⟩ := finish_eq_ok_iff.1 scanned
      have move : scan.phase.Move (.ofChar operator.symbol) .afterOperator := by
        rw [Symbol.ofChar_symbol]
        exact .operated final operator
      exact ⟨_, Run.foldlM_concat_eq_ok_iff.2 ⟨scan, ran, step_of_move move⟩, rfl⟩

end Scan

/-! ## Tokens -/

namespace Token

/-- What may come first may also stand behind an operator. -/
theorem Kind.mayFollow_operator (kind : Kind) :
    mayFollow (some .operator) kind = mayFollow none kind := by
  cases kind <;> rfl

/-- Well-formed lists are joined by an operator. -/
theorem WellFormed.join {left right : List Token} (leftWell : WellFormed left)
    (rightWell : WellFormed right) (operator : Operator) :
    WellFormed (left ++ .operator operator.symbol :: right) := by
  obtain ⟨leftKind, leftLeads, leftEnds⟩ := wellFormed_iff.1 leftWell
  obtain ⟨rightKind, rightLeads, rightEnds⟩ := wellFormed_iff.1 rightWell
  have resumed : Leads (some .operator) right (some rightKind) := by
    cases right with
    | nil => exact absurd rfl rightWell.ne_nil
    | cons token rest =>
        obtain ⟨follows, spelled, restLeads⟩ := rightLeads
        exact ⟨(Kind.mayFollow_operator token.kind).trans follows, spelled, restLeads⟩
  refine wellFormed_iff.2 ⟨rightKind, leads_append.2 ⟨some leftKind, leftLeads, ?_⟩, rightEnds⟩
  exact ⟨(Kind.mayFollow_of_mayEnd leftEnds).2, ⟨operator, rfl⟩, resumed⟩

end Token

/-- Scanning distributes over an operator behind a text that is accepted.  If the other text is
accepted, so are both together.  If it is refused, so are both together, for the same reason and as
far into it; only before its first character the reason is that of an operator. -/
theorem tokenize_append_operator {text : String} {tokens : List Token}
    (accepted : (tokenize text).outcome = .ok tokens) (operator : Operator) (rest : String) :
    (∀ others, (tokenize rest).outcome = .ok others →
      (tokenize (text.push operator.symbol ++ rest)).outcome =
        .ok (tokens ++ .operator operator.symbol :: others)) ∧
    ∀ fault position, (tokenize rest).outcome = .error (.lexical fault position) →
      (1 ≤ position →
        (tokenize (text.push operator.symbol ++ rest)).outcome =
          .error (.lexical fault (text.length + 1 + position))) ∧
      (position = 0 →
        ∃ reason, (tokenize (text.push operator.symbol ++ rest)).outcome =
            .error (.lexical reason (text.length + 1)) ∧
          reason.message =
            if rest = "" then "expression should end only on a digit or a right parenthesis"
            else "after an operator there can only be a digit or a left parenthesis") := by
  rw [outcome_tokenize] at accepted
  simp only [outcome_tokenize, String.toList_append, String.toList_push]
  constructor
  · intro others scanned
    obtain ⟨leftWell, leftEq⟩ := Scan.run_eq_ok_iff.1 accepted
    obtain ⟨rightWell, rightEq⟩ := Scan.run_eq_ok_iff.1 scanned
    refine Scan.run_eq_ok_iff.2 ⟨leftWell.join rightWell operator, ?_⟩
    simp [leftEq, rightEq]
  · intro fault position refused
    obtain ⟨_, _, failureEq, givesUp⟩ := Scan.run_eq_error_iff.1 refused
    cases failureEq
    obtain ⟨scan, ran, phase⟩ := Scan.exists_foldlM_operator accepted operator
    have length : (text.toList ++ [operator.symbol]).length = text.length + 1 := by
      rw [List.length_append, String.length_toList, List.length_singleton]
    have given := givesUp.resumed ran phase
    rw [length] at given
    constructor
    · intro moved
      rw [givesUp.resumed_fault moved] at given
      exact Scan.run_eq_error_iff.2 ⟨_, _, rfl, given⟩
    · intro atOnce
      refine ⟨fault.resumed, Scan.run_eq_error_iff.2 ⟨_, _, rfl, ?_⟩, ?_⟩
      · rw [atOnce] at given
        exact given
      · rw [givesUp.resumed_message atOnce]
        simp [String.toList_eq_nil_iff]

/-- Behind `(2)-`, the text `1.5` is accepted and `1.` is too short as on its own; nothing and `*3`
are refused for what may stand behind an operator. -/
theorem tokenize_append_operator_minus :
    (tokenize "(2)").outcome = .ok [.leftParenthesis, .integer "2", .rightParenthesis] ∧
      (tokenize "(2)-1.5").outcome =
        .ok [.leftParenthesis, .integer "2", .rightParenthesis, .operator '-',
          .floatingPoint "1.5"] ∧
      (tokenize "(2)-1.").outcome = .error (.lexical (.endedIn .afterPoint) 6) ∧
      (∃ reason, (tokenize "(2)-").outcome = .error (.lexical reason 4) ∧
        reason.message = "expression should end only on a digit or a right parenthesis") ∧
      ∃ reason, (tokenize "(2)-*3").outcome = .error (.lexical reason 4) ∧
        reason.message = "after an operator there can only be a digit or a left parenthesis" := by
  have accepted : (tokenize "(2)").outcome =
      .ok [.leftParenthesis, .integer "2", .rightParenthesis] := rfl
  have join := tokenize_append_operator accepted .subtract
  exact ⟨accepted, (join "1.5").1 _ rfl, ((join "1.").2 _ _ rfl).1 (by decide),
    ((join "").2 _ _ rfl).2 rfl, ((join "*3").2 _ _ rfl).2 rfl⟩

end Reckon
