import Mathlib.Data.List.Chain
import Reckon.Proofs.Scan.Tokenization

/-!
Contract: the trace of a scan is the run of the automaton on the text.

Owns:
- when moves of the automaton are a run on a text, complete or not, and the phase it stops in;
- that the moves of a text are a run, by induction on its characters;
- the moves of characters that a scan takes in, and of those that it stops at;
- that the trace of a scan holds these moves and nothing else.

Does not own: other events of a scan.
-/

set_option autoImplicit false

namespace Reckon

/-! ### Runs of the automaton -/

namespace Transition

/-- No move is a refusal. -/
def AllAccepted (moves : List Transition) : Prop :=
  ∀ move ∈ moves, move.target.isSome

/-- The last move is a refusal, and no other is. -/
def LastRefused (moves : List Transition) : Prop :=
  ∃ earlier last, moves = earlier ++ [last] ∧ AllAccepted earlier ∧ last.target = none

end Transition

namespace Phase

/-- The moves are a run from a phase on: they take in the characters in their order, each of them is
the one that the transition table holds, and each starts where the one before leads. -/
structure Traces (phase : Phase) (characters : List Char) (moves : List Transition) : Prop where
  starts : ∀ first ∈ moves.head?, first.source = phase
  reads : moves.map Transition.character <+: characters
  connects : moves.IsChain fun earlier later => earlier.target = some later.source
  inTable : ∀ move ∈ moves, move.target = move.source.next (.ofChar move.character)

/-- The phase that a run stops in: the one that its last move leads to or, if this move is a refusal,
the one that refuses. -/
def stoppedIn (phase : Phase) (moves : List Transition) : Phase :=
  match moves.getLast? with
  | some last => last.target.getD last.source
  | none => phase

theorem stoppedIn_cons (phase : Phase) (move : Transition) (rest : List Transition) :
    phase.stoppedIn (move :: rest) = (move.target.getD move.source).stoppedIn rest := by
  unfold stoppedIn
  rw [List.getLast?_cons]
  cases rest.getLast? <;> rfl

theorem stoppedIn_concat (phase : Phase) (moves : List Transition) (last : Transition) :
    phase.stoppedIn (moves ++ [last]) = last.target.getD last.source := by
  unfold stoppedIn
  rw [List.getLast?_concat]

theorem transitions_of_next {phase target : Phase} {character : Char}
    (move : phase.next (.ofChar character) = some target) (rest : List Char) :
    phase.transitions (character :: rest) =
      ⟨phase, character, some target⟩ :: target.transitions rest := by
  rw [transitions, move]

theorem transitions_of_stuck {phase : Phase} {character : Char}
    (stuck : phase.next (.ofChar character) = none) (rest : List Char) :
    phase.transitions (character :: rest) = [⟨phase, character, none⟩] := by
  rw [transitions, stuck]

/-- What the automaton does on a text is a run. -/
theorem traces_transitions (phase : Phase) (characters : List Char) :
    phase.Traces characters (phase.transitions characters) := by
  induction characters generalizing phase with
  | nil => exact ⟨nofun, List.nil_prefix, .nil, nofun⟩
  | cons character rest inductionHypothesis =>
      cases move : phase.next (.ofChar character) with
      | none =>
          rw [transitions_of_stuck move]
          exact ⟨by simp, by simp, .singleton _, by simp [move]⟩
      | some target =>
          have later := inductionHypothesis target
          rw [transitions_of_next move]
          refine ⟨by simp, ?_, ?_, ?_⟩
          · exact List.cons_prefix_cons.2 ⟨rfl, later.reads⟩
          · refine List.isChain_cons.2 ⟨?_, later.connects⟩
            intro next isNext
            exact congrArg some (later.starts next isNext).symm
          · exact List.forall_mem_cons.2 ⟨move.symm, later.inTable⟩

end Phase

/-! ### Scans -/

namespace Scan

variable {scan final : Scan} {taken : List Char}

theorem next_eq_of_step {character : Char} (stepped : scan.step character = .ok final) :
    scan.phase.next (.ofChar character) = some final.phase := by
  obtain ⟨target, move, finalEq⟩ := step_eq_ok_iff.1 stepped
  rw [← finalEq]
  exact move

/-- Characters that a scan takes in are moves to its last phase, and the moves of what follows start
there. -/
theorem transitions_append (ran : taken.foldlM step scan = .ok final) (rest : List Char) :
    scan.phase.transitions (taken ++ rest) =
      scan.phase.transitions taken ++ final.phase.transitions rest := by
  induction taken generalizing scan with
  | nil =>
      cases ran
      rfl
  | cons character below inductionHypothesis =>
      obtain ⟨next, stepped, ranBelow⟩ := Run.foldlM_cons_eq_ok_iff.1 ran
      rw [List.cons_append, Phase.transitions_of_next (next_eq_of_step stepped),
        Phase.transitions_of_next (next_eq_of_step stepped), inductionHypothesis ranBelow,
        List.cons_append]

/-- A scan that takes in all the characters makes one move for each. -/
structure Walks (scan : Scan) (taken : List Char) (final : Scan) : Prop where
  length : (scan.phase.transitions taken).length = taken.length
  accepted : Transition.AllAccepted (scan.phase.transitions taken)
  stopped : scan.phase.stoppedIn (scan.phase.transitions taken) = final.phase

theorem walks_of_foldlM (ran : taken.foldlM step scan = .ok final) : scan.Walks taken final := by
  induction taken generalizing scan with
  | nil =>
      cases ran
      exact ⟨rfl, nofun, rfl⟩
  | cons character below inductionHypothesis =>
      obtain ⟨next, stepped, ranBelow⟩ := Run.foldlM_cons_eq_ok_iff.1 ran
      obtain ⟨length, accepted, stopped⟩ := inductionHypothesis ranBelow
      have moves := Phase.transitions_of_next (next_eq_of_step stepped) below
      refine ⟨?_, ?_, ?_⟩
      · rw [moves, List.length_cons, length, List.length_cons]
      · rw [moves]
        exact List.forall_mem_cons.2 ⟨rfl, accepted⟩
      · rw [moves, Phase.stoppedIn_cons]
        exact stopped

end Scan

/-! ### Traces -/

namespace Report

variable {α β : Type}

/-- The events of single steps, oldest first. -/
def traces (report : Report α) : List Event :=
  report.events.filter fun event => event.severity = .trace

theorem traces_bind_of_ok {report : Report α} {value : α} (succeeded : report.outcome = .ok value)
    (continuation : α → Report β) :
    (report >>= continuation).traces = report.traces ++ (continuation value).traces := by
  rw [bind_of_ok succeeded]
  exact List.filter_append report.events (continuation value).events

theorem traces_bind_of_error {report : Report α} {failure : Failure}
    (failed : report.outcome = .error failure) (continuation : α → Report β) :
    (report >>= continuation).traces = report.traces := by
  rw [bind_of_error failed]
  rfl

theorem traces_ofExcept (outcome : Except Failure α) : (ofExcept outcome).traces = [] := by
  cases outcome <;> rfl

/-- What makes no single steps leaves the trace as it is. -/
theorem traces_bind_of_quiet {report : Report α} {continuation : α → Report β}
    (quiet : ∀ value, (continuation value).traces = []) :
    (report >>= continuation).traces = report.traces := by
  cases outcome : report.outcome with
  | error failure => exact traces_bind_of_error outcome continuation
  | ok value => rw [traces_bind_of_ok outcome, quiet, List.append_nil]

end Report

namespace Scan

theorem traces_advance (scan : Scan) (character : Char) :
    (scan.advance character).traces =
      [.moved ⟨scan.phase, character, scan.phase.next (.ofChar character)⟩] := by
  unfold advance
  rw [Report.traces_bind_of_ok (Report.outcome_emit _), Report.traces_ofExcept]
  rfl

/-- A scan traces the moves of the automaton, the refusal included, before it acts on them. -/
theorem traces_foldlM_advance (scan : Scan) (characters : List Char) :
    (characters.foldlM advance scan).traces =
      (scan.phase.transitions characters).map .moved := by
  induction characters generalizing scan with
  | nil => rfl
  | cons character rest inductionHypothesis =>
      rw [List.foldlM_cons]
      cases stepped : scan.step character with
      | error failure =>
          have failed := (outcome_advance scan character).trans stepped
          have stuck := (step_eq_error_iff.1 stepped).1
          rw [Report.traces_bind_of_error failed, traces_advance, stuck,
            Phase.transitions_of_stuck stuck]
          rfl
      | ok next =>
          have succeeded := (outcome_advance scan character).trans stepped
          have move := next_eq_of_step stepped
          rw [Report.traces_bind_of_ok succeeded, traces_advance, move, inductionHypothesis next,
            Phase.transitions_of_next move]
          rfl

end Scan

/-- The trace of a scan is the run of the automaton on the text. -/
theorem traces_tokenize (text : String) :
    (tokenize text).traces = (Phase.start.transitions text.toList).map .moved := by
  have announced : (tokenize text).traces =
      (text.toList.foldlM Scan.advance .start >>= fun scan => .ofExcept scan.finish).traces :=
    Report.traces_bind_of_quiet fun _ => rfl
  have finished :
      (text.toList.foldlM Scan.advance .start >>= fun scan => .ofExcept scan.finish).traces =
        (text.toList.foldlM Scan.advance .start).traces :=
    Report.traces_bind_of_quiet fun scan => Report.traces_ofExcept scan.finish
  rw [announced, finished]
  exact Scan.traces_foldlM_advance .start text.toList

/-! ### Outcomes -/

namespace Scan

variable {characters : List Char}

/-- A scan that succeeds has walked through the text to a phase in which it may end. -/
theorem exists_walks_of_run {tokens : List Token} (ran : run characters = .ok tokens) :
    ∃ final, start.Walks characters final ∧ final.phase.isFinal := by
  unfold run at ran
  cases scanned : characters.foldlM step start with
  | error failure =>
      rw [scanned] at ran
      cases ran
  | ok final =>
      rw [scanned] at ran
      exact ⟨final, walks_of_foldlM scanned, (finish_eq_ok_iff.1 ran).1⟩

/-- What is to be seen in the moves of a scan that gives up. -/
theorem GivesUp.moves {fault : LexicalFault} {position : Nat}
    (givesUp : GivesUp characters fault position) :
    let moves := Phase.start.transitions characters
    let stopped := Phase.start.stoppedIn moves
    position = characters.length ∧ moves.length = position ∧ Transition.AllAccepted moves ∧
        stopped.isFinal = false ∧ fault = .endedIn stopped ∨
      position < characters.length ∧ moves.length = position + 1 ∧
        Transition.LastRefused moves ∧ fault = .refused stopped := by
  intro moves stopped
  cases givesUp with
  | ended ran notFinal =>
      obtain ⟨length, accepted, stoppedEq⟩ := walks_of_foldlM ran
      refine .inl ⟨rfl, length, accepted, ?_, ?_⟩
      · rw [← notFinal]
        exact congrArg Phase.isFinal stoppedEq
      · exact congrArg LexicalFault.endedIn stoppedEq.symm
  | @refused taken rest character scan split ran stuck =>
      obtain ⟨length, accepted, _⟩ := walks_of_foldlM ran
      have movesEq : moves =
          start.phase.transitions taken ++ [⟨scan.phase, character, none⟩] := by
        rw [← Phase.transitions_of_stuck stuck rest, ← transitions_append ran, ← split]
        rfl
      have stoppedEq : stopped = scan.phase := by
        rw [show stopped = Phase.start.stoppedIn moves from rfl, movesEq, Phase.stoppedIn_concat]
        rfl
      refine .inr ⟨?_, ?_, ⟨_, _, movesEq, accepted, rfl⟩, ?_⟩
      · rw [split, List.length_append, List.length_cons]
        omega
      · rw [movesEq, List.length_append, length]
        rfl
      · rw [stoppedEq]

end Scan

theorem Transition.not_allAccepted_of_lastRefused {moves : List Transition}
    (refused : LastRefused moves) : ¬AllAccepted moves := by
  obtain ⟨earlier, last, rfl, _, none⟩ := refused
  intro accepted
  have some := accepted last (by simp)
  rw [none] at some
  cases some

theorem Phase.isFinal_iff {phase : Phase} :
    phase.isFinal ↔ phase ∈ [inDigits, inFraction, afterRightParenthesis] := by
  cases phase <;> decide

/-- The trace of a scan is a run of the automaton on the text, from the start.  The run goes through
the text, and stops in a phase in which the text may end exactly if there are tokens.  It ends with
a refusal exactly if the scan fails before the end of the text.  The message of a failure is what
the phase that the run stops in says. -/
theorem trace_is_run_of_automaton (text : String) :
    ∃ moves : List Transition,
      (tokenize text).traces = moves.map .moved ∧
      ((tokenize text).traces.map Event.message = moves.map fun move =>
        move.source.name ++ " --" ++ Text.Quoted.character move.character ++ "--> " ++
          (move.target.map Phase.name).getD "Error") ∧
      Phase.start.Traces text.toList moves ∧
      (let stopped := Phase.start.stoppedIn moves
      (∀ tokens, (tokenize text).outcome = .ok tokens →
        moves.length = text.length ∧ Transition.AllAccepted moves) ∧
      (∀ failure, (tokenize text).outcome = .error failure →
        ∃ fault position, failure = .lexical fault position ∧
          (position = text.length ∧ moves.length = position ∧ Transition.AllAccepted moves ∧
              fault.message = stopped.prematureEnd ∨
            position < text.length ∧ moves.length = position + 1 ∧ Transition.LastRefused moves ∧
              fault.message = stopped.rejection)) ∧
      ((∃ tokens, (tokenize text).outcome = .ok tokens) ↔
        Transition.AllAccepted moves ∧
          stopped ∈ [.inDigits, .inFraction, .afterRightParenthesis])) := by
  refine ⟨Phase.start.transitions text.toList, traces_tokenize text, ?_,
    Phase.traces_transitions .start text.toList, ?_⟩
  · rw [traces_tokenize, List.map_map]
    apply List.map_congr_left
    rintro ⟨source, character, target⟩ _
    cases target <;> rfl
  · intro stopped
    rw [← String.length_toList, outcome_tokenize]
    cases ran : Scan.run text.toList with
    | ok tokens =>
        obtain ⟨final, ⟨length, accepted, stoppedEq⟩, isFinal⟩ := Scan.exists_walks_of_run ran
        refine ⟨fun _ _ => ⟨length, accepted⟩, nofun, fun _ => ⟨accepted, ?_⟩, fun _ => ⟨_, rfl⟩⟩
        rw [← Phase.isFinal_iff, show stopped = final.phase from stoppedEq]
        exact isFinal
    | error failure =>
        obtain ⟨fault, position, rfl, givesUp⟩ := Scan.run_eq_error_iff.1 ran
        refine ⟨nofun, ?_, nofun, ?_⟩
        · intro other same
          cases same
          refine ⟨fault, position, rfl, ?_⟩
          rcases givesUp.moves with ⟨atEnd, length, accepted, _, faultEq⟩ |
            ⟨before, length, refused, faultEq⟩
          · exact .inl ⟨atEnd, length, accepted, congrArg LexicalFault.message faultEq⟩
          · exact .inr ⟨before, length, refused, congrArg LexicalFault.message faultEq⟩
        · intro ⟨accepted, mayEnd⟩
          rcases givesUp.moves with ⟨_, _, _, notFinal, _⟩ | ⟨_, _, refused, _⟩
          · rw [Phase.isFinal_iff.2 mayEnd] at notFinal
            cases notFinal
          · exact absurd accepted (Transition.not_allAccepted_of_lastRefused refused)

/-- The scan of `(1+)2` makes four moves, each with its record, and the phase after an operator
refuses the last. -/
theorem trace_of_operator_before_rightParenthesis :
    (tokenize "(1+)2").outcome = .error (.lexical (.refused .afterOperator) 3) ∧
    ((tokenize "(1+)2").traces.map Event.message =
      ["Init --'('--> AfterLeftParenthesis", "AfterLeftParenthesis --'1'--> InDigits",
        "InDigits --'+'--> AfterOperator", "AfterOperator --')'--> Error"]) ∧
    ∃ moves : List Transition,
      (tokenize "(1+)2").traces = moves.map .moved ∧ moves.length = 4 ∧
        Transition.LastRefused moves ∧
        (Phase.start.stoppedIn moves).rejection =
          "after an operator there can only be a digit or a left parenthesis" := by
  have failed : (tokenize "(1+)2").outcome = .error (.lexical (.refused .afterOperator) 3) := rfl
  obtain ⟨moves, traces, _, _, _, ofFailure, _⟩ := trace_is_run_of_automaton "(1+)2"
  obtain ⟨fault, position, failureEq, atEnd | ⟨_, length, refused, message⟩⟩ := ofFailure _ failed
  · cases failureEq
    exact absurd atEnd.1 (by decide)
  · cases failureEq
    refine ⟨failed, ?_, moves, traces, length, refused, message.symm⟩
    decide +kernel

end Reckon
