import Reckon.Failure
import Reckon.Token

/-!
Contract: splitting a text into tokens.

Owns: the state of a scan in progress, the step that takes in one character, and the closing step.

Does not own: which character may follow which; `Phase.next` decides that.  A scan only collects the
characters that the automaton lets through.
-/

set_option autoImplicit false

namespace Reckon

/-- A scan in progress: the tokens that are complete, the digits of a number that may go on, and how
many characters were taken in. -/
structure Scan where
  phase : Phase
  tokens : Array Token
  number : String
  numberKind : Token.Kind
  position : Nat
deriving Repr

namespace Scan

def start : Scan := ⟨.start, #[], "", .integer, 0⟩

/-- Complete the number under way, if there is one. -/
def flush (scan : Scan) : Scan :=
  if scan.number.isEmpty then scan
  else { scan with tokens := scan.tokens.push ⟨scan.number, scan.numberKind⟩, number := "" }

def emit (scan : Scan) (token : Token) : Scan :=
  { scan with tokens := scan.tokens.push token }

/-- Append a character to the number under way. -/
def append (scan : Scan) (character : Char) : Scan :=
  { scan with number := scan.number.push character }

def ofKind (scan : Scan) (kind : Token.Kind) : Scan := { scan with numberKind := kind }

/-- Collect the character that led to a phase.  The kind of a number is set at its first digit, and
again at its point. -/
def collect (scan : Scan) (character : Char) : Phase → Scan
  | .start => scan -- No character leads to the start: `Phase.next_ne_start`.
  | .afterLeftParenthesis => scan.emit .leftParenthesis
  | .afterUnaryMinus => scan.emit .unaryMinus
  | .inDigits => (if scan.phase = .inDigits then scan else scan.ofKind .integer).append character
  | .afterPoint => (scan.ofKind .floatingPoint).append character
  | .inFraction => scan.append character
  | .afterRightParenthesis => scan.flush.emit .rightParenthesis
  | .afterOperator => scan.flush.emit (.operator character)

/-- Take in one character, or fail at its position. -/
def step (scan : Scan) (character : Char) : Except Failure Scan :=
  match scan.phase.next (.ofChar character) with
  | some target =>
      .ok { scan.collect character target with phase := target, position := scan.position + 1 }
  | none => .error (.lexical (.refused scan.phase) scan.position)

theorem step_eq_ok_iff {scan next : Scan} {character : Char} :
    scan.step character = .ok next ↔
      ∃ target, scan.phase.next (.ofChar character) = some target ∧
        { scan.collect character target with phase := target, position := scan.position + 1 }
          = next := by
  unfold step
  cases scan.phase.next (.ofChar character) <;> simp

/-- A step fails exactly if the automaton refuses the character, and names the phase and the
position it was in. -/
theorem step_eq_error_iff {scan : Scan} {character : Char} {failure : Failure} :
    scan.step character = .error failure ↔
      scan.phase.next (.ofChar character) = none ∧
        .lexical (.refused scan.phase) scan.position = failure := by
  unfold step
  cases scan.phase.next (.ofChar character) <;> simp

/-- Close a scan at the end of the text. -/
def finish (scan : Scan) : Except Failure (List Token) :=
  if scan.phase.isFinal then .ok scan.flush.tokens.toList
  else .error (.lexical (.endedIn scan.phase) scan.position)

/-- A scan fails at the end exactly in the phases in which a text may not end. -/
theorem finish_eq_error_iff {scan : Scan} {failure : Failure} :
    scan.finish = .error failure ↔
      scan.phase.isFinal = false ∧ .lexical (.endedIn scan.phase) scan.position = failure := by
  unfold finish
  cases scan.phase.isFinal <;> simp

def run (characters : List Char) : Except Failure (List Token) := do
  let scan ← characters.foldlM step start
  scan.finish

end Scan

end Reckon
