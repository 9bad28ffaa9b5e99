import Reckon.Calculator
import Reckon.Text.Line
import Reckon.Token

/-!
Contract: the command line of the calculator, as a function of what it is asked for and its standard
input.

Owns:
- what is shown of one calculation;
- a run on one expression, and a run on the lines of standard input.

Does not own: the arguments, reading and writing; `Reckon.Main` does that.
-/

set_option autoImplicit false

namespace Reckon.CommandLine

structure Options where
  showTokens : Bool := false
  showReversePolish : Bool := false
deriving DecidableEq, Repr

/-- One calculation: the lines shown on the way to its value, and the value. -/
structure Calculation where
  shown : List String
  outcome : Except Failure Float

/-- What a run leaves behind: the lines of both output streams and the exit code. -/
structure Outcome where
  output : List String
  diagnostics : List String
  exitCode : UInt8
deriving DecidableEq, Repr

/-- Lines as a stream holds them, each ended by a newline. -/
def renderLines (lines : List String) : String :=
  String.join (lines.map (· ++ "\n"))

def tokensLine (tokens : List Token) : String := "tokens: " ++ Token.spaced tokens

def reversePolishLine (tokens : List Token) : String := "postfix: " ++ Token.spaced tokens

/-- The line of tokens, where it is asked for.  It takes a scan of its own, which may fail. -/
def tokensShown (options : Options) (expression : String) : Except Failure (List String) :=
  if options.showTokens then (tokenize expression).outcome.map fun tokens => [tokensLine tokens]
  else .ok []

/-- The line of the reverse Polish form, where it is asked for. -/
def reversePolishShown (options : Options) (arranged : List Token) : List String :=
  if options.showReversePolish then [reversePolishLine arranged] else []

/-- Calculate an expression.  Its tokens are shown as soon as it is scanned, even if it turns out
later to have no value, and its reverse Polish form as soon as it is arranged. -/
def calculate (options : Options) (expression : String) : Calculation :=
  match tokensShown options expression with
  | .error failure => ⟨[], .error failure⟩
  | .ok scanned =>
      match (convert expression).outcome with
      | .error failure => ⟨scanned, .error failure⟩
      | .ok arranged =>
          ⟨scanned ++ reversePolishShown options arranged, (evaluateReversePolish arranged).outcome⟩

/-- The lines that a calculation puts out: what it shows, and its value if it has one. -/
def Calculation.output (calculation : Calculation) : List String :=
  calculation.shown ++
    match calculation.outcome with
    | .ok value => [Decimal.text value]
    | .error _ => []

def Calculation.failure? (calculation : Calculation) : Option Failure :=
  match calculation.outcome with
  | .ok _ => none
  | .error failure => some failure

def errorLine (reason : String) : String := "Error: " ++ reason

def runExpression (options : Options) (expression : String) : Outcome :=
  let calculation := calculate options expression
  match calculation.failure? with
  | none => ⟨calculation.output, [], 0⟩
  | some failure => ⟨calculation.output, [errorLine failure.message], 1⟩

/-- A run on lines under way: the lines of both output streams so far, how many expressions were
calculated, and how many of them failed.  Both counts have 32 bits and a sign. -/
structure Batch where
  output : Array String
  diagnostics : Array String
  calculated : Int32
  failed : Int32
deriving Repr

namespace Batch

def start : Batch := ⟨#[], #[], 0, 0⟩

/-- Calculate a line, unless it is blank.  A failure is reported with the line it belongs to. -/
def step (options : Options) (batch : Batch) (line : String) : Batch :=
  if Text.isBlank line then batch
  else
    let calculation := calculate options line
    let next :=
      { batch with output := batch.output ++ calculation.output, calculated := batch.calculated + 1 }
    match calculation.failure? with
    | none => next
    | some failure =>
        { next with
          diagnostics := batch.diagnostics.push (line ++ ": " ++ failure.message)
          failed := batch.failed + 1 }

/-- End a run for a reason that counts against all of it. -/
def abort (batch : Batch) (reason : String) : Outcome where
  output := batch.output.toList
  diagnostics := (batch.diagnostics.push (errorLine reason)).toList
  exitCode := 1

/-- End a run behind its last line. -/
def finish (batch : Batch) : Outcome :=
  if 0 < batch.failed then
    batch.abort (Int.repr batch.failed.toInt ++ " of " ++ Int.repr batch.calculated.toInt ++
      " expressions could not be evaluated")
  else ⟨batch.output.toList, batch.diagnostics.toList, 0⟩

/-- Take in lines up to the first one that cannot be decoded, which is `none`.  That one ends the
run, and then failures are not counted up. -/
def run (options : Options) (batch : Batch) : List (Option String) → Outcome
  | [] => batch.finish
  | none :: _ => batch.abort "stream did not contain valid UTF-8"
  | some line :: rest => (batch.step options line).run options rest

end Batch

/-- A run on lines, each calculated on its own. -/
def runLines (options : Options) (lines : List (Option String)) : Outcome :=
  Batch.start.run options lines

def runStream (options : Options) (bytes : List UInt8) : Outcome :=
  runLines options ((Text.Line.split bytes).map Text.Line.decode?)

end Reckon.CommandLine
