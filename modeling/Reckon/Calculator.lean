import Reckon.Report
import Reckon.ReversePolish
import Reckon.Scan

/-!
Contract: the calculator as a whole.

Owns:
- what each step of a stage reports;
- the stages from a text to its value, each with its report, and their composition.

Does not own: how a stage works.  What a step comes to is decided without a report.
-/

set_option autoImplicit false

namespace Reckon

/-- Take in one character, and report the move or the refusal. -/
def Scan.advance (scan : Scan) (character : Char) : Report Scan := do
  .emit (.moved ⟨scan.phase, character, scan.phase.next (.ofChar character)⟩)
  .ofExcept (scan.step character)

@[simp]
theorem Scan.outcome_advance (scan : Scan) (character : Char) :
    (scan.advance character).outcome = scan.step character :=
  Report.outcome_ofExcept (scan.step character)

/-- The tokens of a text, in the order they are written. -/
def tokenize (text : String) : Report (List Token) :=
  .announce (.tokenized text) do
    let scan ← text.toList.foldlM Scan.advance .start
    .ofExcept scan.finish

/-- Announce a token and take it in.  The last token announced is the one that a failing yard fails
on. -/
def ShuntingYard.receive (yard : ShuntingYard) (token : Token) : Report ShuntingYard := do
  .emit (.shunted token)
  .ofExcept ((yard.step token).mapError .unbalanced)

@[simp]
theorem ShuntingYard.outcome_receive (yard : ShuntingYard) (token : Token) :
    (yard.receive token).outcome = (yard.step token).mapError .unbalanced :=
  Report.outcome_ofExcept ((yard.step token).mapError .unbalanced)

/-- Bring tokens from the conventional order into reverse Polish order. -/
def arrange (tokens : List Token) : Report (List Token) :=
  .announce .arranged do
    if tokens.isEmpty then .fail .emptyInput
    else
      let yard ← tokens.foldlM ShuntingYard.receive .empty
      .emit .tokensEnded
      .ofExcept (yard.finish.mapError .unbalanced)

/-- The tokens of a text in reverse Polish order. -/
def convert (text : String) : Report (List Token) := do
  let tokens ← tokenize text
  arrange tokens

/-- Take in one token.  Only a failure is reported. -/
def Evaluation.advance (evaluation : Evaluation) (token : Token) : Report Evaluation :=
  .ofExcept ((evaluation.step token).mapError .evaluation)

@[simp]
theorem Evaluation.outcome_advance (evaluation : Evaluation) (token : Token) :
    (evaluation.advance token).outcome = (evaluation.step token).mapError .evaluation :=
  Report.outcome_ofExcept ((evaluation.step token).mapError .evaluation)

/-- The value of tokens in reverse Polish order. -/
def evaluateReversePolish (tokens : List Token) : Report Float := do
  let evaluation ← tokens.foldlM Evaluation.advance .start
  .ofExcept (evaluation.finish.mapError .evaluation)

/-- The value of a text. -/
def evaluate (text : String) : Report Float :=
  .announce (.evaluated text) do
    let tokens ← convert text
    evaluateReversePolish tokens

end Reckon
