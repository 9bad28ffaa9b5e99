import Reckon.CommandLine
import Reckon.Expression
import Reckon.Main
import Reckon.Proofs.Calculator.Course
import Reckon.Proofs.Calculator.Image
import Reckon.Proofs.Calculator.Log
import Reckon.Proofs.CommandLine.Batch
import Reckon.Proofs.CommandLine.Display
import Reckon.Proofs.CommandLine.PrintedValue
import Reckon.Proofs.Expression
import Reckon.Proofs.ReversePolish.Arrangement
import Reckon.Proofs.ReversePolish.Conservation
import Reckon.Proofs.ReversePolish.Fault
import Reckon.Proofs.ReversePolish.Frame
import Reckon.Proofs.ReversePolish.LostParenthesis
import Reckon.Proofs.ReversePolish.Nesting
import Reckon.Proofs.ReversePolish.Reading
import Reckon.Proofs.ReversePolish.Stack
import Reckon.Proofs.Scan.Coherence
import Reckon.Proofs.Scan.Resumption
import Reckon.Proofs.Scan.Tokenization
import Reckon.Proofs.Scan.Trace
import Reckon.Proofs.Scan.Viability
import Reckon.Proofs.Text.Line
import Reckon.Proofs.Token.Field
import Reckon.ReversePolish.Reading
import Reckon.Scan.Viable
import Reckon.Token.Nesting
