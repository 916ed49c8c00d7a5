import LineCalc.Main
import LineCalc.Proofs.Command.Ending
import LineCalc.Proofs.Command.FrontEnds
import LineCalc.Proofs.Command.Logging
import LineCalc.Proofs.Display
import LineCalc.Proofs.Double.LiteralGrammar
import LineCalc.Proofs.Double.PowerLaws
import LineCalc.Proofs.Evaluation
import LineCalc.Proofs.Expr.Failing
import LineCalc.Proofs.Expr.Product
import LineCalc.Proofs.Expr.Root
import LineCalc.Proofs.Expr.RoundTrip
import LineCalc.Proofs.Expr.Undefined
import LineCalc.Proofs.Line.Grammar
import LineCalc.Proofs.Line.Location
import LineCalc.Proofs.Line.OperandReading
import LineCalc.Proofs.Line.Recased
import LineCalc.Proofs.Line.Spacing
import LineCalc.Proofs.Line.Splitting
import LineCalc.Proofs.Line.Underline
import LineCalc.Proofs.Outcome.Agreement
import LineCalc.Proofs.Outcome.Lossless
import LineCalc.Proofs.Session.Dialogue
import LineCalc.Proofs.Settings.Loading
import LineCalc.Proofs.Settings.Precision
import LineCalc.Proofs.Settings.Validation
