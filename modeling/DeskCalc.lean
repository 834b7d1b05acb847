import DeskCalc.Expr
import DeskCalc.Main
import DeskCalc.Token.Item
import DeskCalc.Proofs.Batch.Lines
import DeskCalc.Proofs.Binary64.Bits
import DeskCalc.Proofs.Binary64.Floats
import DeskCalc.Proofs.Binary64.Nearest
import DeskCalc.Proofs.Binary64.Overflow
import DeskCalc.Proofs.Binary64.Overshoot
import DeskCalc.Proofs.Binary64.Rounding
import DeskCalc.Proofs.Calculator.Acceptance
import DeskCalc.Proofs.Calculator.Composition
import DeskCalc.Proofs.Calculator.Display
import DeskCalc.Proofs.Calculator.Literal
import DeskCalc.Proofs.Calculator.Logarithm
import DeskCalc.Proofs.Calculator.Meaning
import DeskCalc.Proofs.Calculator.Precheck
import DeskCalc.Proofs.Calculator.Row
import DeskCalc.Proofs.Calculator.Safety
import DeskCalc.Proofs.Calculator.Stages
import DeskCalc.Proofs.CommandLine.Leftover
import DeskCalc.Proofs.CommandLine.Value
import DeskCalc.Proofs.CommandLine.Word
import DeskCalc.Proofs.Decimal.Fixed
import DeskCalc.Proofs.Decimal.Literal
import DeskCalc.Proofs.Decimal.Positional
import DeskCalc.Proofs.Expr.Failure
import DeskCalc.Proofs.Files.Append
import DeskCalc.Proofs.Files.Refusal
import DeskCalc.Proofs.Infix.Precedence
import DeskCalc.Proofs.Infix.Sentence
import DeskCalc.Proofs.Postfix.Group
import DeskCalc.Proofs.Postfix.Renaming
import DeskCalc.Proofs.Postfix.Listing
import DeskCalc.Proofs.Postfix.Order
import DeskCalc.Proofs.Postfix.Recognition
import DeskCalc.Proofs.Postfix.Rejection
import DeskCalc.Proofs.Postfix.Run
import DeskCalc.Proofs.Postfix.Stack
import DeskCalc.Proofs.Report.Table
import DeskCalc.Proofs.Report.Records
import DeskCalc.Proofs.Result
import DeskCalc.Proofs.Session.BatchTurn
import DeskCalc.Proofs.Session.Dialog
import DeskCalc.Proofs.Session.Ending
import DeskCalc.Proofs.Session.Expression
import DeskCalc.Proofs.Session.History
import DeskCalc.Proofs.Session.Records
import DeskCalc.Proofs.Text.Line
import DeskCalc.Proofs.Token.Blanks
import DeskCalc.Proofs.Token.Fault
import DeskCalc.Proofs.Token.Lexeme
import DeskCalc.Proofs.Token.Lossless
import DeskCalc.Proofs.Token.Names
import DeskCalc.Proofs.Token.Parentheses
import DeskCalc.Proofs.Token.Runs
import DeskCalc.Proofs.Token.Scanning
import DeskCalc.Proofs.Token.Spelling
