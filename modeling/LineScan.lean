import LineScan.Session.Run
import LineScan.Session.Stock
import LineScan.Diagnostics
import LineScan.Main
import LineScan.Proofs.ErrorColumn
import LineScan.Proofs.Conservation
import LineScan.Proofs.Invisibility
import LineScan.Proofs.Independence
import LineScan.Proofs.Unwinding
import LineScan.Proofs.OneShot
import LineScan.Proofs.Pointing
import LineScan.Proofs.WholeRun
import LineScan.Proofs.Respacing
import LineScan.Proofs.Excused
import LineScan.Proofs.Limits
import LineScan.Proofs.Tracing
import LineScan.Proofs.Procedure
import LineScan.Proofs.Documents
import LineScan.Proofs.Overflow
import LineScan.Calculator.Descent
import LineScan.Proofs.Descent
import LineScan.Scan.Catalog
import LineScan.Proofs.ExitCode
import LineScan.Proofs.Registration
import LineScan.Proofs.Literals
import LineScan.Proofs.LineEnds
import LineScan.Proofs.Spans
import LineScan.Proofs.HookReports
import LineScan.Proofs.DocumentColumns
import LineScan.Proofs.Punctuation
import LineScan.Proofs.TerminalNumbers
import LineScan.Proofs.PartialAcceptance
import LineScan.Proofs.Precedence
import LineScan.Proofs.WrittenIntegers
import LineScan.Proofs.Caret
