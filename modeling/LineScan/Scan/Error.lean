import LineScan.Scan.Fault
import LineScan.Text.Line

/-!
# Scan errors

A *complaint* is the cause of a scan error, and `Complaint.message` is its wording. A `ScanError` is
a complaint at a column of a line; it also names the scanner it comes from, so that a handler can
tell its own errors from those of another scanner.

`ScanError.context` shows the line with a caret under the column. The gutter on the left is as wide
as the line number, so the caret is aligned whatever the number of digits.
-/

namespace LineScan

/-- What is wrong with a line: first the scanner's own complaints, then those of the calculator. -/
inductive Complaint where
  /-- A message in the application's own words. -/
  | said (text : String)
  /-- Something with a label was expected at a column. -/
  | expected (label : String) (column : Int)
  /-- Something was demanded in the application's own words at a column. -/
  | demanded (text : String) (column : Int)
  | overflow
  | divisionByZero
  | unbound (name : String)
  | unknownFunction (name : String)
  | tooManyArguments (name : String)
  | argumentNeeded (name : String)
  | unclosedCall (name : String)
  | tooDeep
  | syntaxError (column : Int)
  deriving DecidableEq, Repr

/-- The wording of a complaint. -/
def Complaint.message : Complaint → String
  | .said text => text
  | .expected label column => s!"expected {label} at pos {column}"
  | .demanded text column => s!"{text} at pos {column}"
  | .overflow => "integer overflow"
  | .divisionByZero => "division by zero"
  | .unbound name => s!"{name} not found in environment"
  | .unknownFunction name => s!"unknown function {name}"
  | .tooManyArguments name => s!"function {name}: too many args"
  | .argumentNeeded name => s!"function {name}: needs at least one arg"
  | .unclosedCall name => s!"unclosed paren on function call {name}"
  | .tooDeep => "expression too deeply nested"
  | .syntaxError column => s!"syntax error at pos {column}"

/-- A complaint about a line. Columns count from one. -/
structure ScanError where
  complaint : Complaint
  /-- The column; it may lie outside the line. -/
  position : Int
  line : Line
  /-- The scanner that raised the error, if one did. -/
  origin : Option Nat
  deriving DecidableEq, Repr

namespace ScanError

/-- The wording of the error. -/
def message (e : ScanError) : String := e.complaint.message

/-- The column that is shown: at least one. -/
def column (e : ScanError) : Int := max 1 e.position

/-- The line as it is shown: without line feeds at its end and then without carriage returns. -/
def shownLine (e : ScanError) : Line :=
  (e.line.dropEndWhile (· == '\n')).dropEndWhile (· == '\r')

/-- The five lines that show the error in its context. -/
def contextLines (e : ScanError) (filename : Line) (lineNumber : Int) : List Line :=
  let number := Decimal.intText lineNumber
  let gutter := List.replicate (number.length + 1) ' '
  let place :=
    "--> ".toList ++ filename ++ ':' :: number ++ ':' :: Decimal.intText e.column
  [ "error: ".toList ++ e.message.toList,
    gutter ++ place,
    gutter ++ ['|'],
    number ++ " | ".toList ++ e.shownLine,
    gutter ++ "| ".toList ++ List.replicate (e.column - 1).toNat ' ' ++ ['^'] ]

/-- The error in its context, as one text. -/
def context (e : ScanError) (filename : String) (lineNumber : Int) : String :=
  String.ofList (List.intercalate ['\n'] (e.contextLines filename.toList lineNumber))

/-- The error in its context, unless the line number is too long to be written or there is no room
for the text. The margin of the caret is made first. -/
def context? (room : Text.Room) (e : ScanError) (filename : String) (lineNumber : Int) :
    Except Fault String := do
  let _ ← (room.length (e.column - 1).toNat).mapError Fault.overlong
  let _ ← Fault.ofOversize (Decimal.write lineNumber)
  let text := e.context filename lineNumber
  let _ ← (room.length text.length).mapError Fault.overlong
  pure text

end ScanError

end LineScan
