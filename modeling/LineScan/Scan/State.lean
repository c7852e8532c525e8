import LineScan.Scan.Error
import LineScan.Scan.Fault

/-!
# The scan state

The state of one parse: the line, the cursor, what the last match covered, and what is known about
the last failure. A *reading* is what a scanning function of the application reports, and a *match*
is what the scanner makes of it: a miss always has a place.

A scanning function works on the state alone. It may also give up, with a complaint about the line
or with a fault; the scanner turns a complaint into an error.
-/

namespace LineScan

/-- Cursor, last match and error context of one parse. -/
structure ScanState where
  line : Line := []
  /-- Where the next attempt starts. -/
  cursor : Int := 0
  /-- Where the attempt in progress found its text, past the blanks. -/
  matchStart : Int := 0
  /-- Where the last failed attempt diverged. -/
  failPosition : Option Int := none
  matchLength : Int := 0
  /-- Start of the last accepted match. -/
  lastStart : Int := 0
  /-- Length of the last accepted match. -/
  lastLength : Int := 0
  /-- The value of the last accepted terminal. -/
  value : Datum := .none
  errorMessage : Option String := none
  pendingDetail : Option String := none

namespace ScanState

instance : Inhabited ScanState := ⟨{}⟩

/-- The state at the start of a line. -/
def start (line : Line) : ScanState := { line }

/-- The column of the last failure, or of the cursor when there is none; columns count from one. -/
def errorColumn (s : ScanState) : Int := s.failPosition.getD s.cursor + 1

/-- The text of the last accepted match. -/
def matched (s : ScanState) : Line := s.line.slice s.lastStart (s.lastStart + s.lastLength)

/-- The text that is not yet consumed. -/
def rest (s : ScanState) : Line := s.line.sliceFrom s.cursor

end ScanState

/-- The decimal text of a position on a line, or of a column of it. A line has fewer characters than
`10 ^ Decimal.digitLimit`, so what lies on it can always be written; for any other integer there is
the limit. -/
def Line.write (line : Line) (n : Int) : Except Decimal.Oversize String :=
  if n.natAbs ≤ line.length + 1 then .ok (String.ofList (Decimal.intText n)) else Decimal.write n

/-- What a scanning function of the application reports. -/
inductive Reading where
  /-- It consumed the text up to `stop`. -/
  | hit (stop : Int) (value : Datum)
  /-- It did not match; it may say where. -/
  | miss (place : Option Int)

/-- The outcome of one attempt. -/
inductive Match where
  /-- The text up to `stop` is consumed. -/
  | hit (stop : Int) (value : Datum)
  /-- The scan diverged at a place. -/
  | miss (place : Int)

/-- Where an attempt ended: past the text, or where the scan diverged. -/
def Match.place : Match → Int
  | .hit stop _ => stop
  | .miss place => place

/-- Why a scanning function gives up. -/
inductive Abort where
  | complaint (cause : Complaint)
  | fault (cause : Fault)

/-- A computation on the scan state that may give up. -/
abbrev Scan := EStateM Abort ScanState

/-- A scanning function: it is given a position past the blanks. -/
abbrev ScanFunction := Int → Scan Reading

namespace Scan

/-- Give up with a complaint. -/
def complain {α : Type} (cause : Complaint) : Scan α := throw (.complaint cause)

/-- The first position at or after `pos` that holds no blank. -/
def skipBlanks (pos : Int) : Scan Int := do
  match (← get).line.skipBlanks pos with
  | .ok p => pure p
  | .error cause => throw (.fault (.ofLine cause))

end Scan

end LineScan
