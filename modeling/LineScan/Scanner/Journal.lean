import LineScan.Scan.Matcher

/-!
# The journal of a run

Everything that a run lets the outside see, apart from its results, is an entry of its journal, in
the order in which it happened: attempts and their outcomes when tracing is on, hooks that fired,
errors that were handled, notices, and the lines written to the output. The texts on the output and
on the error stream are views of the journal.
-/

namespace LineScan

/-- One thing that happened. -/
inductive Entry where
  /-- A target is about to be scanned for, on a line and from a cursor. -/
  | attempt (target : Target) (line : Line) (cursor : Int)
  /-- How the attempt ended. -/
  | outcome (m : Match)
  /-- A cleanup hook with this label fired. -/
  | fired (label : String)
  /-- An error reached its handler. -/
  | handled
  /-- A line on the error stream that is no error. -/
  | notice (text : String)
  /-- An error, reported on the error stream. -/
  | report (text : String)
  /-- A line of output. -/
  | result (text : String)

namespace Entry

/-- The first line of a trace: what is scanned for, where, and the text that follows. It is entered
only if the cursor can be written. -/
def attemptText (described : String) (line : Line) (cursor : Int) : String :=
  described ++ s!", at {cursor}: " ++
    String.ofList (Text.quotationMark :: line.sliceFrom cursor ++ [Text.quotationMark, '\n'])

/-- The second line of a trace: whether the attempt matched, and where it ended. It is entered only
if that place can be written. -/
def outcomeText : Match → String
  | .hit stop _ => s!"  -> ok {stop}\n"
  | .miss place => s!"  -> fail {place}\n"

/-- What an entry adds to the trace. -/
def traceText : Entry → String
  | .attempt target line cursor => attemptText target.describe line cursor
  | .outcome m => outcomeText m
  | _ => ""

/-- What an entry adds to the messages: notices and reports. -/
def messageText : Entry → String
  | .notice text => text ++ "\n"
  | .report text => text ++ "\n"
  | _ => ""

/-- What an entry adds to the error stream: the trace and the messages. -/
def errorText (e : Entry) : String := e.traceText ++ e.messageText

/-- What an entry adds to the output. -/
def outputText : Entry → String
  | .result text => text ++ "\n"
  | _ => ""

/-- The event an entry stands for in the log of a session. -/
def event? : Entry → Option String
  | .fired label => some label
  | .handled => some "on_error"
  | _ => none

end Entry

/-- What a run has done to the outside so far. -/
structure Journal where
  entries : Array Entry := #[]
  /-- How many random numbers have been drawn. -/
  draws : Nat := 0

namespace Journal

instance : Inhabited Journal := ⟨{}⟩

/-- Add an entry. -/
def push (j : Journal) (e : Entry) : Journal := { j with entries := j.entries.push e }

/-- Forget the entries, but not how many random numbers have been drawn. -/
def clear (j : Journal) : Journal := { j with entries := #[] }

/-- The concatenation of a text per entry. -/
def textOf (j : Journal) (f : Entry → String) : String :=
  j.entries.foldl (fun text e => text ++ f e) ""

/-- The trace. -/
def trace (j : Journal) : String := j.textOf Entry.traceText

/-- The messages. -/
def messages (j : Journal) : String := j.textOf Entry.messageText

/-- The text on the error stream. -/
def errorStream (j : Journal) : String := j.textOf Entry.errorText

/-- The text on the output. -/
def output (j : Journal) : String := j.textOf Entry.outputText

/-- The events, in order. -/
def events (j : Journal) : List String := j.entries.toList.filterMap Entry.event?

end Journal

end LineScan
