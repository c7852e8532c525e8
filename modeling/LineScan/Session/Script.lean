import LineScan.Scanner.Sweep

/-!
# Scripts

A session holds several scanners over one registry, and a script is a list of operations on them.
Rules are scripts too: parsing a line and sweeping over lines run a script as their rule, to any
depth and on any of the scanners. Every operation has an answer.
-/

namespace LineScan.Session

/-- A target as a script writes it. -/
inductive Mention where
  | literal (text : Line)
  /-- A character target; the text must be one character. -/
  | character (text : String)
  /-- The terminal of a name. -/
  | named (name : String)
  | bare (d : Datum)

/-- Build the target that a script writes. -/
def Mention.build (registry : Registry) : Mention → Except Fault Wanted
  | .literal text => .ok (.target (.literal text))
  | .character text =>
    match text.toList with
    | [c] => .ok (.target (.char c))
    | _ => .error (.notOneCharacter text)
  | .named name =>
    match registry.find? name with
    | some t => .ok (.target (.terminal t))
    | none => .error (.unknownTerminal name)
  | .bare d => .ok (.bare d)

/-- A field of the scan state with a new value for it. -/
inductive Assignment where
  | line (text : Line)
  | cursor (n : Int)
  | matchStart (n : Int)
  | failPosition (n : Option Int)
  | matchLength (n : Int)
  | lastStart (n : Int)
  | lastLength (n : Int)
  | value (d : Datum)
  | errorMessage (text : Option String)
  | pendingDetail (text : Option String)

/-- The state with the field set. -/
def Assignment.apply (s : ScanState) : Assignment → ScanState
  | .line text => { s with line := text }
  | .cursor n => { s with cursor := n }
  | .matchStart n => { s with matchStart := n }
  | .failPosition n => { s with failPosition := n }
  | .matchLength n => { s with matchLength := n }
  | .lastStart n => { s with lastStart := n }
  | .lastLength n => { s with lastLength := n }
  | .value d => { s with value := d }
  | .errorMessage text => { s with errorMessage := text }
  | .pendingDetail text => { s with pendingDetail := text }

/-- An operation on one scanner. -/
inductive Action where
  | reset (line : Line)
  | accept (target : Mention)
  | acceptAll (targets : List Mention)
  | expect (target : Mention) (what : Option String)
  | error (template : String) (args : List Datum)
  | onCleanup (hook : Option Hook)
  | value
  | matched
  /-- Accept the first of several targets that matches. -/
  | choose (targets : List Mention)
  /-- Accept a target again and again, at most `max` times. -/
  | many (target : Mention) (max : Nat)
  | assign (assignment : Assignment)
  | scanChar (wanted : Line) (pos : Int)
  | scanLiteral (wanted : Line) (pos : Int)
  | scanTerminal (name : String) (pos : Int)
  | dispatch (target : Mention)
  | coerce (target : Mention)
  | label (target : Mention)
  /-- How an attempt is described in a trace. -/
  | describe (target : Mention) (line : Line) (pos : Int)

/-- One operation of a script; `scanner` is the place of the scanner it works on. -/
inductive Op where
  | act (scanner : Int) (action : Action)
  /-- Run a script in its place. -/
  | nest (body : List Op)
  /-- Parse a line, with a script as the rule. -/
  | parse (scanner : Int) (line : Line) (rule : List Op)
  /-- Sweep over lines, with a script as the rule; `stop` ends the sweep at the first error. -/
  | sweep (scanner : Int) (lines : List Line) (rule : List Op) (stop : Bool)

instance : Inhabited Op := ⟨.nest []⟩

/-- The answer of an operation. -/
inductive Answer where
  | nothing
  | flag (b : Bool)
  | count (n : Nat)
  | datum (d : Datum)
  | text (s : String)
  | found (m : Match)
  | target (t : Target)
  | list (answers : List Answer)
  /-- The lines that parsed, the errors that were handled, and what ended the sweep early. -/
  | swept (yielded : List (Line × List Answer)) (errors : List ScanError) (raised : Option Failure)

end LineScan.Session
