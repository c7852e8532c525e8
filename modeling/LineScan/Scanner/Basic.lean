import LineScan.Scanner.Hook

/-!
# Scanners and rules

A grammar rule is a computation on a scanner. It calls `accept` to probe for a target and `expect`
to require one; the cursor moves only when a target matches. A failed `expect`, an explicit
complaint and a complaint of a terminal all raise a scan error, through `unwind`.
-/

namespace LineScan

/-- A grammar rule. -/
abbrev Rule := EStateM Failure Scanner

namespace Rule

/-- Raise a complaint. -/
def complain {α : Type} (setting : Setting) (c : Complaint) : Rule α := fun s =>
  match s.unwind setting c with
  | .ok _ s => .error (.scan (s.errorOf c)) s
  | .error e s => .error e s

/-- Stop with a fault. -/
def fault {α : Type} (f : Fault) : Rule α := throw (.fault f)

/-- Run an attempt on the scanner's bench; a complaint of a terminal unwinds. -/
def onBench {α : Type} (setting : Setting) (m : EStateM Abort Bench α) : Rule α := fun s =>
  match m s.toBench with
  | .ok a b => .ok a { s with toBench := b }
  | .error (.complaint c) b => complain setting c { s with toBench := b }
  | .error (.fault f) b => .error (.fault f) { s with toBench := b }

/-- Point the scanner at the start of a line. -/
def reset (line : Line) : Rule Unit := modify fun s => s.startLine line

/-- Register a cleanup hook, or withdraw the one there is. -/
def onCleanup (hook : Option Hook) : Rule Unit := modify fun s => { s with hook := hook }

/-- Enter something in the journal. -/
def enter (e : Entry) : Rule Unit := modify fun s => { s with toBench := s.toBench.enter e }

/-- Scan for what is wanted: move past it and answer `true`, or stay and answer `false`. -/
def accept (setting : Setting) (wanted : Wanted) : Rule Bool :=
  onBench setting (Bench.accept setting wanted)

/-- Scan for a target. -/
def acceptTarget (setting : Setting) (target : Target) : Rule Bool :=
  onBench setting (Bench.attempt setting target)

/-- Scan for several targets in order; move past all of them, or stay. -/
def acceptAll (setting : Setting) (wanted : List Wanted) : Rule Bool :=
  onBench setting (Bench.acceptAll setting wanted)

/-- Raise a complaint that names a column. A column that cannot be written is a fault, and then
nothing has changed. -/
def complainAt {α : Type} (setting : Setting) (column : Int) (c : Complaint) : Rule α := fun s =>
  match s.state.line.write column with
  | .ok _ => complain setting c s
  | .error cause => .error (.fault (.oversize cause)) s

/-- Require a target. The complaint names the column, after a text given with `what` or after the
label of the target. -/
def expectTarget (setting : Setting) (target : Target) (what : Option String) : Rule Unit := do
  if ← acceptTarget setting target then
    pure ()
  else
    let column := (← get).state.errorColumn
    complainAt setting column (match what with
      | some text => .demanded text column
      | none => .expected target.label column)

/-- Require what is wanted. -/
def expect (setting : Setting) (wanted : Wanted) (what : Option String) : Rule Unit := do
  let target ← onBench setting (Bench.coerce setting wanted)
  expectTarget setting target what

/-- Raise a message, given as a template with arguments. A template that cannot be filled is a
fault, and then nothing has changed. -/
def error {α : Type} (setting : Setting) (template : String) (args : List Datum) : Rule α :=
  match Message.compose setting.room template args with
  | .ok text => complain setting (.said text)
  | .error cause => fault (.template cause)

/-- Run a rule on a line from its start. After a success the hook is withdrawn. The rule may work on
more than the scanner. -/
def parse {m : Type → Type} [Monad m] [MonadLiftT Rule m] {α : Type} (line : Line) (rule : m α) :
    m α := do
  reset line
  let result ← rule
  onCleanup none
  pure result

end Rule

end LineScan
