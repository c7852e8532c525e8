import LineScan.Session.Run

/-!
# Routines

A routine is a rule that goes by the answers it gets. It works on all scanners of a session: it may
operate on any of them, parse a line with any of them, and handle lines with any of them, and the
rules of these are routines too, to any depth. Nothing but a handle catches an error: what a handle
does not catch leaves it, unlike a sweep of a script, and ends whatever the handle is nested in.
-/

namespace LineScan

namespace Session

/-- Handle lines on one scanner. The answer holds the lines that parsed and the errors that were
reported; whatever ends the sweep early is raised. -/
def handle (index : Int) (lines : List Line)
    (rule : Line → EStateM Failure Session (List Answer))
    (use : Line → List Answer → EStateM Failure Session Unit)
    (report : ScanError → EStateM Failure Session Unit) : EStateM Failure Session Answer :=
  fun session =>
    match session.scanner index with
    | .error cause => .error (.fault (.ofList cause)) session
    | .ok owner =>
      match Sweep.run (plan index owner.id rule use report) lines { state := session } with
      | .ok _ w => .ok (.swept w.yielded.toList w.errors.toList none) w.state
      | .error failure w => .error failure w.state

end Session

open Session (Answer Action)

/-- A rule that goes by the answers it gets. -/
inductive Routine where
  | done (answers : List Answer)
  /-- Raise a failure: any error, whatever scanner it names, or a fault. -/
  | raise (failure : Failure)
  /-- Operate on the scanner at an index. -/
  | act (index : Int) (action : Action) (next : Answer → Routine)
  /-- Parse a line on the scanner at an index. -/
  | parse (index : Int) (line : Line) (rule : Routine) (next : List Answer → Routine)
  /-- Handle lines on the scanner at an index: `use` is run after each line that parsed, before the
  next one is taken, and `report` after each that did not. -/
  | handle (index : Int) (lines : List Line) (rule : Line → Routine)
    (use : Line → List Answer → Routine) (report : ScanError → Routine) (next : Answer → Routine)

namespace Routine

/-- Run a routine on a session. -/
def run (setting : Setting) : Routine → EStateM Failure Session (List Answer)
  | .done answers => pure answers
  | .raise failure => throw failure
  | .act index action next => do
    let answer ← Session.onScanner index (action.run setting)
    (next answer).run setting
  | .parse index line rule next => do
    let answers ← Session.parse index line (rule.run setting)
    (next answers).run setting
  | .handle index lines rule use report next => do
    let answer ← Session.handle index lines (fun line => (rule line).run setting)
      (fun line answers => discard ((use line answers).run setting))
      (fun e => discard ((report e).run setting))
    (next answer).run setting

end Routine

end LineScan
