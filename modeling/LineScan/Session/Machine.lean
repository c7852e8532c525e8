import LineScan.Session.Routine

/-!
# Routines, step by step

A machine runs a routine with an explicit stack. A frame of the stack is something that the routine
in focus is nested in: a line that is being parsed, or a handle that waits for the rule of a line,
for the use of its answers, or for the report of its error. A failure leaves frame after frame, up
to a handle that catches it.
-/

namespace LineScan.Routine

open Session (Answer)

/-- A handle in progress: what it was called with, and its record so far. -/
structure Handling where
  index : Int
  /-- The number of the scanner at the index. -/
  owner : Nat
  rule : Line → Routine
  use : Line → List Answer → Routine
  report : ScanError → Routine
  next : Answer → Routine
  yielded : Array (Line × List Answer) := #[]
  errors : Array ScanError := #[]

/-- Record the answers of a line that parsed. -/
def Handling.keep (h : Handling) (line : Line) (answers : List Answer) : Handling :=
  { h with yielded := h.yielded.push (line, answers) }

/-- Record an error. -/
def Handling.note (h : Handling) (e : ScanError) : Handling :=
  { h with errors := h.errors.push e }

/-- What a routine is nested in. -/
inductive Frame where
  /-- The routine is the rule of a line. -/
  | parsing (index : Int) (next : List Answer → Routine)
  /-- A handle parses a line; `rest` is still to come. -/
  | handling (h : Handling) (line : Line) (rest : List Line)
  /-- A handle has the answers of a line used. -/
  | consuming (h : Handling) (line : Line) (answers : List Answer) (rest : List Line)
  /-- A handle has an error reported. -/
  | reporting (h : Handling) (rest : List Line)

/-- What a machine is about to do. -/
inductive Focus where
  | running (routine : Routine)
  | raising (failure : Failure)

/-- A machine between two steps. The innermost frame comes first. -/
structure Config where
  focus : Focus
  stack : List Frame
  session : Session

/-- The machine that is about to run a program. -/
def Config.start (program : Routine) (count : Nat) : Config :=
  ⟨.running program, [], Session.start count⟩

/-- Go on after a computation that gave a result. -/
def Config.after {α : Type} (stack : List Frame) (next : α → Routine) :
    EStateM.Result Failure Session α → Config
  | .ok a session => ⟨.running (next a), stack, session⟩
  | .error failure session => ⟨.raising failure, stack, session⟩

/-- Take the next line of a handle, or end it. -/
def Handling.goOn (h : Handling) (lines : List Line) (stack : List Frame) (session : Session) :
    Config :=
  match lines with
  | [] => ⟨.running (h.next (.swept h.yielded.toList h.errors.toList none)), stack, session⟩
  | line :: rest =>
    ⟨.running (.parse h.index line (h.rule line) .done), .handling h line rest :: stack, session⟩

/-- Give answers back to the innermost frame. -/
def giveBack (answers : List Answer) (stack : List Frame) (session : Session) : Config :=
  match stack with
  | [] => ⟨.running (.done answers), [], session⟩
  | .parsing index next :: stack =>
    .after stack (fun _ => next answers)
      (Session.onScanner index (Rule.onCleanup none) session)
  | .handling h line rest :: stack =>
    ⟨.running (h.use line answers), .consuming h line answers rest :: stack, session⟩
  | .consuming h line kept rest :: stack => (h.keep line kept).goOn rest stack session
  | .reporting h rest :: stack => h.goOn rest stack session

/-- Leave the innermost frame with a failure. A line of a handle catches an error of the scanner of
the handle, and has it reported. -/
def unwind (failure : Failure) (stack : List Frame) (session : Session) : Config :=
  match stack with
  | [] => ⟨.raising failure, [], session⟩
  | .handling h _ rest :: stack =>
    match failure with
    | .scan e =>
      if e.origin = some h.owner then
        ⟨.running (h.report e), .reporting (h.note e) rest :: stack, session⟩
      else
        ⟨.raising failure, stack, session⟩
    | .fault _ => ⟨.raising failure, stack, session⟩
  | _ :: stack => ⟨.raising failure, stack, session⟩

/-- Make one step. A machine that has come to its end stays there. -/
def step (setting : Setting) : Config → Config
  | ⟨.running (.done answers), stack, session⟩ => giveBack answers stack session
  | ⟨.running (.raise failure), stack, session⟩ => ⟨.raising failure, stack, session⟩
  | ⟨.running (.act index action next), stack, session⟩ =>
    .after stack next (Session.onScanner index (action.run setting) session)
  | ⟨.running (.parse index line rule next), stack, session⟩ =>
    .after (.parsing index next :: stack) (fun _ => rule)
      (Session.onScanner index (Rule.reset line) session)
  | ⟨.running (.handle index lines rule use report next), stack, session⟩ =>
    match session.scanner index with
    | .error cause => ⟨.raising (.fault (.ofList cause)), stack, session⟩
    | .ok owner =>
      Handling.goOn { index, owner := owner.id, rule, use, report, next } lines stack session
  | ⟨.raising failure, stack, session⟩ => unwind failure stack session

/-- Make a number of steps. -/
def steps (setting : Setting) : Nat → Config → Config
  | 0, c => c
  | n + 1, c => steps setting n (step setting c)

end LineScan.Routine
