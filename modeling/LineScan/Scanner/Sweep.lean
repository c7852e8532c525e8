import LineScan.Scanner.Basic

/-!
# Sweeps over many lines

A sweep parses line after line. The result of a line that parses is handed to a consumer. An error
of the sweep's own scanner is handed to a handler, and the sweep goes on with the next line. All
else ends the sweep: an error of another scanner, a fault, and whatever consumer or handler raise
themselves.

The sweep keeps its own record: what the consumer made of each line that parsed, and the errors that
were handled. An error is recorded before its handler sees it, and a result after its consumer is
done with it.
-/

namespace LineScan

/-- A sweep in progress: the state that rules work on, and the record so far. -/
structure Sweep (σ β : Type) where
  state : σ
  yielded : Array (Line × β) := #[]
  errors : Array ScanError := #[]

namespace Sweep

variable {σ α β : Type}

/-- A computation on the state, as one on the sweep. -/
def onState {γ : Type} (m : EStateM Failure σ γ) : EStateM Failure (Sweep σ β) γ := fun w =>
  match m w.state with
  | .ok c s => .ok c { w with state := s }
  | .error e s => .error e { w with state := s }

/-- Consume results by handing each of them on, and keep them as they are. -/
def handOn (use : Line → α → EStateM Failure σ Unit) (line : Line) (a : α) :
    EStateM Failure (Sweep σ α) α := do
  onState (use line a)
  pure a

/-- How many lines have been handled, well or badly. -/
def lineCount (w : Sweep σ β) : Nat := w.yielded.size + w.errors.size

/-- How a sweep deals with its lines. -/
structure Plan (σ α β : Type) where
  /-- The scanner whose errors are handled. -/
  owner : Nat
  parse : Line → EStateM Failure σ α
  /-- What is made of the result of a line. -/
  consume : Line → α → EStateM Failure (Sweep σ β) β
  /-- What is done with an error. -/
  onError : ScanError → EStateM Failure (Sweep σ β) Unit

/-- Deal with one line. -/
def step (plan : Plan σ α β) (line : Line) : EStateM Failure (Sweep σ β) Unit := fun w =>
  match plan.parse line w.state with
  | .ok value s =>
    match plan.consume line value { w with state := s } with
    | .ok b w => .ok () { w with yielded := w.yielded.push (line, b) }
    | .error e w => .error e w
  | .error (.scan e) s =>
    if e.origin = some plan.owner then
      plan.onError e { w with state := s, errors := w.errors.push e }
    else
      .error (.scan e) { w with state := s }
  | .error (.fault f) s => .error (.fault f) { w with state := s }

/-- Deal with all lines in order. -/
def run (plan : Plan σ α β) : List Line → EStateM Failure (Sweep σ β) Unit
  | [] => pure ()
  | line :: rest => do
    step plan line
    run plan rest

end Sweep

end LineScan
