import LineScan.Scanner.Journal

/-!
# Attempts

An attempt scans for one target and settles the state: a match moves the cursor past the text and
remembers where the text was, a miss only remembers where it diverged. Attempts work on a *bench*,
the scan state together with the journal. They know nothing of hooks, so a hook can make attempts
too.
-/

namespace LineScan

/-- What stays fixed while a scanner works. -/
structure Setting where
  registry : Registry
  /-- Enter every attempt and its outcome in the journal. -/
  tracing : Bool := false
  /-- The room for messages that are composed. -/
  room : Text.Room := .largest

/-- A scan state and the journal of the run. -/
structure Bench where
  state : ScanState := {}
  journal : Journal := {}

namespace ScanState

/-- The state after an attempt at a target. -/
def settle (s : ScanState) (target : Target) : Match → ScanState
  | .miss place => { s with failPosition := some place }
  | .hit stop value =>
    let length := stop - s.matchStart
    { s with
      cursor := stop
      matchLength := length
      lastStart := s.matchStart
      lastLength := length
      value := match target with
        | .terminal _ => value
        | _ => s.value }

/-- Put cursor, value and matched text back to where they were. -/
def rewind (s saved : ScanState) : ScanState :=
  { s with
    cursor := saved.cursor
    value := saved.value
    lastStart := saved.lastStart
    lastLength := saved.lastLength }

end ScanState

namespace Match

/-- The attempt matched. -/
def isHit : Match → Bool
  | .hit .. => true
  | .miss _ => false

end Match

namespace Bench

/-- Enter something in the journal. -/
def enter (b : Bench) (e : Entry) : Bench := { b with journal := b.journal.push e }

/-- If tracing is on, enter something in the journal that tells of a place. A place that cannot be
written is a fault, and then nothing is entered. -/
def trace (setting : Setting) (place : Int) (e : Entry) : EStateM Abort Bench Unit := fun b =>
  if setting.tracing then
    match b.state.line.write place with
    | .ok _ => .ok () (b.enter e)
    | .error cause => .error (.fault (.oversize cause)) b
  else
    .ok () b

/-- Run a matcher on the state of the bench. -/
def scan {α : Type} (m : Scan α) : EStateM Abort Bench α := fun b =>
  match m b.state with
  | .ok a s => .ok a { b with state := s }
  | .error e s => .error e { b with state := s }

/-- Scan for a target and settle the state; the answer says whether it matched. -/
def attempt (setting : Setting) (target : Target) : EStateM Abort Bench Bool := do
  let b ← get
  trace setting b.state.cursor (.attempt target b.state.line b.state.cursor)
  let m ← scan (Scan.dispatch target)
  trace setting m.place (.outcome m)
  modify fun b => { b with state := b.state.settle target m }
  pure m.isHit

/-- The target that is meant, or a fault. -/
def coerce (setting : Setting) (wanted : Wanted) : EStateM Abort Bench Target :=
  match wanted.coerce setting.registry with
  | .ok target => pure target
  | .error fault => throw (.fault fault)

/-- Scan for what is wanted. -/
def accept (setting : Setting) (wanted : Wanted) : EStateM Abort Bench Bool := do
  attempt setting (← coerce setting wanted)

/-- Scan for several targets in order. At the first miss, cursor, value and matched text go back to
where they were in `saved`. -/
def acceptEach (setting : Setting) (saved : ScanState) : List Wanted → EStateM Abort Bench Bool
  | [] => pure true
  | wanted :: rest => do
    if ← accept setting wanted then
      acceptEach setting saved rest
    else
      modify fun b => { b with state := b.state.rewind saved }
      pure false

/-- Scan for all targets in order, or for none of them. -/
def acceptAll (setting : Setting) (wanted : List Wanted) : EStateM Abort Bench Bool := do
  acceptEach setting (← get).state wanted

end Bench

end LineScan
