import LineScan.Scan.Matcher

/-!
# Composite scanning functions

An application may build a scanning function from the matchers: it looks at the line, skips blanks,
calls a matcher on its own state, at any place, and goes on as the matcher answers. A terminal that
is scanned for in this way may have a function of the same kind.

Such a function can be followed on the line alone. `survey` does so, and notes for each matcher that
is called the place at which it looks for its text.
-/

namespace LineScan

namespace Line

/-- Where a matcher looks for a character, and what it finds. -/
def seekChar (line : Line) (wanted : Char) (pos : Int) : Except Misplaced (Int × Match) :=
  if Text.isBlank wanted && Text.isBlank (line.peek pos) then
    .ok (pos, .hit (pos + 1) .none)
  else do
    let p ← line.skipBlanks pos
    if line.peek p == wanted then
      .ok (p, .hit (if wanted == nul then p else p + 1) .none)
    else
      .ok (p, .miss p)

/-- Where a matcher looks for a literal, and what it finds. -/
def seekLiteral (line wanted : Line) (pos : Int) : Except Misplaced (Int × Match) :=
  match wanted with
  | [] => .ok (pos, if pos ≥ line.length then .hit pos .none else .miss pos)
  | first :: _ =>
    if pos ≥ line.length then
      .ok (pos, .miss pos)
    else do
      let p ← if Text.isBlank first then .ok pos else line.skipBlanks pos
      let stop := p + wanted.length
      if line.length - p < wanted.length || line.slice p stop != wanted then
        .ok (p, .miss p)
      else if Scan.continues (wanted.getLastD first) (line.peek stop) then
        .ok (p, .miss p)
      else
        .ok (p, .hit stop .none)

end Line

/-- What a reading means to the matcher of a terminal that started at a place. -/
def Reading.asMatch (start : Int) : Reading → Match
  | .hit stop value => .hit stop value
  | .miss place => .miss (place.getD start)

/-- A scanning function that is built from the matchers. -/
inductive Composite where
  | report (reading : Reading)
  /-- Look at the line, at one of its characters for example. -/
  | look (next : Line → Composite)
  | skipBlanks (pos : Int) (next : Int → Composite)
  | char (wanted : Char) (pos : Int) (next : Match → Composite)
  | literal (wanted : Line) (pos : Int) (next : Match → Composite)
  /-- Scan for a terminal, whose function is a composite one. -/
  | terminal (inner : Int → Composite) (pos : Int) (next : Match → Composite)
  /-- Leave a detail about a miss in the state. -/
  | detail (text : String) (next : Composite)

namespace Composite

/-- Run a composite function. -/
def run : Composite → Scan Reading
  | .report reading => pure reading
  | .look next => do
    let line := (← get).line
    (next line).run
  | .skipBlanks pos next => do
    let p ← Scan.skipBlanks pos
    (next p).run
  | .char wanted pos next => do
    let m ← Scan.char wanted pos
    (next m).run
  | .literal wanted pos next => do
    let m ← Scan.literal wanted pos
    (next m).run
  | .terminal inner pos next => do
    let m ← Scan.terminal ⟨0, "", fun p => (inner p).run, "", none⟩ pos
    (next m).run
  | .detail text next => do
    modify fun s => { s with pendingDetail := some text }
    next.run

/-- What a composite function reports of a line, and the places at which the matchers that it calls
look for their texts, in order. -/
def survey (line : Line) : Composite → Except Misplaced (List Int × Reading)
  | .report reading => .ok ([], reading)
  | .look next => (next line).survey line
  | .skipBlanks pos next =>
    match line.skipBlanks pos with
    | .ok p => (next p).survey line
    | .error cause => .error cause
  | .char wanted pos next =>
    match line.seekChar wanted pos with
    | .ok (p, m) => ((next m).survey line).map fun (places, r) => (p :: places, r)
    | .error cause => .error cause
  | .literal wanted pos next =>
    match line.seekLiteral wanted pos with
    | .ok (p, m) => ((next m).survey line).map fun (places, r) => (p :: places, r)
    | .error cause => .error cause
  | .terminal inner pos next =>
    match line.skipBlanks pos with
    | .ok p =>
      match (inner p).survey line with
      | .ok (within, r) =>
        ((next (r.asMatch p)).survey line).map fun (places, r) => (p :: within ++ places, r)
      | .error cause => .error cause
    | .error cause => .error cause
  | .detail _ next => next.survey line

end Composite

end LineScan
