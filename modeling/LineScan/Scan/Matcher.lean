import LineScan.Scan.Target

/-!
# Matchers

One matcher for each kind of target. Each starts at a position, skips blanks where its target does
not start with one, and says in `matchStart` where the text it looked at begins.

* A character is matched by itself. A blank matches exactly one blank, whichever it is, when one
  stands at the position; NUL matches the end of the line and consumes nothing.
* A literal is matched verbatim, but not if it would end inside a word or a number.
* A terminal is matched by its own function.
-/

namespace LineScan.Scan

/-- Scan for a single character. -/
def char (wanted : Char) (pos : Int) : Scan Match := do
  let line := (← get).line
  if Text.isBlank wanted && Text.isBlank (line.peek pos) then
    modify fun s => { s with matchStart := pos }
    pure (.hit (pos + 1) .none)
  else
    let p ← skipBlanks pos
    modify fun s => { s with matchStart := p }
    let c := line.peek p
    if c == wanted then
      pure (.hit (if c == Line.nul then p else p + 1) .none)
    else
      pure (.miss p)

/-- Scan for a text that is no single character, as if it were one: blanks are skipped, and nothing
matches. -/
def noChar (pos : Int) : Scan Match := do
  let p ← skipBlanks pos
  modify fun s => { s with matchStart := p }
  pure (.miss p)

/-- A literal that ends in `last` must not be followed by `next`: a letter or a digit after a
letter, a digit after a digit. -/
def continues (last next : Char) : Bool :=
  (Text.isLetter last && Text.isLetterOrDigit next) || (Text.isDigit last && Text.isDigit next)

/-- Scan for a literal text. -/
def literal (wanted : Line) (pos : Int) : Scan Match := do
  let line := (← get).line
  let size := line.length
  modify fun s => { s with matchStart := pos }
  match wanted with
  | [] => pure (if pos ≥ size then .hit pos .none else .miss pos)
  | first :: _ =>
    if pos ≥ size then
      pure (.miss pos)
    else
      let p ← if Text.isBlank first then pure pos else skipBlanks pos
      modify fun s => { s with matchStart := p }
      let stop := p + wanted.length
      if size - p < wanted.length || line.slice p stop != wanted then
        pure (.miss p)
      else if continues (wanted.getLastD first) (line.peek stop) then
        pure (.miss p)
      else
        pure (.hit stop .none)

/-- Scan for a terminal: forget the last failure, then run the terminal's function past the blanks.
A miss without a place is a miss where the function started. -/
def terminal (t : Terminal) (pos : Int) : Scan Match := do
  let p ← skipBlanks pos
  modify fun s =>
    { s with matchStart := p, failPosition := none, pendingDetail := none, matchLength := 0 }
  match ← t.scan p with
  | .hit stop value => pure (.hit stop value)
  | .miss place => pure (.miss (place.getD p))

/-- Scan for a target from the cursor. -/
def dispatch (target : Target) : Scan Match := do
  let pos := (← get).cursor
  match target with
  | .literal text => literal text pos
  | .char c => char c pos
  | .terminal t => terminal t pos

end LineScan.Scan
