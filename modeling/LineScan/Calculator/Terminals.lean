import LineScan.Scan.Registry

/-!
# The terminals of the calculator

An identifier is a letter or underscore with letters, digits and underscores after it. An integer is
a run of digits whose value must not exceed a bound; the first digit that would make it exceed the
bound is where the overflow is reported. The end of the line matches where no character is left.
-/

namespace LineScan.Calculator

/-- Scan an identifier; its value is its text. -/
def scanIdent : ScanFunction := fun pos => do
  let line := (← get).line
  if Text.isIdentStart (line.peek pos) then
    let name := line.runAt Text.isIdentChar pos
    pure (.hit (pos + name.length) (.text (String.ofList name)))
  else
    pure (.miss (some pos))

/-- Read digits that start at `pos`, on top of the value read so far. The value must not exceed
`10 * cutoff + limit`; the place of the first digit that makes it do so is the error. -/
def boundedValue (cutoff limit : Int) : List Char → Int → Int → Except Int Int
  | [], value, _ => .ok value
  | c :: rest, value, pos =>
    let d : Int := Text.digitValue c
    if cutoff < value || (value == cutoff && limit < d) then .error pos
    else boundedValue cutoff limit rest (10 * value + d) (pos + 1)

/-- Scan a decimal integer of at most `maxInt`. -/
def scanInt (maxInt : Int) : ScanFunction := fun pos => do
  match (← get).line.runAt Text.isDigit pos with
  | [] => pure (.miss (some pos))
  | digits =>
    match boundedValue (maxInt.fdiv 10) (maxInt.fmod 10) digits 0 pos with
    | .ok value => pure (.hit (pos + digits.length) (.int value))
    | .error place =>
      modify fun s => { s with failPosition := some place }
      Scan.complain .overflow

/-- Scan the end of the line. -/
def scanEnd : ScanFunction := fun pos => do
  pure (if pos ≥ (← get).line.length then .hit pos .none else .miss (some pos))

/-- The largest integer that is accepted unless another bound is given. -/
def defaultMaxInt : Int := 2147483647

end LineScan.Calculator
