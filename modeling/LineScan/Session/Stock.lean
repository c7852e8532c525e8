import LineScan.Calculator.Terminals
import LineScan.Scan.Matcher

/-!
# A stock of terminals

Scanning functions to try a scanner out with: words and numbers, a pair of parentheses and a quoted
text, and a few that match, miss or move in a fixed way whatever the line holds.
-/

namespace LineScan.Session

/-- Leave a detail about a miss in the state. -/
def setDetail (text : String) : Scan Unit :=
  modify fun s => { s with pendingDetail := some text }

/-- The longest run of letters. -/
def scanWord : ScanFunction := fun pos => do
  match (← get).line.runAt Text.isLetter pos with
  | [] => pure (.miss (some pos))
  | word => pure (.hit (pos + word.length) (.text (String.ofList word)))

/-- The longest run of digits; a run that is too long to be read is a fault. -/
def scanNumber : ScanFunction := fun pos => do
  match (← get).line.runAt Text.isDigit pos with
  | [] =>
    setDetail "digits required"
    pure (.miss (some pos))
  | digits =>
    match Decimal.readDigits digits with
    | .ok n => pure (.hit (pos + digits.length) (.int n))
    | .error cause => throw (.fault (.oversize cause))

/-- The end of the line; a miss has no place. -/
def scanLineEnd : ScanFunction := fun pos => do
  pure (if pos ≥ (← get).line.length then .hit pos .none else .miss none)

/-- An opening and a closing parenthesis, blanks allowed before each. -/
def scanPair : ScanFunction := fun pos => do
  match ← Scan.char '(' pos with
  | .miss place => pure (.miss (some place))
  | .hit stop _ =>
    match ← Scan.char ')' stop with
    | .miss place =>
      setDetail "unclosed"
      pure (.miss (some place))
    | .hit stop _ => pure (.hit stop (.text "pair"))

/-- A text between double quotes. A text that is not closed is complained about, at the end of the
line. -/
def scanQuoted : ScanFunction := fun pos => do
  let line := (← get).line
  if line.peek pos != Text.quotationMark then
    pure (.miss (some pos))
  else
    let rest := line.drop (pos.toNat + 1)
    let body := rest.takeWhile (· != Text.quotationMark)
    if body.length == rest.length then
      modify fun s => { s with failPosition := some line.length }
      Scan.complain (.said s!"unterminated string from pos {pos + 1}")
    else
      pure (.hit (pos + body.length + 2) (.text (String.ofList body)))

/-- A stock function. -/
inductive Stock where
  | word
  | number
  | lineEnd
  | pair
  | quoted
  | ident
  | endOfLine
  /-- A decimal integer of at most `max`. -/
  | int (max : Int)
  /-- Miss where it starts. -/
  | never
  /-- Miss without a place. -/
  | neverSaying
  /-- Match nothing. -/
  | always
  /-- Miss that far from where it starts. -/
  | missBeyond (n : Int)
  /-- Match up to a fixed position; the value is where it started. -/
  | jump (stop : Int)
  /-- Match that many characters, or fewer at the end of the line. -/
  | take (n : Int)
  /-- Complain. -/
  | complain (text : String)
  deriving DecidableEq, Repr

/-- The scanning function that is meant. -/
def Stock.scan : Stock → ScanFunction
  | .word => scanWord
  | .number => scanNumber
  | .lineEnd => scanLineEnd
  | .pair => scanPair
  | .quoted => scanQuoted
  | .ident => Calculator.scanIdent
  | .endOfLine => Calculator.scanEnd
  | .int max => Calculator.scanInt max
  | .never => fun pos => pure (.miss (some pos))
  | .neverSaying => fun _ => pure (.miss none)
  | .always => fun pos => pure (.hit pos .none)
  | .missBeyond n => fun pos => pure (.miss (some (pos + n)))
  | .jump stop => fun pos => pure (.hit stop (.int pos))
  | .take n => fun pos => do
    let line := (← get).line
    let stop := min (pos + n) line.length
    pure (.hit stop (.text (String.ofList (line.slice pos stop))))
  | .complain text => fun _ => Scan.complain (.said text)

/-- The terminals of a session that declares none. -/
def defaultTerminals : List Declaration :=
  [ { name := "word", scan := some Stock.word.scan, resultType := some .text },
    { name := "number", scan := some Stock.number.scan, resultType := some .integer },
    { name := "end", scan := some Stock.lineEnd.scan, display := some "end of line" } ]

end LineScan.Session
