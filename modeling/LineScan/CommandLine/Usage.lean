import LineScan.Bindings
import LineScan.CommandLine.Arguments
import LineScan.Calculator.Terminals
import LineScan.Text.Paragraph

/-!
# Usage and help texts

Both texts are laid out for a number of columns, which the process environment may give. Two columns
stay free at the right, so `width` is what is left of them.

The usage text lists how each option is written and then the input. When it does not fit on a line,
it is broken between them; the input starts a line of its own then. The help text explains each of
them in a column of its own, on the line of its name or, when the name is too long, below.
-/

namespace LineScan.CommandLine

/-- The name of the program. -/
def programName : String := "uucalc"

/-- Columns that are assumed when the environment gives none. -/
def defaultColumns : Nat := 80

/-- The number of columns, by the variable of that name if it holds a positive integer. -/
def columns (env : Bindings String) : Nat :=
  match (env.get? "COLUMNS").bind fun text => Decimal.readTyped? text.toList with
  | some n => if n > 0 then n.toNat else defaultColumns
  | none => defaultColumns

/-- A text of blanks. -/
def blanks (count : Nat) : String := String.ofList (List.replicate count ' ')

/-! ## Entries -/

/-- What can be given on the command line. -/
structure Entry where
  /-- All the ways to write it. -/
  forms : List String
  help : String

namespace Switch

/-- All options, in the order in which they are listed. -/
def all : List Switch :=
  [.help, .output, .env, .config, .maxInt, .stopOnError, .context, .debug]

/-- What the value of an option is called. -/
def valueName : Switch → Option String
  | .output => some "OUTPUT"
  | .env => some "NAME=VALUE"
  | .config => some "FILE"
  | .maxInt => some "N"
  | _ => none

/-- What an option does. -/
def explanation : Switch → String
  | .help => "show this help message and exit"
  | .output => "Output file (default: stdout)"
  | .env => "Define a variable (repeatable); replaces the process environment"
  | .config => "Config file (default: auto-discover uuscan.toml)"
  | .maxInt => s!"Largest integer literal accepted (default: {Calculator.defaultMaxInt})"
  | .stopOnError => "Stop at the first line with an error"
  | .context => "Show the offending line with a caret under each error"
  | .debug => "Trace scan attempts to stderr"

/-- The entry of an option. -/
def entry (s : Switch) : Entry where
  forms := (names.filter fun n => n.2 == s).map fun n =>
    match s.valueName with
    | some value => n.1 ++ " " ++ value
    | none => n.1
  help := s.explanation

end Switch

/-- The entry of the input. -/
def inputEntry : Entry := ⟨["input"], "Input file (default: stdin)"⟩

/-- How an entry is written in the usage text. -/
def Entry.brief (e : Entry) : String := "[" ++ e.forms.headD "" ++ "]"

/-! ## Usage -/

/-- Add words to a row as long as it stays within the width; then go on with a row that starts with
`indent`. -/
def packOnto (width : Nat) (indent row : String) : List String → List String
  | [] => [row]
  | word :: rest =>
    if row.length + 1 + word.length > width then row :: packOnto width indent (indent ++ word) rest
    else packOnto width indent (row ++ " " ++ word) rest

/-- Words in rows. The first row starts with `start`, the others with `indent`. -/
def pack (width : Nat) (start indent : String) : List String → List String
  | [] => []
  | word :: rest => packOnto width indent (start ++ word) rest

/-- The lines of the usage text. A program name that takes more than three quarters of the width
stands alone. -/
def usageLines (width : Nat) : List String :=
  let lead := "usage: "
  let start := lead ++ programName
  let options := Switch.all.map fun s => s.entry.brief
  let whole := String.intercalate " " (start :: options ++ [inputEntry.brief])
  if whole.length ≤ width then
    [whole]
  else if 4 * start.length ≤ 3 * width then
    let indent := blanks (start.length + 1)
    pack width (start ++ " ") indent options ++ pack width indent indent [inputEntry.brief]
  else
    let indent := blanks lead.length
    start :: pack width indent indent options ++ pack width indent indent [inputEntry.brief]

/-- Lines, each with its line feed. -/
def unlines (lines : List String) : String := String.join (lines.map (· ++ "\n"))

/-- How the program is called. -/
def usage (columns : Nat) : String := unlines (usageLines (columns - 2))

/-- What is written about a usage error. -/
def usageReport (columns : Nat) (e : UsageError) : String :=
  usage columns ++ s!"{programName}: error: {e.message}\n"

/-! ## Help -/

/-- Explanations have at least that many columns. -/
def leastWidth : Nat := 11

/-- The column in which explanations start. -/
def helpColumn (width : Nat) : Nat := min 24 (max (width - 20) 4)

/-- The lines about an entry. -/
def Entry.lines (width : Nat) (e : Entry) : List String :=
  let column := helpColumn width
  let name := String.intercalate ", " e.forms
  let texts := Text.paragraph (max (width - column) leastWidth) e.help
  if name.length + 4 ≤ column then
    let start := "  " ++ name ++ blanks (column - 2 - name.length)
    (start ++ texts.headD "") :: texts.tail.map (blanks column ++ ·)
  else
    ("  " ++ name) :: texts.map (blanks column ++ ·)

/-- The lines of the help text. -/
def helpLines (width : Nat) : List String :=
  usageLines width
    ++ "" :: Text.paragraph (max width leastWidth) "Evaluate integer expressions, one per line"
    ++ ["", "positional arguments:"] ++ inputEntry.lines width
    ++ ["", "options:"] ++ Switch.all.flatMap fun s => s.entry.lines width

/-- The help text. -/
def help (columns : Nat) : String := unlines (helpLines (columns - 2))

end LineScan.CommandLine
