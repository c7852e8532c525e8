import LineScan.CommandLine.Options
import LineScan.CommandLine.Usage
import LineScan.Calculator.Run
import LineScan.Text.Stream

/-!
# The program

The program reads its arguments, resolves the options, opens input and output, and evaluates the
input line by line. Values go to the output, reports to the error stream. The exit code is 0 when
every line could be evaluated, 1 when some could not, 2 when the run did not start.

A file that is opened for output is empty from then on, so a run that reads and writes the same file
reads nothing.
-/

namespace LineScan.CommandLine

/-- What the program sees of the outside: files and streams, and the machine on which it runs. -/
structure World where
  look : Path → Node
  stdin : ByteArray := .empty
  environment : Bindings String := []
  source : Calculator.RandomSource := .scripted []
  /-- The edition of the reader of the arguments. -/
  edition : Edition := .current
  /-- The stack of calls on which the configuration is read. -/
  stack : Toml.Stack := .bounded Toml.Stack.defaultRoom

/-- How a run ends. -/
inductive Ending where
  | exit (code : Nat)
  | crash (cause : Crash)

/-- What a run leaves behind. -/
structure Outcome where
  ending : Ending
  output : String := ""
  errors : String := ""
  /-- The file that was written, and its content. -/
  written : Option (String × String) := none

/-- Report an error; stop if that is wanted. -/
def report (options : Options) (filename : String) (e : ScanError) :
    EStateM Failure (Sweep Scanner Unit) Unit := do
  let number := (← get).lineCount
  let text := if options.context then e.context filename number else e.message
  Sweep.onState (Rule.enter (.report text))
  if options.stopOnError then throw (.fault .stopped)

/-- Write the value of a line. -/
def writeValue (n : Int) : EStateM Failure (Sweep Scanner Unit) Unit := do
  let text ← Calculator.valueText n
  Sweep.onState (Rule.enter (.result s!" = {text}"))

/-- The calculator of a run. -/
def calculator (world : World) (options : Options) : Calculator where
  env := options.env.getD world.environment
  functions := Calculator.defaultFunctions options.maxInt
  maxInt := options.maxInt
  source := world.source
  tracing := options.debug

/-- The name under which the input is reported. -/
def Options.inputName (options : Options) : String :=
  (options.inputFile.map Path.text).getD "<stdin>"

/-- Evaluate an input. The answer is the number of errors, or what ended the run early, and the
journal of the run. A stop at an error is no early end, whatever the rest of the input holds; a
stream that breaks off is one when its last line is done. -/
def runStream (world : World) (options : Options) (input : Text.Stream) :
    Except Crash Nat × Journal :=
  let k := calculator world options
  match k.run (fun _ n => writeValue n) (report options options.inputName) input.lines with
  | .ok _ w =>
    (if input.broken then .error .undecodable else .ok w.errors.size, w.state.journal)
  | .error (.fault .stopped) w => (.ok w.errors.size, w.state.journal)
  | .error e w => (.error (.failure e), w.state.journal)

/-- Evaluate lines. -/
def runLines (world : World) (options : Options) (lines : List Line) :
    Except Crash Nat × Journal :=
  runStream world options { lines := lines }

/-- What an open input holds. -/
inductive Input where
  | bytes (content : ByteArray)
  /-- NULs without an end, in which no line is ever complete. -/
  | endless

/-- Evaluate an input. There is no room for a line without an end. -/
def runInput (world : World) (options : Options) : Input → Except Crash Nat × Journal
  | .bytes content => runStream world options (Text.Stream.ofBytes content)
  | .endless => (.error (.failure (.fault (.overlong .noRoom))), {})

/-- The ending of a run, from its number of errors. -/
def endingOf : Except Crash Nat → Ending
  | .ok errors => .exit (if errors == 0 then 0 else 1)
  | .error c => .crash c

/-- What reading a device gives. -/
def Device.input : Device → Input
  | .null => .bytes .empty
  | .full => .endless

/-- What opening the input gives: a location and a content, or no run. -/
def openInput (world : World) (options : Options) : Except Outcome (Option String × Input) :=
  match options.inputFile with
  | none => .ok (none, .bytes world.stdin)
  | some path =>
    let refuse (e : OsError) : Outcome :=
      { ending := .exit 2, errors := s!"error: {e.message path}\n" }
    if path.hasNul then .error { ending := .crash .nulInPath }
    else match world.look path with
      | .file location content denied =>
        match denied.reading with
        | some cause => .error (refuse cause)
        | none => .ok (some location, .bytes content)
      | .device kind => .ok (none, Device.input kind)
      | .directory => .error (refuse .isDirectory)
      | .vacant .. => .error (refuse .missing)
      | .blocked cause => .error (refuse cause)

/-- Where output goes that does not go to the standard output. -/
inductive Destination where
  | file (location : String)
  | device (kind : Device)

/-- What opening a file for output gives, unless the system denies it. -/
def openFile (path : Path) (location : String) : Option OsError → Except Crash Destination
  | some cause => .error (.os cause path)
  | none => .ok (.file location)

/-- What opening an output file gives. -/
def openOutput (world : World) (path : Path) : Except Crash Destination :=
  if path.hasNul then .error .nulInPath
  else match world.look path with
    | .file location _ denied => openFile path location denied.writing
    | .vacant location denied => openFile path location denied
    | .device kind => .ok (.device kind)
    | .directory => .error (.os .isDirectory path)
    | .blocked cause => .error (.os cause path)

/-- Run with the options that were resolved. -/
def runOptions (world : World) (options : Options) : Outcome :=
  match openInput world options with
  | .error outcome => outcome
  | .ok (source, input) =>
    match options.outputFile with
    | none =>
      let (result, journal) := runInput world options input
      { ending := endingOf result, output := journal.output, errors := journal.errorStream }
    | some path =>
      match openOutput world path with
      | .error c => { ending := .crash c }
      | .ok (.file location) =>
        let input := if source = some location then .bytes .empty else input
        let (result, journal) := runInput world options input
        { ending := endingOf result
          errors := journal.errorStream
          written := some (location, journal.output) }
      | .ok (.device kind) =>
        let (result, journal) := runInput world options input
        let overflows := kind = .full && journal.output != ""
        { ending := if overflows then .crash .noSpace else endingOf result
          errors := journal.errorStream }

/-- Run the program on its arguments. -/
def run (world : World) (words : List String) : Outcome :=
  match parse world.edition words with
  | .error .help => { ending := .exit 0, output := help (columns world.environment) }
  | .error (.usage e) => { ending := .exit 2, errors := usageReport (columns world.environment) e }
  | .ok arguments =>
    match resolve world.stack world.look arguments with
    | .error (.error e) => { ending := .exit 2, errors := s!"error: {e.message}\n" }
    | .error (.crash c) => { ending := .crash c }
    | .ok options => runOptions world options

end LineScan.CommandLine
