import LineScan.CommandLine.Arguments
import LineScan.Calculator.Terminals
import LineScan.Config.Toml.Document
import LineScan.FileTree
import LineScan.Scanner.Hook

/-!
# Options

The options of a run come from a configuration file and from the command line, which wins. The file
is the one that is named, or else one with a fixed name beside the input; a file that is not there
counts as empty, and so do sections and values of the wrong kind.
-/

namespace LineScan.CommandLine

/-- What ends a run without an exit code. -/
inductive Crash where
  /-- A text is not valid UTF-8. -/
  | undecodable
  /-- A path holds a NUL. -/
  | nulInPath
  | os (cause : OsError) (path : Path)
  /-- There is no room for the output. -/
  | noSpace
  /-- The limit for integers was given without a value. -/
  | noLimit
  /-- A configuration is nested so deep that the stack of calls has no room for it. -/
  | tooDeep
  | failure (cause : Failure)

/-- The wording of a crash. -/
def Crash.message : Crash → String
  | .undecodable => "input is not valid UTF-8"
  | .nulInPath => "embedded null byte"
  | .os cause path => cause.message path
  | .noSpace => OsError.noSpace.summary
  | .noLimit => "'<' not supported between instances of 'list' and 'int'"
  | .tooDeep => "maximum recursion depth exceeded"
  | .failure (.scan e) => e.message
  | .failure (.fault f) => f.message

/-- What is wrong with the options. -/
inductive OptionError where
  /-- The configuration file is not a TOML document. -/
  | badConfig
  /-- A definition of a variable has no equals sign. -/
  | badDefinition (text : String)
  /-- A definition of a variable was given without a value. -/
  | noDefinition
  | notPositive (maxInt : Int)
  deriving DecidableEq, Repr

/-- The wording of an option error. -/
def OptionError.message : OptionError → String
  | .badConfig => "invalid config file: not a TOML document"
  | .badDefinition text => s!"invalid env format (expected NAME=VALUE): {text}"
  | .noDefinition => "invalid env format (expected NAME=VALUE): []"
  | .notPositive maxInt => s!"max_int must be positive: {maxInt}"

/-- Why there are no options. -/
inductive Refusal where
  | error (e : OptionError)
  | crash (c : Crash)

/-- The options of a run. -/
structure Options where
  inputFile : Option Path := none
  outputFile : Option Path := none
  /-- Variables; `none` stands for the process environment. -/
  env : Option (Bindings String) := none
  maxInt : Int := Calculator.defaultMaxInt
  stopOnError : Bool := false
  context : Bool := false
  debug : Bool := false

/-- The name of a configuration file that is not named otherwise. -/
def configName : String := "uuscan.toml"

/-- Read a definition of a variable: a name, an equals sign, a text. -/
def readDefinition (text : String) : Except OptionError (String × String) :=
  match splitEquals text.toList with
  | (name, some value) => .ok (String.ofList name, String.ofList value)
  | (_, none) => .error (.badDefinition text)

/-! ## Files that are asked for -/

/-- A path that is given and not empty. -/
def givenPath (text : Option String) : Option Path :=
  text.bind fun s => if s.isEmpty then none else some (Path.ofText s)

/-- The input file; a hyphen stands for the standard input. -/
def Arguments.inputPath (a : Arguments) : Option Path :=
  if a.input = some "-" then none else givenPath a.input

/-- The output file. -/
def Arguments.outputPath (a : Arguments) : Option Path := givenPath a.output

/-- The configuration file: the one that is named, or the one beside the input. -/
def Arguments.configPath (a : Arguments) : Path :=
  (givenPath a.config).getD ((a.inputPath.map Path.parent).getD Path.here |>.child configName)

/-! ## Merging -/

/-- The sections of a configuration, given its content. -/
def readConfig (stack : Toml.Stack) (content : ByteArray) : Except Refusal Toml.Table :=
  match String.fromUTF8? content with
  | none => .error (.crash .undecodable)
  | some text =>
    match Toml.parse stack text.toList with
    | .ok table => .ok table
    | .error .malformed => .error (.error .badConfig)
    | .error .tooDeep => .error (.crash .tooDeep)
    | .error (.oversize cause) => .error (.crash (.failure (.fault (.oversize cause))))

/-- The sections of a configuration, given what its path leads to. -/
def loadConfig (stack : Toml.Stack) (path : Path) (node : Node) : Except Refusal Toml.Table :=
  if path.hasNul then .ok []
  else match node with
    | .file _ content denied =>
      match denied.reading with
      | some cause => .error (.crash (.os cause path))
      | none => readConfig stack content
    | .blocked cause =>
      if cause.meansNoFile then .ok [] else .error (.crash (.os cause path))
    | _ => .ok []

/-- The text of a value in a configuration. -/
def configText (stack : Toml.Stack) (value : Datum) : Except Crash String :=
  if stack.writes value then
    value.plainText.mapError fun cause => .failure (.fault (.oversize cause))
  else .error .tooDeep

/-- The texts of the variables in a configuration. -/
def configEnv (stack : Toml.Stack) : List (String × Datum) → Except Refusal (Bindings String)
  | [] => .ok []
  | (name, value) :: rest =>
    match configText stack value with
    | .error c => .error (.crash c)
    | .ok text => (configEnv stack rest).map fun others => (name, text) :: others

/-- Add the definitions of the command line, in order; a later one of the same name wins. -/
def addDefinitions (env : Option (Bindings String)) :
    List (Option String) → Except OptionError (Option (Bindings String))
  | [] => .ok env
  | none :: _ => .error .noDefinition
  | some text :: rest => do
    let (name, value) ← readDefinition text
    addDefinitions (some ((env.getD []).insert name value)) rest

/-- The variables of a run. -/
def resolveEnv (stack : Toml.Stack) (config : Toml.Table) (definitions : List (Option String)) :
    Except Refusal (Option (Bindings String)) := do
  let base ← match config.get? "env" with
    | some (.table entries) => (configEnv stack entries).map some
    | _ => pure none
  (addDefinitions base definitions).mapError Refusal.error

/-- The section of the calculator; empty unless it is a table. -/
def calcSection (config : Toml.Table) : Toml.Table :=
  match config.get? "calc" with
  | some (.table entries) => entries
  | _ => []

/-- The largest integer: from the command line, else from the configuration, else the default. It
must be positive. -/
def resolveMaxInt (config : Toml.Table) (flag : Option (Option Int)) : Except Refusal Int := do
  let n ← match flag, (calcSection config).get? "max_int" with
    | some none, _ => throw (.crash .noLimit)
    | some (some n), _ => pure n
    | none, some (.int n) => pure n
    | none, _ => pure Calculator.defaultMaxInt
  if n < 1 then throw (.error (.notPositive n)) else pure n

/-- Whether to stop at the first error. -/
def resolveStop (config : Toml.Table) (flag : Bool) : Bool :=
  flag || match (calcSection config).get? "stop_on_error" with
    | some (.bool b) => b
    | _ => false

/-- Merge a configuration and the arguments. -/
def merge (stack : Toml.Stack) (config : Toml.Table) (a : Arguments) : Except Refusal Options := do
  let env ← resolveEnv stack config a.env
  let maxInt ← resolveMaxInt config a.maxInt
  pure
    { inputFile := a.inputPath
      outputFile := a.outputPath
      env := env
      maxInt := maxInt
      stopOnError := resolveStop config a.stopOnError
      context := a.context
      debug := a.debug }

/-- The options of a run, given what paths lead to. -/
def resolve (stack : Toml.Stack) (look : Path → Node) (a : Arguments) : Except Refusal Options := do
  let config ← loadConfig stack a.configPath (look a.configPath)
  merge stack config a

end LineScan.CommandLine
