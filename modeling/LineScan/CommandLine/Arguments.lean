import LineScan.Decimal.Typed
import LineScan.Text.Quoted

/-!
# Command line arguments

The command line has options and at most one positional argument, the input. A long option may be
shortened as long as it stays unique, and its value may follow after `=`; a short option may have
its value attached. A double hyphen ends the options. What is attached to an option is read
otherwise by the former edition of the reader than by the current one, see `Edition`.

## Shape of a run

Every word is classified before any is acted on (`classify`), so an ambiguous option is reported
before all else. Then the words are taken from left to right (`take`). What is left over is reported
last.
-/

namespace LineScan.CommandLine

/-- The editions of the reader of arguments, which are told apart by what is attached to an option.
A double hyphen is a value there in the current edition, and no value at all in the former one.
After a short option without a value, letters that are no options were an error in the former
edition, and are left over in the current one; there it is an error if they come after an equals
sign or start with a hyphen. -/
inductive Edition where
  | current
  | former
  deriving DecidableEq, Repr

/-- The options. -/
inductive Switch where
  | help
  | output
  | env
  | config
  | maxInt
  | stopOnError
  | context
  | debug
  deriving DecidableEq, Repr

namespace Switch

/-- The names of all options, in the order in which they are listed. -/
def names : List (String × Switch) :=
  [ ("-h", .help), ("--help", .help), ("-o", .output), ("--output", .output), ("-e", .env),
    ("--env", .env), ("--config", .config), ("--max-int", .maxInt),
    ("--stop-on-error", .stopOnError), ("--context", .context), ("--debug", .debug) ]

/-- The option of a name. -/
def ofName? (name : List Char) : Option Switch := names.lookup (String.ofList name)

/-- The option has a value. -/
def takesValue : Switch → Bool
  | .output | .env | .config | .maxInt => true
  | _ => false

/-- How an option is called in messages: all its names. -/
def label (s : Switch) : String :=
  String.intercalate "/" ((names.filter fun n => n.2 == s).map Prod.fst)

end Switch

/-- What is wrong with a command line. -/
inductive UsageError where
  | ambiguous (word : String) (candidates : List String)
  | valueMissing (s : Switch)
  | valueUnwanted (s : Switch) (value : String)
  | notInteger (s : Switch) (value : String)
  | unrecognized (words : List String)
  deriving DecidableEq, Repr

/-- The wording of a usage error. -/
def UsageError.message : UsageError → String
  | .ambiguous word candidates =>
    s!"ambiguous option: {word} could match " ++ String.intercalate ", " candidates
  | .valueMissing s => s!"argument {s.label}: expected one argument"
  | .valueUnwanted s value =>
    s!"argument {s.label}: ignored explicit argument {Text.quoted value}"
  | .notInteger s value => s!"argument {s.label}: invalid int value: {Text.quoted value}"
  | .unrecognized words => "unrecognized arguments: " ++ String.intercalate " " words

/-! ## Words -/

/-- A text in the same word as an option. -/
structure Attached where
  text : List Char
  /-- It comes after an equals sign. -/
  equals : Bool
  deriving DecidableEq, Repr

/-- What a word is. -/
inductive Word where
  /-- A value, or the positional argument. -/
  | plain
  /-- The double hyphen. -/
  | divider
  /-- An option, perhaps with a text in the same word; `short` tells one hyphen from two. -/
  | option (s : Switch) (short : Bool) (attached : Option Attached)
  /-- It looks like an option, but there is none by that name. -/
  | unknown
  deriving DecidableEq, Repr

/-- A word that reads as a negative number. A line feed at its end does not count. -/
def isNegativeNumber : List Char → Bool
  | '-' :: rest =>
    let rest := match rest.getLast? with
      | some '\n' => rest.dropLast
      | _ => rest
    let isDigit (c : Char) : Bool := (Text.decimalDigit? c).isSome
    match rest.dropWhile isDigit with
    | [] => !rest.isEmpty
    | '.' :: places => !places.isEmpty && places.all isDigit
    | _ => false
  | _ => false

/-- Split a word at its first equals sign. -/
def splitEquals (word : List Char) : List Char × Option (List Char) :=
  match word.dropWhile (· != '=') with
  | _ :: value => (word.takeWhile (· != '='), some value)
  | [] => (word, none)

/-- The long options a word with two hyphens may stand for. -/
def candidates (start : List Char) : List (String × Switch) :=
  Switch.names.filter fun n => start.isPrefixOf n.1.toList

/-- Classify a word that starts with a hyphen and is no option's full name. -/
def classifyPartial (word : List Char) : Except UsageError Word :=
  let (start, value) := splitEquals word
  let attached := value.map (Attached.mk · true)
  match (if attached.isSome then Switch.ofName? start else none) with
  | some s => .ok (.option s (start.take 2 != ['-', '-']) attached)
  | none =>
    let matching : List (String × Word) :=
      if word.take 2 == ['-', '-'] then
        (candidates start).map fun (name, s) => (name, .option s false attached)
      else
        match Switch.ofName? (word.take 2) with
        | some s => [(String.ofList (word.take 2), .option s true (some ⟨word.drop 2, false⟩))]
        | none => []
    match matching with
    | [(_, w)] => .ok w
    | [] => .ok (if isNegativeNumber word || word.contains ' ' then .plain else .unknown)
    | _ => .error (.ambiguous (String.ofList word) (matching.map Prod.fst))

/-- Classify a word that stands before any divider. -/
def classifyWord (word : List Char) : Except UsageError Word :=
  match word with
  | '-' :: _ :: _ =>
    match Switch.ofName? word with
    | some s => .ok (.option s (word.take 2 != ['-', '-']) none)
    | none => classifyPartial word
  | _ => .ok .plain

/-- Classify all words; after a divider there are only plain ones. -/
def classify : List String → Except UsageError (List (String × Word))
  | [] => .ok []
  | word :: rest =>
    if word == "--" then
      .ok ((word, .divider) :: rest.map fun w => (w, .plain))
    else do
      let first ← classifyWord word.toList
      let others ← classify rest
      pure ((word, first) :: others)

/-! ## Taking the words -/

/-- The arguments. With the former edition, an option that takes a value may be given without one,
see `attachedValue`. -/
structure Arguments where
  input : Option String := none
  output : Option String := none
  /-- Definitions of variables, in order; `none` for one that was given without a value. -/
  env : List (Option String) := []
  config : Option String := none
  /-- The limit; `some none` when it was given without a value. -/
  maxInt : Option (Option Int) := none
  stopOnError : Bool := false
  context : Bool := false
  debug : Bool := false
  deriving DecidableEq, Repr

/-- Why the arguments are not all taken. -/
inductive Stop where
  /-- Help is asked for. -/
  | help
  | usage (e : UsageError)
  deriving DecidableEq, Repr

/-- Arguments taken so far, and words left over. -/
structure Progress where
  arguments : Arguments := {}
  /-- The positional argument has been met. -/
  positional : Bool := false
  extras : List String := []
  deriving DecidableEq, Repr

/-- The value that is attached to an option. The former edition takes a double hyphen for a divider
even there, which leaves the option without a value. -/
def attachedValue (edition : Edition) (text : List Char) : Option String :=
  if edition = .former ∧ text = ['-', '-'] then none else some (String.ofList text)

/-- Set an option that takes a value. -/
def Arguments.setValue (a : Arguments) (s : Switch) (value : Option String) :
    Except Stop Arguments :=
  match s with
  | .output => .ok { a with output := value }
  | .env => .ok { a with env := a.env ++ [value] }
  | .config => .ok { a with config := value }
  | .maxInt =>
    match value with
    | none => .ok { a with maxInt := some none }
    | some text =>
      match Decimal.readTyped? text.toList with
      | some n => .ok { a with maxInt := some (some n) }
      | none => .error (.usage (.notInteger s text))
  | _ => .ok a

/-- Set an option that has no value. -/
def Arguments.setFlag (a : Arguments) (s : Switch) : Except Stop Arguments :=
  match s with
  | .help => .error .help
  | .stopOnError => .ok { a with stopOnError := true }
  | .context => .ok { a with context := true }
  | .debug => .ok { a with debug := true }
  | _ => .ok a

/-- A plain word follows. -/
def plainFollows : List (String × Word) → Bool
  | (_, .plain) :: _ => true
  | _ => false

/-- Check what is attached to a short option without a value, which can only be the one for help:
the letters of more short options, the last of which may have a value, attached or in the next word.
Help is given if all of that is in order. The current edition takes what comes after an equals sign,
or starts with a hyphen, for a value, and leaves other letters over. -/
def checkCluster (edition : Edition) (following : List (String × Word)) (s : Switch)
    (equals : Bool) : List Char → Except Stop Unit
  | [] => .error (.usage (.valueUnwanted s ""))
  | c :: rest =>
    let unwanted (value : List Char) : Except Stop Unit :=
      .error (.usage (.valueUnwanted s (String.ofList value)))
    if edition = .current ∧ (equals ∨ c = '-') then unwanted (c :: rest)
    else if edition = .current ∧ c = '=' then unwanted rest
    else match Switch.ofName? ['-', c] with
      | none => if edition = .current then .ok () else unwanted (c :: rest)
      | some next =>
        match next.takesValue, rest with
        | true, [] =>
          if plainFollows following then .ok () else .error (.usage (.valueMissing next))
        | true, _ => .ok ()
        | false, [] => .ok ()
        | false, rest => checkCluster edition following next false rest

/-- Take the words from left to right. -/
def take (edition : Edition) : List (String × Word) → Progress → Except Stop Progress
  | [], p => .ok p
  | (word, .plain) :: rest, p =>
    if p.positional then take edition rest { p with extras := p.extras ++ [word] }
    else
      let p := { p with positional := true, arguments := { p.arguments with input := some word } }
      match rest with
      | (_, .divider) :: rest => take edition rest p
      | rest => take edition rest p
  | (word, .divider) :: rest, p =>
    take edition rest (if p.positional then { p with extras := p.extras ++ [word] } else p)
  | (word, .unknown) :: rest, p => take edition rest { p with extras := p.extras ++ [word] }
  | (_, .option s short attached) :: rest, p =>
    if s.takesValue then
      match attached, rest with
      | some attached, rest =>
        match p.arguments.setValue s (attachedValue edition attached.text) with
        | .ok arguments => take edition rest { p with arguments := arguments }
        | .error e => .error e
      | none, (value, .plain) :: rest =>
        match p.arguments.setValue s (some value) with
        | .ok arguments => take edition rest { p with arguments := arguments }
        | .error e => .error e
      | none, _ => .error (.usage (.valueMissing s))
    else
      match attached with
      | none =>
        match p.arguments.setFlag s with
        | .ok arguments => take edition rest { p with arguments := arguments }
        | .error e => .error e
      | some attached =>
        if short then
          match checkCluster edition rest s attached.equals attached.text with
          | .error e => .error e
          | .ok _ => .error .help
        else
          .error (.usage (.valueUnwanted s (String.ofList attached.text)))

/-- Read a command line. -/
def parse (edition : Edition) (words : List String) : Except Stop Arguments :=
  match classify words with
  | .error e => .error (.usage e)
  | .ok classified =>
    match take edition classified {} with
    | .error e => .error e
    | .ok p =>
      if p.extras.isEmpty then .ok p.arguments else .error (.usage (.unrecognized p.extras))

end LineScan.CommandLine
