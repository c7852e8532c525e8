import LineScan.CommandLine.Program

/-!
# The executable

Everything that touches the outside: the files a command line asks for are read first, the pure
program runs on what was read, and what it leaves behind is written last.
-/

namespace LineScan.Executable

open CommandLine

/-- The error that the operating system gave. -/
def osErrorOf : IO.Error → OsError
  | .noFileOrDirectory .. => .missing
  | .inappropriateType _ code _ => if code == 21 then .isDirectory else .notDirectory
  | .invalidArgument _ code _ => if code == 36 then .nameTooLong else ⟨22, "Invalid argument"⟩
  | .permissionDenied .. => ⟨13, "Permission denied"⟩
  | _ => ⟨5, "Input/output error"⟩

/-- The location of a file that exists. -/
def locate (path : Path) : IO String := do
  try
    return (← IO.FS.realPath path.text).toString
  catch _ =>
    return path.text

/-- What a path leads to. A file that is missing may be created later, or not. -/
def lookAt (path : Path) : IO Node := do
  if path.hasNul then
    return .blocked .missing
  try
    let content ← IO.FS.readBinFile path.text
    return .file (← locate path) content
  catch e =>
    let cause := osErrorOf e
    if cause = .isDirectory then return .directory
    else if cause = .missing then return .vacant path.text
    else return .blocked cause

/-- Read a stream to its end. -/
partial def readAll (stream : IO.FS.Stream) (done : ByteArray) : IO ByteArray := do
  let chunk ← stream.read 65536
  if chunk.isEmpty then return done else readAll stream (done ++ chunk)

/-- The identifiers in a text, possibly more than once; `current` holds the open one, last character
first. -/
def identifiers (current : List Char) : List Char → List String
  | [] => [String.ofList current.reverse]
  | c :: rest =>
    if Text.isIdentChar c then identifiers (c :: current) rest
    else String.ofList current.reverse :: identifiers [] rest

/-- The variables of the process environment that a run may ask for: those that the input may
mention, and the number of columns. -/
def environmentOf (input : ByteArray) : IO (Bindings String) := do
  let text := (Text.Stream.ofBytes input).lines.flatten
  let mut env : Bindings String := []
  for name in ("COLUMNS" :: identifiers [] text).eraseDups do
    if !name.isEmpty then
      if let some value ← IO.getEnv name then
        env := env.insert name value
  return env

/-- The bytes of the input, as far as they can be told before the run. -/
def inputOf (arguments : Arguments) (look : Path → Node) : IO ByteArray := do
  match arguments.inputPath with
  | none => readAll (← IO.getStdin) .empty
  | some path =>
    match look path with
    | .file _ content _ => return content
    | _ => return .empty

/-- The outside as a command line needs it. -/
def worldFor (arguments : Arguments) : IO World := do
  let paths := arguments.configPath :: (arguments.inputPath.toList ++ arguments.outputPath.toList)
  let mut nodes : List (Path × Node) := []
  for path in paths do
    nodes := (path, ← lookAt path) :: nodes
  let known := nodes
  let look := fun path => (known.lookup path).getD (.blocked .missing)
  let input ← inputOf arguments look
  return {
    look := look
    stdin := input
    environment := ← environmentOf input
    source := .seeded (← IO.monoNanosNow) }

/-- Write what a run leaves behind; the answer is the exit code. -/
def deliver (outcome : Outcome) : IO UInt32 := do
  if let some (location, text) := outcome.written then
    IO.FS.writeFile location text
  let out ← IO.getStdout
  out.putStr outcome.output
  out.flush
  IO.eprint outcome.errors
  match outcome.ending with
  | .exit code => return UInt32.ofNat code
  | .crash cause =>
    IO.eprintln cause.message
    return 1

end LineScan.Executable

/-- Evaluate the expressions of a file or of the standard input. -/
def main (words : List String) : IO UInt32 := do
  let world ← match LineScan.CommandLine.parse .current words with
    | .ok arguments => LineScan.Executable.worldFor arguments
    | .error _ => do
      let environment ← LineScan.Executable.environmentOf .empty
      pure { look := fun _ => .directory, environment := environment }
  LineScan.Executable.deliver (LineScan.CommandLine.run world words)
