import LineScan.Scanner.Basic
import LineScan.Calculator.Terminals
import LineScan.Bindings

/-!
# The functions of the calculator

A function takes a list of integers. The least and the greatest of no integers do not exist, which
is a fault; the random function ignores its arguments, with a notice, and draws a number from zero
up to a limit. Any other function is total.
-/

namespace LineScan.Calculator

/-- Where random numbers come from. Numbers are drawn in order, so a source is a stream. -/
inductive RandomSource where
  /-- The given numbers, over and over; each is brought into range by its remainder, which has the
  sign of the modulus. -/
  | scripted (values : List Int)
  /-- A stream of large numbers; each is brought into range by its remainder. -/
  | stream (word : Nat → Nat)

/-- Scramble a 64-bit word; every bit of the result depends on every bit of the word. -/
def scramble (w : UInt64) : UInt64 :=
  let w := (w ^^^ (w >>> 30)) * 0xbf58476d1ce4e5b9
  let w := (w ^^^ (w >>> 27)) * 0x94d049bb133111eb
  w ^^^ (w >>> 31)

/-- An endless stream of 256-bit numbers from a seed: four scrambled words for each. -/
def RandomSource.seeded (seed : Nat) : RandomSource := .stream fun index =>
  let word (i : Nat) : Nat :=
    (scramble (UInt64.ofNat seed + 0x9e3779b97f4a7c15 * UInt64.ofNat (4 * index + i + 1))).toNat
  word 0 + Decimal.twoTo 64 * (word 1 + Decimal.twoTo 64 * (word 2 + Decimal.twoTo 64 * word 3))

/-- Number `index` of the stream, brought into the range from zero up to `limit`. -/
def RandomSource.draw (source : RandomSource) (index : Nat) (limit : Int) : Except Fault Int :=
  match source with
  | .scripted values =>
    if limit + 1 = 0 then .error .zeroModulus
    else .ok ((values[index % values.length]?.getD 0).fmod (limit + 1))
  | .stream word =>
    if limit < 0 then .error (.emptyRange limit) else .ok ((word index : Int) % (limit + 1))

/-- A function of the calculator. -/
inductive Builtin where
  /-- A total function. -/
  | total (f : List Int → Int)
  | least
  | greatest
  /-- A random number from zero up to a limit. -/
  | random (limit : Int)

/-- The least of some integers. -/
def leastOf : List Int → Option Int
  | [] => none
  | n :: rest => some (rest.foldl min n)

/-- The greatest of some integers. -/
def greatestOf : List Int → Option Int
  | [] => none
  | n :: rest => some (rest.foldl max n)

/-- What is said when the random function is given arguments. -/
def randomNotice : String := "arguments in rand() ignored"

/-- Draw a random number. -/
def drawRandom (source : RandomSource) (limit : Int) : Rule Int := do
  let index := (← get).journal.draws
  modify fun s => { s with journal := { s.journal with draws := index + 1 } }
  match source.draw index limit with
  | .ok n => pure n
  | .error f => Rule.fault f

/-- Apply a function. -/
def Builtin.apply (source : RandomSource) (args : List Int) : Builtin → Rule Int
  | .total f => pure (f args)
  | .least =>
    match leastOf args with
    | some n => pure n
    | none => Rule.fault (.noArguments "min")
  | .greatest =>
    match greatestOf args with
    | some n => pure n
    | none => Rule.fault (.noArguments "max")
  | .random limit => do
    if !args.isEmpty then Rule.enter (.notice randomNotice)
    drawRandom source limit

/-- The functions there are unless others are given. -/
def defaultFunctions (maxInt : Int) : Bindings Builtin :=
  [("min", .least), ("max", .greatest), ("rand", .random maxInt)]

/-- The functions that are refused without arguments; it is their name that counts. -/
def needsArgument (name : String) : Bool := name == "min" || name == "max"

end LineScan.Calculator
