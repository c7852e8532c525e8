import LineScan.Datum.Basic
import LineScan.Decimal.Rounded
import LineScan.Text.Length

/-!
# Message templates

A message can be given as a template with *directives* and a list of arguments. A directive is a
percent sign, flags, a width, a precision, an ignored size letter and a conversion letter. Two
percent signs stand for one. Every directive takes the next argument, and a `*` in place of a width
or a precision takes one more before it.

## Shape of a run

A template is first cut into pieces (`pieces`), which needs no arguments; a directive that the end
of the template cuts short is a piece as well. Filling (`fill`) then walks the pieces from left to
right, so the first failure in the text is the one that is reported.
-/

namespace LineScan.Message

/-- Why a template cannot be filled. -/
inductive TemplateError where
  | argumentMissing
  | argumentsLeft
  | incomplete
  | needsMapping
  | unsupported (letter : Char) (index : Nat)
  | starNotInteger
  | starWidthRange
  | starPrecisionRange
  | widthRange
  | precisionRange
  | needsReal (letter : Char) (kind : String)
  | needsInteger (letter : Char) (kind : String)
  | notReal (kind : String)
  | needsCharacter
  | characterRange
  | infiniteInteger
  | nanInteger
  | hugeReal
  /-- A precision that no integer can be written with. -/
  | digitsRange
  | oversize (cause : Decimal.Oversize)
  | overlong (cause : Text.Overlong)
  deriving DecidableEq, Repr

/-- The wording of each failure. -/
def TemplateError.message : TemplateError → String
  | .argumentMissing => "not enough arguments for format string"
  | .argumentsLeft => "not all arguments converted during string formatting"
  | .incomplete => "incomplete format"
  | .needsMapping => "format requires a mapping"
  | .unsupported letter index =>
    let shown := if 31 ≤ letter.toNat && letter.toNat ≤ 126 then letter else '?'
    let code := String.ofList (Text.hex 1 letter.toNat)
    s!"unsupported format character '{shown}' (0x{code}) at index {index}"
  | .starNotInteger => "* wants int"
  | .starWidthRange => "Python int too large to convert to C ssize_t"
  | .starPrecisionRange => "Python int too large to convert to C int"
  | .widthRange => "width too big"
  | .precisionRange => "precision too big"
  | .needsReal letter kind => s!"%{letter} format: a real number is required, not {kind}"
  | .needsInteger letter kind => s!"%{letter} format: an integer is required, not {kind}"
  | .notReal kind => s!"must be real number, not {kind}"
  | .needsCharacter => "%c requires int or char"
  | .characterRange => "%c arg not in range(0x110000)"
  | .infiniteInteger => "cannot convert float infinity to integer"
  | .nanInteger => "cannot convert float NaN to integer"
  | .hugeReal => "int too large to convert to float"
  | .digitsRange => "precision too large"
  | .oversize cause => cause.message
  | .overlong cause => cause.message

/-! ## Pieces of a template -/

/-- A width or a precision as it is written. -/
inductive Measure where
  | absent
  | star
  | digits (n : Nat)
  deriving DecidableEq, Repr

/-- The flags of a directive. -/
structure Flags where
  left : Bool
  plus : Bool
  blank : Bool
  alternate : Bool
  zero : Bool
  deriving DecidableEq, Repr

/-- What stands between a percent sign and the conversion letter. -/
structure Directive where
  flags : Flags
  width : Measure
  precision : Measure
  deriving DecidableEq, Repr

/-- One piece of a template. -/
inductive Piece where
  /-- A character that stands for itself. -/
  | plain (c : Char)
  /-- A directive with its conversion letter and the letter's place in the template. -/
  | convert (directive : Directive) (letter : Char) (index : Nat)
  /-- A directive that the end of the template cuts short. -/
  | cut (directive : Directive)
  /-- A directive that asks for an argument by name. -/
  | named
  deriving DecidableEq, Repr

/-- The characters that are flags. -/
def isFlag (c : Char) : Bool := c == '-' || c == '+' || c == ' ' || c == '#' || c == '0'

/-- The flags among some characters. -/
def Flags.ofChars (cs : List Char) : Flags where
  left := cs.contains '-'
  plus := cs.contains '+'
  blank := cs.contains ' '
  alternate := cs.contains '#'
  zero := cs.contains '0'

/-- Read a width at the front of a text. -/
def readWidth : List Char → Measure × List Char
  | '*' :: rest => (.star, rest)
  | text =>
    match text.takeWhile Text.isDigit with
    | [] => (.absent, text)
    | ds => (.digits (Decimal.ofDigits ds), text.dropWhile Text.isDigit)

/-- Read a precision, a point and what follows it, at the front of a text; a point alone asks for
the precision zero. -/
def readPrecision : List Char → Measure × List Char
  | '.' :: '*' :: rest => (.star, rest)
  | '.' :: rest =>
    (.digits (Decimal.ofDigits (rest.takeWhile Text.isDigit)), rest.dropWhile Text.isDigit)
  | text => (.absent, text)

/-- Skip one size letter at the front of a text. -/
def skipSize : List Char → List Char
  | c :: rest => if c == 'h' || c == 'l' || c == 'L' then rest else c :: rest
  | [] => []

/-- Read a directive, from just after its percent sign, and the text that starts with its
conversion letter. -/
def readDirective (text : List Char) : Directive × List Char :=
  let flags := Flags.ofChars (text.takeWhile isFlag)
  let (width, rest) := readWidth (text.dropWhile isFlag)
  let (precision, rest) := readPrecision rest
  (⟨flags, width, precision⟩, skipSize rest)

/-- Cut the rest of a template of `total` characters into pieces; `fuel` bounds their number. -/
def piecesFrom (total : Nat) : Nat → List Char → List Piece
  | 0, _ => []
  | _, [] => []
  | fuel + 1, '%' :: '%' :: rest => .plain '%' :: piecesFrom total fuel rest
  | _ + 1, '%' :: '(' :: _ => [.named]
  | fuel + 1, '%' :: rest =>
    match readDirective rest with
    | (directive, letter :: rest) =>
      .convert directive letter (total - rest.length - 1) :: piecesFrom total fuel rest
    | (directive, []) => [.cut directive]
  | fuel + 1, c :: rest => .plain c :: piecesFrom total fuel rest

/-- The pieces of a template. -/
def pieces (template : List Char) : List Piece :=
  piecesFrom template.length template.length template

/-! ## Conversions -/

/-- A directive whose measures are known. -/
structure Shape where
  flags : Flags
  width : Nat
  precision : Option Nat
  deriving DecidableEq, Repr

/-- A converted argument before it is filled up to the width. -/
inductive Body where
  | text (cs : List Char)
  /-- A number: its sign, a base mark, its digits. -/
  | number (negative : Bool) (mark digits : List Char)
  deriving DecidableEq, Repr

/-- Fill up a text with blanks. -/
def Shape.pad (shape : Shape) (text : List Char) : List Char :=
  let blanks := List.replicate (shape.width - text.length) ' '
  if shape.flags.left then text ++ blanks else blanks ++ text

/-- Fill up a converted argument. Zeros asked for stand before the digits of a number. -/
def Shape.fill (shape : Shape) : Body → List Char
  | .text cs => shape.pad cs
  | .number negative mark digits =>
    let sign :=
      if negative then ['-']
      else if shape.flags.plus then ['+']
      else if shape.flags.blank then [' ']
      else []
    let front := sign ++ mark
    if shape.flags.zero && !shape.flags.left then
      front ++ List.replicate (shape.width - front.length - digits.length) '0' ++ digits
    else
      shape.pad (front ++ digits)

/-- The integer that an argument stands for in a decimal conversion. -/
def wholeOf (letter : Char) : Datum → Except TemplateError Int
  | .int n => pure n
  | .bool b => pure (if b then 1 else 0)
  | .float x =>
    match Decimal.Double.ofFloat x with
    | .nan => throw .nanInteger
    | .infinite _ => throw .infiniteInteger
    | .finite negative m e _ =>
      let n : Int := (Decimal.Quotient.ofBinary m e).floor
      pure (if negative then -n else n)
  | d => throw (.needsReal letter d.kind)

/-- The integer that an argument stands for in an octal or hexadecimal conversion. -/
def integerOf (letter : Char) : Datum → Except TemplateError Int
  | .int n => pure n
  | .bool b => pure (if b then 1 else 0)
  | d => throw (.needsInteger letter d.kind)

/-- Integers at or beyond this bound are nearest to no finite double. -/
def realBound : Nat := Decimal.twoTo 1024 - Decimal.twoTo 970

/-- The double that an argument stands for. -/
def realOf : Datum → Except TemplateError Decimal.Double
  | .float x => pure (.ofFloat x)
  | .bool b => pure (.ofInt (if b then 1 else 0))
  | .int n =>
    if n.natAbs ≥ realBound then throw .hugeReal
    else pure (.ofInt n)
  | d => throw (.notReal d.kind)

/-- The character that an argument stands for. -/
def characterOf : Datum → Except TemplateError Char
  | .text s =>
    match s.toList with
    | [c] => pure c
    | _ => throw .needsCharacter
  | .int n => if 0 ≤ n && n < 0x110000 then pure (Char.ofNat n.toNat) else throw .characterRange
  | .bool b => pure (Char.ofNat (if b then 1 else 0))
  | _ => throw .needsCharacter

/-- The largest precision. -/
def maxPrecision : Nat := 2147483647

/-- Digits filled up with zeros to the precision. With a sign and a base mark, their number must not
go beyond the largest precision. -/
def Shape.digits (shape : Shape) (ds : List Char) : Except TemplateError (List Char) :=
  let precision := shape.precision.getD 0
  if precision + 3 > maxPrecision then throw .digitsRange
  else pure (List.replicate (precision - ds.length) '0' ++ ds)

/-- A text cut to the precision. -/
def Shape.text (shape : Shape) (s : Except Decimal.Oversize String) :
    Except TemplateError Body := do
  let cs ← (s.mapError TemplateError.oversize).map String.toList
  pure (.text (match shape.precision with
    | some n => cs.take n
    | none => cs))

/-- A number in base eight or sixteen. -/
def Shape.based (shape : Shape) (base : Nat) (letter : Char) (n : Int) :
    Except TemplateError Body := do
  let mark := if shape.flags.alternate then ['0', letter] else []
  let ds := Nat.toDigits base n.natAbs
  let ds := if letter == 'X' then ds.map Char.toUpper else ds
  pure (.number (n < 0) mark (← shape.digits ds))

/-- The precision of a rounded number: six unless another is asked for. A scientific text has one
digit more than its precision; the largest precision leaves no such number, and counts as zero. -/
def Shape.places (shape : Shape) (style : Decimal.Style) : Nat :=
  let precision := shape.precision.getD 6
  if style = .scientific ∧ precision = maxPrecision then 0 else precision

/-- A rounded number. -/
def Shape.real (shape : Shape) (style : Decimal.Style) (capital : Bool) (d : Datum) :
    Except TemplateError Body := do
  let x ← realOf d
  let mark := if capital then 'E' else 'e'
  let cs := x.rounded style (shape.places style) mark shape.flags.alternate
  let cs := if capital then cs.map Char.toUpper else cs
  pure (match cs with
    | '-' :: ds => .number true [] ds
    | ds => .number false [] ds)

/-- Convert one argument. -/
def Shape.convert (shape : Shape) (letter : Char) (index : Nat) (d : Datum) :
    Except TemplateError Body :=
  match letter with
  | 's' => shape.text d.plainText
  | 'r' => shape.text d.quotedText
  | 'a' => shape.text d.quotedAsciiText
  | 'd' | 'i' | 'u' => do
    let n ← wholeOf letter d
    let ds ← shape.digits (Decimal.natText n.natAbs)
    let _ ← (Decimal.write n).mapError TemplateError.oversize
    pure (.number (n < 0) [] ds)
  | 'o' => do shape.based 8 letter (← integerOf letter d)
  | 'x' | 'X' => do shape.based 16 letter (← integerOf letter d)
  | 'e' => shape.real .scientific false d
  | 'E' => shape.real .scientific true d
  | 'f' => shape.real .fixed false d
  | 'F' => shape.real .fixed true d
  | 'g' => shape.real .general false d
  | 'G' => shape.real .general true d
  | 'c' => do pure (.text [← characterOf d])
  | _ => throw (.unsupported letter index)

/-! ## Filling a template -/

/-- Take the next argument. -/
def nextArgument : List Datum → Except TemplateError (Datum × List Datum)
  | [] => throw .argumentMissing
  | d :: rest => pure (d, rest)

/-- The integer that a `*` takes. -/
def starArgument (args : List Datum) : Except TemplateError (Int × List Datum) := do
  match ← nextArgument args with
  | (.int n, rest) => pure (n, rest)
  | (.bool b, rest) => pure ((if b then 1 else 0), rest)
  | _ => throw .starNotInteger

/-- The width that an index asks for. The least index has no opposite, and asks for none. -/
def widthOf (n : Int) : Nat := if n.natAbs > Place.maxIndex then 0 else n.natAbs

/-- Work out width and precision of a directive. A negative width from a `*` asks for the left, a
negative precision counts as zero. -/
def Directive.measure (directive : Directive) (args : List Datum) :
    Except TemplateError (Shape × List Datum) := do
  let (flags, width, args) ← match directive.width with
    | .absent => pure (directive.flags, 0, args)
    | .digits n =>
      if n > Place.maxIndex then throw .widthRange else pure (directive.flags, n, args)
    | .star => do
      let (n, args) ← starArgument args
      if !Place.isIndex n then throw .starWidthRange
      let flags := if n < 0 then { directive.flags with left := true } else directive.flags
      pure (flags, widthOf n, args)
  let (precision, args) ← match directive.precision with
    | .absent => pure (none, args)
    | .digits n => if n > maxPrecision then throw .precisionRange else pure (some n, args)
    | .star => do
      let (n, args) ← starArgument args
      if n > maxPrecision || n < -(maxPrecision + 1) then throw .starPrecisionRange
      pure (some n.toNat, args)
  pure (⟨flags, width, precision⟩, args)

/-- Fill the pieces of a template from left to right. There must be room for what a directive asks
for. -/
def fillPieces (room : Text.Room) : List Piece → List Datum → Except TemplateError (List Char)
  | [], [] => pure []
  | [], _ :: _ => throw .argumentsLeft
  | .plain c :: rest, args => do
    let others ← fillPieces room rest args
    pure (c :: others)
  | .named :: _, _ => throw .needsMapping
  | .cut directive :: _, args => do
    let _ ← directive.measure args
    throw .incomplete
  | .convert directive letter index :: rest, args => do
    let (shape, args) ← directive.measure args
    let (d, args) ← nextArgument args
    let body ← shape.convert letter index d
    let _ ← (room.length shape.width).mapError TemplateError.overlong
    let filled := shape.fill body
    let _ ← (room.length filled.length).mapError TemplateError.overlong
    let others ← fillPieces room rest args
    pure (filled ++ others)

/-- Fill a template with arguments. -/
def fill (room : Text.Room) (template : String) (args : List Datum) :
    Except TemplateError String := do
  let text ← fillPieces room (pieces template.toList) args
  let _ ← (room.length text.length).mapError TemplateError.overlong
  pure (String.ofList text)

/-- A message: the template itself when there are no arguments, else the template filled. -/
def compose (room : Text.Room) (template : String) (args : List Datum) :
    Except TemplateError String :=
  if args.isEmpty then pure template else fill room template args

end LineScan.Message
