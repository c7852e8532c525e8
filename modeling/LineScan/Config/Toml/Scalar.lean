import LineScan.Datum.Basic
import LineScan.Decimal.Nearest

/-!
# Scalars of a TOML document

Strings, numbers, dates and times, read from the front of a text. A reader for a form that may be
absent answers `none`; a form that starts well and goes wrong is an error. What follows a scalar is
not looked at here, so `1.` is the integer `1` with a point left over.
-/

namespace LineScan.Toml

/-- Why a document cannot be read. -/
inductive Error where
  /-- The text is not a TOML document. -/
  | malformed
  /-- An integer has too many digits. -/
  | oversize (cause : Decimal.Oversize)
  /-- The values are nested so deep that the stack of calls has no room for reading them. -/
  | tooDeep
  deriving DecidableEq, Repr

/-- A reader from the front of a text. -/
abbrev Reader (α : Type) := List Char → Except Error (α × List Char)

/-- The text is not a TOML document. -/
def malformed {α : Type} : Except Error α := .error .malformed

/-! ## Strings -/

/-- ASCII control characters, which no string or comment may hold. -/
def isControl (c : Char) : Bool := c.toNat < 32 || c.toNat == 127

/-- The character must not stand in a string; tabs may, and line feeds in a multi-line string. -/
def isForbidden (multiline : Bool) (c : Char) : Bool :=
  isControl c && c != '\t' && !(multiline && c == '\n')

/-- Blanks of a TOML line. -/
def isSpace (c : Char) : Bool := c == ' ' || c == '\t'

/-- Blanks and line feeds. -/
def isSpaceOrBreak (c : Char) : Bool := isSpace c || c == '\n'

/-- The value of a hexadecimal digit. -/
def hexDigit? (c : Char) : Option Nat :=
  if c.isDigit then some (c.toNat - '0'.toNat)
  else if 'a' ≤ c && c ≤ 'f' then some (c.toNat - 'a'.toNat + 10)
  else if 'A' ≤ c && c ≤ 'F' then some (c.toNat - 'A'.toNat + 10)
  else none

/-- A character given by `count` hexadecimal digits; it must be a Unicode scalar value. -/
def readCodePoint (count : Nat) : Reader Char := fun text =>
  match (text.take count).mapM hexDigit? with
  | none => malformed
  | some ds =>
    let n := ds.foldl (fun n d => 16 * n + d) 0
    if ds.length == count && n.isValidChar then .ok (Char.ofNat n, text.drop count) else malformed

/-- The character an escape letter stands for. -/
def escapeLetter? : Char → Option Char
  | 'b' => some '\x08'
  | 't' => some '\t'
  | 'n' => some '\n'
  | 'f' => some '\x0c'
  | 'r' => some '\r'
  | '\x22' => some '\x22'
  | '\\' => some '\\'
  | _ => none

/-- An escape, from just after its backslash: the characters it stands for. In a multi-line string a
backslash at the end of a line stands for nothing, and blanks and breaks after it are skipped. -/
def readEscape (multiline : Bool) : Reader (List Char)
  | [] => malformed
  | c :: rest =>
    if multiline && isSpaceOrBreak c then
      if c == '\n' then
        .ok ([], rest.dropWhile isSpaceOrBreak)
      else
        match rest.dropWhile isSpace with
        | [] => .ok ([], [])
        | d :: rest => if d == '\n' then .ok ([], rest.dropWhile isSpaceOrBreak) else malformed
    else if c == 'u' then
      (readCodePoint 4 rest).map fun (d, rest) => ([d], rest)
    else if c == 'U' then
      (readCodePoint 8 rest).map fun (d, rest) => ([d], rest)
    else
      match escapeLetter? c with
      | some d => .ok ([d], rest)
      | none => malformed

/-- The body of a basic string up to its closing quotes, on top of the characters read so far, last
first; `fuel` bounds the number of steps. -/
def readBasic (multiline : Bool) : Nat → List Char → Reader (List Char)
  | 0, _, _ => malformed
  | _ + 1, _, [] => malformed
  | fuel + 1, done, c :: rest =>
    if c == Text.quotationMark then
      if !multiline then .ok (done.reverse, rest)
      else
        match rest with
        | '\x22' :: '\x22' :: rest => .ok (done.reverse, rest)
        | _ => readBasic multiline fuel (c :: done) rest
    else if c == '\\' then
      match readEscape multiline rest with
      | .ok (cs, rest) => readBasic multiline fuel (cs.reverse ++ done) rest
      | .error e => .error e
    else if isForbidden multiline c then malformed
    else readBasic multiline fuel (c :: done) rest

/-- Split a text at the first three quotes in a row. -/
def splitAtTriple (quote : Char) : List Char → Option (List Char × List Char)
  | a :: b :: c :: rest =>
    if a == quote && b == quote && c == quote then some ([], rest)
    else (splitAtTriple quote (b :: c :: rest)).map fun (body, rest) => (a :: body, rest)
  | _ => none

/-- The body of a literal string up to its closing quote. -/
def readLiteral : Reader (List Char) := fun text =>
  let body := text.takeWhile (· != Text.apostrophe)
  match text.drop body.length with
  | [] => malformed
  | _ :: rest => if body.any (isForbidden false) then malformed else .ok (body, rest)

/-- The body of a multi-line literal string up to its closing quotes. -/
def readMultilineLiteral : Reader (List Char) := fun text =>
  match splitAtTriple Text.apostrophe text with
  | none => malformed
  | some (body, rest) => if body.any (isForbidden true) then malformed else .ok (body, rest)

/-- Up to two quotes right after the closing ones belong to a multi-line string. -/
def takeExtraQuotes (quote : Char) (body rest : List Char) : List Char × List Char :=
  let extra := (rest.take 2).takeWhile (· == quote)
  (body ++ extra, rest.drop extra.length)

/-- Drop a line feed at the front of a text. -/
def dropBreak : List Char → List Char
  | '\n' :: rest => rest
  | text => text

/-- A string, if a quote is at the front of the text. -/
def readString? (text : List Char) : Option (Except Error (String × List Char)) :=
  let finish (multiline : Option Char) (r : Except Error (List Char × List Char)) :=
    some (r.map fun (body, rest) =>
      let (body, rest) := match multiline with
        | some quote => takeExtraQuotes quote body rest
        | none => (body, rest)
      (String.ofList body, rest))
  match text with
  | '\x22' :: '\x22' :: '\x22' :: rest =>
    finish (some Text.quotationMark) (readBasic true (rest.length + 1) [] (dropBreak rest))
  | '\x22' :: rest => finish none (readBasic false (rest.length + 1) [] rest)
  | '\x27' :: '\x27' :: '\x27' :: rest =>
    finish (some Text.apostrophe) (readMultilineLiteral (dropBreak rest))
  | '\x27' :: rest => finish none (readLiteral rest)
  | _ => none

/-! ## Numbers -/

/-- Further digits of a number, each of which may follow an underscore. -/
def moreDigits (p : Char → Bool) : List Char → List Char × List Char
  | '_' :: c :: rest =>
    if p c then
      let (ds, rest) := moreDigits p rest
      (c :: ds, rest)
    else ([], '_' :: c :: rest)
  | c :: rest =>
    if p c then
      let (ds, rest) := moreDigits p rest
      (c :: ds, rest)
    else ([], c :: rest)
  | [] => ([], [])

/-- Digits that start with a digit. -/
def someDigits? (p : Char → Bool) : List Char → Option (List Char × List Char)
  | c :: rest =>
    if p c then
      let (ds, rest) := moreDigits p rest
      some (c :: ds, rest)
    else none
  | [] => none

/-- The value of digits in a base up to sixteen. -/
def valueIn (base : Nat) (ds : List Char) : Nat :=
  ds.foldl (fun n c => base * n + (hexDigit? c).getD 0) 0

/-- A number in base sixteen, two or eight, from just after its leading zero. -/
def readBased? : List Char → Option (Nat × List Char)
  | 'x' :: rest =>
    (someDigits? (fun c => (hexDigit? c).isSome) rest).map fun (ds, rest) => (valueIn 16 ds, rest)
  | 'b' :: rest =>
    (someDigits? (fun c => c == '0' || c == '1') rest).map fun (ds, rest) => (valueIn 2 ds, rest)
  | 'o' :: rest =>
    (someDigits? (fun c => '0' ≤ c && c ≤ '7') rest).map fun (ds, rest) => (valueIn 8 ds, rest)
  | _ => none

/-- The integer part of a decimal number: a zero alone, or digits that start with no zero. -/
def readWhole? : List Char → Option (List Char × List Char)
  | '0' :: rest => some (['0'], rest)
  | text => someDigits? Char.isDigit text

/-- A fractional part. -/
def readFraction? : List Char → Option (List Char × List Char)
  | '.' :: rest => someDigits? Char.isDigit rest
  | _ => none

/-- An exponent part. -/
def readExponent? : List Char → Option (Int × List Char)
  | c :: rest =>
    if c == 'e' || c == 'E' then
      let (negative, rest) := Decimal.splitSign rest
      (someDigits? Char.isDigit rest).map fun (ds, rest) =>
        ((if negative then -(Decimal.ofDigits ds : Int) else Decimal.ofDigits ds), rest)
    else none
  | [] => none

/-- A float, with its sign. -/
def signedFloat (negative : Bool) (x : Float) : Datum := .float (if negative then -x else x)

/-- A decimal number: an integer, or a float if it has a fraction or an exponent. -/
def readDecimal? (text : List Char) : Option (Except Error (Datum × List Char)) :=
  let (negative, unsigned) := Decimal.splitSign text
  match readWhole? unsigned with
  | none => none
  | some (whole, rest) =>
    let (fraction, afterFraction) := (readFraction? rest).getD ([], rest)
    let exponent? := readExponent? afterFraction
    if fraction.isEmpty && exponent?.isNone then
      some (match Decimal.readDigits whole with
        | .error cause => .error (.oversize cause)
        | .ok n => .ok (.int (if negative then -(n : Int) else n), rest))
    else
      let (exponent, rest) := exponent?.getD (0, afterFraction)
      let x : Decimal.Scientific :=
        ⟨Decimal.ofDigits (whole ++ fraction), exponent - fraction.length⟩
      some (.ok (signedFloat negative x.toFloat, rest))

/-- A float that is no number, or infinite. -/
def readSpecial? (text : List Char) : Option (Datum × List Char) :=
  let (negative, rest) := Decimal.splitSign text
  match rest with
  | 'i' :: 'n' :: 'f' :: rest => some (signedFloat negative (1.0 / 0.0), rest)
  | 'n' :: 'a' :: 'n' :: rest => some (signedFloat negative (0.0 / 0.0), rest)
  | _ => none

/-- A number of any kind. -/
def readNumber? (text : List Char) : Option (Except Error (Datum × List Char)) :=
  let based := match text with
    | '0' :: rest => readBased? rest
    | _ => none
  match based with
  | some (n, rest) => some (.ok (.int n, rest))
  | none => readDecimal? text

/-! ## Dates and times -/

/-- Exactly `count` digits. -/
def readCount? (count : Nat) (text : List Char) : Option (Nat × List Char) :=
  let ds := text.take count
  if ds.length == count && ds.all Char.isDigit then some (Decimal.ofDigits ds, text.drop count)
  else none

/-- Two digits with a value between two bounds. -/
def readTwo? (low high : Nat) (text : List Char) : Option (Nat × List Char) :=
  match readCount? 2 text with
  | some (n, rest) => if low ≤ n && n ≤ high then some (n, rest) else none
  | none => none

/-- A given character. -/
def readChar? (c : Char) : List Char → Option (List Char)
  | d :: rest => if c == d then some rest else none
  | [] => none

/-- The microseconds in a fraction of a second; digits after the sixth are ignored. -/
def readMicros (text : List Char) : Nat × List Char :=
  match text with
  | '.' :: rest =>
    match rest.takeWhile Char.isDigit with
    | [] => (0, text)
    | ds =>
      let six := ds.take 6
      (Decimal.ofDigits six * Decimal.tenTo (6 - six.length), rest.drop ds.length)
  | _ => (0, text)

/-- A time of day. -/
def readTime? (text : List Char) : Option (TimeOfDay × List Char) := do
  let (hour, rest) ← readTwo? 0 23 text
  let rest ← readChar? ':' rest
  let (minute, rest) ← readTwo? 0 59 rest
  let rest ← readChar? ':' rest
  let (second, rest) ← readTwo? 0 59 rest
  let (micro, rest) := readMicros rest
  pure (⟨hour, minute, second, micro⟩, rest)

/-- A date, with month and day in range; the day need not exist in the month. -/
def readDate? (text : List Char) : Option (Date × List Char) := do
  let (year, rest) ← readCount? 4 text
  let rest ← readChar? '-' rest
  let (month, rest) ← readTwo? 1 12 rest
  let rest ← readChar? '-' rest
  let (day, rest) ← readTwo? 1 31 rest
  pure (⟨year, month, day⟩, rest)

/-- An offset from universal time, in minutes. -/
def readOffset? (text : List Char) : Option (Int × List Char) :=
  match text with
  | [] => none
  | c :: rest =>
    if c == 'Z' || c == 'z' then some (0, rest)
    else if c == '+' || c == '-' then do
      let (hours, rest) ← readTwo? 0 23 rest
      let rest ← readChar? ':' rest
      let (minutes, rest) ← readTwo? 0 59 rest
      let n : Int := hours * 60 + minutes
      pure ((if c == '-' then -n else n), rest)
    else none

/-- A time of day after a date. -/
def readTimePart? : List Char → Option (TimeOfDay × List Char)
  | c :: rest => if c == 'T' || c == 't' || c == ' ' then readTime? rest else none
  | [] => none

/-- A date, with a time of day and an offset if they follow. A date that does not exist is an
error. -/
def readDateTime? (text : List Char) : Option (Except Error (Datum × List Char)) :=
  (readDate? text).map fun (date, rest) =>
    if !date.isValid then malformed
    else match readTimePart? rest with
      | none => .ok (.date date, rest)
      | some (time, rest) =>
        match readOffset? rest with
        | some (minutes, rest) => .ok (.dateTime date time (some minutes), rest)
        | none => .ok (.dateTime date time none, rest)

/-! ## All scalars -/

/-- The text without a given start. -/
def dropStart? (start text : List Char) : Option (List Char) :=
  if start.isPrefixOf text then some (text.drop start.length) else none

/-- A truth value. -/
def readBool? (text : List Char) : Option (Datum × List Char) :=
  match dropStart? "true".toList text with
  | some rest => some (.bool true, rest)
  | none => (dropStart? "false".toList text).map fun rest => (.bool false, rest)

/-- A scalar of any kind. -/
def readScalar : Reader Datum := fun text =>
  match readString? text with
  | some r => r.map fun (s, rest) => (.text s, rest)
  | none =>
    match readBool? text with
    | some r => .ok r
    | none =>
      match readDateTime? text with
      | some r => r
      | none =>
        match readTime? text with
        | some (t, rest) => .ok (.time t, rest)
        | none =>
          match readNumber? text with
          | some r => r
          | none =>
            match readSpecial? text with
            | some r => .ok r
            | none => malformed

end LineScan.Toml
