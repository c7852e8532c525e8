import LineScan.Decimal.Power
import LineScan.Text.Class
import LineScan.Text.Whitespace

/-!
# Integers in decimal

Integers are unbounded, but their decimal text is not: neither reading nor writing handles more than
`digitLimit` digits. Leading zeros count when reading, and the sign never counts.

`leadingInteger` reads the integer at the front of any text. It is how a variable gets its value,
and it never complains about the text: a text that starts with no integer counts as zero.
-/

namespace LineScan.Decimal

/-- The largest number of digits that is read or written. -/
def digitLimit : Nat := 4300

/-- A numeral is too long to be read or written. -/
inductive Oversize where
  /-- A text of that many digits was to be read. -/
  | reading (digits : Nat)
  /-- An integer of too many digits was to be written. -/
  | writing
  deriving DecidableEq, Repr

/-- The wording of the two cases. -/
def Oversize.message : Oversize → String
  | .reading digits =>
    s!"Exceeds the limit ({digitLimit} digits) for integer string conversion: value has {digits} "
      ++ "digits; use sys.set_int_max_str_digits() to increase the limit"
  | .writing =>
    s!"Exceeds the limit ({digitLimit} digits) for integer string conversion; "
      ++ "use sys.set_int_max_str_digits() to increase the limit"

/-- The value of a run of digits, most significant first. -/
def ofDigits (digits : List Char) : Nat :=
  digits.foldl (fun n c => 10 * n + Text.digitValue c) 0

/-- The value of a run of digits, unless the run is too long. -/
def readDigits (digits : List Char) : Except Oversize Nat :=
  if digits.length > digitLimit then .error (.reading digits.length) else .ok (ofDigits digits)

/-- The decimal text of a natural number. -/
def natText (n : Nat) : List Char := Nat.toDigits 10 n

/-- The decimal text of an integer. -/
def intText (n : Int) : List Char :=
  if n < 0 then '-' :: natText n.natAbs else natText n.natAbs

/-- The decimal text of an integer, unless it is too long. -/
def write (n : Int) : Except Oversize String :=
  if n.natAbs < tenTo digitLimit then .ok (String.ofList (intText n)) else .error .writing

/-- Split an optional sign off a text; `true` stands for minus. -/
def splitSign : List Char → Bool × List Char
  | '-' :: rest => (true, rest)
  | '+' :: rest => (false, rest)
  | text => (false, text)

/-- The integer at the front of a text, after white space and an optional sign; zero if there is
no digit. -/
def leadingInteger (text : List Char) : Except Oversize Int :=
  let (negative, rest) := splitSign (Text.trimStart text)
  match rest.takeWhile Text.isDigit with
  | [] => .ok 0
  | digits => (readDigits digits).map fun n => if negative then -(n : Int) else n

end LineScan.Decimal
