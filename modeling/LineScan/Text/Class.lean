/-!
# Character classes of the scanner

The scanner sorts characters by a few fixed classes: blanks, digits, letters, and the two classes
that spell an identifier. All of them are ASCII classes, so a character outside ASCII belongs to
none of them; the calculator's alphabet rests on this.

A *text* can also be asked for its class. A class of characters holds of a text when the text is
one character of that class; the printable class is the exception, because it is the interval from
the blank to the tilde in dictionary order, and longer texts can lie in it too.
-/

namespace LineScan.Text

/-- The six ASCII blanks: space, tab, line feed, vertical tab, form feed, carriage return. -/
def isBlank (c : Char) : Bool := c == ' ' || (9 ≤ c.toNat && c.toNat ≤ 13)

/-- The ten ASCII digits. -/
def isDigit (c : Char) : Bool := c.isDigit

/-- The fifty-two ASCII letters. -/
def isLetter (c : Char) : Bool := c.isAlpha

/-- A letter or a digit. -/
def isLetterOrDigit (c : Char) : Bool := isLetter c || isDigit c

/-- What an identifier starts with: a letter or an underscore. -/
def isIdentStart (c : Char) : Bool := isLetter c || c == '_'

/-- What an identifier goes on with: a letter, a digit or an underscore. -/
def isIdentChar (c : Char) : Bool := isLetter c || isDigit c || c == '_'

/-- The printable ASCII characters, the blank included. -/
def isPrintable (c : Char) : Bool := ' ' ≤ c && c ≤ '~'

/-- The digit's value; only meaningful for `isDigit`. -/
def digitValue (c : Char) : Nat := c.toNat - '0'.toNat

/-! ## Classes of texts -/

/-- The classes of a text, in the order in which a survey lists them. -/
structure Classes where
  blank : Bool
  digit : Bool
  letter : Bool
  letterOrDigit : Bool
  identStart : Bool
  identChar : Bool
  printable : Bool
  deriving DecidableEq, Repr

/-- A class of characters, asked of a text: the text is one character of the class. -/
def isOne (p : Char → Bool) : List Char → Bool
  | [c] => p c
  | _ => false

/-- The text lies between the blank and the tilde in dictionary order by code point. -/
def isPrintableText (text : List Char) : Bool :=
  match text with
  | [] => false
  | c :: rest => ' ' ≤ c && (c < '~' || (c == '~' && rest.isEmpty))

/-- All classes of a text at once. -/
def classes (text : List Char) : Classes where
  blank := isOne isBlank text
  digit := isOne isDigit text
  letter := isOne isLetter text
  letterOrDigit := isOne isLetterOrDigit text
  identStart := isOne isIdentStart text
  identChar := isOne isIdentChar text
  printable := isPrintableText text

end LineScan.Text
