import LineScan.Text.Visible

/-!
# Quoted texts

Messages show a text between quotes, so that its ends and its invisible characters can be seen.
The quote is `'`, unless the text holds a `'` and no `"`. Inside, the backslash and the active quote
are escaped by a backslash; line feed, carriage return and tab have letters; any other character
that must not stand for itself is written by its code point, in two, four or eight hexadecimal
digits, whichever is the first to suffice.

Which characters stand for themselves is a parameter: `quoted` keeps every visible character,
`quotedAscii` only the visible ASCII ones.
-/

namespace LineScan.Text

/-- The single quote. -/
def apostrophe : Char := '\x27'

/-- The double quote. -/
def quotationMark : Char := '\x22'

/-- A number in hexadecimal, lower case, with at least `width` digits. -/
def hex (width n : Nat) : List Char :=
  let ds := Nat.toDigits 16 n
  List.replicate (width - ds.length) '0' ++ ds

/-- A character by its code point. -/
def escapeCode (c : Char) : List Char :=
  let n := c.toNat
  if n < 0x100 then ['\\', 'x'] ++ hex 2 n
  else if n < 0x10000 then ['\\', 'u'] ++ hex 4 n
  else ['\\', 'U'] ++ hex 8 n

/-- One character inside a quoted text. -/
def escapeChar (keep : Char → Bool) (quote : Char) (c : Char) : List Char :=
  if c == quote || c == '\\' then ['\\', c]
  else if c == '\n' then ['\\', 'n']
  else if c == '\r' then ['\\', 'r']
  else if c == '\t' then ['\\', 't']
  else if keep c then [c]
  else escapeCode c

/-- The quote that surrounds a text. -/
def quoteFor (text : List Char) : Char :=
  if text.contains apostrophe && !text.contains quotationMark then quotationMark else apostrophe

/-- The text between quotes, where `keep` says which characters stand for themselves. -/
def quotedWith (keep : Char → Bool) (text : List Char) : List Char :=
  let quote := quoteFor text
  quote :: text.flatMap (escapeChar keep quote) ++ [quote]

/-- The quoted form of a text; every visible character stands for itself. -/
def quoted (text : String) : String :=
  String.ofList (quotedWith isVisible text.toList)

/-- The quoted form of a text in ASCII alone. -/
def quotedAscii (text : String) : String :=
  String.ofList (quotedWith (fun c => isVisible c && c.toNat < 0x80) text.toList)

end LineScan.Text
