/-!
# White space

The environment and documents are trimmed by a wider class than the scanner's blanks: white space
in the sense of Unicode, with the four ASCII information separators added.
-/

namespace LineScan.Text

/-- White space, ASCII or not. -/
def isWhitespace (c : Char) : Bool :=
  let n := c.toNat
  (9 ≤ n && n ≤ 13) || (0x1c ≤ n && n ≤ 0x20) || n == 0x85 || n == 0xa0 || n == 0x1680
    || (0x2000 ≤ n && n ≤ 0x200a) || n == 0x2028 || n == 0x2029 || n == 0x202f || n == 0x205f
    || n == 0x3000

/-- The text without its leading white space. -/
def trimStart (text : List Char) : List Char := text.dropWhile isWhitespace

/-- The text is white space throughout; the empty text is. -/
def isAllWhitespace (text : List Char) : Bool := text.all isWhitespace

end LineScan.Text
