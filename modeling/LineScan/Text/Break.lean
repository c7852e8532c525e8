import LineScan.Text.Line

/-!
# Line breaks

Two rules divide a text into lines. A *document* breaks at every character that Unicode counts as a
line boundary, and its lines are kept without their breaks. An *input stream* breaks at line feeds
only, after carriage returns, alone or before a line feed, have been read as line feeds; its lines
keep their line feed. Neither rule gives an empty last line after a final break.
-/

namespace LineScan.Text

/-- The characters that end a line of a document. -/
def isBreak (c : Char) : Bool :=
  let n := c.toNat
  (10 ≤ n && n ≤ 13) || (0x1c ≤ n && n ≤ 0x1e) || n == 0x85 || n == 0x2028 || n == 0x2029

/-- Auxiliary to `documentLines`: `current` holds the open line, last character first, and is
`none` between lines. -/
def documentLinesFrom (current : Option (List Char)) : List Char → List Line
  | [] => (current.map List.reverse).toList
  | '\r' :: '\n' :: rest => (current.getD []).reverse :: documentLinesFrom none rest
  | c :: rest =>
    if isBreak c then (current.getD []).reverse :: documentLinesFrom none rest
    else documentLinesFrom (some (c :: current.getD [])) rest

/-- The lines of a document, without their breaks. -/
def documentLines (text : List Char) : List Line := documentLinesFrom none text

/-- Read every carriage return, alone or before a line feed, as a line feed. -/
def unifyBreaks : List Char → List Char
  | [] => []
  | '\r' :: '\n' :: rest => '\n' :: unifyBreaks rest
  | c :: rest => (if c == '\r' then '\n' else c) :: unifyBreaks rest

/-- Auxiliary to `streamLines`: `current` holds the open line, last character first. -/
def streamLinesFrom (current : List Char) : List Char → List Line
  | [] => if current.isEmpty then [] else [current.reverse]
  | c :: rest =>
    if c == '\n' then (c :: current).reverse :: streamLinesFrom [] rest
    else streamLinesFrom (c :: current) rest

/-- The lines of an input stream, each with its line feed. -/
def streamLines (text : List Char) : List Line := streamLinesFrom [] (unifyBreaks text)

/-- A line without the carriage returns and line feeds at its end. -/
def chomp (line : Line) : Line := line.dropEndWhile fun c => c == '\r' || c == '\n'

end LineScan.Text
