/-!
# Paragraphs

A paragraph is broken into lines of at most `width` characters. It is made of *pieces*: words,
the blanks between them, and the parts of a word up to and after a hyphen. A line takes as many
pieces as fit, and a blank at a break is dropped. A piece that is longer than a line is cut where
the line is full.
-/

namespace LineScan.Text

/-- The pieces of a paragraph whose words stand one blank apart. -/
def pieces : List Char → List (List Char)
  | [] => []
  | c :: rest =>
    match pieces rest with
    | [] => [[c]]
    | p :: others =>
      if c == ' ' || c == '-' || p.head? == some ' ' then [c] :: p :: others
      else (c :: p) :: others

/-- Nothing but blanks. -/
def isGap (piece : List Char) : Bool := piece.all (· == ' ')

/-- Take pieces as long as there is room for them. -/
def takeFitting (room : Nat) : List (List Char) → List (List Char) × List (List Char)
  | [] => ([], [])
  | p :: rest =>
    if p.length ≤ room then
      let (taken, left) := takeFitting (room - p.length) rest
      (p :: taken, left)
    else
      ([], p :: rest)

/-- The pieces of the next line, and those that are left. -/
def takeLine (width : Nat) (ps : List (List Char)) : List (List Char) × List (List Char) :=
  match takeFitting width ps with
  | (taken, p :: left) =>
    if p.length > width then
      let room := width - taken.flatten.length
      (taken ++ [p.take room], p.drop room :: left)
    else
      (taken, p :: left)
  | done => done

/-- Pieces without a gap at their end. -/
def dropLastGap (ps : List (List Char)) : List (List Char) :=
  if ps.getLast?.any isGap then ps.dropLast else ps

/-- Pieces without a gap at their start. -/
def dropFirstGap : List (List Char) → List (List Char)
  | p :: rest => if isGap p then rest else p :: rest
  | [] => []

/-- The lines that pieces fill. Each takes at least one character if there is any width at all, so
there are no more of them than `fuel` if that is the number of characters. -/
def fillLines (width : Nat) : (fuel : Nat) → List (List Char) → List (List Char)
  | 0, _ => []
  | _ + 1, [] => []
  | fuel + 1, ps =>
    let (line, left) := takeLine width ps
    (dropLastGap line).flatten :: fillLines width fuel (dropFirstGap left)

/-- The lines of a paragraph. -/
def paragraph (width : Nat) (text : String) : List String :=
  (fillLines width text.length (pieces text.toList)).map String.ofList

end LineScan.Text
