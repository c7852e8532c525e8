import LineScan.Place
import LineScan.Text.Class

/-!
# Lines and positions

A line is a list of characters, and a position is an integer: `0` stands before the first
character and `length` after the last one. Positions outside that range do occur, since a terminal
may report any number, and each access says what they mean:

* `peek` answers the NUL character anywhere outside the line;
* `slice` counts a negative bound from the end of the line and then clamps it;
* `skipBlanks` walks the line as if it were bent into a circle at a negative position, which must
  be an index of the line.
-/

namespace LineScan

/-- One line of input, character by character. -/
abbrev Line := List Char

namespace Line

/-- The character that stands for the end of the line. -/
def nul : Char := '\x00'

/-- The character at a position, or NUL outside the line. -/
def peek (line : Line) (pos : Int) : Char :=
  if pos < 0 then nul else (line.drop pos.toNat).headD nul

/-- The place a slice bound stands for: negative bounds count from the end, and the result is
clamped to the line. -/
def clamp (line : Line) (bound : Int) : Nat :=
  let n := line.length
  if bound < 0 then (bound + n).toNat else min bound.toNat n

/-- The text between two bounds; empty when they are not in order. -/
def slice (line : Line) (start stop : Int) : Line :=
  let first := line.clamp start
  (line.drop first).take (line.clamp stop - first)

/-- The text from a bound to the end of the line. -/
def sliceFrom (line : Line) (start : Int) : Line :=
  line.drop (line.clamp start)

/-- How many blanks the line starts with. -/
def leadingBlanks (line : Line) : Nat :=
  (line.takeWhile Text.isBlank).length

/-- The first position at or after `pos` that holds no blank. A negative position counts from the
end of the line; when only blanks stand between it and the end, the walk goes on at the start of
the line. There is no answer when nothing stands at a negative position. -/
def skipBlanks (line : Line) (pos : Int) : Except Misplaced Int :=
  if 0 ≤ pos then
    .ok (pos + leadingBlanks (line.drop pos.toNat))
  else
    match Place.ofIndex line.length pos with
    | .error cause => .error cause
    | .ok place =>
      let tail := line.drop place
      if tail.all Text.isBlank then
        .ok (leadingBlanks line)
      else
        .ok (pos + leadingBlanks tail)

/-- The longest run of characters of a class that starts at a position; empty outside the line. -/
def runAt (line : Line) (p : Char → Bool) (pos : Int) : Line :=
  if pos < 0 then [] else (line.drop pos.toNat).takeWhile p

/-- Drop every trailing character of a class. -/
def dropEndWhile (line : Line) (p : Char → Bool) : Line :=
  (line.reverse.dropWhile p).reverse

end Line

end LineScan
