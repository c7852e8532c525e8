import LineScan.Decimal.Shortest
import LineScan.Decimal.Integer

/-!
# How a decimal is laid out

Digits and a power of ten are written positionally or with an exponent. The free choices of the
layout are the fields of `Layout`; `Layout.plain` is the one in which every float is shown.
-/

namespace LineScan.Decimal

/-- The choices in writing a decimal. -/
structure Layout where
  /-- The power of ten of the leading digit is at least this in positional writing. -/
  least : Int
  /-- The power of ten of the leading digit is below this in positional writing. -/
  bound : Int
  /-- Write `.0` after an integer in positional writing. -/
  pointZero : Bool
  /-- The mark before the exponent. -/
  mark : Char
  /-- The least number of digits of the exponent. -/
  exponentWidth : Nat
  deriving DecidableEq, Repr

/-- Positional from `0.0001` up to, but not including, `1e16`; integers keep `.0`; exponents have a
sign and two digits. -/
def Layout.plain : Layout := ⟨-4, 16, true, 'e', 2⟩

/-- The exponent part: mark, sign and digits. -/
def exponentText (mark : Char) (width : Nat) (e : Int) : List Char :=
  let ds := natText e.natAbs
  mark :: (if e < 0 then '-' else '+') :: (List.replicate (width - ds.length) '0' ++ ds)

/-- Digits with a point before the last `places` of them, filled with zeros on the left. -/
def withPoint (digits : List Char) (places : Nat) : List Char :=
  if places == 0 then digits else
    let filled := List.replicate (places + 1 - digits.length) '0' ++ digits
    filled.take (filled.length - places) ++ '.' :: filled.drop (filled.length - places)

/-- Digits with a point after the first one, if there are more. -/
def pointAfterFirst : List Char → List Char
  | [] => []
  | [c] => [c]
  | c :: rest => c :: '.' :: rest

/-- Write a decimal. -/
def Layout.write (layout : Layout) (x : Scientific) : List Char :=
  let ds := natText x.digits
  let lead := x.exponent + ds.length - 1
  if x.digits == 0 || (layout.least ≤ lead && lead < layout.bound) then
    if 0 ≤ x.exponent then
      ds ++ List.replicate x.exponent.toNat '0' ++ (if layout.pointZero then ['.', '0'] else [])
    else
      withPoint ds (-x.exponent).toNat
  else
    pointAfterFirst ds ++ exponentText layout.mark layout.exponentWidth lead

/-- The plain text of a double: its shortest decimal, or a word. -/
def doubleText : Double → List Char
  | .nan => ['n', 'a', 'n']
  | .infinite negative => (if negative then ['-'] else []) ++ ['i', 'n', 'f']
  | .finite negative m e tight =>
    (if negative then ['-'] else []) ++ Layout.plain.write (shortest m e tight)

/-- The plain text of a float. -/
def floatText (x : Float) : String := String.ofList (doubleText (Double.ofFloat x))

end LineScan.Decimal
