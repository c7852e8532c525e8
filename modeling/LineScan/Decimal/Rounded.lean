import LineScan.Decimal.Layout

/-!
# Decimals rounded to a number of places

A message may ask for a number with a fixed count of digits: after the point (*fixed*), after the
point of a scientific text (*scientific*), or in all (*general*). The number is an exact quotient,
and rounding takes the nearest decimal, a half going to the even neighbour.
-/

namespace LineScan.Decimal

/-- The three ways to write a rounded number. -/
inductive Style where
  | fixed
  | scientific
  | general
  deriving DecidableEq, Repr

/-- The `count` leading digits of a positive number, rounded, as a number of exactly `count` digits,
and the power of ten of the first of them. Zero has the power zero. -/
def leadingDigits (x : Quotient) (count : Nat) : Nat × Int :=
  if x.num == 0 then (0, 0) else
    let top := x.magnitude
    let n := (x.scale (count - top)).round
    if n == tenTo count then (n / 10, top) else (n, top - 1)

/-- The digits of a number, at least `width` of them. -/
def paddedDigits (width n : Nat) : List Char :=
  let ds := natText n
  List.replicate (width - ds.length) '0' ++ ds

/-- No double has more digits than this, before or after its point or in all. -/
def longestDouble : Nat := 1100

/-- How many of `count` digits can differ from zero. -/
def tellingDigits (count : Nat) : Nat := min count longestDouble

/-- The zeros that follow the telling ones among `count` digits. -/
def idleZeros (count : Nat) : List Char := List.replicate (count - tellingDigits count) '0'

/-- A number with `places` digits after the point. With `keepPoint` the point stays although no
digit follows it. -/
def fixedText (x : Quotient) (places : Nat) (keepPoint : Bool) : List Char :=
  withPoint (natText (x.scale (tellingDigits places)).round) (tellingDigits places)
    ++ idleZeros places ++ (if places == 0 && keepPoint then ['.'] else [])

/-- The `count` leading digits of a number, and the power of ten of the first of them. -/
def leadingText (x : Quotient) (count : Nat) : List Char × Int :=
  let (n, power) := leadingDigits x (tellingDigits count)
  (paddedDigits (tellingDigits count) n ++ idleZeros count, power)

/-- Digits as a scientific text. -/
def scientificDigits (ds : List Char) (power : Int) (mark : Char) (keepPoint : Bool) : List Char :=
  pointAfterFirst ds ++ (if ds.length == 1 && keepPoint then ['.'] else [])
    ++ exponentText mark 2 power

/-- A number with one digit before the point and `places` after it. -/
def scientificText (x : Quotient) (places : Nat) (mark : Char) (keepPoint : Bool) : List Char :=
  let (ds, power) := leadingText x (places + 1)
  scientificDigits ds power mark keepPoint

/-- Digits without the zeros at their end, the first digit always kept. -/
def trimZeros : List Char → List Char
  | [] => []
  | c :: rest => c :: (rest.reverse.dropWhile (· == '0')).reverse

/-- A number with `count` digits in all: positional when the power of its first digit is at least
`-4` and below `count`, else scientific. Zeros at the end are dropped unless `keepPoint`, so that
more digits than a double can have make no difference. -/
def generalText (x : Quotient) (count : Nat) (mark : Char) (keepPoint : Bool) : List Char :=
  let count := max (if keepPoint then count else tellingDigits count) 1
  let (full, power) := leadingText x count
  let ds := if keepPoint then full else trimZeros full
  if -4 ≤ power && power < count then
    let places := (ds.length : Int) - 1 - power
    if places ≤ 0 then
      ds ++ List.replicate (-places).toNat '0' ++ (if keepPoint then ['.'] else [])
    else
      withPoint ds places.toNat
  else
    scientificDigits ds power mark keepPoint

/-- The rounded text of a double, with its sign when it is negative. -/
def Double.rounded (style : Style) (precision : Nat) (mark : Char) (keepPoint : Bool) :
    Double → List Char
  | .nan => ['n', 'a', 'n']
  | .infinite negative => (if negative then ['-'] else []) ++ ['i', 'n', 'f']
  | .finite negative m e _ =>
    let x := Quotient.ofBinary m e
    (if negative then ['-'] else []) ++
      match style with
      | .fixed => fixedText x precision keepPoint
      | .scientific => scientificText x precision mark keepPoint
      | .general => generalText x precision mark keepPoint

end LineScan.Decimal
