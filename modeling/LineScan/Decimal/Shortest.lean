import LineScan.Decimal.Binary

/-!
# The shortest decimal of a double

Every real number in a small interval around a double rounds to that double. The shortest decimal
is the one with the fewest digits inside the interval, and among those the nearest to the double.
Grids of one, two, three digits are tried in turn; on each grid only the two neighbours of the
double can be the nearest point, so only these are tested. Seventeen digits always suffice.
-/

namespace LineScan.Decimal

/-- The decimal `digits * 10 ^ exponent`. -/
structure Scientific where
  digits : Nat
  exponent : Int
  deriving DecidableEq, Repr

/-- The decimal without the zeros at the end of its digits; `fuel` bounds their number. -/
def Scientific.trim : Nat → Scientific → Scientific
  | 0, x => x
  | fuel + 1, x =>
    if x.digits != 0 && x.digits % 10 == 0 then trim fuel ⟨x.digits / 10, x.exponent + 1⟩ else x

/-- The point of the grid `10 ^ unit` that stands for `value`, when one of the two neighbours lies
in the interval from `low` to `high`. The ends belong to the interval when `closed`. -/
def gridPoint (value low high : Quotient) (closed : Bool) (unit : Int) : Option Nat :=
  let below := (value.scale (-unit)).floor
  let above := below + 1
  let point (n : Nat) : Quotient := Quotient.scale ⟨n, 1⟩ unit
  let belowIn := if closed then low.le (point below) else low.lt (point below)
  let aboveIn := if closed then (point above).le high else (point above).lt high
  match belowIn, aboveIn with
  | true, false => some below
  | false, true => some above
  | true, true => some (value.scale (-unit)).round
  | false, false => none

/-- Try grids of ever more digits. -/
def shortestFrom (value low high : Quotient) (closed : Bool) (top : Int) : Nat → Nat → Scientific
  | _, 0 => ⟨(value.scale (17 - top)).round, top - 17⟩
  | count, fuel + 1 =>
    match gridPoint value low high closed (top - count) with
    | some n => ⟨n, top - count⟩
    | none => shortestFrom value low high closed top (count + 1) fuel

/-- The shortest decimal that reads back as `mantissa * 2 ^ exponent`. -/
def shortest (mantissa : Nat) (exponent : Int) (tight : Bool) : Scientific :=
  if mantissa == 0 then ⟨0, 0⟩ else
    let quarter := exponent - 2
    let value := Quotient.ofBinary (4 * mantissa) quarter
    let low := Quotient.ofBinary (4 * mantissa - if tight then 1 else 2) quarter
    let high := Quotient.ofBinary (4 * mantissa + 2) quarter
    (shortestFrom value low high (mantissa % 2 == 0) value.magnitude 1 17).trim 17

end LineScan.Decimal
