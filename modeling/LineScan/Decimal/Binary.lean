import LineScan.Decimal.Power

/-!
# Binary fractions

A finite double is `mantissa * 2 ^ exponent`, up to its sign. The decimal texts of a double are
worked out in exact arithmetic on that pair, as quotients of natural numbers.
-/

namespace LineScan.Decimal

/-- What a double holds. -/
inductive Double where
  /-- The value `± mantissa * 2 ^ exponent`. `tight` says that the next double below is only half
  as far away as the next one above. -/
  | finite (negative : Bool) (mantissa : Nat) (exponent : Int) (tight : Bool)
  | infinite (negative : Bool)
  | nan
  deriving DecidableEq, Repr

/-- Take a double apart. -/
def Double.ofFloat (x : Float) : Double :=
  let bits : Nat := x.toBits.toNat
  let negative := bits / twoTo 63 == 1
  let power : Nat := bits / twoTo 52 % twoTo 11
  let fraction : Nat := bits % twoTo 52
  if power == 2047 then
    if fraction == 0 then .infinite negative else .nan
  else if power == 0 then
    .finite negative fraction (-1074) false
  else
    .finite negative (twoTo 52 + fraction) ((power : Int) - 1075) (fraction == 0 && power > 1)

/-- A non-negative rational number: a numerator over a positive denominator. -/
structure Quotient where
  num : Nat
  den : Nat
  deriving DecidableEq, Repr

namespace Quotient

/-- The number `m * 2 ^ q`. -/
def ofBinary (m : Nat) (q : Int) : Quotient :=
  if 0 ≤ q then ⟨m * twoTo q.toNat, 1⟩ else ⟨m, twoTo (-q).toNat⟩

/-- The number times `10 ^ e`. -/
def scale (x : Quotient) (e : Int) : Quotient :=
  if 0 ≤ e then ⟨x.num * tenTo e.toNat, x.den⟩ else ⟨x.num, x.den * tenTo (-e).toNat⟩

/-- The largest integer that is not above the number. -/
def floor (x : Quotient) : Nat := x.num / x.den

/-- The nearest integer; a half goes to the even neighbour. -/
def round (x : Quotient) : Nat :=
  let n := x.num / x.den
  let twice := 2 * (x.num % x.den)
  if twice < x.den then n
  else if x.den < twice then n + 1
  else n + n % 2

/-- The first number is not above the second. -/
def le (x y : Quotient) : Bool := x.num * y.den ≤ y.num * x.den

/-- The first number is below the second. -/
def lt (x y : Quotient) : Bool := x.num * y.den < y.num * x.den

/-- How many digits stand before the point: the least `d` with `x < 10 ^ d`, for a positive
number; it is negative or zero for a small fraction. The estimate from the digit counts of
numerator and denominator is at most one too small. -/
def magnitude (x : Quotient) : Int :=
  let guess := ((Nat.toDigits 10 x.num).length : Int) - (Nat.toDigits 10 x.den).length
  if (x.scale (-guess)).lt ⟨1, 1⟩ then guess else guess + 1

end Quotient

/-- The double nearest to an integer, a half going to the even neighbour. It is meant for integers
that have a finite nearest double. -/
def Double.ofInt (n : Int) : Double :=
  let m := n.natAbs
  if m < twoTo 53 then .finite (n < 0) m 0 false
  else
    let shift := m.log2 - 52
    .finite (n < 0) (Quotient.round ⟨m, twoTo shift⟩) shift false

end LineScan.Decimal
