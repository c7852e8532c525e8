import LineScan.Decimal.Shortest

/-!
# The double nearest to a decimal

A decimal is read as an exact quotient. The exponent is chosen so that the mantissa has 53 bits, or
is the least one there is, and the mantissa is then rounded once, a half going to the even
neighbour.
-/

namespace LineScan.Decimal

/-- The exponent at which a positive number has a mantissa below `2 ^ 53`, and not below `2 ^ 52`
unless the exponent is the least one. -/
def binaryExponent (x : Quotient) : Int :=
  let guess : Int := (x.num.log2 : Int) - x.den.log2 - 53
  let scaled := if 0 ≤ guess then Quotient.mk x.num (x.den * twoTo guess.toNat)
    else ⟨x.num * twoTo (-guess).toNat, x.den⟩
  max (-1074) (if scaled.lt ⟨twoTo 53, 1⟩ then guess else guess + 1)

/-- The bits of the double nearest to a positive number. -/
def nearestBits (x : Quotient) : Nat :=
  let e := binaryExponent x
  let scaled := if 0 ≤ e then Quotient.mk x.num (x.den * twoTo e.toNat)
    else ⟨x.num * twoTo (-e).toNat, x.den⟩
  let bits := (e + 1074).toNat * twoTo 52 + scaled.round
  min bits (2047 * twoTo 52)

/-- The double nearest to a decimal. Decimals that are far out of range are not worked out. -/
def Scientific.toFloat (x : Scientific) : Float :=
  let top := x.exponent + (Nat.toDigits 10 x.digits).length
  if x.digits == 0 || top < -330 then 0.0
  else if 310 < top then Float.ofBits (UInt64.ofNat (2047 * twoTo 52))
  else Float.ofBits (UInt64.ofNat (nearestBits (Quotient.scale ⟨x.digits, 1⟩ x.exponent)))

end LineScan.Decimal
