import LineScan.Decimal.Integer
import LineScan.Text.DecimalDigit

/-!
# Integers as people type them

An integer given on the command line may have white space around it, a sign, single underscores
between its digits, and digits of any script. The ASCII separators from FS to US are no white space
here.
-/

namespace LineScan.Decimal

/-- White space around a typed integer. -/
def isTypedSpace (c : Char) : Bool :=
  Text.isWhitespace c && !(0x1c ≤ c.toNat && c.toNat ≤ 0x1f)

/-- The digits of a typed integer, most significant first; single underscores may stand between
digits. -/
def typedDigits? : List Char → Option (List Nat)
  | [] => none
  | [c] => (Text.decimalDigit? c).map ([·])
  | c :: '_' :: rest => do
    let d ← Text.decimalDigit? c
    let ds ← typedDigits? rest
    pure (d :: ds)
  | c :: rest => do
    let d ← Text.decimalDigit? c
    let ds ← typedDigits? rest
    pure (d :: ds)

/-- Read a typed integer. -/
def readTyped? (text : List Char) : Option Int :=
  let trimmed :=
    ((text.dropWhile isTypedSpace).reverse.dropWhile isTypedSpace).reverse
  let (negative, rest) := splitSign trimmed
  match typedDigits? rest with
  | none => none
  | some ds =>
    if ds.length > digitLimit then none
    else
      let n : Int := (ds.foldl (fun n d => 10 * n + d) 0 : Nat)
      some (if negative then -n else n)

end LineScan.Decimal
