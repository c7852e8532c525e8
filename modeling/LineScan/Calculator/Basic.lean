import LineScan.Calculator.Builtin

/-!
# The calculator

One integer expression per line:

    expr    := term end
    term    := factor { ("+" | "-") factor }
    factor  := primary { ("*" | "/" | "÷") primary }
    primary := ident "(" { term [ "," ] } ")"
             | ident
             | "(" term ")"
             | "-" primary | "+" primary
             | int

A value is worked out while the line is read, from left to right. Division goes toward zero. A bare
identifier is a variable; its value is the integer at the front of its text in the environment.

## Shape of the rules

`primary` spends one unit of nesting and hands the rule for what is nested to `primaryWith`; at zero
the expression is too deep. The rules in between are written over the rule for a primary, so the
recursion is on the nesting alone. The loops of `term` and `factor` are bounded by the length of the
line, since each round reads at least one operator; the loop over arguments is bounded by the
largest number of arguments. The rules are written for any kind of computation that can run a rule
on a scanner, so that they also serve a calculator that keeps count of its open primaries.
-/

namespace LineScan

/-- How expressions are evaluated. -/
structure Calculator where
  env : Bindings String := []
  functions : Bindings Calculator.Builtin := Calculator.defaultFunctions Calculator.defaultMaxInt
  /-- The largest integer that may be written in an expression. -/
  maxInt : Int := Calculator.defaultMaxInt
  /-- How many primaries may be open at once. -/
  maxDepth : Int := 100
  source : Calculator.RandomSource := .scripted []
  tracing : Bool := false

namespace Calculator

/-! ## Terminals -/

/-- The terminal for identifiers. -/
def identTerminal : Terminal := ⟨0, "ident", scanIdent, "", some .text⟩

/-- The terminal for integers. -/
def intTerminal (maxInt : Int) : Terminal := ⟨1, "int", scanInt maxInt, "", some .integer⟩

/-- The terminal for the end of the line. -/
def endTerminal : Terminal := ⟨2, "eol", scanEnd, "end of line", none⟩

/-- The calculator's registry. -/
def registry (maxInt : Int) : Registry where
  terminals := [identTerminal, intTerminal maxInt, endTerminal]
  frozen := true

/-- The setting in which the calculator scans. -/
def setting (k : Calculator) : Setting where
  registry := registry k.maxInt
  tracing := k.tracing

/-- Scan for a single character. -/
def acceptChar (k : Calculator) (c : Char) : Rule Bool :=
  Rule.acceptTarget k.setting (.char c)

/-- Raise a complaint. -/
def complain {α : Type} (k : Calculator) (c : Complaint) : Rule α := Rule.complain k.setting c

/-- Raise a complaint that names a column. -/
def complainAt {α : Type} (k : Calculator) (column : Int) (c : Complaint) : Rule α :=
  Rule.complainAt k.setting column c

/-! ## Terms and factors -/

/-- Divide toward zero: divide without the signs, and then compare them. -/
def truncDiv (a b : Int) : Int :=
  let q : Int := a.natAbs / b.natAbs
  if (a < 0) = (b < 0) then q else -q

/-- It is the division of integers that rounds toward zero. -/
theorem truncDiv_eq_tdiv (a b : Int) : truncDiv a b = a.tdiv b := by
  obtain ⟨m, hm⟩ := a.eq_nat_or_neg
  obtain ⟨n, hn⟩ := b.eq_nat_or_neg
  have hdiv : (m : Int).tdiv n = m / n := Int.tdiv_eq_ediv_of_nonneg (Int.natCast_nonneg m)
  -- zero has no sign to compare
  rcases Nat.eq_zero_or_pos m with rfl | hmpos
  · rcases hm with rfl | rfl <;> simp [truncDiv]
  rcases Nat.eq_zero_or_pos n with rfl | hnpos
  · rcases hn with rfl | rfl <;> simp [truncDiv]
  have hmneg : ¬ (m : Int) < 0 := by omega
  have hnneg : ¬ (n : Int) < 0 := by omega
  rcases hm with rfl | rfl <;> rcases hn with rfl | rfl <;>
    simp [truncDiv, hdiv, hmneg, hnneg, hmpos, hnpos]

/-- A bound on the rounds of a loop that reads at least one character in each. -/
def rounds : Rule Nat := do pure ((← get).state.line.length + 1)

variable {m : Type → Type} [Monad m] [MonadLiftT Rule m]

/-- The rest of a factor, after a first value: multiply and divide as long as operators follow. -/
def factorLoop (k : Calculator) (primary : m Int) : Nat → Int → m Int
  | 0, n => pure n
  | fuel + 1, n => do
    if ← k.acceptChar '*' then
      let d ← primary
      factorLoop k primary fuel (n * d)
    else
      let divide ← do
        if ← k.acceptChar '/' then pure true
        else Rule.acceptTarget k.setting (.literal ['÷'])
      if divide then
        let d ← primary
        if d = 0 then k.complain .divisionByZero
        factorLoop k primary fuel (truncDiv n d)
      else
        pure n

/-- A product or quotient of primaries. -/
def factor (k : Calculator) (primary : m Int) : m Int := do
  let n ← primary
  factorLoop k primary (← rounds) n

/-- The rest of a term, after a first value: add and subtract as long as operators follow. -/
def termLoop (k : Calculator) (primary : m Int) : Nat → Int → m Int
  | 0, n => pure n
  | fuel + 1, n => do
    if ← k.acceptChar '+' then
      let d ← factor k primary
      termLoop k primary fuel (n + d)
    else if ← k.acceptChar '-' then
      let d ← factor k primary
      termLoop k primary fuel (n - d)
    else
      pure n

/-- A sum or difference of factors. -/
def term (k : Calculator) (primary : m Int) : m Int := do
  let n ← factor k primary
  termLoop k primary (← rounds) n

/-! ## Calls and variables -/

/-- The largest number of arguments of a call. -/
def maxArguments : Nat := 10

/-- The arguments of a call, up to the closing parenthesis; `room` is how many more may follow. A
comma after an argument is optional. -/
def arguments (k : Calculator) (primary : m Int) (name : String) :
    (room : Nat) → m (List Int)
  | 0 => do
    if ← k.acceptChar ')' then pure [] else k.complain (.tooManyArguments name)
  | room + 1 => do
    if ← k.acceptChar ')' then
      pure []
    else
      let first ← term k primary
      if !(← k.acceptChar ',') then
        if ← Rule.acceptTarget k.setting .endOfLine then
          k.complain (.unclosedCall name)
      let others ← arguments k primary name room
      pure (first :: others)

/-- A call, from just after its opening parenthesis. -/
def call (k : Calculator) (primary : m Int) (name : String) : m Int := do
  match k.functions.get? name with
  | none => k.complain (.unknownFunction name)
  | some function =>
    let args ← arguments k primary name maxArguments
    if needsArgument name && args.isEmpty then k.complain (.argumentNeeded name)
    function.apply k.source args

/-- The value of a variable. -/
def variableValue (k : Calculator) (name : String) : Rule Int :=
  match k.env.get? name with
  | none => k.complain (.unbound name)
  | some text =>
    match Fault.ofOversize (Decimal.leadingInteger text.toList) with
    | .ok n => pure n
    | .error f => Rule.fault f

/-! ## Primaries -/

/-- The text that the last terminal scanned. -/
def scannedText : Rule String := do
  match (← get).state.value with
  | .text s => pure s
  | _ => pure ""

/-- The integer that the last terminal scanned. -/
def scannedInt : Rule Int := do
  match (← get).state.value with
  | .int n => pure n
  | _ => pure 0

/-- The column of the last failure. -/
def errorColumn : Rule Int := do pure (← get).state.errorColumn

/-- A primary, given the rule for the primaries nested in it. -/
def primaryWith (k : Calculator) (nested : m Int) : m Int := do
  if ← Rule.acceptTarget k.setting (.terminal identTerminal) then
    let name ← scannedText
    if ← k.acceptChar '(' then
      call k nested name
    else
      k.variableValue name
  else if ← k.acceptChar '(' then
    let n ← term k nested
    Rule.expectTarget k.setting (.char ')') none
    pure n
  else if ← k.acceptChar '-' then
    let n ← nested
    pure (-n)
  else if ← k.acceptChar '+' then
    nested
  else if ← Rule.acceptTarget k.setting (.terminal (intTerminal k.maxInt)) then
    scannedInt
  else
    let column ← errorColumn
    k.complainAt column (.syntaxError column)

/-- A primary that may open `depth` primaries, itself included. -/
def primary (k : Calculator) : (depth : Nat) → Rule Int
  | 0 => k.complain .tooDeep
  | depth + 1 => fun s => primaryWith (m := Rule) k (fun s => primary k depth s) s

/-! ## Lines -/

/-- The rules a line can be read by. -/
inductive Entrance where
  | expr
  | term
  | factor
  | primary
  deriving DecidableEq, Repr

/-- A whole expression, up to the end of the line. -/
def expr (k : Calculator) : Rule Int := do
  let n ← term k (k.primary k.maxDepth.toNat)
  Rule.expectTarget k.setting (.terminal endTerminal) none
  pure n

/-- The rule that is meant. -/
def rule (k : Calculator) : Entrance → Rule Int
  | .expr => k.expr
  | .term => term k (k.primary k.maxDepth.toNat)
  | .factor => factor k (k.primary k.maxDepth.toNat)
  | .primary => k.primary k.maxDepth.toNat

/-- Read a line by a rule. -/
def read (k : Calculator) (entrance : Entrance) (line : Line) : Rule Int :=
  Rule.parse line (k.rule entrance)

/-- Evaluate a line. -/
def evaluate (k : Calculator) (line : Line) : Rule Int := k.read .expr line

end Calculator

end LineScan
