import LineScan.Calculator.Basic

/-!
# Expressions as trees

The grammar of the calculator, apart from how a line is scanned. A tree is a derivation: `Primary`,
`Factor` and `Term` are the three levels of precedence, and the repetitions of the grammar lean to
the left, so that a tree is worked out from left to right by following its structure.

    term    := factor { ("+" | "-") factor }
    factor  := primary { ("*" | "/" | "÷") primary }
    primary := ident "(" arguments
             | ident
             | "(" term ")"
             | "-" primary | "+" primary
             | int

The arguments of a call are terms up to a closing parenthesis, and a tree keeps which of them have a
comma after them. Trees that put exactly one comma between two arguments, and none at the end, are
`Separated`.

A tree may also be the beginning of an expression that breaks off: where a primary should start but
none does (`missing`), where a parenthesis is not closed (`unclosed`), and where a call ends without
its parenthesis (`cut`). A tree without such a place is `Whole`.
-/

namespace LineScan.Grammar

open Calculator

/-! ## Words and operators -/

/-- A word of a lexical class: a first character, and others that may go on with it. -/
structure Word (starts goesOn : Char → Bool) where
  first : Char
  others : Line
  first_starts : starts first = true
  others_goOn : ∀ c ∈ others, goesOn c = true

/-- The characters of a word. -/
def Word.chars {starts goesOn : Char → Bool} (w : Word starts goesOn) : Line := w.first :: w.others

/-- The name of a variable or of a function. -/
abbrev Identifier := Word Text.isIdentStart Text.isIdentChar

/-- A run of digits; leading zeros are allowed. -/
abbrev Numeral := Word Text.isDigit Text.isDigit

/-- The name as a text. -/
def Identifier.text (name : Identifier) : String := String.ofList name.chars

/-- The value of a numeral. -/
def Numeral.value (n : Numeral) : Int := Decimal.ofDigits n.chars

/-- The operators between factors, which are also the signs before a primary. -/
inductive Additive where
  | plus
  | minus
  deriving DecidableEq

/-- The operators between primaries. -/
inductive Multiplicative where
  | times
  | slash
  | obelus
  deriving DecidableEq

namespace Additive

/-- How an operator is written. -/
def char : Additive → Char
  | plus => '+'
  | minus => '-'

/-- The operator between two values. -/
def combine : Additive → Int → Int → Int
  | plus, a, b => a + b
  | minus, a, b => a - b

/-- The sign before a value. -/
def signed : Additive → Int → Int
  | plus, a => a
  | minus, a => -a

end Additive

namespace Multiplicative

/-- How an operator is written. -/
def char : Multiplicative → Char
  | times => '*'
  | slash => '/'
  | obelus => '÷'

/-- The operator divides. -/
def divides : Multiplicative → Bool
  | times => false
  | slash => true
  | obelus => true

/-- The operator between two values. Division goes toward zero, and not by zero. -/
def combine (op : Multiplicative) (a b : Int) : Except Abort Int :=
  if op.divides then
    if b = 0 then .error (.complaint .divisionByZero) else .ok (a.tdiv b)
  else
    .ok (a * b)

end Multiplicative

/-! ## Trees -/

mutual

/-- A primary, or the beginning of one. -/
inductive Primary where
  | call (name : Identifier) (args : Arguments)
  | var (name : Identifier)
  | paren (inner : Term)
  | sign (op : Additive) (inner : Primary)
  | int (numeral : Numeral)
  /-- Nothing here starts a primary. -/
  | missing
  /-- The parenthesis around a term is not closed. -/
  | unclosed (inner : Term)

/-- Primaries with multiplicative operators between them. -/
inductive Factor where
  | one (first : Primary)
  | step (left : Factor) (op : Multiplicative) (right : Primary)

/-- Factors with additive operators between them. -/
inductive Term where
  | one (first : Factor)
  | step (left : Term) (op : Additive) (right : Factor)

/-- The arguments of a call, from just after its opening parenthesis. -/
inductive Arguments where
  /-- The closing parenthesis. -/
  | close
  /-- An argument, with or without a comma after it. -/
  | more (first : Term) (comma : Bool) (rest : Arguments)
  /-- The call ends here without its closing parenthesis. -/
  | cut

end

/-- How many arguments there are. -/
def Arguments.count : Arguments → Nat
  | .close => 0
  | .more _ _ rest => rest.count + 1
  | .cut => 0

/-! ## How a tree is written

The tokens of a tree are texts, in the order in which they are written. A line spells them when it
holds nothing else but blanks: before, between and after them, or nowhere.
-/

mutual

/-- The tokens of a primary. -/
def Primary.tokens : Primary → List Line
  | .call name args => name.chars :: ['('] :: args.tokens
  | .var name => [name.chars]
  | .paren inner => ['('] :: inner.tokens ++ [[')']]
  | .sign op inner => [op.char] :: inner.tokens
  | .int numeral => [numeral.chars]
  | .missing => []
  | .unclosed inner => ['('] :: inner.tokens

/-- The tokens of a factor. -/
def Factor.tokens : Factor → List Line
  | .one first => first.tokens
  | .step left op right => left.tokens ++ [op.char] :: right.tokens

/-- The tokens of a term. -/
def Term.tokens : Term → List Line
  | .one first => first.tokens
  | .step left op right => left.tokens ++ [op.char] :: right.tokens

/-- The tokens of arguments, the closing parenthesis included. -/
def Arguments.tokens : Arguments → List Line
  | .close => [[')']]
  | .more first comma rest => first.tokens ++ (if comma then [[',']] else []) ++ rest.tokens
  | .cut => []

end

/-- `Spells tokens text rest`: the text starts with the tokens, each after any number of blanks, and
the rest of the text follows the last of them. -/
inductive Spells : List Line → Line → Line → Prop where
  | nil (text : Line) : Spells [] text text
  | cons {token : Line} {tokens : List Line} {blanks text rest : Line}
      (allBlank : ∀ c ∈ blanks, Text.isBlank c = true) (tail : Spells tokens text rest) :
      Spells (token :: tokens) (blanks ++ token ++ text) rest

/-- The line holds the tokens and blanks, and nothing else. -/
def IsWritten (tokens : List Line) (line : Line) : Prop :=
  ∃ rest, Spells tokens line rest ∧ ∀ c ∈ rest, Text.isBlank c = true

/-! ## Whole and separated trees -/

mutual

/-- Nothing breaks off in a primary. -/
def Primary.Whole : Primary → Prop
  | .call _ args => args.Whole
  | .var _ => True
  | .paren inner => inner.Whole
  | .sign _ inner => inner.Whole
  | .int _ => True
  | .missing => False
  | .unclosed _ => False

/-- Nothing breaks off in a factor. -/
def Factor.Whole : Factor → Prop
  | .one first => first.Whole
  | .step left _ right => left.Whole ∧ right.Whole

/-- Nothing breaks off in a term. -/
def Term.Whole : Term → Prop
  | .one first => first.Whole
  | .step left _ right => left.Whole ∧ right.Whole

/-- Nothing breaks off in arguments. -/
def Arguments.Whole : Arguments → Prop
  | .close => True
  | .more first _ rest => first.Whole ∧ rest.Whole
  | .cut => False

end

mutual

/-- In every call of a primary, a comma stands between two arguments and nowhere else. -/
def Primary.Separated : Primary → Prop
  | .call _ args => args.Separated
  | .var _ => True
  | .paren inner => inner.Separated
  | .sign _ inner => inner.Separated
  | .int _ => True
  | .missing => True
  | .unclosed inner => inner.Separated

/-- In every call of a factor, a comma stands between two arguments and nowhere else. -/
def Factor.Separated : Factor → Prop
  | .one first => first.Separated
  | .step left _ right => left.Separated ∧ right.Separated

/-- In every call of a term, a comma stands between two arguments and nowhere else. -/
def Term.Separated : Term → Prop
  | .one first => first.Separated
  | .step left _ right => left.Separated ∧ right.Separated

/-- A comma stands after an argument if and only if another one follows. -/
def Arguments.Separated : Arguments → Prop
  | .close => True
  | .more first comma rest => first.Separated ∧ (comma = true ↔ 0 < rest.count) ∧ rest.Separated
  | .cut => True

end

mutual

/-- How many primaries are open at once, at most, while a primary is read. -/
def Primary.depth : Primary → Nat
  | .call _ args => args.depth + 1
  | .var _ => 1
  | .paren inner => inner.depth + 1
  | .sign _ inner => inner.depth + 1
  | .int _ => 1
  | .missing => 1
  | .unclosed inner => inner.depth + 1

/-- How many primaries are open at once, at most, while a factor is read. -/
def Factor.depth : Factor → Nat
  | .one first => first.depth
  | .step left _ right => max left.depth right.depth

/-- How many primaries are open at once, at most, while a term is read. -/
def Term.depth : Term → Nat
  | .one first => first.depth
  | .step left _ right => max left.depth right.depth

/-- How many primaries are open at once, at most, while arguments are read. -/
def Arguments.depth : Arguments → Nat
  | .close => 0
  | .more first _ rest => max first.depth rest.depth
  | .cut => 0

end

/-- A sentence of the documented grammar: a whole expression whose calls have their commas exactly
between the arguments. -/
def IsSentence (line : Line) : Prop :=
  ∃ t : Term, t.Whole ∧ t.Separated ∧ IsWritten t.tokens line

end LineScan.Grammar
