import LineScan.Calculator.Basic

/-!
# The calculator by descent on the text

The rules of the calculator once more, by recursion on the text that is not yet read and on nothing
else: no bound on the rounds of a loop, and the depth of an expression is only compared with its
limit. A loop takes another turn, and a primary reads a nested one, only where less is left to read
than before. What would be done otherwise is `stall`, which may be any rule: that it is never needed
is a fact about the grammar.
-/

namespace LineScan

/-- How many characters are left to read. -/
def Scanner.unread (s : Scanner) : Nat := s.state.rest.length

/-- How a turn of a loop ends: with another turn, or with the result of the loop. -/
inductive Turn (β α : Type) where
  | again (b : β)
  | leave (a : α)

/-- Go on after a turn. -/
def Turn.andThen {α β : Type} (next : β → Rule α) : Turn β α → Rule α
  | .again b => next b
  | .leave a => pure a

/-- Take turns, as long as each of them reads on. -/
def Rule.takeTurns {α β : Type} (stall : Rule α) (turn : β → Rule (Turn β α)) (b : β)
    (s : Scanner) : EStateM.Result Failure Scanner α :=
  match turn b s with
  | .ok (.again b) t => if t.unread < s.unread then takeTurns stall turn b t else stall t
  | .ok (.leave a) t => .ok a t
  | .error e t => .error e t
termination_by s.unread

namespace Calculator

/-! ## Turns -/

/-- A turn of the loop of a factor. -/
def factorTurn (k : Calculator) (primary : Rule Int) (n : Int) : Rule (Turn Int Int) := do
  if ← k.acceptChar '*' then
    let d ← primary
    pure (.again (n * d))
  else
    let divide ← do
      if ← k.acceptChar '/' then pure true
      else Rule.acceptTarget k.setting (.literal ['÷'])
    if divide then
      let d ← primary
      if d = 0 then k.complain .divisionByZero
      pure (.again (truncDiv n d))
    else
      pure (.leave n)

/-- A turn of the loop of a term. -/
def termTurn (k : Calculator) (factor : Rule Int) (n : Int) : Rule (Turn Int Int) := do
  if ← k.acceptChar '+' then
    let d ← factor
    pure (.again (n + d))
  else if ← k.acceptChar '-' then
    let d ← factor
    pure (.again (n - d))
  else
    pure (.leave n)

/-- A turn of the loop over the arguments of a call, after the arguments read so far. -/
def argumentsTurn (k : Calculator) (term : Rule Int) (name : String) (args : List Int) :
    Rule (Turn (List Int) (List Int)) := do
  if ← k.acceptChar ')' then
    pure (.leave args)
  else if maxArguments ≤ args.length then
    k.complain (.tooManyArguments name)
  else
    let n ← term
    if !(← k.acceptChar ',') then
      if ← Rule.acceptTarget k.setting .endOfLine then
        k.complain (.unclosedCall name)
    pure (.again (args ++ [n]))

/-! ## Rules -/

namespace Descent

variable (stall : {α : Type} → Rule α) (k : Calculator)

/-- A product or quotient of primaries. -/
def factor (primary : Rule Int) : Rule Int := do
  let n ← primary
  Rule.takeTurns stall (factorTurn k primary) n

/-- A sum or difference of factors. -/
def term (primary : Rule Int) : Rule Int := do
  let n ← factor stall k primary
  Rule.takeTurns stall (termTurn k (factor stall k primary)) n

/-- A call, from just after its opening parenthesis. -/
def call (primary : Rule Int) (name : String) : Rule Int := do
  match k.functions.get? name with
  | none => k.complain (.unknownFunction name)
  | some function =>
    let args ← Rule.takeTurns stall (argumentsTurn k (term stall k primary) name) []
    if needsArgument name && args.isEmpty then k.complain (.argumentNeeded name)
    function.apply k.source args

/-- A primary, given the rule for the primaries nested in it. -/
def primaryWith (nested : Rule Int) : Rule Int := do
  if ← Rule.acceptTarget k.setting (.terminal identTerminal) then
    let name ← scannedText
    if ← k.acceptChar '(' then
      call stall k nested name
    else
      k.variableValue name
  else if ← k.acceptChar '(' then
    let n ← term stall k nested
    Rule.expectTarget k.setting (.char ')') none
    pure n
  else if ← k.acceptChar '-' then
    let n ← nested
    pure (-n)
  else if ← k.acceptChar '+' then
    nested
  else if ← Rule.acceptTarget k.setting (.terminal (intTerminal k.maxInt)) then
    scannedInt
  else
    let column ← errorColumn
    k.complainAt column (.syntaxError column)

/-- A primary, where `nesting` primaries are open already. -/
def primary (nesting : Int) (s : Scanner) : EStateM.Result Failure Scanner Int :=
  if k.maxDepth ≤ nesting then
    k.complain .tooDeep s
  else
    primaryWith stall k
      (fun t => if t.unread < s.unread then primary (nesting + 1) t else stall t) s
termination_by s.unread

/-- A whole expression, up to the end of the line. -/
def expr : Rule Int := do
  let n ← term stall k (primary stall k 0)
  Rule.expectTarget k.setting (.terminal endTerminal) none
  pure n

end Descent

end Calculator

end LineScan
