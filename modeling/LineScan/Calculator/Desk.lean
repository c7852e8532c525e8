import LineScan.Calculator.Run
import LineScan.Scanner.Call

/-!
# A calculator that counts

A calculator in use keeps its scanner from one line to the next, and with it a counter of the
primaries that are open. A primary is refused when the counter has reached the limit; otherwise the
counter goes up while the primary is read and goes down again however that ends. A whole expression
starts to count anew, but a line may also be read by one of the other rules, which do not.

The rules are those of the calculator, for a computation on a desk instead of a scanner.
-/

namespace LineScan.Calculator

/-- What a calculator keeps from one line to the next: its scanner, and how many primaries are
open. -/
structure Desk where
  scanner : Scanner := {}
  nesting : Int := 0

/-- A computation that keeps count of the open primaries. -/
abbrev Counted := EStateM Failure Desk

/-- Run a rule on the scanner of the desk. -/
def onDesk {α : Type} (rule : Rule α) : Counted α := fun d =>
  match rule d.scanner with
  | .ok a s => .ok a { d with scanner := s }
  | .error e s => .error e { d with scanner := s }

instance : MonadLift Rule Counted := ⟨onDesk⟩

/-- Run a computation with one more primary open. It is closed again however the computation
ends. -/
def opened {α : Type} (x : Counted α) : Counted α := fun d =>
  match x { d with nesting := d.nesting + 1 } with
  | .ok a d => .ok a { d with nesting := d.nesting - 1 }
  | .error e d => .error e { d with nesting := d.nesting - 1 }

/-- A primary, given the rule for the primaries nested in it: it is refused when too many are
open. -/
def countedWith (k : Calculator) (nested : Counted Int) : Counted Int := do
  if k.maxDepth ≤ (← get).nesting then k.complain .tooDeep
  else opened (primaryWith k nested)

/-- A primary when `room` more may be open: without room it is refused, as `countedWith` does when
the counter is at the limit. -/
def countedWithin (k : Calculator) : (room : Nat) → Counted Int
  | 0 => k.complain .tooDeep
  | room + 1 => fun d => countedWith k (fun d => countedWithin k room d) d

/-- A primary; there is room up to the limit. -/
def countedPrimary (k : Calculator) : Counted Int := fun d =>
  countedWithin k (k.maxDepth - d.nesting).toNat d

/-- The rule that is meant. -/
def countedRule (k : Calculator) : Entrance → Counted Int
  | .expr => do
    modify fun d => { d with nesting := 0 }
    let n ← term k k.countedPrimary
    Rule.expectTarget k.setting (.terminal endTerminal) none
    pure n
  | .term => term k k.countedPrimary
  | .factor => factor k k.countedPrimary
  | .primary => k.countedPrimary

/-- Read a line by a rule. -/
def countedRead (k : Calculator) (entrance : Entrance) (line : Line) : Counted Int :=
  Rule.parse line (k.countedRule entrance)

/-- The desk after some lines, each read by a rule, whatever becomes of it. -/
def readAll (k : Calculator) : List (Entrance × Line) → Desk → Desk
  | [], d => d
  | (entrance, line) :: rest, d => readAll k rest (Result.state (k.countedRead entrance line d))

/-- Run over lines on a desk, for a use of values and a handler of errors. -/
def countedRun (k : Calculator) (use : Line → Int → Counted Unit)
    (handler : ScanError → Counted Unit) (lines : List Line) :
    EStateM Failure (Sweep Desk Int) Unit :=
  let plan : Sweep.Plan Desk Int Int :=
    { owner := 0
      parse := k.countedRead .expr
      consume := Sweep.handOn use
      onError := fun e => Sweep.onState (handler e) }
  Sweep.run plan (lines.map Text.chomp)

end LineScan.Calculator
