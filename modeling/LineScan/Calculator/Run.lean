import LineScan.Calculator.Basic
import LineScan.Scanner.Sweep
import LineScan.Text.Break

/-!
# Evaluating many lines

A run of the calculator sweeps over lines, each taken without its end. What becomes of the values
and of the errors is up to the caller; `collect` gathers the values as decimal texts and stops after
a number of errors.
-/

namespace LineScan.Calculator

/-- The decimal text of a value; a value that is too long is a fault. -/
def valueText {σ : Type} (n : Int) : EStateM Failure σ String :=
  match Decimal.write n with
  | .ok text => pure text
  | .error cause => throw (.fault (.oversize cause))

/-- The plan of a run, for a consumer of values and a handler of errors. -/
def plan {β : Type} (k : Calculator) (consume : Line → Int → EStateM Failure (Sweep Scanner β) β)
    (onError : ScanError → EStateM Failure (Sweep Scanner β) Unit) :
    Sweep.Plan Scanner Int β where
  owner := 0
  parse := k.evaluate
  consume := consume
  onError := onError

/-- Run over lines. -/
def run {β : Type} (k : Calculator) (consume : Line → Int → EStateM Failure (Sweep Scanner β) β)
    (onError : ScanError → EStateM Failure (Sweep Scanner β) Unit) (lines : List Line) :
    EStateM.Result Failure (Sweep Scanner β) Unit :=
  Sweep.run (k.plan consume onError) (lines.map Text.chomp) { state := {} }

/-- Stop when the number of errors is `stopAfter`. A number that is not positive never stops a run,
since an error has been counted when this is asked. -/
def stopAt {β : Type} (stopAfter : Option Int) : EStateM Failure (Sweep Scanner β) Unit := do
  let w ← get
  if stopAfter = some (w.errors.size : Int) then throw (.fault .stopped)

/-- Run over lines and gather the decimal texts of the values. -/
def collect (k : Calculator) (stopAfter : Option Int) (lines : List Line) :
    EStateM.Result Failure (Sweep Scanner String) Unit :=
  k.run (fun _ n => valueText n) (fun _ => stopAt stopAfter) lines

end LineScan.Calculator
