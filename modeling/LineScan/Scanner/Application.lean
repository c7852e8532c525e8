import LineScan.Scanner.Call

/-!
# Applications

An application works on one scanner, operation by operation. It sees what each operation comes to,
an answer or a failure, and what can be seen of the scanner after it, and it goes by that: after a
failure it may stop, deal with it, or go on as if nothing had happened. The rule by which it parses
a line is an application too.
-/

namespace LineScan

/-- An operation on a scanner. -/
inductive Operation where
  | reset (line : Line)
  /-- Register a cleanup hook, or withdraw the one there is. -/
  | onCleanup (hook : Option Hook)
  | call (made : Call)
  /-- Raise a message, given as a template with arguments. -/
  | error (template : String) (args : List Datum)

/-- Make an operation. One that has nothing to say answers `true`. -/
def Operation.run (setting : Setting) : Operation → Rule Bool
  | .reset line => do
    Rule.reset line
    pure true
  | .onCleanup hook => do
    Rule.onCleanup hook
    pure true
  | .call made => made.run setting
  | .error template args => Rule.error setting template args

/-- Go on with whatever a computation comes to, an answer or a failure, and with what can be seen
after it. -/
def heeding {σ α β : Type} (view : σ → View) (x : EStateM Failure σ α)
    (next : Except Failure α → View → EStateM Failure σ β) : EStateM Failure σ β := fun s =>
  next (Result.answer (x s)) (view (Result.state (x s))) (Result.state (x s))

/-- A program on one scanner. -/
inductive Application where
  | done (answers : List Bool)
  | raise (failure : Failure)
  | operate (operation : Operation) (next : Except Failure Bool → View → Application)
  /-- Parse a line. -/
  | parse (line : Line) (rule : Application)
    (next : Except Failure (List Bool) → View → Application)

namespace Application

/-- Run an application. -/
def run (setting : Setting) : Application → Rule (List Bool)
  | .done answers => pure answers
  | .raise failure => throw failure
  | .operate operation next =>
    heeding (fun s => s.state.view) (operation.run setting) fun answer view =>
      (next answer view).run setting
  | .parse line rule next =>
    heeding (fun s => s.state.view) (Rule.parse line (rule.run setting)) fun answers view =>
      (next answers view).run setting

/-- The application lets every failure pass: it raises it again at once. -/
def Passes : Application → Prop
  | .done _ => True
  | .raise _ => True
  | .operate _ next =>
    (∀ failure view, next (.error failure) view = .raise failure) ∧
      ∀ answer view, (next (.ok answer) view).Passes
  | .parse _ rule next =>
    rule.Passes ∧ (∀ failure view, next (.error failure) view = .raise failure) ∧
      ∀ answers view, (next (.ok answers) view).Passes

end Application

end LineScan
