import LineScan.Scanner.Basic

/-!
# Calls on a scanner

An application works on a scanner by calls: it accepts a target, accepts several or none of them, or
expects one. A call that fails need not end the application, so a sequence of calls goes on from
whatever scanner the last one left behind.
-/

namespace LineScan

/-- The state that a computation leaves behind, however it ends. -/
@[simp]
def Result.state {ε σ α : Type} : EStateM.Result ε σ α → σ
  | .ok _ s => s
  | .error _ s => s

/-- What a computation gives, apart from the state that it leaves behind. -/
@[simp]
def Result.answer {ε σ α : Type} : EStateM.Result ε σ α → Except ε α
  | .ok a _ => .ok a
  | .error e _ => .error e

/-- A call on a scanner. -/
inductive Call where
  | accept (wanted : Wanted)
  | acceptAll (wanted : List Wanted)
  | expect (wanted : Wanted) (what : Option String)

/-- What an application sees of a scanner between two calls. -/
structure View where
  cursor : Int
  value : Datum
  matched : Line
  rest : Line

/-- The view of a scan state. -/
def ScanState.view (s : ScanState) : View := ⟨s.cursor, s.value, s.matched, s.rest⟩

namespace Call

/-- What a call looks for, in order. -/
def wanted : Call → List Wanted
  | .accept wanted => [wanted]
  | .acceptAll wanted => wanted
  | .expect wanted _ => [wanted]

/-- The call looks for the terminal. -/
def Seeks (setting : Setting) (call : Call) (t : Terminal) : Prop :=
  ∃ wanted ∈ call.wanted, wanted.coerce setting.registry = .ok (.terminal t)

/-- Make a call. What is expected is found, or there is no answer. -/
def run (setting : Setting) : Call → Rule Bool
  | .accept wanted => Rule.accept setting wanted
  | .acceptAll wanted => Rule.acceptAll setting wanted
  | .expect wanted what => do
    Rule.expect setting wanted what
    pure true

/-- The scanner after several calls, whatever becomes of each. -/
def runAll (setting : Setting) : List Call → Scanner → Scanner
  | [], s => s
  | call :: rest, s => runAll setting rest (Result.state (call.run setting s))

/-- What an application sees of several calls: for each of them, what it gives and what can be seen
after it. -/
def trace (setting : Setting) : List Call → Scanner → List (Except Failure Bool × View)
  | [], _ => []
  | call :: rest, s =>
    let result := call.run setting s
    (Result.answer result, (Result.state result).state.view) ::
      trace setting rest (Result.state result)

end Call

end LineScan
