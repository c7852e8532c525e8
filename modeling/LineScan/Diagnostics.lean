import LineScan.Calculator.Run
import LineScan.Text.Whitespace

/-!
# Diagnostics of a document

Every line of a document that is not white space throughout is evaluated, and a line with an error
gives one diagnostic, one character wide, at the error's column. A document has no limits of its
own, so the calculator is the default one but for its environment.
-/

namespace LineScan

/-- A place in a document: line and character, both from zero. -/
structure DocumentPosition where
  line : Nat
  character : Int
  deriving DecidableEq, Repr

/-- An error in a document. -/
structure Diagnostic where
  start : DocumentPosition
  stop : DocumentPosition
  message : String
  deriving DecidableEq, Repr

namespace Diagnostic

/-- The diagnostic of an error on a line. -/
def ofError (index : Nat) (e : ScanError) : Diagnostic :=
  let column := max 0 (e.position - 1)
  ⟨⟨index, column⟩, ⟨index, column + 1⟩, e.message⟩

/-- The diagnostics of the lines from number `index` on. -/
def ofLines (k : Calculator) : Nat → List Line → EStateM Fault Scanner (List Diagnostic)
  | _, [] => pure []
  | index, line :: rest =>
    if Text.isAllWhitespace line then
      ofLines k (index + 1) rest
    else fun s =>
      match k.evaluate line s with
      | .ok _ s => ofLines k (index + 1) rest s
      | .error (.scan e) s =>
        match ofLines k (index + 1) rest s with
        | .ok others s => .ok (ofError index e :: others) s
        | .error f s => .error f s
      | .error (.fault f) s => .error f s

/-- The calculator that checks documents. -/
def calculator (env : Bindings String) (source : Calculator.RandomSource) : Calculator :=
  { env := env, source := source }

/-- The diagnostics of a document. -/
def ofDocument (env : Bindings String) (source : Calculator.RandomSource) (text : Line) :
    EStateM.Result Fault Scanner (List Diagnostic) :=
  ofLines (calculator env source) 0 (Text.documentLines text) {}

end Diagnostic

end LineScan
