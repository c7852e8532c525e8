import LineScan.Proofs.Grammar

/-!
# The value of a tree

The reference that the calculator is measured by: a tree is worked out by following its structure,
from left to right, and the first thing that goes wrong on the way decides. The limits of the
calculator are checked where the tree meets them: the depth when a primary is opened, the bound on
integers at a numeral, the number of arguments before an argument beyond it, a missing function
before its arguments.

A tree that breaks off has no value. What is said at the place where it breaks off may name a
column, so that the column is a parameter here; a whole tree never asks for it.
-/

namespace LineScan

/-- Why a rule fails, apart from the line and the column. -/
def Failure.cause : Failure → Abort
  | .scan e => .complaint e.complaint
  | .fault f => .fault f

/-- The column that a complaint names, if it names one. -/
def Complaint.column? : Complaint → Option Int
  | .expected _ column => some column
  | .demanded _ column => some column
  | .syntaxError column => some column
  | _ => none

/-- The complaints about how an expression is written, apart from what it means. -/
def Complaint.isSyntactic : Complaint → Bool
  | .expected .. => true
  | .syntaxError _ => true
  | .unclosedCall _ => true
  | _ => false

/-- An error stands at the column that its complaint names, if it names one. -/
def Failure.Located : Failure → Prop
  | .scan e => ∀ column, e.complaint.column? = some column → e.position = column
  | .fault _ => True

/-- How a rule ends, apart from the scanner that it leaves behind. -/
def Rule.outcome {α : Type} : EStateM.Result Failure Scanner α → Except Abort α
  | .ok a _ => .ok a
  | .error e _ => .error e.cause

/-- A name has a value that is bound to it. -/
theorem Bindings.mem_of_get? {α : Type _} {bindings : Bindings α} {name : String} {value : α}
    (h : bindings.get? name = some value) : (name, value) ∈ bindings := by
  obtain ⟨before, after, hsplit, -⟩ := List.lookup_eq_some_iff.mp h
  rw [hsplit]
  exact List.mem_append_right before (List.mem_cons_self ..)

namespace Calculator

/-- The marks that the rules look for. -/
def marks : List Char := ['*', '/', '+', '-', '(', ')', ',']

/-- What the rules look for, apart from identifiers. -/
inductive Sought (k : Calculator) : Target → Prop where
  | mark {c : Char} (h : c ∈ marks) : Sought k (.char c)
  | obelus : Sought k (.literal ['÷'])
  | endOfLine : Sought k .endOfLine
  | int : Sought k (.terminal (intTerminal k.maxInt))
  | last : Sought k (.terminal endTerminal)

/-- What a function makes of its arguments, on a scanner that has done nothing yet. -/
def answer (k : Calculator) (function : Builtin) (args : List Int) : Except Abort Int :=
  Rule.outcome (function.apply k.source args {})

/-- The arguments that a function of that name is ever applied to. -/
def Applicable (name : String) (args : List Int) : Prop := needsArgument name → args ≠ []

/-- A call that does not lack an argument has arguments that its function may be applied to. -/
theorem applicable_of_not_lacking {name : String} {args : List Int}
    (h : ¬ (needsArgument name && args.isEmpty) = true) : Applicable name args := by
  rintro hname rfl
  simp [hname] at h

/-- The functions are pure: whether a function answers or has a fault does not depend on the
scanner, and neither changes it. -/
def PureFunctions (k : Calculator) : Prop :=
  ∀ name function args, k.functions.get? name = some function → Applicable name args →
    (∃ n, ∀ s, function.apply k.source args s = .ok n s) ∨
      ∃ f, ∀ s, function.apply k.source args s = .error (.fault f) s

/-- The functions are pure and always answer. -/
def TotalFunctions (k : Calculator) : Prop :=
  ∀ name function args, k.functions.get? name = some function → Applicable name args →
    ∃ n, ∀ s, function.apply k.source args s = .ok n s

/-- Functions that always answer are pure. -/
theorem TotalFunctions.pure {k : Calculator} (h : k.TotalFunctions) : k.PureFunctions :=
  fun name function args known applicable => .inl (h name function args known applicable)

/-- The built-in functions but the random one are total, under the names that they are meant for; so
is every other total function, under any name. -/
theorem totalFunctions_of_entries {k : Calculator}
    (h : ∀ entry ∈ k.functions, (∃ f, entry.2 = .total f) ∨ entry = ("min", .least) ∨
      entry = ("max", .greatest)) : k.TotalFunctions := by
  intro name function args known applicable
  rcases h (name, function) (Bindings.mem_of_get? known) with ⟨f, hf⟩ | hleast | hgreatest
  · cases hf
    exact ⟨f args, fun _ => rfl⟩
  · cases hleast
    cases args with
    | nil => exact absurd rfl (applicable rfl)
    | cons n others => exact ⟨others.foldl min n, fun _ => rfl⟩
  · cases hgreatest
    cases args with
    | nil => exact absurd rfl (applicable rfl)
    | cons n others => exact ⟨others.foldl max n, fun _ => rfl⟩

/-- The digits at the front of a text, after white space and a sign. -/
def leadingDigits (text : String) : Line :=
  (Decimal.splitSign (Text.trimStart text.toList)).2.takeWhile Text.isDigit

/-- No variable starts with more digits than can be read. -/
def ReadableVariables (k : Calculator) : Prop :=
  ∀ name text, k.env.get? name = some text → (leadingDigits text).length ≤ Decimal.digitLimit

/-- All variables can be read if each entry starts with few enough digits. -/
theorem readableVariables_of_entries {k : Calculator}
    (h : ∀ entry ∈ k.env, (leadingDigits entry.2).length ≤ Decimal.digitLimit) :
    k.ReadableVariables := fun name text hbound => h (name, text) (Bindings.mem_of_get? hbound)

end Calculator

namespace Grammar

open Calculator

/-! ## The reference -/

/-- Give up with a complaint. -/
def refuse {α : Type} (c : Complaint) : Except Abort α := .error (.complaint c)

/-- The value of a variable. -/
def variableValue (k : Calculator) (name : String) : Except Abort Int :=
  match k.env.get? name with
  | none => refuse (.unbound name)
  | some text =>
    match Decimal.leadingInteger text.toList with
    | .ok n => .ok n
    | .error cause => .error (.fault (.oversize cause))

/-- The value of a call, once its arguments are worked out. -/
def callValue (k : Calculator) (name : String) (function : Builtin) (args : List Int) :
    Except Abort Int :=
  if needsArgument name && args.isEmpty then refuse (.argumentNeeded name)
  else k.answer function args

mutual

/-- The value of a primary that may open `depth` primaries, itself included. -/
def Primary.value (k : Calculator) (column : Int) : (depth : Nat) → Primary → Except Abort Int
  | 0, _ => refuse .tooDeep
  | depth + 1, .call name args =>
    match k.functions.get? name.text with
    | none => refuse (.unknownFunction name.text)
    | some function => do
      let values ← args.values k column depth name.text maxArguments
      callValue k name.text function values
  | _ + 1, .var name => variableValue k name.text
  | depth + 1, .paren inner => inner.value k column depth
  | depth + 1, .sign op inner => do
    let n ← inner.value k column depth
    .ok (op.signed n)
  | _ + 1, .int numeral => if numeral.value ≤ k.maxInt then .ok numeral.value else refuse .overflow
  | _ + 1, .missing => refuse (.syntaxError column)
  | depth + 1, .unclosed inner => do
    let _ ← inner.value k column depth
    refuse (.expected (Target.char ')').label column)

/-- The value of a factor. -/
def Factor.value (k : Calculator) (column : Int) (depth : Nat) : Factor → Except Abort Int
  | .one first => first.value k column depth
  | .step left op right => do
    let a ← left.value k column depth
    let b ← right.value k column depth
    op.combine a b

/-- The value of a term. -/
def Term.value (k : Calculator) (column : Int) (depth : Nat) : Term → Except Abort Int
  | .one first => first.value k column depth
  | .step left op right => do
    let a ← left.value k column depth
    let b ← right.value k column depth
    .ok (op.combine a b)

/-- The values of the arguments of a call; `room` is how many more there may be. -/
def Arguments.values (k : Calculator) (column : Int) (depth : Nat) (name : String) :
    (room : Nat) → Arguments → Except Abort (List Int)
  | _, .close => .ok []
  | 0, .more .. => refuse (.tooManyArguments name)
  | room + 1, .more first _ rest => do
    let n ← first.value k column depth
    let others ← rest.values k column depth name room
    .ok (n :: others)
  | _, .cut => refuse (.unclosedCall name)

end

end Grammar

end LineScan
