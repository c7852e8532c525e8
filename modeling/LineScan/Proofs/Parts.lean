import LineScan.Proofs.Evaluator
import LineScan.Proofs.Scanning

/-!
# Properties of all rules

A property of rules that is kept when rules are put together, and that the parts of the grammar
have, is one of every rule of the calculator. The grammar is gone through once for all such
properties.

The name that a call or a variable starts with has been read from the line, so that the parts only
need the property for names that are identifiers.

## Main statements

* `Parts.primaryWith`, `Parts.primary`: a primary has the property.
* `Parts.expr`: so has a whole expression.
-/

namespace LineScan

open Grammar (Identifier)

/-- The complaints of the calculator that name no column. -/
inductive Complaint.Unplaced : Complaint → Prop where
  | overflow : Unplaced .overflow
  | divisionByZero : Unplaced .divisionByZero
  | tooDeep : Unplaced .tooDeep
  | unbound (name : Identifier) : Unplaced (.unbound name.text)
  | unknownFunction (name : Identifier) : Unplaced (.unknownFunction name.text)
  | tooManyArguments (name : Identifier) : Unplaced (.tooManyArguments name.text)
  | argumentNeeded (name : Identifier) : Unplaced (.argumentNeeded name.text)
  | unclosedCall (name : Identifier) : Unplaced (.unclosedCall name.text)

namespace Calculator

/-- A property is kept when rules are put together, and the parts of the grammar have it. -/
structure Parts (k : Calculator) (Φ : {α : Type} → Rule α → Prop) : Prop where
  pure : ∀ {α : Type} (a : α), Φ (pure a : Rule α)
  bind : ∀ {α β : Type} {x : Rule α} {f : α → Rule β}, Φ x → (∀ a, Φ (f a)) → Φ (x >>= f)
  rounds : Φ rounds
  accept : ∀ {target : Target}, Sought k target → Φ (Rule.acceptTarget k.setting target)
  expect : ∀ {target : Target}, Sought k target → Φ (Rule.expectTarget k.setting target none)
  /-- A name that has been scanned is an identifier. -/
  named : ∀ {α : Type} {f : String → Rule α} {g : Rule α}, (∀ name : Identifier, Φ (f name.text)) →
    Φ g → Φ (Rule.acceptTarget k.setting (.terminal identTerminal) >>= fun found =>
      if found = true then scannedText >>= f else g)
  scannedInt : Φ scannedInt
  value : ∀ name : Identifier, Φ (k.variableValue name.text)
  apply : ∀ {name : String} {function : Builtin} {args : List Int},
    k.functions.get? name = some function → Applicable name args → Φ (function.apply k.source args)
  complain : ∀ {α : Type} {c : Complaint}, c.Unplaced → Φ (k.complain c : Rule α)
  syntaxError :
    Φ (errorColumn >>= fun column => (k.complainAt column (.syntaxError column) : Rule Int))

namespace Parts

variable {k : Calculator} {Φ : {α : Type} → Rule α → Prop}

/-- A branch has the property if both sides do. -/
theorem branch {α : Type} {c : Prop} [Decidable c] {x y : Rule α} (yes : c → Φ x) (no : ¬ c → Φ y) :
    Φ (if c then x else y) := by
  split
  · next h => exact yes h
  · next h => exact no h

variable (parts : Parts k Φ)

include parts

/-- Trying a mark has the property. -/
theorem acceptChar {c : Char} (h : c ∈ marks) : Φ (k.acceptChar c) := parts.accept (.mark h)

/-- Nothing comes after a complaint. -/
theorem complain_bind {α β : Type} {c : Complaint} (h : c.Unplaced) (f : α → Rule β) :
    Φ ((k.complain c : Rule α) >>= f) := by
  have hcut : (k.complain c : Rule α) >>= f = k.complain c := Rule.complain_bind k.setting c f
  rw [hcut]
  exact parts.complain h

section

variable {x : Rule Int} (nested : Φ x)

include nested

/-- The loop of a factor has the property if its primaries do. -/
theorem factorLoop (fuel : Nat) (n : Int) : Φ (factorLoop k x fuel n) := by
  induction fuel generalizing n with
  | zero => exact parts.pure n
  | succ fuel ih =>
    have divided : ∀ divide : Bool, Φ (if divide = true then
        x >>= fun d => if d = 0 then
            (k.complain .divisionByZero : Rule PUnit) >>= fun _ =>
              Calculator.factorLoop k x fuel (truncDiv n d)
          else Calculator.factorLoop k x fuel (truncDiv n d)
        else Pure.pure n) := by
      intro divide
      refine branch (fun _ => parts.bind nested fun d => ?_) fun _ => parts.pure n
      exact branch (fun _ => parts.complain_bind .divisionByZero _) fun _ => ih _
    refine parts.bind (parts.acceptChar (by decide)) fun times => branch (fun _ => ?_) fun _ => ?_
    · exact parts.bind nested fun d => ih _
    · refine parts.bind (parts.acceptChar (by decide)) fun slash => branch (fun _ => ?_) fun _ => ?_
      · exact parts.bind (parts.pure true) divided
      · exact parts.bind (parts.accept .obelus) divided

/-- A factor has the property if its primaries do. -/
theorem factor : Φ (factor k x) :=
  parts.bind nested fun n => parts.bind parts.rounds fun fuel => parts.factorLoop nested fuel n

/-- The loop of a term has the property if its primaries do. -/
theorem termLoop (fuel : Nat) (n : Int) : Φ (termLoop k x fuel n) := by
  induction fuel generalizing n with
  | zero => exact parts.pure n
  | succ fuel ih =>
    refine parts.bind (parts.acceptChar (by decide)) fun plus => branch (fun _ => ?_) fun _ => ?_
    · exact parts.bind (parts.factor nested) fun d => ih _
    · refine parts.bind (parts.acceptChar (by decide)) fun minus => branch (fun _ => ?_) fun _ => ?_
      · exact parts.bind (parts.factor nested) fun d => ih _
      · exact parts.pure n

/-- A term has the property if its primaries do. -/
theorem term : Φ (term k x) :=
  parts.bind (parts.factor nested) fun n => parts.bind parts.rounds fun fuel =>
    parts.termLoop nested fuel n

/-- The arguments of a call have the property if the primaries in them do. -/
theorem arguments (name : Identifier) (room : Nat) : Φ (arguments k x name.text room) := by
  induction room with
  | zero =>
    refine parts.bind (parts.acceptChar (by decide)) fun closed => branch (fun _ => ?_) fun _ => ?_
    · exact parts.pure []
    · exact parts.complain (.tooManyArguments name)
  | succ room ih =>
    refine parts.bind (parts.acceptChar (by decide)) fun closed => branch (fun _ => ?_) fun _ => ?_
    · exact parts.pure []
    refine parts.bind (parts.term nested) fun first => ?_
    have others : Φ (Calculator.arguments k x name.text room >>= fun others =>
        (Pure.pure (first :: others) : Rule (List Int))) :=
      parts.bind ih fun others => parts.pure _
    refine parts.bind (parts.acceptChar (by decide)) fun comma => branch (fun _ => ?_)
      fun _ => others
    refine parts.bind (parts.accept .endOfLine) fun ended => branch (fun _ => ?_) fun _ => others
    exact parts.complain_bind (.unclosedCall name) _

/-- A call has the property if the primaries in its arguments do. -/
theorem call (name : Identifier) : Φ (call k x name.text) := by
  rw [Calculator.call]
  cases hfunction : k.functions.get? name.text with
  | none => exact parts.complain (.unknownFunction name)
  | some function =>
    refine parts.bind (parts.arguments nested name _) fun args => branch (fun _ => ?_)
      fun hlacks => ?_
    · exact parts.complain_bind (.argumentNeeded name) _
    · exact parts.apply hfunction (applicable_of_not_lacking hlacks)

/-- A primary has the property if the ones nested in it do. -/
theorem primaryWith : Φ (primaryWith k x) := by
  refine parts.named (fun name => ?_) ?_
  · refine parts.bind (parts.acceptChar (by decide)) fun called => branch (fun _ => ?_) fun _ => ?_
    · exact parts.call nested name
    · exact parts.value name
  refine parts.bind (parts.acceptChar (by decide)) fun opened => branch (fun _ => ?_) fun _ => ?_
  · refine parts.bind (parts.term nested) fun n => ?_
    exact parts.bind (parts.expect (.mark (by decide))) fun _ => parts.pure n
  refine parts.bind (parts.acceptChar (by decide)) fun minus => branch (fun _ => ?_) fun _ => ?_
  · exact parts.bind nested fun n => parts.pure (-n)
  refine parts.bind (parts.acceptChar (by decide)) fun plus => branch (fun _ => nested) fun _ => ?_
  refine parts.bind (parts.accept .int) fun written => branch (fun _ => ?_) fun _ => ?_
  · exact parts.scannedInt
  · exact parts.syntaxError

end

/-- Primaries of every depth have the property, by induction on the depth. -/
theorem primary (depth : Nat) : Φ (k.primary depth) := by
  induction depth with
  | zero => exact parts.complain .tooDeep
  | succ depth ih => exact parts.primaryWith ih

/-- A whole expression has the property. -/
theorem expr : Φ k.expr :=
  parts.bind (parts.term (parts.primary _)) fun n =>
    parts.bind (parts.expect .last) fun _ => parts.pure n

end Parts

end Calculator

end LineScan
