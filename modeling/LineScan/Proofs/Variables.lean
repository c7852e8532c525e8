import LineScan.Proofs.Acceptance
import LineScan.Scanner.Call

/-!
# The variables that a line uses

A line uses a variable when evaluating it asks for the value of the variable. That can be seen
without looking into the evaluation: a line uses a variable when it is refused for want of it as
soon as the variable is taken away. Taking a variable away makes no other difference, since values
are worked out from left to right and the first one that is missing ends it.

A line has a fault only if it uses a variable whose text starts with more digits than can be read.

## Main statements

* `Term.depends`: the value of a tree, and what becomes of it without a variable.
* `not_fault_of_uses`: a line whose variables can be read has a value or an error.
-/

namespace LineScan

/-- Taking a name away changes the value of no other name. -/
theorem Bindings.get?_filter_ne {α : Type} (bindings : Bindings α) (name other : String) :
    Bindings.get? (bindings.filter fun entry => entry.1 != name) other =
      if other = name then none else bindings.get? other := by
  induction bindings with
  | nil => simp [get?]
  | cons entry rest ih =>
    obtain ⟨key, value⟩ := entry
    simp only [get?, List.filter_cons, bne_iff_ne, List.lookup_cons] at ih ⊢
    by_cases hname : key = name
    · rw [if_neg (by simpa using hname), ih]
      by_cases hother : other = name
      · rw [if_pos hother, if_pos hother]
      · rw [if_neg hother, if_neg hother, beq_eq_false_iff_ne.mpr (hname ▸ hother)]
    · rw [if_pos hname, List.lookup_cons, ih]
      by_cases hother : other = key
      · have hne : ¬ other = name := by rwa [hother]
        simp only [if_neg hne, beq_iff_eq.mpr hother]
      · rw [beq_eq_false_iff_ne.mpr hother]

namespace Calculator

/-- How a line evaluates by itself, on a calculator that has done nothing yet. -/
def alone (k : Calculator) (line : Line) : Except Failure Int :=
  Result.answer (k.evaluate line {})

/-- The calculator without a variable. -/
def without (k : Calculator) (name : String) : Calculator :=
  { k with env := k.env.filter fun entry => entry.1 != name }

/-- Evaluating the line asks for the value of the variable: without the variable, the line is
refused for want of it. -/
def Uses (k : Calculator) (line : Line) (name : String) : Prop :=
  ∃ e, (k.without name).alone line = .error (.scan e) ∧ e.complaint = .unbound name

/-- The text of the variable starts with more digits than can be read. -/
def Unreadable (k : Calculator) (name : String) : Prop :=
  ∃ text, k.env.get? name = some text ∧ Decimal.digitLimit < (leadingDigits text).length

end Calculator

namespace Grammar

open Calculator

variable {k : Calculator} {α β : Type}

/-- How an outcome depends on the variables, where `r' name` is what it is without a variable: it is
the same or a complaint about that variable; and a fault is due to a variable. -/
structure Depends (k : Calculator) (r : Except Abort α) (r' : String → Except Abort α) : Prop where
  same_or_unbound : ∀ name, r' name = r ∨ r' name = refuse (.unbound name)
  blamed : ∀ f, r = .error (.fault f) →
    ∃ name, k.Unreadable name ∧ r' name = refuse (.unbound name)

namespace Depends

/-- What does not ask for a variable, and has no fault, does not depend on any. -/
theorem unchanged {r : Except Abort α} (h : ∀ f, r ≠ .error (.fault f)) :
    Depends k r fun _ => r where
  same_or_unbound _ := .inl rfl
  blamed f hf := (h f hf).elim

/-- A value does not depend on variables. -/
theorem ok (a : α) : Depends k (.ok a) fun _ => .ok a := .unchanged nofun

/-- A complaint that is made anyway does not depend on variables. -/
theorem refused (c : Complaint) : Depends k (refuse c : Except Abort α) fun _ => refuse c :=
  .unchanged nofun

/-- The first outcome that is different decides. -/
theorem bind {r : Except Abort α} {r' : String → Except Abort α} {f : α → Except Abort β}
    {f' : String → α → Except Abort β} (first : Depends k r r')
    (next : ∀ a, Depends k (f a) fun name => f' name a) :
    Depends k (r >>= f) fun name => r' name >>= f' name where
  same_or_unbound name := by
    cases first.same_or_unbound name with
    | inr hunbound => exact .inr (by rw [hunbound]; rfl)
    | inl hsame =>
      rw [hsame]
      cases r with
      | error cause => exact .inl rfl
      | ok a => exact (next a).same_or_unbound name
  blamed cause h := by
    obtain hfirst | ⟨a, rfl, hnext⟩ := bind_eq_error h
    · obtain ⟨name, unreadable, hunbound⟩ := first.blamed cause hfirst
      exact ⟨name, unreadable, by rw [hunbound]; rfl⟩
    · obtain ⟨name, unreadable, hunbound⟩ := (next a).blamed cause hnext
      refine ⟨name, unreadable, ?_⟩
      cases first.same_or_unbound name with
      | inr h => rw [h]; rfl
      | inl h => rw [h]; exact hunbound

end Depends

/-- The value of a variable depends on that variable alone. -/
theorem depends_variableValue (name : String) :
    Depends k (variableValue k name) fun other => variableValue (k.without other) name where
  same_or_unbound other := by
    simp only [variableValue, without, Bindings.get?_filter_ne]
    by_cases h : name = other
    · exact .inr (by simp [h])
    · exact .inl (by simp [h])
  blamed f h := by
    simp only [variableValue] at h
    cases hbound : k.env.get? name with
    | none =>
      rw [hbound] at h
      cases h
    | some text =>
      rw [hbound] at h
      refine ⟨name, ⟨text, hbound, ?_⟩, ?_⟩
      · apply Nat.lt_of_not_le
        intro hreadable
        obtain ⟨n, hn⟩ := leadingInteger_of_readable hreadable
        simp only [hn] at h
        cases h
      · simp [variableValue, without, Bindings.get?_filter_ne]

/-- The value of a call, once its arguments are worked out, does not depend on variables. -/
theorem depends_callValue (total : k.TotalFunctions) {name : String} {function : Builtin}
    (known : k.functions.get? name = some function) (args : List Int) :
    Depends k (callValue k name function args) fun other =>
      callValue (k.without other) name function args := by
  refine .unchanged fun f => ?_
  unfold callValue
  split
  · rintro ⟨⟩
  · next hneed =>
    obtain ⟨n, hn⟩ := total name function args known (applicable_of_not_lacking hneed)
    rw [answer, hn]
    rintro ⟨⟩

/-- Combining two values does not depend on variables. -/
theorem depends_combine (op : Multiplicative) (a b : Int) :
    Depends k (op.combine a b) fun _ => op.combine a b := by
  refine .unchanged fun f => ?_
  unfold Multiplicative.combine
  split
  · split <;> rintro ⟨⟩
  · rintro ⟨⟩

mutual

/-- How the value of a primary depends on the variables in it. -/
theorem Primary.depends (total : k.TotalFunctions) (column : Int) : ∀ (t : Primary) (depth : Nat),
    Depends k (t.value k column depth) fun name => t.value (k.without name) column depth
  | t, 0 => by
    simp only [Primary.value]
    exact .refused _
  -- the functions are the same without the variable, so that only the arguments can depend on it
  | .call name args, depth + 1 => by
    simp only [Primary.value, without]
    cases known : k.functions.get? name.text with
    | none => exact .refused _
    | some function =>
      exact .bind (args.depends total column depth name.text maxArguments) fun values =>
        depends_callValue total known values
  | .var name, depth + 1 => by
    simp only [Primary.value]
    exact depends_variableValue name.text
  | .paren inner, depth + 1 => by
    simp only [Primary.value]
    exact inner.depends total column depth
  | .sign op inner, depth + 1 => by
    simp only [Primary.value]
    exact .bind (inner.depends total column depth) fun n => .ok _
  | .int numeral, depth + 1 => by
    simp only [Primary.value]
    refine .unchanged fun f => ?_
    split <;> rintro ⟨⟩
  | .missing, depth + 1 => by
    simp only [Primary.value]
    exact .refused _
  | .unclosed inner, depth + 1 => by
    simp only [Primary.value]
    exact .bind (inner.depends total column depth) fun _ => .refused _

/-- How the value of a factor depends on the variables in it. -/
theorem Factor.depends (total : k.TotalFunctions) (column : Int) : ∀ (t : Factor) (depth : Nat),
    Depends k (t.value k column depth) fun name => t.value (k.without name) column depth
  | .one first, depth => by
    simp only [Factor.value]
    exact first.depends total column depth
  | .step left op right, depth => by
    simp only [Factor.value]
    exact .bind (left.depends total column depth) fun a =>
      .bind (right.depends total column depth) fun b => depends_combine op a b

/-- The value of a tree depends on the variables that it asks for. -/
theorem Term.depends (total : k.TotalFunctions) (column : Int) : ∀ (t : Term) (depth : Nat),
    Depends k (t.value k column depth) fun name => t.value (k.without name) column depth
  | .one first, depth => by
    simp only [Term.value]
    exact first.depends total column depth
  | .step left op right, depth => by
    simp only [Term.value]
    exact .bind (left.depends total column depth) fun a =>
      .bind (right.depends total column depth) fun b => .ok _

/-- How the values of arguments depend on the variables in them. -/
theorem Arguments.depends (total : k.TotalFunctions) (column : Int) :
    ∀ (args : Arguments) (depth : Nat) (name : String) (room : Nat),
      Depends k (args.values k column depth name room) fun other =>
        args.values (k.without other) column depth name room
  | .close, depth, name, room => by
    simp only [Arguments.values]
    exact .ok _
  | .more .., depth, name, 0 => by
    simp only [Arguments.values]
    exact .refused _
  | .more first _ rest, depth, name, room + 1 => by
    simp only [Arguments.values]
    exact .bind (first.depends total column depth) fun n =>
      .bind (rest.depends total column depth name room) fun others => .ok _
  | .cut, depth, name, room => by
    simp only [Arguments.values]
    exact .refused _

end

/-- So does the value of a line. -/
theorem depends_lineValue (total : k.TotalFunctions) (line : Line) :
    Depends k (lineValue k line) fun name => lineValue (k.without name) line := by
  refine .bind ((read line).1.depends total _ _) fun n => ?_
  split
  · exact .ok n
  · exact .refused _

/-- A line uses a variable when its value without the variable is a complaint about that. -/
theorem uses_iff (hpure : k.PureFunctions) {line : Line} {name : String} :
    k.Uses line name ↔ lineValue (k.without name) line = refuse (.unbound name) := by
  constructor
  · rintro ⟨e, halone, hcomplaint⟩
    rw [alone] at halone
    cases hresult : (k.without name).evaluate line {} with
    | ok n s =>
      rw [hresult] at halone
      cases halone
    | error e' s =>
      rw [hresult] at halone
      cases halone
      rw [(lineValue_of_error (k := k.without name) hpure hresult).1, hcomplaint]
      rfl
  · intro hvalue
    obtain ⟨e, s, he, hcomplaint, -⟩ :=
      exists_error_of_lineValue (k := k.without name) hpure hvalue {}
    exact ⟨e, by rw [alone, he]; rfl, hcomplaint⟩

/-- A line whose variables can be read has a value or an error of its own. -/
theorem not_fault_of_uses (total : k.TotalFunctions) {line : Line}
    (readable : ∀ name, k.Uses line name → ¬ k.Unreadable name) (f : Fault) :
    k.alone line ≠ .error (.fault f) := by
  intro hfault
  have hvalue : lineValue k line = .error (.fault f) := by
    have hagrees := agrees_evaluate total.pure line {}
    simp only [alone] at hfault
    generalize k.evaluate line {} = result at hagrees hfault
    generalize lineValue k line = value at hagrees ⊢
    cases hagrees with
    | ok stands => cases hfault
    | failed located =>
      cases hfault
      rfl
  obtain ⟨name, unreadable, hunbound⟩ := (depends_lineValue total line).blamed f hvalue
  exact readable name ((uses_iff total.pure).mpr hunbound) unreadable

end Grammar

end LineScan
