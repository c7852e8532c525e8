import LineScan.Calculator.Desk
import LineScan.Proofs.Abreast
import LineScan.Proofs.Calls

/-!
# The counter of open primaries

A calculator that counts its open primaries does what one does whose rules are bounded by a depth:
the counter is what it was after every rule, however the rule ends, and so it is the number of
primaries that the rule is nested in.

The rules of the two calculators are the same text, so that it is enough to have a relation of what
the two work on that is kept by whatever a part of the grammar does to its scanner.

## Main statements

* `Carries.abreast`: a relation that is kept by rules on a scanner is kept by the whole grammar.
* `together_countedWithin`: counting and bounding the depth come to the same.
* `countedPrimary_apply`: a primary is refused at the limit and else opened, at every depth.
-/

namespace LineScan

/-! ## Rules that do not depend on the journal -/

/-- Two computations go together: they keep a relation of their states, however they end, and a
failure is one of the scanner they work on. -/
def Together {σ τ α : Type} (id : Nat) (R : σ → τ → Prop) (x : EStateM Failure σ α)
    (y : EStateM Failure τ α) : Prop :=
  Lockstep R x y (fun _ => R) fun e s t => e.IsOf id ∧ R s t

namespace Together

variable {σ τ α β : Type} {id : Nat} {R : σ → τ → Prop} {x x' : EStateM Failure σ α}
  {y y' : EStateM Failure τ α}

/-- The same answer keeps the relation. -/
theorem pure (a : α) : Together id R (pure a) (pure a) := Lockstep.pure fun _ _ h => h

/-- Computations go together one after another. -/
theorem bind {f : α → EStateM Failure σ β} {g : α → EStateM Failure τ β} (first : Together id R x y)
    (next : ∀ a, Together id R (f a) (g a)) : Together id R (x >>= f) (y >>= g) :=
  Lockstep.bind first next

/-- Computations that branch on the same condition go together. -/
theorem ite {c : Prop} [Decidable c] (yes : Together id R x y) (no : Together id R x' y') :
    Together id R (if c then x else x') (if c then y else y') :=
  Lockstep.ite (fun _ => yes) fun _ => no

end Together

/-- Two scanners of one number without hooks, in the same state: only their journals differ. -/
structure Scanner.Same (id : Nat) (s t : Scanner) : Prop where
  state_eq : s.state = t.state
  id_left : s.id = id
  id_right : t.id = id
  hook_left : s.hook = none
  hook_right : t.hook = none

namespace Scanner.Same

variable {id : Nat} {s t : Scanner}

/-- Scanners that are the same but for their journals have one number. -/
theorem id_eq (h : Same id s t) : s.id = t.id := h.id_left.trans h.id_right.symm

/-- They make the same error of a complaint. -/
theorem errorOf_eq (h : Same id s t) (c : Complaint) : s.errorOf c = t.errorOf c := by
  simp only [Scanner.errorOf, h.state_eq, h.id_eq]

/-- They stay the same when both note a complaint. -/
theorem noteMessage (h : Same id s t) (c : Complaint) :
    Same id (s.noteMessage c) (t.noteMessage c) where
  state_eq := by simp only [Scanner.noteMessage, h.state_eq]
  id_left := h.id_left
  id_right := h.id_right
  hook_left := h.hook_left
  hook_right := h.hook_right

end Scanner.Same

/-- A rule is steady: it does not depend on the journal. -/
def Rule.Steady {α : Type} (rule : Rule α) : Prop := ∀ id, Together id (Scanner.Same id) rule rule

namespace Rule

variable {α : Type} {setting : Setting}

/-- An answer does not depend on the journal. -/
theorem steady_pure (a : α) : Steady (pure a) := fun _ => .pure a

/-- A fault does not depend on the journal. -/
theorem steady_fault (f : Fault) : Steady (fault f : Rule α) := fun _ _ _ h => .error ⟨trivial, h⟩

/-- What is asked of the scan state does not depend on the journal. -/
theorem steady_get (f : ScanState → α) : Steady (do pure (f (← get).state)) := by
  intro id s t h
  simp only [bind_apply, get_apply, pure_apply, h.state_eq]
  exact .ok h

/-- A complaint does not depend on the journal. -/
theorem steady_complain (c : Complaint) : Steady (complain setting c : Rule α) := by
  intro id s t h
  rw [complain_of_no_hook c h.hook_left, complain_of_no_hook c h.hook_right,
    (h.noteMessage c).errorOf_eq]
  exact .error ⟨congrArg some h.id_right, h.noteMessage c⟩

/-- A complaint about a column depends on the line, besides. -/
theorem steady_complainAt (column : Int) (c : Complaint) :
    Steady (complainAt setting column c : Rule α) := by
  intro id
  rw [complainAt_eq]
  refine Lockstep.get_bind fun s t h => ?_
  rw [h.state_eq]
  exact .ite (fun _ => steady_complain c id) fun _ => steady_fault _ id

/-- What is written of an attempt depends on the state alone. -/
theorem steady_acceptTarget (target : Target) : Steady (acceptTarget setting target) := by
  intro id s t h
  rw [acceptTarget, onBench_apply h.hook_left, onBench_apply h.hook_right, Bench.attempt_eq,
    Bench.attempt_eq, h.state_eq]
  by_cases hcursor : setting.Writes t.state.line t.state.cursor
  case neg =>
    rw [if_neg hcursor, if_neg hcursor]
    exact .error ⟨trivial, h⟩
  rw [if_pos hcursor, if_pos hcursor]
  obtain ⟨m, state⟩ | ⟨c | f, state⟩ := Scan.dispatch target t.state
  · by_cases hplace : setting.Writes state.line m.place
    · simp only [if_pos hplace]
      exact .ok ⟨rfl, h.id_left, h.id_right, h.hook_left, h.hook_right⟩
    · simp only [if_neg hplace]
      exact .error ⟨trivial, rfl, h.id_left, h.id_right, h.hook_left, h.hook_right⟩
  · simp only [Scanner.conclude, Scanner.errorOf, h.id_eq]
    exact .error ⟨congrArg some h.id_right, rfl, h.id_right, h.id_right, h.hook_left,
      h.hook_right⟩
  · exact .error ⟨trivial, rfl, h.id_left, h.id_right, h.hook_left, h.hook_right⟩

/-- Requiring a target does not depend on the journal. -/
theorem steady_expectTarget (target : Target) (what : Option String) :
    Steady (expectTarget setting target what) := by
  intro id
  refine .bind (steady_acceptTarget target id) fun found => .ite (.pure ()) ?_
  refine Lockstep.get_bind fun s t h => ?_
  rw [h.state_eq]
  exact steady_complainAt _ _ id

end Rule

/-! ## The rules of the calculator -/

namespace Calculator

variable {k : Calculator}

/-- The value of a variable does not depend on the journal. -/
theorem steady_variableValue (name : String) : Rule.Steady (k.variableValue name) := by
  unfold variableValue
  cases k.env.get? name with
  | none => exact Rule.steady_complain _
  | some text =>
    cases h : Fault.ofOversize (Decimal.leadingInteger text.toList) with
    | ok n =>
      simp only [h]
      exact Rule.steady_pure n
    | error f =>
      simp only [h]
      exact Rule.steady_fault f

/-- The text of the last match does not depend on the journal. -/
theorem steady_scannedText : Rule.Steady scannedText := by
  intro id
  refine Lockstep.get_bind fun s t h => ?_
  rw [h.state_eq]
  split <;> exact Together.pure _

/-- The value of the last match does not depend on the journal. -/
theorem steady_scannedInt : Rule.Steady scannedInt := by
  intro id
  refine Lockstep.get_bind fun s t h => ?_
  rw [h.state_eq]
  split <;> exact Together.pure _

/-- How many turns a loop may take does not depend on the journal. -/
theorem steady_rounds : Rule.Steady rounds := Rule.steady_get fun state => state.line.length + 1

/-- The column of an error does not depend on the journal. -/
theorem steady_errorColumn : Rule.Steady errorColumn := Rule.steady_get ScanState.errorColumn

/-- So is the complaint of a syntax error at that column. -/
theorem steady_syntaxError (column : Int) :
    Rule.Steady (k.complainAt column (.syntaxError column) : Rule Int) :=
  Rule.steady_complainAt column _

/-- A function that is pure does not depend on the journal. -/
theorem steady_apply (hpure : k.PureFunctions) {name : String} {function : Builtin}
    {args : List Int} (known : k.functions.get? name = some function)
    (applicable : Applicable name args) : Rule.Steady (function.apply k.source args) := by
  obtain ⟨n, hn⟩ | ⟨f, hf⟩ := hpure name function args known applicable
  · intro id s t h
    rw [hn, hn]
    exact .ok h
  · intro id s t h
    rw [hf, hf]
    exact .error ⟨trivial, h⟩

section

variable {σ τ : Type} [MonadLiftT Rule (EStateM Failure σ)] [MonadLiftT Rule (EStateM Failure τ)]

/-- A relation carries rules: it is kept by steady ones, and nothing comes after a complaint. -/
structure Carries (id : Nat) (R : σ → τ → Prop) : Prop where
  steady : ∀ {α : Type} {rule : Rule α}, rule.Steady →
    Together id R (liftM rule : EStateM Failure σ α) (liftM rule : EStateM Failure τ α)
  complain_bind : ∀ {α β : Type} (k : Calculator) (c : Complaint) (f : α → EStateM Failure σ β)
    (g : α → EStateM Failure τ β),
    Together id R (liftM (k.complain c : Rule α) >>= f) (liftM (k.complain c : Rule α) >>= g)

variable {id : Nat} {R : σ → τ → Prop} (carries : Carries id R)

include carries

/-- A complaint keeps every relation that carries rules. -/
theorem Carries.complain {α : Type} (c : Complaint) :
    Together id R (liftM (k.complain c : Rule α) : EStateM Failure σ α)
      (liftM (k.complain c : Rule α) : EStateM Failure τ α) :=
  carries.steady (Rule.steady_complain c)

/-- A relation that carries rules is kept by all rules. -/
theorem Carries.abreast (hpure : k.PureFunctions) : Abreast k k (Together id R) where
  functions_eq := rfl
  pure := .pure
  bind := .bind
  rounds := carries.steady steady_rounds
  accept _ := carries.steady (Rule.steady_acceptTarget _)
  ident := carries.steady (Rule.steady_acceptTarget _)
  int := carries.steady (Rule.steady_acceptTarget _)
  expect _ := carries.steady (Rule.steady_expectTarget _ none)
  scannedText := carries.steady steady_scannedText
  scannedInt := carries.steady steady_scannedInt
  syntaxError := .bind (carries.steady steady_errorColumn) fun column =>
    carries.steady (steady_syntaxError column)
  value name := carries.steady (steady_variableValue name)
  apply known applicable := carries.steady (steady_apply hpure known applicable)
  complain_bind := carries.complain_bind k

end

/-! ## Counting -/

/-- A desk beside a scanner: so many primaries are open, and only the journals differ. -/
structure Counts (id : Nat) (n : Int) (d : Desk) (s : Scanner) : Prop where
  nesting_eq : d.nesting = n
  same : d.scanner.Same id s

/-- A rule is lifted to a desk by running it on the scanner there. -/
theorem lift_onDesk_apply {α : Type} (rule : Rule α) (d : Desk) :
    (liftM rule : Counted α) d = onDesk rule d := rfl

/-- Rules do not touch the counter. -/
theorem carries_counts (id : Nat) (n : Int) : Carries id (Counts id n) where
  steady := by
    intro α rule steady d s h
    have hrule := steady id d.scanner s h.same
    rw [lift_onDesk_apply, lift_apply, onDesk]
    generalize rule d.scanner = r, rule s = r' at hrule
    cases hrule with
    | ok post => exact .ok ⟨h.nesting_eq, post⟩
    | error post => exact .error ⟨post.1, h.nesting_eq, post.2⟩
  complain_bind := by
    intro α β k c f g d s h
    have same := h.same.noteMessage c
    rw [bind_apply, bind_apply, lift_onDesk_apply, lift_apply, onDesk, complain,
      Rule.complain_of_no_hook c h.same.hook_left, Rule.complain_of_no_hook c h.same.hook_right,
      same.errorOf_eq]
    exact .error ⟨congrArg some h.same.id_right, h.nesting_eq, same⟩

variable {id : Nat} {n : Int}

/-- One more primary is open within, and none is left open after. -/
theorem together_opened {x : Counted Int} {y : Rule Int} (h : Together id (Counts id (n + 1)) x y) :
    Together id (Counts id n) (opened x) y := by
  intro d s hd
  have hx := h { d with nesting := d.nesting + 1 } s ⟨by rw [hd.nesting_eq], hd.same⟩
  rw [opened]
  generalize x { d with nesting := d.nesting + 1 } = r, y s = r' at hx
  cases hx with
  | ok post => exact .ok ⟨by simp [post.nesting_eq], post.same⟩
  | error post => exact .error ⟨post.1, by simp [post.2.nesting_eq], post.2.same⟩

/-- Counting the open primaries and bounding the depth come to the same. -/
theorem together_countedWithin (hpure : k.PureFunctions) (id : Nat) {room : Nat}
    (hroom : (k.maxDepth - n).toNat = room) :
    Together id (Counts id n) (countedWithin k room) (k.primary room) := by
  induction room generalizing n with
  | zero => exact (carries_counts id n).complain _
  | succ room ih =>
    have hnested := together_opened
      (((carries_counts id (n + 1)).abreast hpure).primaryWith (ih (by omega)))
    intro d s h
    have hopen : ¬ k.maxDepth ≤ d.nesting := by
      rw [h.nesting_eq]
      omega
    simp only [countedWithin, countedWith, bind_apply, get_apply, if_neg hopen]
    exact hnested d s h

/-- Counting the open primaries and bounding the depth by what is left come to the same. -/
theorem together_countedPrimary (id : Nat) (n : Int) (hpure : k.PureFunctions) :
    Together id (Counts id n) k.countedPrimary (k.primary (k.maxDepth - n).toNat) := by
  intro d s h
  rw [countedPrimary, h.nesting_eq]
  exact together_countedWithin hpure id rfl d s h

/-! ## The rule for primaries

`countedWithin` is bounded by the room that there is. The counter keeps the same account, so the
bound is never met before the limit is. -/

/-- The same desk twice, with so many primaries open and no hook. -/
def Level (id : Nat) (n : Int) (d d' : Desk) : Prop :=
  d = d' ∧ d.nesting = n ∧ d.scanner.id = id ∧ d.scanner.hook = none

/-- So many primaries open on both desks: steady rules keep that. -/
theorem carries_level (id : Nat) (n : Int) : Carries id (Level id n) where
  steady := by
    rintro α rule steady d _ ⟨rfl, hn, hid, hook⟩
    have hrule := steady id d.scanner d.scanner ⟨rfl, hid, hid, hook, hook⟩
    rw [lift_onDesk_apply, onDesk]
    generalize rule d.scanner = r at hrule
    cases hrule with
    | ok post => exact .ok ⟨rfl, hn, post.id_left, post.hook_left⟩
    | error post => exact .error ⟨post.1, rfl, hn, post.2.id_left, post.2.hook_left⟩
  complain_bind := by
    rintro α β k c f g d _ ⟨rfl, hn, hid, hook⟩
    rw [bind_apply, bind_apply, lift_onDesk_apply, onDesk, complain,
      Rule.complain_of_no_hook c hook]
    exact .error ⟨congrArg some hid, rfl, hn, hid, hook⟩

/-- Primaries that are counted within a room do what counted ones do, if the room is what is
left. -/
theorem together_level (hpure : k.PureFunctions) (room : Nat)
    (hroom : (k.maxDepth - n).toNat = room) :
    Together id (Level id n) (countedWithin k room) k.countedPrimary := by
  rintro d _ ⟨rfl, hn, hid, hook⟩
  have hcounted := together_countedWithin hpure id hroom d d.scanner
    ⟨hn, rfl, hid, hid, hook, hook⟩
  rw [countedPrimary, hn, hroom]
  generalize countedWithin k room d = r, k.primary room d.scanner = r' at hcounted
  cases hcounted with
  | ok post => exact .ok ⟨rfl, post.nesting_eq, post.same.id_left, post.same.hook_left⟩
  | error post =>
    exact .error ⟨post.1, rfl, post.2.nesting_eq, post.2.same.id_left, post.2.same.hook_left⟩

/-- A primary is refused when as many are open as may be, and else it is opened and read by the same
rule for what is nested in it. -/
theorem countedPrimary_apply (hpure : k.PureFunctions) {d : Desk} (hook : d.scanner.hook = none) :
    k.countedPrimary d = countedWith k k.countedPrimary d := by
  by_cases hfull : k.maxDepth ≤ d.nesting
  · have hroom : (k.maxDepth - d.nesting).toNat = 0 := by omega
    simp only [countedPrimary, hroom, countedWithin, countedWith, bind_apply, get_apply,
      if_pos hfull]
  · obtain ⟨room, hroom⟩ : ∃ room, (k.maxDepth - d.nesting).toNat = room + 1 :=
      ⟨(k.maxDepth - d.nesting).toNat - 1, by omega⟩
    have hnested : primaryWith k (countedWithin k room) { d with nesting := d.nesting + 1 } =
        primaryWith k k.countedPrimary { d with nesting := d.nesting + 1 } := by
      have hlevel := (carries_level d.scanner.id (d.nesting + 1)).abreast hpure
      have htogether := hlevel.primaryWith (together_level hpure room (by omega))
        { d with nesting := d.nesting + 1 } _ ⟨rfl, rfl, rfl, hook⟩
      generalize primaryWith k (countedWithin k room) _ = r, primaryWith k k.countedPrimary _ = r'
        at htogether
      cases htogether with
      | ok post => rw [post.1]
      | error post => rw [post.2.1]
    have hwithin : k.countedPrimary d = countedWith k (countedWithin k room) d := by
      rw [countedPrimary, hroom]
      rfl
    rw [hwithin]
    simp only [countedWith, bind_apply, get_apply, if_neg hfull, opened, hnested]

/-! ## Lines -/

/-- The rules of a calculator that counts keep a counter that starts at zero. -/
theorem together_countedRule (hpure : k.PureFunctions) (entrance : Entrance) :
    Together id (Counts id 0) (k.countedRule entrance) (k.rule entrance) := by
  have hprimary : Together id (Counts id 0) k.countedPrimary (k.primary k.maxDepth.toNat) := by
    have hcounted := together_countedPrimary id 0 hpure
    rwa [Int.sub_zero] at hcounted
  have habreast := (carries_counts id 0).abreast hpure
  cases entrance with
  | term => exact habreast.term hprimary
  | factor => exact habreast.factor hprimary
  | primary => exact hprimary
  | expr =>
    have hreset : Together id (Counts id 0)
        (do modify fun d => { d with nesting := 0 }; term k k.countedPrimary)
        (term k (k.primary k.maxDepth.toNat)) :=
      fun d s h => habreast.term hprimary { d with nesting := 0 } s ⟨rfl, h.same⟩
    exact .bind hreset fun n => .bind
      ((carries_counts id 0).steady (Rule.steady_expectTarget _ _)) fun _ => .pure n

/-- Reading a line comes to the same with and without a counter, whatever was read before; and the
counter is at zero after it. -/
theorem lockstep_countedRead (hpure : k.PureFunctions) (id : Nat) (entrance : Entrance)
    (line : Line) :
    Lockstep (fun d s => d.nesting = 0 ∧ d.scanner.id = id ∧ s.id = id)
      (k.countedRead entrance line) (k.read entrance line) (fun _ => Counts id 0)
      fun e d s => e.IsOf id ∧ Counts id 0 d s := by
  refine Lockstep.bind (Q := fun _ => Counts id 0) (fun d s h => ?_) fun _ => ?_
  · exact .ok ⟨h.1, rfl, h.2.1, h.2.2, rfl, rfl⟩
  · refine Lockstep.bind (together_countedRule hpure entrance) fun n => ?_
    refine Lockstep.bind (Q := fun _ => Counts id 0) (fun d s h => ?_) fun _ => Together.pure n
    exact .ok ⟨h.nesting_eq, h.same.state_eq, h.same.id_left, h.same.id_right, rfl, rfl⟩

/-- A whole expression starts to count anew. -/
theorem countedRead_expr_apply (line : Line) (d : Desk) :
    k.countedRead .expr line d = k.countedRead .expr line { d with nesting := 0 } := rfl

end Calculator

end LineScan
