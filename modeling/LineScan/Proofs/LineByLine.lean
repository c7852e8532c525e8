import LineScan.CommandLine.Program
import LineScan.Proofs.AtWork

/-!
# A run, line by line

A run of the program deals with one line after the other. What becomes of a line depends on what
came before it only by the random numbers that have been drawn, so it can be told for each line by
itself (`Calculator.outcomes`). A line leads to one entry in the journal, a result or a report, and
whatever else is entered is an aside. The run ends early at a line that asks for more than it can
do, or at an error if it is to stop there.

## Main statements

* `step_apply`: what a run does with one line.
* `run_apply`: what it does with all of them.
* `run_stopping`: a run that stops at an error does what one does that never saw the lines after it.
-/

namespace LineScan

open Calculator

/-! ## Cutting a list -/

/-- The list up to the first member with a property, that member included. -/
def cutAfter {α : Type} (p : α → Bool) : List α → List α
  | [] => []
  | a :: rest => if p a then [a] else a :: cutAfter p rest

section

variable {α : Type} {p q : α → Bool} {l : List α}

/-- The first member is never cut off. -/
theorem mem_cutAfter_cons (p : α → Bool) (a : α) (rest : List α) :
    a ∈ cutAfter p (a :: rest) := by
  rw [cutAfter]
  split <;> exact List.mem_cons_self ..

/-- Where a list is cut depends only on the members up to there. -/
theorem cutAfter_congr (h : ∀ a ∈ cutAfter q l, p a = q a) : cutAfter p l = cutAfter q l := by
  induction l with
  | nil => rfl
  | cons a rest ih =>
    have hfirst := h a (mem_cutAfter_cons ..)
    rw [cutAfter, cutAfter, hfirst]
    cases hq : q a with
    | true => rfl
    | false =>
      rw [cutAfter, hq] at h
      rw [if_neg Bool.false_ne_true, if_neg Bool.false_ne_true]
      exact congrArg _ (ih fun b hb => h b (List.mem_cons_of_mem a hb))

/-- Nothing is added when a list is cut. -/
theorem cutAfter_subset : cutAfter p l ⊆ l := by
  induction l with
  | nil => exact List.Subset.refl []
  | cons a rest ih =>
    rw [cutAfter]
    split
    · exact List.cons_subset_cons a (List.nil_subset rest)
    · exact List.cons_subset_cons a ih

/-- A list is left whole if no member up to its cut has the property. -/
theorem cutAfter_eq_self (h : ∀ a ∈ cutAfter p l, p a = false) : cutAfter p l = l := by
  induction l with
  | nil => rfl
  | cons a rest ih =>
    have hfirst := h a (mem_cutAfter_cons ..)
    rw [cutAfter, hfirst, if_neg Bool.false_ne_true] at h ⊢
    exact congrArg _ (ih fun b hb => h b (List.mem_cons_of_mem a hb))

/-- The member at which a list is cut stays. -/
theorem mem_cutAfter_of_find? {a : α} (h : l.find? p = some a) : a ∈ cutAfter p l := by
  induction l with
  | nil => cases h
  | cons b rest ih =>
    rw [List.find?_cons] at h
    cases hp : p b with
    | true =>
      rw [hp] at h
      obtain rfl := Option.some.inj h
      exact mem_cutAfter_cons ..
    | false =>
      rw [hp] at h
      rw [cutAfter, hp, if_neg Bool.false_ne_true]
      exact List.mem_cons_of_mem b (ih h)

/-- Only the last member of a list that has been cut has the property. -/
theorem find?_of_mem_cutAfter {a : α} (h : a ∈ cutAfter p l) (hp : p a = true) :
    l.find? p = some a := by
  induction l with
  | nil => cases h
  | cons b rest ih =>
    rw [cutAfter] at h
    rw [List.find?_cons]
    cases hb : p b with
    | true =>
      rw [hb, if_pos rfl] at h
      rw [List.mem_singleton.mp h]
    | false =>
      rw [hb, if_neg Bool.false_ne_true] at h
      rcases List.mem_cons.mp h with rfl | h
      · rw [hp] at hb
        cases hb
      · exact ih h

end

/-! ## A line by itself -/

/-- Enter something in the journal. -/
def Scanner.enter (s : Scanner) (e : Entry) : Scanner := { s with toBench := s.toBench.enter e }

namespace Calculator

/-- What becomes of each line by itself, on a scanner that has done nothing but draw the random
numbers of the lines before. -/
def outcomes (k : Calculator) : (draws : Nat) → List Line → List (Except Failure Int)
  | _, [] => []
  | draws, line :: rest =>
    let result := k.evaluate (Text.chomp line) (.drawn 0 draws)
    Result.answer result :: k.outcomes (Result.state result).journal.draws rest

end Calculator

namespace CommandLine

/-! ## What becomes of a line -/

/-- The line fails: it has an error. -/
def fails : Except Failure Int → Bool
  | .error (.scan _) => true
  | _ => false

/-- The line asks for more than a run can do: for a variable that is too long to be read, for a
random number where there is none, or for a value that is too long to be written. -/
def exceeds : Except Failure Int → Bool
  | .ok n => decide (Decimal.tenTo Decimal.digitLimit ≤ n.natAbs)
  | .error (.fault (.oversize _)) => true
  | .error (.fault (.emptyRange _)) => true
  | .error (.fault .zeroModulus) => true
  | _ => false

/-- The line ends the run. -/
def ends (options : Options) (outcome : Except Failure Int) : Bool :=
  exceeds outcome || (options.stopOnError && fails outcome)

/-- How a run ends at a line that ends it. -/
def ending : Except Failure Int → Failure
  | .ok _ => .fault (.oversize .writing)
  | .error (.scan _) => .fault .stopped
  | .error (.fault f) => .fault f

/-- How an error is reported, given the number of its line. -/
def reportText (options : Options) (number : Nat) (e : ScanError) : String :=
  if options.context then e.context options.inputName number else e.message

/-- How a value is written. -/
def valueText (n : Int) : String := s!" = {String.ofList (Decimal.intText n)}"

/-- What is entered for a line, given its number. -/
def lineEntry (options : Options) (number : Nat) (outcome : Except Failure Int) :
    Option LineScan.Entry :=
  if exceeds outcome then none
  else match outcome with
    | .ok n => some (.result (valueText n))
    | .error (.scan e) => some (.report (reportText options number e))
    | .error (.fault _) => none

/-- A line with a value ends a run only if the value is too long to be written. -/
theorem ends_ok (options : Options) (n : Int) : ends options (.ok n) = exceeds (.ok n) := by
  rw [ends, show fails (.ok n) = false from rfl, Bool.and_false, Bool.or_false]

/-- A line with an error ends a run if it is to stop there. -/
theorem ends_scan (options : Options) (e : ScanError) :
    ends options (.error (.scan e)) = options.stopOnError := by
  rw [ends, show fails (.error (.scan e)) = true from rfl, Bool.and_true]
  rfl

/-- A line that asks for too much leads to no entry. -/
theorem lineEntry_of_exceeds {options : Options} {number : Nat} {outcome : Except Failure Int}
    (h : exceeds outcome = true) : lineEntry options number outcome = none := by
  unfold lineEntry
  rw [if_pos h]

/-- A line with a value that can be written leads to a result. -/
theorem lineEntry_ok {options : Options} {number : Nat} {n : Int} (h : exceeds (.ok n) = false) :
    lineEntry options number (.ok n) = some (.result (valueText n)) := by
  unfold lineEntry
  rw [h, if_neg Bool.false_ne_true]

/-- A line with an error leads to a report. -/
theorem lineEntry_scan (options : Options) (number : Nat) (e : ScanError) :
    lineEntry options number (.error (.scan e)) = some (.report (reportText options number e)) :=
  rfl

/-- A line with a fault leads to no entry. -/
theorem lineEntry_fault (options : Options) (number : Nat) (f : Fault) :
    lineEntry options number (.error (.fault f)) = none := by
  unfold lineEntry
  split <;> rfl

/-! ## One line -/

/-- The plan of a run. -/
abbrev planOf (world : World) (options : Options) : Sweep.Plan Scanner Int Unit :=
  (calculator world options).plan (fun _ n => writeValue n) (report options options.inputName)

/-- A run after one more line, given what evaluating the line came to. -/
def afterLine (options : Options) (line : Line) (w : Sweep Scanner Unit) :
    EStateM.Result Failure Scanner Int → Sweep Scanner Unit
  | .ok n s =>
    if exceeds (.ok n) then { w with state := s }
    else { w with state := s.enter (.result (valueText n)), yielded := w.yielded.push (line, ()) }
  | .error (.scan e) s =>
    { w with
      state := s.enter (.report (reportText options (w.lineCount + 1) e))
      errors := w.errors.push e }
  | .error (.fault _) s => { w with state := s }

/-- A run that has dealt with one more line. -/
def dealtWith (world : World) (options : Options) (line : Line) (w : Sweep Scanner Unit) :
    Sweep Scanner Unit :=
  afterLine options line w ((calculator world options).evaluate line w.state)

variable {world : World} {options : Options}

/-- A value is written unless it is too long. -/
theorem write_eq (n : Int) :
    Decimal.write n =
      if exceeds (.ok n) then .error .writing else .ok (String.ofList (Decimal.intText n)) := by
  rw [Decimal.write, exceeds]
  generalize Decimal.tenTo Decimal.digitLimit = bound
  by_cases h : n.natAbs < bound
  · rw [if_pos h, if_neg (by simpa using h)]
  · rw [if_neg h, if_pos (by simpa using h)]

/-- Writing a value leaves the state as it is. -/
theorem valueText_apply {σ : Type} (n : Int) (s : σ) :
    (Calculator.valueText n : EStateM Failure σ String) s =
      match Decimal.write n with
      | .ok text => .ok text s
      | .error cause => .error (.fault (.oversize cause)) s := by
  unfold Calculator.valueText
  cases Decimal.write n <;> rfl

/-- A value that can be written is entered as a result, and any other ends the run. -/
theorem writeValue_apply (n : Int) (w : Sweep Scanner Unit) :
    writeValue n w =
      if exceeds (.ok n) then .error (.fault (.oversize .writing)) w
      else .ok () { w with state := w.state.enter (.result (valueText n)) } := by
  simp only [writeValue, bind_apply]
  rw [valueText_apply, write_eq]
  cases exceeds (.ok n) <;> rfl

/-- An error is entered as a report, and then the run stops if it is to stop there. -/
theorem report_apply (e : ScanError) (w : Sweep Scanner Unit) :
    report options options.inputName e w =
      let reported :=
        { w with state := w.state.enter (.report (reportText options w.lineCount e)) }
      if options.stopOnError then .error (.fault .stopped) reported else .ok () reported := by
  simp only [report, bind_apply, get_apply, Sweep.onState, Rule.enter, modify_apply]
  split <;> rfl

/-- What is entered besides is no line of the run. -/
def IsLine : LineScan.Entry → Bool
  | .result _ => true
  | .report _ => true
  | _ => false

/-- The only fault of the functions there are by default is that no random number can be drawn. -/
theorem draw_of_defaultFunctions_fault {source : RandomSource} {maxInt : Int} {name : String}
    {function : Builtin} {args : List Int} {s s' : Scanner} {f : Fault}
    (known : (defaultFunctions maxInt).get? name = some function)
    (applicable : Applicable name args)
    (happly : function.apply source args s = .error (.fault f) s') :
    ∃ index, source.draw index maxInt = .error f := by
  have hmem : (name, function) ∈ defaultFunctions maxInt := by
    obtain ⟨before, after, hsplit, -⟩ := List.lookup_eq_some_iff.mp known
    rw [show defaultFunctions maxInt = _ from hsplit]
    exact List.mem_append_right before (List.mem_cons_self ..)
  have hdraw : ∀ s : Scanner, drawRandom source maxInt s = .error (.fault f) s' →
      ∃ index, source.draw index maxInt = .error f := by
    intro s h
    simp only [drawRandom, bind_apply, get_apply, modify_apply] at h
    cases hdraw : source.draw s.journal.draws maxInt with
    | ok n =>
      rw [hdraw] at h
      cases h
    | error g =>
      rw [hdraw] at h
      cases h
      exact ⟨_, hdraw⟩
  simp only [defaultFunctions, List.mem_cons, Prod.mk.injEq, List.not_mem_nil, or_false] at hmem
  rcases hmem with ⟨rfl, rfl⟩ | ⟨rfl, rfl⟩ | ⟨rfl, rfl⟩
  -- the least and the greatest are never asked of no numbers
  · cases args with
    | nil => exact absurd rfl (applicable rfl)
    | cons n others => cases happly
  · cases args with
    | nil => exact absurd rfl (applicable rfl)
    | cons n others => cases happly
  · cases args with
    | nil => exact hdraw s happly
    | cons n others => exact hdraw _ happly

/-- The faults of a run are those of reading a variable and of drawing a random number. -/
theorem calculator_admits {admitted : Fault → Prop} (hreading : ∀ cause, admitted (.oversize cause))
    (hdrawing : ∀ index f, world.source.draw index options.maxInt = .error f → admitted f) :
    (calculator world options).Admits admitted where
  reading := fun _ _ => hreading _
  applying := by
    intro name function args s s' f known applicable happly
    obtain ⟨index, hdraw⟩ := draw_of_defaultFunctions_fault known applicable happly
    exact hdrawing index f hdraw

/-- The fault is that a line asks for more than a run can do. -/
def IsBeyond (f : Fault) : Prop := exceeds (.error (.fault f)) = true

/-- All faults of a program's calculator are those of a line that asks for too much. -/
theorem calculator_admits_isBeyond (world : World) (options : Options) :
    (calculator world options).Admits IsBeyond := by
  refine calculator_admits (fun cause => rfl) fun index f hdraw => ?_
  unfold RandomSource.draw at hdraw
  split at hdraw <;> split at hdraw <;> cases hdraw <;> rfl

/-- How a run stands after one more line, given what became of the line and how many random numbers
had been drawn by then. -/
structure Dealt (options : Options) (outcome : Except Failure Int) (draws : Nat)
    (w w' : Sweep Scanner Unit) : Prop where
  id_eq : w'.state.id = 0
  draws_eq : w'.state.journal.draws = draws
  errors_size : w'.errors.size = w.errors.size + if fails outcome then 1 else 0
  lineCount : exceeds outcome = false → w'.lineCount = w.lineCount + 1
  entries : ∃ asides : Array LineScan.Entry, (∀ e ∈ asides, e.IsAside options.debug) ∧
    w'.state.journal.entries = w.state.journal.entries ++
      (asides ++ (lineEntry options (w.lineCount + 1) outcome).toArray)

/-- A run deals with one more line, and then ends or goes on. -/
theorem step_apply (world : World) (options : Options) (line : Line) {w : Sweep Scanner Unit}
    (hid : w.state.id = 0) :
    let result := (calculator world options).evaluate line (.drawn 0 w.state.journal.draws)
    Sweep.step (planOf world options) line w =
        (if ends options (Result.answer result) then
          .error (ending (Result.answer result)) (dealtWith world options line w)
        else .ok () (dealtWith world options line w)) ∧
      Dealt options (Result.answer result) (Result.state result).journal.draws w
        (dealtWith world options line w) := by
  have hbehind :=
    Calculator.evaluate_behind (calculator_admits_isBeyond world options) line w.state
  rw [hid] at hbehind
  simp only [Sweep.step, planOf, Calculator.plan, dealtWith]
  generalize (calculator world options).evaluate line w.state = r,
    (calculator world options).evaluate line (.drawn 0 w.state.journal.draws) = r' at hbehind ⊢
  -- the line has a value, an error of the scanner, or a fault: the three ways in which a step goes
  -- on
  match r, r', hbehind with
  | _, _, .ok (a := n) (t := t) post =>
    obtain ⟨rfl, hwork⟩ := post
    simp only [writeValue_apply, afterLine, Result.answer, Result.state, ends_ok]
    cases hexceeds : exceeds (.ok n) with
    | true =>
      simp only [if_true]
      refine ⟨rfl, hwork.id_eq, rfl, rfl, fun h => ?_, t.journal.entries, hwork.asides, ?_⟩
      · rw [hexceeds] at h
        cases h
      · rw [lineEntry_of_exceeds hexceeds]
        exact congrArg (w.state.journal.entries ++ ·) Array.append_empty.symm
    | false =>
      simp only [Bool.false_eq_true, if_false]
      refine ⟨trivial, hwork.id_eq, rfl, rfl, fun _ => ?_, t.journal.entries, hwork.asides, ?_⟩
      · simp only [Sweep.lineCount, Array.size_push]
        omega
      · rw [lineEntry_ok hexceeds]
        exact (Array.append_push ..).symm
  | _, _, .error (e := .scan e) (t := t) post =>
    obtain ⟨⟨rfl, hwork⟩, hpoints⟩ := post
    have hcount : w.yielded.size + (w.errors.push e).size = w.lineCount + 1 := by
      rw [Array.size_push, Sweep.lineCount, Nat.add_assoc]
    simp only [if_pos hpoints.origin_eq, report_apply, afterLine, Result.answer, Result.state,
      ends_scan, Sweep.lineCount, hcount]
    refine ⟨rfl, hwork.id_eq, rfl, Array.size_push .., fun _ => hcount, t.journal.entries,
      hwork.asides, ?_⟩
    rw [lineEntry_scan]
    exact (Array.append_push ..).symm
  | _, _, .error (e := .fault f) (t := t) post =>
    obtain ⟨⟨rfl, hwork⟩, hbeyond⟩ := post
    have hexceeds : exceeds (.error (.fault f)) = true := hbeyond
    simp only [afterLine, Result.answer, Result.state, ends, hexceeds, Bool.true_or, if_true]
    refine ⟨rfl, hwork.id_eq, rfl, rfl, fun h => ?_, t.journal.entries, hwork.asides, ?_⟩
    · rw [hexceeds] at h
      cases h
    · rw [lineEntry_fault]
      exact congrArg (w.state.journal.entries ++ ·) Array.append_empty.symm

/-! ## All lines -/

/-- What is entered for some lines, given how many came before. -/
def lineEntries (options : Options) (before : Nat) (outcomes : List (Except Failure Int)) :
    List LineScan.Entry :=
  (outcomes.zipIdx (before + 1)).filterMap fun line => lineEntry options line.2 line.1

/-- How a run stands after some more lines, given what became of them. -/
structure Ran (options : Options) (outcomes : List (Except Failure Int))
    (w w' : Sweep Scanner Unit) : Prop where
  errors_size : w'.errors.size = w.errors.size + outcomes.countP fails
  entries : ∃ added : Array LineScan.Entry,
    w'.state.journal.entries = w.state.journal.entries ++ added ∧
    added.toList.filter IsLine = lineEntries options w.lineCount outcomes ∧
    ∀ e ∈ added, IsLine e = false → e.IsAside options.debug

/-- An aside is no entry of a line. -/
theorem isLine_of_isAside {tracing : Bool} {e : LineScan.Entry} (h : e.IsAside tracing) :
    IsLine e = false := by
  cases e <;> first | rfl | cases h

/-- What a line leads to is an entry of a line. -/
theorem isLine_of_lineEntry {number : Nat} {outcome : Except Failure Int} {e : LineScan.Entry}
    (h : lineEntry options number outcome = some e) : IsLine e = true := by
  cases outcome with
  | ok n =>
    cases hexceeds : exceeds (.ok n) with
    | true =>
      rw [lineEntry_of_exceeds hexceeds] at h
      cases h
    | false =>
      rw [lineEntry_ok hexceeds] at h
      cases h
      rfl
  | error failure =>
    cases failure with
    | scan error =>
      rw [lineEntry_scan] at h
      cases h
      rfl
    | fault f =>
      rw [lineEntry_fault] at h
      cases h

/-- The entries of the first line come first, under its number. -/
theorem lineEntries_cons (before : Nat) (outcome : Except Failure Int)
    (rest : List (Except Failure Int)) :
    lineEntries options before (outcome :: rest) =
      (lineEntry options (before + 1) outcome).toList ++ lineEntries options (before + 1) rest := by
  rw [lineEntries, List.zipIdx_cons, List.filterMap_cons]
  dsimp only
  cases lineEntry options (before + 1) outcome <;> rfl

/-- A run over no lines changes nothing. -/
theorem Ran.nil (options : Options) (w : Sweep Scanner Unit) : Ran options [] w w where
  errors_size := rfl
  entries := ⟨#[], Array.append_empty.symm, rfl, nofun⟩

/-- One line and then some more, unless the one line asked for too much. -/
theorem Ran.cons {outcome : Except Failure Int} {draws : Nat} {rest : List (Except Failure Int)}
    {w w₁ w₂ : Sweep Scanner Unit} (first : Dealt options outcome draws w w₁)
    (hnext : rest ≠ [] → exceeds outcome = false) (next : Ran options rest w₁ w₂) :
    Ran options (outcome :: rest) w w₂ where
  errors_size := by
    rw [next.errors_size, first.errors_size, List.countP_cons]
    omega
  entries := by
    obtain ⟨asides, hasides, hfirst⟩ := first.entries
    obtain ⟨added, hadded, hlines, hother⟩ := next.entries
    -- of the entries of the first line, all but one are asides
    have hquiet : asides.toList.filter IsLine = [] := by
      refine List.filter_eq_nil_iff.mpr fun e he => ?_
      rw [isLine_of_isAside (hasides e (Array.mem_toList_iff.mp he))]
      exact Bool.false_ne_true
    have hown : (lineEntry options (w.lineCount + 1) outcome).toList.filter IsLine =
        (lineEntry options (w.lineCount + 1) outcome).toList := by
      refine List.filter_eq_self.mpr fun e he => ?_
      exact isLine_of_lineEntry (Option.mem_toList.mp he)
    have hrest : lineEntries options w₁.lineCount rest =
        lineEntries options (w.lineCount + 1) rest := by
      by_cases hnil : rest = []
      · rw [hnil]
        rfl
      · rw [first.lineCount (hnext hnil)]
    refine ⟨(asides ++ (lineEntry options (w.lineCount + 1) outcome).toArray) ++ added, ?_, ?_, ?_⟩
    · rw [hadded, hfirst, Array.append_assoc]
    · rw [lineEntries_cons, ← hrest, ← hlines, ← hown]
      simp [hquiet]
    · intro e he hline
      rcases Array.mem_append.mp he with he | he
      · rcases Array.mem_append.mp he with he | he
        · exact hasides e he
        · have hentry : lineEntry options (w.lineCount + 1) outcome = some e := by simpa using he
          rw [isLine_of_lineEntry hentry] at hline
          cases hline
      · exact hother e he hline

/-- A run deals with its lines in turn, up to one that ends it. -/
theorem run_apply (world : World) (options : Options) (lines : List Line) {w : Sweep Scanner Unit}
    (hid : w.state.id = 0) :
    let outcomes := (calculator world options).outcomes w.state.journal.draws lines
    ∃ w', Sweep.run (planOf world options) (lines.map Text.chomp) w =
        (match outcomes.find? (ends options) with
          | none => .ok () w'
          | some outcome => .error (ending outcome) w') ∧
      Ran options (cutAfter (ends options) outcomes) w w' := by
  induction lines generalizing w with
  | nil => exact ⟨w, rfl, .nil options w⟩
  | cons line rest ih =>
    obtain ⟨hstep, hdealt⟩ := step_apply world options (Text.chomp line) hid
    simp only [List.map_cons, Sweep.run, bind_apply, hstep, outcomes, List.find?_cons, cutAfter]
    cases hends : ends options (Result.answer ((calculator world options).evaluate
        (Text.chomp line) (.drawn 0 w.state.journal.draws))) with
    | true => exact ⟨_, rfl, .cons hdealt (fun h => absurd rfl h) (.nil options _)⟩
    | false =>
      obtain ⟨w', hrun, hran⟩ := ih hdealt.id_eq
      rw [hdealt.draws_eq] at hrun hran
      refine ⟨w', hrun, .cons hdealt (fun _ => ?_) hran⟩
      rw [ends, Bool.or_eq_false_iff] at hends
      exact hends.1

/-- A line that ends the run and does not ask for too much has an error. -/
theorem ending_of_not_exceeds {outcome : Except Failure Int} (hends : ends options outcome = true)
    (h : exceeds outcome = false) : ending outcome = .fault .stopped := by
  rw [ends, h, Bool.false_or, Bool.and_eq_true] at hends
  match outcome, hends.2 with
  | .error (.scan e), _ => rfl

/-- A run that does not stop at errors goes on after a line that does not ask for too much. -/
theorem step_goingOn (line : Line) {w : Sweep Scanner Unit} (hid : w.state.id = 0)
    (h : exceeds (Result.answer ((calculator world options).evaluate line
      (.drawn 0 w.state.journal.draws))) = false) :
    Sweep.step (planOf world { options with stopOnError := false }) line w =
      .ok () (dealtWith world options line w) := by
  have happly := (step_apply world { options with stopOnError := false } line hid).1
  refine happly.trans (if_neg ?_)
  rw [ends, Bool.false_and, Bool.or_false]
  exact ne_true_of_eq_false h

/-- A run that stops at an error leaves behind what a run leaves behind that does not stop, and is
only given the lines up to the error. -/
theorem run_stopping (world : World) (options : Options) (lines : List Line)
    {w : Sweep Scanner Unit} (hid : w.state.id = 0) :
    let outcomes := (calculator world options).outcomes w.state.journal.draws lines
    let dealt := cutAfter (ends options) outcomes
    (∀ outcome ∈ dealt, exceeds outcome = false) →
    ∃ w', Sweep.run (planOf world options) (lines.map Text.chomp) w =
        (match outcomes.find? (ends options) with
          | none => .ok () w'
          | some _ => .error (.fault .stopped) w') ∧
      Sweep.run (planOf world { options with stopOnError := false })
        ((lines.take dealt.length).map Text.chomp) w = .ok () w' := by
  induction lines generalizing w with
  | nil => exact fun _ => ⟨w, rfl, rfl⟩
  | cons line rest ih =>
    intro outcomes dealt hwithin
    have hfirst := hwithin _ (mem_cutAfter_cons ..)
    obtain ⟨hstep, hdealt⟩ := step_apply world options (Text.chomp line) hid
    have hgoesOn := step_goingOn (Text.chomp line) hid hfirst
    simp only [outcomes, dealt, Calculator.outcomes, cutAfter, List.map_cons, Sweep.run, bind_apply,
      hstep, List.find?_cons] at hwithin ⊢
    -- either the run stops at this line, and the rest is cut off, or it goes on in the same way
    cases hends : ends options (Result.answer ((calculator world options).evaluate
        (Text.chomp line) (.drawn 0 w.state.journal.draws))) with
    | true =>
      refine ⟨dealtWith world options (Text.chomp line) w, ?_, ?_⟩
      · simp only [if_true, ending_of_not_exceeds hends hfirst]
      · simp only [if_true, List.length_singleton, List.take_succ_cons, List.take_zero,
          List.map_cons, List.map_nil, Sweep.run, bind_apply, hgoesOn, pure_apply]
    | false =>
      obtain ⟨w', hrun, hcut⟩ := ih hdealt.id_eq (by
        rw [hdealt.draws_eq]
        rw [hends] at hwithin
        exact fun outcome houtcome => hwithin outcome (List.mem_cons_of_mem _ houtcome))
      rw [hdealt.draws_eq] at hrun hcut
      refine ⟨w', hrun, ?_⟩
      simp only [Bool.false_eq_true, if_false, List.length_cons, List.take_succ_cons, List.map_cons,
        Sweep.run, bind_apply, hgoesOn]
      exact hcut

end CommandLine

end LineScan
