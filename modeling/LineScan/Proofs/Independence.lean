import LineScan.Proofs.Nesting
import LineScan.Proofs.Variables

/-!
# Lines do not influence each other

What a calculator keeps from one line to the next makes no difference to what it says about a line:
its scanner starts each line anew, and its counter of open primaries is at zero after every line,
however the line was read and however that ended. So a run over lines deals with each of them as a
new calculator would.

## Main statements

* `readAll_counts`: the counter is at zero after any lines.
* `Sweep.run_of_settles`: a sweep whose lines have outcomes of their own deals with each in turn.
* `lines_independent`: lines do not influence each other.
-/

namespace LineScan

/-! ## Sweeps over lines that have outcomes of their own -/

namespace Sweep

/-- The lines that have a value, with the value. -/
def values (outcome : Line → Except Failure Int) (lines : List Line) : List (Line × Int) :=
  lines.filterMap fun line =>
    match outcome line with
    | .ok n => some (line, n)
    | .error _ => none

/-- The errors of the lines that have one. -/
def complaints (outcome : Line → Except Failure Int) (lines : List Line) : List ScanError :=
  lines.filterMap fun line =>
    match outcome line with
    | .error (.scan e) => some e
    | _ => none

variable {σ : Type}

/-- What is called on for a line: what reads it, what is done with its value, and what is done with
its error. -/
structure Roles (σ : Type) where
  parse : Line → EStateM Failure σ Int
  use : Line → Int → EStateM Failure σ Unit
  handler : ScanError → EStateM Failure σ Unit

/-- The plan that hands values on and takes the errors of scanner 0. -/
def Roles.plan (roles : Roles σ) : Plan σ Int Int where
  owner := 0
  parse := roles.parse
  consume := handOn roles.use
  onError e := onState (roles.handler e)

/-- One line dealt with by its outcome: it is read once, and then its value is used once, or its
error is handled once. -/
def Roles.deal (roles : Roles σ) (outcome : Line → Except Failure Int) (s : σ) (line : Line) : σ :=
  let read := Result.state (roles.parse line s)
  match outcome line with
  | .ok n => Result.state (roles.use line n read)
  | .error (.scan e) => Result.state (roles.handler e read)
  | .error (.fault _) => read

/-- Lines dealt with one after the other. -/
def Roles.dealAll (roles : Roles σ) (outcome : Line → Except Failure Int) (lines : List Line)
    (s : σ) : σ :=
  lines.foldl (roles.deal outcome) s

/-- Every line comes to its own outcome, from any state that meets a condition, what is done with
values and errors returns, and the condition is kept. -/
structure Roles.Settles (roles : Roles σ) (Inv : σ → Prop) (outcome : Line → Except Failure Int) :
    Prop where
  parse_answer : ∀ line s, Inv s → Result.answer (roles.parse line s) = outcome line
  parse_state : ∀ line s, Inv s → Inv (Result.state (roles.parse line s))
  use : ∀ line n s, Inv s → ∃ s', roles.use line n s = .ok () s' ∧ Inv s'
  handler : ∀ e s, Inv s → ∃ s', roles.handler e s = .ok () s' ∧ Inv s'

variable {roles : Roles σ} {Inv : σ → Prop} {outcome : Line → Except Failure Int}

/-- A line is dealt with: it is read, its value is used and yielded, or its error is recorded and
handled. -/
theorem step_of_settles (settles : roles.Settles Inv outcome) {line : Line} {w : Sweep σ Int}
    (hw : Inv w.state)
    (own : ∀ e, outcome line = .error e → ∃ err, e = .scan err ∧ err.origin = some 0) :
    ∃ w', step roles.plan line w = .ok () w' ∧ Inv w'.state ∧
      w'.state = roles.deal outcome w.state line ∧
      w'.yielded.toList = w.yielded.toList ++ values outcome [line] ∧
      w'.errors.toList = w.errors.toList ++ complaints outcome [line] := by
  have hanswer := settles.parse_answer line w.state hw
  have hstate := settles.parse_state line w.state hw
  rw [step, Roles.deal]
  simp only [Roles.plan]
  cases hparse : roles.parse line w.state with
  | ok n s =>
    rw [hparse] at hanswer hstate
    obtain ⟨s', huse, hs'⟩ := settles.use line n s hstate
    simp only [handOn, onState, bind_apply, pure_apply, huse, ← hanswer]
    exact ⟨_, rfl, hs', by simp [huse], by simp [values, ← hanswer],
      by simp [complaints, ← hanswer]⟩
  | error e s =>
    rw [hparse] at hanswer hstate
    obtain ⟨err, rfl, horigin⟩ := own e hanswer.symm
    obtain ⟨s', hhandler, hs'⟩ := settles.handler err s hstate
    simp only [if_pos horigin, onState, hhandler, ← hanswer]
    exact ⟨_, rfl, hs', by simp [hhandler], by simp [values, ← hanswer],
      by simp [complaints, ← hanswer]⟩

/-- The values of lines are those of the first line and those of the rest. -/
theorem values_cons (line : Line) (rest : List Line) :
    values outcome (line :: rest) = values outcome [line] ++ values outcome rest :=
  List.filterMap_append (l := [line])

/-- The errors of lines are those of the first line and those of the rest. -/
theorem complaints_cons (line : Line) (rest : List Line) :
    complaints outcome (line :: rest) = complaints outcome [line] ++ complaints outcome rest :=
  List.filterMap_append (l := [line])

/-- All lines are dealt with in turn. -/
theorem run_of_settles (settles : roles.Settles Inv outcome) {lines : List Line} {w : Sweep σ Int}
    (hw : Inv w.state)
    (own : ∀ line ∈ lines, ∀ e, outcome line = .error e →
      ∃ err, e = .scan err ∧ err.origin = some 0) :
    ∃ w', run roles.plan lines w = .ok () w' ∧
      w'.state = roles.dealAll outcome lines w.state ∧
      w'.yielded.toList = w.yielded.toList ++ values outcome lines ∧
      w'.errors.toList = w.errors.toList ++ complaints outcome lines := by
  induction lines generalizing w with
  | nil => exact ⟨w, rfl, rfl, by simp [values], by simp [complaints]⟩
  | cons line rest ih =>
    obtain ⟨w₁, hstep, hw₁, hdealt, hyielded, herrors⟩ := step_of_settles settles hw
      (own line (List.mem_cons_self ..))
    obtain ⟨w₂, hrun, hdealt₂, hyielded₂, herrors₂⟩ := ih hw₁ fun other hother =>
      own other (List.mem_cons_of_mem line hother)
    refine ⟨w₂, ?_, ?_, ?_, ?_⟩
    · rw [run, bind_apply, hstep]
      exact hrun
    · rw [hdealt₂, hdealt, Roles.dealAll, Roles.dealAll, List.foldl_cons]
    · rw [hyielded₂, hyielded, List.append_assoc, ← values_cons]
    · rw [herrors₂, herrors, List.append_assoc, ← complaints_cons]

/-- A line that has no fault has a value or an error. -/
theorem length_values_add_complaints {lines : List Line}
    (own : ∀ line ∈ lines, ∀ f, outcome line ≠ .error (.fault f)) :
    (values outcome lines).length + (complaints outcome lines).length = lines.length := by
  induction lines with
  | nil => rfl
  | cons line rest ih =>
    have hrest := ih fun other hother => own other (List.mem_cons_of_mem line hother)
    have hline := own line (List.mem_cons_self ..)
    rw [values_cons, complaints_cons, List.length_append, List.length_append, List.length_cons]
    match h : outcome line with
    | .ok n =>
      simp only [values, complaints, List.filterMap_cons, h, List.filterMap_nil,
        List.length_singleton, List.length_nil] at hrest ⊢
      omega
    | .error (.scan e) =>
      simp only [values, complaints, List.filterMap_cons, h, List.filterMap_nil,
        List.length_singleton, List.length_nil] at hrest ⊢
      omega
    | .error (.fault f) => exact absurd h (hline f)

/-- A run deals with lines in turn: whatever lines come first, all of them have been dealt with by
their own outcomes before the run goes on with the others. Each of them has been read once, and then
its value has been used or its error has been handled, and nothing else has been done: that is the
state the run is in. -/
def DealsInTurn (outcome : Line → Except Failure Int) (roles : Roles σ)
    (run : List Line → EStateM Failure (Sweep σ Int) Unit) (s : σ) (lines : List Line) : Prop :=
  ∀ before after, lines = before ++ after →
    ∃ w, run before { state := s } = .ok () w ∧
      w.state = roles.dealAll outcome (before.map Text.chomp) s ∧
      w.yielded.toList = values outcome (before.map Text.chomp) ∧
      w.errors.toList = complaints outcome (before.map Text.chomp) ∧
      w.lineCount = before.length ∧
      run lines { state := s } = run after w

/-- A run over lines is a run over the first of them and then one over the others. -/
theorem run_append (plan : Plan σ Int Int) (before after : List Line) (w : Sweep σ Int) :
    run plan (before ++ after) w =
      match run plan before w with
      | .ok _ w' => run plan after w'
      | .error e w' => .error e w' := by
  induction before generalizing w with
  | nil => rfl
  | cons line rest ih =>
    simp only [List.cons_append, run, bind_apply]
    cases step plan line w with
    | ok _ w₁ => exact ih w₁
    | error e w₁ => rfl

/-- Lines that come to their own outcomes are dealt with in turn. -/
theorem dealsInTurn_of_settles (settles : roles.Settles Inv outcome) {s : σ} (hs : Inv s)
    {lines : List Line}
    (own : ∀ line ∈ lines, ∀ e, outcome (Text.chomp line) = .error e →
      ∃ err, e = .scan err ∧ err.origin = some 0) :
    DealsInTurn outcome roles (fun lines => run roles.plan (lines.map Text.chomp)) s lines := by
  rintro before after rfl
  have own' : ∀ line ∈ before.map Text.chomp, ∀ e, outcome line = .error e →
      ∃ err, e = .scan err ∧ err.origin = some 0 := by
    intro line hline
    obtain ⟨whole, hwhole, rfl⟩ := List.mem_map.mp hline
    exact own whole (List.mem_append_left after hwhole)
  obtain ⟨w, hrun, hdealt, hyielded, herrors⟩ :=
    run_of_settles (w := { state := s }) settles hs own'
  have hcount := length_values_add_complaints fun line hline f hf => by
    obtain ⟨err, herr, -⟩ := own' line hline _ hf
    cases herr
  refine ⟨w, hrun, hdealt, by simpa using hyielded, by simpa using herrors, ?_, ?_⟩
  · rw [lineCount, ← Array.length_toList, ← Array.length_toList, hyielded, herrors]
    simpa using hcount
  · simp only [List.map_append, run_append, hrun]

end Sweep

/-! ## The calculator -/

namespace Calculator

variable {k : Calculator}

/-- However lines are read and whatever becomes of them, no primary is left open. -/
theorem readAll_counts (hpure : k.PureFunctions) (history : List (Entrance × Line)) {d : Desk}
    (hd : d.nesting = 0) :
    (k.readAll history d).nesting = 0 ∧ (k.readAll history d).scanner.id = d.scanner.id := by
  induction history generalizing d with
  | nil => exact ⟨hd, rfl⟩
  | cons first rest ih =>
    obtain ⟨entrance, line⟩ := first
    have hcounts := (lockstep_countedRead hpure d.scanner.id entrance line d d.scanner
      ⟨hd, rfl, rfl⟩).state fun _ _ _ h => h.2
    obtain ⟨hnesting, hid⟩ := ih hcounts.nesting_eq
    exact ⟨hnesting, hid.trans hcounts.same.id_left⟩

/-- Evaluating a line comes to the same on any desk and on any scanner of one number. -/
theorem inStep_evaluate (hpure : k.PureFunctions) (line : Line) {id : Nat} {d : Desk} {s : Scanner}
    (hd : d.scanner.id = id) (hs : s.id = id) :
    InStep (fun _ => Counts id 0) (fun e d s => e.IsOf id ∧ Counts id 0 d s)
      (k.countedRead .expr line d) (k.evaluate line s) := by
  rw [countedRead_expr_apply]
  exact lockstep_countedRead hpure id .expr line _ _ ⟨rfl, hd, hs⟩

/-- An outcome of a line by itself is a value, a fault, or an error of the calculator's scanner. -/
theorem alone_isOf (hpure : k.PureFunctions) {line : Line} {e : Failure}
    (h : k.alone line = .error e) : e.IsOf 0 := by
  have hstep := inStep_evaluate hpure line (d := {}) (s := {}) rfl rfl
  rw [alone] at h
  generalize k.countedRead .expr line {} = r, k.evaluate line {} = r' at hstep h
  cases hstep with
  | ok post => cases h
  | error post =>
    cases h
    exact post.1

/-- A computation returns, and what it works on keeps the number of its scanner. -/
def Returns {σ : Type} (idOf : σ → Nat) (x : EStateM Failure σ Unit) : Prop :=
  ∀ s, ∃ s', x s = .ok () s' ∧ idOf s' = idOf s

/-- What is called on for the lines of a calculator on a desk. -/
def countedRoles (k : Calculator) (use : Line → Int → Counted Unit)
    (handler : ScanError → Counted Unit) : Sweep.Roles Desk where
  parse := k.countedRead .expr
  use := use
  handler := handler

/-- What is called on for the lines of a calculator. -/
def roles (k : Calculator) (use : Line → Int → Rule Unit) (handler : ScanError → Rule Unit) :
    Sweep.Roles Scanner where
  parse := k.evaluate
  use := use
  handler := handler

/-- Lines are dealt with one by one if each comes to its own outcome, and what is done with values
and errors returns. -/
theorem settles_of_returns {σ : Type} (idOf : σ → Nat) {roles : Sweep.Roles σ}
    {outcome : Line → Except Failure Int}
    (answer : ∀ line s, idOf s = 0 → Result.answer (roles.parse line s) = outcome line)
    (state : ∀ line s, idOf s = 0 → idOf (Result.state (roles.parse line s)) = 0)
    (uses : ∀ line n, Returns idOf (roles.use line n))
    (handles : ∀ e, Returns idOf (roles.handler e)) :
    roles.Settles (fun s => idOf s = 0) outcome where
  parse_answer := answer
  parse_state := state
  use line n s hs := by
    obtain ⟨s', huse, hid⟩ := uses line n s
    exact ⟨s', huse, hid.trans hs⟩
  handler e s hs := by
    obtain ⟨s', hhandler, hid⟩ := handles e s
    exact ⟨s', hhandler, hid.trans hs⟩

/-- A line evaluates as it does by itself, whatever the scanner has done before. -/
theorem answer_evaluate (hpure : k.PureFunctions) (line : Line) {s : Scanner} (hs : s.id = 0) :
    Result.answer (k.evaluate line s) = k.alone line := by
  have hfresh := inStep_evaluate hpure line (d := {}) (s := {}) rfl rfl
  exact (inStep_evaluate hpure line (d := {}) rfl hs).answer_eq.symm.trans hfresh.answer_eq

/-- A line whose variables can be read has a value, or an error of the calculator's scanner. -/
theorem alone_own (total : k.TotalFunctions) {line : Line}
    (readable : ∀ name, k.Uses line name → ¬ k.Unreadable name) {e : Failure}
    (h : k.alone line = .error e) : ∃ err, e = .scan err ∧ err.origin = some 0 := by
  cases e with
  | scan err => exact ⟨err, rfl, alone_isOf total.pure h⟩
  | fault f => exact absurd h (Grammar.not_fault_of_uses total readable f)

section

variable {lines : List Line} (total : k.TotalFunctions)
  (readable : ∀ line ∈ lines, ∀ name, k.Uses (Text.chomp line) name → ¬ k.Unreadable name)

include total readable

/-- A run on a desk deals with each line in turn, whatever the desk has been used for. -/
theorem dealsInTurn_countedRun {desk : Desk} (hid : desk.scanner.id = 0)
    {use : Line → Int → Counted Unit} {handler : ScanError → Counted Unit}
    (uses : ∀ line n, Returns (fun d => d.scanner.id) (use line n))
    (handles : ∀ e, Returns (fun d => d.scanner.id) (handler e)) :
    Sweep.DealsInTurn k.alone (k.countedRoles use handler) (k.countedRun use handler) desk
      lines := by
  have hcounted := fun line (d : Desk) (hd : d.scanner.id = 0) =>
    inStep_evaluate total.pure line (s := {}) hd rfl
  have settles : (k.countedRoles use handler).Settles (fun d : Desk => d.scanner.id = 0) k.alone :=
    settles_of_returns (fun d : Desk => d.scanner.id) ?_ ?_ uses handles
  · exact Sweep.dealsInTurn_of_settles settles hid
      fun line hline _ => alone_own total (readable line hline)
  · exact fun line d hd => (hcounted line d hd).answer_eq
  · exact fun line d hd => ((hcounted line d hd).state fun _ _ _ h => h.2).same.id_left

/-- A run on a scanner deals with each line in turn. -/
theorem dealsInTurn_run {s : Scanner} (hid : s.id = 0) {use : Line → Int → Rule Unit}
    {handler : ScanError → Rule Unit} (uses : ∀ line n, Returns Scanner.id (use line n))
    (handles : ∀ e, Returns Scanner.id (handler e)) :
    Sweep.DealsInTurn k.alone (k.roles use handler)
      (fun lines => Sweep.run (k.plan (Sweep.handOn use) fun e => Sweep.onState (handler e))
        (lines.map Text.chomp)) s lines := by
  have settles : (k.roles use handler).Settles (fun s => s.id = 0) k.alone :=
    settles_of_returns Scanner.id ?_ ?_ uses handles
  · exact Sweep.dealsInTurn_of_settles settles hid
      fun line hline _ => alone_own total (readable line hline)
  · exact fun line s hs => answer_evaluate total.pure line hs
  · exact fun line s hs =>
      ((inStep_evaluate total.pure line (d := {}) rfl hs).state fun _ _ _ h => h.2).same.id_right

end

/-- **Lines do not influence each other.** After any lines, read by any rules and with any outcomes,
no primary is open, and a line evaluates as it does on a new calculator, and leaves the same state.
So a run deals with each line once, in turn, and as a new calculator would, if its variables can be
read and what is done with values and errors returns: it reads the line, and hands its value to the
use, or its error to the handler, and does nothing else. -/
theorem lines_independent (hpure : k.PureFunctions) (history : List (Entrance × Line)) :
    let desk := k.readAll history {}
    desk.nesting = 0 ∧
    (∀ line,
      let again := k.countedRead .expr line desk
      let fresh := k.countedRead .expr line {}
      Result.answer again = Result.answer fresh ∧
        (Result.state again).scanner.state = (Result.state fresh).scanner.state ∧
        (Result.state again).scanner.hook = (Result.state fresh).scanner.hook ∧
        Result.answer fresh = k.alone line ∧
        (Result.state fresh).scanner.state = (Result.state (k.evaluate line {})).state) ∧
    (k.TotalFunctions → ∀ lines : List Line,
      (∀ line ∈ lines, ∀ name, k.Uses (Text.chomp line) name → ¬ k.Unreadable name) →
      (∀ (use : Line → Int → Counted Unit) (handler : ScanError → Counted Unit),
        (∀ line n, Returns (fun d => d.scanner.id) (use line n)) →
        (∀ e, Returns (fun d => d.scanner.id) (handler e)) →
        Sweep.DealsInTurn k.alone (k.countedRoles use handler) (k.countedRun use handler) desk
          lines) ∧
      (∀ (use : Line → Int → Rule Unit) (handler : ScanError → Rule Unit),
        (∀ line n, Returns Scanner.id (use line n)) → (∀ e, Returns Scanner.id (handler e)) →
        ∃ w, k.run (Sweep.handOn use) (fun e => Sweep.onState (handler e)) lines = .ok () w ∧
          w.state = (k.roles use handler).dealAll k.alone (lines.map Text.chomp) {} ∧
          w.yielded.toList = Sweep.values k.alone (lines.map Text.chomp) ∧
          w.errors.toList = Sweep.complaints k.alone (lines.map Text.chomp))) := by
  intro desk
  obtain ⟨hnesting, hid⟩ := readAll_counts hpure history (d := {}) rfl
  refine ⟨hnesting, fun line => ?_, fun total lines readable => ⟨?_, ?_⟩⟩
  · have hagain := inStep_evaluate hpure line (d := desk) (s := {}) hid rfl
    have hfresh := inStep_evaluate hpure line (d := {}) (s := {}) rfl rfl
    have same := (hagain.state fun _ _ _ h => h.2).same
    have same' := (hfresh.state fun _ _ _ h => h.2).same
    exact ⟨hagain.answer_eq.trans hfresh.answer_eq.symm, same.state_eq.trans same'.state_eq.symm,
      same.hook_left.trans same'.hook_left.symm, hfresh.answer_eq, same'.state_eq⟩
  · exact fun use handler => dealsInTurn_countedRun total readable hid
  · intro use handler uses handles
    obtain ⟨w, hrun, hdealt, hyielded, herrors, -⟩ :=
      dealsInTurn_run total readable (s := {}) rfl uses handles lines []
        (List.append_nil lines).symm
    exact ⟨w, hrun, hdealt, hyielded, herrors⟩

/-- A text of too many digits. -/
def longText : String := String.ofList (List.replicate 5000 '1')

/-- A calculator with one variable that can be read and one that cannot. -/
def twoVariables : Calculator where
  env := [("x", "7"), ("long", longText)]
  functions := []

/-- The calculator with two variables has no functions. -/
theorem twoVariables_total : twoVariables.TotalFunctions :=
  totalFunctions_of_entries (by simp [twoVariables])

/-- The lines of a run, one with a value and one with an error. -/
def twoLines : List Line := ["x+1\n".toList, "(2".toList]

/-- None of the lines uses the variable that cannot be read. -/
theorem twoLines_readable : ∀ line ∈ twoLines, ∀ name,
    twoVariables.Uses (Text.chomp line) name → ¬ twoVariables.Unreadable name := by
  rintro line hline name uses ⟨text, hget, hlong⟩
  by_cases hname : name = "long"
  · subst hname
    rw [Grammar.uses_iff twoVariables_total.pure] at uses
    simp only [twoLines, List.mem_cons, List.not_mem_nil, or_false] at hline
    obtain rfl | rfl := hline
    · exact absurd uses nofun
    · exact absurd uses nofun
  · have htext : text = "7" := by
      simp only [twoVariables, Bindings.get?, List.lookup_cons, List.lookup_nil,
        beq_eq_false_iff_ne.mpr hname] at hget
      split at hget
      · cases hget
        rfl
      · cases hget
    rw [htext] at hlong
    exact absurd hlong (by decide)

/-- Writes down a value. -/
def writeDown (_line : Line) (n : Int) : Counted Unit := onDesk (Rule.enter (.result (toString n)))

/-- Writes down that there was an error. -/
def writeError (_e : ScanError) : Counted Unit := onDesk (Rule.enter .handled)

/-- After lines that were broken off with primaries open, a run writes down the value of one line
and then the error of the other, after it has read the one and then the other. -/
theorem lines_independent_twoLines :
    let history : List (Entrance × Line) := [(.term, "((1+".toList), (.primary, "-$".toList)]
    let desk := twoVariables.readAll history {}
    let firstRead := Result.state (twoVariables.countedRead .expr "x+1".toList desk)
    let firstUsed := Result.state (writeDown "x+1".toList 8 firstRead)
    let secondRead := Result.state (twoVariables.countedRead .expr "(2".toList firstUsed)
    desk.nesting = 0 ∧
      ∃ w e, twoVariables.countedRun writeDown writeError twoLines { state := desk } = .ok () w ∧
        w.state = Result.state (writeError e secondRead) ∧
        w.yielded.toList = [("x+1".toList, 8)] ∧ w.errors.toList = [e] ∧ w.lineCount = 2 := by
  intro history desk firstRead firstUsed secondRead
  have hall := lines_independent twoVariables_total.pure history
  obtain ⟨w, hrun, hdealt, hyielded, herrors, hcount, -⟩ :=
    (hall.2.2 twoVariables_total twoLines twoLines_readable).1 writeDown writeError
      (fun _ _ d => ⟨_, rfl, rfl⟩) (fun _ d => ⟨_, rfl, rfl⟩) twoLines []
      (List.append_nil twoLines).symm
  obtain ⟨s, hfirst⟩ := Grammar.exists_evaluate_of_lineValue twoVariables_total.pure
    (show Grammar.lineValue twoVariables "x+1".toList = .ok 8 from rfl) {}
  obtain ⟨e, s', hsecond, -⟩ := Grammar.exists_error_of_lineValue twoVariables_total.pure
    (show Grammar.lineValue twoVariables "(2".toList = .error (.complaint _) from rfl) {}
  have hvalue : twoVariables.alone "x+1".toList = .ok 8 := by rw [alone, hfirst, Result.answer]
  have herror : twoVariables.alone "(2".toList = .error (.scan e) := by
    rw [alone, hsecond, Result.answer]
  have hlines : twoLines.map Text.chomp = ["x+1".toList, "(2".toList] := rfl
  refine ⟨hall.1, w, e, hrun, ?_, ?_, ?_, hcount⟩
  · rw [hdealt, hlines, Sweep.Roles.dealAll, List.foldl_cons, List.foldl_cons, List.foldl_nil]
    simp only [Sweep.Roles.deal, countedRoles, hvalue, herror, firstRead, firstUsed, secondRead,
      desk]
  · rw [hyielded, hlines, Sweep.values]
    simp only [List.filterMap_cons, hvalue, herror, List.filterMap_nil]
  · rw [herrors, hlines, Sweep.complaints]
    simp only [List.filterMap_cons, hvalue, herror, List.filterMap_nil]

end Calculator

end LineScan
