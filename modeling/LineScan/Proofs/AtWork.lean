import LineScan.Proofs.Conservation
import LineScan.Proofs.Lockstep
import LineScan.Proofs.Parts
import LineScan.Proofs.Terminals

/-!
# A calculator at work

While the calculator reads a line, its cursor and the place of the last failure are places that it
has come to: everything before them is ASCII or a division sign, because nothing else is ever read.
What it enters in the journal are asides, and it does not look at what is there already. So it does
the same behind any journal, and an error that it raises points to a place that it has come to.

## Main statements

* `regular_parts`: every rule of the calculator is regular in this sense.
* `evaluate_behind`: a line is evaluated in the same way behind any journal.
-/

namespace LineScan

open Calculator Grammar

/-! ## Places that can be reached -/

/-- The character is ASCII, or a division sign. -/
def Text.IsPlain (c : Char) : Prop := c.toNat < 128 ∨ c = '÷'

namespace Text

variable {c : Char}

/-- Blanks are ASCII. -/
theorem isPlain_of_isBlank (h : isBlank c = true) : IsPlain c := by
  simp only [isBlank, Bool.or_eq_true, Bool.and_eq_true, beq_iff_eq, decide_eq_true_eq] at h
  rcases h with rfl | h
  · exact .inl (by decide)
  · exact .inl (by omega)

/-- Digits are ASCII. -/
theorem isPlain_of_isDigit (h : isDigit c = true) : IsPlain c := by
  simp only [isDigit, Char.isDigit, Bool.and_eq_true, decide_eq_true_eq] at h
  have hle : c.toNat ≤ 57 := h.2
  exact .inl (by omega)

/-- Letters are ASCII. -/
theorem isPlain_of_isLetter (h : isLetter c = true) : IsPlain c := by
  rcases Bool.or_eq_true_iff.mp h with h | h
  · have hle : c.toNat ≤ 90 := (of_decide_eq_true h).2
    exact .inl (by omega)
  · have hle : c.toNat ≤ 122 := of_decide_eq_true (Bool.and_eq_true_iff.mp h).2
    exact .inl (by omega)

/-- Characters of names are ASCII. -/
theorem isPlain_of_isIdentChar (h : isIdentChar c = true) : IsPlain c := by
  simp only [isIdentChar, Bool.or_eq_true, beq_iff_eq] at h
  rcases h with (h | h) | rfl
  · exact isPlain_of_isLetter h
  · exact isPlain_of_isDigit h
  · exact .inl (by decide)

end Text

namespace Line

/-- Everything before a text that ends the line is plain. -/
def Clear (line text : Line) : Prop :=
  ∃ before, line = before ++ text ∧ ∀ c ∈ before, Text.IsPlain c

/-- The place is on the line, and everything before it is plain. -/
def Reached (line : Line) (place : Int) : Prop := ∃ text, line.Clear text ∧ place = line.place text

variable {line text : Line}

/-- What is still to be read ends the line. -/
theorem Clear.suffix (h : line.Clear text) : text <:+ line := by
  obtain ⟨before, rfl, -⟩ := h
  exact List.suffix_append before text

/-- The front of what is still to be read is a place that is reached. -/
theorem Clear.reached (h : line.Clear text) : line.Reached (line.place text) := ⟨text, h, rfl⟩

/-- Some plain characters further on everything is plain still. -/
theorem Clear.append (more : Line) (h : line.Clear (more ++ text))
    (hmore : ∀ c ∈ more, Text.IsPlain c) : line.Clear text := by
  obtain ⟨before, rfl, hbefore⟩ := h
  refine ⟨before ++ more, (List.append_assoc ..).symm, fun c hc => ?_⟩
  rcases List.mem_append.mp hc with hc | hc
  · exact hbefore c hc
  · exact hmore c hc

/-- Blanks may be passed. -/
theorem Clear.ahead (h : line.Clear text) : line.Clear text.ahead := by
  obtain ⟨gap, hgap, hblank⟩ := exists_blanks text
  refine Clear.append gap ?_ fun c hc => Text.isPlain_of_isBlank (hblank c hc)
  rwa [← hgap]

/-- Every place within a run of plain characters can be reached, and so can its end. -/
theorem Clear.reached_of_run (h : line.Clear text) {p : Char → Bool}
    (hplain : ∀ c, p c = true → Text.IsPlain c) {place : Int} (hstart : line.place text ≤ place)
    (hstop : place ≤ line.place text + (text.takeWhile p).length) : line.Reached place := by
  obtain ⟨n, rfl⟩ : ∃ n : Nat, place = line.place text + n :=
    ⟨(place - line.place text).toNat, by omega⟩
  have hfront : text.take n = (text.takeWhile p).take n := by
    have hsplit : (text.takeWhile p ++ text.dropWhile p).take n = (text.takeWhile p).take n :=
      List.take_append_of_le_length (by omega)
    rwa [List.takeWhile_append_dropWhile] at hsplit
  refine ⟨text.drop n, Clear.append (text.take n) ?_ fun c hc => hplain c ?_, ?_⟩
  · rwa [List.take_append_drop]
  · rw [hfront] at hc
    exact List.all_eq_true.mp List.all_takeWhile c (List.mem_of_mem_take hc)
  · have hlength := (List.takeWhile_prefix (l := text) p).length_le
    rw [Line.place, Line.place, List.length_drop]
    omega

/-- A place that can be reached can be written. -/
theorem Reached.writes {place : Int} (h : line.Reached place) : line.Writes place := by
  obtain ⟨text, hclear, rfl⟩ := h
  exact writes_place hclear.suffix

/-- So can its column. -/
theorem Reached.writes_column {column : Int} (h : line.Reached (column - 1)) :
    line.Writes column := by
  obtain ⟨text, hclear, hplace⟩ := h
  rw [show column = line.place text + 1 by omega]
  exact Line.writes_column hclear.suffix

/-- The start of a line is reached. -/
theorem reached_start (line : Line) : line.Reached 0 := by
  refine ⟨line, ⟨[], rfl, nofun⟩, ?_⟩
  rw [place, Int.sub_self]

end Line

/-! ## Attempts -/

/-- The state is on a line, at places that can be reached. -/
structure ScanState.OnLine (line : Line) (state : ScanState) : Prop where
  line_eq : state.line = line
  cursor_reached : line.Reached state.cursor
  fail_reached : ∀ place, state.failPosition = some place → line.Reached place

namespace ScanState.OnLine

variable {line : Line} {state : ScanState}

/-- At its start, a state is on the line. -/
theorem start (line : Line) : (ScanState.start line).OnLine line :=
  ⟨rfl, line.reached_start, nofun⟩

/-- The column of the last failure is that of a place that can be reached. -/
theorem errorColumn_reached (h : state.OnLine line) : line.Reached (state.errorColumn - 1) := by
  rw [errorColumn, Int.add_sub_cancel]
  cases hfail : state.failPosition with
  | none => exact h.cursor_reached
  | some place => exact h.fail_reached place hfail

/-- The cursor can be written. -/
theorem writes_cursor (h : state.OnLine line) (setting : Setting) :
    setting.Writes state.line state.cursor := by
  rw [h.line_eq]
  exact h.cursor_reached.writes.inTrace setting

/-- The column of the last failure can be written. -/
theorem writes_errorColumn (h : state.OnLine line) : state.line.Writes state.errorColumn := by
  rw [h.line_eq]
  exact h.errorColumn_reached.writes_column

/-- Where an attempt ended that stayed on the line can be written. -/
theorem writes_place {target : Target} {m : Match} (h : (state.settle target m).OnLine line)
    (setting : Setting) : setting.Writes state.line m.place := by
  refine Line.Writes.inTrace ?_ setting
  cases m with
  | hit stop value =>
    have hline : state.line = line := h.line_eq
    rw [hline]
    exact h.cursor_reached.writes
  | miss place =>
    have hline : state.line = line := h.line_eq
    rw [hline]
    exact (h.fail_reached place rfl).writes

/-- The state stands before a text, and everything before the text is plain. -/
theorem stands (h : state.OnLine line) :
    ∃ text, line.Clear text ∧ Stands line text { state := state } := by
  obtain ⟨text, hclear, hplace⟩ := h.cursor_reached
  exact ⟨text, hclear, h.line_eq, hplace, hclear.suffix, rfl⟩

end ScanState.OnLine

/-- An attempt at the target stays on the line, whether it matches or misses. It may give up because
of a number that is too large. -/
def Target.StaysOnLine (target : Target) : Prop :=
  ∀ (line : Line) (state : ScanState), state.OnLine line →
    (∃ m after, Scan.dispatch target state = .ok m after ∧ (after.settle target m).OnLine line) ∨
      ∃ after, Scan.dispatch target state = .error (.complaint .overflow) after ∧ after.OnLine line

section

variable {line : Line} {state : ScanState} {target : Target}

/-- An attempt at a plain character that is no blank stays on the line. -/
theorem staysOnLine_char {c : Char} (hblank : Text.isBlank c = false) (hplain : Text.IsPlain c) :
    (Target.char c).StaysOnLine := by
  intro line state h
  obtain ⟨text, hclear, hs⟩ := h.stands
  refine .inl ⟨_, _, hs.dispatch_char hblank, ?_⟩
  by_cases hnext : text.ahead.headD Line.nul = c
  · rw [if_pos hnext]
    refine ⟨h.line_eq, ?_, h.fail_reached⟩
    by_cases hnul : c = Line.nul
    · rw [if_pos hnul]
      exact hclear.ahead.reached
    · rw [if_neg hnul]
      cases ha : text.ahead with
      | nil => exact absurd (by rw [← hnext, ha]; rfl) hnul
      | cons d rest =>
        obtain rfl : d = c := by rwa [ha] at hnext
        have hahead := hclear.ahead
        rw [ha] at hahead
        rw [Line.place_cons]
        refine (Line.Clear.append [d] hahead fun e he => ?_).reached
        rwa [List.mem_singleton.mp he]
  · rw [if_neg hnext]
    refine ⟨h.line_eq, h.cursor_reached, fun place hplace => ?_⟩
    obtain rfl := Option.some.inj hplace
    exact hclear.ahead.reached

/-- So does an attempt at a punctuation character that is given as a literal. -/
theorem staysOnLine_literal {c : Char} (hblank : Text.isBlank c = false) (hplain : Text.IsPlain c)
    (hnul : c ≠ Line.nul) (hletter : Text.isLetter c = false) (hdigit : Text.isDigit c = false) :
    (Target.literal [c]).StaysOnLine := by
  intro line state h
  obtain ⟨text, -, hs⟩ := h.stands
  rw [hs.dispatch_literal hblank hnul hletter hdigit]
  refine (staysOnLine_char hblank hplain line state h).imp ?_ id
  rintro ⟨m, after, hdispatch, honLine⟩
  refine ⟨m, after, hdispatch, ?_⟩
  cases m <;> exact ⟨honLine.line_eq, honLine.cursor_reached, honLine.fail_reached⟩

/-- How the function of a terminal may end that starts before a text. -/
inductive Scanned (line text : Line) (state : ScanState) :
    EStateM.Result Abort ScanState Reading → Prop where
  | hit {stop : Int} {value : Datum} (h : line.Reached stop) :
      Scanned line text state (.ok (.hit stop value) state)
  | miss : Scanned line text state (.ok (.miss (some (line.place text))) state)
  | overflow {place : Int} (h : line.Reached place) :
      Scanned line text state (.error (.complaint .overflow)
        { state with failPosition := some place })

/-- An attempt at a terminal stays on the line if its function does. -/
theorem staysOnLine_terminal {t : Terminal}
    (h : ∀ line text state, line.Clear text → state.line = line →
      Scanned line text state (t.scan (line.place text) state)) :
    (Target.terminal t).StaysOnLine := by
  intro line state honLine
  obtain ⟨text, hclear, hs⟩ := honLine.stands
  have hcleared : (state.cleared (line.place text.ahead)).line = line := honLine.line_eq
  have hscan := h line text.ahead _ hclear.ahead hcleared
  have hdispatch := hs.dispatch_terminal t
  generalize t.scan (line.place text.ahead) _ = result at hscan hdispatch
  cases hscan with
  | hit hstop => exact .inl ⟨_, _, hdispatch, honLine.line_eq, hstop, nofun⟩
  | miss =>
    refine .inl ⟨_, _, hdispatch, honLine.line_eq, honLine.cursor_reached, fun place hplace => ?_⟩
    obtain rfl := Option.some.inj hplace
    exact hclear.ahead.reached
  | overflow hplace =>
    refine .inr ⟨_, hdispatch, honLine.line_eq, honLine.cursor_reached, fun place hfail => ?_⟩
    obtain rfl := Option.some.inj hfail
    exact hplace

/-- The end of a run of plain characters can be reached. -/
theorem Line.Clear.reached_runAt {text : Line} (h : line.Clear text) {p : Char → Bool}
    (hplain : ∀ c, p c = true → Text.IsPlain c) :
    line.Reached (line.place text + (line.runAt p (line.place text)).length) := by
  rw [Line.runAt_place h.suffix]
  exact h.reached_of_run hplain (by omega) (by omega)

/-- An attempt at a name stays on the line. -/
theorem staysOnLine_ident : (Target.terminal identTerminal).StaysOnLine := by
  refine staysOnLine_terminal fun line text state hclear hline => ?_
  simp only [identTerminal, scanIdent, bind_apply, get_apply, cond_apply, hline, pure_apply]
  split
  · exact .hit (hclear.reached_runAt fun c => Text.isPlain_of_isIdentChar)
  · exact .miss

/-- An attempt at an integer stays on the line, whatever its bound. -/
theorem staysOnLine_int (maxInt : Int) : (Target.terminal (intTerminal maxInt)).StaysOnLine := by
  refine staysOnLine_terminal fun line text state hclear hline => ?_
  have hhit := hclear.reached_runAt fun c => Text.isPlain_of_isDigit
  have hplace : ∀ place, line.place text ≤ place →
      place ≤ line.place text + (line.runAt Text.isDigit (line.place text)).length →
      line.Reached place := by
    rw [Line.runAt_place hclear.suffix]
    exact fun place => hclear.reached_of_run fun c => Text.isPlain_of_isDigit
  simp only [intTerminal, scanInt, bind_apply, get_apply, hline]
  cases hrun : line.runAt Text.isDigit (line.place text) with
  | nil => exact .miss
  | cons d others =>
    rw [hrun] at hhit hplace
    simp only
    cases hvalue : boundedValue (maxInt.fdiv 10) (maxInt.fmod 10) (d :: others) 0
        (line.place text) with
    | ok value => exact .hit hhit
    | error place =>
      obtain ⟨hstart, hstop⟩ := boundedValue_error hvalue
      exact .overflow (hplace place hstart hstop)

/-- An attempt at the end of the line stays on the line. -/
theorem staysOnLine_end : (Target.terminal endTerminal).StaysOnLine := by
  refine staysOnLine_terminal fun line text state hclear hline => ?_
  simp only [endTerminal, scanEnd, bind_apply, get_apply, hline, pure_apply]
  split
  · exact .hit hclear.reached
  · exact .miss

/-- Whatever the rules look for, they stay on the line. -/
theorem Calculator.Sought.staysOnLine {k : Calculator} (h : Sought k target) :
    target.StaysOnLine := by
  cases h with
  | mark hmark =>
    have hmarks : marks.all (fun c => !Text.isBlank c && c.toNat < 128) = true := by decide
    obtain ⟨hblank, hplain⟩ := Bool.and_eq_true_iff.mp (List.all_eq_true.mp hmarks _ hmark)
    exact staysOnLine_char (by simpa using hblank) (.inl (of_decide_eq_true hplain))
  | obelus => exact staysOnLine_literal rfl (.inr rfl) (by decide) rfl rfl
  | endOfLine => exact staysOnLine_char rfl (.inl (by decide))
  | int => exact staysOnLine_int k.maxInt
  | last => exact staysOnLine_end

end

/-! ## Behind a journal -/

/-- An entry that is neither a result nor a report: what is said of arguments that are ignored, and
what is traced. -/
def Entry.IsAside (tracing : Bool) : Entry → Prop
  | .notice text => text = randomNotice
  | .attempt .. => tracing = true
  | .outcome _ => tracing = true
  | _ => False

namespace Journal

/-- The journal, with more entries before it. -/
def behind (j : Journal) (before : Array Entry) : Journal :=
  { j with entries := before ++ j.entries }

/-- An entry is made at the end, so it does not matter what came before. -/
theorem behind_push (j : Journal) (before : Array Entry) (e : Entry) :
    (j.behind before).push e = (j.push e).behind before := by
  simp only [behind, push, Array.append_push]

/-- What is traced is entered at the end as well. -/
theorem behind_noted (j : Journal) (before : Array Entry) (setting : Setting) (e : Entry) :
    (j.behind before).noted setting e = (j.noted setting e).behind before := by
  unfold noted
  split
  · exact behind_push j before e
  · rfl

/-- There are only asides in the journal. -/
def OnlyAsides (tracing : Bool) (j : Journal) : Prop := ∀ e ∈ j.entries, e.IsAside tracing

variable {j : Journal}

/-- An aside more leaves only asides. -/
theorem OnlyAsides.push {tracing : Bool} (h : j.OnlyAsides tracing) {e : Entry}
    (he : e.IsAside tracing) : (j.push e).OnlyAsides tracing := by
  intro e' he'
  rcases Array.mem_push.mp he' with hold | rfl
  · exact h e' hold
  · exact he

/-- What is traced is an aside, and nothing is entered without a trace. -/
theorem OnlyAsides.noted (setting : Setting) (h : j.OnlyAsides setting.tracing) {e : Entry}
    (he : setting.tracing = true → e.IsAside setting.tracing) :
    (j.noted setting e).OnlyAsides setting.tracing := by
  unfold Journal.noted
  split
  · next htracing => exact h.push (he htracing)
  · exact h

end Journal

/-- The scanner, with more entries before its journal. -/
def Scanner.behind (s : Scanner) (before : Array Entry) : Scanner :=
  { s with journal := s.journal.behind before }

/-- The scanner works on a line, at places that can be reached, without a hook, and has entered only
asides in its journal. -/
structure Scanner.AtWork (k : Calculator) (line : Line) (id : Nat) (s : Scanner) : Prop where
  onLine : s.state.OnLine line
  asides : s.journal.OnlyAsides k.tracing
  id_eq : s.id = id
  hook_eq : s.hook = none

/-! ## Failures -/

/-- The complaint names the column, if it names one. -/
def Complaint.Names (c : Complaint) (column : Int) : Prop :=
  c.Unplaced ∨ c = .syntaxError column ∨ ∃ label, c = .expected label column

/-- The error is one of the scanner and about the line, and points to a place that can be
reached. -/
structure ScanError.PointsInto (line : Line) (id : Nat) (e : ScanError) : Prop where
  origin_eq : e.origin = some id
  line_eq : e.line = line
  reached : line.Reached (e.position - 1)
  names : e.complaint.Names e.position

/-- The failure is an error that points into the line, or an admitted fault. -/
def Failure.InOrder (line : Line) (id : Nat) (admitted : Fault → Prop) : Failure → Prop
  | .scan e => e.PointsInto line id
  | .fault f => admitted f

/-- The faults of the calculator are admitted. -/
structure Calculator.Admits (k : Calculator) (admitted : Fault → Prop) : Prop where
  reading : ∀ {name text : String} {cause : Decimal.Oversize}, k.env.get? name = some text →
    Decimal.leadingInteger text.toList = .error cause → admitted (.oversize cause)
  applying : ∀ {name : String} {function : Builtin} {args : List Int} {s s' : Scanner} {f : Fault},
    k.functions.get? name = some function → Applicable name args →
    function.apply k.source args s = .error (.fault f) s' → admitted f

/-! ## Regular rules -/

section

variable (k : Calculator) (line : Line) (id : Nat) (admitted : Fault → Prop)

/-- A scanner at work, and the same scanner behind other entries. -/
structure Twin (before : Array Entry) (s t : Scanner) : Prop where
  eq_behind : s = t.behind before
  atWork : t.AtWork k line id

/-- How a regular rule fails. -/
def FailsRegularly (before : Array Entry) (e : Failure) (s t : Scanner) : Prop :=
  Twin k line id before s t ∧ e.InOrder line id admitted

/-- A rule is regular: it does the same behind any journal, stays at work, and its failures are in
order. -/
def Rule.Regular {α : Type} (rule : Rule α) : Prop :=
  ∀ before, Lockstep (Twin k line id before) rule rule (fun _ => Twin k line id before)
    (FailsRegularly k line id admitted before)

end

section

variable {k : Calculator} {line : Line} {id : Nat} {admitted : Fault → Prop}
  {before : Array Entry} {s t : Scanner}

/-- Twins have the same scan state: they differ in their journals alone. -/
theorem Twin.state_eq (h : Twin k line id before s t) : s.state = t.state := by
  rw [h.eq_behind]
  rfl

/-- A twin stands before a text that ends the line. -/
theorem Twin.stands (h : Twin k line id before s t) :
    ∃ text, line.Clear text ∧ Stands line text t := by
  obtain ⟨text, hclear, hs⟩ := h.atWork.onLine.stands
  exact ⟨text, hclear, hs.line_eq, hs.cursor_eq, hs.suffix, h.atWork.hook_eq⟩

/-- A complaint at the current column fails twins alike, with an error that points into the line. -/
theorem Twin.complain {α : Type} (h : Twin k line id before s t) {c : Complaint}
    (hnames : c.Names t.state.errorColumn) :
    InStep (α := α) (fun _ => Twin k line id before) (FailsRegularly k line id admitted before)
      (k.complain c s) (k.complain c t) := by
  obtain ⟨rfl, hwork⟩ := h
  rw [Calculator.complain, Rule.complain_of_no_hook c hwork.hook_eq,
    Rule.complain_of_no_hook (s := t.behind before) c hwork.hook_eq]
  refine .error ⟨⟨rfl, ?_, hwork.asides, hwork.id_eq, hwork.hook_eq⟩, ?_⟩
  · exact ⟨hwork.onLine.line_eq, hwork.onLine.cursor_reached, hwork.onLine.fail_reached⟩
  · exact ⟨congrArg some hwork.id_eq, hwork.onLine.line_eq, hwork.onLine.errorColumn_reached,
      hnames⟩

/-- A complaint about the column of the last failure is raised. -/
theorem Twin.complainAt {α : Type} (h : Twin k line id before s t) {c : Complaint}
    (hnames : c.Names t.state.errorColumn) :
    InStep (α := α) (fun _ => Twin k line id before) (FailsRegularly k line id admitted before)
      (k.complainAt t.state.errorColumn c s) (k.complainAt t.state.errorColumn c t) := by
  have hwrites := h.atWork.onLine.writes_errorColumn
  have hwrites' : s.state.line.Writes t.state.errorColumn := h.state_eq ▸ hwrites
  rw [Calculator.complainAt, Rule.complainAt_of_writes c hwrites,
    Rule.complainAt_of_writes c hwrites']
  exact h.complain hnames

/-- An attempt at a target that stays on the line does the same behind any journal. -/
theorem Twin.accept {target : Target} (h : Twin k line id before s t)
    (hstays : target.StaysOnLine) :
    InStep (fun _ => Twin k line id before) (FailsRegularly k line id admitted before)
      (Rule.acceptTarget k.setting target s) (Rule.acceptTarget k.setting target t) := by
  obtain ⟨rfl, hwork⟩ := h
  have hcursor := hwork.onLine.writes_cursor k.setting
  rw [Rule.acceptTarget, Rule.onBench_apply (s := t.behind before) hwork.hook_eq,
    Rule.onBench_apply hwork.hook_eq]
  have hnoted : (t.journal.noted k.setting (.attempt target t.state.line t.state.cursor)).OnlyAsides
      k.tracing := hwork.asides.noted k.setting fun h => h
  obtain ⟨m, after, hdispatch, honLine⟩ | ⟨after, hdispatch, honLine⟩ :=
    hstays line t.state hwork.onLine
  · rw [Bench.attempt_of_ok hcursor hdispatch (honLine.writes_place k.setting),
      Bench.attempt_of_ok (b := (t.behind before).toBench) hcursor hdispatch
        (honLine.writes_place k.setting)]
    simp only [Scanner.behind, Journal.behind_noted, Scanner.conclude]
    refine .ok ⟨rfl, honLine, ?_, hwork.id_eq, hwork.hook_eq⟩
    exact hnoted.noted k.setting fun h => h
  · rw [Bench.attempt_of_error hcursor hdispatch,
      Bench.attempt_of_error (b := (t.behind before).toBench) hcursor hdispatch]
    simp only [Scanner.behind, Journal.behind_noted, Scanner.conclude]
    refine .error ⟨⟨rfl, ?_, hnoted, hwork.id_eq, hwork.hook_eq⟩, ?_⟩
    · exact ⟨honLine.line_eq, honLine.cursor_reached, honLine.fail_reached⟩
    · exact ⟨congrArg some hwork.id_eq, honLine.line_eq, honLine.errorColumn_reached,
        .inl .overflow⟩

/-- A name that the scanner has found is an identifier. -/
theorem Twin.accept_ident (h : Twin k line id before s t) :
    InStep (fun found s t => Twin k line id before s t ∧
        (found = true → ∃ name : Identifier, t.state.value = .text name.text))
      (FailsRegularly k line id admitted before)
      (Rule.acceptTarget k.setting (.terminal identTerminal) s)
      (Rule.acceptTarget k.setting (.terminal identTerminal) t) := by
  have haccept : InStep _ (FailsRegularly k line id admitted before) _ _ :=
    h.accept staysOnLine_ident
  obtain ⟨text, -, hs⟩ := h.stands
  generalize Rule.acceptTarget k.setting (.terminal identTerminal) s = r at haccept
  cases hread : Identifier.read? text with
  | none =>
    obtain ⟨t', ht, -⟩ := accept_ident_of_none k hs hread
    rw [ht] at haccept ⊢
    cases haccept with
    | ok post => exact .ok ⟨post, nofun⟩
  | some word =>
    obtain ⟨name, rest⟩ := word
    obtain ⟨t', ht, -, hvalue⟩ := accept_ident_of_some k hs hread
    rw [ht] at haccept ⊢
    cases haccept with
    | ok post => exact .ok ⟨post, fun _ => ⟨name, hvalue⟩⟩

/-- An admitted fault is regular. -/
theorem regular_fault {α : Type} {f : Fault} (h : admitted f) :
    Rule.Regular k line id admitted (Rule.fault f : Rule α) :=
  fun _ _ _ htwin => .error ⟨htwin, h⟩

/-- A rule that only looks at the state is regular. -/
theorem regular_get {α : Type} (f : ScanState → α) :
    Rule.Regular k line id admitted (do pure (f (← get).state)) := by
  intro before s t h
  simp only [bind_apply, get_apply, pure_apply, h.state_eq]
  exact .ok h

/-- Looking up a variable is regular, if what goes wrong with it is admitted. -/
theorem regular_value (hadmits : k.Admits admitted) (name : Identifier) :
    Rule.Regular k line id admitted (k.variableValue name.text) := by
  unfold Calculator.variableValue
  cases hname : k.env.get? name.text with
  | none => exact fun before s t h => h.complain (.inl (.unbound name))
  | some text =>
    cases hread : Decimal.leadingInteger text.toList with
    | ok n =>
      simp only [hread, Fault.ofOversize]
      exact fun _ => .pure fun _ _ h => h
    | error cause =>
      simp only [hread, Fault.ofOversize]
      exact regular_fault (hadmits.reading hname hread)

/-- How a function of the calculator may end. -/
abbrev Applied (k : Calculator) (line : Line) (id : Nat) (before : Array Entry) :
    EStateM.Result Failure Scanner Int → EStateM.Result Failure Scanner Int → Prop :=
  InStep (fun _ => Twin k line id before)
    fun e s t => Twin k line id before s t ∧ ∃ f, e = .fault f

/-- Drawing a random number ends alike on twins. -/
theorem Twin.draw (h : Twin k line id before s t) (limit : Int) :
    Applied k line id before (drawRandom k.source limit s) (drawRandom k.source limit t) := by
  obtain ⟨rfl, honLine, hasides, hid, hook⟩ := h
  simp only [drawRandom, bind_apply, get_apply, modify_apply,
    show (t.behind before).journal.draws = t.journal.draws from rfl]
  cases k.source.draw t.journal.draws limit with
  | ok n => exact .ok ⟨rfl, honLine, hasides, hid, hook⟩
  | error f => exact .error ⟨⟨rfl, honLine, hasides, hid, hook⟩, f, rfl⟩

/-- A function does the same behind any journal, and fails only with a fault. -/
theorem Twin.apply (h : Twin k line id before s t) (function : Builtin) (args : List Int) :
    Applied k line id before (function.apply k.source args s)
      (function.apply k.source args t) := by
  cases function with
  | total f => exact .ok h
  | least =>
    rw [Builtin.apply]
    cases leastOf args with
    | none => exact .error ⟨h, _, rfl⟩
    | some n => exact .ok h
  | greatest =>
    rw [Builtin.apply]
    cases greatestOf args with
    | none => exact .error ⟨h, _, rfl⟩
    | some n => exact .ok h
  | random limit =>
    cases args with
    | nil => exact h.draw limit
    | cons n others =>
      have hnotice : Twin k line id before
          { s with toBench := s.toBench.enter (.notice randomNotice) }
          { t with toBench := t.toBench.enter (.notice randomNotice) } := by
        obtain ⟨rfl, honLine, hasides, hid, hook⟩ := h
        refine ⟨?_, honLine, hasides.push rfl, hid, hook⟩
        simp only [Bench.enter, Scanner.behind, Journal.behind_push]
      exact hnotice.draw limit

/-- Applying a function is regular, if it can be applied to its arguments. -/
theorem regular_apply (hadmits : k.Admits admitted) {name : String} {function : Builtin}
    {args : List Int} (known : k.functions.get? name = some function)
    (applicable : Applicable name args) :
    Rule.Regular k line id admitted (function.apply k.source args) := by
  intro before s t h
  have happly := h.apply function args
  generalize function.apply k.source args s = r at happly
  cases hresult : function.apply k.source args t with
  | ok n t' =>
    rw [hresult] at happly
    cases happly with
    | ok post => exact .ok post
  | error e t' =>
    rw [hresult] at happly
    cases happly with
    | error post =>
      obtain ⟨htwin, f, rfl⟩ := post
      exact .error ⟨htwin, hadmits.applying known applicable hresult⟩

/-- Requiring a target is regular if an attempt at it stays on the line. -/
theorem regular_expect {target : Target} (hstays : target.StaysOnLine) :
    Rule.Regular k line id admitted (Rule.expectTarget k.setting target none) := by
  intro before s t h
  have haccept : InStep _ (FailsRegularly k line id admitted before) _ _ := h.accept hstays
  simp only [Rule.expectTarget, bind_apply]
  generalize Rule.acceptTarget k.setting target s = r, Rule.acceptTarget k.setting target t = r'
    at haccept
  match r, r', haccept with
  | _, _, .ok (a := true) post => exact .ok post
  | _, _, .ok (a := false) (s := s') post =>
    have hcolumn : s'.state.errorColumn = _ := congrArg ScanState.errorColumn post.state_eq
    simp only [Bool.false_eq_true, if_false, bind_apply, get_apply, hcolumn]
    exact post.complainAt (.inr (.inr ⟨_, rfl⟩))
  | _, _, .error post => exact .error post

/-- A rule that is given the name that has been scanned is regular if it is for identifiers. -/
theorem regular_named {α : Type} {f : String → Rule α} {g : Rule α}
    (found : ∀ name : Identifier, Rule.Regular k line id admitted (f name.text))
    (missing : Rule.Regular k line id admitted g) :
    Rule.Regular k line id admitted
      (Rule.acceptTarget k.setting (.terminal identTerminal) >>= fun found =>
        if found = true then scannedText >>= f else g) := by
  intro before
  refine Lockstep.bind (fun s t h => h.accept_ident) fun hit => .ite (fun hhit => ?_) fun _ => ?_
  · rintro s t ⟨h, hname⟩
    obtain ⟨name, hvalue⟩ := hname hhit
    have htext : ∀ r : Scanner, r.state = t.state → scannedText r = .ok name.text r := by
      intro r hr
      simp only [scannedText, bind_apply, get_apply, hr, hvalue, pure_apply]
    rw [bind_apply, bind_apply, htext s h.state_eq, htext t rfl]
    exact found name before s t h
  · exact fun s t h => missing before s t h.1

/-- The rules of the calculator are regular. -/
theorem regular_parts (hadmits : k.Admits admitted) :
    Parts k (Rule.Regular k line id admitted) where
  pure a := fun _ => .pure fun _ _ h => h
  bind first next := fun before => .bind (first before) fun a => next a before
  rounds := regular_get fun state => state.line.length + 1
  accept hsought := fun _ _ _ h => h.accept hsought.staysOnLine
  expect hsought := regular_expect hsought.staysOnLine
  named := regular_named
  scannedInt := by
    intro before s t h
    simp only [scannedInt, bind_apply, get_apply, h.state_eq]
    cases t.state.value <;> exact .ok h
  value := regular_value hadmits
  apply := regular_apply hadmits
  complain hunplaced := fun _ _ _ h => h.complain (.inl hunplaced)
  syntaxError := by
    intro before s t h
    simp only [errorColumn, bind_apply, get_apply, pure_apply, h.state_eq]
    exact h.complainAt (.inr (.inl rfl))

end

/-! ## Lines -/

/-- A scanner that has drawn some random numbers and done nothing else. -/
def Scanner.drawn (id draws : Nat) : Scanner where
  journal := { draws }
  id := id

/-- Evaluating a line is reading an expression from its start, and then nothing more. -/
theorem Calculator.evaluate_apply (k : Calculator) (line : Line) (s : Scanner) :
    k.evaluate line s =
      match k.expr (s.startLine line) with
      | .ok n s => .ok n { s with hook := none }
      | .error e s => .error e s := by
  simp only [evaluate, read, Calculator.rule, Rule.parse, Rule.reset, Rule.onCleanup, bind_apply,
    modify_apply, lift_apply, pure_apply]
  cases k.expr (s.startLine line) <;> rfl

/-- A line is evaluated in the same way behind any journal and whatever was read before; only the
random numbers that have been drawn count. What is entered are asides, and failures are in order. -/
theorem Calculator.evaluate_behind {k : Calculator} {admitted : Fault → Prop}
    (hadmits : k.Admits admitted) (line : Line) (s : Scanner) :
    InStep (fun _ => Twin k line s.id s.journal.entries)
      (FailsRegularly k line s.id admitted s.journal.entries) (k.evaluate line s)
      (k.evaluate line (.drawn s.id s.journal.draws)) := by
  have hstart : Twin k line s.id s.journal.entries (s.startLine line)
      ((Scanner.drawn s.id s.journal.draws).startLine line) := by
    refine ⟨?_, .start line, nofun, rfl, rfl⟩
    simp only [Scanner.startLine, Scanner.behind, Journal.behind, Scanner.drawn, Array.append_empty]
  have hexpr := (regular_parts hadmits).expr s.journal.entries _ _ hstart
  rw [evaluate_apply, evaluate_apply]
  generalize k.expr (s.startLine line) = r,
    k.expr ((Scanner.drawn s.id s.journal.draws).startLine line) = r' at hexpr
  cases hexpr with
  | ok post =>
    obtain ⟨rfl, hwork⟩ := post
    exact .ok ⟨rfl, hwork.onLine, hwork.asides, hwork.id_eq, rfl⟩
  | error post => exact .error post

end LineScan
