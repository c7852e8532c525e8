import LineScan.Scanner.Basic

/-!
# Attempts, seen from the text that is left

A scanner keeps the whole line and a position in it. For a grammar it is the text from that position
on that counts: `Stands line text s` says that the scanner `s` is before `text`, which ends `line`.
This module says what an attempt does in those terms. A character is found when it is the first one
past the blanks, and then the scanner stands after it; otherwise the scanner stays, and the column
of a failure is that of the character that was found instead.

## Main statements

* `acceptTarget_of_ok`, `acceptTarget_of_complaint`: an attempt is its matcher, settled.
* `probes_char`, `probes_literal`: scanning for a punctuation character, given as a character or as
  a literal, is looking at the next character that is no blank.
* `accept_endOfLine`: scanning for the end of the line finds it where only blanks are left.
-/

namespace LineScan

/-! ## Running a computation -/

section

variable {ε σ α β : Type}

/-- Of two steps the second one is taken from where the first one ends, unless it fails. -/
@[simp]
theorem bind_apply (x : EStateM ε σ α) (f : α → EStateM ε σ β) (s : σ) :
    (x >>= f) s = match x s with
      | .ok a s => f a s
      | .error e s => .error e s := rfl

/-- Looking at the state leaves it as it is. -/
@[simp]
theorem get_apply (s : σ) : (get : EStateM ε σ σ) s = .ok s s := rfl

/-- A change of the state always succeeds. -/
@[simp]
theorem modify_apply (f : σ → σ) (s : σ) : (modify f : EStateM ε σ PUnit) s = .ok ⟨⟩ (f s) := rfl

/-- An answer leaves the state as it is. -/
@[simp]
theorem pure_apply (a : α) (s : σ) : (pure a : EStateM ε σ α) s = .ok a s := rfl

/-- A computation that is lifted to its own kind is itself. -/
@[simp]
theorem lift_apply (x : EStateM ε σ α) (s : σ) : (liftM x : EStateM ε σ α) s = x s := rfl

/-- A branch is taken the same way in every state. -/
@[simp]
theorem cond_apply (p : Prop) [Decidable p] (x y : EStateM ε σ α) (s : σ) :
    (if p then x else y) s = if p then x s else y s := by
  split <;> rfl

end

/-! ## Positions -/

namespace Decimal

/-- A higher power of ten is not the smaller one. -/
theorem tenTo_le_tenTo {m n : Nat} (h : m ≤ n) : tenTo m ≤ tenTo n :=
  Nat.pow_le_pow_right (by decide) h

/-- The limit is far beyond the numbers of two digits. -/
theorem lt_tenTo_digitLimit {n : Nat} (h : n < tenTo 2) : n < tenTo digitLimit :=
  Nat.lt_of_lt_of_le h (tenTo_le_tenTo (by decide))

end Decimal

namespace Line

/-- The text from its first character that is no blank. -/
def ahead (text : Line) : Line := text.dropWhile Text.isBlank

/-- The text after a character, when it is the next one that is no blank. -/
def after? (text : Line) (c : Char) : Option Line :=
  match text.ahead with
  | [] => none
  | d :: rest => if d = c then some rest else none

/-- Only blanks are left, or a NUL comes next, which stands for the end as well. -/
def atEnd (text : Line) : Bool := text.ahead.headD nul == nul

/-- The position of a text that ends a line. -/
def place (line text : Line) : Int := line.length - text.length

variable {line text rest : Line} {c : Char}

/-- What is past the blanks ends the text. -/
theorem ahead_suffix (text : Line) : text.ahead <:+ text := List.dropWhile_suffix _

/-- There are no blanks to pass twice. -/
theorem ahead_ahead (text : Line) : text.ahead.ahead = text.ahead := by
  have hhead := List.head?_dropWhile_not Text.isBlank text
  rw [← ahead] at hhead
  cases h : text.ahead with
  | nil => rfl
  | cons c rest =>
    rw [h] at hhead
    rw [ahead, List.dropWhile_cons_of_neg (by simpa using hhead)]

/-- A character is found exactly if it is the next one past the blanks. -/
theorem after?_eq_some : text.after? c = some rest ↔ text.ahead = c :: rest := by
  unfold after?
  split
  · next h => simp [h]
  · next d others h =>
    rw [h]
    by_cases hd : d = c <;> simp [hd]

/-- A character is missed exactly if another one, or none, is next past the blanks. -/
theorem after?_eq_none : text.after? c = none ↔ text.ahead.head? ≠ some c := by
  unfold after?
  split
  · next h => simp [h]
  · next d others h =>
    rw [h]
    by_cases hd : d = c <;> simp [hd]

/-- What is past the blanks of two texts together starts in the first one, unless that is blank. -/
theorem ahead_append (before rest : Line) :
    (before ++ rest).ahead = if before.ahead = [] then rest.ahead else before.ahead ++ rest := by
  rw [ahead, List.dropWhile_append]
  by_cases h : before.dropWhile Text.isBlank = [] <;> simp [ahead, h]

/-- Blanks before a text do not change what comes next. -/
theorem ahead_append_of_blank {before : Line} (h : ∀ c ∈ before, Text.isBlank c = true) :
    (before ++ rest).ahead = rest.ahead :=
  List.dropWhile_append_of_pos h

/-- Nothing comes next where only blanks are left. -/
theorem ahead_eq_nil_iff : text.ahead = [] ↔ ∀ c ∈ text, Text.isBlank c = true := by
  induction text with
  | nil => simp [ahead]
  | cons c text ih =>
    rw [ahead] at ih
    cases hc : Text.isBlank c with
    | true => simp [ahead, hc, ih]
    | false => simp [ahead, hc]

/-- What comes next in an end of a text is never more than in the whole text. -/
theorem ahead_length_le (h : rest <:+ text) : rest.ahead.length ≤ text.ahead.length := by
  obtain ⟨before, rfl⟩ := h
  rw [ahead_append]
  split
  · exact Nat.le_refl _
  · have := (ahead_suffix rest).length_le
    rw [List.length_append]
    omega

/-- What comes after the next character is an end of the text, and shorter. -/
theorem suffix_of_ahead (h : text.ahead = c :: rest) : rest <:+ text :=
  (List.suffix_cons c rest).trans (h ▸ ahead_suffix text)

/-- A text that ends the line starts on it. -/
theorem place_nonneg (h : text <:+ line) : 0 ≤ place line text := by
  have := h.length_le
  unfold place
  omega

/-- Past one more character the place is one more. -/
theorem place_cons (line rest : Line) (c : Char) :
    place line (c :: rest) + 1 = place line rest := by
  simp only [place, List.length_cons]
  omega

/-- From its place on, the line is the text. -/
theorem drop_place (h : text <:+ line) : line.drop (place line text).toNat = text := by
  obtain ⟨before, rfl⟩ := h
  have hlen : (place (before ++ text) text).toNat = before.length := by simp [place]
  rw [hlen, List.drop_left]

/-- Skipping blanks gets to the place past the blanks of the text. -/
theorem skipBlanks_place (h : text <:+ line) :
    line.skipBlanks (place line text) = .ok (place line text.ahead) := by
  have hlen : leadingBlanks text + text.ahead.length = text.length := by
    rw [leadingBlanks, ahead, ← List.length_append, List.takeWhile_append_dropWhile]
  rw [skipBlanks, if_pos (place_nonneg h), drop_place h]
  simp only [place, Except.ok.injEq]
  omega

/-- The character at the place of a text is its first, or NUL if there is none. -/
theorem peek_place (h : text <:+ line) : line.peek (place line text) = text.headD nul := by
  have := place_nonneg h
  rw [peek, if_neg (by omega), drop_place h]

/-- A run at the place of a text is a run at its front. -/
theorem runAt_place (h : text <:+ line) (p : Char → Bool) :
    line.runAt p (place line text) = text.takeWhile p := by
  have := place_nonneg h
  rw [runAt, if_neg (by omega), drop_place h]

/-- The place of the rest of a line is the length of what is before it. -/
theorem place_append_left (before rest : Line) :
    place (before ++ rest) rest = before.length := by
  simp [place]

/-- A slice that starts where a text does is the front of the text. -/
theorem slice_place (h : text <:+ line) (n : Nat) :
    line.slice (place line text) (place line text + n) = text.take n := by
  obtain ⟨before, rfl⟩ := h
  have hstart : clamp (before ++ text) before.length = before.length := by
    rw [clamp, if_neg (by omega), List.length_append]
    omega
  have hstop : clamp (before ++ text) ((before.length : Int) + n)
      = min (before.length + n) (before.length + text.length) := by
    rw [clamp, if_neg (by omega), List.length_append]
    omega
  rw [slice, place_append_left, hstart, hstop, List.drop_left]
  rw [List.take_eq_take_iff]
  omega

/-! ## Writing a position -/

/-- The integer can be written: it lies on the line, or it has no more digits than can be
written. -/
def Writes (line : Line) (n : Int) : Prop :=
  n.natAbs ≤ line.length + 1 ∨ n.natAbs < Decimal.tenTo Decimal.digitLimit

instance (line : Line) (n : Int) : Decidable (line.Writes n) :=
  inferInstanceAs (Decidable (_ ∨ _))

/-- On a line that is no longer than the largest number that can be written, what can be written is
what has no more digits than that. -/
theorem writes_iff_lt (h : line.length + 1 < Decimal.tenTo Decimal.digitLimit) (n : Int) :
    line.Writes n ↔ n.natAbs < Decimal.tenTo Decimal.digitLimit := by
  unfold Writes
  omega

/-- What cannot be written is refused. -/
theorem write_eq (line : Line) (n : Int) :
    line.write n =
      if line.Writes n then .ok (String.ofList (Decimal.intText n)) else .error .writing := by
  by_cases hline : n.natAbs ≤ line.length + 1
  · rw [write, if_pos hline, if_pos (.inl hline)]
  · have hwrites : line.Writes n ↔ n.natAbs < Decimal.tenTo Decimal.digitLimit :=
      or_iff_right hline
    simp only [write, if_neg hline, Decimal.write, hwrites]

/-- Positions from the start of a line to its end can be written, and so can their columns. -/
theorem writes_of_within {n : Int} (hfrom : 0 ≤ n) (hto : n ≤ line.length + 1) : line.Writes n :=
  .inl (by omega)

/-- Where a text starts that ends a line can be written. -/
theorem writes_place (h : text <:+ line) : line.Writes (line.place text) := by
  have hfrom := place_nonneg h
  exact writes_of_within hfrom (by unfold place; omega)

/-- So can its column. -/
theorem writes_column (h : text <:+ line) : line.Writes (line.place text + 1) := by
  have hfrom := place_nonneg h
  exact writes_of_within (by omega) (by unfold place; omega)

end Line

/-! ## Attempts of a scanner -/

/-- The integer can be written on the line as far as tracing asks for it. -/
def Setting.Writes (setting : Setting) (line : Line) (n : Int) : Prop :=
  setting.tracing = true → line.Writes n

instance (setting : Setting) (line : Line) (n : Int) : Decidable (setting.Writes line n) :=
  inferInstanceAs (Decidable (_ → _))

/-- What can be written on the line can be written in a trace. -/
theorem Line.Writes.inTrace {line : Line} {n : Int} (h : line.Writes n) (setting : Setting) :
    setting.Writes line n := fun _ => h

/-- The journal with an entry about an attempt, if tracing is on. -/
def Journal.noted (j : Journal) (setting : Setting) (e : Entry) : Journal :=
  if setting.tracing then j.push e else j

namespace Bench

/-- An entry of a trace is made if the place it tells of can be written. -/
theorem trace_eq (setting : Setting) (place : Int) (e : Entry) (b : Bench) :
    trace setting place e b =
      if setting.Writes b.state.line place then
        .ok () { b with journal := b.journal.noted setting e }
      else
        .error (.fault (.oversize .writing)) b := by
  rw [trace, Journal.noted, Line.write_eq]
  by_cases htracing : setting.tracing = true
  · by_cases hwrites : b.state.line.Writes place
    · rw [if_pos htracing, if_pos hwrites, if_pos (hwrites.inTrace setting), if_pos htracing]
      rfl
    · rw [if_pos htracing, if_neg hwrites, if_neg fun h => hwrites (h htracing)]
  · have hsilent : setting.Writes b.state.line place := fun h => absurd h htracing
    rw [if_neg htracing, if_pos hsilent, if_neg htracing]

/-- All that an attempt can do. The cursor is written first, and then the matcher runs. Where it
ends is written before the state is settled. What cannot be written is a fault. -/
theorem attempt_eq (setting : Setting) (target : Target) (b : Bench) :
    attempt setting target b =
      if setting.Writes b.state.line b.state.cursor then
        let journal :=
          b.journal.noted setting (.attempt target b.state.line b.state.cursor)
        match Scan.dispatch target b.state with
        | .ok m state =>
          if setting.Writes state.line m.place then
            .ok m.isHit ⟨state.settle target m, journal.noted setting (.outcome m)⟩
          else
            .error (.fault (.oversize .writing)) ⟨state, journal⟩
        | .error e state => .error e ⟨state, journal⟩
      else
        .error (.fault (.oversize .writing)) b := by
  simp only [attempt, bind_apply, get_apply, modify_apply, pure_apply, scan, trace_eq]
  by_cases hcursor : setting.Writes b.state.line b.state.cursor
  · rw [if_pos hcursor, if_pos hcursor]
    dsimp only
    cases Scan.dispatch target b.state with
    | error e state => rfl
    | ok m state =>
      dsimp only
      by_cases hplace : setting.Writes state.line m.place
      · rw [if_pos hplace, if_pos hplace]
      · rw [if_neg hplace, if_neg hplace]
  · rw [if_neg hcursor, if_neg hcursor]

/-- An attempt from a cursor that can be written, whose matcher ends at a place that can be written,
settles the state by it. -/
theorem attempt_of_ok {setting : Setting} {target : Target} {b : Bench} {m : Match}
    {state : ScanState} (hcursor : setting.Writes b.state.line b.state.cursor)
    (h : Scan.dispatch target b.state = .ok m state) (hplace : setting.Writes state.line m.place) :
    attempt setting target b = .ok m.isHit ⟨state.settle target m,
      (b.journal.noted setting (.attempt target b.state.line b.state.cursor)).noted setting
        (.outcome m)⟩ := by
  rw [attempt_eq, if_pos hcursor, h]
  exact if_pos hplace

/-- An attempt whose matcher ends at a place that cannot be written is at fault, and the state is
not settled. -/
theorem attempt_of_not_writes {setting : Setting} {target : Target} {b : Bench} {m : Match}
    {state : ScanState} (hcursor : setting.Writes b.state.line b.state.cursor)
    (h : Scan.dispatch target b.state = .ok m state)
    (hplace : ¬ setting.Writes state.line m.place) :
    attempt setting target b = .error (.fault (.oversize .writing))
      ⟨state, b.journal.noted setting (.attempt target b.state.line b.state.cursor)⟩ := by
  rw [attempt_eq, if_pos hcursor, h]
  exact if_neg hplace

/-- An attempt from a cursor that can be written gives up if its matcher does. -/
theorem attempt_of_error {setting : Setting} {target : Target} {b : Bench} {e : Abort}
    {state : ScanState} (hcursor : setting.Writes b.state.line b.state.cursor)
    (h : Scan.dispatch target b.state = .error e state) :
    attempt setting target b =
      .error e ⟨state, b.journal.noted setting (.attempt target b.state.line b.state.cursor)⟩ := by
  rw [attempt_eq, if_pos hcursor, h]

end Bench

/-- Without a hook there is nothing to fire before the error is built. -/
theorem Scanner.unwind_of_no_hook {setting : Setting} {s : Scanner} (h : s.hook = none)
    (c : Complaint) : s.unwind setting c =
      .error (.scan ((s.noteMessage c).errorOf c)) (s.noteMessage c) := by
  rw [Scanner.unwind]
  split
  · rfl
  · next hook hsome => rw [h] at hsome; cases hsome

namespace Rule

variable {α β : Type} {setting : Setting} {target : Target} {s : Scanner}

/-- Without a hook, a complaint becomes an error at once. -/
theorem complain_of_no_hook (c : Complaint) (h : s.hook = none) :
    (complain setting c s : EStateM.Result Failure Scanner α) =
      .error (.scan ((s.noteMessage c).errorOf c)) (s.noteMessage c) := by
  simp only [complain, Scanner.unwind_of_no_hook h]

/-- Nothing comes after a complaint. -/
theorem complain_bind (setting : Setting) (c : Complaint) (f : α → Rule β) :
    complain setting c >>= f = complain setting c := by
  funext s
  rw [bind_apply, complain, complain]
  cases s.unwind setting c <;> rfl

/-- An attempt whose matcher ends settles the state by it, if what tracing writes can be written. -/
theorem acceptTarget_of_ok {m : Match} {state : ScanState}
    (hcursor : setting.Writes s.state.line s.state.cursor)
    (h : Scan.dispatch target s.state = .ok m state) (hplace : setting.Writes state.line m.place) :
    ∃ journal, acceptTarget setting target s =
      .ok m.isHit { s with state := state.settle target m, journal := journal } := by
  exact ⟨_, by rw [acceptTarget, onBench, Bench.attempt_of_ok hcursor h hplace]⟩

/-- An attempt whose matcher ends at a place that cannot be written is at fault. -/
theorem acceptTarget_of_not_writes {m : Match} {state : ScanState}
    (hcursor : setting.Writes s.state.line s.state.cursor)
    (h : Scan.dispatch target s.state = .ok m state)
    (hplace : ¬ setting.Writes state.line m.place) :
    ∃ journal, acceptTarget setting target s =
      .error (.fault (.oversize .writing)) { s with state := state, journal := journal } := by
  exact ⟨_, by rw [acceptTarget, onBench, Bench.attempt_of_not_writes hcursor h hplace]⟩

/-- An attempt whose matcher complains raises the complaint. -/
theorem acceptTarget_of_complaint {c : Complaint} {state : ScanState}
    (hcursor : setting.Writes s.state.line s.state.cursor)
    (h : Scan.dispatch target s.state = .error (.complaint c) state) :
    ∃ journal, acceptTarget setting target s =
      complain setting c { s with state := state, journal := journal } := by
  exact ⟨_, by rw [acceptTarget, onBench, Bench.attempt_of_error hcursor h]⟩

/-- Whether a complaint is raised about a column or is a fault is told by the line. -/
theorem complainAt_eq (setting : Setting) (column : Int) (c : Complaint) :
    (complainAt setting column c : Rule α) = get >>= fun s =>
      if s.state.line.Writes column then complain setting c else fault (.oversize .writing) := by
  funext s
  rw [complainAt, Line.write_eq, bind_apply, get_apply]
  by_cases hwrites : s.state.line.Writes column
  · simp only [if_pos hwrites]
  · simp only [if_neg hwrites]
    rfl

/-- A complaint about a column that can be written is raised. -/
theorem complainAt_of_writes {column : Int} (c : Complaint) (h : s.state.line.Writes column) :
    (complainAt setting column c s : EStateM.Result Failure Scanner α) = complain setting c s := by
  rw [complainAt, Line.write_eq, if_pos h]

/-- A complaint about a column that cannot be written is a fault. -/
theorem complainAt_of_not_writes {column : Int} (c : Complaint)
    (h : ¬ s.state.line.Writes column) :
    (complainAt setting column c s : EStateM.Result Failure Scanner α) =
      .error (.fault (.oversize .writing)) s := by
  rw [complainAt, Line.write_eq, if_neg h]

end Rule

/-! ## Scanners that stand before a text -/

/-- The scanner stands before a text that ends a line, and no hook is registered. -/
structure Stands (line text : Line) (s : Scanner) : Prop where
  line_eq : s.state.line = line
  cursor_eq : s.state.cursor = line.place text
  suffix : text <:+ line
  hook_eq : s.hook = none

/-- Scanning for a target amounts to looking for a character past the blanks. -/
def Probes (setting : Setting) (target : Target) (c : Char) : Prop :=
  ∀ line text s, Stands line text s →
    match text.after? c with
    | some rest => ∃ s', Rule.acceptTarget setting target s = .ok true s' ∧ Stands line rest s'
    | none => ∃ s', Rule.acceptTarget setting target s = .ok false s' ∧ Stands line text s' ∧
        s'.state.errorColumn = line.place text.ahead + 1

variable {setting : Setting} {target : Target} {line text rest : Line} {s : Scanner} {c : Char}

/-- A probe that finds its character stands after it. -/
theorem Probes.hit (h : Probes setting target c) (hs : Stands line text s)
    (hafter : text.after? c = some rest) :
    ∃ s', Rule.acceptTarget setting target s = .ok true s' ∧ Stands line rest s' := by
  have := h line text s hs
  rwa [hafter] at this

/-- A probe that misses its character stands where it did, and points to what it has found
instead. -/
theorem Probes.miss (h : Probes setting target c) (hs : Stands line text s)
    (hafter : text.after? c = none) :
    ∃ s', Rule.acceptTarget setting target s = .ok false s' ∧ Stands line text s' ∧
      s'.state.errorColumn = line.place text.ahead + 1 := by
  have := h line text s hs
  rwa [hafter] at this

namespace Stands

/-- What is past the blanks ends the line. -/
theorem ahead_suffix (hs : Stands line text s) : text.ahead <:+ line :=
  (Line.ahead_suffix text).trans hs.suffix

/-- The cursor of a scanner that stands before a text can be written. -/
theorem writes_cursor (hs : Stands line text s) (setting : Setting) :
    setting.Writes s.state.line s.state.cursor := by
  rw [hs.line_eq, hs.cursor_eq]
  exact (Line.writes_place hs.suffix).inTrace setting

/-- The column of a text that ends the line can be written. -/
theorem writes_column (hs : Stands line text s) {column : Int}
    (hcolumn : column = line.place text.ahead + 1) : s.state.line.Writes column := by
  rw [hs.line_eq, hcolumn]
  exact Line.writes_column hs.ahead_suffix

/-- An attempt settles the state if its matcher ends at a place that can be written. -/
theorem acceptTarget_of_ok (setting : Setting) {m : Match} {state : ScanState}
    (hs : Stands line text s) (h : Scan.dispatch target s.state = .ok m state)
    (hline : state.line = line) (hplace : line.Writes m.place) :
    ∃ journal, Rule.acceptTarget setting target s =
      .ok m.isHit { s with state := state.settle target m, journal := journal } := by
  rw [← hline] at hplace
  exact Rule.acceptTarget_of_ok (hs.writes_cursor setting) h (hplace.inTrace setting)

/-- A match moves the scanner before the rest of the text. -/
theorem of_hit {value : Datum} {state : ScanState} (hs : Stands line text s)
    (h : Scan.dispatch target s.state = .ok (.hit (line.place rest) value) state)
    (hline : state.line = line) (hrest : rest <:+ line) :
    ∃ s', Rule.acceptTarget setting target s = .ok true s' ∧ Stands line rest s' ∧
      s'.state = state.settle target (.hit (line.place rest) value) := by
  obtain ⟨journal, hj⟩ := hs.acceptTarget_of_ok setting h hline (Line.writes_place hrest)
  exact ⟨_, hj, ⟨hline, rfl, hrest, hs.hook_eq⟩, rfl⟩

/-- A miss leaves the scanner where it is. -/
theorem of_miss {state : ScanState} {place : Int} (hs : Stands line text s)
    (h : Scan.dispatch target s.state = .ok (.miss place) state) (hplace : line.Writes place)
    (hline : state.line = line) (hcursor : state.cursor = s.state.cursor) :
    ∃ s', Rule.acceptTarget setting target s = .ok false s' ∧ Stands line text s' ∧
      s'.state.errorColumn = place + 1 := by
  obtain ⟨journal, hj⟩ := hs.acceptTarget_of_ok setting h hline hplace
  exact ⟨_, hj, ⟨hline, hcursor.trans hs.cursor_eq, hs.suffix, hs.hook_eq⟩, rfl⟩

/-- Skipping blanks from where the scanner stands changes nothing in the state. -/
theorem skipBlanks {state : ScanState} (hs : Stands line text s) (hline : state.line = line) :
    Scan.skipBlanks (line.place text) state = .ok (line.place text.ahead) state := by
  simp [Scan.skipBlanks, hline, Line.skipBlanks_place hs.suffix]

/-- The matcher of a character that is no blank compares it with the next one that is none. -/
theorem dispatch_char (hs : Stands line text s) (hblank : Text.isBlank c = false) :
    Scan.dispatch (.char c) s.state = .ok
      (if text.ahead.headD Line.nul = c then
        .hit (if c = Line.nul then line.place text.ahead else line.place text.ahead + 1) .none
      else .miss (line.place text.ahead))
      { s.state with matchStart := line.place text.ahead } := by
  simp only [Scan.dispatch, Scan.char, bind_apply, get_apply, cond_apply, hblank, Bool.false_and,
    Bool.false_eq_true, if_false, hs.line_eq, hs.cursor_eq, hs.skipBlanks hs.line_eq, modify_apply,
    pure_apply, Line.peek_place hs.ahead_suffix, beq_iff_eq]
  split
  · next h => rw [h]
  · rfl

/-- The matcher of a literal that is one punctuation character does what the one of the character
does. -/
theorem dispatch_literal (hs : Stands line text s) (hblank : Text.isBlank c = false)
    (hnul : c ≠ Line.nul) (hletter : Text.isLetter c = false) (hdigit : Text.isDigit c = false) :
    Scan.dispatch (.literal [c]) s.state = Scan.dispatch (.char c) s.state := by
  have hlen := hs.suffix.length_le
  have hahead := (Line.ahead_suffix text).length_le
  rw [hs.dispatch_char hblank]
  simp only [Scan.dispatch, Scan.literal, bind_apply, get_apply, cond_apply, hblank,
    Bool.false_eq_true, if_false, hs.line_eq, hs.cursor_eq, modify_apply, pure_apply,
    List.getLastD_cons, List.getLastD_nil, Scan.continues, hletter, hdigit, Bool.false_and,
    Bool.or_false]
  cases text with
  | nil =>
    -- at the end of the line a literal does not skip blanks, and there are none
    have hhead : Line.nul ≠ c := fun h => hnul h.symm
    have hplace : line.place [] = line.length := by simp [Line.place]
    simp [Line.ahead, hhead, hplace]
  | cons d others =>
    have hinside : ¬ (line.place (d :: others) ≥ (line.length : Int)) := by
      simp only [Line.place, List.length_cons]
      omega
    rw [if_neg hinside]
    simp only [hs.skipBlanks, List.length_singleton, Int.natCast_one]
    cases ha : Line.ahead (d :: others) with
    | nil =>
      have hhead : Line.nul ≠ c := fun h => hnul h.symm
      have hshort : (line.length : Int) - line.place [] < 1 := by simp [Line.place]
      simp [hshort, hhead]
    | cons e more =>
      have hroom : 1 ≤ (line.length : Int) - line.place (e :: more) := by
        simp only [Line.place, List.length_cons]
        omega
      have hslice := Line.slice_place (ha ▸ hs.ahead_suffix) 1
      rw [Int.natCast_one] at hslice
      rw [hslice]
      by_cases he : e = c
      · subst he
        simp [hroom, hnul]
      · simp [he]

end Stands

/-! ## Terminals

A terminal is matched by its own function, which starts past the blanks with the last failure
forgotten. -/

/-- The state that a terminal's function starts in. -/
def ScanState.cleared (state : ScanState) (place : Int) : ScanState :=
  { state with matchStart := place, failPosition := none, pendingDetail := none, matchLength := 0 }

/-- A terminal's function starts on the same line. -/
@[simp]
theorem ScanState.cleared_line (state : ScanState) (place : Int) :
    (state.cleared place).line = state.line := rfl

namespace Stands

variable {t : Terminal} {state : ScanState}

/-- Matching a terminal is running its function past the blanks, and settling what it reports. -/
theorem dispatch_terminal (hs : Stands line text s) (t : Terminal) :
    Scan.dispatch (.terminal t) s.state =
      match t.scan (line.place text.ahead) (s.state.cleared (line.place text.ahead)) with
      | .ok (.hit stop value) state => .ok (.hit stop value) state
      | .ok (.miss place) state => .ok (.miss (place.getD (line.place text.ahead))) state
      | .error e state => .error e state := by
  have hdispatch : Scan.dispatch (.terminal t) s.state =
      Scan.terminal t s.state.cursor s.state := rfl
  rw [hdispatch, hs.cursor_eq]
  simp only [Scan.terminal, ScanState.cleared, bind_apply, hs.skipBlanks hs.line_eq, modify_apply]
  cases t.scan _ _ with
  | ok reading state => cases reading <;> rfl
  | error e state => rfl

/-- A terminal that matches leaves the scanner where the match ended. -/
theorem terminal_hit {value : Datum} (setting : Setting) (hs : Stands line text s)
    (h : t.scan (line.place text.ahead) (s.state.cleared (line.place text.ahead)) =
      .ok (.hit (line.place rest) value) state)
    (hline : state.line = line) (hrest : rest <:+ line) :
    ∃ s', Rule.acceptTarget setting (.terminal t) s = .ok true s' ∧ Stands line rest s' ∧
      s'.state.value = value := by
  have hd := hs.dispatch_terminal t
  rw [h] at hd
  obtain ⟨s', hs', hstands, hstate⟩ := hs.of_hit hd hline hrest
  exact ⟨s', hs', hstands, by rw [hstate]; rfl⟩

/-- A terminal that misses leaves the scanner where it was. -/
theorem terminal_miss {place : Option Int} (setting : Setting) (hs : Stands line text s)
    (h : t.scan (line.place text.ahead) (s.state.cleared (line.place text.ahead)) =
      .ok (.miss place) state)
    (hplace : line.Writes (place.getD (line.place text.ahead)))
    (hline : state.line = line) (hcursor : state.cursor = s.state.cursor) :
    ∃ s', Rule.acceptTarget setting (.terminal t) s = .ok false s' ∧ Stands line text s' ∧
      s'.state.errorColumn = place.getD (line.place text.ahead) + 1 := by
  have hd := hs.dispatch_terminal t
  rw [h] at hd
  exact hs.of_miss hd hplace hline hcursor

/-- A terminal that complains fails with an error for its complaint. -/
theorem terminal_complaint {c : Complaint} (setting : Setting) (hs : Stands line text s)
    (h : t.scan (line.place text.ahead) (s.state.cleared (line.place text.ahead)) =
      .error (.complaint c) state) :
    ∃ e s', Rule.acceptTarget setting (.terminal t) s = .error (.scan e) s' ∧ e.complaint = c := by
  have hd := hs.dispatch_terminal t
  rw [h] at hd
  obtain ⟨journal, hj⟩ := Rule.acceptTarget_of_complaint (hs.writes_cursor setting) hd
  exact ⟨_, _, hj.trans (Rule.complain_of_no_hook c hs.hook_eq), rfl⟩

end Stands

/-- A target whose matcher does what the one of a character does is found by looking past the
blanks. -/
theorem probes_of_dispatch (setting : Setting) (hblank : Text.isBlank c = false)
    (hnul : c ≠ Line.nul)
    (h : ∀ line text s, Stands line text s →
      Scan.dispatch target s.state = Scan.dispatch (.char c) s.state) :
    Probes setting target c := by
  intro line text s hs
  have hd := (h line text s hs).trans (hs.dispatch_char hblank)
  rw [if_neg hnul] at hd
  cases hafter : text.after? c with
  | some rest =>
    have ha := Line.after?_eq_some.mp hafter
    rw [if_pos (by rw [ha]; rfl), ha, Line.place_cons] at hd
    have hrest : rest <:+ line := (Line.suffix_of_ahead ha).trans hs.suffix
    obtain ⟨s', hs', hstands, -⟩ := hs.of_hit hd hs.line_eq hrest
    exact ⟨s', hs', hstands⟩
  | none =>
    have ha := Line.after?_eq_none.mp hafter
    have hhead : text.ahead.headD Line.nul ≠ c := by
      cases h : text.ahead with
      | nil => exact fun h => hnul h.symm
      | cons d others => simpa [h] using ha
    rw [if_neg hhead] at hd
    exact hs.of_miss hd (Line.writes_place hs.ahead_suffix) hs.line_eq rfl

/-- A character that is neither a blank nor NUL is found by looking past the blanks. -/
theorem probes_char (setting : Setting) (hblank : Text.isBlank c = false) (hnul : c ≠ Line.nul) :
    Probes setting (.char c) c :=
  probes_of_dispatch setting hblank hnul fun _ _ _ _ => rfl

/-- So is a punctuation character that is given as a literal. -/
theorem probes_literal (setting : Setting) (hblank : Text.isBlank c = false) (hnul : c ≠ Line.nul)
    (hletter : Text.isLetter c = false) (hdigit : Text.isDigit c = false) :
    Probes setting (.literal [c]) c :=
  probes_of_dispatch setting hblank hnul fun _ _ _ hs =>
    hs.dispatch_literal hblank hnul hletter hdigit

/-- The end of the line is found where only blanks are left, or at a NUL, and the scanner moves past
the blanks; it stays where it is if the end is not found. -/
theorem accept_endOfLine (setting : Setting) (hs : Stands line text s) :
    ∃ s', Rule.acceptTarget setting .endOfLine s = .ok text.atEnd s' ∧
      Stands line (if text.atEnd then text.ahead else text) s' := by
  have hd := hs.dispatch_char (c := Line.nul) (by decide)
  rw [if_pos rfl] at hd
  by_cases hend : text.ahead.headD Line.nul = Line.nul
  · have hatEnd : text.atEnd = true := by simpa [Line.atEnd] using hend
    rw [if_pos hend] at hd
    obtain ⟨s', hs', hstands, -⟩ := hs.of_hit hd hs.line_eq hs.ahead_suffix
    rw [hatEnd, if_pos rfl]
    exact ⟨s', hs', hstands⟩
  · have hatEnd : text.atEnd = false := by simpa [Line.atEnd] using hend
    rw [if_neg hend] at hd
    obtain ⟨s', hs', hstands, -⟩ :=
      hs.of_miss hd (Line.writes_place hs.ahead_suffix) hs.line_eq rfl
    rw [hatEnd, if_neg Bool.false_ne_true]
    exact ⟨s', hs', hstands⟩

end LineScan
