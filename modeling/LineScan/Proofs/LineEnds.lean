import LineScan.Proofs.Descent
import LineScan.Proofs.Literals
import LineScan.Proofs.Pointing

/-!
# Two ways to look for the end of a line

The end of a line is looked for in two ways. A terminal compares the position with the length of the
line. The character target compares the next character with NUL, which a line answers past its end,
but which it may also hold. So the two agree on every line, up to a place where a NUL comes next:
there the character target finds an end and the terminal does not.

The calculator uses the character target in one place, after an argument of a call that is not
followed by a comma. `LeftOpen` says what has happened when it complains of a call that is not
closed, and `Accounted` carries that through the rules.

## Main statements

* `Calculator.endsAlike`: where the two agree, and where they do not.
* `Accounted.rule`: a complaint of an unclosed call comes after an argument before such an end.
* `endOfLine_is_end_or_nul`: both together, for every scanner and every line that is read.
-/

namespace LineScan

namespace Line

/-- Only blanks are left of a text. -/
def IsBlank (text : Line) : Prop := ∀ c ∈ text, Text.isBlank c = true

/-- A NUL comes next in a text. -/
def NulNext (text : Line) : Prop := text.ahead.head? = some nul

variable {text : Line}

/-- Only blanks are left exactly if there is nothing past the blanks. -/
theorem isBlank_iff : text.IsBlank ↔ text.ahead = [] := ahead_eq_nil_iff.symm

/-- A NUL is no blank. -/
theorem not_isBlank_of_nulNext (h : text.NulNext) : ¬ text.IsBlank := by
  intro hblank
  rw [NulNext, isBlank_iff.mp hblank] at h
  cases h

/-- What the character target takes for an end of a line. -/
theorem atEnd_eq_true_iff : text.atEnd = true ↔ text.IsBlank ∨ text.NulNext := by
  rw [isBlank_iff, NulNext, atEnd]
  cases text.ahead <;> simp

end Line

/-! ## The two attempts -/

section

variable {line text : Line} {s : Scanner} (hs : Stands line text s)

include hs

/-- The character target finds the end of the line, or a NUL, and moves before it. -/
theorem accept_endOfLine_cursor (setting : Setting) :
    ∃ t, Rule.acceptTarget setting .endOfLine s = .ok text.atEnd t ∧
      (text.IsBlank ∨ text.NulNext → t.state.cursor = line.place text.ahead) ∧
      (¬ (text.IsBlank ∨ text.NulNext) → t.state.cursor = s.state.cursor) := by
  obtain ⟨t, ht, hstands⟩ := accept_endOfLine setting hs
  refine ⟨t, ht, fun h => ?_, fun h => ?_⟩
  · rw [hstands.cursor_eq, if_pos (Line.atEnd_eq_true_iff.mpr h)]
  · rw [hstands.cursor_eq, hs.cursor_eq, if_neg fun hend => h (Line.atEnd_eq_true_iff.mp hend)]

/-- The terminal only finds the end of the line. -/
theorem accept_end_cursor (k : Calculator) :
    ∃ t, Rule.acceptTarget k.setting (.terminal Calculator.endTerminal) s =
        .ok text.ahead.isEmpty t ∧
      (text.IsBlank → t.state.cursor = line.place text.ahead) ∧
      (¬ text.IsBlank → t.state.cursor = s.state.cursor) := by
  obtain ⟨t, ht, hend, hgoing⟩ := Grammar.accept_end k hs
  refine ⟨t, ht, fun h => ?_, fun h => ?_⟩
  · have hnil := Line.isBlank_iff.mp h
    rw [(hend hnil).cursor_eq, hnil]
  · rw [(hgoing fun hnil => h (Line.isBlank_iff.mpr hnil)).1.cursor_eq, hs.cursor_eq]

end

/-- The complaint is about an unclosed call. -/
def Complaint.isUnclosed : Complaint → Bool
  | .unclosedCall _ => true
  | _ => false

namespace Calculator

/-- What the two attempts at the end of the line come to, from the same scanner: the character
target also takes a NUL for the end, and else they answer the same and leave the same cursor. -/
def EndsAlike (k : Calculator) (s : Scanner) : Prop :=
  ∃ found ended t u,
    Rule.accept k.setting (.target .endOfLine) s = .ok found t ∧
    Rule.accept k.setting (.target (.terminal endTerminal)) s = .ok ended u ∧
    (found = true ↔ s.state.rest.IsBlank ∨ s.state.rest.NulNext) ∧
    (ended = true ↔ s.state.rest.IsBlank) ∧
    (s.state.rest.NulNext → found = true ∧ ended = false ∧
      t.state.cursor = s.state.line.place s.state.rest.ahead ∧
      u.state.cursor = s.state.cursor) ∧
    (¬ s.state.rest.NulNext → found = ended ∧ t.state.cursor = u.state.cursor)

/-- The two attempts at the end of the line agree but for a NUL, at every place of the line. -/
theorem endsAlike (k : Calculator) (s : Scanner) (hfrom : 0 ≤ s.state.cursor)
    (hto : s.state.cursor ≤ s.state.line.length) : k.EndsAlike s := by
  have hs := s.stands_rest hfrom hto
  obtain ⟨t, ht, hmoved, hstays⟩ := accept_endOfLine_cursor hs k.setting
  obtain ⟨u, hu, hmoved', hstays'⟩ := accept_end_cursor hs k
  have hfound : s.state.rest.atEnd = true ↔ s.state.rest.IsBlank ∨ s.state.rest.NulNext :=
    Line.atEnd_eq_true_iff
  have hended : s.state.rest.ahead.isEmpty = true ↔ s.state.rest.IsBlank := by
    rw [List.isEmpty_iff, Line.isBlank_iff]
  refine ⟨_, _, _, _, Rule.acceptTarget_of_unhooked ht, Rule.acceptTarget_of_unhooked hu, hfound,
    hended, fun hnul => ?_, fun hnul => ?_⟩
  · have hblank := Line.not_isBlank_of_nulNext hnul
    exact ⟨hfound.mpr (.inr hnul), Bool.eq_false_iff.mpr fun h => hblank (hended.mp h),
      hmoved (.inr hnul), hstays' hblank⟩
  · by_cases hblank : s.state.rest.IsBlank
    · exact ⟨(hfound.mpr (.inl hblank)).trans (hended.mpr hblank).symm,
        (hmoved (.inl hblank)).trans (hmoved' hblank).symm⟩
    · have hno : ¬ (s.state.rest.IsBlank ∨ s.state.rest.NulNext) := fun h => h.elim hblank hnul
      refine ⟨?_, (hstays hno).trans (hstays' hblank).symm⟩
      rw [Bool.eq_false_iff.mpr fun h => hno (hfound.mp h),
        Bool.eq_false_iff.mpr fun h => hblank (hended.mp h)]

/-! ## Calls that are left open -/

/-- A call is left open: an argument has been read, there is no comma after it, but the end of the
line, as the character target has it; and the complaint about that is the error `e`. -/
inductive LeftOpen (k : Calculator) (line : Line) (name : String) (e : ScanError) (t : Scanner) :
    Scanner → Prop where
  | intro {depth : Nat} {n : Int} {before after stop start : Scanner}
      (argument : term k (k.primary depth) before = .ok n after)
      (on : after.On line)
      (comma : k.acceptChar ',' after = .ok false start)
      (ended : Rule.acceptTarget k.setting .endOfLine start = .ok true stop)
      (complained : (k.complain (.unclosedCall name) : Rule Unit) stop = .error (.scan e) t) :
      LeftOpen k line name e t after

variable {k : Calculator} {line : Line} {α β : Type}

/-- Where a call is left open, only blanks follow the argument, or a NUL comes next. -/
theorem LeftOpen.rest {name : String} {e : ScanError} {t after : Scanner}
    (h : LeftOpen k line name e t after) : after.state.rest.IsBlank ∨ after.state.rest.NulNext := by
  obtain ⟨-, on, comma, ended, -⟩ := h
  have hs : Stands line after.state.rest after := by
    have hrest := after.stands_rest on.cursor_nonneg (on.line_eq ▸ on.cursor_le)
    rw [on.line_eq] at hrest
    exact ⟨on.line_eq, hrest.cursor_eq, hrest.suffix, on.hook_eq⟩
  have hafter : after.state.rest.after? ',' = none := by
    cases hfound : after.state.rest.after? ',' with
    | none => rfl
    | some rest =>
      obtain ⟨s', hs', -⟩ := (Grammar.probes_mark k ',' (by decide)).hit hs hfound
      cases hs'.symm.trans comma
  obtain ⟨start, hstart, hstands, -⟩ :=
    (Grammar.probes_mark k ',' (by decide)).miss hs hafter
  cases hstart.symm.trans comma
  obtain ⟨stop, hstop, -⟩ := accept_endOfLine k.setting hstands
  have hend := hstop.symm.trans ended
  injection hend with hend
  exact Line.atEnd_eq_true_iff.mp hend

/-- How a rule may end that started on a line: it is still on the line if it answers, and where it
complains of an open call, one has been left open. -/
inductive Accounts (k : Calculator) (line : Line) : EStateM.Result Failure Scanner α → Prop where
  | ok {a : α} {t : Scanner} (on : t.On line) : Accounts k line (.ok a t)
  | fault {f : Fault} {t : Scanner} : Accounts k line (.error (.fault f) t)
  | scan {e : ScanError} {t : Scanner}
      (left : ∀ name, e.complaint = .unclosedCall name → ∃ after, LeftOpen k line name e t after) :
      Accounts k line (.error (.scan e) t)

/-- Where the first of two rules answers, the second one accounts for the rest. -/
theorem Accounts.bind {x : Rule α} {f : α → Rule β} {s : Scanner} (h : Accounts k line (x s))
    (hnext : ∀ a t, x s = .ok a t → t.On line → Accounts k line (f a t)) :
    Accounts k line ((x >>= f) s) := by
  rw [bind_apply]
  cases hx : x s with
  | ok a t =>
    rw [hx] at h
    cases h with
    | ok on => exact hnext a t hx on
  | error e t =>
    rw [hx] at h
    cases h with
    | fault => exact .fault
    | scan left => exact .scan left

/-- Wherever a rule starts on a line, it may end as it does. -/
def Accounted (k : Calculator) (line : Line) (rule : Rule α) : Prop :=
  ∀ s : Scanner, s.On line → Accounts k line (rule s)

namespace Accounted

variable {x : Rule α}

/-- An answer leaves the scanner on the line. -/
theorem pure (a : α) : Accounted k line (pure a) := fun _ hs => .ok hs

/-- A fault complains of nothing. -/
theorem fault (f : Fault) : Accounted k line (Rule.fault f : Rule α) := fun _ _ => .fault

/-- Rules that end as they may do so one after another. -/
theorem bind {f : α → Rule β} (h : Accounted k line x) (hnext : ∀ a, Accounted k line (f a)) :
    Accounted k line (x >>= f) :=
  fun s hs => (h s hs).bind fun a t _ ht => hnext a t ht

/-- So do rules that branch. -/
theorem branch {c : Prop} [Decidable c] {y : Rule α} (yes : c → Accounted k line x)
    (no : ¬ c → Accounted k line y) : Accounted k line (if c then x else y) := by
  split
  · next h => exact yes h
  · next h => exact no h

/-- A complaint of anything else. -/
theorem complain {c : Complaint} (h : c.isUnclosed = false) :
    Accounted k line (k.complain c : Rule α) := by
  intro s hs
  rw [Calculator.complain, Rule.complain_of_no_hook c hs.hook_eq]
  refine .scan fun name hopen => ?_
  have hsame : c = .unclosedCall name := hopen
  rw [hsame] at h
  cases h

/-- A complaint that names a column, or a fault if it cannot be written. -/
theorem complainAt {c : Complaint} (h : c.isUnclosed = false) (column : Int) :
    Accounted k line (k.complainAt column c : Rule α) := by
  intro s hs
  rw [Calculator.complainAt, Rule.complainAt]
  split
  · exact complain (k := k) h s hs
  · exact .fault

/-- A rule that only looks at the state. -/
theorem looks (f : ScanState → α) : Accounted k line (do Pure.pure (f (← get).state)) :=
  fun _ hs => .ok hs

end Accounted

/-! ## The parts of the grammar -/

namespace Accounted

/-- What a rule looks for is found or not, unless an integer is too large. -/
theorem accept {target : Target} (h : Sought k target) :
    Accounted k line (Rule.acceptTarget k.setting target) := by
  intro s hs
  obtain ⟨text, hstands⟩ := hs.stands
  -- a single character is either passed or left where it is, and is no complaint in either case
  have probed : ∀ {c : Char}, Probes k.setting target c →
      Accounts k line (Rule.acceptTarget k.setting target s) := by
    intro c hprobes
    cases hafter : text.after? c with
    | some rest =>
      obtain ⟨t, ht, hrest⟩ := hprobes.hit hstands hafter
      exact ht ▸ .ok hrest.on.1
    | none =>
      obtain ⟨t, ht, htext, -⟩ := hprobes.miss hstands hafter
      exact ht ▸ .ok htext.on.1
  cases h with
  | @mark c hmark =>
    have hmarks : marks.all (fun c => !Text.isBlank c && c != Line.nul) = true := by decide
    have hc := List.all_eq_true.mp hmarks c hmark
    exact probed (Grammar.probes_mark k c (by simpa using hc))
  | obelus => exact probed (Grammar.probes_obelus k)
  | endOfLine =>
    obtain ⟨t, ht, hrest⟩ := accept_endOfLine k.setting hstands
    exact ht ▸ .ok hrest.on.1
  | int =>
    cases hread : Grammar.Numeral.read? text with
    | none =>
      obtain ⟨t, ht, htext, -⟩ := Grammar.accept_int_of_none k hstands hread
      exact ht ▸ .ok htext.on.1
    | some word =>
      by_cases hle : word.1.value ≤ k.maxInt
      · obtain ⟨t, ht, hrest, -⟩ := Grammar.accept_int_of_le hstands hread hle
        exact ht ▸ .ok hrest.on.1
      -- the one complaint an attempt can make is that of an integer that is too large
      · obtain ⟨e, t, ht, hover⟩ := Grammar.accept_int_of_lt hstands hread (Int.not_le.mp hle)
        exact ht ▸ .scan fun name hopen => by cases hover.symm.trans hopen
  | last =>
    obtain ⟨t, ht, hend, hgoing⟩ := Grammar.accept_end k hstands
    by_cases hahead : text.ahead = []
    · exact ht ▸ .ok (hend hahead).on.1
    · exact ht ▸ .ok (hgoing hahead).1.on.1

/-- Trying a name stays on the line. -/
theorem ident : Accounted k line (Rule.acceptTarget k.setting (.terminal identTerminal)) := by
  intro s hs
  obtain ⟨text, hstands⟩ := hs.stands
  cases hread : Grammar.Identifier.read? text with
  | some word =>
    obtain ⟨t, ht, hrest, -⟩ := Grammar.accept_ident_of_some k hstands hread
    exact ht ▸ .ok hrest.on.1
  | none =>
    obtain ⟨t, ht, htext⟩ := Grammar.accept_ident_of_none k hstands hread
    exact ht ▸ .ok htext.on.1

/-- Requiring what the rules look for complains of no open call. -/
theorem expect {target : Target} (h : Sought k target) :
    Accounted k line (Rule.expectTarget k.setting target none) := by
  refine (accept h).bind fun found => branch (fun _ => .pure ()) fun _ s hs => ?_
  exact complainAt (c := .expected target.label s.state.errorColumn) rfl _ s hs

/-- Looking at the text of the last match stays on the line. -/
theorem scannedText : Accounted k line Calculator.scannedText := by
  intro s hs
  simp only [Calculator.scannedText, bind_apply, get_apply]
  cases s.state.value <;> exact .ok hs

/-- Looking at the value of the last match stays on the line. -/
theorem scannedInt : Accounted k line Calculator.scannedInt := by
  intro s hs
  simp only [Calculator.scannedInt, bind_apply, get_apply]
  cases s.state.value <;> exact .ok hs

/-- Looking up a variable stays on the line, and complains of no open call. -/
theorem value (name : String) : Accounted k line (k.variableValue name) := by
  unfold Calculator.variableValue
  split
  · exact complain rfl
  · split
    · exact .pure _
    · exact fault _

/-- Drawing a random number stays on the line. -/
theorem draw (limit : Int) : Accounted k line (drawRandom k.source limit) := by
  intro s hs
  simp only [drawRandom, bind_apply, get_apply, modify_apply]
  cases k.source.draw s.journal.draws limit with
  | ok n => exact .ok ⟨hs.line_eq, hs.cursor_nonneg, hs.cursor_le, hs.hook_eq⟩
  | error f => exact .fault

/-- Applying a function stays on the line, and complains of no open call. -/
theorem apply (function : Builtin) (args : List Int) :
    Accounted k line (function.apply k.source args) := by
  cases function with
  | total f => exact .pure _
  | least =>
    rw [Builtin.apply]
    cases leastOf args with
    | none => exact fault _
    | some n => exact .pure n
  | greatest =>
    rw [Builtin.apply]
    cases greatestOf args with
    | none => exact fault _
    | some n => exact .pure n
  | random limit =>
    cases args with
    | nil => exact draw limit
    | cons arg args =>
      refine bind (fun s hs => ?_) fun _ => draw limit
      exact .ok ⟨hs.line_eq, hs.cursor_nonneg, hs.cursor_le, hs.hook_eq⟩

section

variable {depth : Nat} (nested : Accounted k line (k.primary depth))

include nested

/-- The loop of a factor complains only of calls that its primaries leave open. -/
theorem factorLoop (fuel : Nat) (n : Int) :
    Accounted k line (factorLoop k (k.primary depth) fuel n) := by
  induction fuel generalizing n with
  | zero => exact .pure n
  | succ fuel ih =>
    have divided : ∀ divide : Bool, Accounted k line (if divide = true then
        k.primary depth >>= fun d => if d = 0 then
            (k.complain .divisionByZero : Rule PUnit) >>= fun _ =>
              Calculator.factorLoop k (k.primary depth) fuel (truncDiv n d)
          else Calculator.factorLoop k (k.primary depth) fuel (truncDiv n d)
        else Pure.pure n) := by
      intro divide
      refine branch (fun _ => nested.bind fun d => ?_) fun _ => .pure n
      exact branch (fun _ => bind (complain rfl) fun _ => ih _) fun _ => ih _
    refine (accept (.mark (by decide))).bind fun times => branch (fun _ => ?_) fun _ => ?_
    · exact nested.bind fun d => ih _
    · refine (accept (.mark (by decide))).bind fun slash => branch (fun _ => ?_) fun _ => ?_
      · exact (Accounted.pure true).bind divided
      · exact (accept .obelus).bind divided

/-- A factor complains only of calls that its primaries leave open. -/
theorem factor : Accounted k line (factor k (k.primary depth)) :=
  nested.bind fun n => (looks fun state => state.line.length + 1).bind fun fuel =>
    factorLoop nested fuel n

/-- The loop of a term complains only of calls that its primaries leave open. -/
theorem termLoop (fuel : Nat) (n : Int) :
    Accounted k line (termLoop k (k.primary depth) fuel n) := by
  induction fuel generalizing n with
  | zero => exact .pure n
  | succ fuel ih =>
    refine (accept (.mark (by decide))).bind fun plus => branch (fun _ => ?_) fun _ => ?_
    · exact (factor nested).bind fun d => ih _
    · refine (accept (.mark (by decide))).bind fun minus => branch (fun _ => ?_) fun _ => ?_
      · exact (factor nested).bind fun d => ih _
      · exact .pure n

/-- A term complains only of calls that its primaries leave open. -/
theorem term : Accounted k line (term k (k.primary depth)) :=
  (factor nested).bind fun n => (looks fun state => state.line.length + 1).bind fun fuel =>
    termLoop nested fuel n

/-- It is after an argument that a call is found to be left open. -/
theorem argument {f : Int → Rule α} (name : String) (hnext : ∀ n, Accounted k line (f n)) :
    Accounted k line (Calculator.term k (k.primary depth) >>= fun n =>
      k.acceptChar ',' >>= fun comma =>
        if (!comma) = true then
          Rule.acceptTarget k.setting .endOfLine >>= fun ended =>
            if ended = true then (k.complain (.unclosedCall name) : Rule Unit) >>= fun _ => f n
            else f n
        else f n) := by
  intro s hs
  refine (term nested s hs).bind fun n after hargument hafter => ?_
  refine (accept (.mark (by decide)) after hafter).bind fun comma start hcomma hstart => ?_
  cases comma with
  | true => exact hnext n start hstart
  | false =>
    refine (accept .endOfLine start hstart).bind fun ended stop hended hstop => ?_
    cases ended with
    | false => exact hnext n stop hstop
    | true =>
      -- nothing comes after the complaint, and it is this call that is left open
      have hcut : (k.complain (.unclosedCall name) : Rule Unit) >>= (fun _ => f n) =
          k.complain (.unclosedCall name) := Rule.complain_bind k.setting _ _
      change Accounts k line (((k.complain (.unclosedCall name) : Rule Unit) >>= fun _ => f n) stop)
      rw [hcut, Calculator.complain, Rule.complain_of_no_hook _ hstop.hook_eq]
      refine .scan fun name' hsame => ⟨after, .intro hargument hafter hcomma hended ?_⟩
      cases hsame
      exact Rule.complain_of_no_hook _ hstop.hook_eq

/-- The arguments of a call complain of the call only after an argument without a comma before such
an end. -/
theorem arguments (name : String) (room : Nat) :
    Accounted k line (arguments k (k.primary depth) name room) := by
  induction room with
  | zero =>
    refine (accept (.mark (by decide))).bind fun closed => branch (fun _ => .pure []) fun _ => ?_
    exact complain rfl
  | succ room ih =>
    refine (accept (.mark (by decide))).bind fun closed => branch (fun _ => .pure []) fun _ => ?_
    exact argument nested name fun n => ih.bind fun others => .pure _

/-- A call that is complained of as unclosed has been left open. -/
theorem call (name : String) : Accounted k line (call k (k.primary depth) name) := by
  unfold Calculator.call
  cases k.functions.get? name with
  | none => exact complain rfl
  | some function =>
    refine (arguments nested name _).bind fun args => branch (fun _ => ?_) fun _ => apply _ _
    exact bind (complain rfl) fun _ => apply _ _

/-- A primary complains only of calls that have been left open. -/
theorem primaryWith : Accounted k line (primaryWith k (k.primary depth)) := by
  refine ident.bind fun found => branch (fun _ => ?_) fun _ => ?_
  · refine scannedText.bind fun name => ?_
    refine (accept (.mark (by decide))).bind fun called => branch (fun _ => ?_) fun _ => value name
    exact call nested name
  refine (accept (.mark (by decide))).bind fun opened => branch (fun _ => ?_) fun _ => ?_
  · exact (term nested).bind fun n => (expect (.mark (by decide))).bind fun _ => .pure n
  refine (accept (.mark (by decide))).bind fun minus => branch (fun _ => ?_) fun _ => ?_
  · exact nested.bind fun n => .pure (-n)
  refine (accept (.mark (by decide))).bind fun plus => branch (fun _ => nested) fun _ => ?_
  refine (accept .int).bind fun written => branch (fun _ => scannedInt) fun _ => ?_
  exact (looks ScanState.errorColumn).bind fun column => complainAt rfl column

end

/-- So do primaries of every depth, by induction on the depth. -/
theorem primary (depth : Nat) : Accounted k line (k.primary depth) := by
  induction depth with
  | zero => exact complain rfl
  | succ depth ih => exact primaryWith ih

/-- Every rule that a line can be read by. -/
theorem rule (entrance : Entrance) : Accounted k line (k.rule entrance) := by
  have hprimary : Accounted k line (k.primary k.maxDepth.toNat) := primary _
  cases entrance with
  | expr => exact (term hprimary).bind fun n => (expect .last).bind fun _ => .pure n
  | term => exact term hprimary
  | factor => exact factor hprimary
  | primary => exact hprimary

end Accounted

/-- Reading a line complains only of calls that have been left open. -/
theorem accounts_read (k : Calculator) (entrance : Entrance) (line : Line) (s : Scanner) :
    Accounts k line (k.read entrance line s) := by
  have hrule := Accounted.rule (k := k) entrance (s.startLine line)
    (Grammar.stands_startLine s line).on.1
  simp only [read, Rule.parse, Rule.reset, Rule.onCleanup, bind_apply, modify_apply, lift_apply,
    pure_apply]
  cases hresult : k.rule entrance (s.startLine line) with
  | ok n t =>
    rw [hresult] at hrule
    cases hrule with
    | ok on => exact .ok ⟨on.line_eq, on.cursor_nonneg, on.cursor_le, rfl⟩
  | error failure t =>
    rw [hresult] at hrule
    cases hrule with
    | fault => exact .fault
    | scan left => exact .scan left

/-- The character target for the end of the line is accepted where only blanks are left, as the
terminal is, but also where a NUL comes next; anywhere else the two answer the same and leave the
same cursor. So a line is said to have an unclosed call only if an argument was read in it after
which only blanks are left or a NUL comes next. -/
theorem endOfLine_is_end_or_nul (k : Calculator) :
    (∀ s : Scanner, 0 ≤ s.state.cursor → s.state.cursor ≤ s.state.line.length → k.EndsAlike s) ∧
    ∀ (entrance : Entrance) (line : Line) (s : Scanner) (e : ScanError) (t : Scanner)
      (name : String), k.read entrance line s = .error (.scan e) t →
        e.complaint = .unclosedCall name →
        ∃ after, LeftOpen k line name e t after ∧
          (after.state.rest.IsBlank ∨ after.state.rest.NulNext) := by
  refine ⟨k.endsAlike, fun entrance line s e t name herr hopen => ?_⟩
  have haccounts := k.accounts_read entrance line s
  rw [herr] at haccounts
  cases haccounts with
  | scan left =>
    obtain ⟨after, hafter⟩ := left name hopen
    exact ⟨after, hafter, hafter.rest⟩

/-- The call `min(1` is left open after its argument. -/
theorem endOfLine_is_end_or_nul_min :
    ∃ e t, ({} : Calculator).read .expr "min(1 ".toList {} = .error (.scan e) t ∧
      e.complaint = .unclosedCall "min" ∧
      ∃ after, LeftOpen {} "min(1 ".toList "min" e t after ∧
        (after.state.rest.IsBlank ∨ after.state.rest.NulNext) := by
  have herror : Result.scanError? (({} : Calculator).read .expr "min(1 ".toList {}) =
      some ⟨.unclosedCall "min", 7, "min(1 ".toList, some 0⟩ := by decide +kernel
  obtain ⟨t, hread⟩ := Result.eq_error_of_scanError? herror
  exact ⟨_, t, hread, rfl, (endOfLine_is_end_or_nul {}).2 .expr _ {} _ t "min" hread rfl⟩

/-- A NUL before a parenthesis is taken for the end of the line by the character target only, and so
a call that is closed after it is said to be unclosed. -/
theorem endOfLine_before_parenthesis :
    let k : Calculator := {}
    let s : Scanner := { state := .start "\x00)".toList }
    (∃ t, Rule.accept k.setting (.target .endOfLine) s = .ok true t ∧
      t.state.rest = "\x00)".toList) ∧
    ¬ s.state.rest.IsBlank ∧
    (∃ t, Rule.accept k.setting (.target (.terminal endTerminal)) s = .ok false t) ∧
    (Result.scanError? (k.evaluate "min(1\x00)".toList s)).map ScanError.complaint =
      some (.unclosedCall "min") := by
  intro k s
  have hrest : s.state.rest = "\x00)".toList := by decide
  refine ⟨⟨_, rfl, rfl⟩, fun hblank => ?_, ⟨_, rfl⟩, by decide +kernel⟩
  exact absurd (hblank ')' (hrest ▸ by decide)) (by decide)

end Calculator

end LineScan
