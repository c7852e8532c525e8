import LineScan.Diagnostics
import LineScan.Proofs.Excused
import LineScan.Proofs.Independence
import LineScan.Proofs.Pointing
import LineScan.Proofs.WholeRun

/-!
# Documents and runs

There are two ways to have the lines of a text evaluated: as a document, whose errors become
diagnostics, and as an input stream, whose lines a run goes over. The two agree on a line if they
agree on where it is. A document breaks at more characters than a stream, so they do until the first
of these; from there on, a document counts its lines differently, and it may break a line in two
that is one for a run.

Random numbers apart, what becomes of a line does not depend on the lines before it, nor on where
random numbers come from. That is seen by comparing two calculators up to the first random number
that is drawn.

## Main statements

* `Text.documentLinesFrom_prefix`: how far documents and streams have the same lines.
* `evaluate_of_undrawn`: a line that draws no random number comes to the same anywhere.
* `Diagnostic.agrees_with_run`: a document has a diagnostic where a run reports an error.
-/

namespace LineScan

open Calculator

/-! ## Lines -/

namespace Text

/-- A line of a stream has in it all that was read of it. -/
theorem mem_of_streamLinesFrom {current text : List Char} {line : Line} {rest : List Line}
    (h : streamLinesFrom current text = line :: rest) {c : Char} (hc : c ∈ current) : c ∈ line := by
  induction text generalizing current with
  | nil =>
    rw [streamLinesFrom] at h
    split at h
    · cases h
    · obtain ⟨rfl, -⟩ := List.cons.inj h
      exact List.mem_reverse.mpr hc
  | cons d text ih =>
    rw [streamLinesFrom] at h
    split at h
    · obtain ⟨rfl, -⟩ := List.cons.inj h
      exact List.mem_reverse.mpr (List.mem_cons_of_mem d hc)
    · exact ih h (List.mem_cons_of_mem d hc)

section

variable {current : List Char} (h : ∀ c ∈ current, isBreak c = false)

include h

/-- An open line has no ends of lines to drop. -/
theorem dropWhile_ends : current.dropWhile (fun c => c == '\r' || c == '\n') = current := by
  cases current with
  | nil => rfl
  | cons c current =>
    refine List.dropWhile_cons_of_neg fun hend => ?_
    have hc := h c (List.mem_cons_self ..)
    rcases Bool.or_eq_true_iff.mp hend with hend | hend
    · rw [beq_iff_eq.mp hend] at hc
      cases hc
    · rw [beq_iff_eq.mp hend] at hc
      cases hc

/-- An open line is not shortened. -/
theorem chomp_reverse : chomp current.reverse = current.reverse := by
  rw [chomp, Line.dropEndWhile, List.reverse_reverse, dropWhile_ends h]

/-- The end of a line is all that it loses. -/
theorem chomp_ended : chomp ('\n' :: current).reverse = current.reverse := by
  rw [chomp, Line.dropEndWhile, List.reverse_reverse, List.dropWhile_cons_of_pos rfl,
    dropWhile_ends h]

end

/-- Where a line ends in a stream and in a document, it is the same line, and the others follow. -/
theorem prefix_cons_of_ended {current : List Char} (hcurrent : ∀ c ∈ current, isBreak c = false)
    {lines documents before after : List Line}
    (hlines : ('\n' :: current).reverse :: lines = before ++ after)
    (hothers : ∀ others ⊆ before, lines = others ++ after → others.map chomp <+: documents) :
    before.map chomp <+: current.reverse :: documents := by
  cases before with
  | nil => exact List.nil_prefix
  | cons line others =>
    obtain ⟨rfl, hrest⟩ := List.cons.inj hlines
    rw [List.map_cons, chomp_ended hcurrent]
    exact List.cons_prefix_cons.mpr ⟨rfl, hothers others (List.subset_cons_self ..) hrest⟩

/-- A document has the lines that a stream has, up to the first that has a break in it other than
its line feed. -/
theorem documentLinesFrom_prefix {text : List Char} {current : Option (List Char)}
    {before after : List Line} (hcurrent : ∀ c ∈ current.getD [], isBreak c = false)
    (hlines : streamLinesFrom (current.getD []) (unifyBreaks text) = before ++ after)
    (hbreaks : ∀ line ∈ before, ∀ c ∈ line, isBreak c = true → c = '\n') :
    before.map chomp <+: documentLinesFrom current text := by
  fun_induction documentLinesFrom current text generalizing before with
  | case1 current =>
    rw [unifyBreaks, streamLinesFrom] at hlines
    -- a text that ends here has one more line if anything stands since the last break
    cases current with
    | none =>
      obtain ⟨rfl, -⟩ := List.nil_eq_append_iff.mp hlines
      exact List.nil_prefix
    | some current =>
      split at hlines
      · obtain ⟨rfl, -⟩ := List.nil_eq_append_iff.mp hlines
        exact List.nil_prefix
      · have hprefix : before <+: [current.reverse] := ⟨after, hlines.symm⟩
        have hchomp : chomp current.reverse = current.reverse := chomp_reverse hcurrent
        have hchomped := hprefix.map chomp
        rwa [List.map_singleton, hchomp] at hchomped
  | case2 current rest ih =>
    refine prefix_cons_of_ended hcurrent hlines fun others hothers hlines => ?_
    exact ih nofun hlines fun line hline => hbreaks line (hothers hline)
  | case3 current c rest hpair hbreak ih =>
    rw [unifyBreaks] at hlines
    · by_cases hend : c = '\r' ∨ c = '\n'
      · have hfeed : (if c == '\r' then '\n' else c) = '\n' := by
          rcases hend with rfl | rfl <;> rfl
        rw [hfeed] at hlines
        refine prefix_cons_of_ended hcurrent hlines fun others hothers hlines => ?_
        exact ih nofun hlines fun line hline => hbreaks line (hothers hline)
      · -- the stream goes on with the line, which has the break in it
        obtain ⟨hreturn, hfeed⟩ := not_or.mp hend
        rw [if_neg (mt beq_iff_eq.mp hreturn), streamLinesFrom,
          if_neg (mt beq_iff_eq.mp hfeed)] at hlines
        cases before with
        | nil => exact List.nil_prefix
        | cons line others =>
          have hmem : c ∈ line := mem_of_streamLinesFrom hlines (List.mem_cons_self ..)
          exact absurd (hbreaks line (List.mem_cons_self ..) c hmem hbreak) hfeed
    · exact hpair
  | case4 current c rest hpair hbreak ih =>
    rw [Bool.not_eq_true] at hbreak
    have hreturn : ¬ c = '\r' := by
      rintro rfl
      cases hbreak
    have hfeed : ¬ c = '\n' := by
      rintro rfl
      cases hbreak
    rw [unifyBreaks, if_neg (mt beq_iff_eq.mp hreturn), streamLinesFrom,
      if_neg (mt beq_iff_eq.mp hfeed)] at hlines
    · refine ih ?_ hlines hbreaks
      exact List.forall_mem_cons.mpr ⟨hbreak, hcurrent⟩
    · exact hpair

/-- So a line of a stream is the line of the document with the same number, if neither it nor a line
before it has another break in it. -/
theorem exists_documentLines {text : List Char} {before after : List Line} {line : Line}
    (hlines : streamLines text = before ++ line :: after)
    (hbreaks : ∀ line' ∈ before ++ [line], ∀ c ∈ line', isBreak c = true → c = '\n') :
    ∃ others, documentLines text = before.map chomp ++ chomp line :: others := by
  have hsplit : streamLines text = (before ++ [line]) ++ after := by
    rw [hlines, List.append_assoc, List.singleton_append]
  have hprefix : (before ++ [line]).map chomp <+: documentLinesFrom none text :=
    documentLinesFrom_prefix nofun hsplit hbreaks
  obtain ⟨others, hothers⟩ := hprefix
  refine ⟨others, ?_⟩
  rw [documentLines, ← hothers, List.map_append, List.append_assoc]
  rfl

end Text

/-! ## Lines that draw no random number -/

/-- A comparison up to the first random number, whatever has been drawn before. -/
def undrawn : Leeway where
  draws _ _ := True
  gone draws := 0 < draws
  spared _ := False

/-- A function that draws a random number uses up the leeway of a comparison without draws. -/
theorem Leeway.Drawn.random (source : RandomSource) (limit : Int) (args : List Int) {s : Scanner}
    (hook : s.hook = none) :
    undrawn.Drawn (Result.state ((Builtin.random limit).apply source args s)) := by
  have hdraw : ∀ s : Scanner, s.hook = none →
      undrawn.Drawn (Result.state (drawRandom source limit s)) := by
    intro s hook
    simp only [drawRandom, bind_apply, get_apply, modify_apply]
    cases source.draw s.journal.draws limit <;> exact ⟨hook, Nat.succ_pos _⟩
  cases args with
  | nil => exact hdraw s hook
  | cons n others => exact hdraw _ hook

/-- Functions that draw no random number do the same with any source. -/
theorem excused_apply_undrawn {id : Nat} (source source' : RandomSource) (function : Builtin)
    (args : List Int) :
    Excused undrawn id (function.apply source args) (function.apply source' args) := by
  cases function with
  | total f => exact .pure _
  | least =>
    simp only [Builtin.apply]
    cases leastOf args with
    | none => exact .fault _
    | some n => exact .pure n
  | greatest =>
    simp only [Builtin.apply]
    cases greatestOf args with
    | none => exact .fault _
    | some n => exact .pure n
  | random limit =>
    exact ⟨fun s h => .random source limit args h.hook_eq,
      fun s t h => .inl (.drawn (.random source limit args h.same.hook_left))⟩

/-- A line that draws no random number comes to the same with any source of them and after any
others. -/
theorem evaluate_of_undrawn {k : Calculator} {line : Line}
    (h : (Result.state (k.evaluate line {})).journal.draws = 0) (source : RandomSource)
    {s : Scanner} (hid : s.id = 0) :
    Result.answer ({ k with source := source : Calculator }.evaluate line s) = k.alone line := by
  have helements : Elements k { k with source := source } (Excused undrawn 0) :=
    Excused.elements rfl rfl rfl (.accept rfl _) (excused_apply_undrawn k.source source)
  have hexpr : Excused undrawn 0 k.expr { k with source := source : Calculator }.expr :=
    helements.abreast.expr (helements.abreast.primary _)
  rcases hexpr.evaluate line (s := {}) rfl hid trivial with hexcused | hstep
  · rw [alone]
    generalize k.evaluate line {} = r at h hexcused
    cases hexcused with
    | drawn hdrawn => exact absurd h (Nat.ne_of_gt hdrawn.gone)
    | spared hspared => exact hspared.elim
  · exact hstep.answer_eq.symm

/-! ## Diagnostics of a line -/

namespace Diagnostic

/-- The diagnostics of a line, given what evaluating it came to. -/
def ofOutcome (index : Nat) : Except Failure Int → List Diagnostic
  | .error (.scan e) => [ofError index e]
  | _ => []

/-- The diagnostics of a line are numbered by it. -/
theorem line_of_mem_ofOutcome {index : Nat} {outcome : Except Failure Int} {d : Diagnostic}
    (h : d ∈ ofOutcome index outcome) : d.start.line = index := by
  unfold ofOutcome at h
  split at h
  · rw [List.mem_singleton.mp h]
    rfl
  · cases h

/-- The diagnostics at a line. -/
def atLine (diagnostics : List Diagnostic) (index : Nat) : List Diagnostic :=
  diagnostics.filter fun d => d.start.line = index

/-- The diagnostics at a line are looked for in the first ones and in the others. -/
theorem atLine_append (first others : List Diagnostic) (index : Nat) :
    atLine (first ++ others) index = atLine first index ++ atLine others index :=
  List.filter_append ..

/-- If all diagnostics are at a line, so are all of them there. -/
theorem atLine_eq_self {diagnostics : List Diagnostic} {index : Nat}
    (h : ∀ d ∈ diagnostics, d.start.line = index) : atLine diagnostics index = diagnostics :=
  List.filter_eq_self.mpr fun d hd => decide_eq_true (h d hd)

/-- If no diagnostic is at a line, there is none there. -/
theorem atLine_eq_nil {diagnostics : List Diagnostic} {index : Nat}
    (h : ∀ d ∈ diagnostics, d.start.line ≠ index) : atLine diagnostics index = [] :=
  List.filter_eq_nil_iff.mpr fun d hd => mt of_decide_eq_true (h d hd)

end Diagnostic

/-! ## Calculators without faults -/

section

variable {k : Calculator} (hadmits : k.Admits fun _ => False)

include hadmits

/-- A line has a value or an error, if there are no faults. -/
theorem evaluate_of_admits (line : Line) {s : Scanner} (hid : s.id = 0) :
    (∃ n s', k.evaluate line s = .ok n s' ∧ s'.id = 0) ∨
      ∃ e s', k.evaluate line s = .error (.scan e) s' ∧ s'.id = 0 ∧ e.origin = some 0 := by
  have hbehind := Calculator.evaluate_behind hadmits line s
  rw [hid] at hbehind
  generalize k.evaluate line s = r, k.evaluate line (.drawn 0 s.journal.draws) = r' at hbehind ⊢
  match r, r', hbehind with
  | .ok n s', _, .ok post =>
    obtain ⟨rfl, hwork⟩ := post
    exact .inl ⟨n, _, rfl, hwork.id_eq⟩
  | .error (.scan e) s', _, .error post =>
    obtain ⟨⟨rfl, hwork⟩, hpoints⟩ := post
    exact .inr ⟨e, _, rfl, hwork.id_eq, hpoints.origin_eq⟩
  | .error (.fault f) s', _, .error post => exact post.2.elim

/-! ### Documents -/

namespace Diagnostic

/-- The first of some lines adds its own diagnostics to those of the others. -/
theorem ofLines_cons (index : Nat) (line : Line) {s : Scanner} (hid : s.id = 0) :
    ∃ own s₁, s₁.id = 0 ∧ (∀ d ∈ own, d.start.line = index) ∧
      (Text.isAllWhitespace line = false →
        own = ofOutcome index (Result.answer (k.evaluate line s))) ∧
      ∀ rest, ofLines k index (line :: rest) s =
        match ofLines k (index + 1) rest s₁ with
        | .ok others s' => .ok (own ++ others) s'
        | .error f s' => .error f s' := by
  cases hblank : Text.isAllWhitespace line with
  | true =>
    refine ⟨[], s, hid, nofun, nofun, fun rest => (congrFun (if_pos hblank) s).trans ?_⟩
    cases ofLines k (index + 1) rest s <;> rfl
  | false =>
    obtain ⟨n, s₁, heval, hid₁⟩ | ⟨e, s₁, heval, hid₁, -⟩ := evaluate_of_admits hadmits line hid
    all_goals
      refine ⟨_, s₁, hid₁, fun d => line_of_mem_ofOutcome, fun _ => rfl, fun rest => ?_⟩
      refine (congrFun (if_neg (ne_true_of_eq_false hblank)) s).trans ?_
      simp only [heval]
      cases ofLines k (index + 1) rest s₁ <;> rfl

/-- Some lines have diagnostics at their own numbers only. -/
theorem ofLines_returns (lines : List Line) (index : Nat) {s : Scanner} (hid : s.id = 0) :
    ∃ diagnostics s', ofLines k index lines s = .ok diagnostics s' ∧
      ∀ d ∈ diagnostics, index ≤ d.start.line := by
  induction lines generalizing index s with
  | nil => exact ⟨[], s, rfl, nofun⟩
  | cons line rest ih =>
    obtain ⟨own, s₁, hid₁, hown, -, hcons⟩ := ofLines_cons hadmits index line hid
    obtain ⟨others, s', hrest, hothers⟩ := ih (index + 1) hid₁
    refine ⟨own ++ others, s', by rw [hcons, hrest], fun d hd => ?_⟩
    rcases List.mem_append.mp hd with hd | hd
    · exact Nat.le_of_eq (hown d hd).symm
    · exact Nat.le_of_succ_le (hothers d hd)

/-- The diagnostics at a line are its own, by what it comes to after the lines before it. -/
theorem ofLines_atLine (before after : List Line) {line : Line}
    (hblank : Text.isAllWhitespace line = false) (index : Nat) {s : Scanner} (hid : s.id = 0) :
    ∃ diagnostics s' t, ofLines k index (before ++ line :: after) s = .ok diagnostics s' ∧
      t.id = 0 ∧ atLine diagnostics (index + before.length) =
        ofOutcome (index + before.length) (Result.answer (k.evaluate line t)) := by
  induction before generalizing index s with
  | nil =>
    obtain ⟨own, s₁, hid₁, hown, houtcome, hcons⟩ := ofLines_cons hadmits index line hid
    obtain ⟨others, s', hrest, hothers⟩ := ofLines_returns hadmits after (index + 1) hid₁
    refine ⟨own ++ others, s', s, by rw [List.nil_append, hcons, hrest], hid, ?_⟩
    rw [List.length_nil, Nat.add_zero, atLine_append, atLine_eq_self hown,
      atLine_eq_nil fun d hd => Nat.ne_of_gt (hothers d hd), List.append_nil, houtcome hblank]
  | cons first before ih =>
    obtain ⟨own, s₁, hid₁, hown, -, hcons⟩ := ofLines_cons hadmits index first hid
    obtain ⟨others, s', t, hrest, hidt, hothers⟩ := ih (index + 1) hid₁
    have hnumber : index + (first :: before).length = index + 1 + before.length := by
      rw [List.length_cons]
      omega
    refine ⟨own ++ others, s', t, by rw [List.cons_append, hcons, hrest], hidt, ?_⟩
    rw [hnumber, atLine_append, atLine_eq_nil fun d hd => ?_, List.nil_append, hothers]
    have hline := hown d hd
    omega

end Diagnostic

/-! ### Runs -/

/-- What a sweep records of a line, given what it came to. -/
inductive Sweep.Records (line : Line) (w w' : Sweep Scanner Int) : Except Failure Int → Prop where
  | value {n : Int} (yielded : w'.yielded = w.yielded.push (line, n))
      (errors : w'.errors = w.errors) : Records line w w' (.ok n)
  | error {e : ScanError} (yielded : w'.yielded = w.yielded)
      (errors : w'.errors = w.errors.push e) : Records line w w' (.error (.scan e))

section

variable {use : Line → Int → Rule Unit} {handler : ScanError → Rule Unit}
  (uses : ∀ line n, Returns Scanner.id (use line n)) (handles : ∀ e, Returns Scanner.id (handler e))

include uses handles

/-- A run deals with a line by what it comes to. -/
theorem step_of_admits (line : Line) {w : Sweep Scanner Int} (hid : w.state.id = 0) :
    ∃ w', Sweep.step (k.plan (Sweep.handOn use) fun e => Sweep.onState (handler e)) line w =
        .ok () w' ∧ w'.state.id = 0 ∧
      Sweep.Records line w w' (Result.answer (k.evaluate line w.state)) := by
  obtain ⟨n, s, heval, hid'⟩ | ⟨e, s, heval, hid', horigin⟩ :=
    evaluate_of_admits hadmits line hid
  · obtain ⟨s', huse, hid''⟩ := uses line n s
    refine ⟨⟨s', w.yielded.push (line, n), w.errors⟩, ?_, hid''.trans hid', ?_⟩
    · simp only [Sweep.step, Calculator.plan, heval, Sweep.handOn, Sweep.onState, bind_apply, huse,
        pure_apply]
    · rw [heval]
      exact .value rfl rfl
  · obtain ⟨s', hhandle, hid''⟩ := handles e s
    refine ⟨⟨s', w.yielded, w.errors.push e⟩, ?_, hid''.trans hid', ?_⟩
    · simp only [Sweep.step, Calculator.plan, heval, Sweep.onState, hhandle, if_pos horigin]
    · rw [heval]
      exact .error rfl rfl

/-- So it deals with all lines. -/
theorem run_of_admits (lines : List Line) {w : Sweep Scanner Int} (hid : w.state.id = 0) :
    ∃ w', Sweep.run (k.plan (Sweep.handOn use) fun e => Sweep.onState (handler e)) lines w =
      .ok () w' ∧ w'.state.id = 0 := by
  induction lines generalizing w with
  | nil => exact ⟨w, rfl, hid⟩
  | cons line rest ih =>
    obtain ⟨w₁, hstep, hid₁, -⟩ := step_of_admits hadmits uses handles line hid
    obtain ⟨w', hrun, hid'⟩ := ih hid₁
    refine ⟨w', ?_, hid'⟩
    rw [Sweep.run, bind_apply, hstep]
    exact hrun

end

end

/-! ## Agreement -/

namespace Diagnostic

variable {env : Bindings String}

/-- A calculator for documents has no faults, if its variables can be read. -/
theorem calculator_admits {source : RandomSource}
    (readable : (calculator env source).ReadableVariables) :
    (calculator env source).Admits fun _ => False where
  reading hbound hread := by
    obtain ⟨n, hn⟩ := Grammar.leadingInteger_of_readable (readable _ _ hbound)
    rw [hn] at hread
    cases hread
  applying known applicable happly := by
    obtain ⟨index, hdraw⟩ := CommandLine.draw_of_defaultFunctions_fault known applicable happly
    exact CommandLine.draw_ne_error source index (by decide) _ hdraw

/-- An error that evaluating a line ends with points into the line. -/
theorem pointsInto_of_answer {k : Calculator} {line : Line} {s : Scanner} {e : ScanError}
    (h : Result.answer (k.evaluate line s) = .error (.scan e)) : e.PointsInto line s.id := by
  cases heval : k.evaluate line s with
  | ok n s' =>
    rw [heval] at h
    cases h
  | error failure s' =>
    rw [heval] at h
    cases h
    exact pointsInto_of_evaluate heval

/-- An error that evaluating a line ends with is at the first column or further on. -/
theorem one_le_position {k : Calculator} {line : Line} {s : Scanner} {e : ScanError}
    (h : Result.answer (k.evaluate line s) = .error (.scan e)) : 1 ≤ e.position :=
  (pointsInto_of_answer h).reached.column.1

/-- A run deals with a line as a document does: the line has a value and no diagnostic, or an error
and one diagnostic for it, with its message and at its column. -/
inductive Agrees (index : Nat) (line : Line) (w w' : Sweep Scanner Int) :
    List Diagnostic → Prop where
  | value {n : Int} (yielded : w'.yielded = w.yielded.push (line, n))
      (errors : w'.errors = w.errors) : Agrees index line w w' []
  | error {e : ScanError} (yielded : w'.yielded = w.yielded)
      (errors : w'.errors = w.errors.push e) :
      Agrees index line w w' [⟨⟨index, e.position - 1⟩, ⟨index, e.position⟩, e.message⟩]

/-- Documents and runs agree on every line of a text that is not white space throughout and draws no
random number, if neither the line nor one before it has a break in it besides the one at its end.
The random numbers of the two may be different ones. -/
theorem agrees_with_run {source : RandomSource}
    (readable : (calculator env source).ReadableVariables) {text : Line} {before after : List Line}
    {line : Line} (hlines : Text.streamLines text = before ++ line :: after)
    (hbreaks : ∀ line' ∈ before ++ [line], ∀ c ∈ line', Text.isBreak c = true → c = '\n')
    (hblank : Text.isAllWhitespace (Text.chomp line) = false)
    (hdraws : (Result.state ((calculator env source).evaluate (Text.chomp line) {})).journal.draws =
      0) (source' : RandomSource) {use : Line → Int → Rule Unit} {handler : ScanError → Rule Unit}
    (uses : ∀ line n, Returns Scanner.id (use line n))
    (handles : ∀ e, Returns Scanner.id (handler e)) :
    let onError := fun e => Sweep.onState (handler e)
    let plan := (calculator env source').plan (Sweep.handOn use) onError
    ∃ diagnostics s w w' last,
      ofDocument env source text = .ok diagnostics s ∧
      (calculator env source').run (Sweep.handOn use) onError (Text.streamLines text) =
        .ok () last ∧
      Sweep.run plan (before.map Text.chomp) { state := {} } = .ok () w ∧
      Sweep.step plan (Text.chomp line) w = .ok () w' ∧
      Sweep.run plan (after.map Text.chomp) w' = .ok () last ∧
      Agrees before.length (Text.chomp line) w w' (atLine diagnostics before.length) := by
  intro onError plan
  have hadmits := calculator_admits readable
  have hadmits' : (calculator env source').Admits fun _ => False := calculator_admits readable
  obtain ⟨others, hdocument⟩ := Text.exists_documentLines hlines hbreaks
  obtain ⟨diagnostics, s, t, hofLines, hid, hat⟩ :=
    ofLines_atLine hadmits (before.map Text.chomp) others hblank 0 (s := {}) rfl
  rw [← hdocument] at hofLines
  obtain ⟨w, hbefore, hidw⟩ := run_of_admits hadmits' uses handles (before.map Text.chomp)
    (w := { state := {} }) rfl
  obtain ⟨w', hstep, hidw', hrecords⟩ := step_of_admits hadmits' uses handles (Text.chomp line) hidw
  obtain ⟨last, hafter, -⟩ := run_of_admits hadmits' uses handles (after.map Text.chomp) hidw'
  refine ⟨diagnostics, s, w, w', last, hofLines, ?_, hbefore, hstep, hafter, ?_⟩
  · rw [Calculator.run, hlines, List.map_append, Sweep.run_append, hbefore]
    simp only [List.map_cons, Sweep.run, bind_apply]
    rw [hstep]
    exact hafter
  · -- both come to what the line comes to by itself
    have hdocument : Result.answer ((calculator env source).evaluate (Text.chomp line) t) =
        (calculator env source).alone (Text.chomp line) := evaluate_of_undrawn hdraws source hid
    have hrun : Result.answer ((calculator env source').evaluate (Text.chomp line) w.state) =
        (calculator env source).alone (Text.chomp line) := evaluate_of_undrawn hdraws source' hidw
    rw [Nat.zero_add, List.length_map, hdocument, ← hrun] at hat
    rw [hat]
    generalize houtcome : Result.answer ((calculator env source').evaluate (Text.chomp line)
      w.state) = outcome at hrecords
    cases hrecords with
    | value yielded errors => exact .value yielded errors
    | error yielded errors =>
      have hposition := one_le_position houtcome
      rw [ofOutcome, ofError, Int.max_eq_right (by omega), Int.sub_add_cancel]
      exact .error yielded errors

/-- A line after a random one, in a text with all three breaks that are known to both: the document
has a diagnostic for the error that a run with other random numbers reports. -/
theorem agrees_with_run_twoReturns :
    let text := "rand()\r\n2 +\rx*3\n".toList
    let plan := (calculator [("x", "7")] (.scripted [8])).plan (Sweep.handOn fun _ _ => pure ())
      fun _ => Sweep.onState (pure ())
    ∃ s w w' e, ofDocument [("x", "7")] (.scripted [5]) text =
        .ok [⟨⟨1, 3⟩, ⟨1, 4⟩, "syntax error at pos 4"⟩] s ∧
      Sweep.run plan ["rand()".toList] { state := {} } = .ok () w ∧
      Sweep.step plan "2 +".toList w = .ok () w' ∧
      w'.errors = w.errors.push e ∧ e.position = 4 ∧ e.message = "syntax error at pos 4" := by
  intro text plan
  have hreadable : (calculator [("x", "7")] (.scripted [5])).ReadableVariables := by
    intro name value hbound
    have hvalue : value = "7" := by
      simp only [calculator, Bindings.get?, List.lookup_cons, List.lookup_nil] at hbound
      split at hbound
      · exact (Option.some.inj hbound).symm
      · cases hbound
    rw [hvalue]
    decide
  have hlines : Text.streamLines text =
      ["rand()\n".toList] ++ "2 +\n".toList :: ["x*3\n".toList] := by decide +kernel
  have uses : ∀ (_ : Line) (_ : Int), Returns Scanner.id (pure ()) := fun _ _ s => ⟨s, rfl, rfl⟩
  have handles : ∀ _ : ScanError, Returns Scanner.id (pure ()) := fun _ s => ⟨s, rfl, rfl⟩
  have hbreaks : ∀ line' ∈ ["rand()\n".toList] ++ ["2 +\n".toList], ∀ c ∈ line',
      Text.isBreak c = true → c = '\n' := by
    have hall : (["rand()\n".toList] ++ ["2 +\n".toList]).all (fun line' =>
        line'.all fun c => !Text.isBreak c || c == '\n') = true := by decide
    intro line' hline' c hc hbreak
    have hc := List.all_eq_true.mp (List.all_eq_true.mp hall line' hline') c hc
    simpa [hbreak] using hc
  obtain ⟨diagnostics, s, w, w', -, hdocument, -, hbefore, hstep, -, hagrees⟩ :=
    agrees_with_run hreadable hlines hbreaks (by decide) (by decide +kernel) (.scripted [8])
      uses handles
  have hanswer : (Result.answer (ofDocument [("x", "7")] (.scripted [5]) text)).toOption =
      some [⟨⟨1, 3⟩, ⟨1, 4⟩, "syntax error at pos 4"⟩] := by decide +kernel
  rw [hdocument] at hanswer
  obtain rfl := Option.some.inj hanswer
  generalize hat : atLine _ _ = diagnostics at hagrees
  cases hagrees with
  | value yielded errors => cases hat
  | @error e yielded errors =>
    obtain ⟨-, hstop, hmessage⟩ := Diagnostic.mk.inj (List.cons.inj hat).1
    refine ⟨s, w, w', e, hdocument, hbefore, hstep, errors, ?_, hmessage.symm⟩
    exact (DocumentPosition.mk.inj hstop).2.symm

/-- A form feed ends a line of a document, but is a blank in a line of a stream: a line that a run
evaluates has a diagnostic. -/
theorem diagnostic_of_evaluated_line :
    let text := "1 +\x0c2".toList
    let run := (calculator [] (.scripted [])).run (Sweep.handOn fun _ _ => pure ())
      fun _ => Sweep.onState (pure ())
    Text.streamLines text = [text] ∧ Text.isAllWhitespace text = false ∧
      (Result.state ((calculator [] (.scripted [])).evaluate text {})).journal.draws = 0 ∧
      (Result.answer (run (Text.streamLines text))).toOption = some () ∧
      (Result.state (run (Text.streamLines text))).yielded = #[(text, 3)] ∧
      (Result.state (run (Text.streamLines text))).errors = #[] ∧
      (Result.answer (ofDocument [] (.scripted []) text)).toOption =
        some [⟨⟨0, 3⟩, ⟨0, 4⟩, "syntax error at pos 4"⟩] := by
  decide +kernel

end Diagnostic

end LineScan
