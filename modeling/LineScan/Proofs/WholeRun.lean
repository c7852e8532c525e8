import LineScan.Proofs.LineByLine

/-!
# What a run writes, and how it ends

A run over lines writes one line of output for each line that has a value and one report for each
line that has an error, both in the order of the input, and gives the number of errors. All that may
stand between the reports are notices about arguments that are ignored. This is so unless a line
asks for more than a run can do, such as for a value that is too long to be written. That ends a run
at once, and the lines after it are lost.

## Main statements

* `runLines_writes`: what a run writes if no line asks for too much, and the exit code.
* `runLines_returns_iff`: a run gives a number of errors exactly if no line asks for too much.
* `runLines_lost_line`: a value that is too long keeps the lines after it from being evaluated.
-/

namespace LineScan

open Calculator

/-! ## The texts of a journal -/

/-- The entry is a notice. -/
def Entry.isNotice : Entry → Bool
  | .notice _ => true
  | _ => false

namespace Journal

/-- The journal without its notices. -/
def withoutNotices (j : Journal) : Journal :=
  { j with entries := j.entries.filter fun e => !e.isNotice }

/-- A text of a journal is put together from its entries in order. -/
theorem textOf_eq_join (j : Journal) (f : Entry → String) :
    j.textOf f = String.join (j.entries.toList.map f) := by
  rw [textOf, ← Array.foldl_toList, String.join, List.foldl_map]

/-- Entries that add nothing to a text can be left out. -/
theorem join_filter {entries : List Entry} {p : Entry → Bool} {f : Entry → String}
    (h : ∀ e ∈ entries, p e = false → f e = "") :
    String.join (entries.map f) = String.join ((entries.filter p).map f) := by
  induction entries with
  | nil => rfl
  | cons e rest ih =>
    have hrest := ih fun e' he' => h e' (List.mem_cons_of_mem e he')
    rw [List.map_cons, String.join_cons, hrest, List.filter_cons]
    cases hp : p e with
    | true => rw [if_pos rfl, List.map_cons, String.join_cons]
    | false => rw [if_neg Bool.false_ne_true, h e (List.mem_cons_self ..) hp, String.empty_append]

end Journal

namespace CommandLine

variable {world : World} {options : Options} {lines : List Line}

/-! ## What is written -/

/-- The line of output for a line that has a value. -/
def outputLine? : Except Failure Int → Option String
  | .ok n => some (valueText n ++ "\n")
  | .error _ => none

/-- The report on a line that has an error, given its number. -/
def reportLine? (options : Options) : Except Failure Int × Nat → Option String
  | (.error (.scan e), number) => some (reportText options number e ++ "\n")
  | _ => none

/-- The texts of the entries for some lines are the texts that are written for each. -/
theorem join_lineEntries {f : LineScan.Entry → String}
    {written : Except Failure Int × Nat → Option String}
    (hwritten : ∀ outcome number, exceeds outcome = false →
      String.join ((lineEntry options number outcome).toList.map f) =
        String.join (written (outcome, number)).toList)
    (before : Nat) {outcomes : List (Except Failure Int)}
    (h : ∀ outcome ∈ outcomes, exceeds outcome = false) :
    String.join ((lineEntries options before outcomes).map f) =
      String.join ((outcomes.zipIdx (before + 1)).filterMap written) := by
  induction outcomes generalizing before with
  | nil => rfl
  | cons outcome rest ih =>
    have hrest := ih (before + 1) fun o ho => h o (List.mem_cons_of_mem outcome ho)
    have hfirst := hwritten outcome (before + 1) (h outcome (List.mem_cons_self ..))
    rw [lineEntries_cons, List.map_append, String.join_append, hrest, hfirst, List.zipIdx_cons,
      List.filterMap_cons]
    cases written (outcome, before + 1) with
    | none => exact String.empty_append
    | some text => rw [Option.toList_some, ← String.join_append, List.singleton_append]

/-- The output of the entries of some lines is that of the lines with a value. -/
theorem join_outputText (before : Nat) {outcomes : List (Except Failure Int)}
    (h : ∀ outcome ∈ outcomes, exceeds outcome = false) :
    String.join ((lineEntries options before outcomes).map LineScan.Entry.outputText) =
      String.join (outcomes.filterMap outputLine?) := by
  have hmap : (outcomes.zipIdx (before + 1)).filterMap (outputLine? ∘ Prod.fst) =
      outcomes.filterMap outputLine? := by
    rw [← List.filterMap_map, List.zipIdx_map_fst]
  rw [← hmap]
  refine join_lineEntries (fun outcome number hexceeds => ?_) before h
  cases outcome with
  | ok n =>
    rw [lineEntry_ok hexceeds]
    rfl
  | error failure =>
    cases failure with
    | scan e => rfl
    | fault f =>
      rw [lineEntry_fault]
      rfl

/-- The error stream of the entries of some lines is that of the lines with an error. -/
theorem join_errorText (before : Nat) {outcomes : List (Except Failure Int)}
    (h : ∀ outcome ∈ outcomes, exceeds outcome = false) :
    String.join ((lineEntries options before outcomes).map LineScan.Entry.errorText) =
      String.join ((outcomes.zipIdx (before + 1)).filterMap (reportLine? options)) := by
  refine join_lineEntries (fun outcome number hexceeds => ?_) before h
  cases outcome with
  | ok n =>
    rw [lineEntry_ok hexceeds]
    rfl
  | error failure =>
    cases failure with
    | scan e =>
      rw [lineEntry_scan]
      exact congrArg (fun text => String.join [text]) String.empty_append
    | fault f =>
      rw [lineEntry_fault]
      rfl

namespace Ran

variable {outcomes : List (Except Failure Int)} {w : Sweep Scanner Unit}

/-- The lines of a run that starts with an empty journal. -/
theorem lines_eq (h : Ran options outcomes { state := {} } w) :
    w.state.journal.entries.toList.filter IsLine = lineEntries options 0 outcomes := by
  obtain ⟨added, hadded, hlines, -⟩ := h.entries
  rw [hadded.trans Array.empty_append]
  exact hlines

/-- All else that it enters are asides. -/
theorem aside (h : Ran options outcomes { state := {} } w) {e : LineScan.Entry}
    (he : e ∈ w.state.journal.entries) (hline : IsLine e = false) : e.IsAside options.debug := by
  obtain ⟨added, hadded, -, hother⟩ := h.entries
  rw [hadded.trans Array.empty_append] at he
  exact hother e he hline

/-- The output of a run is that of the lines that were dealt with. -/
theorem output_eq (h : Ran options outcomes { state := {} } w)
    (hwithin : ∀ outcome ∈ outcomes, exceeds outcome = false) :
    w.state.journal.output = String.join (outcomes.filterMap outputLine?) := by
  have hquiet : ∀ e ∈ w.state.journal.entries.toList, IsLine e = false → e.outputText = "" := by
    intro e he hline
    match e, hline with
    | .attempt .., _ => rfl
    | .outcome _, _ => rfl
    | .fired _, _ => rfl
    | .handled, _ => rfl
    | .notice _, _ => rfl
  rw [Journal.output, Journal.textOf_eq_join, Journal.join_filter hquiet, h.lines_eq,
    join_outputText 0 hwithin]

/-- Without a trace, all asides are notices. -/
theorem errorStream_eq (h : Ran options outcomes { state := {} } w)
    (hdebug : options.debug = false)
    (hwithin : ∀ outcome ∈ outcomes, exceeds outcome = false) :
    w.state.journal.withoutNotices.errorStream =
      String.join ((outcomes.zipIdx 1).filterMap (reportLine? options)) := by
  have hsame : w.state.journal.entries.toList.filter (fun e => !e.isNotice) =
      w.state.journal.entries.toList.filter IsLine := by
    refine List.filter_congr fun e he => ?_
    have haside := h.aside (Array.mem_toList_iff.mp he)
    rw [hdebug] at haside
    match e, haside with
    | .attempt .., haside => cases haside rfl
    | .outcome _, haside => cases haside rfl
    | .fired _, haside => cases haside rfl
    | .handled, haside => cases haside rfl
    | .notice _, _ => rfl
    | .report _, _ => rfl
    | .result _, _ => rfl
  rw [Journal.errorStream, Journal.textOf_eq_join, Journal.withoutNotices, Array.toList_filter,
    hsame, h.lines_eq, join_errorText 0 hwithin]

end Ran

/-! ## The run -/

/-- The lines that are dealt with if none asks for too much: all of them, or those up to the first
error. -/
def taken (options : Options) (outcomes : List (Except Failure Int)) : List (Except Failure Int) :=
  if options.stopOnError then cutAfter fails outcomes else outcomes

/-- If no line asks for too much, a run ends at the lines that are dealt with. -/
theorem cutAfter_ends {outcomes : List (Except Failure Int)}
    (h : ∀ outcome ∈ taken options outcomes, exceeds outcome = false) :
    cutAfter (ends options) outcomes = taken options outcomes := by
  unfold taken at h ⊢
  split at h
  · next hstop =>
    rw [if_pos hstop]
    refine cutAfter_congr fun outcome houtcome => ?_
    rw [ends, h outcome houtcome, hstop, Bool.false_or, Bool.true_and]
  · next hstop =>
    rw [if_neg hstop]
    refine cutAfter_eq_self fun outcome houtcome => ?_
    rw [ends, h outcome (cutAfter_subset houtcome), eq_false_of_ne_true hstop, Bool.false_or,
      Bool.false_and]

section

variable {w : Sweep Scanner Unit}

/-- A sweep that is not ended early gives the number of errors, unless the stream is broken off. -/
theorem runStream_of_ok {input : Text.Stream} (h : Sweep.run (planOf world options)
      (input.lines.map Text.chomp) { state := {} } = .ok () w) :
    runStream world options input =
      (if input.broken then .error .undecodable else .ok w.errors.size, w.state.journal) := by
  simp only [runStream, Calculator.run, h]

/-- A sweep that stops at an error gives the number of errors, whatever comes after. -/
theorem runStream_of_stopped {input : Text.Stream} (h : Sweep.run (planOf world options)
      (input.lines.map Text.chomp) { state := {} } = .error (.fault .stopped) w) :
    runStream world options input = (.ok w.errors.size, w.state.journal) := by
  simp only [runStream, Calculator.run, h]

/-- A sweep that ends with any other fault ends the run with it. -/
theorem runStream_of_fault {input : Text.Stream} {f : Fault} (hf : f ≠ .stopped)
    (h : Sweep.run (planOf world options) (input.lines.map Text.chomp) { state := {} } =
      .error (.fault f) w) :
    runStream world options input = (.error (.failure (.fault f)), w.state.journal) := by
  simp only [runStream, Calculator.run, h]
  split
  · next heq => cases heq
  · next heq =>
    cases heq
    exact absurd rfl hf
  · next heq =>
    cases heq
    rfl

end

/-- A line that asks for more than a run can do ends it with a fault. -/
theorem ending_of_exceeds {outcome : Except Failure Int} (h : exceeds outcome = true) :
    ∃ f, ending outcome = .fault f ∧ f ≠ .stopped := by
  cases outcome with
  | ok n => exact ⟨.oversize .writing, rfl, Fault.noConfusion⟩
  | error failure =>
    cases failure with
    | scan e => cases h
    | fault f =>
      refine ⟨f, rfl, fun hstopped => ?_⟩
      rw [hstopped] at h
      cases h

/-- A run over a stream gives the number of errors, unless it ends at a line that asks for too much,
or at the end of a stream that breaks off. -/
theorem runStream_apply (world : World) (options : Options) (input : Text.Stream) :
    let outcomes := (calculator world options).outcomes 0 input.lines
    ∃ w, Ran options (cutAfter (ends options) outcomes) { state := {} } w ∧
      runStream world options input =
        (match outcomes.find? (ends options) with
          | none => if input.broken then .error .undecodable else .ok w.errors.size
          | some outcome =>
            if exceeds outcome then .error (.failure (ending outcome)) else .ok w.errors.size,
        w.state.journal) := by
  intro outcomes
  obtain ⟨w, hrun, hran⟩ := run_apply world options input.lines (w := { state := {} }) rfl
  refine ⟨w, hran, ?_⟩
  -- how the run ends is told by the first line that ends it, if there is one
  cases hfind : outcomes.find? (ends options) with
  | none =>
    refine runStream_of_ok (hrun.trans ?_)
    rw [hfind]
  | some last =>
    cases hexceeds : exceeds last with
    | true =>
      obtain ⟨f, hending, hf⟩ := ending_of_exceeds hexceeds
      simp only [hexceeds, if_true, hending]
      refine runStream_of_fault hf (hrun.trans ?_)
      rw [hfind]
      exact congrArg (EStateM.Result.error · w) hending
    | false =>
      simp only [hexceeds, Bool.false_eq_true, if_false]
      refine runStream_of_stopped (hrun.trans ?_)
      rw [hfind]
      exact congrArg (EStateM.Result.error · w)
        (ending_of_not_exceeds (List.find?_some hfind) hexceeds)

/-- A run gives the number of errors unless one of the lines up to its end asks for too much. -/
theorem runLines_apply (world : World) (options : Options) (lines : List Line) :
    let dealt := cutAfter (ends options) ((calculator world options).outcomes 0 lines)
    ∃ w, Ran options dealt { state := {} } w ∧
      ((∀ outcome ∈ dealt, exceeds outcome = false) ∧
          runLines world options lines = (.ok w.errors.size, w.state.journal) ∨
        ∃ outcome ∈ dealt, exceeds outcome = true ∧ runLines world options lines =
          (.error (.failure (ending outcome)), w.state.journal)) := by
  intro dealt
  obtain ⟨w, hran, hrun⟩ := runStream_apply world options { lines := lines }
  refine ⟨w, hran, ?_⟩
  -- a line that asks for too much ends the run, so it is the last one that is dealt with
  have hlast : ∀ outcome ∈ dealt, exceeds outcome = true →
      ((calculator world options).outcomes 0 lines).find? (ends options) = some outcome := by
    intro outcome houtcome hexceeds
    refine find?_of_mem_cutAfter houtcome ?_
    rw [ends, hexceeds, Bool.true_or]
  rw [runLines, hrun]
  cases hfind : ((calculator world options).outcomes 0 lines).find? (ends options) with
  | none =>
    refine .inl ⟨fun outcome houtcome => eq_false_of_ne_true fun hexceeds => ?_, rfl⟩
    rw [hlast outcome houtcome hexceeds] at hfind
    cases hfind
  | some last =>
    cases hexceeds : exceeds last with
    | true =>
      refine .inr ⟨last, mem_cutAfter_of_find? hfind, hexceeds, ?_⟩
      simp only [hexceeds, if_true]
    | false =>
      refine .inl ⟨fun outcome houtcome => eq_false_of_ne_true fun hlong => ?_, ?_⟩
      · rw [hlast outcome houtcome hlong] at hfind
        obtain rfl := Option.some.inj hfind
        rw [hexceeds] at hlong
        cases hlong
      · simp only [hexceeds, Bool.false_eq_true, if_false]

/-- A run that stops at an error is one that does not, over the lines up to the error. -/
theorem runLines_stopping
    (hwithin : ∀ outcome ∈ taken options ((calculator world options).outcomes 0 lines),
      exceeds outcome = false) :
    runLines world options lines = runLines world { options with stopOnError := false }
      (lines.take (taken options ((calculator world options).outcomes 0 lines)).length) := by
  have hcut := cutAfter_ends hwithin
  rw [← hcut] at hwithin ⊢
  obtain ⟨w, hstops, hgoesOn⟩ := run_stopping world options lines (w := { state := {} }) rfl hwithin
  have hcutOff : runLines world { options with stopOnError := false } _ =
      (.ok w.errors.size, w.state.journal) := runStream_of_ok hgoesOn
  rw [hcutOff]
  cases hfind : ((calculator world options).outcomes 0 lines).find? (ends options) with
  | none =>
    refine runStream_of_ok (hstops.trans ?_)
    rw [hfind]
  | some last =>
    refine runStream_of_stopped (hstops.trans ?_)
    rw [hfind]

/-! ## The exit code -/

/-- Input and output are open. This is what can be read then, and whether there is no room for any
output. -/
inductive Opened (world : World) (options : Options) : (input : Input) → (full : Bool) → Prop where
  | standard {source : Option String} {input : Input}
      (hinput : openInput world options = .ok (source, input))
      (houtput : options.outputFile = none) : Opened world options input false
  | file {source : Option String} {input : Input} {path : Path} {location : String}
      (hinput : openInput world options = .ok (source, input))
      (houtput : options.outputFile = some path)
      (hopen : openOutput world path = .ok (.file location)) :
      Opened world options (if source = some location then .bytes .empty else input) false
  | device {source : Option String} {input : Input} {path : Path} {kind : Device}
      (hinput : openInput world options = .ok (source, input))
      (houtput : options.outputFile = some path)
      (hopen : openOutput world path = .ok (.device kind)) :
      Opened world options input (kind = .full)

/-- Once input and output are open, a run ends as the evaluation of the input does, unless there is
no room for its output. -/
theorem runOptions_ending {input : Input} {full : Bool} (h : Opened world options input full) :
    (runOptions world options).ending =
      if full && (runInput world options input).2.output != "" then .crash .noSpace
      else endingOf (runInput world options input).1 := by
  cases h with
  | standard hinput houtput =>
    simp only [runOptions, hinput, houtput]
    rfl
  | file hinput houtput hopen =>
    simp only [runOptions, hinput, houtput, hopen]
    rfl
  | device hinput houtput hopen => simp only [runOptions, hinput, houtput, hopen]

/-- Without a trace, and if no line asks for too much, a run writes a line for each value and,
besides notices, a report for each error, in order and with the number of its line. It gives the
number of errors, and the exit code tells whether there are any. If it stops at an error, all this
is so for the lines up to there, and it is the run that was never given the others. -/
theorem runLines_writes (hdebug : options.debug = false)
    (hwithin : ∀ outcome ∈ taken options ((calculator world options).outcomes 0 lines),
      exceeds outcome = false) :
    let outcomes := taken options ((calculator world options).outcomes 0 lines)
    ∃ journal, runLines world options lines = (.ok (outcomes.countP fails), journal) ∧
      journal.output = String.join (outcomes.filterMap outputLine?) ∧
      journal.withoutNotices.errorStream =
        String.join ((outcomes.zipIdx 1).filterMap (reportLine? options)) ∧
      (∀ text, .notice text ∈ journal.entries → text = randomNotice) ∧
      runLines world options lines =
        runLines world { options with stopOnError := false } (lines.take outcomes.length) ∧
      ∀ words arguments input full, parse world.edition words = .ok arguments →
        resolve world.stack world.look arguments = .ok options →
        Opened world options (.bytes input) full →
        (Text.Stream.ofBytes input).lines = lines → (Text.Stream.ofBytes input).broken = false →
        (run world words).ending =
          if full && journal.output != "" then .crash .noSpace
          else .exit (if outcomes.countP fails = 0 then 0 else 1) := by
  intro outcomes
  -- nothing but an error ends the run early, so what is cut off is what a stop at errors cuts off
  have hcut : cutAfter (ends options) _ = outcomes := cutAfter_ends hwithin
  obtain ⟨w, hran, ⟨-, hrun⟩ | ⟨outcome, houtcome, hexceeds, -⟩⟩ :=
    runLines_apply world options lines
  · rw [hcut] at hran
    have herrors : w.errors.size = outcomes.countP fails := by
      rw [hran.errors_size]
      exact Nat.zero_add _
    rw [herrors] at hrun
    refine ⟨w.state.journal, hrun, hran.output_eq hwithin, hran.errorStream_eq hdebug hwithin,
      fun text htext => hran.aside htext rfl, runLines_stopping hwithin, ?_⟩
    intro words arguments input full hparse hresolve hopened hlines hbroken
    have hinput : runInput world options (.bytes input) = runLines world options lines := by
      rw [runInput, runLines, ← hlines, ← hbroken]
    simp only [run, hparse, hresolve]
    rw [runOptions_ending hopened, hinput, hrun, endingOf]
    simp only [beq_iff_eq]
  · rw [hcut] at houtcome
    rw [hwithin outcome houtcome] at hexceeds
    cases hexceeds

/-- Three lines to read, the second with an error, and no files. -/
def threeLineWorld : World where
  look := fun _ => .blocked .missing
  stdin := "1+2\n(2\n7\n".toUTF8

/-- The three lines. -/
def threeLines : List Line := ["1+2\n".toList, "(2\n".toList, "7\n".toList]

/-- Stop at an error, and show it in its context. -/
def stopOptions : Options := { stopOnError := true, context := true }

/-- The third line is not evaluated, and the exit code is one. -/
theorem runLines_writes_threeLines :
    ∃ journal, runLines threeLineWorld stopOptions threeLines = (.ok 1, journal) ∧
      journal.output = " = 3\n" ∧
      journal.withoutNotices.errorStream =
        "error: expected ')' at pos 3\n  --> <stdin>:2:3\n  |\n2 | (2\n  |   ^\n" ∧
      runLines threeLineWorld stopOptions threeLines =
        runLines threeLineWorld { stopOptions with stopOnError := false } (threeLines.take 2) ∧
      (run threeLineWorld ["--stop-on-error", "--context"]).ending = .exit 1 := by
  have hfacts :
      let outcomes := taken stopOptions
        ((calculator threeLineWorld stopOptions).outcomes 0 threeLines)
      (∀ outcome ∈ outcomes, exceeds outcome = false) ∧ outcomes.length = 2 ∧
        outcomes.countP fails = 1 ∧ String.join (outcomes.filterMap outputLine?) = " = 3\n" ∧
        String.join ((outcomes.zipIdx 1).filterMap (reportLine? stopOptions)) =
          "error: expected ')' at pos 3\n  --> <stdin>:2:3\n  |\n2 | (2\n  |   ^\n" := by
    decide +kernel
  have hinput : (Text.Stream.ofBytes threeLineWorld.stdin).lines = threeLines ∧
      (Text.Stream.ofBytes threeLineWorld.stdin).broken = false := by decide +kernel
  obtain ⟨hwithin, hlength, hcount, hvalues, hreports⟩ := hfacts
  obtain ⟨journal, hrun, houtput, herrors, -, hcut, hending⟩ :=
    runLines_writes rfl hwithin
  have hexit := hending ["--stop-on-error", "--context"] _ _ _ rfl rfl (.standard rfl rfl)
    hinput.1 hinput.2
  rw [hcount] at hrun hexit
  rw [hlength] at hcut
  exact ⟨journal, hrun, houtput.trans hvalues, herrors.trans hreports, hcut, hexit⟩

/-! ## When a run comes to its end -/

/-- Each line has one outcome. -/
theorem length_outcomes (k : Calculator) (draws : Nat) (lines : List Line) :
    (k.outcomes draws lines).length = lines.length := by
  induction lines generalizing draws with
  | nil => rfl
  | cons line rest ih => rw [outcomes, List.length_cons, List.length_cons, ih]

section

variable {k : Calculator} {admitted : Fault → Prop} {f : Fault}

/-- A fault that a line ends with is an admitted one. -/
theorem admitted_of_evaluate (hadmits : k.Admits admitted) {line : Line} {s s' : Scanner}
    (h : k.evaluate line s = .error (.fault f) s') : admitted f := by
  have hbehind := Calculator.evaluate_behind hadmits line s
  rw [h] at hbehind
  generalize k.evaluate line (.drawn s.id s.journal.draws) = r at hbehind
  cases hbehind with
  | error post => exact post.2

/-- If a line ends in a fault, it is one that the calculator admits. -/
theorem admitted_of_outcome (hadmits : k.Admits admitted) {draws : Nat}
    (h : .error (.fault f) ∈ k.outcomes draws lines) : admitted f := by
  induction lines generalizing draws with
  | nil => cases h
  | cons line rest ih =>
    rcases List.mem_cons.mp h with hfirst | hrest
    · cases hevaluate : k.evaluate (Text.chomp line) (.drawn 0 draws) with
      | ok n s =>
        rw [hevaluate] at hfirst
        cases hfirst
      | error failure s =>
        rw [hevaluate] at hfirst
        cases hfirst
        exact admitted_of_evaluate hadmits hevaluate
    · exact ih hrest

end

/-- A line that does not ask for too much leads to a result or a report. -/
theorem isSome_lineEntry {draws : Nat} {outcome : Except Failure Int}
    (houtcome : outcome ∈ (calculator world options).outcomes draws lines)
    (h : exceeds outcome = false) (number : Nat) :
    (lineEntry options number outcome).isSome = true := by
  cases outcome with
  | ok n => exact congrArg Option.isSome (lineEntry_ok h)
  | error failure =>
    cases failure with
    | scan e => rfl
    | fault f =>
      have hbeyond : exceeds (.error (.fault f)) = true :=
        admitted_of_outcome (calculator_admits_isBeyond world options) houtcome
      rw [h] at hbeyond
      cases hbeyond

/-- From zero up to a limit that is not negative a random number can always be drawn. -/
theorem draw_ne_error (source : RandomSource) (index : Nat) {limit : Int} (h : 0 ≤ limit)
    (f : Fault) : source.draw index limit ≠ .error f := by
  intro hdraw
  unfold RandomSource.draw at hdraw
  split at hdraw
  · rw [if_neg (by omega)] at hdraw
    cases hdraw
  · rw [if_neg (by omega)] at hdraw
    cases hdraw

/-- Lines that each lead to an entry lead to as many entries. -/
theorem length_lineEntries {outcomes : List (Except Failure Int)} (before : Nat)
    (h : ∀ outcome ∈ outcomes, ∀ number, (lineEntry options number outcome).isSome = true) :
    (lineEntries options before outcomes).length = outcomes.length := by
  have hsome : ∀ line ∈ outcomes.zipIdx (before + 1),
      (lineEntry options line.2 line.1).isSome = true :=
    fun line hline => h line.1 (List.fst_mem_of_mem_zipIdx hline) line.2
  rw [lineEntries, List.filterMap_length_eq_length.mpr hsome, List.length_zipIdx]

/-- A line that asks for too much, while random numbers can be drawn, has a numeral that is too
long. -/
theorem ending_eq_oversize (hmax : 0 ≤ options.maxInt) {draws : Nat} {outcome : Except Failure Int}
    (houtcome : outcome ∈ (calculator world options).outcomes draws lines)
    (h : exceeds outcome = true) : ∃ cause, ending outcome = .fault (.oversize cause) := by
  cases outcome with
  | ok n => exact ⟨.writing, rfl⟩
  | error failure =>
    cases failure with
    | scan e => cases h
    | fault f =>
      have hadmits : (calculator world options).Admits fun f => ∃ cause, f = .oversize cause :=
        calculator_admits (fun cause => ⟨cause, rfl⟩) fun index f hdraw =>
          absurd hdraw (draw_ne_error world.source index hmax f)
      obtain ⟨cause, rfl⟩ := admitted_of_outcome hadmits houtcome
      exact ⟨cause, rfl⟩

/-- A run gives a number of errors exactly if none of the lines up to its end asks for too much,
which it can only do by a numeral that is too long. Each line leads to its result or its report in
turn, and none is left out of a run that gives a number of errors and does not stop at them. -/
theorem runLines_returns_iff (hmax : 1 ≤ options.maxInt) (lines : List Line) :
    let outcomes := (calculator world options).outcomes 0 lines
    let dealt := cutAfter (ends options) outcomes
    let answer := runLines world options lines
    ((∃ errors, answer.1 = .ok errors) ↔ ∀ outcome ∈ dealt, exceeds outcome = false) ∧
      (∀ crash, answer.1 = .error crash → ∃ cause, crash = .failure (.fault (.oversize cause))) ∧
      answer.2.entries.toList.filter IsLine = lineEntries options 0 dealt ∧
      (options.stopOnError = false → (∃ errors, answer.1 = .ok errors) →
        dealt = outcomes ∧ (answer.2.entries.toList.filter IsLine).length = lines.length) := by
  intro outcomes dealt answer
  obtain ⟨w, hran, hanswer⟩ := runLines_apply world options lines
  have hlines := hran.lines_eq
  -- either no line asks for too much, or the last line that is dealt with does
  obtain ⟨hwithin, hrun⟩ | ⟨last, hlast, hexceeds, hrun⟩ := hanswer
  · simp only [answer, hrun]
    refine ⟨⟨fun _ => hwithin, fun _ => ⟨_, rfl⟩⟩, fun crash hcrash => ?_, hlines,
      fun hstop _ => ?_⟩
    · cases hcrash
    have hall : dealt = outcomes := by
      refine cutAfter_eq_self fun outcome houtcome => ?_
      rw [ends, hwithin outcome houtcome, hstop, Bool.false_or, Bool.false_and]
    have hsome : ∀ outcome ∈ dealt, ∀ number, (lineEntry options number outcome).isSome = true :=
      fun outcome houtcome number =>
        isSome_lineEntry (cutAfter_subset houtcome) (hwithin outcome houtcome) number
    refine ⟨hall, ?_⟩
    calc (w.state.journal.entries.toList.filter IsLine).length
        = (lineEntries options 0 dealt).length := congrArg List.length hlines
      _ = dealt.length := length_lineEntries 0 hsome
      _ = lines.length := by rw [hall, length_outcomes]
  · obtain ⟨cause, hending⟩ := ending_eq_oversize (by omega) (cutAfter_subset hlast) hexceeds
    simp only [answer, hrun, hending]
    have hcrashes : ¬ ∃ errors, (Except.error (.failure (.fault (.oversize cause))) :
        Except Crash Nat) = .ok errors := by
      rintro ⟨errors, h⟩
      cases h
    refine ⟨⟨fun h => absurd h hcrashes, fun hwithin => ?_⟩, ?_, hlines,
      fun _ h => absurd h hcrashes⟩
    · rw [hwithin last hlast] at hexceeds
      cases hexceeds
    · intro crash hcrash
      cases hcrash
      exact ⟨cause, rfl⟩

/-- All of the three lines are dealt with if the run does not stop at errors. -/
theorem runLines_returns_threeLines :
    1 ≤ ({} : Options).maxInt ∧ (∃ errors, (runLines threeLineWorld {} threeLines).1 = .ok errors) ∧
      ((runLines threeLineWorld {} threeLines).2.entries.toList.filter IsLine).length = 3 := by
  have hmax : 1 ≤ ({} : Options).maxInt := by decide
  have hwithin : ∀ outcome ∈ cutAfter (ends {}) ((calculator threeLineWorld {}).outcomes 0
      threeLines), exceeds outcome = false := by decide +kernel
  obtain ⟨hiff, -, -, hevery⟩ := @runLines_returns_iff threeLineWorld {} hmax threeLines
  have hreturns := hiff.mpr hwithin
  exact ⟨hmax, hreturns, (hevery rfl hreturns).2⟩

/-- Options under which the variable `x` is a power of ten. -/
def powerOptions : Options where
  env := some [("x", String.ofList ('1' :: List.replicate 100 '0'))]

/-- The line of a product that is too long to be written, and one more line. -/
def powerLines : List Line :=
  ['x' :: (List.replicate 43 ['*', 'x']).flatten ++ ['\n'], "1+1\n".toList]

/-- The product ends the run, and the line after it is lost. -/
theorem runLines_lost_line :
    1 ≤ powerOptions.maxInt ∧ powerOptions.stopOnError = false ∧
      (runLines threeLineWorld powerOptions powerLines).1.isOk = false ∧
      (runLines threeLineWorld powerOptions powerLines).2.entries.size = 0 := by
  decide +kernel

end CommandLine

end LineScan
