import LineScan.Proofs.Documents

/-!
# Where the diagnostics of a document are

The diagnostics of a document are those of its lines, each by itself, in the order of the lines: one
for a line that evaluating it ends with an error, and none for any other. So there is one at most at
each line, and their lines go up.

An editor counts characters in units of UTF-16, of which a character outside the basic plane takes
two. A diagnostic counts them as the scanner does. The two counts agree, because nothing but plain
characters can stand before the place of an error, and each of these takes one unit.

## Main statements

* `ofLines_eq_lineByLine`: the diagnostics of some lines are those of each line by itself.
* `tells_of_alone`: where the diagnostic of a line is.
* `ofDocument_exact`: the diagnostics of a document.
-/

namespace LineScan

open Calculator

/-! ## Units of UTF-16 -/

/-- How many units a character takes in UTF-16: two, if it is outside the basic plane. -/
def Text.utf16Size (c : Char) : Nat := if c.toNat < 0x10000 then 1 else 2

/-- Plain characters are in the basic plane. -/
theorem Text.IsPlain.utf16Size_eq {c : Char} (h : IsPlain c) : utf16Size c = 1 := by
  obtain hascii | rfl := h
  · exact if_pos (by omega)
  · rfl

/-- How many units a text takes in UTF-16. -/
def Line.utf16Length : Line → Nat
  | [] => 0
  | c :: rest => Text.utf16Size c + utf16Length rest

/-- A text of plain characters takes one unit for each. -/
theorem Line.utf16Length_of_plain {text : Line} (h : ∀ c ∈ text, Text.IsPlain c) :
    text.utf16Length = text.length := by
  induction text with
  | nil => rfl
  | cons c text ih =>
    obtain ⟨hc, htext⟩ := List.forall_mem_cons.mp h
    rw [utf16Length, hc.utf16Size_eq, ih htext, List.length_cons, Nat.add_comm]

namespace Diagnostic

/-! ## Line by line -/

/-- The diagnostics of a line, by what it comes to by itself. -/
def ofLine (k : Calculator) (index : Nat) (line : Line) : List Diagnostic :=
  if Text.isAllWhitespace line then [] else ofOutcome index (k.alone line)

/-- The diagnostics of some lines, each by itself, numbered from `index` on. -/
def lineByLine (k : Calculator) (index : Nat) (lines : List Line) : List Diagnostic :=
  (lines.zipIdx index).flatMap fun numbered => ofLine k numbered.2 numbered.1

/-- The diagnostics of the first line come first. -/
theorem lineByLine_cons (k : Calculator) (index : Nat) (line : Line) (rest : List Line) :
    lineByLine k index (line :: rest) = ofLine k index line ++ lineByLine k (index + 1) rest := by
  rw [lineByLine, List.zipIdx_cons, List.flatMap_cons, lineByLine]

/-- Evaluating the line by itself draws no random number. -/
def DrawsNothing (k : Calculator) (line : Line) : Prop :=
  (Result.state (k.evaluate line {})).journal.draws = 0

/-- Lines that draw no random numbers have the diagnostics that each of them has by itself. -/
theorem ofLines_eq_lineByLine {k : Calculator} (hadmits : k.Admits fun _ => False)
    {lines : List Line}
    (hdraws : ∀ line ∈ lines, Text.isAllWhitespace line = false → DrawsNothing k line)
    (index : Nat) {s : Scanner} (hid : s.id = 0) :
    ∃ s', ofLines k index lines s = .ok (lineByLine k index lines) s' := by
  induction lines generalizing index s with
  | nil => exact ⟨s, rfl⟩
  | cons line rest ih =>
    obtain ⟨hline, hrest⟩ := List.forall_mem_cons.mp hdraws
    rw [lineByLine_cons, ofLine]
    cases hblank : Text.isAllWhitespace line with
    | true =>
      obtain ⟨s', hs'⟩ := ih hrest (index + 1) hid
      exact ⟨s', (congrFun (if_pos hblank) s).trans hs'⟩
    | false =>
      obtain ⟨own, s₁, hid₁, -, hown, hcons⟩ := ofLines_cons hadmits index line hid
      obtain ⟨s', hs'⟩ := ih hrest (index + 1) hid₁
      have halone : Result.answer (k.evaluate line s) = k.alone line :=
        evaluate_of_undrawn (hline hblank) k.source hid
      refine ⟨s', ?_⟩
      rw [hcons, hs', hown hblank, halone, if_neg Bool.false_ne_true]

/-- The diagnostics of a line are at its number. -/
theorem line_of_mem_ofLine {k : Calculator} {index : Nat} {line : Line} {d : Diagnostic}
    (h : d ∈ ofLine k index line) : d.start.line = index := by
  unfold ofLine at h
  split at h
  · cases h
  · exact line_of_mem_ofOutcome h

/-- A line has a diagnostic exactly if it is not blank and fails by itself. -/
theorem mem_ofLine_iff {k : Calculator} {index : Nat} {line : Line} {d : Diagnostic} :
    d ∈ ofLine k index line ↔ Text.isAllWhitespace line = false ∧
      ∃ e, k.alone line = .error (.scan e) ∧ d = ofError index e := by
  unfold ofLine ofOutcome
  split
  · next hblank => simp [hblank]
  · next hblank =>
    rw [Bool.not_eq_true] at hblank
    split
    · next e he => simp [hblank, he]
    · next hno =>
      refine ⟨nofun, fun ⟨_, e, he, _⟩ => absurd he (hno e)⟩

/-- A diagnostic is that of the line it is numbered by. -/
theorem mem_lineByLine_iff {k : Calculator} {lines : List Line} {d : Diagnostic} :
    d ∈ lineByLine k 0 lines ↔ ∃ line, lines[d.start.line]? = some line ∧
      d ∈ ofLine k d.start.line line := by
  rw [lineByLine, List.mem_flatMap]
  constructor
  · rintro ⟨⟨line, index⟩, hmem, hd⟩
    obtain rfl := line_of_mem_ofLine hd
    exact ⟨line, List.mk_mem_zipIdx_iff_getElem?.mp hmem, hd⟩
  · rintro ⟨line, hline, hd⟩
    exact ⟨(line, d.start.line), List.mk_mem_zipIdx_iff_getElem?.mpr hline, hd⟩

/-- The diagnostics are at one line after the other. -/
theorem pairwise_lineByLine (k : Calculator) (index : Nat) (lines : List Line) :
    (lineByLine k index lines).Pairwise fun d d' => d.start.line < d'.start.line := by
  have hnumbers : ((lines.zipIdx index).map Prod.snd).Pairwise (· < ·) := by
    rw [List.zipIdx_map_snd]
    exact List.pairwise_lt_range' 1
  refine List.pairwise_flatMap.mpr ⟨fun numbered _ => ?_, ?_⟩
  · unfold ofLine ofOutcome
    split
    · exact .nil
    · split
      · exact List.pairwise_singleton _ _
      · exact .nil
  · refine (List.pairwise_map.mp hnumbers).imp fun hlt d hd d' hd' => ?_
    rw [line_of_mem_ofLine hd, line_of_mem_ofLine hd']
    exact hlt

/-! ## Where they are -/

/-- The diagnostic tells of an error of a line: it has its message, it starts on the line or just
past it, and it is one character wide. The number of its character is that of the characters before
the column of the error, and of the units these take in UTF-16. -/
structure Tells (line : Line) (e : ScanError) (d : Diagnostic) : Prop where
  message_eq : d.message = e.message
  position_eq : e.position = d.start.character + 1
  nonneg : 0 ≤ d.start.character
  le_length : d.start.character ≤ line.length
  characters_eq : (line.slice 0 (e.position - 1)).length = d.start.character
  units_eq : (line.slice 0 (e.position - 1)).utf16Length = d.start.character
  stop_eq : d.stop = ⟨d.start.line, d.start.character + 1⟩

/-- The diagnostic of a line tells of the error that the line ends with by itself. -/
theorem tells_of_alone {k : Calculator} {line : Line} {e : ScanError}
    (h : k.alone line = .error (.scan e)) (index : Nat) : Tells line e (ofError index e) := by
  obtain ⟨before, hprefix, hslice, hplace, hplain⟩ := (pointsInto_of_answer h).reached.exists_before
  have hlength := hprefix.length_le
  have hcharacter : (ofError index e).start.character = before.length := by
    rw [ofError, hplace]
    exact Int.max_eq_right (Int.natCast_nonneg _)
  refine ⟨rfl, by omega, by omega, by omega, ?_, ?_, rfl⟩
  · rw [hslice, hcharacter]
  · rw [hslice, Line.utf16Length_of_plain hplain, hcharacter]

/-- The diagnostics of a document whose lines draw no random numbers: they go from line to line,
each tells of the error that its line ends with by itself, and every line that ends with an error
and is not white space throughout has one. Where random numbers come from makes no difference. -/
theorem ofDocument_exact {env : Bindings String} {source : RandomSource}
    (readable : (calculator env source).ReadableVariables) {text : Line}
    (hdraws : ∀ line ∈ Text.documentLines text, Text.isAllWhitespace line = false →
      DrawsNothing (calculator env source) line) (source' : RandomSource) :
    let lines := Text.documentLines text
    let fresh := calculator env source'
    ∃ diagnostics s, ofDocument env source text = .ok diagnostics s ∧
      (diagnostics.Pairwise fun d d' => d.start.line < d'.start.line) ∧
      (∀ d ∈ diagnostics, ∃ line e, lines[d.start.line]? = some line ∧
        Text.isAllWhitespace line = false ∧ fresh.alone line = .error (.scan e) ∧
        Tells line e d) ∧
      (∀ (index : Nat) line e, lines[index]? = some line → Text.isAllWhitespace line = false →
        fresh.alone line = .error (.scan e) →
        ∃ d ∈ diagnostics, d.start.line = index ∧ Tells line e d) := by
  intro lines fresh
  -- a line that draws no random number comes to the same, wherever random numbers come from
  have hfresh : ∀ line ∈ lines, Text.isAllWhitespace line = false →
      fresh.alone line = (calculator env source).alone line := fun line hline hblank =>
    evaluate_of_undrawn (hdraws line hline hblank) source' (s := {}) rfl
  obtain ⟨s, hs⟩ := ofLines_eq_lineByLine (calculator_admits readable) hdraws 0 (s := {}) rfl
  refine ⟨_, s, hs, pairwise_lineByLine _ 0 lines, fun d hd => ?_, ?_⟩
  · obtain ⟨line, hline, hd⟩ := mem_lineByLine_iff.mp hd
    obtain ⟨hblank, e, he, hof⟩ := mem_ofLine_iff.mp hd
    refine ⟨line, e, hline, hblank, ?_, hof ▸ tells_of_alone he d.start.line⟩
    rw [hfresh line (List.mem_of_getElem? hline) hblank, he]
  · intro index line e hline hblank he
    rw [hfresh line (List.mem_of_getElem? hline) hblank] at he
    have hmem : ofError index e ∈ lineByLine (calculator env source) 0 lines :=
      mem_lineByLine_iff.mpr ⟨line, hline, mem_ofLine_iff.mpr ⟨hblank, e, he, rfl⟩⟩
    exact ⟨_, hmem, rfl, tells_of_alone he index⟩

/-- A line with a character outside the basic plane: the diagnostic stands right before it. The next
line is blank, and the last one ends too early. -/
theorem ofDocument_exact_fourLines :
    let text := "x\n8 ÷ (2 😀)\n \n3 *".toList
    ∃ diagnostics s, ofDocument [("x", "7")] (.scripted []) text = .ok diagnostics s ∧
      diagnostics.map (fun d => (d.start.line, d.start.character)) = [(1, 7), (3, 3)] ∧
      ∀ d ∈ diagnostics, ∃ line e, (Text.documentLines text)[d.start.line]? = some line ∧
        (calculator [("x", "7")] (.scripted [5])).alone line = .error (.scan e) ∧
        Tells line e d := by
  intro text
  have hreadable : (calculator [("x", "7")] (.scripted [])).ReadableVariables :=
    readableVariables_of_entries (by decide)
  have hdraws : ∀ line ∈ Text.documentLines text, Text.isAllWhitespace line = false →
      (Result.state ((calculator [("x", "7")] (.scripted [])).evaluate line {})).journal.draws =
        0 := by
    decide +kernel
  obtain ⟨diagnostics, s, hdocument, -, htell, -⟩ :=
    ofDocument_exact hreadable hdraws (.scripted [5])
  have hplaces : (Result.answer (ofDocument [("x", "7")] (.scripted []) text)).toOption.map
      (·.map fun d => (d.start.line, d.start.character)) = some [(1, 7), (3, 3)] := by
    decide +kernel
  rw [hdocument] at hplaces
  refine ⟨diagnostics, s, hdocument, Option.some.inj hplaces, fun d hd => ?_⟩
  obtain ⟨line, e, hline, -, halone, htells⟩ := htell d hd
  exact ⟨line, e, hline, halone, htells⟩

end Diagnostic

end LineScan
