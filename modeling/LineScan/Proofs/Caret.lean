import LineScan.Proofs.WrittenIntegers

/-!
# The caret under the column

An error is shown in its context: five lines, of which the fourth is the line of the error behind
its number, and the last is a caret behind blanks. The two margins are built apart from each other,
and both are as wide as the number, so that the caret stands under the column of the error. Where
the line has no such column, it stands where the column would be.

The line is shown without its end, and what is left of it has not moved. A column before the line
counts as its first one.

## Main statements

* `context?_eq_ok_iff`: an error has a context exactly if there is room for it and the line number
  can be written.
* `caret_under_column`: the context has five lines, and the caret stands under the column.
-/

namespace LineScan

/-! ## Parts of the context -/

/-- A run of a character is dropped from the end of a line that does not have it. -/
theorem Line.dropEndWhile_replicate {line : Line} {c : Char} (n : Nat) (h : c ∉ line) :
    (line ++ List.replicate n c).dropEndWhile (· == c) = line := by
  have hrun : ∀ d ∈ List.replicate n c, (d == c) = true := fun d hd =>
    beq_iff_eq.mpr (List.eq_of_mem_replicate hd)
  have hstop : ∀ d, line.reverse.head? = some d → (d == c) = false := by
    rintro d hd
    rw [List.head?_reverse] at hd
    refine beq_eq_false_iff_ne.mpr fun heq => h ?_
    exact heq ▸ List.mem_of_getLast? hd
  rw [dropEndWhile, List.reverse_append, List.reverse_replicate, Grammar.dropWhile_run hrun hstop,
    List.reverse_reverse]

/-- There is room for a text that is no longer than that, and for no other. -/
theorem Text.Room.length_eq_ok_iff {room : Text.Room} {n m : Nat} :
    room.length n = .ok m ↔ n ≤ room.size ∧ m = n := by
  have hindex := room.addressable
  constructor
  · intro h
    unfold length at h
    split at h
    · cases h
    · split at h
      · cases h
      · cases h
        exact ⟨by omega, rfl⟩
  · rintro ⟨h, rfl⟩
    rw [length, if_neg (by omega), if_neg (by omega)]

namespace ScanError

variable {room : Text.Room} {e : ScanError} {filename : String} {lineNumber : Int} {body : Line}
  {returns feeds : Nat}

/-- A line is shown without carriage returns and line feeds at its end. -/
theorem shownLine_eq
    (hline : e.line = body ++ List.replicate returns '\r' ++ List.replicate feeds '\n')
    (hbody : '\n' ∉ body ∧ '\r' ∉ body) : e.shownLine = body := by
  have hfeed : '\n' ∉ body ++ List.replicate returns '\r' := by
    simp [hbody.1]
  rw [shownLine, hline, Line.dropEndWhile_replicate feeds hfeed,
    Line.dropEndWhile_replicate returns hbody.2]

/-- What stands in front of the line. -/
def lineMargin (lineNumber : Int) : Line := Decimal.intText lineNumber ++ " | ".toList

/-- What stands in front of the caret. -/
def caretMargin (e : ScanError) (lineNumber : Int) : Line :=
  List.replicate ((Decimal.intText lineNumber).length + 1) ' ' ++ "| ".toList ++
    List.replicate (e.column - 1).toNat ' '

/-- The caret is as far to the right of the line's margin as the column is of the first one. -/
theorem length_caretMargin (e : ScanError) (lineNumber : Int) :
    (e.caretMargin lineNumber).length =
      (lineMargin lineNumber).length + (max 1 e.position - 1).toNat := by
  simp [caretMargin, lineMargin, column]
  omega

/-- No caret stands in the margin before the caret. -/
theorem caret_not_mem_caretMargin (e : ScanError) (lineNumber : Int) :
    '^' ∉ e.caretMargin lineNumber := by
  simp [caretMargin]

/-- The last two of the five lines are the line behind its number, and the caret behind its
margin. -/
theorem exists_contextLines (e : ScanError) (filename : Line) (lineNumber : Int) :
    ∃ first second third, e.contextLines filename lineNumber =
      [first, second, third, lineMargin lineNumber ++ e.shownLine,
        e.caretMargin lineNumber ++ ['^']] :=
  ⟨_, _, _, rfl⟩

/-- The lines of the context are lines: no line feed is in any of them. -/
theorem newline_not_mem_contextLines (lineNumber : Int) (hmessage : '\n' ∉ e.message.toList)
    (hfilename : '\n' ∉ filename.toList) (hshown : '\n' ∉ e.shownLine) :
    ∀ l ∈ e.contextLines filename.toList lineNumber, '\n' ∉ l := by
  have hnumber : ∀ n, '\n' ∉ Decimal.intText n := Decimal.not_mem_intText (by decide) (by decide)
  simp [contextLines, hmessage, hfilename, hshown, hnumber]

/-- The margin of the caret is a part of the context. -/
theorem margin_le_length_context (e : ScanError) (filename : String) (lineNumber : Int) :
    (e.column - 1).toNat ≤ (e.context filename lineNumber).length := by
  obtain ⟨first, second, third, hcontext⟩ := e.exists_contextLines filename.toList lineNumber
  have hcaret : (e.column - 1).toNat ≤ (e.caretMargin lineNumber).length := by
    rw [caretMargin, List.length_append, List.length_replicate]
    exact Nat.le_add_left _ _
  rw [context, String.length_ofList, hcontext]
  simp only [List.intercalate, List.intersperse, List.flatten_cons, List.flatten_nil,
    List.length_append]
  omega

/-- An error has a context exactly if there is room for it and the line number can be written. -/
theorem context?_eq_ok_iff {text : String} :
    e.context? room filename lineNumber = .ok text ↔
      ((e.context filename lineNumber).length ≤ room.size ∧
        lineNumber.natAbs < 10 ^ Decimal.digitLimit) ∧ text = e.context filename lineNumber := by
  unfold context?
  constructor
  · intro h
    obtain ⟨-, -, h⟩ := Grammar.bind_eq_ok h
    obtain ⟨number, hnumber, h⟩ := Grammar.bind_eq_ok h
    obtain ⟨size, hroom, h⟩ := Grammar.bind_eq_ok h
    cases h
    have hsize := (Text.Room.length_eq_ok_iff.mp (Grammar.mapError_eq_ok hroom)).1
    have hwritten := Decimal.write_eq_ok_iff.mp (Grammar.mapError_eq_ok hnumber)
    exact ⟨⟨hsize, hwritten.1⟩, rfl⟩
  · rintro ⟨⟨hroom, hnumber⟩, rfl⟩
    have hmargin := e.margin_le_length_context filename lineNumber
    rw [Text.Room.length_eq_ok_iff.mpr ⟨Nat.le_trans hmargin hroom, rfl⟩,
      Decimal.write_eq_ok_iff.mpr ⟨hnumber, rfl⟩]
    simp only [Text.Room.length_eq_ok_iff.mpr ⟨hroom, rfl⟩]
    rfl

/-- With any room for texts, an error is shown if the room is enough for it and the line number can
be written. It is shown on five lines, the last of which is a caret behind a margin without one. It
stands exactly where the fourth shows the column of the error, or would show it. -/
theorem caret_under_column (room : Text.Room) (e : ScanError) (filename : String)
    (lineNumber : Int) {body : Line} {returns feeds : Nat} (hmessage : '\n' ∉ e.message.toList)
    (hfilename : '\n' ∉ filename.toList)
    (hline : e.line = body ++ List.replicate returns '\r' ++ List.replicate feeds '\n')
    (hbody : '\n' ∉ body ∧ '\r' ∉ body) :
    ((∃ text, e.context? room filename lineNumber = .ok text) ↔
      (e.context filename lineNumber).length ≤ room.size ∧
        lineNumber.natAbs < 10 ^ Decimal.digitLimit) ∧
    ∀ text, e.context? room filename lineNumber = .ok text →
      ∃ first second third left margin : Line,
        text.toList.splitOn '\n' = [first, second, third, left ++ body, margin ++ ['^']] ∧
          '^' ∉ margin ∧ margin.length = left.length + (max 1 e.position - 1).toNat ∧
          (left ++ body)[margin.length]? = body[(max 1 e.position - 1).toNat]? := by
  have hshown := shownLine_eq hline hbody
  constructor
  · constructor
    · rintro ⟨text, h⟩
      exact (context?_eq_ok_iff.mp h).1
    · intro h
      exact ⟨_, context?_eq_ok_iff.mpr ⟨h, rfl⟩⟩
  · intro text h
    obtain ⟨-, rfl⟩ := context?_eq_ok_iff.mp h
    have hlines :=
      newline_not_mem_contextLines lineNumber hmessage hfilename (hshown ▸ hbody.1)
    have hlength := e.length_caretMargin lineNumber
    obtain ⟨first, second, third, hcontext⟩ := e.exists_contextLines filename.toList lineNumber
    refine ⟨first, second, third, lineMargin lineNumber, e.caretMargin lineNumber, ?_,
      e.caret_not_mem_caretMargin lineNumber, hlength, ?_⟩
    · rw [hcontext] at hlines
      rw [context, String.toList_ofList, hcontext,
        List.splitOn_intercalate '\n' hlines (List.cons_ne_nil _ _), hshown]
    -- both margins are as wide as the number, so the caret's column falls on the body
    · rw [hlength, List.getElem?_append_right (Nat.le_add_right _ _), Nat.add_sub_cancel_left]

/-- The caret under a character of a line with an end, whose number has two digits. -/
theorem caret_under_column_euro :
    let e : ScanError := ⟨.said "m", 5, "1 + €\r\n".toList, none⟩
    '\n' ∉ e.message.toList ∧ '\n' ∉ "sums.txt".toList ∧
      e.line = "1 + €".toList ++ List.replicate 1 '\r' ++ List.replicate 1 '\n' ∧
      ∃ text first second third left margin, e.context? ⟨100, by decide⟩ "sums.txt" 12 = .ok text ∧
        text.toList.splitOn '\n' =
          [first, second, third, left ++ "1 + €".toList, margin ++ ['^']] ∧
        '^' ∉ margin ∧ (left ++ "1 + €".toList)[margin.length]? = some '€' := by
  intro e
  obtain ⟨hcontext, hcaret⟩ := caret_under_column ⟨100, by decide⟩ e "sums.txt" 12 (by decide)
    (by decide)
    (show e.line = "1 + €".toList ++ List.replicate 1 '\r' ++ List.replicate 1 '\n' from rfl)
    (by decide)
  obtain ⟨text, htext⟩ := hcontext.mpr ⟨by decide +kernel, Decimal.lt_pow_digitLimit (by decide)⟩
  obtain ⟨first, second, third, left, margin, hlines, hmargin, -, hcolumn⟩ := hcaret text htext
  exact ⟨by decide, by decide, rfl, text, first, second, third, left, margin, htext, hlines,
    hmargin, hcolumn⟩

/-- Nothing is shown of an error so far to the right that no machine has room for its caret, nor at
a line number that cannot be written. -/
theorem no_context_far_right :
    '\n' ∉ "m".toList ∧ '\n' ∉ "<input>".toList ∧ '\n' ∉ "abc".toList ∧ '\r' ∉ "abc".toList ∧
      (∀ room, (⟨.said "m", 10 ^ 30, "abc".toList, none⟩ : ScanError).context? room "<input>" 1 =
        .error (.overlong .unaddressable)) ∧
      ¬ ∃ room text, (⟨.said "m", 1, "abc".toList, none⟩ : ScanError).context? room "<input>"
        (10 ^ Decimal.digitLimit) = .ok text := by
  refine ⟨by decide, by decide, by decide, by decide, fun _ => rfl, ?_⟩
  rintro ⟨room, text, h⟩
  have hnumber := (context?_eq_ok_iff.mp h).1.2
  have hten : (10 : Int).natAbs = 10 := rfl
  rw [Int.natAbs_pow, hten] at hnumber
  exact Nat.lt_irrefl _ hnumber

end ScanError

end LineScan
