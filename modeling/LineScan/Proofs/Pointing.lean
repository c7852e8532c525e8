import LineScan.Proofs.AtWork
import LineScan.Proofs.RoundTrip

/-!
# Errors point into the line

The column of an error of the calculator is one of its line, or the one just past it, and everything
before that column has been read. An error that says in its message where it is says the same as its
column. The only messages that could end like one that names a column are those that end in a name,
and a name is no number.

## Main statements

* `Complaint.Names.column_eq`: a complaint whose wording ends in a column names that column.
* `evaluate_error_points`: errors of the calculator point into the line that is evaluated.
-/

namespace LineScan

open Calculator Grammar

/-! ## Numbers as the last word -/

namespace Decimal

/-- The text of an integer, character by character. -/
theorem toList_toString (n : Int) : (toString n).toList = intText n := by
  rw [show toString n = n.repr from rfl, Int.repr_eq_if, intText, natText]
  by_cases h : 0 ≤ n
  · rw [if_pos h, if_neg (by omega), Nat.toList_repr, show n.toNat = n.natAbs by omega]
  · rw [if_neg h, if_pos (by omega), String.toList_append, Nat.toList_repr,
      show (-n).toNat = n.natAbs by omega]
    rfl

/-- A natural number is written in digits. -/
theorem isDigit_of_mem_natText {n : Nat} {c : Char} (h : c ∈ natText n) : c.isDigit = true :=
  Nat.isDigit_of_mem_toDigits (by omega) (by omega) h

/-- Different natural numbers are written differently. -/
theorem natText_injective {m n : Nat} (h : natText m = natText n) : m = n := by
  have hread := congrArg (Nat.ofDigitChars 10 · 0) h
  simpa [natText, Nat.ofDigitChars_toDigits] using hread

/-- A number starts with a digit or a minus sign, and has only digits after that. -/
theorem eq_minus_or_isDigit_of_mem_intText {n : Int} {c : Char} (h : c ∈ intText n) :
    c = '-' ∨ c.isDigit = true := by
  unfold intText at h
  split at h
  · rcases List.mem_cons.mp h with rfl | h
    · exact .inl rfl
    · exact .inr (isDigit_of_mem_natText h)
  · exact .inr (isDigit_of_mem_natText h)

/-- An integer is written with nothing but digits and a minus sign. -/
theorem not_mem_intText {c : Char} (hminus : c ≠ '-') (hdigit : c.isDigit = false) (n : Int) :
    c ∉ intText n := by
  intro hmem
  rcases eq_minus_or_isDigit_of_mem_intText hmem with rfl | h
  · exact hminus rfl
  · rw [hdigit] at h
    cases h

/-- Different integers are written differently. -/
theorem intText_injective {m n : Int} (h : intText m = intText n) : m = n := by
  have hminus : ∀ a b : Nat, '-' :: natText a ≠ natText b := by
    intro a b hab
    have hdigit := isDigit_of_mem_natText (hab ▸ List.mem_cons_self .. : '-' ∈ natText b)
    exact absurd hdigit (by decide)
  unfold intText at h
  split at h <;> split at h
  · have := natText_injective (List.cons.inj h).2
    omega
  · exact absurd h (hminus _ _)
  · exact absurd h.symm (hminus _ _)
  · have := natText_injective h
    omega

end Decimal

/-- The last word of a text is told by the text. -/
theorem Text.last_word_eq {front front' word word' : String} (h : ' ' ∉ word.toList)
    (h' : ' ' ∉ word'.toList) (heq : front ++ " " ++ word = front' ++ " " ++ word') :
    word = word' := by
  -- where the fronts differ, the longer one takes in the blank of the other
  have hcut : ∀ {more word word' : Line}, ' ' ∉ word → ' ' :: word = more ++ ' ' :: word' →
      word = word' := by
    intro more word word' h heq
    cases more with
    | nil => exact (List.cons.inj heq).2
    | cons c more =>
      rw [(List.cons.inj heq).2] at h
      exact absurd (List.mem_append_right more (List.mem_cons_self ..)) h
  have hlists : front.toList ++ ' ' :: word.toList = front'.toList ++ ' ' :: word'.toList := by
    simpa using congrArg String.toList heq
  apply String.toList_inj.mp
  rcases List.append_eq_append_iff.mp hlists with ⟨more, -, heq⟩ | ⟨more, -, heq⟩
  · exact hcut h heq
  · exact (hcut h' heq).symm

/-- The word has no blank in it and is no number. -/
structure Text.IsPlainWord (word : String) : Prop where
  no_blank : ' ' ∉ word.toList
  no_number : ∀ n : Int, word ≠ toString n

/-- A word that starts like a name is no number. -/
theorem Text.isPlainWord {word : String} {first : Char} {others : Line}
    (hchars : word.toList = first :: others) (hblank : ' ' ∉ word.toList)
    (hstart : Text.isIdentStart first = true) : Text.IsPlainWord word := by
  refine ⟨hblank, fun n hn => ?_⟩
  have hfirst : first ∈ Decimal.intText n := by
    rw [← Decimal.toList_toString, ← hn, hchars]
    exact List.mem_cons_self ..
  rcases Decimal.eq_minus_or_isDigit_of_mem_intText hfirst with rfl | hdigit
  · exact absurd hstart (by decide)
  · rw [isIdentStart_of_isDigit hdigit] at hstart
    cases hstart

/-- A name is a word and no number. -/
theorem Text.isPlainWord_ident (name : Identifier) : Text.IsPlainWord name.text := by
  have hchars : name.text.toList = name.first :: name.others := String.toList_ofList
  refine Text.isPlainWord hchars ?_ name.first_starts
  rw [hchars]
  intro hmem
  have hgoes : Text.isIdentChar ' ' = true := Identifier.isIdentChar_of_mem hmem
  exact absurd hgoes (by decide)

namespace Complaint

/-- A complaint that names no column ends in a word that is no number. -/
theorem Unplaced.last_word {c : Complaint} (h : c.Unplaced) :
    ∃ front word, c.message = front ++ " " ++ word ∧ Text.IsPlainWord word := by
  cases h with
  | overflow => exact ⟨"integer", "overflow", rfl, Text.isPlainWord rfl (by decide) rfl⟩
  | divisionByZero => exact ⟨"division by", "zero", rfl, Text.isPlainWord rfl (by decide) rfl⟩
  | tooDeep =>
    exact ⟨"expression too deeply", "nested", rfl, Text.isPlainWord rfl (by decide) rfl⟩
  | unbound name =>
    refine ⟨name.text ++ " not found in", "environment", ?_, Text.isPlainWord rfl (by decide) rfl⟩
    rw [String.append_assoc, String.append_assoc]
    rfl
  | unknownFunction name => exact ⟨"unknown function", name.text, rfl, Text.isPlainWord_ident name⟩
  | tooManyArguments name =>
    refine ⟨"function " ++ name.text ++ ": too many", "args", ?_,
      Text.isPlainWord rfl (by decide) rfl⟩
    rw [String.append_assoc, String.append_assoc]
    rfl
  | argumentNeeded name =>
    refine ⟨"function " ++ name.text ++ ": needs at least one", "arg", ?_,
      Text.isPlainWord rfl (by decide) rfl⟩
    rw [String.append_assoc, String.append_assoc]
    rfl
  | unclosedCall name =>
    exact ⟨"unclosed paren on function call", name.text, rfl, Text.isPlainWord_ident name⟩

/-- A complaint whose wording ends in a column names that column. -/
theorem Names.column_eq {c : Complaint} {column n : Int} {before : String} (h : c.Names column)
    (hmessage : c.message = before ++ s!"at pos {n}") : n = column := by
  have hno_blank : ∀ m : Int, ' ' ∉ (toString m).toList := by
    intro m
    rw [Decimal.toList_toString]
    exact Decimal.not_mem_intText (by decide) (by decide) m
  -- so the number is the last word of the message
  have hlast : c.message = (before ++ "at pos") ++ " " ++ toString n := by
    rw [hmessage, String.append_assoc, String.append_assoc]
    rfl
  have hcolumn : ∀ front, c.message = front ++ " " ++ toString column → n = column := by
    intro front hfront
    have hword := Text.last_word_eq (hno_blank n) (hno_blank column) (hlast.symm.trans hfront)
    refine Decimal.intText_injective ?_
    rw [← Decimal.toList_toString, ← Decimal.toList_toString, hword]
  rcases h with h | rfl | ⟨label, rfl⟩
  · obtain ⟨front, word, hfront, hplain⟩ := h.last_word
    have hword := Text.last_word_eq (hno_blank n) hplain.no_blank (hlast.symm.trans hfront)
    exact absurd hword.symm (hplain.no_number n)
  · exact hcolumn "syntax error at pos" rfl
  · have hfront : "expected " ++ label ++ " at pos" ++ " " = "expected " ++ label ++ " at pos " :=
      String.append_assoc
    refine hcolumn ("expected " ++ label ++ " at pos") ?_
    rw [hfront]
    rfl

end Complaint

/-! ## Errors -/

/-- There are as many characters before a place that can be reached as it says, and all of them are
plain. -/
theorem Line.Reached.exists_before {line : Line} {place : Int} (h : line.Reached place) :
    ∃ before, before <+: line ∧ line.slice 0 place = before ∧ place = before.length ∧
      ∀ c ∈ before, Text.IsPlain c := by
  obtain ⟨text, ⟨before, rfl, hplain⟩, rfl⟩ := h
  have hslice := Line.slice_place (List.suffix_refl (before ++ text)) before.length
  rw [Line.place, Int.sub_self, Int.zero_add, List.take_left] at hslice
  rw [Line.place_append_left]
  exact ⟨before, List.prefix_append before text, hslice, rfl, hplain⟩

/-- The column of a place that can be reached is one of the line or the one just past it. -/
theorem Line.Reached.column {line : Line} {column : Int} (h : line.Reached (column - 1)) :
    1 ≤ column ∧ column ≤ line.length + 1 ∧
      ∀ c ∈ line.slice 0 (column - 1), c.toNat < 128 ∨ c = '÷' := by
  obtain ⟨before, hprefix, hslice, hplace, hplain⟩ := h.exists_before
  have hlength := hprefix.length_le
  exact ⟨by omega, by omega, hslice ▸ hplain⟩

/-- The error that evaluating a line ends with is one of the scanner, about that line, and points to
a place that has been reached. -/
theorem pointsInto_of_evaluate {k : Calculator} {line : Line} {s s' : Scanner} {e : ScanError}
    (h : k.evaluate line s = .error (.scan e) s') : e.PointsInto line s.id := by
  have hadmits : k.Admits fun _ => True := ⟨fun _ _ => trivial, fun _ _ _ => trivial⟩
  have hbehind := Calculator.evaluate_behind hadmits line s
  rw [h] at hbehind
  generalize k.evaluate line (.drawn s.id s.journal.draws) = r at hbehind
  cases hbehind with
  | error post => exact post.2

/-- An error that the calculator raises points into the line that is evaluated: its column is one of
the line or the one just past it, it is about that line and comes from the scanner that is used, a
message that ends in a column names the same column, and before the column there is nothing but
ASCII and division signs. -/
theorem evaluate_error_points {k : Calculator} {line : Line} {s s' : Scanner} {e : ScanError}
    (h : k.evaluate line s = .error (.scan e) s') :
    (1 ≤ e.position ∧ e.position ≤ line.length + 1) ∧ e.line = line ∧ e.origin = some s.id ∧
      (∀ (before : String) (n : Int), e.message = before ++ s!"at pos {n}" → n = e.position) ∧
      ∀ c ∈ line.slice 0 (e.position - 1), c.toNat < 128 ∨ c = '÷' := by
  have hpoints := pointsInto_of_evaluate h
  obtain ⟨hfirst, hlast, hplain⟩ := hpoints.reached.column
  exact ⟨⟨hfirst, hlast⟩, hpoints.line_eq, hpoints.origin_eq,
    fun before n hmessage => hpoints.names.column_eq hmessage, hplain⟩

/-- The error that a computation ends with, if it ends with one. -/
def Result.scanError? {σ α : Type} : EStateM.Result Failure σ α → Option ScanError
  | .error (.scan e) _ => some e
  | _ => none

/-- A computation that ends with an error ends nowhere else. -/
theorem Result.eq_error_of_scanError? {σ α : Type} {r : EStateM.Result Failure σ α} {e : ScanError}
    (h : Result.scanError? r = some e) : ∃ s, r = .error (.scan e) s := by
  match r, h with
  | .error (.scan _) s, rfl => exact ⟨s, rfl⟩

/-- Results that are in step end with the same error, if they end with one. -/
theorem InStep.scanError?_eq {σ τ α : Type} {Q : α → σ → τ → Prop} {E : Failure → σ → τ → Prop}
    {r : EStateM.Result Failure σ α} {r' : EStateM.Result Failure τ α} (h : InStep Q E r r') :
    Result.scanError? r = Result.scanError? r' := by
  cases h with
  | ok post => rfl
  | @error e _ _ post => cases e <;> rfl

/-- A sign that is not read, within parentheses: the error stands there. -/
theorem evaluate_error_points_euro :
    ∃ e s', ({} : Calculator).evaluate "8 ÷ (2 € 1)".toList {} = .error (.scan e) s' ∧
      e.message = "expected ')' " ++ s!"at pos {8}" ∧ 8 = e.position ∧
      ∀ c ∈ Line.slice "8 ÷ (2 € 1)".toList 0 (e.position - 1), c.toNat < 128 ∨ c = '÷' := by
  have herror : Result.scanError? (({} : Calculator).evaluate "8 ÷ (2 € 1)".toList {}) =
      some ⟨.expected "')'" 8, 8, "8 ÷ (2 € 1)".toList, some 0⟩ := by decide +kernel
  obtain ⟨s', h⟩ := Result.eq_error_of_scanError? herror
  have hmessage : (Complaint.expected "')'" 8).message = "expected ')' " ++ s!"at pos {8}" := by
    decide +kernel
  obtain ⟨-, -, -, hcolumn, hplain⟩ := evaluate_error_points h
  exact ⟨_, s', h, hmessage, hcolumn _ 8 hmessage, hplain⟩

end LineScan
