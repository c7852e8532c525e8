import LineScan.Proofs.Acceptance
import LineScan.Proofs.Completion

/-!
# The column of an error in how a line is written

Such an error stands as early as it can. What comes before its column begins some line that is
written without error; and what comes up to its column, the character there included, begins none:
whatever follows, the same error is raised at the same column.

There are two ways to go wrong. The reading of the line is stuck, and the error is what the tree
that breaks off has instead of a value; or the reading has come to the end of a term, and something
that is no blank comes after it. `Refused` holds both, apart from how the line goes on.
-/

namespace LineScan

namespace Line

/-- What comes after a text is as far on as the text is long. -/
theorem place_append (before rest : Line) : place (before ++ rest) rest = before.length := by
  simp [place]

/-- The front of a line up to a text's length is that text. -/
theorem slice_append (before rest : Line) : slice (before ++ rest) 0 before.length = before := by
  have hstart : clamp (before ++ rest) 0 = 0 := by simp [clamp]
  have hstop : clamp (before ++ rest) before.length = before.length := by
    rw [clamp, if_neg (by omega)]
    simp
  rw [slice, hstart, hstop, List.drop_zero, Nat.sub_zero, List.take_left]

end Line

namespace Grammar

open Calculator

variable {k : Calculator} {line : Line} {s s' : Scanner}

/-! ## Lines that are refused -/

/-- A line is refused for how it is written, at the character after the text before it. -/
inductive Refused (k : Calculator) (before : Line) : (place : Line) → Complaint → Prop where
  | stuck {t : Term} {place : Line} {c : Complaint} (start : place.ahead = place)
      (reading : read (before ++ place) = (t, .stuck place))
      (value : t.value k (before.length + 1) k.maxDepth.toNat = .error (.complaint c)) :
      Refused k before place c
  | ended {t : Term} {first blanks place : Line} {n : Int} (split : before = first ++ blanks)
      (blank : blanks.ahead = []) (start : place.ahead = place) (more : place ≠ [])
      (reading : read (before ++ place) = (t, .going (blanks ++ place)))
      (value : ∀ column, t.value k column k.maxDepth.toNat = .ok n) :
      Refused k before place (.expected endTerminal.label (before.length + 1))

/-- A line with a complaint about how it is written that names a column is refused there. -/
theorem exists_refused_of_lineValue (hpure : k.PureFunctions) {c : Complaint} {column : Int}
    (h : lineValue k line = .error (.complaint c)) (hc : c.isSyntactic = true)
    (hcolumn : c.column? = some column) :
    ∃ before place, line = before ++ place ∧ column = before.length + 1 ∧
      Refused k before place c := by
  have hshows := reads_read line
  have hp := consumes_read line
  generalize hreading : read line = reading at hshows hp
  obtain ⟨t, front⟩ := reading
  cases front with
  | stuck place =>
    have hstart := hp.1.2 place rfl
    have hsuffix : place <:+ line := hp.1.1
    obtain ⟨before, rfl⟩ := hsuffix
    rw [lineValue_of_stuck hreading, Line.place_append] at h
    exact ⟨before, place, rfl, t.column_of_value hpure h hc hcolumn, .stuck hstart hreading h⟩
  | going rest =>
    rw [lineValue_of_going hreading] at h
    rcases bind_eq_error h with h | ⟨n, hn, h⟩
    · -- a whole term is not refused for how it is written
      have hnot := t.excused (excuses_not_syntactic hpure) _ _ (.inl hshows.1) h c rfl
      rw [hnot] at hc
      cases hc
    · obtain ⟨first, rfl⟩ := hp.suffix
      have hstart := Line.ahead_ahead rest
      obtain ⟨blanks, hblanks⟩ := Line.ahead_suffix rest
      generalize hplace : rest.ahead = place at h hblanks hstart
      subst hblanks
      by_cases hend : place = []
      · rw [if_pos hend] at h
        cases h
      · rw [if_neg hend] at h
        cases h
        cases hcolumn
        rw [← List.append_assoc] at hreading ⊢
        rw [Line.place_append]
        refine ⟨first ++ blanks, place, rfl, rfl, ?_⟩
        exact .ended rfl (ahead_eq_nil_of_ahead hplace) hstart hend hreading
          fun column => t.value_mono (Nat.le_refl _) hn

/-- A line that is refused at a character has the complaint instead of a value. -/
theorem Refused.lineValue {before place : Line} {c : Complaint} (h : Refused k before place c) :
    lineValue k (before ++ place) = .error (.complaint c) := by
  cases h with
  | stuck _ reading value =>
    rw [lineValue_of_stuck reading, Line.place_append]
    exact value
  | ended _ blank start more reading value =>
    rw [lineValue_of_going reading, value, Line.ahead_append, if_pos blank, start,
      Line.place_append]
    exact if_neg more

/-- A text that starts with what comes next starts with no blank, whatever comes after. -/
theorem ahead_cons_of_ahead {d : Char} {x : Line} (h : Line.ahead (d :: x) = d :: x) (y : Line) :
    Text.isBlank d = false ∧ Line.ahead (d :: y) = d :: y := by
  have hd : Text.isBlank d = false := by
    rw [← Bool.not_eq_true]
    intro hblank
    have hle : (Line.ahead (d :: x)).length ≤ x.length := by
      rw [Line.ahead, List.dropWhile_cons_of_pos hblank]
      exact (Line.ahead_suffix x).length_le
    rw [h, List.length_cons] at hle
    omega
  exact ⟨hd, List.dropWhile_cons_of_neg (by simp [hd])⟩

/-- A line that is refused at a character is refused there whatever comes after the character. -/
theorem Refused.swap {before x : Line} {d : Char} {c : Complaint} (y : Line)
    (h : Refused k before (d :: x) c) : Refused k before (d :: y) c := by
  cases h with
  | stuck start reading value =>
    obtain ⟨hd, start'⟩ := ahead_cons_of_ahead start y
    exact .stuck start' (read_of_stuck hd y reading) value
  | @ended t first blanks _ n split blank start _ reading value =>
    obtain ⟨hd, start'⟩ := ahead_cons_of_ahead start y
    refine .ended split blank start' (List.cons_ne_nil d y) ?_ value
    rw [split, List.append_assoc] at reading ⊢
    exact read_of_alike ((alike_cons hd x y).append blanks) reading

/-- What stands before the place where a line is refused begins a line that is read to its end. -/
theorem Refused.exists_read {before place : Line} {c : Complaint} (h : Refused k before place c) :
    ∃ (w : Line) (t : Term) (rest : Line), t.Whole ∧ read (before ++ w) = (t, .going rest) ∧
      rest.ahead = [] := by
  cases h with
  | stuck _ reading _ =>
    obtain ⟨w, t, whole, hread⟩ := exists_read_of_stuck reading
    exact ⟨w, t, [], whole, hread, rfl⟩
  | @ended t first blanks _ n split blank _ _ reading value =>
    -- the term has ended, so that nothing need be added
    have hends : Ends [')'] blanks := by
      intro c hc
      rw [blank] at hc
      cases hc
    rw [split, List.append_assoc] at reading
    refine ⟨[], t, blanks, (t.sound (value 0)).1, ?_, blank⟩
    rw [List.append_nil, split]
    exact read_of_alike (.inl hends) reading

/-! ## The column -/

/-- A line that is read to its end as a whole tree is not refused for how it is written. -/
theorem not_syntactic_of_read (hpure : k.PureFunctions) {t : Term} {rest : Line} {e : ScanError}
    (hread : read line = (t, .going rest)) (hend : rest.ahead = []) (whole : t.Whole)
    (h : k.evaluate line s = .error (.scan e) s') : e.complaint.isSyntactic = false := by
  have hvalue : t.value k 0 k.maxDepth.toNat = .error (.complaint e.complaint) := by
    rw [← lineValue_of_read hread hend whole]
    exact (lineValue_of_error hpure h).1
  exact t.excused (excuses_not_syntactic hpure) _ _ (.inl whole) hvalue e.complaint rfl

/-- An error in how a line is written stands at the earliest column that it can: what comes before
the column can be continued without such an error, and what comes up to the column cannot, but
raises the same error however it goes on. -/
theorem evaluate_error_earliest (hpure : k.PureFunctions) {e : ScanError} {column : Int}
    (h : k.evaluate line s = .error (.scan e) s')
    (herror : e.complaint = .syntaxError column ∨
      e.complaint = .expected (Target.char ')').label column ∨
      e.complaint = .expected endTerminal.label column) :
    e.position = column ∧ 1 ≤ column ∧ column ≤ line.length + 1 ∧
      (∃ w : Line, ∀ s₁ e' s₂,
        k.evaluate (line.slice 0 (column - 1) ++ w) s₁ = .error (.scan e') s₂ →
          e'.complaint.isSyntactic = false) ∧
      (column ≤ line.length → ∀ (w : Line) (s₁ : Scanner), ∃ e' s₂,
        k.evaluate (line.slice 0 column ++ w) s₁ = .error (.scan e') s₂ ∧
          e'.complaint = e.complaint ∧ e'.message = e.message ∧ e'.position = e.position) := by
  obtain ⟨hvalue, located⟩ := lineValue_of_error hpure h
  have hcolumn : e.complaint.isSyntactic = true ∧ e.complaint.column? = some column := by
    rcases herror with hc | hc | hc <;> rw [hc] <;> exact ⟨rfl, rfl⟩
  obtain ⟨before, place, rfl, rfl, refused⟩ :=
    exists_refused_of_lineValue hpure hvalue hcolumn.1 hcolumn.2
  have hposition := located _ hcolumn.2
  refine ⟨hposition, by omega, ?_, ?_, fun hinside w s₁ => ?_⟩
  · rw [List.length_append]
    omega
  · obtain ⟨w, t, rest, whole, hread, hend⟩ := refused.exists_read
    rw [Int.add_sub_cancel, Line.slice_append]
    exact ⟨w, fun _ _ _ => not_syntactic_of_read hpure hread hend whole⟩
  · cases place with
    | nil =>
      -- at the end of the line there is no character to keep
      rw [List.append_nil] at hinside
      omega
    | cons d x =>
      have hslice : (before ++ d :: x).slice 0 (before.length + 1) = before ++ [d] := by
        have := Line.slice_append (before ++ [d]) x
        simpa using this
      obtain ⟨e', s₂, herror', hc', located'⟩ :=
        exists_error_of_lineValue hpure (refused.swap w).lineValue s₁
      rw [hslice, List.append_assoc, List.singleton_append]
      refine ⟨e', s₂, herror', hc', ?_, ?_⟩
      · rw [ScanError.message, ScanError.message, hc']
      · rw [hposition]
        exact located' _ (by rw [hc']; exact hcolumn.2)

/-- The line can still be completed before the dollar sign, and nothing that follows it changes the
error. -/
theorem evaluate_error_earliest_of_dollar :
    (∃ w : Line, ∀ s₁ e' s₂,
      twoFunctions.evaluate ("(min(1 ".toList ++ w) s₁ = .error (.scan e') s₂ →
        e'.complaint.isSyntactic = false) ∧
    ∀ (w : Line) (s₁ : Scanner), ∃ e' s₂,
      twoFunctions.evaluate ("(min(1 $".toList ++ w) s₁ = .error (.scan e') s₂ ∧
        e'.message = "syntax error at pos 8" ∧ e'.position = 8 := by
  obtain ⟨e, s', h, hc, -⟩ := exists_error_of_lineValue twoFunctions_total.pure
    (show lineValue twoFunctions "(min(1 $2) + x".toList = .error (.complaint (.syntaxError 8))
      from rfl) {}
  obtain ⟨hposition, -, -, hbefore, hupTo⟩ :=
    evaluate_error_earliest twoFunctions_total.pure h (.inl hc)
  refine ⟨hbefore, fun w s₁ => ?_⟩
  obtain ⟨e', s₂, h', hc', -, hposition'⟩ := hupTo (by decide) w s₁
  refine ⟨e', s₂, h', ?_, hposition'.trans hposition⟩
  rw [ScanError.message, hc', hc]
  rfl

end Grammar

end LineScan
