import LineScan.Proofs.Execution
import LineScan.Proofs.RoundTrip
import LineScan.Proofs.Values

/-!
# Which lines are accepted, and what they are worth

A line of the documented grammar has the value of the tree that it spells, or is refused for the
first thing that goes wrong in it from left to right. Conversely a line that is accepted spells a
whole tree: one whose calls may leave out commas, and put one after the last argument. That is more
than the documented grammar allows, and an accepted line is a sentence of the documented grammar if
and only if the tree that it was worked out by has its commas in order.
-/

namespace LineScan.Grammar

open Calculator

variable {k : Calculator} {line : Line} {s s' : Scanner} {n : Int}

/-! ## The value of a line -/

/-- The value of a line that has a sum at its front: that of the sum, if nothing but blanks follows.
-/
theorem lineValue_of_going {t : Term} {rest : Line} (h : read line = (t, .going rest)) :
    lineValue k line = t.value k (line.place rest + 1) k.maxDepth.toNat >>= fun n =>
      if rest.ahead = [] then .ok n
      else refuse (.expected endTerminal.label (line.place rest.ahead + 1)) := by
  unfold lineValue
  simp only [h, Front.rest_going, List.isEmpty_iff]

/-- A tree that breaks off has no value, so that nothing after it is asked for. -/
theorem lineValue_of_stuck {t : Term} {place : Line} (h : read line = (t, .stuck place)) :
    lineValue k line = t.value k (line.place place + 1) k.maxDepth.toNat := by
  have hshows := reads_read line
  rw [h] at hshows
  unfold lineValue
  simp only [h, Front.rest_stuck]
  cases hvalue : t.value k (line.place place + 1) k.maxDepth.toNat with
  | ok n => exact absurd (t.sound hvalue).1 hshows
  | error cause => rfl

/-- A line that is read as a whole tree to its end has the value of the tree. -/
theorem lineValue_of_read {t : Term} {rest : Line} (hread : read line = (t, .going rest))
    (hend : rest.ahead = []) (whole : t.Whole) (column : Int) :
    lineValue k line = t.value k column k.maxDepth.toNat := by
  rw [lineValue_of_going hread, t.value_column k.maxDepth.toNat whole]
  simp only [hend, if_true]
  exact bind_pure _

/-- A line that has a value is read to its end as a whole tree of that value. -/
theorem exists_read_of_lineValue (h : lineValue k line = .ok n) :
    ∃ t rest, read line = (t, .going rest) ∧ rest.ahead = [] ∧ t.Whole ∧
      ∀ column, t.value k column k.maxDepth.toNat = .ok n := by
  have hshows := reads_read line
  generalize hreading : read line = reading at hshows
  obtain ⟨t, front⟩ := reading
  cases front with
  | stuck place =>
    rw [lineValue_of_stuck hreading] at h
    exact absurd (t.sound h).1 hshows
  | going rest =>
    rw [lineValue_of_going hreading] at h
    obtain ⟨m, hm, h⟩ := bind_eq_ok h
    by_cases hend : rest.ahead = []
    · rw [if_pos hend] at h
      cases h
      exact ⟨t, rest, rfl, hend, hshows.1, fun column => t.value_mono (Nat.le_refl _) hm⟩
    · rw [if_neg hend] at h
      cases h

/-- A line that evaluates to a number has that number as its value. -/
theorem lineValue_of_evaluate (hpure : k.PureFunctions) (h : k.evaluate line s = .ok n s') :
    lineValue k line = .ok n := by
  have hagrees := agrees_evaluate hpure line s
  rw [h] at hagrees
  generalize lineValue k line = value at hagrees
  cases hagrees
  rfl

/-- A line that has a value evaluates to it, on every scanner. -/
theorem exists_evaluate_of_lineValue (hpure : k.PureFunctions) (h : lineValue k line = .ok n)
    (s : Scanner) : ∃ s', k.evaluate line s = .ok n s' := by
  have hagrees := agrees_evaluate hpure line s
  rw [h] at hagrees
  generalize k.evaluate line s = result at hagrees
  cases hagrees
  exact ⟨_, rfl⟩

/-- An error in evaluating a line is the one that the line has instead of a value, and it stands at
the column that it names. -/
theorem lineValue_of_error (hpure : k.PureFunctions) {e : ScanError}
    (h : k.evaluate line s = .error (.scan e) s') :
    lineValue k line = .error (.complaint e.complaint) ∧ (Failure.scan e).Located := by
  have hagrees := agrees_evaluate hpure line s
  rw [h] at hagrees
  generalize lineValue k line = value at hagrees
  cases hagrees with
  | failed located => exact ⟨rfl, located⟩

/-- A line that is refused for a complaint fails with that complaint, at the column that it names.
-/
theorem exists_error_of_lineValue (hpure : k.PureFunctions) {c : Complaint}
    (h : lineValue k line = .error (.complaint c)) (s : Scanner) :
    ∃ e s', k.evaluate line s = .error (.scan e) s' ∧ e.complaint = c ∧
      (Failure.scan e).Located := by
  have hagrees := agrees_evaluate hpure line s
  generalize lineValue k line = value at hagrees h
  generalize k.evaluate line s = result at hagrees
  cases hagrees with
  | ok _ => cases h
  | @failed failure s' _ located =>
    cases failure with
    | scan e =>
      cases h
      exact ⟨e, s', rfl, rfl, located⟩
    | fault cause => cases h

/-! ## Lines of the documented grammar -/

/-- A line that spells an expression of the documented grammar, with any blanks in it, evaluates to
the value of the expression; or the complaint that is raised is the first one from left to right. -/
theorem evaluate_of_isWritten (total : k.TotalFunctions) (readable : k.ReadableVariables)
    {t : Term} (whole : t.Whole) (separated : t.Separated) (written : IsWritten t.tokens line)
    (s : Scanner) (column : Int) :
    match t.value k column k.maxDepth.toNat with
    | .ok n => ∃ s', k.evaluate line s = .ok n s'
    | .error (.complaint c) => ∃ e s', k.evaluate line s = .error (.scan e) s' ∧
        e.complaint = c ∧ e.message = c.message
    | .error (.fault _) => False := by
  obtain ⟨rest, hread, hend⟩ := read_of_isWritten whole separated written
  have hvalue : lineValue k line = t.value k column k.maxDepth.toNat :=
    lineValue_of_read hread hend whole column
  have hagrees := agrees_evaluate total.pure line s
  have hexcused : ∀ cause, t.value k column k.maxDepth.toNat = .error cause →
      ∃ c, cause = .complaint c :=
    fun cause => t.excused (excuses_complaint total readable) k.maxDepth.toNat cause (.inl whole)
  rw [hvalue] at hagrees
  generalize t.value k column k.maxDepth.toNat = value at hagrees hexcused
  generalize k.evaluate line s = result at hagrees
  cases hagrees with
  | ok _ => exact ⟨_, rfl⟩
  | @failed e s' _ _ =>
    -- total functions and readable variables have no faults, so this is a complaint
    obtain ⟨c, hc⟩ := hexcused _ rfl
    cases e with
    | scan error => exact ⟨error, s', rfl, rfl, rfl⟩
    | fault cause => cases hc

/-- A calculator with one variable and the least and the greatest of some integers. -/
def twoFunctions : Calculator where
  env := [("x", " -7 apples")]
  functions := [("min", .least), ("max", .greatest)]
  maxInt := 9

/-- The least and the greatest of some integers are always there. -/
theorem twoFunctions_total : twoFunctions.TotalFunctions :=
  totalFunctions_of_entries (by simp [twoFunctions])

/-- The one variable of the calculator holds a number. -/
theorem twoFunctions_readable : twoFunctions.ReadableVariables := by
  intro name text known
  have htext : text = " -7 apples" := by
    simp only [twoFunctions, Bindings.get?, List.lookup_cons, List.lookup_nil] at known
    split at known
    · cases known; rfl
    · cases known
  rw [htext]
  decide

/-- The expression `min(x, 4) / -2`. -/
def leastOverTwo : Term :=
  .one (.step
    (.one (.call ⟨'m', ['i', 'n'], by decide, by simp [Text.isIdentChar, Text.isLetter]⟩
      (.more (.one (.one (.var ⟨'x', [], by decide, by simp⟩))) true
        (.more (.one (.one (.int ⟨'4', [], by decide, by simp⟩))) false .close))))
    .slash (.sign .minus (.int ⟨'2', [], by decide, by simp⟩)))

/-- Spelled with blanks between its words, the expression evaluates to 3. -/
theorem evaluate_leastOverTwo :
    ∃ s', twoFunctions.evaluate " min( x ,4)/ -2".toList {} = .ok 3 s' := by
  have whole : leastOverTwo.Whole := by
    simp [leastOverTwo, Term.Whole, Factor.Whole, Primary.Whole, Arguments.Whole]
  have separated : leastOverTwo.Separated := by
    simp [leastOverTwo, Term.Separated, Factor.Separated, Primary.Separated, Arguments.Separated,
      Arguments.count]
  have written : IsWritten leastOverTwo.tokens " min( x ,4)/ -2".toList := by
    refine ⟨[], ?_, by simp⟩
    repeat refine .of_ahead rfl ?_
    exact .nil []
  exact evaluate_of_isWritten twoFunctions_total twoFunctions_readable whole separated written {} 0

/-! ## Accepted lines -/

/-- A line that evaluates to a number spells a whole tree of that value, and everything in the tree
is admissible. -/
theorem exists_tree_of_evaluate (hpure : k.PureFunctions) (h : k.evaluate line s = .ok n s') :
    ∃ t : Term, t.Whole ∧ IsWritten t.tokens line ∧ t.Admissible k ∧
      (t.depth : Int) ≤ k.maxDepth ∧ ∀ column, t.value k column k.maxDepth.toNat = .ok n := by
  obtain ⟨t, rest, hread, hend, whole, hvalue⟩ :=
    exists_read_of_lineValue (lineValue_of_evaluate hpure h)
  obtain ⟨-, admissible, hdepth⟩ := t.sound (hvalue 0)
  have hshows := reads_read line
  rw [hread] at hshows
  have hpos := t.depth_pos
  exact ⟨t, whole, ⟨rest, hshows.2, Line.ahead_eq_nil_iff.mp hend⟩, admissible, by omega, hvalue⟩

/-- The line is accepted although a comma is missing, and has the value of the tree that it spells.
-/
theorem exists_tree_of_greatest :
    ∃ t : Term, t.Whole ∧ IsWritten t.tokens "max(1 -2, (x) 8)".toList ∧
      t.Admissible twoFunctions ∧ (t.depth : Int) ≤ 100 ∧
      ∀ column, t.value twoFunctions column 100 = .ok 8 := by
  obtain ⟨s', h⟩ := exists_evaluate_of_lineValue twoFunctions_total.pure
    (show lineValue twoFunctions "max(1 -2, (x) 8)".toList = .ok 8 from rfl) {}
  exact exists_tree_of_evaluate twoFunctions_total.pure h

/-- An accepted line is worked out by a tree that it spells, and it is a sentence of the documented
grammar if and only if a comma stands between two arguments of each call of that tree and nowhere
else. -/
theorem isSentence_iff_separated (hpure : k.PureFunctions) (h : k.evaluate line s = .ok n s') :
    ∃ t : Term, t.Whole ∧ IsWritten t.tokens line ∧
      (∀ column, t.value k column k.maxDepth.toNat = .ok n) ∧ (IsSentence line ↔ t.Separated) := by
  obtain ⟨t, rest, hread, hend, whole, hvalue⟩ :=
    exists_read_of_lineValue (lineValue_of_evaluate hpure h)
  have hshows := reads_read line
  rw [hread] at hshows
  have written : IsWritten t.tokens line := ⟨rest, hshows.2, Line.ahead_eq_nil_iff.mp hend⟩
  refine ⟨t, whole, written, hvalue, ?_, fun separated => ⟨t, whole, separated, written⟩⟩
  rintro ⟨t', whole', separated', written'⟩
  -- a documented tree that the line spells is the one that is read
  obtain ⟨rest', hread', -⟩ := read_of_isWritten whole' separated' written'
  rw [hread] at hread'
  cases hread'
  exact separated'

/-- Without the comma the line is accepted, and is no sentence of the documented grammar. -/
theorem not_isSentence_of_missing_comma :
    (∃ s', twoFunctions.evaluate "min(1 2)".toList {} = .ok 1 s') ∧
      ¬ IsSentence "min(1 2)".toList := by
  refine ⟨exists_evaluate_of_lineValue twoFunctions_total.pure rfl {}, ?_⟩
  rintro ⟨t, whole, separated, written⟩
  obtain ⟨rest, hread, -⟩ := read_of_isWritten whole separated written
  have hcommas : (read "min(1 2)".toList).1.Separated := by
    rw [hread]
    exact separated
  exact absurd (hcommas.2.1.mpr (by decide)) (by decide)

/-- With the comma the line is a sentence, since the commas of its tree are in order. -/
theorem isSentence_iff_separated_of_comma :
    ∃ t : Term, t.Whole ∧ IsWritten t.tokens "min(1, 2)".toList ∧
      (∀ column, t.value twoFunctions column 100 = .ok 1) ∧
      (IsSentence "min(1, 2)".toList ↔ t.Separated) := by
  obtain ⟨s', h⟩ := exists_evaluate_of_lineValue twoFunctions_total.pure
    (show lineValue twoFunctions "min(1, 2)".toList = .ok 1 from rfl) {}
  exact isSentence_iff_separated twoFunctions_total.pure h

end LineScan.Grammar
