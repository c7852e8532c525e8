import LineScan.Proofs.Reader

/-!
# The terminals of the calculator read words

Where the calculator scans for an identifier or an integer, it finds the word that the reading of a
line finds there, as long as possible. An integer that exceeds the bound is refused, whatever digits
come after the one that makes it exceed it; the end of the line is found where only blanks are left.
-/

namespace LineScan.Grammar

open Calculator

variable {k : Calculator} {line text rest : Line} {s : Scanner}

/-- The run of a class at the place of a word is the word. -/
theorem runAt_word {starts goesOn : Char → Bool} {w : Word starts goesOn}
    (hs : Stands line text s) (hfirst : goesOn w.first = true)
    (h : Word.read? starts goesOn text = some (w, rest)) :
    line.runAt goesOn (line.place text.ahead) = w.chars := by
  obtain ⟨ha, hstop⟩ := Word.read?_eq_some.mp h
  rw [Line.runAt_place hs.ahead_suffix, ha]
  exact takeWhile_run (fun c hc => Word.goesOn_of_mem hfirst hc) hstop

/-- The place past a token is its place and its length. -/
theorem place_add_length (line token rest : Line) :
    line.place (token ++ rest) + token.length = line.place rest := by
  simp only [Line.place, List.length_append]
  omega

/-- Where a name is read, it is found, and is the value of the match. -/
theorem accept_ident_of_some (k : Calculator) {name : Identifier} (hs : Stands line text s)
    (h : Identifier.read? text = some (name, rest)) :
    ∃ s', Rule.acceptTarget k.setting (.terminal identTerminal) s = .ok true s' ∧
      Stands line rest s' ∧ s'.state.value = .text name.text := by
  have ha := (Word.read?_eq_some.mp h).1
  have hpeek : line.peek (line.place text.ahead) = name.first := by
    rw [Line.peek_place hs.ahead_suffix, ha]
    rfl
  have hrun := runAt_word hs (isIdentChar_of_isIdentStart name.first_starts) h
  have hstop : line.place text.ahead + (Word.chars name).length = line.place rest := by
    rw [ha, place_add_length]
  have hscan : identTerminal.scan (line.place text.ahead)
      (s.state.cleared (line.place text.ahead)) =
        .ok (.hit (line.place rest) (.text name.text))
          (s.state.cleared (line.place text.ahead)) := by
    simp only [identTerminal, scanIdent, bind_apply, get_apply, ScanState.cleared_line, hs.line_eq,
      cond_apply, hpeek, name.first_starts, if_true, hrun, hstop, pure_apply]
    rfl
  exact hs.terminal_hit k.setting hscan hs.line_eq ((past_of_readWord? h).suffix.trans hs.suffix)

/-- Where no name is read, none is found. -/
theorem accept_ident_of_none (k : Calculator) (hs : Stands line text s)
    (h : Identifier.read? text = none) :
    ∃ s', Rule.acceptTarget k.setting (.terminal identTerminal) s = .ok false s' ∧
      Stands line text s' := by
  have hstart := Word.read?_eq_none.mp h
  have hpeek : Text.isIdentStart (line.peek (line.place text.ahead)) = false := by
    rw [Line.peek_place hs.ahead_suffix]
    cases ha : text.ahead with
    | nil => decide
    | cons c others => exact hstart c (by rw [ha]; rfl)
  have hmiss : identTerminal.scan (line.place text.ahead)
      (s.state.cleared (line.place text.ahead)) =
        .ok (.miss (some (line.place text.ahead))) (s.state.cleared (line.place text.ahead)) := by
    simp only [identTerminal, scanIdent, bind_apply, get_apply, ScanState.cleared_line, hs.line_eq,
      cond_apply, hpeek, Bool.false_eq_true, if_false, pure_apply]
  obtain ⟨s', hs', hstands, -⟩ :=
    hs.terminal_miss k.setting hmiss (Line.writes_place hs.ahead_suffix) hs.line_eq rfl
  exact ⟨s', hs', hstands⟩

/-- The digit by digit test of a bound: a further digit makes the value exceed it. -/
theorem exceeds_iff (bound value : Int) {d : Nat} (hd : d ≤ 9) :
    (decide (bound.fdiv 10 < value) ||
      (value == bound.fdiv 10 && decide (bound.fmod 10 < d))) = true ↔
        bound < 10 * value + d := by
  rw [Int.fdiv_eq_ediv_of_nonneg bound (by omega), Int.fmod_eq_emod_of_nonneg bound (by omega)]
  simp only [Bool.or_eq_true, Bool.and_eq_true, decide_eq_true_eq, beq_iff_eq]
  omega

/-- A digit is 9 at most. -/
theorem digitValue_le {c : Char} (h : Text.isDigit c = true) : Text.digitValue c ≤ 9 := by
  simp only [Text.isDigit, Char.isDigit, Bool.and_eq_true, decide_eq_true_eq] at h
  have h9 : c.toNat ≤ 57 := h.2
  have h0 : '0'.toNat = 48 := rfl
  rw [Text.digitValue, h0]
  omega

/-- Reading more digits never makes a value smaller. -/
theorem le_foldl_digits (digits : Line) (value : Nat) :
    value ≤ digits.foldl (fun n c => 10 * n + Text.digitValue c) value := by
  induction digits generalizing value with
  | nil => exact Nat.le_refl value
  | cons c digits ih =>
    refine Nat.le_trans ?_ (ih (10 * value + Text.digitValue c))
    omega

/-- A run of digits is read to its end if and only if its value does not exceed the bound. -/
theorem boundedValue_eq (bound : Int) {digits : Line}
    (hdigits : ∀ c ∈ digits, Text.isDigit c = true) (value : Nat)
    (hvalue : digits = [] → value ≤ bound) (pos : Int) :
    let final : Nat := digits.foldl (fun n c => 10 * n + Text.digitValue c) value
    (final ≤ bound → boundedValue (bound.fdiv 10) (bound.fmod 10) digits value pos = .ok final) ∧
      (bound < final →
        ∃ place, boundedValue (bound.fdiv 10) (bound.fmod 10) digits value pos = .error place) := by
  induction digits generalizing value pos with
  | nil =>
    have := hvalue rfl
    exact ⟨fun _ => rfl, fun h => by simp only [List.foldl_nil] at h; omega⟩
  | cons c digits ih =>
    have hd := digitValue_le (hdigits c (List.mem_cons_self ..))
    have hstep := exceeds_iff bound value hd
    have hle := le_foldl_digits digits (10 * value + Text.digitValue c)
    simp only [List.foldl_cons, boundedValue]
    by_cases hover : bound < 10 * (value : Int) + Text.digitValue c
    -- the digits after this one cannot make the value small enough again
    · rw [if_pos (hstep.mpr hover)]
      exact ⟨fun h => by omega, fun _ => ⟨pos, rfl⟩⟩
    · rw [if_neg (fun h => hover (hstep.mp h))]
      have hnext := ih (fun c hc => hdigits c (List.mem_cons_of_mem _ hc))
        (10 * value + Text.digitValue c) (fun _ => by omega) (pos + 1)
      exact hnext

/-- All characters of a numeral are digits. -/
theorem Numeral.digits (numeral : Numeral) : ∀ c ∈ numeral.chars, Text.isDigit c = true :=
  fun _ => Word.goesOn_of_mem numeral.first_starts

/-- Where digits stand, scanning an integer is reading them against the bound. -/
theorem scanInt_apply {digits : Line} {state : ScanState} {pos : Int} (bound : Int)
    (hne : digits ≠ []) (hrun : state.line.runAt Text.isDigit pos = digits) :
    scanInt bound pos state =
      match boundedValue (bound.fdiv 10) (bound.fmod 10) digits 0 pos with
      | .ok value => .ok (.hit (pos + digits.length) (.int value)) state
      | .error place =>
        .error (.complaint .overflow) { state with failPosition := some place } := by
  simp only [scanInt, bind_apply, get_apply, hrun]
  cases digits with
  | nil => exact absurd rfl hne
  | cons c digits =>
    cases boundedValue (bound.fdiv 10) (bound.fmod 10) (c :: digits) 0 pos <;> rfl

/-- Scanning an integer takes the whole run of digits, unless its value exceeds the bound. -/
theorem scanInt_eq {numeral : Numeral} {state : ScanState} (bound : Int) (hs : Stands line text s)
    (h : Numeral.read? text = some (numeral, rest)) (hline : state.line = line) :
    scanInt bound (line.place text.ahead) state =
      match boundedValue (bound.fdiv 10) (bound.fmod 10) numeral.chars 0
        (line.place text.ahead) with
      | .ok value => .ok (.hit (line.place rest) (.int value)) state
      | .error place =>
        .error (.complaint .overflow) { state with failPosition := some place } := by
  subst hline
  have hrun := runAt_word hs numeral.first_starts h
  have hstop : state.line.place text.ahead + (Word.chars numeral).length =
      state.line.place rest := by
    rw [(Word.read?_eq_some.mp h).1, place_add_length]
  rw [scanInt_apply bound (List.cons_ne_nil numeral.first numeral.others) hrun]
  simp only [← Word.chars.eq_def, hstop]

/-- Where a numeral within the bound is read, it is found, and its integer is the value of the
match. -/
theorem accept_int_of_le {numeral : Numeral} (hs : Stands line text s)
    (h : Numeral.read? text = some (numeral, rest)) (hle : numeral.value ≤ k.maxInt) :
    ∃ s', Rule.acceptTarget k.setting (.terminal (intTerminal k.maxInt)) s = .ok true s' ∧
      Stands line rest s' ∧ s'.state.value = .int numeral.value := by
  have hvalue := (boundedValue_eq k.maxInt numeral.digits 0 (fun h => by cases h)
    (line.place text.ahead)).1 hle
  have hscan := scanInt_eq k.maxInt hs h
    ((s.state.cleared_line (line.place text.ahead)).trans hs.line_eq)
  rw [Int.natCast_zero] at hvalue
  rw [hvalue] at hscan
  exact hs.terminal_hit k.setting hscan hs.line_eq ((past_of_readWord? h).suffix.trans hs.suffix)

/-- Where a numeral beyond the bound is read, the attempt fails for an overflow. -/
theorem accept_int_of_lt {numeral : Numeral} (hs : Stands line text s)
    (h : Numeral.read? text = some (numeral, rest)) (hlt : k.maxInt < numeral.value) :
    ∃ e s', Rule.acceptTarget k.setting (.terminal (intTerminal k.maxInt)) s = .error (.scan e) s' ∧
      e.complaint = .overflow := by
  obtain ⟨place, hplace⟩ := (boundedValue_eq k.maxInt numeral.digits 0 (fun h => by cases h)
    (line.place text.ahead)).2 hlt
  have hscan := scanInt_eq k.maxInt hs h
    ((s.state.cleared_line (line.place text.ahead)).trans hs.line_eq)
  rw [Int.natCast_zero] at hplace
  rw [hplace] at hscan
  exact hs.terminal_complaint k.setting hscan

/-- Where no numeral is read, none is found, and the column is that of what is there instead. -/
theorem accept_int_of_none (k : Calculator) (hs : Stands line text s)
    (h : Numeral.read? text = none) :
    ∃ s', Rule.acceptTarget k.setting (.terminal (intTerminal k.maxInt)) s = .ok false s' ∧
      Stands line text s' ∧ s'.state.errorColumn = line.place text.ahead + 1 := by
  have hstart := Word.read?_eq_none.mp h
  have hrun : line.runAt Text.isDigit (line.place text.ahead) = [] := by
    rw [Line.runAt_place hs.ahead_suffix]
    cases ha : text.ahead with
    | nil => rfl
    | cons c others => rw [List.takeWhile_cons_of_neg (by simp [hstart c (by rw [ha]; rfl)])]
  have hmiss : (intTerminal k.maxInt).scan (line.place text.ahead)
      (s.state.cleared (line.place text.ahead)) =
        .ok (.miss (some (line.place text.ahead))) (s.state.cleared (line.place text.ahead)) := by
    simp only [intTerminal, scanInt, bind_apply, get_apply, ScanState.cleared_line, hs.line_eq,
      hrun, pure_apply]
  exact hs.terminal_miss k.setting hmiss (Line.writes_place hs.ahead_suffix) hs.line_eq rfl

/-- The end of the line is found exactly if only blanks are left. -/
theorem accept_end (k : Calculator) (hs : Stands line text s) :
    ∃ s', Rule.acceptTarget k.setting (.terminal endTerminal) s = .ok text.ahead.isEmpty s' ∧
      (text.ahead = [] → Stands line [] s') ∧
      (text.ahead ≠ [] →
        Stands line text s' ∧ s'.state.errorColumn = line.place text.ahead + 1) := by
  have hscan : endTerminal.scan (line.place text.ahead) (s.state.cleared (line.place text.ahead)) =
      .ok (if line.place text.ahead ≥ line.length then .hit (line.place text.ahead) .none
        else .miss (some (line.place text.ahead))) (s.state.cleared (line.place text.ahead)) := by
    simp only [endTerminal, scanEnd, bind_apply, get_apply, ScanState.cleared_line, hs.line_eq,
      pure_apply]
  cases ha : text.ahead with
  | nil =>
    rw [if_pos (by simp [ha, Line.place])] at hscan
    obtain ⟨s', hs', hstands, -⟩ :=
      hs.terminal_hit k.setting hscan hs.line_eq hs.ahead_suffix
    exact ⟨s', hs', fun _ => ha ▸ hstands, fun h => absurd rfl h⟩
  | cons c others =>
    have hle := hs.ahead_suffix.length_le
    rw [if_neg (by simp only [ha, Line.place, List.length_cons] at *; omega)] at hscan
    obtain ⟨s', hs', hstands, hcolumn⟩ :=
      hs.terminal_miss k.setting hscan (Line.writes_place hs.ahead_suffix) hs.line_eq rfl
    exact ⟨s', hs', fun h => absurd h (List.cons_ne_nil c others),
      fun _ => ⟨hstands, by rw [hcolumn, ha]; rfl⟩⟩

end LineScan.Grammar
