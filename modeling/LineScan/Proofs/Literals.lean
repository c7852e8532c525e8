import LineScan.Proofs.Conservation

/-!
# What a literal matches

A literal is looked for past the blanks, unless it starts with a blank itself, and it is refused
where the text after it would go on with its last word or number. `Line.Holds` says the same as a
property of the text: the text is some blanks, the literal, and a rest that does not go on with it.
The blanks are then determined, so that there is one place at most where a literal can be found.

The hook of a scanner has no part in this, because looking for a literal never raises anything.

## Main statements

* `Stands.dispatch_of_holds`, `Stands.dispatch_of_not_holds`: the matcher of a literal finds it
  where the text holds it, and misses it at the first place that could have held it.
* `accept_literal_exact`: the same for an attempt at any place of a line.
-/

namespace LineScan

namespace Line

variable {line text rest gap wanted : Line}

/-! ## The first place without a blank -/

/-- The first place at or after a cursor that holds no blank; it is the end of the line if there is
nothing but blanks. -/
structure FirstFrom (line : Line) (cursor place : Int) : Prop where
  le : cursor ≤ place
  le_length : place ≤ line.length
  blank : ∀ p, cursor ≤ p → p < place → Text.isBlank (line.peek p) = true
  unblank : place < line.length → Text.isBlank (line.peek place) = false

/-- There is one such place. -/
theorem FirstFrom.unique {cursor p q : Int} (hp : line.FirstFrom cursor p)
    (hq : line.FirstFrom cursor q) : p = q := by
  have hpq : ¬ p < q := fun hlt => by
    have hlength := hq.le_length
    have hblank := hq.blank p hp.le hlt
    rw [hp.unblank (by omega)] at hblank
    cases hblank
  have hqp : ¬ q < p := fun hlt => by
    have hlength := hp.le_length
    have hblank := hp.blank q hq.le hlt
    rw [hq.unblank (by omega)] at hblank
    cases hblank
  omega

/-- Dropping characters moves the place on by as many. -/
theorem place_drop {n : Nat} (line : Line) (h : n ≤ text.length) :
    line.place (text.drop n) = line.place text + n := by
  rw [place, place, List.length_drop]
  omega

/-- What comes next in a text stands at the first place without a blank. -/
theorem firstFrom_ahead (h : text <:+ line) :
    line.FirstFrom (line.place text) (line.place text.ahead) where
  le := by
    have hle := (ahead_suffix text).length_le
    rw [place, place]
    omega
  le_length := place_le line text.ahead
  blank := by
    intro p hfrom hto
    obtain ⟨gap, hgap, hblank⟩ := exists_blanks text
    obtain ⟨n, rfl⟩ : ∃ n : Nat, p = line.place text + n := ⟨(p - line.place text).toNat, by omega⟩
    have hsplit := congrArg List.length hgap
    rw [List.length_append] at hsplit
    have hn : n < gap.length := by
      rw [place, place] at hto
      omega
    rw [← place_drop line (by omega), peek_place ((List.drop_suffix n text).trans h), hgap,
      List.drop_append_of_le_length (by omega), List.drop_eq_getElem_cons hn]
    exact hblank _ (List.getElem_mem hn)
  unblank := fun _ => isBlank_peek_ahead ((ahead_suffix text).trans h)

/-! ## Texts that hold a literal -/

/-- A text holds a literal: there are some blanks before it, but none if it starts with a blank, and
what comes after it does not go on with its last word or number. -/
structure Holds (wanted text gap rest : Line) : Prop where
  split : text = gap ++ (wanted ++ rest)
  blank : ∀ c ∈ gap, Text.isBlank c = true
  tight : ∀ first, wanted.head? = some first → Text.isBlank first = true → gap = []
  after_letter : ∀ last, wanted.getLast? = some last → Text.isLetter last = true →
    ∀ next, rest.head? = some next → Text.isLetterOrDigit next = false
  after_digit : ∀ last, wanted.getLast? = some last → Text.isDigit last = true →
    ∀ next, rest.head? = some next → Text.isDigit next = false

/-- The text from where a literal is compared with it. -/
def compared (wanted text : Line) : Line :=
  if wanted.head?.any Text.isBlank then text else text.ahead

/-- A literal is compared with what is left of the text. -/
theorem compared_suffix (wanted text : Line) : compared wanted text <:+ text := by
  unfold compared
  split
  · exact List.suffix_refl text
  · exact ahead_suffix text

/-- Where a literal is held, it is what it is compared with. -/
theorem Holds.compared_eq (h : Holds wanted text gap rest) (hne : wanted ≠ []) :
    compared wanted text = wanted ++ rest := by
  obtain ⟨first, others, rfl⟩ := List.exists_cons_of_ne_nil hne
  rw [compared, List.head?_cons, Option.any_some]
  split
  · next hfirst =>
    have hgap := h.tight first rfl hfirst
    rw [h.split, hgap, List.nil_append]
  · next hfirst =>
    rw [h.split, ahead_append_of_blank h.blank, List.cons_append, ahead,
      List.dropWhile_cons_of_neg hfirst]

/-- So there is one way at most in which a text holds a literal. -/
theorem Holds.gap_eq {gap' rest' : Line} (h : Holds wanted text gap rest) (hne : wanted ≠ [])
    (h' : Holds wanted text gap' rest') : gap' = gap := by
  have hsame : wanted ++ rest' = wanted ++ rest :=
    (h'.compared_eq hne).symm.trans (h.compared_eq hne)
  have hsplit := h'.split
  rw [hsame, h.split] at hsplit
  exact (List.append_cancel_right hsplit).symm

/-- What a text does not go on with. -/
theorem continues_eq_false_iff (last : Char) (rest : Line) :
    Scan.continues last (rest.headD nul) = false ↔
      (Text.isLetter last = true → ∀ next, rest.head? = some next →
        Text.isLetterOrDigit next = false) ∧
      (Text.isDigit last = true → ∀ next, rest.head? = some next → Text.isDigit next = false) := by
  have hnul : Text.isLetterOrDigit nul = false ∧ Text.isDigit nul = false := by decide
  cases rest with
  | nil => simp [Scan.continues, hnul]
  | cons next others => simp [Scan.continues]

/-- A literal that is what it is compared with is held, if the rest does not go on with it. -/
theorem exists_holds_of_compared {first : Char} {others : Line}
    (h : compared (first :: others) text = first :: others ++ rest)
    (hends : Scan.continues ((first :: others).getLastD first) (rest.headD nul) = false) :
    ∃ gap, Holds (first :: others) text gap rest := by
  have hlast : (first :: others).getLast? = some ((first :: others).getLastD first) := rfl
  obtain ⟨hletter, hdigit⟩ := (continues_eq_false_iff _ rest).mp hends
  have hafter : ∀ last, (first :: others).getLast? = some last →
      last = (first :: others).getLastD first := fun last h => Option.some.inj (h.symm.trans hlast)
  by_cases hfirst : Text.isBlank first = true
  · rw [compared, List.head?_cons, Option.any_some, if_pos hfirst] at h
    exact ⟨[], h, nofun, fun _ _ _ => rfl, fun last hl => hafter last hl ▸ hletter,
      fun last hl => hafter last hl ▸ hdigit⟩
  · rw [compared, List.head?_cons, Option.any_some, if_neg hfirst] at h
    obtain ⟨gap, hgap, hblank⟩ := exists_blanks text
    refine ⟨gap, h ▸ hgap, hblank, fun c hc hblank => ?_, fun last hl => hafter last hl ▸ hletter,
      fun last hl => hafter last hl ▸ hdigit⟩
    cases hc
    exact absurd hblank hfirst

end Line

/-! ## The matcher -/

namespace Stands

variable {line text rest gap wanted : Line} {s : Scanner} (hs : Stands line text s)

include hs

/-- What a literal is compared with ends the line. -/
theorem compared_suffix (wanted : Line) : Line.compared wanted text <:+ line :=
  (Line.compared_suffix wanted text).trans hs.suffix

/-- Away from the end of the line, a literal is compared with the text past the blanks, or with all
of the text if it starts with a blank. -/
theorem dispatch_compared (hne : text ≠ []) (first : Char) (others : Line) :
    let wanted := first :: others
    let start := line.place (Line.compared wanted text)
    let after := { s.state with matchStart := start }
    Scan.dispatch (.literal wanted) s.state =
      if (line.length : Int) - start < wanted.length ∨
          line.slice start (start + wanted.length) ≠ wanted then
        .ok (.miss start) after
      else if Scan.continues (wanted.getLastD first) (line.peek (start + wanted.length)) then
        .ok (.miss start) after
      else .ok (.hit (start + wanted.length) .none) after := by
  have hinside : ¬ (line.place text ≥ (line.length : Int)) := by
    have hlength := List.length_pos_iff.mpr hne
    rw [Line.place]
    omega
  simp only [Line.compared, List.head?_cons, Option.any_some]
  obtain hfirst | hfirst := Bool.eq_false_or_eq_true (Text.isBlank first) <;>
    simp only [Scan.dispatch, Scan.literal, bind_apply, get_apply, modify_apply, hs.line_eq,
      hs.cursor_eq, cond_apply, pure_apply, hfirst, Bool.false_eq_true, if_true, if_false,
      Scan.skipBlanks, Line.skipBlanks_place hs.suffix, if_neg hinside, Bool.or_eq_true,
      decide_eq_true_eq, bne_iff_ne]

/-- A literal that the text holds is found, from where it stands to where it ends. -/
theorem dispatch_of_holds (hne : wanted ≠ []) (h : Line.Holds wanted text gap rest) :
    Scan.dispatch (.literal wanted) s.state =
      .ok (.hit (line.place rest) .none)
        { s.state with matchStart := line.place (wanted ++ rest) } := by
  have hstart := h.compared_eq hne
  have hsuffix : wanted ++ rest <:+ line := hstart ▸ hs.compared_suffix wanted
  obtain ⟨first, others, rfl⟩ := List.exists_cons_of_ne_nil hne
  have htext : text ≠ [] := by
    rw [h.split]
    simp
  have hrest : rest <:+ line := (List.suffix_append _ rest).trans hsuffix
  have hstop : line.place (first :: others ++ rest) + (first :: others).length =
      line.place rest := by
    rw [Line.place, Line.place, List.length_append]
    omega
  have hroom : ¬ ((line.length : Int) - line.place (first :: others ++ rest) <
      (first :: others).length) := by
    rw [Line.place, List.length_append]
    omega
  have hends : Scan.continues ((first :: others).getLastD first) (rest.headD Line.nul) = false :=
    (Line.continues_eq_false_iff _ rest).mpr ⟨h.after_letter _ rfl, h.after_digit _ rfl⟩
  have hslice := Line.slice_place hsuffix (first :: others).length
  rw [List.take_left] at hslice
  rw [hs.dispatch_compared htext, hstart, hslice, hstop, Line.peek_place hrest, hends]
  rw [if_neg (by simpa using hroom), if_neg Bool.false_ne_true]

/-- A literal that the text does not hold is missed where it is compared. -/
theorem dispatch_of_not_holds (hne : wanted ≠ []) (htext : text ≠ [])
    (h : ¬ ∃ gap rest, Line.Holds wanted text gap rest) :
    Scan.dispatch (.literal wanted) s.state =
      .ok (.miss (line.place (Line.compared wanted text)))
        { s.state with matchStart := line.place (Line.compared wanted text) } := by
  obtain ⟨first, others, rfl⟩ := List.exists_cons_of_ne_nil hne
  have hsuffix := hs.compared_suffix (first :: others)
  rw [hs.dispatch_compared htext, Line.slice_place hsuffix]
  split
  · rfl
  · next hfound =>
    have hprefix := List.take_prefix (first :: others).length (Line.compared (first :: others) text)
    rw [Classical.not_not.mp fun h => hfound (.inr h)] at hprefix
    obtain ⟨rest, hrest⟩ := hprefix
    split
    · rfl
    · next hends =>
      -- otherwise the text would hold the literal
      refine absurd ?_ h
      have hstop : line.place (Line.compared (first :: others) text) + (first :: others).length =
          line.place rest := by
        rw [← hrest, Line.place, Line.place, List.length_append]
        omega
      have hrestSuffix : rest <:+ line := (List.suffix_append _ rest).trans (hrest ▸ hsuffix)
      rw [hstop, Line.peek_place hrestSuffix] at hends
      obtain ⟨gap, hgap⟩ := Line.exists_holds_of_compared hrest.symm (by simpa using hends)
      exact ⟨gap, rest, hgap⟩

/-- At the end of the line only the empty literal is found. -/
theorem dispatch_at_end (hend : text = []) (wanted : Line) :
    Scan.dispatch (.literal wanted) s.state =
      .ok (if wanted = [] then .hit (line.place text) .none else .miss (line.place text))
        { s.state with matchStart := line.place text } := by
  have houtside : line.place text ≥ (line.length : Int) := by
    rw [hend, Line.place]
    simp
  cases wanted <;>
    simp only [Scan.dispatch, Scan.literal, bind_apply, get_apply, modify_apply, pure_apply,
      hs.line_eq, hs.cursor_eq, houtside, if_true, if_false, reduceCtorEq]

/-- The empty literal is not found anywhere else. -/
theorem dispatch_empty (hne : text ≠ []) :
    Scan.dispatch (.literal []) s.state =
      .ok (.miss (line.place text)) { s.state with matchStart := line.place text } := by
  have hinside : ¬ (line.place text ≥ (line.length : Int)) := by
    have hlength := List.length_pos_iff.mpr hne
    rw [Line.place]
    omega
  simp only [Scan.dispatch, Scan.literal, bind_apply, get_apply, modify_apply, pure_apply,
    hs.line_eq, hs.cursor_eq, if_neg hinside]

end Stands

/-! ## Attempts at a literal -/

/-- An attempt that is answered without a hook is answered in the same way with one. -/
theorem Rule.acceptTarget_of_unhooked {setting : Setting} {target : Target} {s t : Scanner}
    {found : Bool} (h : acceptTarget setting target { s with hook := none } = .ok found t) :
    acceptTarget setting target s = .ok found { t with hook := s.hook } := by
  rw [acceptTarget, onBench_apply rfl] at h
  rw [acceptTarget, onBench]
  cases hattempt : Bench.attempt setting target s.toBench with
  | ok a b =>
    rw [hattempt] at h
    cases h
    rfl
  | error e b =>
    rw [hattempt] at h
    cases e <;> cases h

/-- A scanner within its line stands before the rest of it, once its hook is left out. -/
theorem Scanner.stands_rest (s : Scanner) (hfrom : 0 ≤ s.state.cursor)
    (hto : s.state.cursor ≤ s.state.line.length) :
    Stands s.state.line s.state.rest { s with hook := none } where
  line_eq := rfl
  cursor_eq := by
    change s.state.cursor = _
    rw [ScanState.rest, Line.sliceFrom, Line.clamp, if_neg (by omega), Line.place,
      List.length_drop]
    omega
  suffix := List.drop_suffix _ _
  hook_eq := rfl

/-- The place at which a literal is compared with a line: the cursor if it starts with a blank, and
the first place without a blank otherwise. -/
def Line.ComparedAt (wanted line : Line) (cursor place : Int) : Prop :=
  if wanted.head?.any Text.isBlank then place = cursor else line.FirstFrom cursor place

/-- Where a literal is compared with a text is where it is compared with the line. -/
theorem Line.comparedAt_place {line text : Line} (wanted : Line) (h : text <:+ line) :
    Line.ComparedAt wanted line (line.place text) (line.place (Line.compared wanted text)) := by
  unfold Line.ComparedAt Line.compared
  split
  · rfl
  · exact Line.firstFrom_ahead h

section

variable (setting : Setting) {line text rest gap wanted : Line} {s : Scanner}
  (hs : Stands line text s)

include hs

/-- A literal that the text holds is accepted, and it is the matched text then. -/
theorem accept_literal_of_holds (hne : wanted ≠ []) (h : Line.Holds wanted text gap rest) :
    ∃ s', Rule.acceptTarget setting (.literal wanted) s = .ok true s' ∧
      s'.state.cursor = s.state.cursor + gap.length + wanted.length ∧
      s'.state.matched = wanted := by
  have hsuffix : wanted ++ rest <:+ line := h.compared_eq hne ▸ hs.compared_suffix wanted
  have hrest : rest <:+ line := (List.suffix_append wanted rest).trans hsuffix
  obtain ⟨journal, hj⟩ := hs.acceptTarget_of_ok setting
    (hs.dispatch_of_holds hne h) hs.line_eq (Line.writes_place hrest)
  have hstop : line.place (wanted ++ rest) + wanted.length = line.place rest := by
    rw [Line.place, Line.place, List.length_append]
    omega
  refine ⟨_, hj, ?_, ?_⟩
  · rw [hs.cursor_eq]
    simp only [ScanState.settle, h.split, Line.place, List.length_append]
    omega
  · have hslice := Line.slice_place hsuffix wanted.length
    rw [List.take_left] at hslice
    have hlength : line.place rest - line.place (wanted ++ rest) = wanted.length := by omega
    simpa only [ScanState.settle, ScanState.matched, hs.line_eq, hlength] using hslice

/-- A literal that the text does not hold is refused, at the place where it is compared. -/
theorem accept_literal_of_not_holds (hne : wanted ≠ []) (htext : text ≠ [])
    (h : ¬ ∃ gap rest, Line.Holds wanted text gap rest) :
    ∃ s', Rule.acceptTarget setting (.literal wanted) s = .ok false s' ∧
      s'.state.cursor = s.state.cursor ∧
      ∃ place, s'.state.failPosition = some place ∧
        Line.ComparedAt wanted line s.state.cursor place := by
  obtain ⟨journal, hj⟩ := hs.acceptTarget_of_ok setting
    (hs.dispatch_of_not_holds hne htext h) hs.line_eq
    (Line.writes_place (hs.compared_suffix wanted))
  exact ⟨_, hj, rfl, _, rfl, hs.cursor_eq ▸ Line.comparedAt_place wanted hs.suffix⟩

/-- At the end of the line the empty literal is accepted, and no other. -/
theorem accept_literal_at_end (hend : text = []) (wanted : Line) :
    ∃ s', Rule.acceptTarget setting (.literal wanted) s = .ok (decide (wanted = [])) s' := by
  have hplace := Line.writes_place hs.suffix
  obtain ⟨journal, hj⟩ := hs.acceptTarget_of_ok setting
    (hs.dispatch_at_end hend wanted) hs.line_eq (by split <;> exact hplace)
  cases wanted <;> exact ⟨_, hj⟩

/-- The empty literal is refused anywhere else. -/
theorem accept_literal_empty (htext : text ≠ []) :
    ∃ s', Rule.acceptTarget setting (.literal []) s = .ok false s' := by
  obtain ⟨journal, hj⟩ := hs.acceptTarget_of_ok setting (hs.dispatch_empty htext)
    hs.line_eq (Line.writes_place hs.suffix)
  exact ⟨_, hj⟩

end

/-- What an attempt at a literal comes to, anywhere in a line. Before the end of the line, a literal
is accepted just when the rest of the line holds it: the blanks before it are determined, the cursor
moves past them and past the literal, and the literal is the matched text. If the rest does not hold
it, the cursor stays, and the failure is at the place where the literal is compared. The empty
literal is accepted at the end of the line only, and nothing else is accepted there. -/
theorem accept_literal_exact (setting : Setting) (s : Scanner) (wanted : Line)
    (hfrom : 0 ≤ s.state.cursor) (hto : s.state.cursor ≤ s.state.line.length) :
    ∃ found s', Rule.accept setting (.target (.literal wanted)) s = .ok found s' ∧
      (s.state.cursor < s.state.line.length → wanted ≠ [] →
        (found = true ↔ ∃ gap rest, Line.Holds wanted s.state.rest gap rest) ∧
        (∀ gap rest, Line.Holds wanted s.state.rest gap rest →
          (∀ gap' rest', Line.Holds wanted s.state.rest gap' rest' → gap' = gap) ∧
          s'.state.cursor = s.state.cursor + gap.length + wanted.length ∧
          s'.state.matched = wanted) ∧
        (found = false →
          s'.state.cursor = s.state.cursor ∧
          ∃ place, s'.state.failPosition = some place ∧
            Line.ComparedAt wanted s.state.line s.state.cursor place)) ∧
      (s.state.cursor = s.state.line.length → (found = true ↔ wanted = [])) ∧
      (wanted = [] → (found = true ↔ s.state.cursor = s.state.line.length)) := by
  have haccept : Rule.accept setting (.target (.literal wanted)) =
      Rule.acceptTarget setting (.literal wanted) := rfl
  have hs := s.stands_rest hfrom hto
  have hcursor : s.state.cursor = s.state.line.place s.state.rest := hs.cursor_eq
  rw [haccept]
  -- at the end of the line nothing is compared, so that the empty literal is found there and only
  -- there
  by_cases hend : s.state.rest = []
  · have hstop : s.state.cursor = s.state.line.length := by
      rw [hcursor, hend, Line.place, List.length_nil]
      omega
    obtain ⟨s', hs'⟩ := accept_literal_at_end setting hs hend wanted
    exact ⟨_, _, Rule.acceptTarget_of_unhooked hs', fun h => absurd hstop (by omega),
      fun _ => decide_eq_true_iff,
      fun h => by simp [h, hstop]⟩
  · have hbefore : s.state.cursor < s.state.line.length := by
      have hlength := List.length_pos_iff.mpr hend
      rw [hcursor, Line.place]
      omega
    by_cases hne : wanted = []
    · subst hne
      obtain ⟨s', hs'⟩ := accept_literal_empty setting hs hend
      exact ⟨_, _, Rule.acceptTarget_of_unhooked hs', fun _ h => absurd rfl h,
        fun h => absurd h (by omega), fun _ => by simp; omega⟩
    -- the blanks before the literal are determined by the text, which is why one match speaks for
    -- all
    · by_cases h : ∃ gap rest, Line.Holds wanted s.state.rest gap rest
      · obtain ⟨gap, rest, hholds⟩ := h
        obtain ⟨s', hs', hmoved, hmatched⟩ := accept_literal_of_holds setting hs hne hholds
        refine ⟨_, _, Rule.acceptTarget_of_unhooked hs',
          fun _ _ => ⟨⟨fun _ => ⟨gap, rest, hholds⟩, fun _ => rfl⟩, ?_,
            fun hno => absurd hno.symm Bool.false_ne_true⟩,
          fun h => absurd h (by omega), fun h => absurd h hne⟩
        intro gap' rest' h'
        have hgap := hholds.gap_eq hne h'
        exact ⟨fun _ _ h'' => h'.gap_eq hne h'', hgap ▸ hmoved, hmatched⟩
      · obtain ⟨s', hs', hstays, hplace⟩ := accept_literal_of_not_holds setting hs hne hend h
        exact ⟨_, _, Rule.acceptTarget_of_unhooked hs',
          fun _ _ => ⟨⟨fun hyes => absurd hyes Bool.false_ne_true, fun h' => absurd h' h⟩,
            fun gap rest h' => absurd ⟨gap, rest, h'⟩ h, fun _ => ⟨hstays, hplace⟩⟩,
          fun h => absurd h (by omega), fun h => absurd h hne⟩

/-- After `x`, the line `x  end of2` goes on with `end`, but not with `end of`, because of the digit
after it. -/
theorem accept_literal_exact_endOf :
    let s : Scanner := { state := { line := "x  end of2".toList, cursor := 1 } }
    (0 ≤ s.state.cursor ∧ s.state.cursor ≤ s.state.line.length) ∧
    (∃ s', Rule.accept { registry := {} } (.target (.literal "end".toList)) s = .ok true s' ∧
      s'.state.cursor = 6 ∧ s'.state.matched = "end".toList) ∧
    ∃ s', Rule.accept { registry := {} } (.target (.literal "end of".toList)) s = .ok false s' ∧
      s'.state.cursor = 1 ∧ s'.state.failPosition = some 3 := by
  intro s
  have hin : 0 ≤ s.state.cursor ∧ s.state.cursor ≤ s.state.line.length := by decide
  have hbefore : s.state.cursor < s.state.line.length := by decide
  have hrest : s.state.rest = "  end of2".toList := by decide
  refine ⟨hin, ?_, ?_⟩
  · obtain ⟨found, s', hs', hinside, -⟩ :=
      accept_literal_exact { registry := {} } s "end".toList hin.1 hin.2
    have hholds : Line.Holds "end".toList s.state.rest "  ".toList " of2".toList := by
      refine ⟨hrest, List.all_eq_true.mp rfl, ?_, ?_, ?_⟩
      · rintro first ⟨⟩ hblank
        cases hblank
      · rintro last ⟨⟩ - next ⟨⟩
        rfl
      · rintro last ⟨⟩ hdigit
        cases hdigit
    obtain ⟨hfound, hwhere, -⟩ := hinside hbefore (by decide)
    obtain ⟨-, hcursor, hmatched⟩ := hwhere _ _ hholds
    exact ⟨s', hfound.mpr ⟨_, _, hholds⟩ ▸ hs', hcursor, hmatched⟩
  · obtain ⟨found, s', hs', hinside, -⟩ :=
      accept_literal_exact { registry := {} } s "end of".toList hin.1 hin.2
    obtain ⟨hfound, -, hmissed⟩ := hinside hbefore (by decide)
    have hno : found = false := by
      refine Bool.eq_false_iff.mpr fun h => ?_
      obtain ⟨gap, rest, hholds⟩ := hfound.mp h
      have hcompared := hholds.compared_eq (by decide)
      -- all that could come after the literal is the digit, which goes on with its last word
      have htwo : rest = "2".toList := by
        rw [hrest] at hcompared
        exact (List.append_cancel_left
          ((show Line.compared _ _ = "end of".toList ++ "2".toList by decide).symm.trans
            hcompared)).symm
      exact absurd (hholds.after_letter 'f' rfl (by decide) '2' (htwo ▸ rfl)) (by decide)
    obtain ⟨hstays, place, hplace, hfirst⟩ := hmissed hno
    have hthree : place = 3 := by
      have hfirst : s.state.line.FirstFrom 1 place := hfirst
      have hone : place ≠ 1 := fun h => absurd (h ▸ hfirst.unblank) (by decide)
      have htwo : place ≠ 2 := fun h => absurd (h ▸ hfirst.unblank) (by decide)
      have hmore : ¬ 3 < place := fun h => absurd (hfirst.blank 3 (by decide) h) (by decide)
      have hle := hfirst.le
      omega
    exact ⟨s', hno ▸ hs', hstays, hthree ▸ hplace⟩

end LineScan
