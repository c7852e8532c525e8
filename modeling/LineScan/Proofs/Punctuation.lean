import LineScan.Proofs.AtWork
import LineScan.Proofs.Execution
import LineScan.Proofs.Literals
import LineScan.Proofs.RoundTrip

/-!
# Characters and literals of one character

A single character can be looked for in two ways, as a character or as a literal. The matchers go
about it differently: the one of a literal compares the position with the length of the line first,
the one of a character with the NUL past its end; and only a literal must not end inside a word or a
number. For a mark, which is neither a blank nor a letter nor a digit, none of this shows. For any
other character, and for NUL, there is a line on which it does.

## Main statements

* `Stands.dispatch_literal` (in `Proofs.Scanning`): on a mark, the two matchers do the same.
* `Text.isMark_of_nonascii`: the division sign is a mark, and so is all else outside ASCII.
* `sameAttempt_of_dispatch`: attempts whose matchers do the same come to the same.
* `sameAttempt_iff_isMark`: the two ways are interchangeable for marks, and for nothing else.
-/

namespace LineScan

/-- The character is a mark: it is neither a blank nor a letter nor a digit, and it does not stand
for the end of the line. -/
structure Text.IsMark (c : Char) : Prop where
  not_blank : isBlank c = false
  not_letter : isLetter c = false
  not_digit : isDigit c = false
  not_nul : c ≠ Line.nul

/-- Every character outside ASCII is a mark, since the scanner's classes are those of ASCII. -/
theorem Text.isMark_of_nonascii {c : Char} (h : 128 ≤ c.toNat) : IsMark c := by
  have hplain {p : Char → Bool} (hascii : p '÷' = false) (hp : ∀ {c}, p c = true → IsPlain c) :
      p c = false := by
    refine Bool.eq_false_iff.mpr fun hc => ?_
    obtain hlt | rfl := hp hc
    · omega
    · rw [hascii] at hc
      cases hc
  refine ⟨hplain rfl isPlain_of_isBlank, hplain rfl isPlain_of_isLetter,
    hplain rfl isPlain_of_isDigit, ?_⟩
  rintro rfl
  exact absurd h (by decide)

/-- Two attempts come to the same: they give the same answer, and leave the same scan state behind
and the same hook. If there is no trace, not even the journals are different. -/
def SameAttempt (setting : Setting) (first second : Wanted) (s : Scanner) : Prop :=
  ∃ found state journal journal',
    Rule.accept setting first s = .ok found { s with state := state, journal := journal } ∧
    Rule.accept setting second s = .ok found { s with state := state, journal := journal' } ∧
    (setting.tracing = false → journal' = journal)

/-- Without a trace nothing is noted. -/
theorem Journal.noted_of_untraced {setting : Setting} (h : setting.tracing = false) (j : Journal)
    (e : Entry) : j.noted setting e = j := by
  rw [noted, h, if_neg Bool.false_ne_true]

/-- An attempt whose matcher ends, with what it enters in the journal. -/
theorem Rule.accept_of_dispatch {setting : Setting} {target : Target} {s : Scanner} {m : Match}
    {state : ScanState} (hcursor : setting.Writes s.state.line s.state.cursor)
    (h : Scan.dispatch target s.state = .ok m state) (hplace : setting.Writes state.line m.place) :
    accept setting (.target target) s = .ok m.isHit
      { s with
        state := state.settle target m
        journal := (s.journal.noted setting (.attempt target s.state.line s.state.cursor)).noted
          setting (.outcome m) } := by
  have haccept : accept setting (.target target) s = acceptTarget setting target s := rfl
  rw [haccept, acceptTarget, onBench, Bench.attempt_of_ok hcursor h hplace]

/-- Attempts whose matchers do the same come to the same, if they settle the state in the same
way. -/
theorem sameAttempt_of_dispatch {setting : Setting} {first second : Target} {s : Scanner}
    {m : Match} {state : ScanState} (hcursor : setting.Writes s.state.line s.state.cursor)
    (hfirst : Scan.dispatch first s.state = .ok m state)
    (hsecond : Scan.dispatch second s.state = .ok m state)
    (hplace : setting.Writes state.line m.place)
    (hsettle : state.settle second m = state.settle first m) :
    SameAttempt setting (.target first) (.target second) s := by
  have hanswer := Rule.accept_of_dispatch hcursor hsecond hplace
  rw [hsettle] at hanswer
  refine ⟨_, _, _, _, Rule.accept_of_dispatch hcursor hfirst hplace, hanswer,
    fun huntraced => ?_⟩
  simp only [Journal.noted_of_untraced huntraced]

/-- Where the attempt at a character ends can be written. -/
theorem Stands.writes_char {line text : Line} {s : Scanner} (hs : Stands line text s) (c : Char) :
    line.Writes (Match.place (if text.ahead.headD Line.nul = c then
      .hit (if c = Line.nul then line.place text.ahead else line.place text.ahead + 1) .none
      else .miss (line.place text.ahead))) := by
  have hplace := Line.writes_place hs.ahead_suffix
  split
  · by_cases hnul : c = Line.nul
    · rw [if_pos hnul]
      exact hplace
    · rw [if_neg hnul]
      exact Line.writes_column hs.ahead_suffix
  · exact hplace

/-- A mark is looked for in the same way as a character and as a literal, anywhere in a line. -/
theorem sameAttempt_of_isMark (setting : Setting) {s : Scanner} {c : Char} (hmark : Text.IsMark c)
    (hfrom : 0 ≤ s.state.cursor) (hto : s.state.cursor ≤ s.state.line.length) :
    SameAttempt setting (.target (.char c)) (.target (.literal [c])) s := by
  have hs := s.stands_rest hfrom hto
  have hchar := hs.dispatch_char hmark.not_blank
  have hliteral := hs.dispatch_literal hmark.not_blank hmark.not_nul hmark.not_letter
    hmark.not_digit
  refine sameAttempt_of_dispatch (hs.writes_cursor setting) hchar (hliteral.trans hchar)
    ((hs.writes_char c).inTrace setting) ?_
  -- neither of the two targets is a terminal, so the value stays
  split <;> rfl

/-! ## Characters that are no marks -/

variable (setting : Setting) {line : Line} {c : Char} (s : Scanner)

/-- The two ways are told apart by a scanner that takes the character and misses the literal. -/
theorem not_sameAttempt {s : Scanner}
    (hchar : ∃ t, Rule.acceptTarget setting (.char c) s = .ok true t)
    (hliteral : ∃ t, Rule.acceptTarget setting (.literal [c]) s = .ok false t) :
    ¬ SameAttempt setting (.target (.char c)) (.target (.literal [c])) s := by
  rintro ⟨found, state, journal, journal', hfirst, hsecond, -⟩
  obtain ⟨t, ht⟩ := hchar
  obtain ⟨u, hu⟩ := hliteral
  have hyes : true = found := (EStateM.Result.ok.inj (ht.symm.trans hfirst)).1
  have hno : false = found := (EStateM.Result.ok.inj (hu.symm.trans hsecond)).1
  exact Bool.false_ne_true (hno.trans hyes.symm)

/-- At the start of a line that does not hold it, the literal is missed. -/
theorem literal_missed (hline : line ≠ []) (h : ¬ ∃ gap rest, Line.Holds [c] line gap rest) :
    ∃ t, Rule.acceptTarget setting (.literal [c]) (s.startLine line) = .ok false t := by
  obtain ⟨t, ht, -⟩ := accept_literal_of_not_holds setting (Grammar.stands_startLine s line)
    (List.cons_ne_nil c []) hline h
  exact ⟨t, ht⟩

/-- At the start of a line that comes to it, a character that is no blank is taken. -/
theorem char_taken (hblank : Text.isBlank c = false) (hnext : line.ahead.headD Line.nul = c) :
    ∃ t, Rule.acceptTarget setting (.char c) (s.startLine line) = .ok true t := by
  have hs := Grammar.stands_startLine s line
  have hdispatch := hs.dispatch_char hblank
  have hplace := hs.writes_char c
  rw [if_pos hnext] at hdispatch hplace
  obtain ⟨journal, h⟩ := hs.acceptTarget_of_ok setting hdispatch rfl hplace
  exact ⟨_, h⟩

/-- The character of the end is taken where the line has ended, which the literal is not. -/
theorem not_sameAttempt_nul :
    ¬ SameAttempt setting (.target (.char Line.nul)) (.target (.literal [Line.nul]))
      (s.startLine []) :=
  not_sameAttempt setting (char_taken setting s (by decide) rfl)
    (accept_literal_at_end setting (Grammar.stands_startLine s []) rfl [Line.nul])

/-- A letter or a digit is taken although the next one goes on with it, which the literal is
not. -/
theorem not_sameAttempt_of_word (h : Text.isLetterOrDigit c = true) :
    ¬ SameAttempt setting (.target (.char c)) (.target (.literal [c])) (s.startLine [c, c]) := by
  have hblank : Text.isBlank c = false := by
    refine Grammar.isBlank_of_isIdentChar ?_
    rw [Text.isIdentChar, ← Text.isLetterOrDigit, h, Bool.true_or]
  have hahead : Line.ahead [c, c] = [c, c] := by
    rw [Line.ahead, List.dropWhile_cons_of_neg (by simp [hblank])]
  refine not_sameAttempt setting (char_taken setting s hblank (by rw [hahead]; rfl))
    (literal_missed setting s (List.cons_ne_nil c [c]) ?_)
  rintro ⟨gap, rest, hholds⟩
  have hrest : [c] = rest := by
    have hcompared := hholds.compared_eq (List.cons_ne_nil c [])
    rw [Line.compared, List.head?_cons, Option.any_some, hblank, if_neg Bool.false_ne_true,
      hahead] at hcompared
    exact (List.cons.inj hcompared).2
  subst hrest
  obtain hletter | hdigit := Bool.or_eq_true_iff.mp h
  · have hnext := hholds.after_letter c rfl hletter c rfl
    rw [h] at hnext
    cases hnext
  · have hnext := hholds.after_digit c rfl hdigit c rfl
    rw [hdigit] at hnext
    cases hnext

/-- A blank is taken where another one stands, which the literal is not. -/
theorem not_sameAttempt_of_blank {d : Char} (hblank : Text.isBlank c = true)
    (hother : Text.isBlank d = true) (hne : d ≠ c) :
    ¬ SameAttempt setting (.target (.char c)) (.target (.literal [c])) (s.startLine [d]) := by
  have hpeek : Line.peek [d] 0 = d := rfl
  have hdispatch : Scan.dispatch (.char c) (s.startLine [d]).state =
      .ok (.hit 1 .none) { (s.startLine [d]).state with matchStart := 0 } := by
    simp only [Scan.dispatch, Scan.char, Scanner.startLine, ScanState.start, bind_apply, get_apply,
      hpeek, hblank, hother, Bool.and_self, if_true, modify_apply, pure_apply]
    rfl
  have hplace : Line.Writes [d] 1 := Line.writes_of_within (by decide) (by simp)
  obtain ⟨journal, hchar⟩ := (Grammar.stands_startLine s [d]).acceptTarget_of_ok setting
    hdispatch rfl hplace
  refine not_sameAttempt setting ⟨_, hchar⟩
    (literal_missed setting s (List.cons_ne_nil d []) ?_)
  rintro ⟨gap, rest, hholds⟩
  have hsplit := hholds.split
  rw [hholds.tight c rfl hblank, List.nil_append] at hsplit
  exact hne (List.cons.inj hsplit).1

/-- Looking for a character and looking for the literal of it come to the same, anywhere in any
line, just when the character is a mark. -/
theorem sameAttempt_iff_isMark (setting : Setting) (c : Char) :
    (∀ s : Scanner, 0 ≤ s.state.cursor → s.state.cursor ≤ s.state.line.length →
      SameAttempt setting (.target (.char c)) (.target (.literal [c])) s) ↔ Text.IsMark c := by
  constructor
  · intro h
    let s : Scanner := {}
    have hbefore (line : Line) := h (s.startLine line) (Int.le_refl 0) (Int.natCast_nonneg _)
    have hword : Text.isLetterOrDigit c = false :=
      Bool.eq_false_iff.mpr fun hword => not_sameAttempt_of_word setting s hword (hbefore _)
    obtain ⟨hletter, hdigit⟩ := Bool.or_eq_false_iff.mp hword
    refine ⟨Bool.eq_false_iff.mpr fun hblank => ?_, hletter, hdigit, ?_⟩
    · -- a tab is another blank than a space, and a space another one than all the others
      by_cases hspace : c = ' '
      · exact not_sameAttempt_of_blank setting s (d := '\t') hblank (by decide) (hspace ▸ by decide)
          (hbefore _)
      · exact not_sameAttempt_of_blank setting s (d := ' ') hblank (by decide) (Ne.symm hspace)
          (hbefore _)
    · rintro rfl
      exact not_sameAttempt_nul setting s (hbefore _)
  · intro hmark s hfrom hto
    exact sameAttempt_of_isMark setting hmark hfrom hto

end LineScan
