import LineScan.Proofs.Literals
import LineScan.Scan.Composite
import LineScan.Session.Stock

/-!
# Where the text of a match starts

A matcher says in `matchStart` where it looked for its text, and the text of a match is taken from
there to where the match ended. A terminal does the same before its function runs, past the blanks;
but if the function calls matchers itself, each of them says where *it* looked, and the last one has
the last word. So the text of the terminal starts where the last matcher looked.

## Main statements

* `Composite.run_comes`: a composite function does what its survey of the line says, and leaves the
  place of the last matcher in the state.
* `matched_from_last_place`: the text that a terminal with such a function has matched.
-/

namespace LineScan

namespace Scan

/-- A character is looked for on the line alone, but for where that was. -/
theorem char_apply (wanted : Char) (pos : Int) (s : ScanState) :
    char wanted pos s =
      match s.line.seekChar wanted pos with
      | .ok (p, m) => .ok m { s with matchStart := p }
      | .error cause => .error (.fault (.ofLine cause)) s := by
  unfold char Line.seekChar
  simp only [bind_apply, get_apply, cond_apply, modify_apply, pure_apply, Scan.skipBlanks]
  split
  · rfl
  · cases s.line.skipBlanks pos with
    | error cause => rfl
    | ok p =>
      simp only [pure_apply, Except.bind, bind]
      split
      · next h => rw [beq_iff_eq.mp h]
      · rfl

/-- So is a literal, but a place is said even before blanks are skipped. -/
theorem literal_apply (wanted : Line) (pos : Int) (s : ScanState) :
    literal wanted pos s =
      match s.line.seekLiteral wanted pos with
      | .ok (p, m) => .ok m { s with matchStart := p }
      | .error cause => .error (.fault (.ofLine cause)) { s with matchStart := pos } := by
  cases wanted with
  | nil => rfl
  | cons first others =>
    unfold literal Line.seekLiteral
    simp only [bind_apply, get_apply, cond_apply, modify_apply, pure_apply, Scan.skipBlanks]
    split
    · rfl
    · cases Text.isBlank first with
      | true =>
        simp only [if_true, Except.bind, bind]
        split
        · rfl
        · split <;> rfl
      | false =>
        cases s.line.skipBlanks pos with
        | error cause => rfl
        | ok p =>
          simp only [Bool.false_eq_true, if_false, pure_apply, Except.bind, bind]
          split
          · rfl
          · split <;> rfl

/-- A terminal is scanned for by its function, past the blanks. -/
theorem terminal_apply (t : Terminal) (pos : Int) (s : ScanState) :
    terminal t pos s =
      match s.line.skipBlanks pos with
      | .ok p =>
        match t.scan p (s.cleared p) with
        | .ok reading after => .ok (reading.asMatch p) after
        | .error e after => .error e after
      | .error cause => .error (.fault (.ofLine cause)) s := by
  unfold terminal
  simp only [bind_apply, get_apply, modify_apply, Scan.skipBlanks]
  cases s.line.skipBlanks pos with
  | error cause => rfl
  | ok p =>
    simp only [pure_apply, ScanState.cleared]
    cases t.scan p _ with
    | error e after => rfl
    | ok reading after => cases reading <;> rfl

end Scan

namespace Composite

/-- The place at which the last matcher looked, if any was called after `start`. -/
def lastPlace (places : List Int) (start : Int) : Int := places.getLastD start

/-- A place that is looked at first counts only if no other one is. -/
theorem lastPlace_cons (p start : Int) (places : List Int) :
    lastPlace (p :: places) start = lastPlace places p := by
  cases places <;> rfl

/-- The last of two lists of places counts, from where the first one ended. -/
theorem lastPlace_append (before after : List Int) (start : Int) :
    lastPlace (before ++ after) start = lastPlace after (lastPlace before start) := by
  induction before generalizing start with
  | nil => rfl
  | cons p before ih => rw [List.cons_append, lastPlace_cons, lastPlace_cons, ih]

/-- What a function comes to that was started on a line, with `start` as the place that was looked
at last: it goes by its survey of the line, and if it reports anything, then the place at which the
last matcher looked stands in the state. -/
inductive Comes (line : Line) (start : Int) :
    Except Misplaced (List Int × Reading) → EStateM.Result Abort ScanState Reading → Prop where
  | ok {places : List Int} {r : Reading} {after : ScanState} (line_eq : after.line = line)
      (matchStart_eq : after.matchStart = lastPlace places start) :
      Comes line start (.ok (places, r)) (.ok r after)
  | error {cause : Misplaced} {after : ScanState} :
      Comes line start (.error cause) (.error (.fault (.ofLine cause)) after)

/-- After a matcher, the place at which it looked comes before those of the matchers after it. -/
theorem Comes.after {line : Line} {start : Int} (before : List Int)
    {survey : Except Misplaced (List Int × Reading)}
    {result : EStateM.Result Abort ScanState Reading}
    (h : Comes line (lastPlace before start) survey result) :
    Comes line start (survey.map fun (places, r) => (before ++ places, r)) result := by
  cases h with
  | ok line_eq matchStart_eq => exact .ok line_eq (matchStart_eq.trans (lastPlace_append ..).symm)
  | error => exact .error

/-- A composite function does what its survey says. -/
theorem run_comes (c : Composite) (s : ScanState) :
    Comes s.line s.matchStart (c.survey s.line) (c.run s) := by
  induction c generalizing s with
  | report reading => exact .ok rfl rfl
  | look next ih => exact ih s.line s
  | skipBlanks pos next ih =>
    simp only [run, survey, bind_apply, Scan.skipBlanks, get_apply]
    cases s.line.skipBlanks pos with
    | error cause => exact .error
    | ok p => exact ih p s
  | char wanted pos next ih =>
    simp only [run, survey, bind_apply, Scan.char_apply]
    cases s.line.seekChar wanted pos with
    | error cause => exact .error
    | ok sought => exact .after [sought.1] (ih sought.2 { s with matchStart := sought.1 })
  | literal wanted pos next ih =>
    simp only [run, survey, bind_apply, Scan.literal_apply]
    cases s.line.seekLiteral wanted pos with
    | error cause => exact .error
    | ok sought => exact .after [sought.1] (ih sought.2 { s with matchStart := sought.1 })
  | terminal inner pos next ihInner ih =>
    simp only [run, survey, bind_apply, Scan.terminal_apply]
    cases s.line.skipBlanks pos with
    | error cause => exact .error
    | ok p =>
      have hinner := ihInner p (s.cleared p)
      rw [ScanState.cleared_line] at hinner
      dsimp only
      -- the inner function starts with the place of its own terminal
      generalize (inner p).survey s.line = surveyed, (inner p).run (s.cleared p) = ran at hinner ⊢
      cases hinner with
      | error => exact .error
      | @ok within r after line_eq matchStart_eq =>
        have hnext := ih (r.asMatch p) after
        rw [line_eq, matchStart_eq] at hnext
        exact .after (p :: within) ((lastPlace_cons p s.matchStart within).symm ▸ hnext)
  | detail text next ih => exact ih { s with pendingDetail := some text }

end Composite

/-! ## The text of a terminal -/

open Composite

/-- What a terminal has matched whose function is a composite one. The cursor is where the function
said; but the matched text, and with it its length, starts at the place at which the last matcher
looked that the function has called, and only past the blanks if it has called none. So it is the
text from there to the cursor just if that place is the one past the blanks. All this is so unless a
trace is to be made and cannot write where the function said that it stopped, as it can on the
line. -/
theorem matched_from_last_place (setting : Setting) {t : Terminal} {function : Int → Composite}
    (hfunction : ∀ pos, t.scan pos = (function pos).run) {s : Scanner} {p stop : Int}
    {value : Datum} {after : ScanState} (hfrom : 0 ≤ s.state.cursor)
    (hto : s.state.cursor ≤ s.state.line.length) (hp : s.state.line.FirstFrom s.state.cursor p)
    (hhit : t.scan p (s.state.cleared p) = .ok (.hit stop value) after) :
    ∃ places, (function p).survey s.state.line = .ok (places, .hit stop value) ∧
      (setting.Writes s.state.line stop →
        ∃ s', Rule.accept setting (.target (.terminal t)) s = .ok true s' ∧
          s'.state.cursor = stop ∧
          s'.state.matched = s.state.line.slice (lastPlace places p) stop ∧
          s'.state.matchLength = stop - lastPlace places p ∧
          (s'.state.matched = s.state.line.slice p stop ∧ s'.state.matchLength = stop - p ↔
            lastPlace places p = p)) ∧
      (¬ setting.Writes s.state.line stop →
        ∃ s', Rule.accept setting (.target (.terminal t)) s =
          .error (.fault (.oversize .writing)) s') := by
  have hs := s.stands_rest hfrom hto
  have hplace : s.state.line.place s.state.rest.ahead = p := by
    have hfirst := Line.firstFrom_ahead hs.suffix
    have hcursor : s.state.cursor = s.state.line.place s.state.rest := hs.cursor_eq
    rw [← hcursor] at hfirst
    exact hfirst.unique hp
  -- the function reports what its survey says
  have hcomes := (function p).run_comes (s.state.cleared p)
  rw [← hfunction, hhit, ScanState.cleared_line] at hcomes
  generalize hsurvey : (function p).survey s.state.line = survey at hcomes
  cases hcomes with
  | @ok places _ _ line_eq matchStart_eq =>
    have hdispatch := hs.dispatch_terminal t
    rw [hplace] at hdispatch
    have hstate : ({ s with hook := none } : Scanner).state = s.state := rfl
    rw [hstate, hhit] at hdispatch
    have hcursor := hs.writes_cursor setting
    refine ⟨places, rfl, fun hwrites => ?_, fun hwrites => ?_⟩
    case refine_2 =>
      rw [← line_eq] at hwrites
      obtain ⟨journal, hj⟩ := Rule.acceptTarget_of_not_writes (s := s) hcursor hdispatch hwrites
      exact ⟨_, hj⟩
    rw [← line_eq] at hwrites
    obtain ⟨journal, hj⟩ := Rule.acceptTarget_of_ok (s := s) hcursor hdispatch hwrites
    have hstart : after.matchStart = lastPlace places p := matchStart_eq
    have hmatched : after.line.slice after.matchStart
        (after.matchStart + (stop - after.matchStart)) =
          s.state.line.slice (lastPlace places p) stop := by
      rw [line_eq, hstart, ← Int.add_sub_assoc, Int.add_comm, Int.add_sub_cancel]
    have hlength : stop - after.matchStart = stop - lastPlace places p := by rw [hstart]
    refine ⟨_, hj, rfl, hmatched, hlength, fun h => ?_, fun h => ?_⟩
    · have hsame : stop - after.matchStart = stop - p := h.2
      omega
    · exact ⟨h ▸ hmatched, h ▸ hlength⟩

namespace Session

/-- The function for a pair of parentheses, as a composite one. -/
def pair (pos : Int) : Composite :=
  .char '(' pos fun
    | .miss place => .report (.miss (some place))
    | .hit stop _ => .char ')' stop fun
      | .miss place => .detail "unclosed" (.report (.miss (some place)))
      | .hit stop _ => .report (.hit stop (.text "pair"))

/-- The function for a pair of parentheses is composed of the two public matchers. -/
theorem scanPair_eq_run (pos : Int) : scanPair pos = (pair pos).run := by
  funext s
  simp only [scanPair, pair, run, bind_apply]
  obtain ⟨_ | _, s'⟩ | ⟨e, s'⟩ := Scan.char '(' pos s
  · simp only [run, bind_apply]
    rename_i stop _
    obtain ⟨_ | _, s''⟩ | ⟨e, s''⟩ := Scan.char ')' stop s' <;> rfl
  all_goals rfl

/-- The terminal for a pair of parentheses. -/
def pairTerminal : Terminal := ⟨0, "pair", scanPair, "", none⟩

/-- In ` ( )` the matcher of the closing parenthesis looked last, past the blank before it. -/
theorem matched_from_last_place_pair :
    let s : Scanner := { state := .start " ( )".toList }
    s.state.line.FirstFrom 0 1 ∧
    (∃ after, pairTerminal.scan 1 (s.state.cleared 1) = .ok (.hit 4 (.text "pair")) after) ∧
    ∃ s', Rule.accept { registry := {} } (.target (.terminal pairTerminal)) s = .ok true s' ∧
      s'.state.cursor = 4 ∧ s'.state.matched = ")".toList ∧ s'.state.matchLength = 1 := by
  intro s
  have hfirst : s.state.line.FirstFrom s.state.cursor 1 := by
    have hahead := Line.firstFrom_ahead (List.suffix_refl " ( )".toList)
    exact hahead
  obtain ⟨after, hhit⟩ : ∃ after, pairTerminal.scan 1 (s.state.cleared 1) =
      .ok (.hit 4 (.text "pair")) after := ⟨_, rfl⟩
  obtain ⟨places, hsurvey, hwritten, -⟩ :=
    matched_from_last_place { registry := {} } scanPair_eq_run (by decide) (by decide) hfirst hhit
  obtain ⟨s', hs', hcursor, hmatched, hlength, -⟩ := hwritten (by decide)
  have hplaces : (pair 1).survey " ( )".toList = .ok ([1, 3], .hit 4 (.text "pair")) := rfl
  cases hplaces.symm.trans hsurvey
  exact ⟨hfirst, ⟨after, hhit⟩, s', hs', hcursor, hmatched, hlength⟩

/-- In `()` a pair is matched that begins at the cursor and ends at the end of the line, and yet
the matched text is only the closing parenthesis. -/
theorem matched_of_pair :
    let s : Scanner := { state := .start "()".toList }
    let r := Rule.accept { registry := {} } (.target (.terminal pairTerminal)) s
    s.state.line.FirstFrom s.state.cursor 0 ∧
    (Result.answer r).toOption = some true ∧ (Result.state r).state.cursor = 2 ∧
    (Result.state r).state.matched = ")".toList ∧
    (Result.state r).state.matched ≠ s.state.line.slice 0 2 ∧
    (Result.state r).state.matchLength ≠ 2 - 0 := by
  intro s r
  refine ⟨Line.firstFrom_ahead (List.suffix_refl "()".toList), ?_⟩
  decide +kernel

end Session

end LineScan
